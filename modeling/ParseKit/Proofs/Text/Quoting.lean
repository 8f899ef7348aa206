import ParseKit.Text.Quoted
import Mathlib.Data.List.Basic
import Mathlib.Tactic.IntervalCases

/-!
# Quoted texts are read back

A quoted text is on one line and holds nothing that cannot be shown
(`isPrintable_of_mem_quoteChars`), and nothing of the text is lost in it:
`unescaped` takes the escapes back, whichever mark the quotes were written
with (`unescaped_flatMap_quoteChar`).

Where a quoted text ends a line, its first mark is found from behind. Within
the quotes the mark stands after a backslash only, so the first one from
behind that does not is where the quotes open (`openingBack_quoted`), and the text
within is read back from there (`readQuoted_quote`).
-/

namespace ParseKit.Text

/-! ## Digits of numeric escapes -/

/-- The digits of hexadecimal numbers. -/
def hexAlphabet : List Char :=
  ['0', '1', '2', '3', '4', '5', '6', '7', '8', '9', 'a', 'b', 'c', 'd', 'e', 'f']

/-- The number that a hexadecimal digit stands for. -/
def hexValue (c : Char) : Nat := hexAlphabet.idxOf c

/-- The number that hexadecimal digits spell. -/
def readHex (ds : List Char) : Nat := ds.foldl (fun n c => n * 16 + hexValue c) 0

theorem hexDigit_mem {n : Nat} (h : n < 16) :
    hexDigit n ∈ hexAlphabet ∧ hexValue (hexDigit n) = n := by
  interval_cases n <;> decide

theorem length_hexDigits (width n : Nat) : (hexDigits width n).length = width := by
  induction width generalizing n with
  | zero => rfl
  | succ width ih => rw [hexDigits, List.length_append, ih, List.length_singleton]

theorem mem_hexDigits {width n : Nat} {c : Char} (h : c ∈ hexDigits width n) : c ∈ hexAlphabet := by
  induction width generalizing n with
  | zero => cases h
  | succ width ih =>
    rw [hexDigits, List.mem_append, List.mem_singleton] at h
    rcases h with h | rfl
    · exact ih h
    · exact (hexDigit_mem (Nat.mod_lt n (by decide))).1

/-- As many digits as a number needs spell it. -/
theorem readHex_hexDigits {width n : Nat} (h : n < 16 ^ width) :
    readHex (hexDigits width n) = n := by
  induction width generalizing n with
  | zero =>
    obtain rfl : n = 0 := Nat.lt_one_iff.mp h
    rfl
  | succ width ih =>
    have hread := ih (n := n / 16) (Nat.div_lt_of_lt_mul (by rwa [Nat.pow_succ'] at h))
    have hlast := (hexDigit_mem (Nat.mod_lt n (by decide : 0 < 16))).2
    unfold readHex at hread ⊢
    rw [hexDigits, List.foldl_append, hread, List.foldl_cons, List.foldl_nil, hlast]
    omega

/-! ## One character within quotes -/

/-- The characters that quotes are written with. -/
def quoteMarks : List Char := ['\'', '"']

theorem quoteMark_mem (s : List Char) : quoteMark s ∈ quoteMarks := by
  unfold quoteMark
  split <;> decide

/-- How many digits a numeric escape has, by its letter. -/
def escapeWidth (c : Char) : Option Nat :=
  if c = 'x' then some 2 else if c = 'u' then some 4 else if c = 'U' then some 8 else none

/-- The character that an escape with a letter stands for, if it is not numeric. -/
def plainEscape (c : Char) : Char :=
  if c = 'n' then '\n' else if c = 'r' then '\r' else if c = 't' then '\t' else c

/-- **The first character of a text within quotes**, and what follows it. -/
def unescape? : List Char → Option (Char × List Char)
  | [] => none
  | c :: rest =>
    if c = '\\' then
      match rest with
      | [] => none
      | letter :: rest =>
        match escapeWidth letter with
        | some width => some (Char.ofNat (readHex (rest.take width)), rest.drop width)
        | none => some (plainEscape letter, rest)
    else some (c, rest)

/-- **A text within quotes with its escapes taken back**; `fuel` is any bound on
the number of its characters. -/
def unescaped : (fuel : Nat) → List Char → List Char
  | 0, _ => []
  | fuel + 1, cs =>
    match unescape? cs with
    | some (c, rest) => c :: unescaped fuel rest
    | none => []

theorem unescape?_plain {letter : Char} (h : escapeWidth letter = none) (rest : List Char) :
    unescape? ('\\' :: letter :: rest) = some (plainEscape letter, rest) := by
  simp [unescape?, h]

theorem unescape?_numeric (letter : Char) {width n : Nat} (h : escapeWidth letter = some width)
    (hn : n < 16 ^ width) (rest : List Char) :
    unescape? ('\\' :: letter :: (hexDigits width n ++ rest)) = some (Char.ofNat n, rest) := by
  have hlength := length_hexDigits width n
  simp only [unescape?, h, ↓reduceIte]
  rw [List.take_left' hlength, List.drop_left' hlength, readHex_hexDigits hn]

/-- **An escape is taken back.** -/
theorem unescape?_quoteChar {mark : Char} (hmark : mark ∈ quoteMarks) (c : Char)
    (rest : List Char) : unescape? (quoteChar mark c ++ rest) = some (c, rest) := by
  unfold quoteChar
  split_ifs with hself hfeed hreturn htab hprintable
  · -- a mark or a backslash stands for itself after a backslash
    simp only [Bool.or_eq_true, beq_iff_eq] at hself
    rcases hself with rfl | rfl
    · rcases List.mem_pair.mp hmark with rfl | rfl <;> exact unescape?_plain rfl rest
    · exact unescape?_plain rfl rest
  · rw [beq_iff_eq.mp hfeed]
    exact unescape?_plain rfl rest
  · rw [beq_iff_eq.mp hreturn]
    exact unescape?_plain rfl rest
  · rw [beq_iff_eq.mp htab]
    exact unescape?_plain rfl rest
  · have hne : c ≠ '\\' := fun h => hself (by simp [h])
    simp [unescape?, hne]
  · unfold numericEscape
    split_ifs with hsmall hmiddle
    · simpa using unescape?_numeric 'x' rfl hsmall rest
    · simpa using unescape?_numeric 'u' rfl hmiddle rest
    · have hvalid : c.toNat < 16 ^ 8 := c.val.toNat_lt
      simpa using unescape?_numeric 'U' rfl hvalid rest

/-- An escape has a character. -/
theorem quoteChar_ne_nil (mark c : Char) : quoteChar mark c ≠ [] := by
  unfold quoteChar numericEscape
  split_ifs <;> exact List.cons_ne_nil _ _

/-- **A text within quotes is read back**, whichever mark they are written with. -/
theorem unescaped_flatMap_quoteChar {mark : Char} (hmark : mark ∈ quoteMarks) (s : List Char)
    {fuel : Nat} (hfuel : s.length ≤ fuel) :
    unescaped fuel (s.flatMap (quoteChar mark)) = s := by
  induction s generalizing fuel with
  | nil =>
    cases fuel with
    | zero => rfl
    | succ fuel => rfl
  | cons c rest ih =>
    obtain ⟨fuel, rfl⟩ := Nat.exists_eq_add_one.mpr (Nat.lt_of_lt_of_le (Nat.succ_pos _) hfuel)
    rw [List.flatMap_cons, unescaped, unescape?_quoteChar hmark]
    exact congrArg (c :: ·) (ih (Nat.le_of_succ_le_succ hfuel))

theorem length_le_flatMap_quoteChar (mark : Char) (s : List Char) :
    s.length ≤ (s.flatMap (quoteChar mark)).length := by
  induction s with
  | nil => exact Nat.le_refl 0
  | cons c rest ih =>
    have hpos := List.length_pos_iff.mpr (quoteChar_ne_nil mark c)
    rw [List.flatMap_cons, List.length_append, List.length_cons]
    omega

/-! ## The characters of a quoted text -/

/-- The characters that escapes are written with. -/
def escapeAlphabet : List Char := '\\' :: 'n' :: 'r' :: 't' :: 'x' :: 'u' :: 'U' :: hexAlphabet

theorem isPrintable_escapeAlphabet : ∀ c ∈ escapeAlphabet, isPrintable c.toNat = true :=
  List.all_eq_true.mp rfl

theorem isPrintable_quoteMarks : ∀ c ∈ quoteMarks, isPrintable c.toNat = true :=
  List.all_eq_true.mp rfl

theorem numericEscape_mem (n : Nat) : ∀ d ∈ numericEscape n, d ∈ escapeAlphabet := by
  have hdigits : ∀ {width}, ∀ d ∈ hexDigits width n, d ∈ escapeAlphabet := fun d hd =>
    List.mem_append_right ['\\', 'n', 'r', 't', 'x', 'u', 'U'] (mem_hexDigits hd)
  unfold numericEscape
  split_ifs <;> exact List.forall_mem_cons.mpr
    ⟨by decide, List.forall_mem_cons.mpr ⟨by decide, hdigits⟩⟩

/-- **What a character becomes within quotes**: the mark after a backslash, or
nothing but other characters that can be shown. -/
theorem quoteChar_cases (mark c : Char) :
    quoteChar mark c = ['\\', mark]
      ∨ ∀ d ∈ quoteChar mark c, d ∈ escapeAlphabet ∨ isPrintable d.toNat = true ∧ d ≠ mark := by
  have hwritten : ∀ {letter}, letter ∈ escapeAlphabet →
      ∀ d ∈ ['\\', letter], d ∈ escapeAlphabet := by
    intro letter hletter d hd
    rcases List.mem_pair.mp hd with rfl | rfl
    · exact List.mem_cons_self
    · exact hletter
  unfold quoteChar
  split_ifs with hself hfeed hreturn htab hprintable
  · simp only [Bool.or_eq_true, beq_iff_eq] at hself
    rcases hself with rfl | rfl
    · exact .inl rfl
    · exact .inr fun d hd => .inl (hwritten (by decide) d hd)
  · exact .inr fun d hd => .inl (hwritten (by decide) d hd)
  · exact .inr fun d hd => .inl (hwritten (by decide) d hd)
  · exact .inr fun d hd => .inl (hwritten (by decide) d hd)
  · refine .inr fun d hd => .inr ?_
    obtain rfl := List.mem_singleton.mp hd
    exact ⟨hprintable, fun h => hself (by simp [h])⟩
  · exact .inr fun d hd => .inl (numericEscape_mem _ d hd)

/-- **Every character of a quoted text can be shown.** -/
theorem isPrintable_of_mem_quoteChars {s : List Char} {d : Char} (h : d ∈ quoteChars s) :
    isPrintable d.toNat = true := by
  have hmark := isPrintable_quoteMarks _ (quoteMark_mem s)
  rw [quoteChars, List.cons_append, List.mem_cons, List.mem_append, List.mem_singleton,
    List.mem_flatMap] at h
  rcases h with rfl | ⟨c, -, hd⟩ | rfl
  · exact hmark
  · rcases quoteChar_cases (quoteMark s) c with hcode | hcode
    · rw [hcode] at hd
      rcases List.mem_pair.mp hd with rfl | rfl
      · rfl
      · exact hmark
    · rcases hcode d hd with hescape | ⟨hshown, -⟩
      · exact isPrintable_escapeAlphabet d hescape
      · exact hshown
  · exact hmark

/-! ## Where quotes open -/

/-- **How far before the end of a text its quotes open**, from the characters
before the closing mark, the last of them first. -/
def openingBack (mark : Char) : List Char → Nat
  | [] => 0
  | c :: rest => if c = mark ∧ rest.head? ≠ some '\\' then 0 else openingBack mark rest + 1

theorem openingBack_of_not_mem {mark : Char} {code : List Char} (h : mark ∉ code)
    (rest : List Char) : openingBack mark (code ++ rest) = code.length + openingBack mark rest := by
  induction code with
  | nil => exact (Nat.zero_add _).symm
  | cons c code ih =>
    rw [List.mem_cons, not_or] at h
    rw [List.cons_append, openingBack, if_neg fun hc => h.1 hc.1.symm, ih h.2, List.length_cons]
    omega

theorem not_mem_escapeAlphabet_of_mem_quoteMarks {mark : Char} (h : mark ∈ quoteMarks) :
    mark ∉ escapeAlphabet := by
  rcases List.mem_pair.mp h with rfl | rfl <;> decide

theorem openingBack_quoteChar {mark : Char} (hmark : mark ∈ quoteMarks) (c : Char)
    (rest : List Char) :
    openingBack mark ((quoteChar mark c).reverse ++ rest)
      = (quoteChar mark c).length + openingBack mark rest := by
  have hother := not_mem_escapeAlphabet_of_mem_quoteMarks hmark
  rcases quoteChar_cases mark c with hcode | hcode
  · have hbackslash : '\\' ≠ mark := fun h => hother (h ▸ List.mem_cons_self)
    rw [hcode]
    simp only [List.reverse_cons, List.reverse_nil, List.nil_append, List.cons_append, openingBack,
      List.head?_cons, ne_eq, not_true, and_false, hbackslash, false_and, ite_false,
      List.length_cons, List.length_nil]
    omega
  · have hnot : mark ∉ (quoteChar mark c).reverse := fun hmem => by
      rcases hcode mark (List.mem_reverse.mp hmem) with hescape | ⟨-, hne⟩
      · exact hother hescape
      · exact hne rfl
    rw [openingBack_of_not_mem hnot, List.length_reverse]

/-- Escapes are passed one after the other, those further on first. -/
theorem openingBack_flatMap_quoteChar {mark : Char} (hmark : mark ∈ quoteMarks) (s : List Char)
    (rest : List Char) :
    openingBack mark ((s.flatMap (quoteChar mark)).reverse ++ rest)
      = (s.flatMap (quoteChar mark)).length + openingBack mark rest := by
  induction s generalizing rest with
  | nil => exact (Nat.zero_add _).symm
  | cons c s ih =>
    rw [List.flatMap_cons, List.reverse_append, List.append_assoc, ih,
      openingBack_quoteChar hmark, List.length_append]
    omega

/-- **Quotes open at the first mark from behind that stands after no backslash.** -/
theorem openingBack_quoted {mark : Char} (hmark : mark ∈ quoteMarks) (s : List Char)
    {rest : List Char} (hrest : rest.head? ≠ some '\\') :
    openingBack mark ((s.flatMap (quoteChar mark)).reverse ++ mark :: rest)
      = (s.flatMap (quoteChar mark)).length := by
  rw [openingBack_flatMap_quoteChar hmark, openingBack, if_pos ⟨rfl, hrest⟩, Nat.add_zero]

/-- **The quoted text that ends a line**, and what stands before it. The characters
of the line are given with the last of them first, and so is what stands before. -/
def readQuoted : List Char → String × List Char
  | [] => ("", [])
  | mark :: back =>
    let size := openingBack mark back
    (String.ofList (unescaped size (back.take size).reverse), back.drop (size + 1))

/-- **A quoted text is read back from the end of a line**, unless a backslash stands
before it. -/
theorem readQuoted_quote (s : String) {front : List Char} (hfront : front.head? ≠ some '\\') :
    readQuoted ((quote s).toList.reverse ++ front) = (s, front) := by
  have hmark := quoteMark_mem s.toList
  have hback : (quote s).toList.reverse ++ front = quoteMark s.toList ::
      ((s.toList.flatMap (quoteChar (quoteMark s.toList))).reverse
        ++ quoteMark s.toList :: front) := by
    simp [quote, quoteChars]
  have hsize := openingBack_quoted hmark s.toList hfront
  have hlength : (s.toList.flatMap (quoteChar (quoteMark s.toList))).reverse.length
      = (s.toList.flatMap (quoteChar (quoteMark s.toList))).length := List.length_reverse
  rw [hback]
  simp only [readQuoted, hsize]
  rw [List.take_left' hlength, List.reverse_reverse,
    unescaped_flatMap_quoteChar hmark s.toList (length_le_flatMap_quoteChar ..),
    String.ofList_toList, ← List.drop_drop, List.drop_left' hlength, List.drop_one, List.tail_cons]

end ParseKit.Text
