import ParseKit.Proofs.Lexing.FirstMatch
import ParseKit.Proofs.Regex.Shifting

/-!
# What a pattern matches at a position

All that is known about tokens rests on what one pattern matches at one
position of a text. `Pattern.matchLength_covers` is the contract: a match has
a character at least and ends within the text, and it is one of `n` characters
exactly if these are what the matcher is after (`Pattern.Covers`). For a
literal that is the literal, for a range the longest run of its characters, for
an expression the match that it reports.

An expression over bytes counts differently. Its match ends at a byte, and
there is a number of characters for it only where the byte is the end of a
character. The bytes it is tried on are those of the whole text, or, where none
are given, those of the text from the position on; `matchLength_whole_eq_rest`
says that this makes no difference to an expression that does not look before
its position.

What is taken is settled matcher by matcher (`Pattern.TakesJust`), and the contract
follows from it.
-/

namespace ParseKit

namespace Pattern

/-! ## Bytes of a text from a position on -/

/-- **The bytes of a whole text**, with the place of a position among them. -/
def ByteView.whole (text : String) (pos : Nat) : ByteView :=
  ⟨text.toUTF8, Text.byteLength (text.toList.take pos)⟩

/-- The bytes of characters, and perhaps some before them. -/
structure ByteView.Shows (v : ByteView) (rest : List Char) : Prop where
  /-- From the place of the view on there are the bytes of the characters. -/
  bytes_eq : ∃ before : ByteArray, v.bytes = before ++ Text.encode rest ∧ v.pos = before.size

theorem ByteView.whole_shows (text : String) (pos : Nat) :
    (ByteView.whole text pos).Shows (text.toList.drop pos) := by
  refine ⟨Text.encode (text.toList.take pos), ?_, (Text.size_encode _).symm⟩
  rw [← Text.encode_append, List.take_append_drop, Text.encode, String.ofList_toList]
  rfl

theorem ByteView.ofRest_shows (text : String) (pos : Nat) :
    (ByteView.ofRest text.toList.toArray pos).Shows (text.toList.drop pos) :=
  ⟨ByteArray.empty, ByteArray.empty_append.symm, rfl⟩

/-- What follows some bytes is what is left of all of them. -/
theorem leftAfter_ofBytes (before bytes : ByteArray) :
    (Subject.ofBytes bytes).LeftAfter before.size (.ofBytes (before ++ bytes)) := by
  refine ⟨ByteArray.size_append, fun i => ?_⟩
  show (if h : before.size + i < (before ++ bytes).size then _ else 0)
    = if h : i < bytes.size then _ else 0
  simp only [ByteArray.size_append, Nat.add_lt_add_iff_left]
  split
  · rename_i h
    rw [ByteArray.getElem_append_right (Nat.le_add_right ..)]
    simp
  · rfl

/-- The bytes of a view up to some byte, from its place on. -/
theorem ByteView.Shows.extract_eq {v : ByteView} {rest : List Char} (hv : v.Shows rest)
    (n : Nat) : v.bytes.extract v.pos (v.pos + n) = (Text.encode rest).extract 0 n := by
  obtain ⟨before, hbytes, hpos⟩ := hv.bytes_eq
  rw [hbytes, hpos]
  exact ByteArray.extract_append_size_add (i := 0)

/-- **An expression over bytes that does not look before its position takes the
same characters whatever bytes stand before them.** -/
theorem bytesLength_eq_of_shows {r : Regex} (hr : r.looksAhead = true) {v : ByteView}
    {rest : List Char} (hv : v.Shows rest) :
    bytesLength r v = bytesLength r ⟨Text.encode rest, 0⟩ := by
  obtain ⟨before, hbytes, hpos⟩ := hv.bytes_eq
  have hmatch := Regex.matchEnd_leftAfter (leftAfter_ofBytes before (Text.encode rest)) hr 0
  rw [← hbytes, Nat.add_zero, ← hpos] at hmatch
  unfold bytesLength
  rw [hmatch]
  cases r.matchEnd (.ofBytes (Text.encode rest)) 0 with
  | error t => rfl
  | ok found =>
    cases found with
    | none => rfl
    | some stop =>
      show Except.ok _ = Except.ok _
      dsimp only [Option.map_some]
      rw [hv.extract_eq]

/-- **To an expression over bytes that does not look before its position it makes
no difference** whether it is tried on all bytes of a text, at the place of a
position, or on the bytes from the position on alone. -/
theorem matchLength_whole_eq_rest {r : Regex} (hr : r.looksAhead = true) (label : String)
    (kind : Int) (source : ByteArray) (text : String) (pos : Nat) :
    matchLength ⟨label, kind, .bytes source r⟩ text.toList.toArray pos (some (.whole text pos))
      = matchLength ⟨label, kind, .bytes source r⟩ text.toList.toArray pos none := by
  have hwhole := bytesLength_eq_of_shows hr (ByteView.whole_shows text pos)
  have hrest := bytesLength_eq_of_shows hr (ByteView.ofRest_shows text pos)
  unfold matchLength takes
  dsimp only [Option.getD_some, Option.getD_none]
  rw [hwhole, hrest]

/-- The three bytes of a sign. -/
def euroSign : Regex := Regex.ofChars ['\xE2', '\x82', '\xAC']

/-- Two signs after a letter of two bytes: one pattern, tried among all of the
bytes as on the last of them. -/
theorem matchLength_whole_eq_rest_euros :
    (Regex.rep .greedy 1 none euroSign).looksAhead = true
      ∧ matchLength ⟨"euros", 0, .bytes "(?:€)+".toUTF8 (.rep .greedy 1 none euroSign)⟩
          "é€€x".toList.toArray 1 (some (.whole "é€€x" 1)) = .ok (some 2) := by
  refine ⟨rfl, ?_⟩
  rw [matchLength_whole_eq_rest rfl]
  decide +kernel

/-! ## What is covered by a match -/

/-- **A run of characters of a range**, as long as it can be. -/
structure IsRun (low high : Char) (cs : List Char) (n : Nat) : Prop where
  /-- There are so many characters. -/
  le_length : n ≤ cs.length
  /-- They are of the range. -/
  inside : ∀ c ∈ cs.take n, low ≤ c ∧ c ≤ high
  /-- The next one is not. -/
  maximal : ∀ c, cs[n]? = some c → ¬ (low ≤ c ∧ c ≤ high)

/-- The bytes that an expression is tried on: those given, or else those from
the position on. -/
def viewed (text : String) (pos : Nat) (view : Option ByteView) : ByteView :=
  view.getD (.ofRest text.toList.toArray pos)

/-- **The byte at which `n` characters from a position on end**, among the bytes
of the whole text if these are given, or else among those from the position on. -/
def boundary (text : String) (pos : Nat) (view : Option ByteView) (n : Nat) : Nat :=
  match view with
  | some _ => Text.byteLength (text.toList.take (pos + n))
  | none => Text.byteLength ((text.toList.drop pos).take n)

/-- **What a matcher is after at a position**, `n` characters long. -/
def Covers (m : Matcher) (text : String) (pos : Nat) (view : Option ByteView) (n : Nat) : Prop :=
  match m with
  | .literal written => (text.toList.drop pos).take n = written.toList
  | .range low high => IsRun low high (text.toList.drop pos) n
  | .text _ r => r.matchEnd (.ofChars text.toList.toArray) pos = .ok (some (pos + n))
  | .bytes _ r =>
    r.matchEnd (.ofBytes (viewed text pos view).bytes) (viewed text pos view).pos
      = .ok (some (boundary text pos view n))

/-- **A matcher reports ends within what it is tried on.** This asks something of
an expression only: that it answers at every position, which one with tangled
groups does not, and that no answer lies outside (`Regex.EndsWithin`). -/
def ReportsWithin (m : Matcher) (text : String) (pos : Nat) (view : Option ByteView) : Prop :=
  match m with
  | .text _ r => r.EndsWithin (.ofChars text.toList.toArray)
  | .bytes _ r => r.EndsWithin (.ofBytes (viewed text pos view).bytes)
  | _ => True

/-! ### Literals -/

theorem startsAt_iff {cs written : List Char} {pos : Nat} :
    startsAt cs.toArray pos written = true ↔ written <+: cs.drop pos := by
  induction written generalizing pos with
  | nil => simp [startsAt]
  | cons c rest ih =>
    rw [startsAt, Bool.and_eq_true, ih, List.getElem?_toArray, beq_iff_eq]
    cases hc : cs[pos]? with
    | none =>
      rw [List.drop_eq_nil_of_le (List.getElem?_eq_none_iff.mp hc)]
      simp
    | some d =>
      obtain ⟨hlt, rfl⟩ := List.getElem?_eq_some_iff.mp hc
      rw [List.drop_eq_getElem_cons hlt, List.cons_prefix_cons, Option.some_inj, eq_comm]

/-! ### Ranges -/

theorem isRun_nil_iff {low high : Char} {n : Nat} : IsRun low high [] n ↔ n = 0 := by
  refine ⟨fun h => Nat.le_zero.mp h.le_length, ?_⟩
  rintro rfl
  exact ⟨Nat.le_refl 0, by simp, by simp⟩

theorem isRun_cons_iff {low high c : Char} {cs : List Char} {n : Nat} :
    IsRun low high (c :: cs) n
      ↔ if low ≤ c ∧ c ≤ high then ∃ m, n = m + 1 ∧ IsRun low high cs m else n = 0 := by
  split
  · rename_i hc
    refine ⟨fun h => ?_, ?_⟩
    · cases n with
      | zero => exact absurd hc (h.maximal c rfl)
      | succ m =>
        exact ⟨m, rfl, Nat.le_of_succ_le_succ h.le_length,
          fun d hd => h.inside d (List.mem_cons_of_mem c hd), fun d hd => h.maximal d hd⟩
    · rintro ⟨m, rfl, h⟩
      refine ⟨Nat.succ_le_succ h.le_length, fun d hd => ?_, fun d hd => h.maximal d hd⟩
      rcases List.mem_cons.mp hd with rfl | hd
      · exact hc
      · exact h.inside d hd
  · rename_i hc
    refine ⟨fun h => ?_, ?_⟩
    · cases n with
      | zero => rfl
      | succ m => exact absurd (h.inside c List.mem_cons_self) hc
    · rintro rfl
      refine ⟨Nat.zero_le _, by simp, fun d hd => ?_⟩
      cases hd
      exact hc

/-- **What a range takes is the longest run of its characters.** -/
theorem isRun_iff_rangeLength {low high : Char} {cs : List Char} {pos fuel n : Nat}
    (hfuel : cs.length - pos ≤ fuel) :
    IsRun low high (cs.drop pos) n ↔ n = rangeLength cs.toArray low high pos fuel := by
  induction fuel generalizing pos n with
  | zero => rw [List.drop_eq_nil_of_le (by omega), isRun_nil_iff, rangeLength]
  | succ fuel ih =>
    rw [rangeLength, List.getElem?_toArray]
    cases hc : cs[pos]? with
    | none => rw [List.drop_eq_nil_of_le (List.getElem?_eq_none_iff.mp hc), isRun_nil_iff]
    | some c =>
      obtain ⟨hlt, rfl⟩ := List.getElem?_eq_some_iff.mp hc
      rw [List.drop_eq_getElem_cons hlt, isRun_cons_iff]
      simp only [Bool.and_eq_true, decide_eq_true_eq]
      split
      · simp only [ih (show cs.length - (pos + 1) ≤ fuel by omega), exists_eq_right]
      · rfl

/-! ### Bytes -/

variable {text : String} {pos : Nat} {view : Option ByteView}

/-- The bytes given are all those of the text, or none are given. -/
theorem viewed_shows (hview : view = none ∨ view = some (.whole text pos)) :
    (viewed text pos view).Shows (text.toList.drop pos) := by
  rcases hview with rfl | rfl
  · exact ByteView.ofRest_shows text pos
  · exact ByteView.whole_shows text pos

/-- Characters end after as many bytes from the place of the view on as they have. -/
theorem boundary_eq (hview : view = none ∨ view = some (.whole text pos)) (n : Nat) :
    boundary text pos view n
      = (viewed text pos view).pos + Text.byteLength ((text.toList.drop pos).take n) := by
  rcases hview with rfl | rfl
  · exact (Nat.zero_add _).symm
  · rw [boundary, List.take_add, Text.byteLength_append]
    rfl

theorem ByteView.Shows.size_eq {v : ByteView} {rest : List Char} (hv : v.Shows rest) :
    v.bytes.size = v.pos + Text.byteLength rest := by
  obtain ⟨before, hbytes, hpos⟩ := hv.bytes_eq
  rw [hbytes, hpos, ByteArray.size_append, Text.size_encode]

/-- **The number of characters that end at a byte is what an expression takes**
that ends there; where none do, it takes nothing. -/
theorem bytesLength_of_matchEnd {r : Regex} {v : ByteView} {rest : List Char} {k : Nat}
    (hv : v.Shows rest) (hmatch : r.matchEnd (.ofBytes v.bytes) v.pos = .ok (some (v.pos + k)))
    (hk : k ≤ Text.byteLength rest) :
    ∃ m ≤ rest.length, bytesLength r v = .ok m
      ∧ ∀ n, 0 < n → n ≤ rest.length → (k = Text.byteLength (rest.take n) ↔ n = m) := by
  have hlength : bytesLength r v
      = .ok ((Text.decode? ((Text.encode rest).extract 0 k)).elim 0 String.length) := by
    rw [bytesLength, hmatch, ← hv.extract_eq]
    dsimp only [Except.map]
    cases Text.decode? (v.bytes.extract v.pos (v.pos + k)) <;> rfl
  rw [hlength]
  cases hdecode : Text.decode? ((Text.encode rest).extract 0 k) with
  | some s =>
    obtain ⟨m, hm, hstop, rfl⟩ := Text.decode?_extract_eq_some_iff.mp hdecode
    rw [Nat.min_eq_left hk] at hstop
    refine ⟨m, hm, ?_, fun n _ hn => ⟨fun hkn => ?_, fun hnm => hnm ▸ hstop⟩⟩
    · simp [List.length_take_of_le hm]
    · -- different numbers of characters have different numbers of bytes
      rcases Nat.lt_trichotomy n m with hlt | heq | hlt
      · have := Text.byteLength_take_lt rest hlt hm
        omega
      · exact heq
      · have := Text.byteLength_take_lt rest hlt hn
        omega
  | none =>
    refine ⟨0, Nat.zero_le _, rfl, fun n hpos hn => ⟨fun hkn => ?_, fun hzero => by omega⟩⟩
    have hsome := Text.decode?_extract_eq_some_iff.mpr
      ⟨n, hn, (Nat.min_eq_left hk).trans hkn, rfl⟩
    rw [hdecode] at hsome
    cases hsome

/-! ## The contract -/

/-- **A matcher takes `k` characters**, which are there, and is after just these. -/
structure TakesJust (m : Matcher) (text : String) (pos : Nat) (view : Option ByteView)
    (k : Nat) : Prop where
  /-- This many are taken. -/
  takes_eq : takes m text.toList.toArray pos view = .ok k
  /-- There are so many. -/
  le_left : k ≤ text.length - pos
  /-- The matcher is after them and after no other number, unless it takes none. -/
  covers_iff : ∀ n, 0 < n → n ≤ text.length - pos → (Covers m text pos view n ↔ n = k)

/-- A matcher that takes nothing is after nothing. -/
theorem TakesJust.of_none {m : Matcher} (htakes : takes m text.toList.toArray pos view = .ok 0)
    (h : ∀ n, 0 < n → ¬ Covers m text pos view n) : TakesJust m text pos view 0 :=
  ⟨htakes, Nat.zero_le _, fun n hn _ =>
    ⟨fun hcover => absurd hcover (h n hn), fun hzero => absurd hzero hn.ne'⟩⟩

theorem length_drop_toList : (text.toList.drop pos).length = text.length - pos := by
  rw [List.length_drop, String.length_toList]

theorem exists_takesJust_literal (written : String) :
    ∃ k, TakesJust (.literal written) text pos view k := by
  by_cases hstarts : written.toList <+: text.toList.drop pos
  · have hle := hstarts.length_le
    rw [length_drop_toList, String.length_toList] at hle
    refine ⟨written.length, by simp [takes, startsAt_iff, hstarts], hle, fun n _ hn => ?_⟩
    show (text.toList.drop pos).take n = written.toList ↔ _
    refine ⟨fun h => ?_, ?_⟩
    · rw [← String.length_toList, ← h, List.length_take_of_le (length_drop_toList ▸ hn)]
    · rintro rfl
      rw [← String.length_toList]
      exact (List.prefix_iff_eq_take.mp hstarts).symm
  · refine ⟨0, .of_none (by simp [takes, startsAt_iff, hstarts]) fun n _ hcover => hstarts ?_⟩
    have htake : (text.toList.drop pos).take n = written.toList := hcover
    exact htake ▸ List.take_prefix n _

theorem exists_takesJust_range (low high : Char) :
    ∃ k, TakesJust (.range low high) text pos view k := by
  refine ⟨_, rfl, ?_, fun n _ _ => isRun_iff_rangeLength (by simp)⟩
  rw [List.size_toArray, String.length_toList]
  exact rangeLength_le ..

theorem exists_takesJust_text {source : String} {r : Regex}
    (hre : ReportsWithin (.text source r) text pos view) (hpos : pos < text.length) :
    ∃ k, TakesJust (.text source r) text pos view k := by
  have hsize : text.toList.toArray.size = text.length := by
    rw [List.size_toArray, String.length_toList]
  have hwithin : pos ≤ text.toList.toArray.size := by
    rw [hsize]
    exact Nat.le_of_lt hpos
  obtain ⟨found, hfound, hends⟩ := hre pos hwithin
  cases found with
  | none =>
    refine ⟨0, .of_none (by simp [takes, hfound, Except.map]) fun n _ hcover => ?_⟩
    cases hfound.symm.trans hcover
  | some stop =>
    obtain ⟨hle, hstop⟩ := hends stop rfl
    have hstop' : stop ≤ text.length := hsize ▸ hstop
    refine ⟨stop - pos, ?_, by omega, fun n _ _ => ⟨fun hcover => ?_, ?_⟩⟩
    · simp only [takes, hfound, Except.map, Int.ofNat_sub hle]
    · cases hfound.symm.trans hcover
      omega
    · rintro rfl
      show r.matchEnd _ pos = _
      rw [hfound, Nat.add_sub_cancel' hle]

theorem exists_takesJust_bytes {source : ByteArray} {r : Regex}
    (hview : view = none ∨ view = some (.whole text pos))
    (hre : ReportsWithin (.bytes source r) text pos view) :
    ∃ k, TakesJust (.bytes source r) text pos view k := by
  have hv := viewed_shows hview
  have hsize := hv.size_eq
  have htakes {m : Nat} (h : bytesLength r (viewed text pos view) = .ok m) :
      takes (.bytes source r) text.toList.toArray pos view = .ok m := by
    show (bytesLength r (viewed text pos view)).map Int.ofNat = _
    rw [h]
    rfl
  obtain ⟨found, hfound, hends⟩ := hre (viewed text pos view).pos
    (by show _ ≤ (viewed text pos view).bytes.size; omega)
  cases found with
  | none =>
    refine ⟨0, .of_none (htakes ?_) fun n _ hcover => ?_⟩
    · rw [bytesLength, hfound]
      rfl
    · cases hfound.symm.trans hcover
  | some stop =>
    obtain ⟨hle, hstop⟩ := hends stop rfl
    have hstop' : stop ≤ (viewed text pos view).bytes.size := hstop
    obtain ⟨k, rfl⟩ := Nat.exists_eq_add_of_le hle
    obtain ⟨m, hm, hlength, hcovers⟩ := bytesLength_of_matchEnd hv hfound (by omega)
    rw [length_drop_toList] at hm hcovers
    refine ⟨m, htakes hlength, hm, fun n hn hnle => ?_⟩
    rw [← hcovers n hn hnle]
    show r.matchEnd _ _ = .ok (some (boundary text pos view n)) ↔ _
    rw [hfound, boundary_eq hview, Except.ok.injEq, Option.some_inj, Nat.add_left_cancel_iff]

/-- **A matcher takes what it is after.** -/
theorem exists_takesJust {m : Matcher} (hview : view = none ∨ view = some (.whole text pos))
    (hre : ReportsWithin m text pos view) (hpos : pos < text.length) :
    ∃ k, TakesJust m text pos view k := by
  cases m with
  | literal written => exact exists_takesJust_literal written
  | range low high => exact exists_takesJust_range low high
  | text source r => exact exists_takesJust_text hre hpos
  | bytes source r => exact exists_takesJust_bytes hview hre

/-- **A pattern matches what its matcher is after**, a character at least. -/
theorem exists_matchLength {p : Pattern} (hview : view = none ∨ view = some (.whole text pos))
    (hre : ReportsWithin p.matcher text pos view) :
    ∃ found : Option Nat,
      p.matchLength text.toList.toArray pos view = .ok (found.map Int.ofNat)
      ∧ ∀ n, found = some n
          ↔ 1 ≤ n ∧ n ≤ text.length - pos ∧ Covers p.matcher text pos view n := by
  unfold matchLength
  rw [List.size_toArray, String.length_toList]
  split
  · refine ⟨none, rfl, fun n => ⟨nofun, fun h => ?_⟩⟩
    omega
  · rename_i hpos
    obtain ⟨k, htakes, hk, hcovers⟩ := exists_takesJust hview hre (Nat.lt_of_not_le hpos)
    refine ⟨if k = 0 then none else some k, ?_, fun n => ⟨fun h => ?_, ?_⟩⟩
    · rw [htakes]
      by_cases hzero : k = 0 <;> simp [Except.map, hzero]
    · split at h
      · cases h
      · rename_i hne
        cases h
        have hkpos := Nat.pos_of_ne_zero hne
        exact ⟨hkpos, hk, (hcovers k hkpos hk).mpr rfl⟩
    · rintro ⟨hn, hle, hcover⟩
      obtain rfl := (hcovers n hn hle).mp hcover
      rw [if_neg (by omega)]

/-- There is no run of a character or more exactly if the run is empty. -/
theorem forall_not_isRun_iff {low high : Char} {cs : List Char} :
    (∀ n, 1 ≤ n → n ≤ cs.length → ¬ IsRun low high cs n) ↔ IsRun low high cs 0 := by
  have hrun (n : Nat) : IsRun low high cs n ↔ n = rangeLength cs.toArray low high 0 cs.length := by
    rw [← isRun_iff_rangeLength (Nat.sub_le ..), List.drop_zero]
  refine ⟨fun h => ?_, fun hzero n hn _ hother => ?_⟩
  · rw [hrun]
    by_contra hne
    have hlongest := (hrun _).mpr rfl
    exact h _ (Nat.pos_of_ne_zero (Ne.symm hne)) hlongest.le_length hlongest
  · have hnone := (hrun 0).mp hzero
    have hsome := (hrun n).mp hother
    omega

/-- **The ends of a character or more are passed by**, exactly if what is reported is
the place of the view itself or no end of characters at all. -/
theorem forall_not_boundary_iff {found : Except Regex.Tangled (Option Nat)}
    (hview : view = none ∨ view = some (.whole text pos)) :
    (∀ n, 1 ≤ n → n ≤ text.length - pos → ¬ found = .ok (some (boundary text pos view n)))
      ↔ ∀ stop, found = .ok (some stop) →
          stop = (viewed text pos view).pos
            ∨ ∀ n ≤ text.length - pos, stop ≠ boundary text pos view n := by
  refine ⟨fun h stop hstop => ?_, fun h n hn hle hfound => ?_⟩
  · rw [or_iff_not_imp_right]
    intro hboundary
    push Not at hboundary
    obtain ⟨n, hle, rfl⟩ := hboundary
    obtain rfl | hn := Nat.eq_zero_or_pos n
    · rw [boundary_eq hview]
      rfl
    · exact absurd hstop (h n hn hle)
  · rcases h _ hfound with hempty | hinside
    · rw [boundary_eq hview] at hempty
      have hlt := Text.byteLength_take_lt (text.toList.drop pos) hn
        (by rwa [List.length_drop, String.length_toList])
      rw [List.take_zero, Text.byteLength_nil] at hlt
      omega
    · exact hinside n hle rfl

/-- **What a pattern matches at a position of a text**, however it was built. It has a
result, given all bytes of the text or none, where its expression reports ends within
what it is tried on. A match has a character at least and ends within the text, and it
has `n` characters exactly if these are what the matcher is after. So a range matches
nothing only where its run is empty; and an expression over bytes matches nothing
only where it has no match, where its match is empty, or where it ends inside of a
character. -/
theorem matchLength_covers (p : Pattern) (text : String) (pos : Nat) (view : Option ByteView)
    (hview : view = none ∨ view = some (.whole text pos))
    (hre : ReportsWithin p.matcher text pos view) :
    ∃ found : Option Nat,
      p.matchLength text.toList.toArray pos view = .ok (found.map Int.ofNat)
      ∧ (∀ n, found = some n
          ↔ 1 ≤ n ∧ n ≤ text.length - pos ∧ Covers p.matcher text pos view n)
      ∧ (∀ low high, p.matcher = .range low high →
          (found = none ↔ IsRun low high (text.toList.drop pos) 0))
      ∧ ∀ source r, p.matcher = .bytes source r →
          (found = none ↔ ∀ stop,
            r.matchEnd (.ofBytes (viewed text pos view).bytes) (viewed text pos view).pos
                = .ok (some stop) →
              stop = (viewed text pos view).pos
                ∨ ∀ n ≤ text.length - pos, stop ≠ boundary text pos view n) := by
  obtain ⟨found, hfound, hiff⟩ := exists_matchLength hview hre
  have hnone : found = none ↔ ∀ n, 1 ≤ n → n ≤ text.length - pos →
      ¬ Covers p.matcher text pos view n := by
    rw [Option.eq_none_iff_forall_ne_some]
    exact forall_congr' fun n => (not_congr (hiff n)).trans (by tauto)
  refine ⟨found, hfound, hiff, fun low high hp => ?_, fun source r hp => ?_⟩
  · rw [hnone, hp, ← forall_not_isRun_iff, List.length_drop, String.length_toList]
    rfl
  · rw [hnone, hp]
    exact forall_not_boundary_iff hview

/-- A sign of three bytes is matched by all of them, and not by its first byte. -/
theorem matchLength_covers_euro :
    ReportsWithin (.bytes "€".toUTF8 euroSign) "é€" 1 (some (.whole "é€" 1))
      ∧ matchLength ⟨"euro", 0, .bytes "€".toUTF8 euroSign⟩ "é€".toList.toArray 1
          (some (.whole "é€" 1)) = .ok (some 1)
      ∧ ReportsWithin (.bytes ⟨#[0xE2]⟩ (Regex.ofChars ['\xE2'])) "é€" 1 (some (.whole "é€" 1))
      ∧ matchLength ⟨"lead", 0, .bytes ⟨#[0xE2]⟩ (Regex.ofChars ['\xE2'])⟩ "é€".toList.toArray 1
          (some (.whole "é€" 1)) = .ok none := by
  have hsign : ReportsWithin (.bytes "€".toUTF8 euroSign) "é€" 1 (some (.whole "é€" 1)) := by
    intro pos hpos
    have hsize : pos ≤ 5 := hpos
    interval_cases pos <;> exact ⟨_, rfl, by decide⟩
  have hlead : ReportsWithin (.bytes ⟨#[0xE2]⟩ (Regex.ofChars ['\xE2'])) "é€" 1
      (some (.whole "é€" 1)) := by
    intro pos hpos
    have hsize : pos ≤ 5 := hpos
    interval_cases pos <;> exact ⟨_, rfl, by decide⟩
  refine ⟨hsign, ?_, hlead, ?_⟩
  · obtain ⟨found, hfound, hiff, -⟩ :=
      matchLength_covers ⟨"euro", 0, .bytes "€".toUTF8 euroSign⟩ "é€" 1 _ (.inr rfl) hsign
    rw [hfound, (hiff 1).mpr ⟨by decide, by decide, rfl⟩]
    rfl
  · obtain ⟨found, hfound, -, -, hnone⟩ := matchLength_covers
      ⟨"lead", 0, .bytes ⟨#[0xE2]⟩ (Regex.ofChars ['\xE2'])⟩ "é€" 1 _ (.inr rfl) hlead
    rw [hfound, (hnone _ _ rfl).mpr fun stop hstop => ?_]
    · rfl
    · -- the match ends at the third byte, inside of the sign
      obtain rfl : 3 = stop := Option.some.inj (Except.ok.inj hstop)
      exact .inr (by decide)

end Pattern

end ParseKit
