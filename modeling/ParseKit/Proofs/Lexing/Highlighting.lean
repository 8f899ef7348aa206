import ParseKit.Highlight
import ParseKit.Proofs.Lexing.FirstMatch

/-!
# Highlighting covers the text

To highlight a text is to read it with errors stepped over: where a pattern
matches there is a piece for its token, and where none does there is a piece
for the one character, after which reading goes on. `Highlight.cut` does this
with a lexer that it asks for tokens and moves on by itself. `Pieces` says
what comes of it, without the lexer: from each offset on, the pieces begin
with what the table chooses there, or with a single character if the table
chooses nothing.

The two are the same (`pieces_eq_ok_iff`), and so the pieces of a text have
the properties that `Pieces` has: they spell the text, each has the offset at
which it stands, and the errors among them are the characters that no pattern
matches. Where the text can be read without an error, the pieces are its
tokens, since a reading is a way to find the pieces too.

Roles are given by labels, and a label may be given the role of an error. The
error pieces can be told by their role only if that is not done; a pattern by
itself never suggests it (`guess_ne_error`).
-/

namespace ParseKit

namespace Highlight

open Lexer

/-! ## Roles -/

/-- A label never suggests that its tokens are errors. -/
theorem hint?_ne_error (label : String) : hint? label ≠ some .error := by
  have hroles : ∀ h ∈ labelHints, h.2 ≠ .error := by decide
  unfold hint?
  intro h
  obtain ⟨hint, hfound, hrole⟩ := Option.map_eq_some_iff.mp h
  exact hroles hint (List.mem_of_find?_eq_some hfound) hrole

/-- **No pattern suggests that its tokens are errors.** -/
theorem guess_ne_error (p : Pattern) : guess p ≠ .error := by
  unfold guess
  split
  · rename_i r hr
    exact fun h => hint?_ne_error p.label (h ▸ hr)
  · split
    · unfold literalRole
      split <;> decide
    · decide

/-- **Roles that are given turn no token into an error.** -/
def Styles.SparesError (given : Styles) : Prop :=
  ∀ label, given.reverse.lookup label ≠ some .error

/-- The role of a label is an error only if it is given so. -/
theorem roleOf_stylesOf_ne_error {given : Styles} (h : given.SparesError)
    (patterns : List Pattern) (label : String) :
    roleOf (stylesOf patterns given) label ≠ .error := by
  have hlookup : (stylesOf patterns given).reverse.lookup label ≠ some .error := by
    rw [stylesOf, List.reverse_append, List.lookup_append]
    cases hgiven : given.reverse.lookup label with
    | some r =>
      rw [Option.some_or]
      exact hgiven ▸ h label
    | none =>
      rw [Option.none_or]
      intro hguess
      obtain ⟨before, after, hsplit, -⟩ := List.lookup_eq_some_iff.mp hguess
      have hmem : (label, Role.error) ∈ (patterns.map fun p => (p.label, guess p)).reverse :=
        hsplit ▸ List.mem_append_right _ List.mem_cons_self
      obtain ⟨p, -, hp⟩ := List.mem_map.mp (List.mem_reverse.mp hmem)
      exact guess_ne_error p (congrArg Prod.snd hp)
  unfold roleOf
  cases hfound : (stylesOf patterns given).reverse.lookup label with
  | some r => exact fun hr => hlookup (hfound.trans (congrArg some hr))
  | none => decide

/-! ## The pieces from an offset on -/

/-- **The pieces of a text from an offset on**, by what the table chooses there:
a piece with the text of what is chosen, or the character at which nothing
is. -/
inductive Pieces (patterns : List Pattern) (styles : Styles) (text : String) :
    Nat → List Piece → Prop where
  /-- There are none at the end. -/
  | done : Pieces patterns styles text text.length []
  /-- A pattern is chosen. -/
  | token {offset n : Nat} {p : Pattern} {ps : List Piece}
      (chosen : Chooses patterns text offset p n) (pos : 0 < n)
      (rest : Pieces patterns styles text (offset + n) ps) :
      Pieces patterns styles text offset
        (⟨offset, roleOf styles p.label, .ofList ((text.toList.drop offset).take n)⟩ :: ps)
  /-- No pattern matches a character. -/
  | error {offset : Nat} {c : Char} {ps : List Piece}
      (unmatched : NoneMatches patterns text offset) (char : text.toList[offset]? = some c)
      (rest : Pieces patterns styles text (offset + 1) ps) :
      Pieces patterns styles text offset (⟨offset, .error, .singleton c⟩ :: ps)

section

variable {patterns : List Pattern} {styles : Styles} {text filename : String} {offset : Nat}
  {ps : List Piece}

theorem lt_length_of_char {c : Char} (h : text.toList[offset]? = some c) : offset < text.length :=
  String.length_toList ▸ (List.getElem?_eq_some_iff.mp h).1

/-! ## Cutting finds the pieces -/

/-- **What cutting gives are the pieces**, if it is not stopped. -/
theorem pieces_of_cut {fuel : Nat} (hoffset : offset ≤ text.length)
    (hfuel : text.length ≤ offset + fuel)
    (h : (cut styles fuel (onSourceAt patterns text filename offset)).stop = none) :
    Pieces patterns styles text offset
      (cut styles fuel (onSourceAt patterns text filename offset)).pieces := by
  induction fuel generalizing offset with
  | zero =>
    obtain rfl : offset = text.length := Nat.le_antisymm hoffset hfuel
    exact .done
  | succ fuel ih =>
    unfold cut at h ⊢
    split at h
    · rename_i hnext
      rw [next_eq_none_iff, text_onSourceAt, pos_onSourceAt hoffset, String.length_toList] at hnext
      obtain rfl : offset = text.length := Nat.le_antisymm hoffset hnext
      exact .done
    · rename_i t l' hnext
      split at h
      · cases h
      · rename_i hempty
        rw [if_neg hempty]
        have htext : t.text ≠ "" := fun hnil => hempty (String.isEmpty_iff.mpr hnil)
        obtain ⟨p, n, hchosen, hn, rfl, rfl⟩ := chooses_of_next hoffset hnext htext
        have hle := Pattern.matchAt_le hchosen.taken
        have hrest := ih (by omega) (by omega) h
        rw [tokenOf_onSourceAt hoffset]
        exact .token hchosen hn hrest
    · rename_i e hnext
      obtain ⟨hunmatched, c, hc, rfl⟩ := (next_eq_error_iff hoffset).mp hnext
      have hlt := lt_length_of_char hc
      rw [advance_onSourceAt hoffset] at h ⊢
      have hrest := ih (by omega) (by omega) h
      rw [pos_onSourceAt hoffset]
      exact .error hunmatched hc hrest
    · cases h

/-- **The pieces are what cutting gives**, and it is not stopped. -/
theorem Pieces.cut_eq (filename : String) (h : Pieces patterns styles text offset ps) {fuel : Nat}
    (hfuel : text.length ≤ offset + fuel) :
    (cut styles fuel (onSourceAt patterns text filename offset)).stop = none
      ∧ (cut styles fuel (onSourceAt patterns text filename offset)).pieces = ps := by
  induction h generalizing fuel with
  | done =>
    cases fuel with
    | zero => exact ⟨rfl, rfl⟩
    | succ fuel =>
      rw [cut, next_onSourceAt_length]
      exact ⟨rfl, rfl⟩
  | @token offset n p ps chosen pos rest ih =>
    have hle := Pattern.matchAt_le chosen.taken
    have hoffset : offset ≤ text.length := by omega
    obtain ⟨fuel, rfl⟩ : ∃ k, fuel = k + 1 := ⟨fuel - 1, by omega⟩
    obtain ⟨hstop, hpieces⟩ := ih (show text.length ≤ offset + n + fuel by omega)
    have htext : (String.ofList ((text.toList.drop offset).take n)).isEmpty = false := by
      rw [Bool.eq_false_iff, ne_eq, String.isEmpty_iff, ← String.length_eq_zero_iff,
        String.length_ofList, List.length_take, List.length_drop, String.length_toList]
      omega
    rw [cut, next_of_chooses filename hoffset chosen pos, tokenOf_onSourceAt hoffset]
    simp only [htext, Bool.false_eq_true, ite_false]
    exact ⟨hstop, congrArg _ hpieces⟩
  | @error offset c ps unmatched char rest ih =>
    have hlt := lt_length_of_char char
    have hoffset : offset ≤ text.length := Nat.le_of_lt hlt
    obtain ⟨fuel, rfl⟩ : ∃ k, fuel = k + 1 := ⟨fuel - 1, by omega⟩
    obtain ⟨hstop, hpieces⟩ := ih (show text.length ≤ offset + 1 + fuel by omega)
    rw [cut, (next_eq_error_iff hoffset).mpr ⟨unmatched, c, char, rfl⟩]
    dsimp only
    rw [advance_onSourceAt hoffset, pos_onSourceAt hoffset]
    exact ⟨hstop, congrArg _ hpieces⟩

/-- **A text has the pieces that are cut**, and no others. -/
theorem pieces_eq_ok_iff :
    pieces patterns styles text = .ok ps ↔ Pieces patterns styles text 0 ps := by
  have hleft : (onSource patterns text).left = text.length := by
    rw [← onSourceAt_zero, left_eq, text_onSourceAt, pos_onSourceAt (Nat.zero_le _),
      String.length_toList, Nat.sub_zero]
  have hfuel : text.length ≤ 0 + (onSource patterns text).left := by rw [hleft, Nat.zero_add]
  have hcut : (cutText patterns styles text).result
      = (cut styles (onSource patterns text).left
          (onSourceAt patterns text unnamedSource 0)).result :=
    rfl
  unfold pieces
  rw [hcut, Cut.result]
  constructor
  · intro h
    split at h
    · cases h
    · rename_i hstop
      cases h
      exact pieces_of_cut (Nat.zero_le _) hfuel hstop
  · intro h
    obtain ⟨hstop, hpieces⟩ := h.cut_eq unnamedSource hfuel
    rw [hstop, hpieces]

/-- There is one list of pieces from an offset on. -/
theorem Pieces.unique {ps' : List Piece} (h : Pieces patterns styles text offset ps)
    (h' : Pieces patterns styles text offset ps') : ps = ps' := by
  have hfuel : text.length ≤ offset + text.length := Nat.le_add_left _ _
  rw [← (h.cut_eq unnamedSource hfuel).2,
    ← (h'.cut_eq unnamedSource hfuel).2]

/-- **Cutting is not stopped**, where patterns report ends within the text. -/
theorem cut_stop (fuel : Nat) {l : Lexer} (hl : l.Aligned) (hsource : l.source = .ofString text)
    (h : ∀ p ∈ l.patterns, p.EndsWithin l.source) : (cut styles fuel l).stop = none := by
  induction fuel generalizing l with
  | zero => rfl
  | succ fuel ih =>
    unfold cut
    rcases next_cases hl hsource h with hnext | ⟨e, hnext⟩ | ⟨p, n, hnext, htext⟩
    · rw [hnext]
    · rw [hnext]
      exact ih (hl.advance 1) hsource h
    · have hempty : ¬ (l.tokenOf p n).text.isEmpty = true :=
        fun hc => htext (String.isEmpty_iff.mp hc)
      rw [hnext]
      simp only [hempty, Bool.false_eq_true, ite_false]
      exact ih (hl.advance n) hsource h

/-- A text has pieces, where patterns report ends within it. -/
theorem exists_pieces (h : ∀ p ∈ patterns, p.EndsWithin (.ofString text)) :
    ∃ ps, pieces patterns styles text = .ok ps := by
  have haligned : (onSource patterns text).Aligned :=
    aligned_start (.mk patterns unnamedSource .empty .start) text
  refine ⟨(cutText patterns styles text).pieces, ?_⟩
  unfold pieces Cut.result
  rw [show (cutText patterns styles text).stop = none from cut_stop _ haligned rfl h]

/-! ## What the pieces say of the text -/

/-- The characters that some pieces spell. -/
def Piece.spelled (ps : List Piece) : List Char := ps.flatMap fun q => q.text.toList

theorem Piece.length_spelled (ps : List Piece) :
    (spelled ps).length = (ps.map fun q => q.text.length).sum := by
  rw [spelled, List.length_flatMap]
  exact congrArg List.sum (List.map_congr_left fun q _ => String.length_toList)

/-- What is left of a text at a character. -/
theorem drop_of_char {c : Char} (h : text.toList[offset]? = some c) :
    text.toList.drop offset = c :: text.toList.drop (offset + 1) := by
  obtain ⟨hlt, rfl⟩ := List.getElem?_eq_some_iff.mp h
  exact List.drop_eq_getElem_cons hlt

/-- **The pieces spell what is left of the text.** -/
theorem Pieces.spelled_eq (h : Pieces patterns styles text offset ps) :
    Piece.spelled ps = text.toList.drop offset := by
  induction h with
  | done => rw [← String.length_toList, List.drop_length]; rfl
  | token chosen pos rest ih =>
    rw [Piece.spelled, List.flatMap_cons, String.toList_ofList, ← Piece.spelled, ih,
      ← List.drop_drop, List.take_append_drop]
  | error unmatched char rest ih =>
    rw [drop_of_char char, ← ih]
    simp [Piece.spelled]

/-- **A piece of a text**, by what stands at its offset: what is chosen there, or
the character at which nothing is. -/
theorem Pieces.cases_mem (h : Pieces patterns styles text offset ps) {q : Piece} (hq : q ∈ ps) :
    (∃ p n, Chooses patterns text q.offset p (n : Nat) ∧ 0 < n
        ∧ q.text = .ofList ((text.toList.drop q.offset).take n)
        ∧ q.role = roleOf styles p.label)
      ∨ NoneMatches patterns text q.offset
        ∧ ∃ c, text.toList[q.offset]? = some c ∧ q.text = .singleton c ∧ q.role = .error := by
  induction h with
  | done => cases hq
  | token chosen pos rest ih =>
    rcases List.mem_cons.mp hq with rfl | hq
    · exact Or.inl ⟨_, _, chosen, pos, rfl, rfl⟩
    · exact ih hq
  | error unmatched char rest ih =>
    rcases List.mem_cons.mp hq with rfl | hq
    · exact Or.inr ⟨unmatched, _, char, rfl, rfl⟩
    · exact ih hq

/-- A piece has a character. -/
theorem Pieces.text_ne_empty (h : Pieces patterns styles text offset ps) {q : Piece}
    (hq : q ∈ ps) : q.text ≠ "" := by
  rw [ne_eq, ← String.length_eq_zero_iff]
  rcases h.cases_mem hq with ⟨p, n, hchosen, hn, htext, -⟩ | ⟨-, c, -, htext, -⟩
  · have hle := Pattern.matchAt_le hchosen.taken
    rw [htext, String.length_ofList, List.length_take, List.length_drop, String.length_toList]
    omega
  · rw [htext, String.length_singleton]
    exact Nat.one_ne_zero

/-- **The offset of a piece counts the characters of those before it.** -/
theorem Pieces.offset_eq (h : Pieces patterns styles text offset ps) {before after : List Piece}
    {q : Piece} (hps : ps = before ++ q :: after) :
    q.offset = offset + (Piece.spelled before).length := by
  induction h generalizing before with
  | done => cases before <;> cases hps
  | @token offset n p ps chosen pos rest ih =>
    cases before with
    | nil =>
      cases hps
      rfl
    | cons first before =>
      cases hps
      have hle := Pattern.matchAt_le chosen.taken
      rw [ih rfl, Piece.spelled, Piece.spelled, List.flatMap_cons, List.length_append,
        String.toList_ofList, List.length_take, List.length_drop, String.length_toList]
      omega
  | @error offset c ps unmatched char rest ih =>
    cases before with
    | nil =>
      cases hps
      rfl
    | cons first before =>
      cases hps
      rw [ih rfl, Piece.spelled, Piece.spelled, List.flatMap_cons, List.length_append]
      simp [Nat.add_assoc]

/-! ## Offsets that are come to -/

/-- **Offsets that highlighting comes to**: over what is chosen at one, or over
the character at which nothing is. -/
inductive Arrives (patterns : List Pattern) (text : String) : Nat → Prop where
  /-- The start. -/
  | start : Arrives patterns text 0
  /-- The offset after what is chosen at one. -/
  | token {offset n : Nat} {p : Pattern} (before : Arrives patterns text offset)
      (chosen : Chooses patterns text offset p n) (pos : 0 < n) :
      Arrives patterns text (offset + n)
  /-- The offset after a character that no pattern matches. -/
  | skip {offset : Nat} (before : Arrives patterns text offset)
      (unmatched : NoneMatches patterns text offset) (inside : offset < text.length) :
      Arrives patterns text (offset + 1)

/-- Pieces stand at offsets that are come to. -/
theorem Pieces.arrives (h : Pieces patterns styles text offset ps)
    (hoffset : Arrives patterns text offset) {q : Piece} (hq : q ∈ ps) :
    Arrives patterns text q.offset := by
  induction h with
  | done => cases hq
  | token chosen pos rest ih =>
    rcases List.mem_cons.mp hq with rfl | hq
    · exact hoffset
    · exact ih (hoffset.token chosen pos) hq
  | error unmatched char rest ih =>
    rcases List.mem_cons.mp hq with rfl | hq
    · exact hoffset
    · exact ih (hoffset.skip unmatched (lt_length_of_char char)) hq

/-- **Where highlighting comes to, the pieces go on.** -/
theorem Pieces.suffix_of_arrives (h : Pieces patterns styles text 0 ps)
    (hoffset : Arrives patterns text offset) :
    ∃ rest, rest <:+ ps ∧ Pieces patterns styles text offset rest := by
  induction hoffset with
  | start => exact ⟨ps, List.suffix_rfl, h⟩
  | token before chosen pos ih =>
    obtain ⟨rest, hsuffix, hrest⟩ := ih
    cases hrest with
    | done =>
      have hle := Pattern.matchAt_le chosen.taken
      omega
    | token chosen' pos' rest' =>
      obtain ⟨-, rfl⟩ := eq_of_chooses chosen chosen'
      exact ⟨_, (List.suffix_cons _ _).trans hsuffix, rest'⟩
    | error unmatched char rest' => exact absurd unmatched (not_noneMatches_of_chooses chosen)
  | skip before unmatched inside ih =>
    obtain ⟨rest, hsuffix, hrest⟩ := ih
    cases hrest with
    | done => exact absurd inside (Nat.lt_irrefl _)
    | token chosen pos rest' => exact absurd unmatched (not_noneMatches_of_chooses chosen)
    | error unmatched' char rest' =>
      exact ⟨_, (List.suffix_cons _ _).trans hsuffix, rest'⟩

/-- There is a piece wherever highlighting comes to before the end. -/
theorem Pieces.exists_mem_of_arrives (h : Pieces patterns styles text 0 ps)
    (hoffset : Arrives patterns text offset) (hlt : offset < text.length) :
    ∃ q ∈ ps, q.offset = offset := by
  obtain ⟨rest, hsuffix, hrest⟩ := h.suffix_of_arrives hoffset
  cases hrest with
  | done => exact absurd hlt (Nat.lt_irrefl _)
  | token chosen pos rest' => exact ⟨_, hsuffix.subset List.mem_cons_self, rfl⟩
  | error unmatched char rest' => exact ⟨_, hsuffix.subset List.mem_cons_self, rfl⟩

/-- A piece stands before the end. -/
theorem Pieces.offset_lt (h : Pieces patterns styles text offset ps) {q : Piece} (hq : q ∈ ps) :
    q.offset < text.length := by
  rcases h.cases_mem hq with ⟨p, n, hchosen, hn, -⟩ | ⟨-, c, hc, -⟩
  · have hle := Pattern.matchAt_le hchosen.taken
    omega
  · exact lt_length_of_char hc

/-! ## Texts without errors -/

/-- The piece of a token. -/
def Piece.ofToken (styles : Styles) (t : Token) : Piece :=
  ⟨t.offset, roleOf styles t.label, t.text⟩

/-- **The tokens of a reading to the end are the pieces.** -/
theorem pieces_of_reads {ts : List Token} {l : Lexer} (styles : Styles)
    (h : Reads (onSourceAt patterns text filename offset) ts l)
    (hl : l = onSourceAt patterns text filename text.length) (hoffset : offset ≤ text.length)
    (hts : ∀ t ∈ ts, t.text ≠ "") :
    Pieces patterns styles text offset (ts.map (Piece.ofToken styles)) := by
  induction ts generalizing offset with
  | nil =>
    cases h
    have hpos : (onSourceAt patterns text filename offset).cursor.pos
        = (onSourceAt patterns text filename text.length).cursor.pos := by rw [hl]
    rw [pos_onSourceAt hoffset, pos_onSourceAt (Nat.le_refl _)] at hpos
    subst hpos
    exact .done
  | cons t ts ih =>
    obtain ⟨ht, htail⟩ := List.forall_mem_cons.mp hts
    cases h with
    | cons first rest =>
      obtain ⟨p, n, hchosen, hn, rfl, rfl⟩ := chooses_of_next hoffset first ht
      have hle := Pattern.matchAt_le hchosen.taken
      have hrest := ih rest (by omega) htail
      rw [List.map_cons, Piece.ofToken, tokenOf_onSourceAt hoffset]
      exact .token hchosen hn hrest

/-- **Where a text has tokens, they are its pieces.** -/
theorem pieces_of_tokenize (styles : Styles) {ts : List Token}
    (h : tokenize patterns text filename = .ok ts) :
    Pieces patterns styles text 0 (ts.map (Piece.ofToken styles)) := by
  obtain ⟨hstop, rfl⟩ := tokenize_eq_ok_iff.mp h
  have hcut := cutByFirstMatch_all hstop
  have hreads : Reads (onSourceAt patterns text filename 0) _ _ := reads_of_cut (a := []) hcut
  exact pieces_of_reads styles hreads rfl (Nat.zero_le _) hcut.partition.nonempty

end

/-! ## Coverage -/

/-- **Pieces cover a text.** -/
structure Coverage (patterns : List Pattern) (given : Styles) (text : String)
    (ps : List Piece) : Prop where
  /-- Every piece has a character. -/
  nonempty : ∀ q ∈ ps, q.text ≠ ""
  /-- The pieces spell the text. -/
  join : String.join (ps.map Piece.text) = text
  /-- The offset of a piece is the number of characters of those before it. -/
  offset : ∀ (i : Nat) (h : i < ps.length),
    ps[i].offset = ((ps.take i).map fun q => q.text.length).sum
  /-- There is a piece at the offsets that are come to, as long as there is text,
  and nowhere else. -/
  reached : ∀ offset, (∃ q ∈ ps, q.offset = offset)
    ↔ Arrives patterns text offset ∧ offset < text.length
  /-- Unless a label is given the role of an error, a piece has that role just if no
  pattern matches where it stands. -/
  error_iff : given.SparesError →
    ∀ q ∈ ps, q.role = .error ↔ NoneMatches patterns text q.offset
  /-- Such a piece is the single character there. -/
  error_char : given.SparesError → ∀ q ∈ ps, q.role = .error →
    ∃ c, text.toList[q.offset]? = some c ∧ q.text = .singleton c
  /-- Any other piece is what the first pattern to match takes there. -/
  chosen : given.SparesError → ∀ q ∈ ps, q.role ≠ .error → ∃ p n,
    Chooses patterns text q.offset p (n : Nat)
      ∧ q.text = .ofList ((text.toList.drop q.offset).take n)
  /-- Where the text has tokens, the pieces have their offsets and texts. -/
  tokens : ∀ ts, tokenize patterns text = .ok ts →
    ps.map (fun q => (q.offset, q.text)) = ts.map fun t => (t.offset, t.text)
  /-- No piece is an error then. -/
  no_error : given.SparesError → ∀ ts, tokenize patterns text = .ok ts →
    ∀ q ∈ ps, q.role ≠ .error

/-- **An error is told by its role**, unless a label is given that role. -/
theorem Pieces.role_eq_error_iff {patterns : List Pattern} {given : Styles} {text : String}
    {ps : List Piece} (h : Pieces patterns (stylesOf patterns given) text 0 ps)
    (hgiven : given.SparesError) {q : Piece} (hq : q ∈ ps) :
    q.role = .error ↔ NoneMatches patterns text q.offset := by
  rcases h.cases_mem hq with ⟨p, n, hchosen, -, -, hrole⟩ | ⟨hunmatched, c, -, -, hrole⟩
  · rw [hrole]
    exact iff_of_false (roleOf_stylesOf_ne_error hgiven patterns p.label)
      (not_noneMatches_of_chooses hchosen)
  · exact iff_of_true hrole hunmatched

/-- The pieces of a text cover it. -/
theorem Pieces.coverage {patterns : List Pattern} {given : Styles} {text : String}
    {ps : List Piece} (h : Pieces patterns (stylesOf patterns given) text 0 ps) :
    Coverage patterns given text ps where
  nonempty q hq := h.text_ne_empty hq
  join := by
    refine String.toList_injective ?_
    rw [String.toList_join, List.flatMap_map]
    exact h.spelled_eq
  offset i hi := by
    have hsplit : ps = ps.take i ++ ps[i] :: ps.drop (i + 1) := by
      rw [← List.drop_eq_getElem_cons hi, List.take_append_drop]
    rw [h.offset_eq hsplit, Nat.zero_add, Piece.length_spelled]
  reached offset := by
    constructor
    · rintro ⟨q, hq, rfl⟩
      exact ⟨h.arrives .start hq, h.offset_lt hq⟩
    · rintro ⟨hoffset, hlt⟩
      exact h.exists_mem_of_arrives hoffset hlt
  error_iff hgiven q hq := h.role_eq_error_iff hgiven hq
  error_char hgiven q hq hrole := by
    have hunmatched := (h.role_eq_error_iff hgiven hq).mp hrole
    rcases h.cases_mem hq with ⟨p, n, hchosen, -⟩ | ⟨-, c, hc, htext, -⟩
    · exact absurd hunmatched (not_noneMatches_of_chooses hchosen)
    · exact ⟨c, hc, htext⟩
  chosen hgiven q hq hrole := by
    rcases h.cases_mem hq with ⟨p, n, hchosen, -, htext, -⟩ | ⟨-, c, -, -, herror⟩
    · exact ⟨p, n, hchosen, htext⟩
    · exact absurd herror hrole
  tokens ts hts := by
    rw [h.unique (pieces_of_tokenize _ hts), List.map_map]
    rfl
  no_error hgiven ts hts q hq := by
    rw [h.unique (pieces_of_tokenize _ hts)] at hq
    obtain ⟨t, -, rfl⟩ := List.mem_map.mp hq
    exact roleOf_stylesOf_ne_error hgiven patterns t.label

/-- **Highlighting covers the text.** The pieces of a text, if there are any, cover
it; and where patterns report ends within the text, there are pieces. -/
theorem pieces_cover_text (patterns : List Pattern) (given : Styles) (text : String) :
    (∀ ps, pieces patterns (stylesOf patterns given) text = .ok ps →
        Coverage patterns given text ps)
      ∧ ((∀ p ∈ patterns, p.EndsWithin (.ofString text)) →
        ∃ ps, pieces patterns (stylesOf patterns given) text = .ok ps) :=
  ⟨fun _ h => (pieces_eq_ok_iff.mp h).coverage, exists_pieces⟩

theorem mixedPatterns_endsWithin_arrow :
    ∀ p ∈ mixedPatterns, p.EndsWithin (.ofString "é→€") := by
  intro p hp
  simp only [mixedPatterns, List.mem_cons, List.not_mem_nil, or_false] at hp
  rcases hp with rfl | rfl | rfl | rfl
  · trivial
  · trivial
  · intro pos hpos
    have hsize : pos ≤ 3 := hpos
    interval_cases pos <;> exact ⟨_, rfl, by decide⟩
  · intro pos hpos
    have hsize : pos ≤ 8 := hpos
    interval_cases pos <;> exact ⟨_, rfl, by decide⟩

/-- An arrow between an accent and a euro sign, with which it shares its first
byte: it is an error by itself, and the euro sign has the role that is given
for it. -/
theorem pieces_cover_text_arrow :
    (∀ p ∈ mixedPatterns, p.EndsWithin (.ofString "é→€"))
      ∧ Styles.SparesError [("euro", .keyword)]
      ∧ pieces mixedPatterns (stylesOf mixedPatterns [("euro", .keyword)]) "é→€"
        = .ok [⟨0, .plain, "é"⟩, ⟨1, .error, "→"⟩, ⟨2, .keyword, "€"⟩]
      ∧ Coverage mixedPatterns [("euro", .keyword)] "é→€"
        [⟨0, .plain, "é"⟩, ⟨1, .error, "→"⟩, ⟨2, .keyword, "€"⟩] := by
  have hspares : Styles.SparesError [("euro", .keyword)] := by
    intro label
    rw [List.reverse_singleton, List.lookup_cons]
    split
    · decide
    · simp
  have hpieces : pieces mixedPatterns (stylesOf mixedPatterns [("euro", .keyword)]) "é→€"
      = .ok [⟨0, .plain, "é"⟩, ⟨1, .error, "→"⟩, ⟨2, .keyword, "€"⟩] := by decide +kernel
  obtain ⟨hcovers, hexists⟩ := pieces_cover_text mixedPatterns [("euro", .keyword)] "é→€"
  obtain ⟨ps, hps⟩ := hexists mixedPatterns_endsWithin_arrow
  obtain rfl : ps = [⟨0, .plain, "é"⟩, ⟨1, .error, "→"⟩, ⟨2, .keyword, "€"⟩] :=
    Except.ok.inj (hps.symm.trans hpieces)
  exact ⟨mixedPatterns_endsWithin_arrow, hspares, hpieces, hcovers _ hps⟩

end Highlight

end ParseKit
