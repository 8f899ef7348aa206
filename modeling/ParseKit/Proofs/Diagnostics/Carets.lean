import ParseKit.Proofs.Diagnostics.Colouring
import ParseKit.Proofs.Diagnostics.SourceRow

/-!
# Carets do not line up with what they point at

A place within one line is shown by two rows, one with the line of the source and one with
carets. The row of the source begins with the number of the line, right-aligned in four columns,
and so it has six columns and more before its bar. The row of carets begins with a bare frame,
which has four. Both bars are followed by a space, and the carets by as many spaces again as there
are characters before the place.

So the first caret is never below the character that it is meant for. It stands two columns
further left, and one more for each digit of a line number beyond four: that is
`Renderer.carets_left_of_source`, for every label of every diagnostic that is rendered without
colours. The row of a label is found by the lines that a renderer knows, which other labels of
the same diagnostic do not change (`Renderer.linesShown_of_lookup`).
-/

namespace ParseKit.Renderer

/-! ## The two rows -/

theorem length_gutter (n : Int) : (gutter n).length = max 4 (toString n).length := by
  rw [gutter, String.length_append, String.length_ofList, List.length_replicate]
  omega

/-- The characters of a row before the line of the source. -/
theorem length_sourceFrame (n : Int) :
    ("  " ++ gutter n ++ " | ").length = max 4 (toString n).length + 5 := by
  simp only [String.length_append, length_gutter]
  show 2 + _ + 3 = _
  omega

theorem eq_of_stretch {c : Char} {n : Int} {s : String} (h : stretch c n = .ok s) :
    s = String.ofList (List.replicate n.toNat c) := by
  unfold stretch at h
  split_ifs at h
  cases h
  rfl

/-- **A row of carets** has the bare frame, blanks up to the column, and the carets. -/
theorem eq_of_caretRow {l : Location} {row : String} (h : caretRow false l = .ok row) :
    row = "     | " ++ String.ofList (List.replicate (l.start.column - 1).toNat ' ')
      ++ String.ofList (List.replicate (caretCount l).toNat '^') := by
  unfold caretRow at h
  cases hpadding : stretch ' ' (l.start.column - 1) with
  | error e =>
    rw [hpadding] at h
    cases h
  | ok padding =>
    cases hcarets : stretch '^' (caretCount l) with
    | error e =>
      rw [hpadding, hcarets] at h
      cases h
    | ok carets =>
      rw [hpadding, hcarets] at h
      cases h
      rw [← eq_of_stretch hpadding, ← eq_of_stretch hcarets]
      rfl

/-- **The number of characters of a row before its first caret.** -/
def beforeCaret (row : String) : Nat := (row.toList.takeWhile (· != '^')).length

/-- **The first caret stands seven columns further right than the column counts.** -/
theorem beforeCaret_caretRow {l : Location} {row : String} (h : caretRow false l = .ok row) :
    '^' ∈ row.toList ∧ beforeCaret row = (l.start.column - 1).toNat + 7 := by
  -- there is always a caret, so that the padding is all that stands before the first
  obtain ⟨count, hcount⟩ : ∃ count, (caretCount l).toNat = count + 1 :=
    Nat.exists_eq_add_one.mpr (by unfold caretCount; omega)
  have hrow : row.toList = "     | ".toList
      ++ (List.replicate (l.start.column - 1).toNat ' ' ++ '^' :: List.replicate count '^') := by
    rw [eq_of_caretRow h, hcount]
    simp [List.replicate_succ]
  have hframe : ∀ c ∈ "     | ".toList, (c != '^') = true :=
    List.all_eq_true.mp (by decide +kernel)
  have hspaces : ∀ c ∈ List.replicate (l.start.column - 1).toNat ' ', (c != '^') = true := by
    intro c hc
    rw [List.eq_of_mem_replicate hc]
    rfl
  rw [beforeCaret, hrow, List.takeWhile_append_of_pos hframe,
    List.takeWhile_append_of_pos hspaces, List.takeWhile_cons_of_neg (by simp)]
  simp

/-! ## The rows of a label -/

/-- A source is known, or else its lines come from a file and are known afterwards. -/
theorem lookup_cases {r r' : Renderer} {files : Files} {name : String} {lines : List String}
    (h : r.lookup files name = .ok (lines, r')) :
    r.known.lookup name = some lines ∧ r' = r
      ∨ r.known.lookup name = none ∧ linesOfFile files name = .ok lines
        ∧ r' = { r with known := r.known ++ [(name, lines)] } := by
  unfold lookup at h
  cases hknown : r.known.lookup name with
  | some known =>
    rw [hknown] at h
    cases h
    exact .inl ⟨rfl, rfl⟩
  | none =>
    rw [hknown] at h
    cases hlines : linesOfFile files name with
    | error e =>
      rw [hlines] at h
      cases h
    | ok lines =>
      rw [hlines] at h
      cases h
      exact .inr ⟨rfl, rfl, rfl⟩

/-- **The lines of a source that a renderer shows.** -/
def linesShown (r : Renderer) (files : Files) (name : String) : Except RenderFault (List String) :=
  (r.lookup files name).map Prod.fst

/-- A source that is known is shown by what is known, and any other by its file. -/
theorem linesShown_eq (r : Renderer) (files : Files) (name : String) :
    r.linesShown files name = (r.known.lookup name).elim (linesOfFile files name) .ok := by
  unfold linesShown lookup
  cases r.known.lookup name with
  | some lines => rfl
  | none => cases linesOfFile files name <;> rfl

/-- **Looking up one source changes the lines of none.** -/
theorem linesShown_of_lookup {r r' : Renderer} {files : Files} {name : String}
    {lines : List String} (h : r.lookup files name = .ok (lines, r')) (other : String) :
    r'.color = r.color ∧ r'.linesShown files other = r.linesShown files other := by
  rcases lookup_cases h with ⟨-, rfl⟩ | ⟨hunknown, hlines, rfl⟩
  · exact ⟨rfl, rfl⟩
  · refine ⟨rfl, ?_⟩
    rw [linesShown_eq, linesShown_eq, List.lookup_append]
    by_cases heq : other = name
    · simp [heq, hunknown, hlines]
    · have hne : List.lookup other [(name, lines)] = none := by
        simp [List.lookup_cons, beq_false_of_ne heq]
      rw [hne, Option.or_none]

/-- The rows of several labels are those of the first and those of the rest. -/
theorem labelsRows_cons {files : Files} {l : DiagnosticLabel} {rest : List DiagnosticLabel}
    {r r' : Renderer} {rows : List String}
    (h : labelsRows files r (l :: rest) = (.ok rows, r')) :
    ∃ lines r₁ own more, r.lookup files l.location.file = .ok (lines, r₁)
      ∧ labelRows r₁.color (lineAt? lines l.location.start.line) l = .ok own
      ∧ labelsRows files r₁ rest = (.ok more, r') ∧ rows = own ++ more := by
  rw [labelsRows] at h
  cases hlookup : r.lookup files l.location.file with
  | error e =>
    rw [hlookup] at h
    cases h
  | ok found =>
    obtain ⟨lines, r₁⟩ := found
    rw [hlookup] at h
    dsimp only at h
    cases hown : labelRows r₁.color (lineAt? lines l.location.start.line) l with
    | error e =>
      rw [hown] at h
      cases h
    | ok own =>
      rw [hown] at h
      dsimp only at h
      cases hrest : labelsRows files r₁ rest with
      | mk more r₂ =>
        rw [hrest] at h
        cases more with
        | error e => cases h
        | ok more =>
          cases h
          exact ⟨lines, r₁, own, more, rfl, hown, hrest, rfl⟩

/-- **The rows of a label are among those of all labels.** -/
theorem exists_rows_of_mem {files : Files} {labels : List DiagnosticLabel} {r r' : Renderer}
    {rows lines : List String} {l : DiagnosticLabel}
    (h : labelsRows files r labels = (.ok rows, r')) (hl : l ∈ labels)
    (hlines : r.linesShown files l.location.file = .ok lines) :
    ∃ above own below, rows = above ++ own ++ below
      ∧ labelRows r.color (lineAt? lines l.location.start.line) l = .ok own := by
  induction labels generalizing r rows with
  | nil => cases hl
  | cons first rest ih =>
    obtain ⟨firstLines, r₁, own, more, hlookup, hown, hrest, rfl⟩ := labelsRows_cons h
    obtain ⟨hcolor, hsame⟩ := linesShown_of_lookup hlookup l.location.file
    rcases List.mem_cons.mp hl with rfl | hl
    · rw [linesShown, hlookup] at hlines
      cases hlines
      exact ⟨[], own, more, rfl, hcolor ▸ hown⟩
    · obtain ⟨above, own', below, rfl, hown'⟩ := ih hrest hl (hsame.trans hlines)
      exact ⟨own ++ above, own', below, by simp only [List.append_assoc], hcolor ▸ hown'⟩

/-- A label within one line has a row of carets, right below the row of the source. -/
theorem exists_caretRow {color : Bool} {line : String} {l : DiagnosticLabel} {own : List String}
    (hsame : l.location.start.line = l.location.stop.line)
    (h : labelRows color (some line) l = .ok own) :
    ∃ carets above below, caretRow color l.location = .ok carets
      ∧ own = above ++ sourceRow color l.location.start.line line :: carets :: below := by
  cases hcarets : caretRow color l.location with
  | error e =>
    rw [labelRows_eq, caretRows, if_pos (beq_iff_eq.mpr hsame), hcarets] at h
    cases h
  | ok carets =>
    rw [labelRows_of_caretRow hsame hcarets] at h
    cases h
    exact ⟨carets, [placeRow color l.location, bareFrame color], _, rfl, rfl⟩

/-- The text of a diagnostic has the rows of its labels. -/
theorem exists_rows_of_render {r : Renderer} {files : Files} {d : Diagnostic} {text : String}
    (h : (r.render files d).1 = .ok text) :
    ∃ header rows r' notes, labelsRows files r d.labels = (.ok rows, r')
      ∧ text = "\n".intercalate (header :: rows ++ notes) := by
  unfold render at h
  cases hrows : labelsRows files r d.labels with
  | mk rows r' =>
    rw [hrows] at h
    cases rows with
    | error e => cases h
    | ok rows =>
      cases h
      exact ⟨_, rows, r', _, rfl, rfl⟩

/-! ## Where the carets stand -/

/-- **Carets line up with a column of a line**: as many characters stand before the first caret
as before the character at the column, in the row of the line. -/
def LinedUp (row carets line : String) (column : Int) : Prop :=
  ∃ front c back, row.toList = front ++ c :: back
    ∧ line.toList.drop (column - 1).toNat = c :: back ∧ beforeCaret carets = front.length

/-- The character at a column of a line, in the row of the line. -/
theorem sourceRow_split (n : Int) {line : String} {column : Int} (hcolumn : 1 ≤ column)
    (hreach : column ≤ line.length) :
    ∃ front c back, (sourceRow false n line).toList = front ++ c :: back
      ∧ line.toList.drop (column - 1).toNat = c :: back
      ∧ front.length = (column - 1).toNat + max 4 (toString n).length + 5 := by
  have hlt : (column - 1).toNat < line.toList.length := by
    rw [String.length_toList]
    omega
  have hdrop := List.drop_eq_getElem_cons hlt
  refine ⟨("  " ++ gutter n ++ " | ").toList ++ line.toList.take (column - 1).toNat, _, _, ?_,
    hdrop, ?_⟩
  · rw [← hdrop, List.append_assoc, List.take_append_drop, sourceRow_plain, String.toList_append]
  · rw [List.length_append, String.length_toList, length_sourceFrame, List.length_take]
    omega

/-- **Carets stand left of what they point at.** In every diagnostic that is rendered without
colours, the row of a label within one line stands right above its row of carets, if the line is
there and reaches the first column of the label; and before the first caret are two characters
less than before the character at that column, and one more less for each digit of the line number
beyond four. -/
theorem carets_left_of_source {r : Renderer} {files : Files} {d : Diagnostic} {text line : String}
    {l : DiagnosticLabel} {lines : List String} (hplain : r.color = false)
    (hrender : (r.render files d).1 = .ok text) (hl : l ∈ d.labels)
    (hsame : l.location.start.line = l.location.stop.line)
    (hlines : r.linesShown files l.location.file = .ok lines)
    (hline : lineAt? lines l.location.start.line = some line)
    (hcolumn : 1 ≤ l.location.start.column) (hreach : l.location.start.column ≤ line.length) :
    ∃ above carets below front c back,
      text = "\n".intercalate
        (above ++ sourceRow false l.location.start.line line :: carets :: below)
      ∧ caretRow false l.location = .ok carets
      ∧ (sourceRow false l.location.start.line line).toList = front ++ c :: back
      ∧ line.toList.drop (l.location.start.column - 1).toNat = c :: back
      ∧ '^' ∈ carets.toList
      ∧ beforeCaret carets + (max 4 (toString l.location.start.line).length - 2) = front.length
      ∧ ¬ LinedUp (sourceRow false l.location.start.line line) carets line
        l.location.start.column := by
  obtain ⟨header, rows, r', notes, hrows, rfl⟩ := exists_rows_of_render hrender
  obtain ⟨above, own, below, rfl, hown⟩ := exists_rows_of_mem hrows hl hlines
  rw [hplain, hline] at hown
  obtain ⟨carets, above', below', hcarets, rfl⟩ := exists_caretRow hsame hown
  obtain ⟨hmem, hbefore⟩ := beforeCaret_caretRow hcarets
  obtain ⟨front, c, back, hrow, hdrop, hfront⟩ :=
    sourceRow_split l.location.start.line hcolumn hreach
  refine ⟨header :: above ++ above', carets, below' ++ below ++ notes, front, c, back, ?_,
    hcarets, hrow, hdrop, hmem, by omega, ?_⟩
  · simp only [List.append_assoc, List.cons_append]
  · -- what stands before the character is the same, however the row is cut there
    rintro ⟨front', c', back', hrow', hdrop', hlined⟩
    obtain ⟨rfl, rfl⟩ := List.cons.inj (hdrop'.symm.trans hdrop)
    have hfront' : front' = front := List.append_cancel_right (hrow'.symm.trans hrow)
    rw [hlined, hfront'] at hbefore
    omega

/-- The diagnostic of a character that no pattern matches, at the fifth column of a line. -/
def strayCharacter : Diagnostic :=
  ⟨"E100", "invalid character '@'", [⟨.along "in.txt" 1 5, "here"⟩], []⟩

/-- The rows of that diagnostic, below the line `let @ = 1`. -/
def strayRows : List String :=
  ["error[E100]: invalid character '@'", "  --> in.txt:1:5", "     |", "     1 | let @ = 1",
    "     |     ^", "     |   here"]

/-- The renderer that knows this one line. -/
def strayRenderer : Renderer := ofSources false [("in.txt", "let @ = 1")]

/-- The line `let @ = 1` is shown above carets that are two columns left of where they belong. -/
theorem carets_left_of_source_stray :
    (strayRenderer.render {} strayCharacter).1 = .ok ("\n".intercalate strayRows)
      ∧ strayRenderer.linesShown {} "in.txt" = .ok ["let @ = 1"]
      ∧ ∃ above carets below front c back,
        "\n".intercalate strayRows = "\n".intercalate
          (above ++ sourceRow false 1 "let @ = 1" :: carets :: below)
        ∧ caretRow false (.along "in.txt" 1 5) = .ok carets
        ∧ (sourceRow false 1 "let @ = 1").toList = front ++ c :: back
        ∧ "let @ = 1".toList.drop (5 - 1 : Int).toNat = c :: back
        ∧ '^' ∈ carets.toList
        ∧ beforeCaret carets + (max 4 (toString (1 : Int)).length - 2) = front.length
        ∧ ¬ LinedUp (sourceRow false 1 "let @ = 1") carets "let @ = 1" 5 := by
  have hrender : (strayRenderer.render {} strayCharacter).1
      = .ok ("\n".intercalate strayRows) := by
    decide +kernel
  have hlines : strayRenderer.linesShown {} "in.txt" = .ok ["let @ = 1"] := by
    decide +kernel
  have hline : lineAt? ["let @ = 1"] 1 = some "let @ = 1" := by
    decide +kernel
  have hleft := carets_left_of_source (l := ⟨.along "in.txt" 1 5, "here"⟩) rfl hrender
    (List.mem_singleton.mpr rfl) rfl hlines hline (by decide) (by decide +kernel)
  exact ⟨hrender, hlines, hleft⟩

/-- **A caret below the wrong character.** The rows of the line and of the carets are there, and
they do not line up: eleven characters stand before the caret, and thirteen before what it is
meant for. -/
theorem caret_misplaced :
    (strayRenderer.render {} strayCharacter).1 = .ok ("\n".intercalate strayRows)
      ∧ strayRows[3]? = some (sourceRow false 1 "let @ = 1")
      ∧ strayRows[4]? = some "     |     ^"
      ∧ ¬ LinedUp (sourceRow false 1 "let @ = 1") "     |     ^" "let @ = 1" 5 := by
  refine ⟨by decide +kernel, by decide +kernel, rfl, ?_⟩
  rintro ⟨front, c, back, hrow, hdrop, hlined⟩
  have hshown : (sourceRow false 1 "let @ = 1").toList.length = 18 := by decide +kernel
  have hcaret : beforeCaret "     |     ^" = 11 := by decide +kernel
  have hback : ("let @ = 1".toList.drop (5 - 1 : Int).toNat).length = 5 := by decide +kernel
  rw [hrow, List.length_append, List.length_cons] at hshown
  rw [hdrop, List.length_cons] at hback
  omega

end ParseKit.Renderer
