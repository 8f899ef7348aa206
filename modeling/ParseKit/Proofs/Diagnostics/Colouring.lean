import ParseKit.Diagnostic
import ParseKit.Proofs.Tree.Colouring

/-!
# Colour is presentation only

With colours and without, the same is shown. For dumps this is said by
`Dumpable.shows_dump`. A diagnostic is rendered with lines of sources that the renderer
looks up and keeps, so two renderers are compared that know the same lines, one with
colours and one without (`Renderer.Twins`). Rendering one diagnostic keeps them twins, and
what the one renders shows what the other does, or both fail with the same fault
(`Renderer.Twins.render`); so this holds of any diagnostics that are rendered one after the
other, while files may change in between (`Renderer.Twins.renderEach`).
`colour_presents` is both, with the colour sequences taken out.
-/

namespace ParseKit

open Text

/-! ## Clear texts -/

/-- **The texts of a diagnostic are clear.** -/
structure Diagnostic.Clear (d : Diagnostic) : Prop where
  /-- Its code. -/
  code : Text.Clear d.code
  /-- Its message. -/
  message : Text.Clear d.message
  /-- The names of files that its labels point into. -/
  files : ∀ l ∈ d.labels, Text.Clear l.location.file
  /-- What is said about them. -/
  labels : ∀ l ∈ d.labels, Text.Clear l.message
  /-- Its remarks. -/
  notes : ∀ note ∈ d.notes, Text.Clear note

/-- **The texts of files are clear**, of those that are texts. -/
def Files.Clear (f : Files) : Prop :=
  ∀ e ∈ f.files, ∀ s, readText? e.2 = some s → Text.Clear s

/-- What a path leads to is among the files. -/
theorem Files.mem_of_locate? {f : Files} {text : String} {bytes : ByteArray}
    (h : f.locate? text = some (.file bytes)) : ∃ p, (p, bytes) ∈ f.files := by
  unfold locate? at h
  split at h
  · cases h
  · obtain ⟨p, -, hentry⟩ := Option.bind_eq_some_iff.mp h
    unfold entry? at hentry
    split at hentry
    · cases hentry
    · cases hlookup : f.files.lookup p with
      | some found =>
        rw [hlookup] at hentry
        cases hentry
        obtain ⟨front, back, hfiles, -⟩ := List.lookup_eq_some_iff.mp hlookup
        exact ⟨p, hfiles ▸ List.mem_append_right front List.mem_cons_self⟩
      | none =>
        rw [hlookup] at hentry
        dsimp only at hentry
        split at hentry <;> cases hentry

theorem Location.clear_text {l : Location} (h : Text.Clear l.file) : Text.Clear l.text :=
  clear_append.mpr ⟨clear_append.mpr ⟨h, by decide⟩, l.start.clear_text⟩

namespace Renderer

theorem clear_linesOfFile {files : Files} (hfiles : files.Clear) {name : String}
    {lines : List String} (h : linesOfFile files name = .ok lines) :
    ∀ line ∈ lines, Text.Clear line := by
  unfold linesOfFile at h
  split at h
  case h_1 bytes hlocate =>
    obtain ⟨p, hmem⟩ := Files.mem_of_locate? hlocate
    split at h
    case h_1 s hread =>
      cases h
      exact fun line hline => clear_of_mem_splitLines (hfiles _ hmem s hread) hline
    case h_2 => cases h
  case h_2 =>
    cases h
    exact fun line hline => nomatch hline

/-! ## Rows -/

theorem shows_headerRow {d : Diagnostic} (h : d.Clear) :
    Shows (headerRow true d) (headerRow false d) := by
  have hseverity : Text.Clear (d.severity ++ "[") := (by decide : Text.Clear ("error" ++ "["))
  have hcode : Text.Clear (d.severity ++ "[" ++ d.code ++ "]") :=
    clear_append.mpr ⟨clear_append.mpr ⟨hseverity, h.code⟩, by decide⟩
  have hmessage : Text.Clear (": " ++ d.message) := clear_append.mpr ⟨by decide, h.message⟩
  exact (hcode.shows.paint (by decide)).append (hmessage.shows.paint (by decide))

/-- A row begins with a mark in the style of the frame. -/
theorem shows_framed {mark : String} (h : Text.Clear mark) :
    Shows ("  " ++ paint true frameStyle mark) ("  " ++ paint false frameStyle mark) := by
  have hmargin : Text.Clear "  " := by decide
  exact hmargin.shows.append (h.shows.paint (by decide))

theorem shows_placeRow {l : Location} (h : Text.Clear l.file) :
    Shows (placeRow true l) (placeRow false l) := by
  have hspace : Text.Clear " " := by decide
  exact ((shows_framed (by decide)).append hspace.shows).append (Location.clear_text h).shows

theorem shows_bareFrame : Shows (bareFrame true) (bareFrame false) := shows_framed (by decide)

theorem shows_sourceRow (n : Int) {line : String} (h : Text.Clear line) :
    Shows (sourceRow true n line) (sourceRow false n line) := by
  have hspace : Text.Clear " " := by decide
  have hgutter : Text.Clear (gutter n ++ " |") :=
    clear_append.mpr ⟨clear_append.mpr ⟨clear_replicate _ (by decide), clear_toString_int n⟩,
      by decide⟩
  exact ((shows_framed hgutter).append hspace.shows).append h.shows

theorem shows_messageRow {message : String} (h : Text.Clear message) :
    Shows (messageRow true message) (messageRow false message) := by
  have hgap : Text.Clear "   " := by decide
  exact (shows_bareFrame.append hgap.shows).append (h.shows.paint (by decide))

theorem shows_noteRow {note : String} (h : Text.Clear note) :
    Shows (noteRow true note) (noteRow false note) := by
  have hword : Text.Clear " note: " := by decide
  exact ((shows_framed (by decide)).append hword.shows).append h.shows

/-- **Two outcomes with rows of which the one shows the other**, or with the same fault. -/
inductive RowsShown :
    (painted plain : Except RenderFault (List String)) → Prop where
  /-- There are rows. -/
  | ok {as bs : List String} (h : List.Forall₂ Shows as bs) : RowsShown (.ok as) (.ok bs)
  /-- There is a fault. -/
  | error (e : RenderFault) : RowsShown (.error e) (.error e)

theorem RowsShown.map {painted plain : Except RenderFault (List String)}
    (h : RowsShown painted plain) {f g : List String → List String}
    (hfg : ∀ {as bs : List String}, List.Forall₂ Shows as bs → List.Forall₂ Shows (f as) (g bs)) :
    RowsShown (painted.map f) (plain.map g) := by
  cases h with
  | ok h => exact .ok (hfg h)
  | error e => exact .error e

theorem clear_stretch {c : Char} (hc : c ≠ escape) {n : Int} {s : String}
    (h : stretch c n = .ok s) : Text.Clear s := by
  unfold stretch at h
  split_ifs at h
  cases h
  exact clear_replicate _ hc

/-- The rows of carets, or the same fault. -/
theorem shows_caretRow (l : Location) :
    RowsShown ((caretRow true l).map fun row => [row])
      ((caretRow false l).map fun row => [row]) := by
  have hspace : Text.Clear " " := by decide
  unfold caretRow
  cases hpadding : stretch ' ' (l.start.column - 1) with
  | error e => exact .error e
  | ok padding =>
    cases hcarets : stretch '^' (caretCount l) with
    | error e => exact .error e
    | ok carets =>
      have hrow := ((shows_bareFrame.append hspace.shows).append
        (clear_stretch (by decide) hpadding).shows).append
        ((clear_stretch (by decide) hcarets).shows.paint (s := errorStyle) (by decide))
      exact .ok (.cons hrow .nil)

/-- The row of carets, if the place is within one line. -/
def caretRows (color : Bool) (l : Location) : Except RenderFault (List String) :=
  if l.start.line == l.stop.line then (caretRow color l).map fun row => [row] else .ok []

/-- The rows of a label are those around its row of carets. -/
theorem labelRows_eq (color : Bool) (line : Option String) (l : DiagnosticLabel) :
    labelRows color line l = (caretRows color l.location).map fun carets =>
      [placeRow color l.location, bareFrame color]
        ++ (line.toList.map fun line => sourceRow color l.location.start.line line)
        ++ carets
        ++ (if l.message.isEmpty then [] else [messageRow color l.message]) := by
  unfold labelRows caretRows
  cases l.location.start.line == l.location.stop.line with
  | false => rfl
  | true => cases caretRow color l.location <;> rfl

/-- **The rows of a label show those without colours**, or there is the same fault. -/
theorem shows_labelRows {l : DiagnosticLabel} (hfile : Text.Clear l.location.file)
    (hmessage : Text.Clear l.message) {line : Option String} (hline : ∀ s ∈ line, Text.Clear s) :
    RowsShown (labelRows true line l) (labelRows false line l) := by
  have hcarets : RowsShown (caretRows true l.location) (caretRows false l.location) := by
    unfold caretRows
    split
    · exact shows_caretRow l.location
    · exact .ok .nil
  have hsource : List.Forall₂ Shows
      (line.toList.map fun line => sourceRow true l.location.start.line line)
      (line.toList.map fun line => sourceRow false l.location.start.line line) := by
    cases line with
    | none => exact .nil
    | some s => exact .cons (shows_sourceRow _ (hline s rfl)) .nil
  have hsaid : List.Forall₂ Shows (if l.message.isEmpty then [] else [messageRow true l.message])
      (if l.message.isEmpty then [] else [messageRow false l.message]) := by
    split
    · exact .nil
    · exact .cons (shows_messageRow hmessage) .nil
  have hplace : List.Forall₂ Shows [placeRow true l.location, bareFrame true]
      [placeRow false l.location, bareFrame false] :=
    .cons (shows_placeRow hfile) (.cons shows_bareFrame .nil)
  rw [labelRows_eq, labelRows_eq]
  exact hcarets.map fun hrows =>
    List.rel_append (List.rel_append (List.rel_append hplace hsource) hrows) hsaid

/-! ## Twins -/

/-- **Two renderers know the same lines**, which are clear, and one uses colours and the
other does not. -/
structure Twins (painted plain : Renderer) : Prop where
  /-- One uses colours. -/
  coloured : painted.color = true
  /-- The other does not. -/
  uncoloured : plain.color = false
  /-- They know the same. -/
  known : painted.known = plain.known
  /-- The lines are clear. -/
  clear : ∀ e ∈ plain.known, ∀ line ∈ e.2, Text.Clear line

theorem twins_ofSources {sources : List (String × String)}
    (h : ∀ e ∈ sources, Text.Clear e.2) :
    Twins (ofSources true sources) (ofSources false sources) where
  coloured := rfl
  uncoloured := rfl
  known := rfl
  clear := by
    intro e he line hline
    obtain ⟨source, hsource, rfl⟩ := List.mem_map.mp he
    exact clear_of_mem_splitLines (h source hsource) hline

theorem clear_lineAt? {lines : List String} (h : ∀ line ∈ lines, Text.Clear line) (n : Int) :
    ∀ s ∈ lineAt? lines n, Text.Clear s := by
  intro s hs
  unfold lineAt? at hs
  split at hs
  · cases hs
  · exact h s (List.mem_of_getElem? hs)

namespace Twins

variable {painted plain : Renderer} {files : Files}

/-- **Twins find the same lines**, and are twins afterwards. -/
theorem lookup (h : Twins painted plain) (hfiles : files.Clear) (name : String) :
    (∃ e, painted.lookup files name = .error e ∧ plain.lookup files name = .error e)
      ∨ ∃ lines painted' plain', painted.lookup files name = .ok (lines, painted')
        ∧ plain.lookup files name = .ok (lines, plain') ∧ Twins painted' plain'
        ∧ ∀ line ∈ lines, Text.Clear line := by
  unfold Renderer.lookup
  rw [h.known]
  cases hknown : plain.known.lookup name with
  | some lines =>
    obtain ⟨front, back, hmem, -⟩ := List.lookup_eq_some_iff.mp hknown
    exact .inr ⟨lines, painted, plain, rfl, rfl, h,
      h.clear _ (hmem ▸ List.mem_append_right front List.mem_cons_self)⟩
  | none =>
    cases hlines : linesOfFile files name with
    | error e => exact .inl ⟨e, rfl, rfl⟩
    | ok lines =>
      have hclear := clear_linesOfFile hfiles hlines
      refine .inr ⟨lines, _, _, rfl, rfl, ⟨h.coloured, h.uncoloured, rfl, ?_⟩, hclear⟩
      exact List.forall_mem_append.mpr ⟨h.clear, List.forall_mem_singleton.mpr hclear⟩

/-- **The rows of labels**: they are shown, or twins fail alike, and are twins afterwards. -/
theorem labelsRows {labels : List DiagnosticLabel} (h : Twins painted plain)
    (hfiles : files.Clear) (hnames : ∀ l ∈ labels, Text.Clear l.location.file)
    (hmessages : ∀ l ∈ labels, Text.Clear l.message) :
    RowsShown (painted.labelsRows files labels).1 (plain.labelsRows files labels).1
      ∧ Twins (painted.labelsRows files labels).2 (plain.labelsRows files labels).2 := by
  induction labels generalizing painted plain with
  | nil => exact ⟨.ok .nil, h⟩
  | cons l rest ih =>
    rw [List.forall_mem_cons] at hnames hmessages
    simp only [Renderer.labelsRows]
    rcases h.lookup hfiles l.location.file with
      ⟨e, hpainted, hplain⟩ | ⟨lines, painted', plain', hpainted, hplain, htwins, hclear⟩
    · rw [hpainted, hplain]
      exact ⟨.error e, h⟩
    · have hrows := shows_labelRows hnames.1 hmessages.1
        (clear_lineAt? hclear l.location.start.line)
      rw [hpainted, hplain]
      dsimp only
      rw [htwins.coloured, htwins.uncoloured]
      generalize labelRows true (lineAt? lines l.location.start.line) l = first at hrows ⊢
      generalize labelRows false (lineAt? lines l.location.start.line) l = first' at hrows ⊢
      cases hrows with
      | error e => exact ⟨.error e, htwins⟩
      | ok hrows =>
        obtain ⟨hmore, hafter⟩ := ih htwins hnames.2 hmessages.2
        exact ⟨hmore.map fun h => List.rel_append hrows h, hafter⟩

/-- **Rendering a diagnostic keeps twins**, and without its colours what the one renders is
what the other does. -/
theorem render (h : Twins painted plain) (hfiles : files.Clear) {d : Diagnostic} (hd : d.Clear) :
    (painted.render files d).1.map stripColours = (plain.render files d).1
      ∧ Twins (painted.render files d).2 (plain.render files d).2 := by
  obtain ⟨hrows, htwins⟩ := h.labelsRows hfiles hd.files hd.labels
  have hnotes : List.Forall₂ Shows (d.notes.map (noteRow true)) (d.notes.map (noteRow false)) := by
    rw [List.forall₂_map_left_iff, List.forall₂_map_right_iff, List.forall₂_same]
    exact fun note hnote => shows_noteRow (hd.notes note hnote)
  cases hpainted : painted.labelsRows files d.labels with
  | mk rows painted' =>
    cases hplain : plain.labelsRows files d.labels with
    | mk rows' plain' =>
      rw [hpainted, hplain] at hrows htwins
      simp only [Renderer.render, hpainted, hplain]
      cases hrows with
      | error e => exact ⟨rfl, htwins⟩
      | ok hrows =>
        dsimp only
        rw [htwins.coloured, htwins.uncoloured]
        refine ⟨congrArg Except.ok (Shows.stripColours_eq (.lines ?_)), htwins⟩
        exact .cons (shows_headerRow hd) (List.rel_append hrows hnotes)

end Twins

/-! ## Diagnostics one after the other -/

/-- **Rendering diagnostics one after the other**, each with the files as they are then. -/
def renderEach : Renderer → List (Files × Diagnostic) → List (Except RenderFault String)
  | _, [] => []
  | r, (files, d) :: rest => (r.render files d).1 :: (r.render files d).2.renderEach rest

/-- **Without colours, all that twins render is the same.** -/
theorem Twins.renderEach {painted plain : Renderer} (h : Twins painted plain)
    {calls : List (Files × Diagnostic)} (hcalls : ∀ call ∈ calls, call.1.Clear ∧ call.2.Clear) :
    (painted.renderEach calls).map (·.map stripColours) = plain.renderEach calls := by
  induction calls generalizing painted plain with
  | nil => rfl
  | cons call rest ih =>
    obtain ⟨⟨hfiles, hd⟩, hrest⟩ := List.forall_mem_cons.mp hcalls
    obtain ⟨hfirst, htwins⟩ := h.render hfiles hd
    exact congrArg₂ List.cons hfirst (ih htwins hrest)

end Renderer

/-- **Colour is presentation only.** Without its colour sequences, a dump with colours is the
dump without; and so are the diagnostics that a renderer shows one after the other, from sources
held in memory and from files. Labels, expressions, diagnostics and sources are clear of the
escape character. -/
theorem colour_presents :
    (∀ x : Dumpable, x.Clear → ∃ plain painted, x.dump false = .ok plain
      ∧ x.dump true = .ok painted ∧ stripColours painted = plain)
    ∧ ∀ (sources : List (String × String)) (calls : List (Files × Diagnostic)),
      (∀ source ∈ sources, Text.Clear source.2) →
      (∀ call ∈ calls, call.1.Clear ∧ call.2.Clear) →
      ((Renderer.ofSources true sources).renderEach calls).map (·.map stripColours)
        = (Renderer.ofSources false sources).renderEach calls := by
  refine ⟨fun x hx => ?_, fun sources calls hsources hcalls => ?_⟩
  · obtain ⟨painted, plain, hpainted, hplain, hshows⟩ := Dumpable.shows_dump hx
    exact ⟨plain, painted, hplain, hpainted, hshows.stripColours_eq⟩
  · exact (Renderer.twins_ofSources hsources).renderEach hcalls

/-- A tree, a result, a token and a pattern. Texts may hold the escape character, and labels
what is left of a colour sequence without it. -/
def samples : List Dumpable :=
  [ .node (.mk 1 "[32m" (some "\x1b[0m") [.leaf 2 "a" (some "'"), .mk 3 "b" none [.leaf 4 ""]]),
    .result (.tagged "t" (.compound [.integer 12, .compound [.string "s", .none]])),
    .token ⟨5, "\x1b", "word", ⟨1, 7⟩, ⟨6, 7⟩, 6⟩,
    .pattern ⟨"escape", 6, .literal "\x1b"⟩ ]

/-- A diagnostic with a label in a source, one in a file that is not there, and a remark. -/
def sampleDiagnostic : Diagnostic :=
  ⟨"E1", "no such word", [⟨.along "in" 2 5 4, "here"⟩, ⟨.along "gone" 1 1, ""⟩], ["first seen"]⟩

/-- The samples have colours, and without them are the plain ones. -/
theorem colour_presents_samples :
    (∀ x ∈ samples, x.Clear ∧ x.dump true ≠ x.dump false ∧ ∃ plain painted, x.dump false = .ok plain
      ∧ x.dump true = .ok painted ∧ stripColours painted = plain)
    ∧ Text.Clear "let it\nbe so!" ∧ sampleDiagnostic.Clear
    ∧ ((Renderer.ofSources true [("in", "let it\nbe so!")]).renderEach
        [({}, sampleDiagnostic)]).map (·.map stripColours)
      = (Renderer.ofSources false [("in", "let it\nbe so!")]).renderEach
        [({}, sampleDiagnostic)] := by
  have hclear : ∀ x ∈ samples, x.Clear := by
    simp only [samples, List.forall_mem_cons]
    refine ⟨?_, ?_, ?_, ?_, List.forall_mem_nil _⟩
    · show ∀ m ∈ _, _
      decide
    · have hinner : (Result.compound [.string "s", .none]).ClearlyBuilt := by
        refine .compound (List.forall_mem_cons.mpr ⟨.string "s", ?_⟩)
        exact List.forall_mem_singleton.mpr .none
      refine .tagged (by decide) (.compound (List.forall_mem_cons.mpr ⟨.integer 12, ?_⟩))
      exact List.forall_mem_singleton.mpr hinner
    · show Text.Clear "word"
      decide
    · exact ⟨by decide, trivial⟩
  have hdiagnostic : sampleDiagnostic.Clear :=
    ⟨by decide, by decide, by decide, by decide, by decide⟩
  have hfiles : Files.Clear {} := fun e he => nomatch he
  have hpainted : ∀ x ∈ samples, x.dump true ≠ x.dump false := by decide +kernel
  refine ⟨fun x hx => ⟨hclear x hx, hpainted x hx, colour_presents.1 x (hclear x hx)⟩, by decide,
    hdiagnostic, colour_presents.2 _ _ ?_ ?_⟩
  · exact List.forall_mem_singleton.mpr (by decide)
  · exact List.forall_mem_singleton.mpr ⟨hfiles, hdiagnostic⟩

end ParseKit
