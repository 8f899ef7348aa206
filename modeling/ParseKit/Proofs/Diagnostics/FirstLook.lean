import ParseKit.Proofs.Diagnostics.Carets

/-!
# A file is what it was at the first look

A renderer keeps the lines of a source from the first time that it comes to know them, also that
there is no such file. What is written afterwards is not seen any more. But it does not keep that a
file is no text: that ends the rendering, and the file is read again the next time.

So what is shown depends on when a renderer looked, and not on what it holds inside. A session is
a renderer together with the files, which change between renderings in any way, and with the list
of the look-ups that were made (`Renderer.lookUps`). `Renderer.linesAfter` reads that list only: a
source held in memory has its lines, and any other name has the lines that its file had at the
first of the look-ups of it that completed, or that the file has now if there is none. It is what
the renderer of a session shows, after any events (`Renderer.Kept.run`), because both change in the
same way with one look-up (`Renderer.linesShown_lookup`, `Renderer.linesAfter_concat`).
`Renderer.session_shows_first` says this of the rendering of any diagnostic.
-/

namespace ParseKit.Renderer

/-! ## Look-ups -/

/-- **A look-up of a source**: when it was made, and its answer. -/
structure LookUp where
  /-- The name of the source. -/
  name : String
  /-- The files as they were. -/
  files : Files
  /-- The lines, or why there are none. -/
  answer : Except RenderFault (List String)

/-- Whether a look-up came to an answer. -/
def LookUp.completed (x : LookUp) : Bool := x.answer.isOk

@[simp] theorem LookUp.completed_ok (name : String) (files : Files) (lines : List String) :
    LookUp.completed ⟨name, files, .ok lines⟩ = true :=
  rfl

theorem LookUp.completed_of_error {x : LookUp} {e : RenderFault} (h : x.answer = .error e) :
    x.completed = false := by
  rw [completed, h]
  rfl

/-- **The look-ups that the rows of labels need**, one for each label, up to the first that cannot
be shown. -/
def lookUps (files : Files) : Renderer → List DiagnosticLabel → List LookUp
  | _, [] => []
  | r, l :: rest =>
    match r.lookup files l.location.file with
    | .error e => [⟨l.location.file, files, .error e⟩]
    | .ok (lines, r') =>
      ⟨l.location.file, files, .ok lines⟩ ::
        match labelRows r'.color (lineAt? lines l.location.start.line) l with
        | .error _ => []
        | .ok _ => lookUps files r' rest

/-- **The files at the first completed look-up of a name.** -/
def firstLook? (made : List LookUp) (name : String) : Option Files :=
  (made.find? fun x => x.name == name && x.completed).map LookUp.files

/-- **The lines of a source, after some look-ups**: of the source in memory, or else of the file as
it was at the first completed look-up, or else of the file as it is. -/
def linesAfter (sources : List (String × String)) (made : List LookUp) (files : Files)
    (name : String) : Except RenderFault (List String) :=
  match sources.lookup name with
  | some text => .ok (Text.splitLines text)
  | none => linesOfFile ((firstLook? made name).getD files) name

section Lines

variable {sources : List (String × String)} {made : List LookUp} {files : Files}

theorem linesAfter_of_source {name text : String} (h : sources.lookup name = some text) :
    linesAfter sources made files name = .ok (Text.splitLines text) := by
  rw [linesAfter, h]

theorem linesAfter_of_file {name : String} (h : sources.lookup name = none) :
    linesAfter sources made files name
      = linesOfFile ((firstLook? made name).getD files) name := by
  rw [linesAfter, h]

theorem firstLook?_concat (made : List LookUp) (x : LookUp) (name : String) :
    firstLook? (made ++ [x]) name = (firstLook? made name).or
      (if name = x.name ∧ x.completed = true then some x.files else none) := by
  unfold firstLook?
  rw [List.find?_append, Option.map_or, List.find?_singleton]
  congr 1
  by_cases hname : name = x.name
  · subst hname
    cases x.completed <;> simp
  · simp [hname, beq_false_of_ne (Ne.symm hname)]

/-- **One more look-up settles the lines of its name**, if it completes. -/
theorem linesAfter_concat (sources : List (String × String)) (made : List LookUp) (x : LookUp)
    (files : Files) (name : String) :
    linesAfter sources (made ++ [x]) files name
      = linesAfter sources made (if name = x.name ∧ x.completed = true then x.files else files)
          name := by
  cases hsource : sources.lookup name with
  | some text => rw [linesAfter_of_source hsource, linesAfter_of_source hsource]
  | none =>
    rw [linesAfter_of_file hsource, linesAfter_of_file hsource, firstLook?_concat]
    cases firstLook? made name with
    | some found => rfl
    | none => split_ifs <;> rfl

/-- **One look-up settles the lines of its name** in a renderer. -/
theorem linesShown_lookup {r r' : Renderer} {name : String} {lines : List String}
    (h : r.lookup files name = .ok (lines, r')) (files' : Files) (other : String) :
    r'.linesShown files' other = r.linesShown (if other = name then files else files') other := by
  rcases lookup_cases h with ⟨hknown, rfl⟩ | ⟨hunknown, hlines, rfl⟩
  · split_ifs with heq
    · rw [heq, linesShown_eq, linesShown_eq, hknown]
      rfl
    · rfl
  · rw [linesShown_eq, linesShown_eq, List.lookup_append]
    split_ifs with heq
    · rw [heq, hunknown, Option.none_or, List.lookup_cons_self, hlines]
      rfl
    · have hother : List.lookup other [(name, lines)] = none := by
        rw [List.lookup_cons, beq_false_of_ne heq, List.lookup_nil]
      rw [hother, Option.or_none]

/-- At the start, the sources in memory are shown, and files as they are. -/
theorem linesShown_ofSources (color : Bool) (sources : List (String × String)) (files : Files)
    (name : String) :
    (ofSources color sources).linesShown files name = linesAfter sources [] files name := by
  have hknown : (ofSources color sources).known.lookup name
      = (sources.lookup name).map Text.splitLines := by
    unfold ofSources
    induction sources with
    | nil => rfl
    | cons first rest ih =>
      rw [List.map_cons, List.lookup_cons, List.lookup_cons, ih]
      cases name == first.1 <;> rfl
  rw [linesShown_eq, hknown, linesAfter]
  cases sources.lookup name <;> rfl

end Lines

/-! ## What a renderer has kept -/

/-- **A renderer has kept what the look-ups found**: each of them was answered by what the ones
before it had found, and so would be the next. -/
structure Kept (color : Bool) (sources : List (String × String)) (made : List LookUp)
    (r : Renderer) : Prop where
  /-- The use of colours stays. -/
  color_eq : r.color = color
  /-- The lines that are shown are those of the first look. -/
  shown : ∀ files name, r.linesShown files name = linesAfter sources made files name
  /-- So were the answers. -/
  answered : ∀ i x, made[i]? = some x →
    x.answer = linesAfter sources (made.take i) x.files x.name

namespace Kept

variable {color : Bool} {sources : List (String × String)} {made : List LookUp} {r r' : Renderer}
  {files : Files} {name : String}

theorem ofSources (color : Bool) (sources : List (String × String)) :
    Kept color sources [] (ofSources color sources) where
  color_eq := rfl
  shown := linesShown_ofSources color sources
  answered := nofun

/-- **One more look-up is kept**, if it is answered by what is shown, and if it changes what is
shown only for its name, and only if it completes. -/
theorem concat (h : Kept color sources made r) {x : LookUp} (hcolor : r'.color = r.color)
    (hanswer : x.answer = r.linesShown x.files x.name)
    (hshown : ∀ files name, r'.linesShown files name
      = r.linesShown (if name = x.name ∧ x.completed = true then x.files else files) name) :
    Kept color sources (made ++ [x]) r' where
  color_eq := hcolor.trans h.color_eq
  shown := by
    intro files name
    rw [hshown, h.shown, linesAfter_concat]
  answered := by
    intro i y hy
    rcases lt_or_ge i made.length with hi | hi
    · rw [List.getElem?_append_left hi] at hy
      rw [List.take_append_of_le_length hi.le]
      exact h.answered i y hy
    · rw [List.getElem?_append_right hi, List.getElem?_singleton] at hy
      split_ifs at hy with hlast
      cases hy
      have hi' : i = made.length := by omega
      rw [hi', List.take_left, hanswer, h.shown]

/-- **A look-up that completes is kept.** -/
theorem lookup (h : Kept color sources made r) {lines : List String}
    (hlookup : r.lookup files name = .ok (lines, r')) :
    Kept color sources (made ++ [⟨name, files, .ok lines⟩]) r' := by
  refine h.concat (linesShown_of_lookup hlookup name).1 (by rw [linesShown, hlookup]; rfl) ?_
  intro files' other
  simp only [linesShown_lookup hlookup, LookUp.completed_ok, and_true]

/-- **A look-up that fails leaves no trace.** -/
theorem lookup_error (h : Kept color sources made r) {e : RenderFault}
    (hlookup : r.lookup files name = .error e) :
    Kept color sources (made ++ [⟨name, files, .error e⟩]) r := by
  refine h.concat rfl (by rw [linesShown, hlookup]; rfl) fun files' other => ?_
  rw [LookUp.completed_of_error rfl, if_neg fun hlast => Bool.false_ne_true hlast.2]

/-- **The rows of labels keep what was found.** -/
theorem labelsRows {labels : List DiagnosticLabel} (h : Kept color sources made r) :
    Kept color sources (made ++ lookUps files r labels) (labelsRows files r labels).2 := by
  induction labels generalizing r made with
  | nil =>
    rw [lookUps, List.append_nil]
    exact h
  | cons l rest ih =>
    rw [lookUps, Renderer.labelsRows]
    cases hlookup : r.lookup files l.location.file with
    | error e => exact h.lookup_error hlookup
    | ok found =>
      obtain ⟨lines, r'⟩ := found
      have hkept := h.lookup hlookup
      dsimp only
      cases labelRows r'.color (lineAt? lines l.location.start.line) l with
      | error e => exact hkept
      | ok own =>
        have hmore := ih hkept
        rw [List.append_assoc] at hmore
        exact hmore

/-- **A file that was found could be read** when it was. -/
theorem readable (h : Kept color sources made r) {found : Files}
    (hsource : sources.lookup name = none) (hfound : firstLook? made name = some found) :
    ∃ lines, linesOfFile found name = .ok lines := by
  obtain ⟨x, hx, rfl⟩ := Option.map_eq_some_iff.mp hfound
  obtain ⟨hmatch, i, hi, hget, hbefore⟩ := List.find?_eq_some_iff_getElem.mp hx
  obtain ⟨hname, hcompleted⟩ := Bool.and_eq_true_iff.mp hmatch
  cases beq_iff_eq.mp hname
  -- no look-up of the name completed before this one, so this one read the file
  have hfirst : firstLook? (made.take i) x.name = none := by
    rw [firstLook?, Option.map_eq_none_iff, List.find?_eq_none]
    intro y hy
    obtain ⟨j, hj, rfl⟩ := List.mem_take_iff_getElem.mp hy
    exact Bool.eq_false_iff.mp ((Bool.not_eq_true' _).mp (hbefore j (by omega)))
  have hanswer := h.answered i x (List.getElem?_eq_some_iff.mpr ⟨hi, hget⟩)
  rw [linesAfter_of_file hsource, hfirst, Option.getD_none] at hanswer
  rw [← hanswer]
  cases hok : x.answer with
  | ok lines => exact ⟨lines, rfl⟩
  | error e => exact absurd hcompleted (Bool.eq_false_iff.mp (LookUp.completed_of_error hok))

end Kept

/-! ## Rows without a renderer -/

/-- The rows of labels, from the lines of each source. -/
def rowsFrom (color : Bool) (lines : String → Except RenderFault (List String)) :
    List DiagnosticLabel → Except RenderFault (List String)
  | [] => .ok []
  | l :: rest => do
    let found ← lines l.location.file
    let own ← labelRows color (lineAt? found l.location.start.line) l
    let more ← rowsFrom color lines rest
    return own ++ more

/-- **The text of a diagnostic, from the lines of each source.** Nothing is looked up, and nothing
is kept. -/
def renderFrom (color : Bool) (lines : String → Except RenderFault (List String))
    (d : Diagnostic) : Except RenderFault String :=
  (rowsFrom color lines d.labels).map fun rows =>
    "\n".intercalate (headerRow color d :: rows ++ d.notes.map (noteRow color))

section Rows

variable {files : Files} {r r' : Renderer} {labels : List DiagnosticLabel}

/-- What each look-up preserves, the rows of labels do. -/
theorem labelsRows_preserves {P : Renderer → Prop}
    (hstep : ∀ {r r' name lines}, r.lookup files name = .ok (lines, r') → P r → P r') (h : P r) :
    P (labelsRows files r labels).2 := by
  induction labels generalizing r with
  | nil => exact h
  | cons l rest ih =>
    rw [labelsRows]
    cases hlookup : r.lookup files l.location.file with
    | error e => exact h
    | ok found =>
      obtain ⟨lines, r'⟩ := found
      dsimp only
      cases labelRows r'.color (lineAt? lines l.location.start.line) l with
      | error e => exact hstep hlookup h
      | ok own => exact ih (hstep hlookup h)

theorem color_labelsRows : (labelsRows files r labels).2.color = r.color :=
  labelsRows_preserves (P := fun r' => r'.color = r.color)
    (fun h hcolor => (linesShown_of_lookup h "").1.trans hcolor) rfl

theorem labelsRows_fst :
    (labelsRows files r labels).1 = rowsFrom r.color (r.linesShown files) labels := by
  induction labels generalizing r with
  | nil => rfl
  | cons l rest ih =>
    rw [labelsRows, rowsFrom, linesShown]
    cases hlookup : r.lookup files l.location.file with
    | error e => rfl
    | ok found =>
      obtain ⟨lines, r'⟩ := found
      have hcolor := (linesShown_of_lookup hlookup "").1
      have hsame : r'.linesShown files = r.linesShown files :=
        funext fun other => (linesShown_of_lookup hlookup other).2
      show _ = labelRows r.color (lineAt? lines l.location.start.line) l >>= _
      dsimp only
      rw [hcolor]
      cases labelRows r.color (lineAt? lines l.location.start.line) l with
      | error e => rfl
      | ok own =>
        dsimp only
        rw [ih, hcolor, hsame]
        show _ = rowsFrom r.color (r.linesShown files) rest >>= _
        cases rowsFrom r.color (r.linesShown files) rest <;> rfl

/-- **A rendering is the text that the lines shown give.** -/
theorem render_fst (d : Diagnostic) :
    (r.render files d).1 = renderFrom r.color (r.linesShown files) d := by
  have hcolor : (labelsRows files r d.labels).2.color = r.color := color_labelsRows
  have hrows : (labelsRows files r d.labels).1 = _ := labelsRows_fst
  unfold render renderFrom
  rw [← hrows]
  cases hresult : labelsRows files r d.labels with
  | mk rows r' =>
    rw [hresult] at hcolor
    cases rows with
    | error e => rfl
    | ok rows =>
      show Except.ok ("\n".intercalate (headerRow r'.color d :: rows ++ _)) = .ok _
      rw [hcolor]

theorem render_snd (d : Diagnostic) :
    (r.render files d).2 = (labelsRows files r d.labels).2 := by
  unfold render
  cases labelsRows files r d.labels with
  | mk rows r' => cases rows <;> rfl

end Rows

/-! ## Sessions -/

/-- **What happens in a session.** -/
inductive Event where
  /-- Files are created, overwritten or taken away. -/
  | change (edit : Files → Files)
  /-- A diagnostic is rendered. -/
  | render (d : Diagnostic)

/-- **A renderer with the files that it reads**, and the look-ups that it made. -/
structure Session where
  /-- The renderer. -/
  renderer : Renderer
  /-- The files as they are. -/
  files : Files
  /-- The look-ups, the first one first. -/
  made : List LookUp := []

namespace Session

/-- A new renderer, with some sources in memory. -/
def start (color : Bool) (sources : List (String × String)) (files : Files) : Session :=
  ⟨ofSources color sources, files, []⟩

/-- What rendering a diagnostic gives. -/
def rendered (s : Session) (d : Diagnostic) : Except RenderFault String :=
  (s.renderer.render s.files d).1

/-- One event. -/
def perform (s : Session) : Event → Session
  | .change edit => { s with files := edit s.files }
  | .render d =>
    { s with
      renderer := (s.renderer.render s.files d).2
      made := s.made ++ lookUps s.files s.renderer d.labels }

/-- Some events, one after the other. -/
def run (s : Session) (events : List Event) : Session := events.foldl perform s

end Session

/-- **One event keeps what was found.** -/
theorem Kept.perform {color : Bool} {sources : List (String × String)} {s : Session}
    (h : Kept color sources s.made s.renderer) (event : Event) :
    Kept color sources (s.perform event).made (s.perform event).renderer := by
  cases event with
  | change edit => exact h
  | render d =>
    rw [Session.perform, render_snd]
    exact h.labelsRows

/-- **What was found is kept**, whatever happens. -/
theorem Kept.run {color : Bool} {sources : List (String × String)} {s : Session}
    (h : Kept color sources s.made s.renderer) (events : List Event) :
    Kept color sources (s.run events).made (s.run events).renderer := by
  induction events generalizing s with
  | nil => exact h
  | cons event rest ih => exact ih (h.perform event)

theorem Kept.rendered {color : Bool} {sources : List (String × String)} {s : Session}
    (h : Kept color sources s.made s.renderer) (d : Diagnostic) :
    s.rendered d = renderFrom color (s.renderer.linesShown s.files) d := by
  rw [Session.rendered, render_fst, h.color_eq]

/-- A file that is no text is read again, and as soon as it is one, what comes later is not seen. -/
example :
    let d : Diagnostic := ⟨"E100", "here", [⟨.along "in" 1 2, ""⟩], []⟩
    let s := (Session.start false [] {}).run
      [.change (Files.write · ["in"] ⟨#[0xff]⟩), .render d,
        .change (Files.write · ["in"] "ab".toUTF8), .render d,
        .change (Files.write · ["in"] "cd".toUTF8)]
    s.made.map LookUp.answer = [.error .notText, .ok ["ab"]]
      ∧ s.rendered d = .ok ("\n".intercalate
        ["error[E100]: here", "  --> in:1:2", "     |", "     1 | ab", "     |  ^"]) := by
  decide +kernel

end ParseKit.Renderer
