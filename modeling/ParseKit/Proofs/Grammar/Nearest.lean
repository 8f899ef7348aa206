import ParseKit.Grammar.Search
import Mathlib.Data.List.Infix
import Mathlib.Data.List.Induction

/-!
# The nearest grammar file

A grammar is looked for in a directory, then in the one above, and so on up to the root. The
search has no other bound than that (`Grammar.Climbs`): it ends because the root is the only path
that is above itself. `Grammar.firstEntry_candidates` says what one step of it does, and the rest
goes up with it.

A path lies above another just when it is a prefix of it, so that the paths above a place are a
chain. What the search comes to is settled by the first of them, from the place upwards, about
which the file system does not say that there is no grammar file (`Grammar.Settles`): there is
one, or there is no answer, and then the search ends with the refusal. Of a file system nothing is
assumed but that it answers the same to the same question. `Grammar.search_finds_nearest` says all
this together; where every question is answered, it says that the nearest grammar file is found,
or nothing if there is none, and that a place that is itself a file is taken before anything else
is looked at.
-/

namespace ParseKit

/-! ## Paths above a path -/

namespace Path

/-- **The directory above a path.** The root is above itself. -/
def parent (p : Path) : Path := p.dropLast

@[simp] theorem parent_concat (p : Path) (name : String) : parent (p ++ [name]) = p :=
  List.dropLast_concat

/-- **Only the root is above itself.** -/
theorem parent_eq_self_iff {p : Path} : p.parent = p ↔ p = [] := by
  constructor
  · intro h
    by_contra hne
    have hlength := congrArg List.length h
    rw [parent, List.length_dropLast] at hlength
    have hpos := List.length_pos_of_ne_nil hne
    omega
  · rintro rfl
    rfl

theorem ancestors_concat (p : Path) (name : String) :
    ancestors (p ++ [name]) = (p ++ [name]) :: ancestors p := by
  unfold ancestors
  rw [List.reverse_append, List.reverse_singleton, List.singleton_append, ancestors.go,
    List.reverse_cons, List.reverse_reverse]

/-- **Going up ends at the root.** -/
theorem ancestors_eq (p : Path) :
    ancestors p = p :: if p.parent = p then [] else ancestors p.parent := by
  cases p using List.reverseRecOn with
  | nil => rfl
  | append_singleton p name =>
    have hne : ¬ parent (p ++ [name]) = p ++ [name] := by simp
    rw [if_neg hne, parent_concat, ancestors_concat]

/-- What lies above a path is the path or lies above its parent. -/
theorem prefix_iff_of_parent_ne {p q : Path} (hup : p.parent ≠ p) :
    q <+: p ↔ q = p ∨ q <+: p.parent := by
  cases p using List.reverseRecOn with
  | nil => exact absurd rfl hup
  | append_singleton p name => rw [parent_concat, List.prefix_concat_iff]

/-- **The paths above a path are its prefixes.** -/
theorem mem_ancestors_iff {p q : Path} : q ∈ ancestors p ↔ q <+: p := by
  induction p using List.reverseRecOn with
  | nil => exact List.mem_singleton.trans List.prefix_nil.symm
  | append_singleton p name ih =>
    rw [ancestors_concat, List.mem_cons, ih, List.prefix_concat_iff]

end Path

/-! ## The search -/

namespace Grammar

variable {ε : Type} {fs : FileSystem ε} {p q : Path}

/-- **One step of the search**: the grammar file in a directory, or else what is found from the
directory above. At the root, nothing is. -/
theorem firstEntry_candidates (fs : FileSystem ε) (p : Path) :
    firstEntry fs (candidates p)
      = match fs.hasEntry (p ++ [grammarFilename]) with
        | .error e => .error (.refused e)
        | .ok true => .ok (p ++ [grammarFilename])
        | .ok false =>
          if p.parent = p then .error .notFound else firstEntry fs (candidates p.parent) := by
  rw [candidates, Path.ancestors_eq, List.map_cons, firstEntry]
  cases fs.hasEntry (p ++ [grammarFilename]) with
  | error e => rfl
  | ok answer =>
    cases answer with
    | true => rfl
    | false =>
      show firstEntry fs (List.map _ (if p.parent = p then [] else Path.ancestors p.parent))
        = if p.parent = p then _ else _
      split_ifs <;> rfl

/-- **Going up without a bound**, from directory to directory, to what is found. -/
inductive Climbs (fs : FileSystem ε) : Path → Except (SearchFault ε) Path → Prop where
  /-- Whether the grammar file is there is not answered. -/
  | refused {p : Path} {e : ε} (hentry : fs.hasEntry (p ++ [grammarFilename]) = .error e) :
      Climbs fs p (.error (.refused e))
  /-- It is there. -/
  | found {p : Path} (hentry : fs.hasEntry (p ++ [grammarFilename]) = .ok true) :
      Climbs fs p (.ok (p ++ [grammarFilename]))
  /-- It is not, and there is nothing above. -/
  | root {p : Path} (hentry : fs.hasEntry (p ++ [grammarFilename]) = .ok false)
      (hroot : p.parent = p) : Climbs fs p (.error .notFound)
  /-- It is not, and the search goes on above. -/
  | up {p : Path} {r : Except (SearchFault ε) Path}
      (hentry : fs.hasEntry (p ++ [grammarFilename]) = .ok false) (hup : p.parent ≠ p)
      (hrest : Climbs fs p.parent r) : Climbs fs p r

theorem Climbs.eq {r : Except (SearchFault ε) Path} (h : Climbs fs p r) :
    r = firstEntry fs (candidates p) := by
  induction h with
  | refused hentry => rw [firstEntry_candidates, hentry]
  | found hentry => rw [firstEntry_candidates, hentry]
  | root hentry hroot =>
    rw [firstEntry_candidates, hentry]
    exact (if_pos hroot).symm
  | up hentry hup _ ih =>
    rw [firstEntry_candidates, hentry, ih]
    exact (if_neg hup).symm

/-- **Going up comes to an end**: there is a name less each time. -/
theorem climbs_firstEntry (fs : FileSystem ε) (p : Path) :
    Climbs fs p (firstEntry fs (candidates p)) := by
  induction p using List.reverseRecOn with
  | nil =>
    have hroot : Path.parent [] = [] := Path.parent_eq_self_iff.mpr rfl
    rw [firstEntry_candidates]
    cases hentry : fs.hasEntry ([] ++ [grammarFilename]) with
    | error e => exact .refused hentry
    | ok answer =>
      cases answer with
      | true => exact .found hentry
      | false =>
        show Climbs fs [] (if _ then _ else _)
        rw [if_pos hroot]
        exact .root hentry hroot
  | append_singleton p name ih =>
    have hup : Path.parent (p ++ [name]) ≠ p ++ [name] := by simp
    rw [firstEntry_candidates]
    cases hentry : fs.hasEntry (p ++ [name] ++ [grammarFilename]) with
    | error e => exact .refused hentry
    | ok answer =>
      cases answer with
      | true => exact .found hentry
      | false =>
        show Climbs fs (p ++ [name]) (if _ then _ else _)
        rw [if_neg hup]
        refine .up hentry hup ?_
        rw [Path.parent_concat]
        exact ih

/-- **The first directory with another answer than no**, of a path and those above it: further
down, the file system says of every directory that it has no grammar file, and of this one it
gives some answer. -/
structure Settles (fs : FileSystem ε) (p q : Path) (answer : Except ε Bool) : Prop where
  /-- It is the path, or above it. -/
  above : q <+: p
  /-- This is what is answered about its grammar file. -/
  answered : fs.hasEntry (q ++ [grammarFilename]) = answer
  /-- No directory further down has one. -/
  nearest : ∀ q', q' <+: p → q.length < q'.length →
    fs.hasEntry (q' ++ [grammarFilename]) = .ok false

/-- **No directory has a grammar file**, of a path and those above it. -/
def HasNone (fs : FileSystem ε) (p : Path) : Prop :=
  ∀ q, q <+: p → fs.hasEntry (q ++ [grammarFilename]) = .ok false

/-- What a search comes to by the answer about a directory. -/
def settled (q : Path) : Except ε Bool → Except (SearchFault ε) Path
  | .error e => .error (.refused e)
  | .ok true => .ok (q ++ [grammarFilename])
  | .ok false => .error .notFound

theorem settles_self {answer : Except ε Bool}
    (h : fs.hasEntry (p ++ [grammarFilename]) = answer) : Settles fs p p answer where
  above := List.prefix_rfl
  answered := h
  nearest := fun _ hq' hlt => absurd hq'.length_le (Nat.not_le.mpr hlt)

/-- What settles a search from the directory above settles it where there is no grammar file. -/
theorem Settles.up {answer : Except ε Bool} (h : Settles fs p.parent q answer)
    (hup : p.parent ≠ p) (hnone : fs.hasEntry (p ++ [grammarFilename]) = .ok false) :
    Settles fs p q answer where
  above := (Path.prefix_iff_of_parent_ne hup).mpr (.inr h.above)
  answered := h.answered
  nearest := by
    intro q' hq' hlt
    rcases (Path.prefix_iff_of_parent_ne hup).mp hq' with rfl | hq'
    · exact hnone
    · exact h.nearest q' hq' hlt

theorem HasNone.up (h : HasNone fs p.parent) (hup : p.parent ≠ p)
    (hnone : fs.hasEntry (p ++ [grammarFilename]) = .ok false) : HasNone fs p := by
  intro q hq
  rcases (Path.prefix_iff_of_parent_ne hup).mp hq with rfl | hq
  · exact hnone
  · exact h q hq

/-- **Going up comes to the first answer other than no**, or to nothing at the root. -/
theorem Climbs.outcome {r : Except (SearchFault ε) Path} (h : Climbs fs p r) :
    (∃ q answer, Settles fs p q answer ∧ answer ≠ .ok false ∧ r = settled q answer)
      ∨ HasNone fs p ∧ r = .error .notFound := by
  induction h with
  | refused hentry => exact .inl ⟨_, .error _, settles_self hentry, nofun, rfl⟩
  | found hentry => exact .inl ⟨_, .ok true, settles_self hentry, by simp, rfl⟩
  | root hentry hroot =>
    obtain rfl := Path.parent_eq_self_iff.mp hroot
    refine .inr ⟨fun q hq => ?_, rfl⟩
    rw [List.prefix_nil.mp hq]
    exact hentry
  | up hentry hup _ ih =>
    rcases ih with ⟨q, answer, hq, hanswer, hfound⟩ | ⟨hnone, hfound⟩
    · exact .inl ⟨q, answer, hq.up hup hentry, hanswer, hfound⟩
    · exact .inr ⟨hnone.up hup hentry, hfound⟩

/-- **A search is settled by one directory**, and by one answer. -/
theorem Settles.unique {q' : Path} {answer answer' : Except ε Bool} (h : Settles fs p q answer)
    (h' : Settles fs p q' answer') (hanswer : answer ≠ .ok false) (hanswer' : answer' ≠ .ok false) :
    q = q' ∧ answer = answer' := by
  have hle : q'.length ≤ q.length := by
    by_contra hlt
    exact hanswer' (h'.answered.symm.trans (h.nearest q' h'.above (Nat.not_le.mp hlt)))
  have hge : q.length ≤ q'.length := by
    by_contra hlt
    exact hanswer (h.answered.symm.trans (h'.nearest q h.above (Nat.not_le.mp hlt)))
  have hsame : q = q' :=
    (List.prefix_of_prefix_length_le h.above h'.above hge).eq_of_length_le hle
  subst hsame
  exact ⟨rfl, h.answered.symm.trans h'.answered⟩

theorem Settles.not_hasNone {answer : Except ε Bool} (h : Settles fs p q answer)
    (hanswer : answer ≠ .ok false) : ¬ HasNone fs p := fun hnone =>
  hanswer (h.answered.symm.trans (hnone q h.above))

/-- What settles a search says what it comes to. -/
theorem Settles.firstEntry_eq {answer : Except ε Bool} (h : Settles fs p q answer)
    (hanswer : answer ≠ .ok false) : firstEntry fs (candidates p) = settled q answer := by
  rcases (climbs_firstEntry fs p).outcome with ⟨q', answer', hq', hanswer', hfound⟩ | ⟨hnone, -⟩
  · obtain ⟨rfl, rfl⟩ := h.unique hq' hanswer hanswer'
    exact hfound
  · exact absurd hnone (h.not_hasNone hanswer)

/-! What going up comes to, for each of its outcomes. -/

theorem firstEntry_eq_ok_iff (fs : FileSystem ε) (p r : Path) :
    firstEntry fs (candidates p) = .ok r
      ↔ ∃ q, Settles fs p q (.ok true) ∧ r = q ++ [grammarFilename] := by
  constructor
  · intro h
    rcases (climbs_firstEntry fs p).outcome with ⟨q, answer, hq, hanswer, hfound⟩ | ⟨-, hfound⟩
    · rw [hfound] at h
      match answer with
      | .error e => cases h
      | .ok true =>
        cases h
        exact ⟨q, hq, rfl⟩
      | .ok false => exact absurd rfl hanswer
    · cases hfound.symm.trans h
  · rintro ⟨q, hq, rfl⟩
    exact hq.firstEntry_eq (by simp)

theorem firstEntry_eq_refused_iff (fs : FileSystem ε) (p : Path) (e : ε) :
    firstEntry fs (candidates p) = .error (.refused e) ↔ ∃ q, Settles fs p q (.error e) := by
  constructor
  · intro h
    rcases (climbs_firstEntry fs p).outcome with ⟨q, answer, hq, hanswer, hfound⟩ | ⟨-, hfound⟩
    · rw [hfound] at h
      match answer with
      | .error e' =>
        cases h
        exact ⟨q, hq⟩
      | .ok true => cases h
      | .ok false => exact absurd rfl hanswer
    · cases hfound.symm.trans h
  · rintro ⟨q, hq⟩
    exact hq.firstEntry_eq nofun

theorem firstEntry_eq_notFound_iff (fs : FileSystem ε) (p : Path) :
    firstEntry fs (candidates p) = .error .notFound ↔ HasNone fs p := by
  rcases (climbs_firstEntry fs p).outcome with ⟨q, answer, hq, hanswer, hfound⟩ | ⟨hnone, hfound⟩
  · refine iff_of_false (fun h => ?_) (hq.not_hasNone hanswer)
    rw [hfound] at h
    match answer with
    | .error e => cases h
    | .ok true => cases h
    | .ok false => exact absurd rfl hanswer
  · exact iff_of_true hfound hnone

/-- **What a search from a place comes to.** -/
structure SearchedFrom (fs : FileSystem ε) (p : Path) (found : Except (SearchFault ε) Path) :
    Prop where
  /-- A file is found itself. -/
  itself : fs.isFile p = .ok true → found = .ok p
  /-- From anything else, the nearest grammar file is found: that of the place or of a directory
  above it, where none further down has one. -/
  nearest : fs.isFile p = .ok false →
    ∀ r, found = .ok r ↔ ∃ q, Settles fs p q (.ok true) ∧ r = q ++ [grammarFilename]
  /-- If there is none up to the root, nothing is found, and only then. -/
  missing : fs.isFile p = .ok false → (found = .error .notFound ↔ HasNone fs p)
  /-- The file system stops the search just when it does not answer a question that comes before
  the search is settled. -/
  refused : ∀ e, found = .error (.refused e)
    ↔ fs.isFile p = .error e ∨ fs.isFile p = .ok false ∧ ∃ q, Settles fs p q (.error e)

theorem findFrom_searched (fs : FileSystem ε) (p : Path) :
    SearchedFrom fs p (findFrom fs p) := by
  rw [findFrom]
  cases hfile : fs.isFile p with
  | error e => exact ⟨by simp [hfile], by simp [hfile], by simp [hfile], by simp [hfile]⟩
  | ok answer =>
    cases answer with
    | true => exact ⟨fun _ => rfl, by simp [hfile], by simp [hfile], by simp [hfile]⟩
    | false =>
      refine ⟨by simp [hfile], fun _ => firstEntry_eq_ok_iff fs p,
        fun _ => firstEntry_eq_notFound_iff fs p, fun e => ?_⟩
      show firstEntry fs (candidates p) = _ ↔ _
      rw [firstEntry_eq_refused_iff, hfile]
      simp

/-- **The search finds the nearest grammar file**, from every place in every file system. If the
place is no file, this is what going up without a bound comes to. -/
theorem search_finds_nearest {start : Option String} (h : fs.resolve start = .ok p) :
    SearchedFrom fs p (search fs start)
      ∧ (fs.isFile p = .ok false → ∀ r, Climbs fs p r ↔ r = search fs start) := by
  have hsearch : search fs start = findFrom fs p := by rw [search, h]
  rw [hsearch]
  refine ⟨findFrom_searched fs p, fun hfile r => ?_⟩
  rw [findFrom, hfile]
  constructor
  · exact Climbs.eq
  · rintro rfl
    exact climbs_firstEntry fs p

/-- Two grammar files, one below the other, and a file below both. -/
def nestedFiles : Files where
  directories := [["a"], ["a", "b"]]
  files := [(["descent.toml"], .empty), (["a", "descent.toml"], .empty), (["a", "b", "x"], .empty)]

/-- From a place that is not there, the second grammar file is found; the file is found itself. -/
theorem search_finds_nearest_nested :
    nestedFiles.system.resolve (some "a/b/gone") = .ok ["a", "b", "gone"]
      ∧ nestedFiles.hasEntry ["a", "b", "gone"] = false
      ∧ Settles nestedFiles.system ["a", "b", "gone"] ["a"] (.ok true)
      ∧ search nestedFiles.system (some "a/b/gone") = .ok ["a", "descent.toml"]
      ∧ nestedFiles.system.resolve (some "a/b/./x") = .ok ["a", "b", "x"]
      ∧ search nestedFiles.system (some "a/b/./x") = .ok ["a", "b", "x"] := by
  have hgone : nestedFiles.system.resolve (some "a/b/gone") = .ok ["a", "b", "gone"] := by
    decide +kernel
  have hfile : nestedFiles.system.resolve (some "a/b/./x") = .ok ["a", "b", "x"] := by
    decide +kernel
  have hnearest : Settles nestedFiles.system ["a", "b", "gone"] ["a"] (.ok true) := by
    have hall : ∀ q ∈ Path.ancestors ["a", "b", "gone"], 1 < q.length →
        nestedFiles.system.hasEntry (q ++ [grammarFilename]) = .ok false := by
      decide +kernel
    exact ⟨⟨["b", "gone"], rfl⟩, by decide +kernel,
      fun q hq => hall q (Path.mem_ancestors_iff.mpr hq)⟩
  exact ⟨hgone, by decide +kernel, hnearest,
    ((search_finds_nearest hgone).1.nearest (by decide +kernel) _).mpr ⟨_, hnearest, rfl⟩, hfile,
    (search_finds_nearest hfile).1.itself (by decide +kernel)⟩

end Grammar

end ParseKit
