import ParseKit.Regex.Match

/-!
# Matches end within the subject

Matching goes from point to point, and what it leaves behind where it fails
is a position again. No part of it steps beyond the end of the subject: a
unit is read only where there is one, a group is repeated only as far as the
subject goes, and the notes of failed attempts, from which a possessive
repetition may go on, are positions that were tried.

`Regex.run_within` says so of every pattern, by what a step promises about
its attempt when the rest makes the same promise. There is no such bound
from below: a pattern that looks behind possessively may end before the
position at which it was tried.
-/

namespace ParseKit.Regex

variable {size : Nat}

/-! ## Promises -/

/-- What an attempt comes to is a position of the subject. -/
def Attempt.Within (size : Nat) : Attempt → Prop
  | .matched stop _ => stop ≤ size
  | .failed note _ => note ≤ size

/-- A point of the subject. -/
structure Point.Within (size : Nat) (p : Point) : Prop where
  /-- The position is one of the subject. -/
  pos_le : p.pos ≤ size
  /-- So is the note. -/
  note_le : p.note ≤ size

/-- From a point of the subject, a rest stays within it. -/
def Rest.Within (size : Nat) (k : Rest) : Prop := ∀ p, p.Within size → (k p).Within size

/-- **A step stays within the subject if the rest does.** -/
def Step.Within (size : Nat) (f : Step) : Prop :=
  ∀ p k, p.Within size → Rest.Within size k → (f p k).Within size

theorem Point.Within.fail {p : Point} (h : p.Within size) : p.fail.Within size := h.note_le

theorem Point.Within.fresh {pos : Nat} (h : pos ≤ size) (marks : Marks) :
    (Point.fresh pos marks).Within size :=
  ⟨h, h⟩

theorem Rest.within_accept : Rest.Within size accept := fun _ hp => hp.pos_le

namespace Attempt

variable {a : Attempt}

theorem Within.noting (h : a.Within size) {note : Nat} (hnote : note ≤ size) :
    (a.noting note).Within size := by
  cases a with
  | matched stop marks => exact h
  | failed _ marks => exact hnote

theorem Within.takingBack (h : a.Within size) (looped : Bool) (before : Marks) :
    (a.takingBack looped before).Within size := by
  cases a with
  | matched stop marks => exact h
  | failed note marks => exact h

end Attempt

/-! ## Repetitions of one unit -/

variable {s : Subject} {u : UnitTest} {k : Rest}

theorem lt_size_of_passes {p : Nat} (h : passes s u p = true) : p < s.size := by
  unfold passes at h
  exact of_decide_eq_true (Bool.and_eq_true_iff.mp h).1

/-- A run of units does not go beyond the subject. -/
theorem runLength_le (s : Subject) (u : UnitTest) {p : Nat} (hp : p ≤ s.size) (fuel : Nat) :
    p + runLength s u p fuel ≤ s.size := by
  induction fuel generalizing p with
  | zero => exact hp
  | succ fuel ih =>
    unfold runLength
    split
    · rename_i hpasses
      have hrest : p + 1 + runLength s u (p + 1) fuel ≤ s.size := ih (lt_size_of_passes hpasses)
      omega
    · exact hp

theorem tryRest_within {p : Point} {pos : Nat} (hk : Rest.Within s.size k)
    (hpos : pos ≤ s.size) (hp : p.Within s.size) (looped : Bool) (follow : Lead)
    (before : Marks) : (tryRest s looped follow before k pos p).Within s.size := by
  unfold tryRest
  split
  · exact (hk _ (.fresh hpos p.marks)).takingBack looped before
  · exact hp.fail

theorem fewer_within (hk : Rest.Within s.size k) (looped : Bool) (follow : Lead) (before : Marks)
    {base n : Nat} (hbase : base + n ≤ s.size) {p : Point} (hp : p.Within s.size) :
    (fewer s looped follow before k base n p).Within s.size := by
  induction n generalizing p with
  | zero => exact tryRest_within hk hbase hp looped follow before
  | succ n ih =>
    have htry := tryRest_within hk hbase hp looped follow before
    unfold fewer
    split
    · rename_i note marks hfailed
      rw [hfailed] at htry
      exact ih (by omega) ⟨by show base ≤ s.size; omega, htry⟩
    · exact htry

theorem more_within (hk : Rest.Within s.size k) (looped : Bool) (most : Option Nat)
    (before : Marks) (fuel count : Nat) {p : Point} (hp : p.Within s.size) :
    (more s looped u most before k fuel count p).Within s.size := by
  induction fuel generalizing count p with
  | zero => exact hp.fail
  | succ fuel ih =>
    have hhere := (hk _ (.fresh hp.pos_le p.marks)).takingBack looped before
    unfold more
    split
    · split
      · split
        · rename_i hpasses
          have hnext := lt_size_of_passes hpasses
          refine ih (count + 1) ⟨hnext, ?_⟩
          show (if u.isStepwise then p.pos + 1 else p.pos) ≤ s.size
          split
          · exact hnext
          · exact hp.pos_le
        · exact hp.pos_le
      · exact hhere
    · exact hp.fail

theorem runUnits_within (s : Subject) (g : Greed) (least : Nat) (most : Option Nat)
    (u : UnitTest) (looped : Bool) (follow : Lead) :
    Step.Within s.size (runUnits s g least most u looped follow) := by
  intro p k hp hk
  unfold runUnits
  split
  · exact hp.fail
  · extract_lets n after
    have hn : p.pos + n ≤ s.size := runLength_le s u hp.pos_le _
    have hafter : after.Within s.size := by
      refine ⟨hn, ?_⟩
      show (if u.isStepwise then p.pos + n else p.pos) ≤ s.size
      split
      · exact hn
      · exact hp.pos_le
    split
    · exact hafter.fail
    · cases g with
      | greedy => exact fewer_within hk looped follow p.marks (by omega) hafter
      | lazy => exact more_within hk looped most p.marks _ n hafter
      | possessive => exact hk _ hafter

/-! ## Repetitions of any pattern -/

variable {body : Step}

theorem greedyRounds_within (hbody : Step.Within size body) (least : Nat) (most : Option Nat)
    (hk : Rest.Within size k) (fuel count : Nat) (last : Option Nat) {p : Point}
    (hp : p.Within size) : (greedyRounds body least most k fuel count last p).Within size := by
  induction fuel generalizing count last p with
  | zero => exact hp.fail
  | succ fuel ih =>
    have hhere := Point.Within.fresh hp.pos_le p.marks
    unfold greedyRounds
    extract_lets here
    split
    · exact (hbody _ _ hhere fun q hq => ih _ _ hq).noting hp.pos_le
    · split
      · have hround := hbody here
          (fun q => greedyRounds body least most k fuel (count + 1) (some p.pos) q)
          hhere fun q hq => ih _ _ hq
        split
        · exact (hk _ hhere).noting hp.pos_le
        · exact hround
      · exact (hk _ hhere).noting hp.pos_le

theorem lazyRounds_within (hbody : Step.Within size body) (least : Nat) (most : Option Nat)
    (looped : Bool) (hk : Rest.Within size k) (fuel count : Nat) (last : Option Nat) {p : Point}
    (hp : p.Within size) :
    (lazyRounds body least most looped k fuel count last p).Within size := by
  induction fuel generalizing count last p with
  | zero => exact hp.fail
  | succ fuel ih =>
    have hhere := Point.Within.fresh hp.pos_le p.marks
    unfold lazyRounds
    extract_lets here
    split
    · exact (hbody _ _ hhere fun q hq => ih _ _ hq).noting hp.pos_le
    · have hrest := (hk _ hhere).takingBack looped p.marks
      split
      · split
        · exact (hbody _ _ (.fresh hp.pos_le _) fun q hq => ih _ _ hq).noting hp.pos_le
        · exact hp.pos_le
      · exact hrest

theorem possessiveRounds_within (hbody : Step.Within size body) (least : Nat)
    (most : Option Nat) {start : Nat} (hstart : start ≤ size) (fuel count : Nat)
    (last : Option Nat) {pos : Nat} (hpos : pos ≤ size) (marks : Marks) :
    (possessiveRounds body least most start fuel count last pos marks).Within size := by
  induction fuel generalizing count last pos marks with
  | zero => exact hstart
  | succ fuel ih =>
    have hround := hbody (.fresh pos marks) accept (.fresh hpos marks) Rest.within_accept
    unfold possessiveRounds
    split
    · split
      · rename_i stop marks' hmatched
        rw [hmatched] at hround
        exact ih _ _ hround _
      · exact hstart
    · split
      · split
        · rename_i stop marks' hmatched
          rw [hmatched] at hround
          exact ih _ _ hround _
        · -- the repetition goes on from the note of the round that failed
          rename_i note marks' hfailed
          rw [hfailed] at hround
          exact hround
      · exact hpos

theorem runRounds_within (g : Greed) (least : Nat) (most : Option Nat) (looped : Bool)
    (hbody : Step.Within s.size body) :
    Step.Within s.size (runRounds s g least most looped body) := by
  intro p k hp hk
  unfold runRounds
  cases g with
  | greedy => exact greedyRounds_within hbody least most hk _ 0 none hp
  | lazy => exact lazyRounds_within hbody least most looped hk _ 0 none hp
  | possessive =>
    have hrounds := possessiveRounds_within hbody least most hp.pos_le (least + s.size + 2) 0 none
      hp.pos_le p.marks
    dsimp only
    split
    · rename_i stop marks hmatched
      rw [hmatched] at hrounds
      exact hk _ (.fresh hrounds marks)
    · exact hrounds

/-! ## Patterns -/

theorem choose_within (looped : Bool) (r : Regex) {step : Step}
    (hstep : Step.Within s.size step) : Step.Within s.size (choose s looped r step) := by
  intro p k hp hk
  unfold choose
  extract_lets passedOver
  split
  · exact hp.fail
  · exact (hstep _ _ (.fresh hp.pos_le p.marks) hk).takingBack looped p.marks

/-- Units that are repeated are units of the subject. -/
theorem le_size_of_repeatsAt {rule : CaseRule} {a p n : Nat} (hp : p ≤ s.size)
    (h : repeatsAt s rule a p n = true) : p + n ≤ s.size := by
  induction n generalizing a p with
  | zero => exact hp
  | succ n ih =>
    unfold repeatsAt at h
    simp only [Bool.and_eq_true, decide_eq_true_eq] at h
    have := ih h.1.1 h.2
    omega

/-- **No pattern goes beyond its subject.** -/
theorem run_within (s : Subject) (r : Regex) (looped : Bool) (follow : Lead) :
    Step.Within s.size (run s r looped follow) := by
  induction r generalizing looped follow with
  | empty => exact fun p k hp hk => by rw [run]; exact hk p hp
  | unit u =>
    intro p k hp hk
    rw [run]
    split
    · rename_i hpasses
      exact hk _ ⟨lt_size_of_passes hpasses, hp.note_le⟩
    · exact hp.fail
  | seq a b iha ihb =>
    intro p k hp hk
    rw [run]
    exact iha _ _ p _ hp fun q hq => ihb _ _ q k hq hk
  | alt a b iha ihb =>
    intro p k hp hk
    rw [run]
    have hfirst := choose_within looped a (iha looped .other) p k hp hk
    split
    · rename_i note marks hfailed
      rw [hfailed] at hfirst
      have hp' : Point.Within s.size { p with note := note, marks := marks } := ⟨hp.pos_le, hfirst⟩
      dsimp only
      split
      · exact ihb _ _ _ k hp' hk
      · exact choose_within looped b (ihb looped .other) _ k hp' hk
    · exact hfirst
  | group n r ih =>
    intro p k hp hk
    rw [run]
    exact ih _ _ _ _ ⟨hp.pos_le, hp.note_le⟩ fun q hq => hk _ ⟨hq.pos_le, hq.note_le⟩
  | rep g least most r ih =>
    intro p k hp hk
    rw [run.eq_def]
    dsimp only
    split
    · exact runUnits_within s g least most _ looped follow p k hp hk
    · exact runRounds_within g least most looped (ih _ _) p k hp hk
  | backref n rule width =>
    intro p k hp hk
    rw [run]
    split
    · split
      · rename_i hrepeats
        exact hk _ ⟨le_size_of_repeatsAt hp.pos_le hrepeats, hp.note_le⟩
      · exact hp.fail
    · exact hp.fail
  | look behind negated r ih =>
    intro p k hp hk
    rw [run.eq_def]
    dsimp only
    generalize (behind.getD .none).least = back
    have hback : p.pos - back ≤ s.size := Nat.le_trans (Nat.sub_le _ _) hp.pos_le
    have hlook := ih looped .other _ accept (.fresh hback p.marks) Rest.within_accept
    split
    · split
      · exact hk p hp
      · exact hp.fail
    · cases hattempt : run s r looped .other (.fresh (p.pos - back) p.marks) accept with
      | matched stop marks =>
        rw [hattempt] at hlook
        cases negated with
        | false => exact hk _ ⟨hp.pos_le, hlook⟩
        | true => exact hlook
      | failed note marks =>
        rw [hattempt] at hlook
        cases negated with
        | false => exact hlook
        | true => exact hk _ ⟨hp.pos_le, hlook⟩
  | cond n yes no ihyes ihno =>
    intro p k hp hk
    rw [run]
    split
    · exact ihyes _ _ p k hp hk
    · exact ihno _ _ p k hp hk
  | atomic r ih =>
    intro p k hp hk
    rw [run]
    have hinner := ih looped .other _ accept (.fresh hp.pos_le p.marks) Rest.within_accept
    split
    · rename_i stop marks hmatched
      rw [hmatched] at hinner
      exact hk _ (.fresh hinner marks)
    · exact hp.pos_le
  | anchor a =>
    intro p k hp hk
    rw [run]
    split
    · exact hk p hp
    · exact hp.fail

/-- **Where there is a match, it ends within the subject.** -/
theorem matchEnd_le_size {r : Regex} {s : Subject} {pos stop : Nat}
    (h : r.matchEnd s pos = .ok (some stop)) : stop ≤ s.size := by
  have hrun := run_within s r false .other (.fresh (min pos s.size) .empty) accept
    (.fresh (Nat.min_le_right _ _) _) Rest.within_accept
  unfold matchEnd at h
  extract_lets start at h
  split at h
  · cases h
  · cases hattempt : run s r false .other (.fresh start .empty) accept with
    | matched stop' marks =>
      rw [hattempt] at h hrun
      unfold Attempt.stop at h
      dsimp only at h
      split at h
      · cases h
      · cases h
        exact hrun
    | failed note marks =>
      rw [hattempt] at h
      cases h

/-- Pairs of letters in a row: the last round begins with a letter and fails, and the match ends
before it. -/
example : matchEnd (.rep .greedy 0 none
    (.seq (.unit (.one 97 false .exact)) (.unit (.one 98 false .exact))))
    (.ofChars #['a', 'b', 'a']) 0 = .ok (some 2) := by
  cbv

end ParseKit.Regex
