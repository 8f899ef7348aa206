import ParseKit.Proofs.Regex.Bounds

/-!
# Matching what is left of a subject

A pattern that never looks before the position at which it is tried cannot
tell how much of a subject has gone before. Matching it after the first `b`
units is matching it on the units that are left, with all positions moved by
`b` (`matchEnd_leftAfter`).

The two matches go side by side, point by point (`Step.Moves`): positions,
notes and marks of the one are those of the other, moved. What does not move
along is the bound on the rounds of a repetition, which is taken from the size
of the whole subject. That it is out of reach on both sides rests on progress:
without a look behind no step goes back, so that a round that is not needed
either reads a unit or is the last one (`roundsNeeded`).
-/

namespace ParseKit

/-- **A subject is what is left of another** after its first `b` units. -/
structure Subject.LeftAfter (t : Subject) (b : Nat) (s : Subject) : Prop where
  /-- The other has so many units more. -/
  size_eq : s.size = b + t.size
  /-- From there on the units are the same. -/
  code_eq : ∀ i, s.code (b + i) = t.code i

namespace Regex

/-! ## Moving positions -/

/-- Marks with their positions moved. -/
def Marks.move (b : Nat) (m : Marks) : Marks := m.map (Option.map (b + ·))

/-- A point with its positions moved. -/
def Point.move (b : Nat) (p : Point) : Point := ⟨b + p.pos, b + p.note, p.marks.move b⟩

namespace Attempt

/-- An attempt with its positions moved. -/
def move (b : Nat) : Attempt → Attempt
  | .matched stop marks => .matched (b + stop) (marks.move b)
  | .failed note marks => .failed (b + note) (marks.move b)

/-- The position that an attempt comes to. -/
def place : Attempt → Nat
  | .matched stop _ => stop
  | .failed note _ => note

end Attempt

namespace Marks

variable (b : Nat) (m : Marks)

@[simp] theorem move_empty : Marks.empty.move b = .empty := Array.map_empty

@[simp] theorem size_move : (m.move b).size = m.size := Array.size_map

@[simp] theorem getD_move (i : Nat) :
    (m.move b).getD i none = (m.getD i none).map (b + ·) := by
  rw [Array.getD_eq_getD_getElem?, Array.getD_eq_getD_getElem?, move, Array.getElem?_map]
  cases m[i]? <;> rfl

theorem put_move (i p : Nat) : (m.put i p).move b = (m.move b).put i (b + p) := by
  unfold put
  rw [size_move]
  split
  · simp [move, Array.set!_eq_setIfInBounds]
  · simp [move]

theorem begin_move (n p : Nat) : (m.begin n p).move b = (m.move b).begin n (b + p) :=
  put_move b m _ p

theorem finish_move (n p : Nat) : (m.finish n p).move b = (m.move b).finish n (b + p) :=
  put_move b m _ p

theorem span?_move (n : Nat) :
    (m.move b).span? n = (m.span? n).map fun s => (b + s.1, b + s.2) := by
  unfold span?
  rw [getD_move, getD_move]
  cases m.getD (2 * n - 2) none with
  | none => rfl
  | some start =>
    cases m.getD (2 * n - 1) none with
    | none => rfl
    | some stop =>
      simp only [Option.map_some, Nat.add_le_add_iff_left]
      split <;> rfl

/-- Whether a group begins after its end is not changed. -/
theorem isTangled_move : (m.move b).isTangled = m.isTangled := by
  unfold isTangled
  rw [size_move]
  congr 1
  funext i
  rw [getD_move, getD_move]
  cases m.getD (2 * i) none with
  | none => rfl
  | some start =>
    cases m.getD (2 * i + 1) none with
    | none => rfl
    | some stop => simp only [Option.map_some, Nat.add_lt_add_iff_left]

theorem takeBack_move (looped : Bool) (before left : Marks) :
    (takeBack looped before left).move b = takeBack looped (before.move b) (left.move b) := by
  unfold takeBack
  rw [size_move]
  split
  · rfl
  · exact Array.map_extract

end Marks

/-! ## Side by side -/

/-- **An attempt is another one, moved**; it comes to a position between `lo`
and the end. -/
structure Attempt.Moved (b lo size : Nat) (a a' : Attempt) : Prop where
  /-- Position and marks are those of the other, moved. -/
  eq : a = a'.move b
  /-- The position is not before `lo`. -/
  lo_le : lo ≤ a'.place
  /-- The position is not beyond the end. -/
  le_size : a'.place ≤ size

/-- A point whose positions are between `lo` and the end. -/
structure Point.Between (lo size : Nat) (p : Point) : Prop where
  /-- The position is not before `lo`. -/
  lo_le : lo ≤ p.pos
  /-- The position is not beyond the end. -/
  le_size : p.pos ≤ size
  /-- The note is not before `lo`. -/
  lo_le_note : lo ≤ p.note
  /-- The note is not beyond the end. -/
  note_le_size : p.note ≤ size

/-- From `start` on, a rest does on moved points what another does, moved. -/
def Rest.Moves (b lo start size : Nat) (k k' : Rest) : Prop :=
  ∀ q : Point, start ≤ q.pos → q.Between lo size → (k (q.move b)).Moved b lo size (k' q)

/-- **A step does on moved points what another does, moved**, if the rests do
so from the position of the point on: no step goes back. -/
def Step.Moves (b size : Nat) (f f' : Step) : Prop :=
  ∀ (lo : Nat) (p : Point) (k k' : Rest), p.Between lo size → Rest.Moves b lo p.pos size k k' →
    (f (p.move b) k).Moved b lo size (f' p k')

variable {b lo size : Nat}

theorem Point.Between.fail {p : Point} (h : p.Between lo size) :
    (p.move b).fail.Moved b lo size p.fail :=
  ⟨rfl, h.lo_le_note, h.note_le_size⟩

theorem Point.Between.fresh {pos : Nat} (hlo : lo ≤ pos) (hsize : pos ≤ size) (marks : Marks) :
    (Point.fresh pos marks).Between lo size :=
  ⟨hlo, hsize, hlo, hsize⟩

theorem Rest.moves_accept (start : Nat) : Rest.Moves b lo start size accept accept :=
  fun _ _ hq => ⟨rfl, hq.lo_le, hq.le_size⟩

theorem Rest.Moves.mono {start start' : Nat} {k k' : Rest} (h : Rest.Moves b lo start size k k')
    (hle : start ≤ start') : Rest.Moves b lo start' size k k' :=
  fun q hq => h q (Nat.le_trans hle hq)

namespace Attempt

variable {a a' : Attempt}

theorem Moved.noting (h : a.Moved b lo size a') {note : Nat} (hlo : lo ≤ note)
    (hsize : note ≤ size) : (a.noting (b + note)).Moved b lo size (a'.noting note) := by
  obtain ⟨rfl, hlo', hsize'⟩ := h
  cases a' with
  | matched stop marks => exact ⟨rfl, hlo', hsize'⟩
  | failed _ marks => exact ⟨rfl, hlo, hsize⟩

theorem Moved.takingBack (h : a.Moved b lo size a') (looped : Bool) (before : Marks) :
    (a.takingBack looped (before.move b)).Moved b lo size (a'.takingBack looped before) := by
  obtain ⟨rfl, hlo, hsize⟩ := h
  cases a' with
  | matched stop marks => exact ⟨rfl, hlo, hsize⟩
  | failed note marks =>
    refine ⟨?_, hlo, hsize⟩
    exact congrArg (Attempt.failed (b + note)) (Marks.takeBack_move b looped before marks).symm

theorem stop_move (a : Attempt) : (a.move b).stop = a.stop.map (Option.map (b + ·)) := by
  cases a with
  | matched stop marks =>
    simp only [move, Attempt.stop, Marks.isTangled_move]
    split <;> rfl
  | failed note marks => rfl

end Attempt

/-! ## Positions and units -/

section Units

variable {s t : Subject} (hst : t.LeftAfter b s)

include hst

theorem passes_leftAfter (u : UnitTest) (p : Nat) : passes s u (b + p) = passes t u p := by
  rw [passes, passes, hst.size_eq, hst.code_eq]
  simp only [Nat.add_lt_add_iff_left]

theorem repeatsAt_leftAfter (rule : CaseRule) (a p n : Nat) :
    repeatsAt s rule (b + a) (b + p) n = repeatsAt t rule a p n := by
  induction n generalizing a p with
  | zero => rfl
  | succ n ih =>
    rw [repeatsAt, repeatsAt, Nat.add_assoc, Nat.add_assoc, ih, hst.size_eq, hst.code_eq,
      hst.code_eq]
    simp only [Nat.add_lt_add_iff_left]

theorem runLength_leftAfter (u : UnitTest) (p fuel : Nat) :
    runLength s u (b + p) fuel = runLength t u p fuel := by
  induction fuel generalizing p with
  | zero => rfl
  | succ fuel ih => rw [runLength, runLength, passes_leftAfter hst, Nat.add_assoc, ih]

theorem size_sub_leftAfter (p : Nat) : s.size - (b + p) = t.size - p := by
  rw [hst.size_eq, Nat.add_sub_add_left]

theorem runUpTo_leftAfter (u : UnitTest) (p : Nat) (most : Option Nat) :
    runUpTo s u (b + p) most = runUpTo t u p most := by
  unfold runUpTo
  rw [runLength_leftAfter hst, size_sub_leftAfter hst]

theorem worthwhile_leftAfter (follow : Lead) (p : Nat) :
    worthwhile s follow (b + p) = worthwhile t follow p := by
  simp only [worthwhile, hst.size_eq, hst.code_eq, Nat.add_lt_add_iff_left]

/-- Anchors that do not look before their position hold at the same positions,
moved. -/
theorem holds_leftAfter {a : Anchor} (ha : (Regex.anchor a).looksAhead = true) (p : Nat) :
    a.holds s (b + p) = a.holds t p := by
  have hend : (b + p == s.size) = (p == t.size) := by
    rw [hst.size_eq, Bool.eq_iff_iff, beq_iff_eq, beq_iff_eq, Nat.add_left_cancel_iff]
  have hnext : (b + p + 1 == s.size) = (p + 1 == t.size) := by
    rw [hst.size_eq, Bool.eq_iff_iff, beq_iff_eq, beq_iff_eq, Nat.add_assoc,
      Nat.add_left_cancel_iff]
  cases a with
  | start | lineStart | boundary | inside => cases ha
  | stop => exact hend
  | lastStop => rw [Anchor.holds, Anchor.holds, hend, hnext, hst.code_eq]
  | lineStop => rw [Anchor.holds, Anchor.holds, hend, hst.code_eq]

/-! ## Repetitions of one unit -/

variable {k k' : Rest} {start : Nat}

theorem tryRest_moved (hk : Rest.Moves b lo start t.size k k') {pos : Nat} (hstart : start ≤ pos)
    (hlo : lo ≤ pos) (hpos : pos ≤ t.size) {p : Point} (hp : p.Between lo t.size) (looped : Bool)
    (follow : Lead) (before : Marks) :
    (tryRest s looped follow (before.move b) k (b + pos) (p.move b)).Moved b lo t.size
      (tryRest t looped follow before k' pos p) := by
  unfold tryRest
  rw [worthwhile_leftAfter hst]
  split
  · exact (hk _ hstart (.fresh hlo hpos p.marks)).takingBack looped before
  · exact hp.fail

theorem fewer_moved (hk : Rest.Moves b lo start t.size k k') (looped : Bool) (follow : Lead)
    (before : Marks) {base n : Nat} (hstart : start ≤ base) (hlo : lo ≤ base)
    (hbase : base + n ≤ t.size) {p : Point} (hp : p.Between lo t.size) :
    (fewer s looped follow (before.move b) k (b + base) n (p.move b)).Moved b lo t.size
      (fewer t looped follow before k' base n p) := by
  induction n generalizing p with
  | zero => exact tryRest_moved hst hk hstart hlo hbase hp looped follow before
  | succ n ih =>
    have htry := tryRest_moved hst hk (by omega) (by omega) hbase hp looped follow before
    rw [fewer, fewer, Nat.add_assoc]
    generalize tryRest t looped follow before k' (base + (n + 1)) p = a' at htry
    obtain ⟨heq, hlo', hsize⟩ := htry
    rw [heq]
    cases a' with
    | matched stop marks => exact ⟨rfl, hlo', hsize⟩
    | failed note marks =>
      have hnext : Point.Between lo t.size ⟨base, note, marks⟩ :=
        ⟨hlo, Nat.le_of_add_right_le hbase, hlo', hsize⟩
      exact ih (by omega) hnext

theorem more_moved (hk : Rest.Moves b lo start t.size k k') (looped : Bool) (u : UnitTest)
    (most : Option Nat) (before : Marks) (fuel count : Nat) {p : Point} (hstart : start ≤ p.pos)
    (hp : p.Between lo t.size) :
    (more s looped u most (before.move b) k fuel count (p.move b)).Moved b lo t.size
      (more t looped u most before k' fuel count p) := by
  induction fuel generalizing count p with
  | zero => exact hp.fail
  | succ fuel ih =>
    have hhere := (hk (.fresh p.pos p.marks) hstart
      (.fresh hp.lo_le hp.le_size p.marks)).takingBack looped before
    have hpasses := passes_leftAfter hst u p.pos
    unfold more
    split
    · generalize (k' (.fresh p.pos p.marks)).takingBack looped before = a' at hhere
      obtain ⟨heq, hlo', hsize⟩ := hhere
      have heq' : (k (.fresh (p.move b).pos (p.move b).marks)).takingBack looped (before.move b)
          = a'.move b := heq
      rw [heq']
      cases a' with
      | matched stop marks => exact ⟨rfl, hlo', hsize⟩
      | failed note marks =>
        have hpasses' : passes s u (p.move b).pos = passes t u p.pos := hpasses
        dsimp only [Attempt.move]
        rw [hpasses']
        split
        · rename_i hunit
          have hnext := lt_size_of_passes hunit
          have hnote : lo ≤ (if u.isStepwise then p.pos + 1 else p.pos)
              ∧ (if u.isStepwise then p.pos + 1 else p.pos) ≤ t.size := by
            have := hp.lo_le
            split <;> omega
          have hmove : (⟨(p.move b).pos + 1,
                if u.isStepwise then (p.move b).pos + 1 else (p.move b).pos, marks.move b⟩ : Point)
              = Point.move b ⟨p.pos + 1, if u.isStepwise then p.pos + 1 else p.pos, marks⟩ := by
            simp only [Point.move]
            split <;> rfl
          rw [hmove]
          exact ih (count + 1) (by show start ≤ p.pos + 1; omega)
            ⟨Nat.le_succ_of_le hp.lo_le, hnext, hnote.1, hnote.2⟩
        · exact ⟨rfl, hp.lo_le, hp.le_size⟩
    · exact hp.fail

/-- **A repetition of one unit moves along.** -/
theorem runUnits_moves (g : Greed) (least : Nat) (most : Option Nat) (u : UnitTest)
    (looped : Bool) (follow : Lead) :
    Step.Moves b t.size (runUnits s g least most u looped follow)
      (runUnits t g least most u looped follow) := by
  intro lo p k k' hp hk
  unfold runUnits
  have hleft : s.size - (p.move b).pos = t.size - p.pos := size_sub_leftAfter hst p.pos
  have hrun : ∀ most, runUpTo s u (p.move b).pos most = runUpTo t u p.pos most :=
    runUpTo_leftAfter hst u p.pos
  rw [hleft, hrun]
  split
  · exact hp.fail
  · extract_lets n after after'
    have hn : p.pos + n ≤ t.size := runLength_le t u hp.le_size _
    have hlo := hp.lo_le
    have hafter' : after'.Between lo t.size := by
      refine ⟨by show lo ≤ p.pos + n; omega, hn, ?_, ?_⟩
      · show lo ≤ if u.isStepwise then p.pos + n else p.pos
        split <;> omega
      · show (if u.isStepwise then p.pos + n else p.pos) ≤ t.size
        split <;> omega
    have hafter : after = after'.move b := by
      simp only [after, after', Point.move, Nat.add_assoc]
      split <;> rfl
    rw [hafter]
    split
    · exact hafter'.fail
    · cases g with
      | greedy =>
        have hbase : (p.move b).pos + least = b + (p.pos + least) := Nat.add_assoc b p.pos least
        dsimp only
        rw [hbase]
        exact fewer_moved hst hk looped follow p.marks (by omega) (by omega) (by omega) hafter'
      | lazy =>
        exact more_moved hst hk looped u most p.marks _ n (Nat.le_add_right p.pos n) hafter'
      | possessive => exact hk _ (Nat.le_add_right p.pos n) hafter'

end Units

/-! ## Repetitions of any pattern -/

/-- **The rounds that a repetition may still need**, after `count` of them and
at a position: those up to the least number, and then one for each unit that is
left, one that reads nothing, and the end. Where the last round has read
nothing only the end is left. -/
def roundsNeeded (size least count : Nat) (last : Option Nat) (pos : Nat) : Nat :=
  if least ≤ count ∧ last = some pos then 1 else (least - count) + (size - pos) + 2

theorem roundsNeeded_pos (size least count : Nat) (last : Option Nat) (pos : Nat) :
    0 < roundsNeeded size least count last pos := by
  unfold roundsNeeded
  split <;> omega

/-- A round that is needed leaves less to do. -/
theorem roundsNeeded_needed {least count : Nat} (hcount : count < least) {last : Option Nat}
    {pos pos' fuel : Nat} (hpos : pos ≤ pos')
    (hfuel : roundsNeeded size least count last pos ≤ fuel + 1) :
    roundsNeeded size least (count + 1) last pos' ≤ fuel := by
  unfold roundsNeeded at hfuel ⊢
  rw [if_neg (show ¬ (least ≤ count ∧ last = some pos) by omega)] at hfuel
  split <;> omega

/-- A round that is not needed leaves less to do: it reads a unit, or it is
followed by the end. -/
theorem roundsNeeded_allowed {least count : Nat} (hcount : ¬ count < least) {last : Option Nat}
    {pos pos' fuel : Nat} (hlast : last ≠ some pos) (hpos : pos ≤ pos') (hsize : pos' ≤ size)
    (hfuel : roundsNeeded size least count last pos ≤ fuel + 1) :
    roundsNeeded size least (count + 1) (some pos) pos' ≤ fuel := by
  unfold roundsNeeded at hfuel ⊢
  rw [if_neg (show ¬ (least ≤ count ∧ last = some pos) from fun h => hlast h.2)] at hfuel
  by_cases heq : pos = pos'
  · rw [if_pos ⟨by omega, congrArg some heq⟩]
    omega
  · rw [if_neg fun h => heq (Option.some.inj h.2)]
    omega

/-- Whether a round is the same as the last one is not changed by moving. -/
theorem last_move (last : Option Nat) (pos : Nat) :
    (last.map (b + ·) != some (b + pos)) = (last != some pos) := by
  cases last with
  | none => rfl
  | some l =>
    rw [Option.map_some, Bool.eq_iff_iff, bne_iff_ne, bne_iff_ne, ne_eq, ne_eq, Option.some_inj,
      Option.some_inj, Nat.add_left_cancel_iff]

section Rounds

variable {body body' : Step} (hbody : Step.Moves b size body body') {k k' : Rest} {start : Nat}

include hbody

theorem greedyRounds_moved (least : Nat) (most : Option Nat)
    (hk : Rest.Moves b lo start size k k') {fuel fuel' count : Nat} {last : Option Nat} {p : Point}
    (hstart : start ≤ p.pos) (hp : p.Between lo size)
    (hfuel : roundsNeeded size least count last p.pos ≤ fuel)
    (hfuel' : roundsNeeded size least count last p.pos ≤ fuel') :
    (greedyRounds body least most k fuel count (last.map (b + ·)) (p.move b)).Moved b lo size
      (greedyRounds body' least most k' fuel' count last p) := by
  -- on both sides a round is left, and the next one needs less
  induction fuel generalizing fuel' count last p with
  | zero => exact absurd hfuel (Nat.not_le.mpr (roundsNeeded_pos ..))
  | succ fuel ih =>
    obtain ⟨fuel', rfl⟩ := Nat.exists_eq_add_one.mpr
      (Nat.lt_of_lt_of_le (roundsNeeded_pos ..) hfuel')
    have hhere : (Point.fresh p.pos p.marks).Between lo size :=
      .fresh hp.lo_le hp.le_size p.marks
    have hend := (hk (.fresh p.pos p.marks) hstart hhere).noting hp.lo_le hp.le_size
    have hlast : (last.map (b + ·) != some (p.move b).pos) = (last != some p.pos) :=
      last_move last p.pos
    rw [greedyRounds, greedyRounds]
    split
    · rename_i hcount
      refine Attempt.Moved.noting (hbody lo (.fresh p.pos p.marks) _ _ hhere
        fun q (hq : p.pos ≤ q.pos) hbetween => ?_) hp.lo_le hp.le_size
      exact ih (Nat.le_trans hstart hq) hbetween (roundsNeeded_needed hcount hq hfuel)
        (roundsNeeded_needed hcount hq hfuel')
    · rename_i hcount
      rw [hlast]
      split
      · rename_i hallowed
        rw [Bool.and_eq_true, bne_iff_ne] at hallowed
        have hround := hbody lo (.fresh p.pos p.marks)
          (fun q => greedyRounds body least most k fuel (count + 1) (some (p.move b).pos) q)
          (fun q => greedyRounds body' least most k' fuel' (count + 1) (some p.pos) q) hhere
          fun q (hq : p.pos ≤ q.pos) hbetween => by
            exact ih (Nat.le_trans hstart hq) hbetween
              (roundsNeeded_allowed hcount hallowed.2 hq hbetween.le_size hfuel)
              (roundsNeeded_allowed hcount hallowed.2 hq hbetween.le_size hfuel')
        obtain ⟨heq, hlo, hsize⟩ := hround
        generalize body' (.fresh p.pos p.marks) _ = a' at heq hlo hsize ⊢
        have heq' : body (.fresh (p.move b).pos (p.move b).marks) _ = a'.move b := heq
        rw [heq']
        cases a' with
        | matched stop marks => exact ⟨rfl, hlo, hsize⟩
        | failed note marks => exact hend
      · exact hend

theorem lazyRounds_moved (least : Nat) (most : Option Nat) (looped : Bool)
    (hk : Rest.Moves b lo start size k k') {fuel fuel' count : Nat} {last : Option Nat} {p : Point}
    (hstart : start ≤ p.pos) (hp : p.Between lo size)
    (hfuel : roundsNeeded size least count last p.pos ≤ fuel)
    (hfuel' : roundsNeeded size least count last p.pos ≤ fuel') :
    (lazyRounds body least most looped k fuel count (last.map (b + ·)) (p.move b)).Moved b lo size
      (lazyRounds body' least most looped k' fuel' count last p) := by
  induction fuel generalizing fuel' count last p with
  | zero => exact absurd hfuel (Nat.not_le.mpr (roundsNeeded_pos ..))
  | succ fuel ih =>
    obtain ⟨fuel', rfl⟩ := Nat.exists_eq_add_one.mpr
      (Nat.lt_of_lt_of_le (roundsNeeded_pos ..) hfuel')
    have hhere : (Point.fresh p.pos p.marks).Between lo size :=
      .fresh hp.lo_le hp.le_size p.marks
    have hlast : (last.map (b + ·) != some (p.move b).pos) = (last != some p.pos) :=
      last_move last p.pos
    rw [lazyRounds, lazyRounds]
    split
    · rename_i hcount
      refine Attempt.Moved.noting (hbody lo (.fresh p.pos p.marks) _ _ hhere
        fun q (hq : p.pos ≤ q.pos) hbetween => ?_) hp.lo_le hp.le_size
      exact ih (Nat.le_trans hstart hq) hbetween (roundsNeeded_needed hcount hq hfuel)
        (roundsNeeded_needed hcount hq hfuel')
    · rename_i hcount
      obtain ⟨heq, hlo, hsize⟩ := (hk (.fresh p.pos p.marks) hstart hhere).takingBack looped p.marks
      generalize (k' (.fresh p.pos p.marks)).takingBack looped p.marks = a' at heq hlo hsize ⊢
      have heq' : (k (.fresh (p.move b).pos (p.move b).marks)).takingBack looped (p.move b).marks
          = a'.move b := heq
      rw [heq']
      cases a' with
      | matched stop marks => exact ⟨rfl, hlo, hsize⟩
      | failed note marks =>
        dsimp only [Attempt.move]
        rw [hlast]
        split
        · rename_i hallowed
          rw [Bool.and_eq_true, bne_iff_ne] at hallowed
          refine Attempt.Moved.noting (hbody lo (.fresh p.pos marks) _ _
            (.fresh hp.lo_le hp.le_size marks) fun q (hq : p.pos ≤ q.pos) hbetween => ?_)
            hp.lo_le hp.le_size
          exact ih (Nat.le_trans hstart hq) hbetween
            (roundsNeeded_allowed hcount hallowed.2 hq hbetween.le_size hfuel)
            (roundsNeeded_allowed hcount hallowed.2 hq hbetween.le_size hfuel')
        · exact ⟨rfl, hp.lo_le, hp.le_size⟩

theorem possessiveRounds_moved (least : Nat) (most : Option Nat) {fuel fuel' count : Nat}
    {last : Option Nat} {pos : Nat} (hlo : lo ≤ pos) (hpos : pos ≤ size) (marks : Marks)
    (hfuel : roundsNeeded size least count last pos ≤ fuel)
    (hfuel' : roundsNeeded size least count last pos ≤ fuel') :
    (possessiveRounds body least most (b + lo) fuel count (last.map (b + ·)) (b + pos)
        (marks.move b)).Moved b lo size
      (possessiveRounds body' least most lo fuel' count last pos marks) := by
  induction fuel generalizing fuel' count last pos marks with
  | zero => exact absurd hfuel (Nat.not_le.mpr (roundsNeeded_pos ..))
  | succ fuel ih =>
    obtain ⟨fuel', rfl⟩ := Nat.exists_eq_add_one.mpr
      (Nat.lt_of_lt_of_le (roundsNeeded_pos ..) hfuel')
    -- a round does not come to a position before its own
    have hround := hbody pos (.fresh pos marks) accept accept
      (.fresh (Nat.le_refl pos) hpos marks) (Rest.moves_accept pos)
    have heq : body (.fresh (b + pos) (marks.move b)) accept
        = (body' (.fresh pos marks) accept).move b := hround.eq
    rw [possessiveRounds, possessiveRounds, heq, last_move]
    cases hattempt : body' (.fresh pos marks) accept with
    | matched stop marks' =>
      rw [hattempt] at hround
      have hstop : pos ≤ stop := hround.lo_le
      split
      · rename_i hcount
        exact ih (Nat.le_trans hlo hstop) hround.le_size marks'
          (roundsNeeded_needed hcount hstop hfuel) (roundsNeeded_needed hcount hstop hfuel')
      · rename_i hcount
        split
        · rename_i hallowed
          rw [Bool.and_eq_true, bne_iff_ne] at hallowed
          exact ih (Nat.le_trans hlo hstop) hround.le_size marks'
            (roundsNeeded_allowed hcount hallowed.2 hstop hround.le_size hfuel)
            (roundsNeeded_allowed hcount hallowed.2 hstop hround.le_size hfuel')
        · exact ⟨rfl, hlo, hpos⟩
    | failed note marks' =>
      rw [hattempt] at hround
      split
      · exact ⟨rfl, Nat.le_refl lo, Nat.le_trans hlo hpos⟩
      · split
        · exact ⟨rfl, Nat.le_trans hlo hround.lo_le, hround.le_size⟩
        · exact ⟨rfl, hlo, hpos⟩

end Rounds

/-- **A repetition of any pattern moves along**, whatever its bound on rounds is
taken from. -/
theorem runRounds_moves {s t : Subject} (hst : t.LeftAfter b s) {body body' : Step}
    (hbody : Step.Moves b t.size body body') (g : Greed) (least : Nat) (most : Option Nat)
    (looped : Bool) :
    Step.Moves b t.size (runRounds s g least most looped body)
      (runRounds t g least most looped body') := by
  intro lo p k k' hp hk
  have hneeded : roundsNeeded t.size least 0 none p.pos ≤ least + t.size + 2 := by
    unfold roundsNeeded
    split <;> omega
  have hneeded' : roundsNeeded t.size least 0 none p.pos ≤ least + s.size + 2 := by
    rw [hst.size_eq]
    omega
  unfold runRounds
  cases g with
  | greedy =>
    exact greedyRounds_moved hbody least most hk (Nat.le_refl _) hp hneeded' hneeded
  | lazy =>
    exact lazyRounds_moved hbody least most looped hk (Nat.le_refl _) hp hneeded' hneeded
  | possessive =>
    obtain ⟨heq, hlo, hsize⟩ := possessiveRounds_moved hbody least most (Nat.le_refl p.pos)
      hp.le_size p.marks hneeded' hneeded
    have heq' : possessiveRounds body least most (p.move b).pos (least + s.size + 2) 0 none
        (p.move b).pos (p.move b).marks = _ := heq
    dsimp only
    rw [heq']
    generalize possessiveRounds body' least most p.pos (least + t.size + 2) 0 none p.pos p.marks
      = a' at hlo hsize ⊢
    cases a' with
    | matched stop marks =>
      exact hk (.fresh stop marks) hlo (.fresh (Nat.le_trans hp.lo_le hlo) hsize marks)
    | failed note marks => exact ⟨rfl, Nat.le_trans hp.lo_le hlo, hsize⟩

/-! ## Patterns -/

section Patterns

variable {s t : Subject} (hst : t.LeftAfter b s)

include hst

theorem choose_moves (looped : Bool) (r : Regex) {step step' : Step}
    (hstep : Step.Moves b t.size step step') :
    Step.Moves b t.size (choose s looped r step) (choose t looped r step') := by
  intro lo p k k' hp hk
  have hpasses : ∀ u, passes s u (p.move b).pos = passes t u p.pos :=
    fun u => passes_leftAfter hst u p.pos
  unfold choose
  extract_lets passedOver passedOver'
  have hover : passedOver = passedOver' := by simp only [passedOver, passedOver', hpasses]
  rw [hover]
  split
  · exact hp.fail
  · exact (hstep lo (.fresh p.pos p.marks) k k' (.fresh hp.lo_le hp.le_size p.marks)
      hk).takingBack looped p.marks

/-! The constructs, given that the patterns in them move along. -/

theorem alt_moves {a c : Regex}
    (ha : ∀ looped follow, Step.Moves b t.size (run s a looped follow) (run t a looped follow))
    (hc : ∀ looped follow, Step.Moves b t.size (run s c looped follow) (run t c looped follow))
    (looped : Bool) (follow : Lead) :
    Step.Moves b t.size (run s (.alt a c) looped follow) (run t (.alt a c) looped follow) := by
  intro lo p k k' hp hk
  rw [run, run]
  obtain ⟨heq, hlo, hsize⟩ :=
    choose_moves hst looped a (ha looped .other) lo p k k' hp hk
  rw [heq]
  generalize choose t looped a (run t a looped .other) p k' = a' at hlo hsize ⊢
  cases a' with
  | matched stop marks => exact ⟨rfl, hlo, hsize⟩
  | failed note marks =>
    have hp' : Point.Between lo t.size { p with note := note, marks := marks } :=
      ⟨hp.lo_le, hp.le_size, hlo, hsize⟩
    dsimp only [Attempt.move]
    split
    · exact hc looped .other lo _ k k' hp' hk
    · exact choose_moves hst looped c (hc looped .other) lo _ k k' hp' hk

omit hst in
theorem group_moves (n : Nat) {r : Regex}
    (hr : ∀ looped follow, Step.Moves b t.size (run s r looped follow) (run t r looped follow))
    (looped : Bool) (follow : Lead) :
    Step.Moves b t.size (run s (.group n r) looped follow) (run t (.group n r) looped follow) := by
  intro lo p k k' hp hk
  rw [run, run]
  have hbegin : { p.move b with marks := (p.move b).marks.begin n (p.move b).pos }
      = Point.move b { p with marks := p.marks.begin n p.pos } :=
    congrArg (Point.mk (b + p.pos) (b + p.note)) (Marks.begin_move b p.marks n p.pos).symm
  rw [hbegin]
  refine hr looped .other lo { p with marks := p.marks.begin n p.pos } _ _
    ⟨hp.lo_le, hp.le_size, hp.lo_le_note, hp.note_le_size⟩ fun q hq hbetween => ?_
  have hfinish : { q.move b with marks := (q.move b).marks.finish n (q.move b).pos }
      = Point.move b { q with marks := q.marks.finish n q.pos } :=
    congrArg (Point.mk (b + q.pos) (b + q.note)) (Marks.finish_move b q.marks n q.pos).symm
  rw [hfinish]
  exact hk { q with marks := q.marks.finish n q.pos } hq
    ⟨hbetween.lo_le, hbetween.le_size, hbetween.lo_le_note, hbetween.note_le_size⟩

theorem backref_moves (n : Nat) (rule : CaseRule) (width : Width) (looped : Bool)
    (follow : Lead) :
    Step.Moves b t.size (run s (.backref n rule width) looped follow)
      (run t (.backref n rule width) looped follow) := by
  intro lo p k k' hp hk
  have hspan : (p.move b).marks.span? n = (p.marks.span? n).map _ := Marks.span?_move b p.marks n
  rw [run, run, hspan]
  cases p.marks.span? n with
  | none => exact hp.fail
  | some span =>
    have hrepeats : repeatsAt s rule (b + span.1) (p.move b).pos (span.2 - span.1)
        = repeatsAt t rule span.1 p.pos (span.2 - span.1) := repeatsAt_leftAfter hst ..
    have hmove : { p.move b with pos := (p.move b).pos + (span.2 - span.1) }
        = Point.move b { p with pos := p.pos + (span.2 - span.1) } :=
      congrArg (Point.mk · (b + p.note) (p.marks.move b)) (Nat.add_assoc ..)
    dsimp only [Option.map_some]
    rw [Nat.add_sub_add_left, hrepeats, hmove]
    split
    · rename_i hrep
      exact hk _ (Nat.le_add_right ..) ⟨Nat.le_add_right_of_le hp.lo_le,
        le_size_of_repeatsAt hp.le_size hrep, hp.lo_le_note, hp.note_le_size⟩
    · exact hp.fail

omit hst in
/-- A look ahead stands still where it succeeds, and keeps what it has noted. -/
theorem look_moves (negated : Bool) {r : Regex}
    (hr : ∀ looped follow, Step.Moves b t.size (run s r looped follow) (run t r looped follow))
    (looped : Bool) (follow : Lead) :
    Step.Moves b t.size (run s (.look none negated r) looped follow)
      (run t (.look none negated r) looped follow) := by
  intro lo p k k' hp hk
  have hlook := hr looped .other lo (.fresh p.pos p.marks) accept accept
    (.fresh hp.lo_le hp.le_size p.marks) (Rest.moves_accept p.pos)
  have heq : run s r looped .other (.fresh ((p.move b).pos - 0) (p.move b).marks) accept
      = (run t r looped .other (.fresh (p.pos - 0) p.marks) accept).move b := hlook.eq
  rw [run.eq_def s, run.eq_def t]
  dsimp only [Option.getD_none, Width.none]
  rw [heq, if_neg (Nat.not_lt_zero _), if_neg (Nat.not_lt_zero _)]
  cases hattempt : run t r looped .other (.fresh (p.pos - 0) p.marks) accept with
  | matched stop marks =>
    rw [show run t r looped .other (.fresh p.pos p.marks) accept = _ from hattempt] at hlook
    cases negated with
    | false =>
      exact hk ⟨p.pos, stop, marks⟩ (Nat.le_refl _)
        ⟨hp.lo_le, hp.le_size, hlook.lo_le, hlook.le_size⟩
    | true => exact ⟨rfl, hlook.lo_le, hlook.le_size⟩
  | failed note marks =>
    rw [show run t r looped .other (.fresh p.pos p.marks) accept = _ from hattempt] at hlook
    cases negated with
    | false => exact ⟨rfl, hlook.lo_le, hlook.le_size⟩
    | true =>
      have hback : (⟨(p.move b).pos, b + note,
            Marks.takeBack looped (p.move b).marks (marks.move b)⟩ : Point)
          = Point.move b ⟨p.pos, note, Marks.takeBack looped p.marks marks⟩ :=
        congrArg (Point.mk (b + p.pos) (b + note))
          (Marks.takeBack_move b looped p.marks marks).symm
      dsimp only [Attempt.move]
      rw [hback]
      exact hk _ (Nat.le_refl _) ⟨hp.lo_le, hp.le_size, hlook.lo_le, hlook.le_size⟩

omit hst in
theorem atomic_moves {r : Regex}
    (hr : ∀ looped follow, Step.Moves b t.size (run s r looped follow) (run t r looped follow))
    (looped : Bool) (follow : Lead) :
    Step.Moves b t.size (run s (.atomic r) looped follow) (run t (.atomic r) looped follow) := by
  intro lo p k k' hp hk
  -- the pattern by itself ends at its position or later
  have hinner := hr looped .other p.pos (.fresh p.pos p.marks) accept accept
    (.fresh (Nat.le_refl _) hp.le_size p.marks) (Rest.moves_accept p.pos)
  have heq : run s r looped .other (.fresh (p.move b).pos (p.move b).marks) accept
      = (run t r looped .other (.fresh p.pos p.marks) accept).move b := hinner.eq
  rw [run, run, heq]
  cases hattempt : run t r looped .other (.fresh p.pos p.marks) accept with
  | matched stop marks =>
    rw [hattempt] at hinner
    exact hk (.fresh stop marks) hinner.lo_le
      (.fresh (Nat.le_trans hp.lo_le hinner.lo_le) hinner.le_size marks)
  | failed note marks => exact ⟨rfl, hp.lo_le, hp.le_size⟩

/-- **A pattern that does not look before its position moves along.** -/
theorem run_moves (r : Regex) (hr : r.looksAhead = true) (looped : Bool) (follow : Lead) :
    Step.Moves b t.size (run s r looped follow) (run t r looped follow) := by
  induction r generalizing looped follow with
  | empty => exact fun lo p k k' hp hk => by rw [run, run]; exact hk p (Nat.le_refl _) hp
  | unit u =>
    intro lo p k k' hp hk
    have hpasses : passes s u (p.move b).pos = passes t u p.pos := passes_leftAfter hst u p.pos
    rw [run, run, hpasses]
    split
    · rename_i hunit
      exact hk { p with pos := p.pos + 1 } (Nat.le_succ _)
        ⟨Nat.le_succ_of_le hp.lo_le, lt_size_of_passes hunit, hp.lo_le_note, hp.note_le_size⟩
    · exact hp.fail
  | seq a c iha ihc =>
    rw [looksAhead, Bool.and_eq_true] at hr
    intro lo p k k' hp hk
    rw [run, run]
    exact iha hr.1 looped _ lo p _ _ hp fun q hq hbetween =>
      ihc hr.2 looped follow lo q k k' hbetween (hk.mono hq)
  | alt a c iha ihc =>
    rw [looksAhead, Bool.and_eq_true] at hr
    exact alt_moves hst (iha hr.1) (ihc hr.2) looped follow
  | group n r ih => exact group_moves n (ih hr) looped follow
  | rep g least most r ih =>
    intro lo p k k' hp hk
    rw [run.eq_def s, run.eq_def t]
    dsimp only
    split
    · exact runUnits_moves hst g least most _ looped follow lo p k k' hp hk
    · exact runRounds_moves hst (ih hr _ _) g least most looped lo p k k' hp hk
  | backref n rule width => exact backref_moves hst n rule width looped follow
  | look behind negated r ih =>
    rw [looksAhead, Bool.and_eq_true, Option.isNone_iff_eq_none] at hr
    obtain ⟨rfl, hr⟩ := hr
    exact look_moves negated (ih hr) looped follow
  | cond n yes no ihyes ihno =>
    rw [looksAhead, Bool.and_eq_true] at hr
    intro lo p k k' hp hk
    have hspan : ((p.move b).marks.span? n).isSome = (p.marks.span? n).isSome := by
      rw [show (p.move b).marks.span? n = _ from Marks.span?_move b p.marks n, Option.isSome_map]
    rw [run, run, hspan]
    split
    · exact ihyes hr.1 looped _ lo p k k' hp hk
    · exact ihno hr.2 looped _ lo p k k' hp hk
  | atomic r ih => exact atomic_moves (ih hr) looped follow
  | anchor a =>
    intro lo p k k' hp hk
    have hholds : a.holds s (p.move b).pos = a.holds t p.pos := holds_leftAfter hst hr p.pos
    rw [run, run, hholds]
    split
    · exact hk p (Nat.le_refl _) hp
    · exact hp.fail

/-- **A match after some units of a subject is a match on what is left of it**,
moved, if the pattern does not look before its position. -/
theorem matchEnd_leftAfter {r : Regex} (hr : r.looksAhead = true) (pos : Nat) :
    r.matchEnd s (b + pos) = (r.matchEnd t pos).map (Option.map (b + ·)) := by
  have hstart : min (b + pos) s.size = b + min pos t.size := by
    rw [hst.size_eq, Nat.add_min_add_left]
  have hrun := run_moves hst r hr false .other 0 (.fresh (min pos t.size) .empty) accept accept
    (.fresh (Nat.zero_le _) (Nat.min_le_right ..) _) (Rest.moves_accept _)
  have hfresh : (Point.fresh (min pos t.size) .empty).move b = .fresh (b + min pos t.size) .empty :=
    congrArg (Point.mk _ _) (Marks.move_empty b)
  have heq := hrun.eq
  rw [hfresh] at heq
  unfold matchEnd
  dsimp only
  rw [hstart, size_sub_leftAfter hst, heq, Attempt.stop_move]
  split <;> rfl

end Patterns

end Regex

end ParseKit
