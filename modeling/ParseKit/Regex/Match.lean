import ParseKit.Regex.Syntax

/-!
# Matching

`Regex.run` matches a pattern at one position by backtracking. It tries
the ways in which the pattern can match in order of preference, and hands
each to a continuation, which says whether the rest can be matched from
there; the first way that the continuation accepts is the answer. A
repetition of a single unit is run without one call per round.

A failed attempt leaves two things behind. One is a position, its **note**:
as a rule the last position from which something was tried. A possessive
repetition goes on from the note of the round that failed, and so may step
over units that no round has matched. The other are the marks.

On this one point the engine is not what expressions are said to mean: a
possessive repetition ought to be the greedy one with no way back, and to go
on from where its last round ended. Engines up to a certain release do what
is done here, later ones what is said; they agree where the round that fails
has not left its beginning.

A group is remembered by two marks, where it last began and where it last
ended. It counts as matched when both are set and the end is not before
the beginning. What a failed attempt has marked is taken back: all of it
within a repetition, and elsewhere only the marks of groups that had not
been marked before. So a group that is tried again may be left with a
beginning after its end; a match with such a group is refused as
**tangled**.
-/

namespace ParseKit

/-- **What a pattern is matched against**: a row of code units. -/
structure Subject where
  /-- The number of units. -/
  size : Nat
  /-- The unit at a position. -/
  code : Nat → Nat

namespace Subject

/-- The characters of a text. -/
def ofChars (s : Array Char) : Subject where
  size := s.size
  code i := (s.getD i '\x00').toNat

/-- Bytes. -/
def ofBytes (b : ByteArray) : Subject where
  size := b.size
  code i := if h : i < b.size then b[i].toNat else 0

end Subject

namespace Regex

/-- **The marks of the groups**: for group `n`, counted from one, where it
began at index `2 n - 2` and where it ended at `2 n - 1`. There are marks
only up to the last group that has been marked. -/
abbrev Marks := Array (Option Nat)

namespace Marks

/-- No group has been marked. -/
def empty : Marks := #[]

/-- Sets a mark; those before it that were never set stay so. -/
def put (m : Marks) (i p : Nat) : Marks :=
  if i < m.size then m.set! i (some p)
  else (m ++ Array.replicate (i - m.size) none).push (some p)

/-- Remembers where a group begins. -/
def begin (m : Marks) (n p : Nat) : Marks := m.put (2 * n - 2) p

/-- Remembers where a group ends. -/
def finish (m : Marks) (n p : Nat) : Marks := m.put (2 * n - 1) p

/-- What a group matched, from where to where. -/
def span? (m : Marks) (n : Nat) : Option (Nat × Nat) :=
  match m.getD (2 * n - 2) none, m.getD (2 * n - 1) none with
  | some a, some b => if a ≤ b then some (a, b) else none
  | _, _ => none

/-- **Whether some group begins after its end.** -/
def isTangled (m : Marks) : Bool :=
  (List.range (m.size / 2)).any fun i =>
    match m.getD (2 * i) none, m.getD (2 * i + 1) none with
    | some a, some b => b < a
    | _, _ => false

/-- **The marks after an attempt has failed**, from those before it and
those that it left. Within a repetition they are as before; elsewhere there
are as many as before. -/
def takeBack (looped : Bool) (before left : Marks) : Marks :=
  if looped then before else left.extract 0 before.size

end Marks

/-- **Where matching stands.** -/
structure Point where
  /-- The position. -/
  pos : Nat
  /-- The position that a failure here leaves behind. -/
  note : Nat
  /-- The marks. -/
  marks : Marks

/-- **What an attempt comes to.** -/
inductive Attempt where
  /-- A match that ends at a position, and the marks then. -/
  | matched (stop : Nat) (marks : Marks)
  /-- No match; a position is noted, and marks are left. -/
  | failed (note : Nat) (marks : Marks)

/-- The refusal of a match of which some group begins after its end. -/
structure Tangled where
  deriving DecidableEq, Repr, Inhabited

/-- What is asked of the rest, after a match that ends at a point. -/
abbrev Rest := Point → Attempt

/-- A pattern before a rest. -/
abbrev Step := Point → Rest → Attempt

namespace Attempt

/-- The attempt with another note, if it has failed. -/
def noting (note : Nat) : Attempt → Attempt
  | .failed _ marks => .failed note marks
  | a => a

/-- The attempt with the marks taken back, if it has failed. -/
def takingBack (looped : Bool) (before : Marks) : Attempt → Attempt
  | .failed note marks => .failed note (Marks.takeBack looped before marks)
  | a => a

/-- Where a match ends, if there is one; nothing comes of a match whose
groups are tangled. -/
def stop : Attempt → Except Tangled (Option Nat)
  | .matched stop marks => if marks.isTangled then .error .mk else .ok (some stop)
  | .failed .. => .ok none

end Attempt

namespace Point

/-- A failure at a point. -/
def fail (p : Point) : Attempt := .failed p.note p.marks

/-- A position that is noted too. -/
def fresh (pos : Nat) (marks : Marks) : Point := ⟨pos, pos, marks⟩

end Point

/-- The rest of which nothing is asked. -/
def accept : Rest := fun p => .matched p.pos p.marks

/-! ## Positions and units -/

/-- Whether the unit at a position passes a test. -/
def passes (s : Subject) (u : UnitTest) (p : Nat) : Bool := p < s.size && u.holds (s.code p)

/-- Whether a unit is a word character; there is none outside of the
subject. -/
def wordAt (s : Subject) (table : CharTable) (p : Nat) : Bool :=
  p < s.size && Category.word.holds table (s.code p)

/-- Whether a position lies between a word character and something else. -/
def atBoundary (s : Subject) (table : CharTable) (p : Nat) : Bool :=
  (0 < p && wordAt s table (p - 1)) != wordAt s table p

/-- **Whether a position is of the kind asked for.** In an empty subject no
position is at a boundary, nor is one inside. -/
def Anchor.holds (s : Subject) (p : Nat) : Anchor → Bool
  | .start => p == 0
  | .lineStart => p == 0 || s.code (p - 1) == 10
  | .stop => p == s.size
  | .lastStop => p == s.size || (p + 1 == s.size && s.code p == 10)
  | .lineStop => p == s.size || s.code p == 10
  | .boundary table => s.size != 0 && atBoundary s table p
  | .inside table => s.size != 0 && !atBoundary s table p

/-- Whether the units from `p` on are the same as those from `a` up to
`b`; `n` is the number of those. -/
def repeatsAt (s : Subject) (rule : CaseRule) (a p : Nat) : Nat → Bool
  | 0 => true
  | n + 1 =>
    p < s.size && rule.form (s.code p) == rule.form (s.code a)
      && repeatsAt s rule (a + 1) (p + 1) n

/-! ## Repetitions of one unit -/

/-- The number of units from `p` on that pass a test, at most `fuel`. -/
def runLength (s : Subject) (u : UnitTest) (p : Nat) : Nat → Nat
  | 0 => 0
  | fuel + 1 => if passes s u p then runLength s u (p + 1) fuel + 1 else 0

/-- The number of units from `p` on that pass a test, at most `most`. -/
def runUpTo (s : Subject) (u : UnitTest) (p : Nat) (most : Option Nat) : Nat :=
  runLength s u p (match most with
    | some n => min n (s.size - p)
    | none => s.size - p)

/-- Whether the rest, by what it begins with, is worth a try at a position.
Only a given unit tells. -/
def worthwhile (s : Subject) (follow : Lead) (p : Nat) : Bool :=
  match follow with
  | .unit u =>
    match u.literal? with
    | some c => p < s.size && s.code p == c
    | none => true
  | _ => true

/-- Tries the rest at a position, if it is worth a try. -/
def tryRest (s : Subject) (looped : Bool) (follow : Lead) (before : Marks) (k : Rest)
    (pos : Nat) (p : Point) : Attempt :=
  if worthwhile s follow pos then (k (.fresh pos p.marks)).takingBack looped before else p.fail

/-- Tries the rest after `n` units from `base` on, then after fewer, down to
none. -/
def fewer (s : Subject) (looped : Bool) (follow : Lead) (before : Marks) (k : Rest)
    (base : Nat) : Nat → Point → Attempt
  | 0, p => tryRest s looped follow before k base p
  | n + 1, p =>
    match tryRest s looped follow before k (base + (n + 1)) p with
    | .failed note marks => fewer s looped follow before k base n ⟨base, note, marks⟩
    | found => found

/-- Tries the rest at a point that is `count` units on, then after one unit
more as long as there may be more. `fuel` bounds the number of units. -/
def more (s : Subject) (looped : Bool) (u : UnitTest) (most : Option Nat) (before : Marks)
    (k : Rest) : (fuel count : Nat) → Point → Attempt
  | 0, _, p => p.fail
  | fuel + 1, count, p =>
    if most.all (count ≤ ·) then
      match (k (.fresh p.pos p.marks)).takingBack looped before with
      | .failed _ marks =>
        if passes s u p.pos then
          more s looped u most before k fuel (count + 1)
            ⟨p.pos + 1, if u.isStepwise then p.pos + 1 else p.pos, marks⟩
        else .failed p.pos marks
      | found => found
    else p.fail

/-- **A repetition of one unit.** A lazy one begins with as few units as
are needed, the others with as many as there are. -/
def runUnits (s : Subject) (g : Greed) (least : Nat) (most : Option Nat) (u : UnitTest)
    (looped : Bool) (follow : Lead) : Step := fun p k =>
  if s.size - p.pos < least then p.fail
  else
    let n := runUpTo s u p.pos (match g with
      | .lazy => some least
      | _ => most)
    let after : Point := ⟨p.pos + n, if u.isStepwise then p.pos + n else p.pos, p.marks⟩
    if n < least then after.fail
    else match g with
      | .greedy => fewer s looped follow p.marks k (p.pos + least) (n - least) after
      | .lazy => more s looped u most p.marks k (s.size - p.pos + 1) n after
      | .possessive => k after

/-! ## Repetitions of any pattern -/

/-- Whether a round is allowed after `count` rounds. -/
def roundAllowed (most : Option Nat) (count : Nat) : Bool := most.all (count < ·)

/-- **A greedy repetition** after `count` rounds. Beyond the least number of
rounds, one more is tried first, unless the one before it, which began at
`last`, has read nothing. `fuel` bounds the number of rounds. -/
def greedyRounds (body : Step) (least : Nat) (most : Option Nat) (k : Rest) :
    (fuel count : Nat) → (last : Option Nat) → Point → Attempt
  | 0, _, _, p => p.fail
  | fuel + 1, count, last, p =>
    let here := Point.fresh p.pos p.marks
    if count < least then
      (body here fun q => greedyRounds body least most k fuel (count + 1) last q).noting p.pos
    else if roundAllowed most count && last != some p.pos then
      match body here fun q =>
        greedyRounds body least most k fuel (count + 1) (some p.pos) q with
      | .failed .. => (k here).noting p.pos
      | found => found
    else (k here).noting p.pos

/-- **A lazy repetition** after `count` rounds: as a greedy one, but the
rest is tried before one more round. The rest stands outside of this
repetition, and `looped` says whether it is within another. -/
def lazyRounds (body : Step) (least : Nat) (most : Option Nat) (looped : Bool) (k : Rest) :
    (fuel count : Nat) → (last : Option Nat) → Point → Attempt
  | 0, _, _, p => p.fail
  | fuel + 1, count, last, p =>
    let here := Point.fresh p.pos p.marks
    if count < least then
      (body here fun q => lazyRounds body least most looped k fuel (count + 1) last q).noting p.pos
    else
      match (k here).takingBack looped p.marks with
      | .failed _ marks =>
        if roundAllowed most count && last != some p.pos then
          (body (.fresh p.pos marks) fun q =>
            lazyRounds body least most looped k fuel (count + 1) (some p.pos) q).noting p.pos
        else .failed p.pos marks
      | found => found

/-- **A possessive repetition** after `count` rounds: each round is matched
in the first way only, and no round is given back. Where a round fails that
is not needed, the repetition ends at the position that it noted, and not,
as it ought to, at the one where the round began. -/
def possessiveRounds (body : Step) (least : Nat) (most : Option Nat) (start : Nat) :
    (fuel count : Nat) → (last : Option Nat) → Nat → Marks → Attempt
  | 0, _, _, _, marks => .failed start marks
  | fuel + 1, count, last, pos, marks =>
    if count < least then
      match body (.fresh pos marks) accept with
      | .matched stop marks =>
        possessiveRounds body least most start fuel (count + 1) last stop marks
      | .failed _ marks => .failed start marks
    else if roundAllowed most count && last != some pos then
      match body (.fresh pos marks) accept with
      | .matched stop marks =>
        possessiveRounds body least most start fuel (count + 1) (some pos) stop marks
      | .failed note _ => .matched note marks
    else .matched pos marks

/-- A repetition of any pattern. A round that is not needed either reads a
unit or is the last one, which bounds their number. -/
def runRounds (s : Subject) (g : Greed) (least : Nat) (most : Option Nat)
    (looped : Bool) (body : Step) : Step := fun p k =>
  let fuel := least + s.size + 2
  match g with
  | .greedy => greedyRounds body least most k fuel 0 none p
  | .lazy => lazyRounds body least most looped k fuel 0 none p
  | .possessive =>
    match possessiveRounds body least most p.pos fuel 0 none p.pos p.marks with
    | .matched stop marks => k (.fresh stop marks)
    | failure => failure

/-! ## Patterns -/

/-- An alternative before a rest. One that begins with a test that fails is
passed over, and notes nothing. -/
def choose (s : Subject) (looped : Bool) (r : Regex) (step : Step) : Step := fun p k =>
  let passedOver := match r.lead with
    | .unit u => u.isDecisive && !passes s u p.pos
    | _ => false
  if passedOver then p.fail else (step (.fresh p.pos p.marks) k).takingBack looped p.marks

/-- **Matching a pattern** at a point, before a rest that begins with
`follow`; `looped` says whether the pattern is within a repetition. -/
def run (s : Subject) : Regex → (looped : Bool) → (follow : Lead) → Step
  | .empty, _, _, p, k => k p
  | .unit u, _, _, p, k => if passes s u p.pos then k { p with pos := p.pos + 1 } else p.fail
  | .seq a b, looped, follow, p, k =>
    run s a looped (b.lead.before follow) p fun q => run s b looped follow q k
  | .alt a b, looped, _, p, k =>
    match choose s looped a (run s a looped .other) p k with
    | .failed note marks =>
      let p := { p with note := note, marks := marks }
      if b.isChoice then run s b looped .other p k
      else choose s looped b (run s b looped .other) p k
    | found => found
  | .group n r, looped, _, p, k =>
    run s r looped .other { p with marks := p.marks.begin n p.pos } fun q =>
      k { q with marks := q.marks.finish n q.pos }
  | .rep g least most r, looped, follow, p, k =>
    match r with
    | .unit u => runUnits s g least most u looped follow p k
    | r => runRounds s g least most looped
        (run s r (match g with
          | .possessive => looped
          | _ => true) .other) p k
  | .backref n rule _, _, _, p, k =>
    match p.marks.span? n with
    | some (a, b) =>
      if repeatsAt s rule a p.pos (b - a) then k { p with pos := p.pos + (b - a) } else p.fail
    | none => p.fail
  | .look behind negated r, looped, _, p, k =>
    let back := (behind.getD .none).least
    if p.pos < back then
      if negated then k p else p.fail
    else
      match negated, run s r looped .other (.fresh (p.pos - back) p.marks) accept with
      | false, .matched stop marks => k ⟨p.pos, stop, marks⟩
      | false, failure => failure
      | true, .matched stop marks => .failed stop marks
      | true, .failed note marks => k ⟨p.pos, note, Marks.takeBack looped p.marks marks⟩
  | .cond n yes no, looped, follow, p, k =>
    if (p.marks.span? n).isSome then
      run s yes looped (if no == .empty then follow else .other) p k
    else run s no looped follow p k
  | .atomic r, looped, _, p, k =>
    match run s r looped .other (.fresh p.pos p.marks) accept with
    | .matched stop marks => k (.fresh stop marks)
    | .failed _ marks => .failed p.pos marks
  | .anchor a, _, _, p, k => if a.holds s p.pos then k p else p.fail

/-- **Where the match at a position ends**, if there is one; a position
beyond the end counts as the end. Where fewer units are left than any match
has, nothing is tried. -/
def matchEnd (r : Regex) (s : Subject) (pos : Nat) : Except Tangled (Option Nat) :=
  let start := min pos s.size
  if s.size - start < r.width.least then .ok none
  else (run s r false .other (.fresh start .empty) accept).stop

end Regex

end ParseKit
