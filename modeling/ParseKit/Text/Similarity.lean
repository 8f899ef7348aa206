/-!
# Similar words

How much two words have in common is counted in characters: those of the
longest stretch that both share, and, to its left and to its right, those
that are counted there in the same way. Two words are **close** when at
least six tenths of all their characters are common.

`closest` gives the words of a list that are close to a word, three at
most.
-/

namespace ParseKit.Text

/-- A stretch that two words share: where it begins in each, and its
length. -/
structure Stretch where
  /-- Where it begins in the first word. -/
  first : Nat
  /-- Where it begins in the second word. -/
  second : Nat
  /-- Its length. -/
  length : Nat
  deriving DecidableEq, Repr, Inhabited

/-- The number of characters with which two words both begin. -/
def sharedPrefix : List Char → List Char → Nat
  | a :: as, b :: bs => if a == b then sharedPrefix as bs + 1 else 0
  | _, _ => 0

/-- All stretches that two words share, each as long as it can be, in the
order of where they begin in the first and then in the second. -/
def stretches (a b : List Char) : List Stretch :=
  (List.range a.length).flatMap fun i =>
    (List.range b.length).map fun j => ⟨i, j, sharedPrefix (a.drop i) (b.drop j)⟩

/-- **The longest stretch that two words share**, the first of them if there
are several. -/
def longestStretch (a b : List Char) : Stretch :=
  (stretches a b).foldl (fun best s => if best.length < s.length then s else best) ⟨0, 0, 0⟩

/-- The number of characters that two words have in common; `fuel` bounds
how often they are cut. -/
def commonWithin : Nat → List Char → List Char → Nat
  | 0, _, _ => 0
  | fuel + 1, a, b =>
    let s := longestStretch a b
    if s.length == 0 then 0
    else s.length + commonWithin fuel (a.take s.first) (b.take s.second)
      + commonWithin fuel (a.drop (s.first + s.length)) (b.drop (s.second + s.length))

/-- **The number of characters that two words have in common.** Each cut
takes a character from the first at least. -/
def common (a b : List Char) : Nat := commonWithin a.length a b

/-- A word with how close it is to another, as a fraction. -/
structure Candidate where
  /-- The word. -/
  word : String
  /-- The number of common characters. -/
  shared : Nat
  /-- The number of characters of both. -/
  total : Nat
  deriving DecidableEq, Repr, Inhabited

namespace Candidate

/-- A word as a candidate for another. -/
def of (wanted word : String) : Candidate :=
  ⟨word, common word.toList wanted.toList, word.length + wanted.length⟩

/-- Whether a candidate is close. -/
def isClose (c : Candidate) : Bool := 3 * c.total ≤ 10 * c.shared

/-- Whether one candidate goes before another: the closer one, and of two
that are equally close the later one in the alphabet. -/
def goesBefore (a b : Candidate) : Bool :=
  let left := a.shared * b.total
  let right := b.shared * a.total
  right < left || (left == right && b.word ≤ a.word)

end Candidate

/-- **The words that are closest to a word**, three at most, in the order of
the alphabet. -/
def closest (wanted : String) (words : List String) : List String :=
  let close := (words.map (Candidate.of wanted)).filter Candidate.isClose
  let best := ((close.mergeSort Candidate.goesBefore).take 3).map Candidate.word
  best.mergeSort fun a b => decide (a ≤ b)

end ParseKit.Text
