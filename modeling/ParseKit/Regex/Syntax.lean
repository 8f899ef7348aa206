import ParseKit.Regex.Charset

/-!
# Regular expressions

`Regex` is a pattern as it is matched: flags and names are resolved, so
that each node by itself says what it accepts. `Regex.width` bounds the
number of units that a match of a pattern consumes; looking behind steps
back by that number, which is why it must be fixed there.
-/

namespace ParseKit

namespace Regex

/-- A position that a pattern may ask for without reading anything. -/
inductive Anchor where
  /-- The start of the subject. -/
  | start
  /-- The start of a line. -/
  | lineStart
  /-- The end of the subject. -/
  | stop
  /-- The end of the subject, or just before a line feed that ends it. -/
  | lastStop
  /-- The end of a line. -/
  | lineStop
  /-- Between a word character and something else. -/
  | boundary (table : CharTable)
  /-- Not between a word character and something else. -/
  | inside (table : CharTable)
  deriving DecidableEq, Repr, Inhabited

/-- How a repetition chooses the number of its rounds. -/
inductive Greed where
  /-- As many rounds as possible first. -/
  | greedy
  /-- As few rounds as possible first. -/
  | lazy
  /-- As many rounds as possible, and never fewer. -/
  | possessive
  deriving DecidableEq, Repr, Inhabited

/-- **Bounds on the number of units** that a match consumes. -/
structure Width where
  /-- The least number. -/
  least : Nat
  /-- The greatest number. -/
  most : Nat
  deriving DecidableEq, Repr, Inhabited

namespace Width

/-- The bound above which greatest widths are not told apart; it stands for
no bound at all. -/
def limit : Nat := 4294967295

/-- The bound above which least widths are not told apart. It is below
`limit`, so that a width at the bounds is never taken for a fixed one. -/
def leastLimit : Nat := 4294967294

/-- The width of nothing. -/
def none : Width := ⟨0, 0⟩

/-- The width of one unit. -/
def one : Width := ⟨1, 1⟩

/-- The widths of two patterns in a row. -/
def add (a b : Width) : Width :=
  ⟨min (a.least + b.least) leastLimit, min (a.most + b.most) limit⟩

/-- The width of either of two patterns. -/
def either (a b : Width) : Width := ⟨min a.least b.least, max a.most b.most⟩

/-- The width of a repetition. -/
def repeated (a : Width) (least : Nat) (most : Option Nat) : Width :=
  ⟨min (a.least * least) leastLimit, min (a.most * most.getD limit) limit⟩

/-- Whether only one width is possible. -/
def isFixed (a : Width) : Bool := a.least == a.most

end Width

end Regex

/-- **A regular expression.** Groups are numbered from one. -/
inductive Regex where
  /-- The empty pattern. -/
  | empty
  /-- One code unit. -/
  | unit (u : Regex.UnitTest)
  /-- Two patterns in a row. -/
  | seq (first second : Regex)
  /-- The first pattern, or else the second. More than two alternatives are
  a chain of choices, each the second of the one before it. -/
  | alt (first second : Regex)
  /-- A pattern whose match is remembered. -/
  | group (n : Nat) (body : Regex)
  /-- A repetition, with no upper bound if `most` is missing. -/
  | rep (greed : Regex.Greed) (least : Nat) (most : Option Nat) (body : Regex)
  /-- What a group matched, once more; `width` is the width of the group. -/
  | backref (n : Nat) (rule : Regex.CaseRule) (width : Regex.Width)
  /-- A pattern that must match, or must not, from here on without being
  consumed; with a width, it is tried that far back. -/
  | look (behind : Option Regex.Width) (negated : Bool) (body : Regex)
  /-- One of two patterns, by whether a group has matched. -/
  | cond (n : Nat) (yes no : Regex)
  /-- A pattern that is matched in the first way only. -/
  | atomic (body : Regex)
  /-- A position. -/
  | anchor (a : Regex.Anchor)
  deriving DecidableEq, Repr, Inhabited

namespace Regex

/-- Patterns in a row. -/
def ofList : List Regex → Regex
  | [] => .empty
  | [r] => r
  | r :: rest => .seq r (ofList rest)

/-- The given characters in a row. -/
def ofChars (chars : List Char) : Regex :=
  ofList (chars.map fun c => .unit (.one c.toNat false .exact))

/-- A pattern as the last of several alternatives. Alternatives that stand
there by themselves are kept apart from those around them. -/
def lastChoice : Regex → Regex
  | .alt a b => .seq (.alt a b) .empty
  | r => r

/-- The first of several patterns that leads to a match. -/
def anyOf : List Regex → Regex
  | [] => .empty
  | [r] => r.lastChoice
  | r :: rest => .alt r (anyOf rest)

/-- One or more units in a row, as many as possible. -/
def oneOrMore (u : UnitTest) : Regex := .rep .greedy 1 none (.unit u)

/-- Any number of units in a row, as many as possible. -/
def zeroOrMore (u : UnitTest) : Regex := .rep .greedy 0 none (.unit u)

/-- Bounds on the number of units that a match consumes. -/
def width : Regex → Width
  | .empty => .none
  | .unit _ => .one
  | .seq a b => a.width.add b.width
  | .alt a b => a.width.either b.width
  | .group _ r => r.width
  | .rep _ least most r => r.width.repeated least most
  | .backref _ _ w => w
  | .look .. => .none
  | .cond _ yes no => yes.width.either no.width
  | .atomic r => r.width
  | .anchor _ => .none

/-- **What a pattern begins with.** -/
inductive Lead where
  /-- With nothing, so that it begins with what follows. -/
  | nothing
  /-- With one code unit. -/
  | unit (u : UnitTest)
  /-- With something else. -/
  | other
  deriving DecidableEq, Repr, Inhabited

/-- What two patterns in a row begin with. -/
def Lead.before (first second : Lead) : Lead :=
  match first with
  | .nothing => second
  | lead => lead

/-- What a pattern begins with. -/
def lead : Regex → Lead
  | .empty => .nothing
  | .unit u => .unit u
  | .seq a b => a.lead.before b.lead
  | _ => .other

/-- Whether a pattern is a choice between alternatives. -/
def isChoice : Regex → Bool
  | .alt .. => true
  | _ => false

/-- **Whether a pattern never looks before the position at which it is
tried**: it has no anchor at a start or a word boundary, and does not look
behind. -/
def looksAhead : Regex → Bool
  | .seq a b | .alt a b | .cond _ a b => a.looksAhead && b.looksAhead
  | .group _ r | .rep _ _ _ r | .atomic r => r.looksAhead
  | .look behind _ r => behind.isNone && r.looksAhead
  | .anchor .start | .anchor .lineStart => false
  | .anchor (.boundary _) | .anchor (.inside _) => false
  | _ => true

end Regex

end ParseKit
