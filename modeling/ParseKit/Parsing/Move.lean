import ParseKit.Parsing.Script

/-!
# Moves

A move is a part of a script: it takes the node that has been made so far,
and goes on with the node that it makes of it. Units are put together from
moves; loops are moves too. A loop has at most as many rounds as there are
tokens left: a round that takes no token would be followed by the same
round again, for ever, and so the loop fails.
-/

namespace ParseKit

/-- **A move**: with the node made so far and what is to follow, the script
that makes more of the node and goes on. -/
abbrev Move := Node → (Node → Script) → Script

/-- What a unit keeps of a token. -/
structure Keep where
  /-- Whether the token becomes a child. -/
  child : Bool := false
  /-- Whether the text of the token becomes the value. -/
  value : Bool := false
  deriving DecidableEq, Repr, Inhabited

/-- A node after a token. -/
def Keep.apply (k : Keep) (n : Node) (t : Token) : Node :=
  let n := if k.child then n.addChild (.leaf t.kind t.label (some t.text)) else n
  if k.value then n.withValue (some t.text) else n

namespace Move

/-- Takes some tokens. -/
def eat (keep : Keep) : Nat → Move
  | 0, n, next => next n
  | times + 1, n, next => .eaten fun t => eat keep times (keep.apply n t) next

/-- Adds the node that a unit makes. -/
def parse (ask : (Except ParseFailure Node → Script) → Script) : Move := fun n next =>
  ask (Script.orFail fun child => next (n.addChild child))

/-- Adds the node that a unit makes, or a leaf with the message of an error. -/
def attempt (ask : (Except ParseFailure Node → Script) → Script) : Move := fun n next =>
  ask fun
    | .ok child => next (n.addChild child)
    | .error (.error e) => .look fun cursor _ =>
      next (n.addChild (.leaf cursor "failed" (some e.message)))
    | .error f => .fail f

/-- Repeats a move while there is a token of one of some kinds, at most
`rounds` times. -/
def loop (kinds : Kinds) (body : Move) : Nat → Move
  | 0, _, _ => .fail .stuck
  | rounds + 1, n, next => .isKind kinds fun
    | true => body n fun n => loop kinds body rounds n next
    | false => next n

/-- Repeats a move until no token is left, at most `rounds` times. -/
def untilEnd (body : Move) : Nat → Move
  | 0, _, _ => .fail .stuck
  | rounds + 1, n, next => .look fun cursor size =>
    if size ≤ cursor then next n else body n fun n => untilEnd body rounds n next

/-- A move that may take as many rounds as there are tokens left, and one
more to see the end. -/
def bounded (move : Nat → Move) : Move := fun n next =>
  .look fun cursor size => move (size - cursor + 1) n next

/-- Adds a child that shows where the cursor is. -/
def cursor : Move := fun n next => .look fun cursor size =>
  next (n.addChild (.leaf cursor "cursor" (some (State.shownAt cursor size))))

end Move

end ParseKit
