import ParseKit.Error

/-!
# States of a parse

A state is a list of tokens with a cursor in it. The tokens, the kinds of
trivia and the name of the source stay; only the cursor moves, and only
forward. Every operation is said through `State.rest`, the tokens from the
cursor on.
-/

namespace ParseKit

/-- **A state of a parse.** -/
structure State where
  /-- The tokens. -/
  tokens : List Token
  /-- The kinds of the tokens that are skipped before a unit. -/
  skipKinds : Kinds := []
  /-- The name of the source. -/
  filename : String := unnamedSource
  /-- The number of tokens before the cursor. -/
  cursor : Nat := 0
  deriving DecidableEq, Repr, Inhabited

namespace State

/-- **The tokens from the cursor on.** -/
def rest (s : State) : List Token := s.tokens.drop s.cursor

/-- The number of tokens from the cursor on. -/
def remaining (s : State) : Nat := s.tokens.length - s.cursor

/-- Whether no token is left. -/
def isAtEnd (s : State) : Bool := s.tokens.length ≤ s.cursor

/-- The state with the cursor elsewhere. -/
def moveTo (s : State) (cursor : Nat) : State := { s with cursor := cursor }

/-- The state a token further on. -/
def advance (s : State) : State := s.moveTo (s.cursor + 1)

/-- **The token at the cursor.** -/
def peek (s : State) : Except ParseError Token :=
  match s.rest with
  | t :: _ => .ok t
  | [] => .error (.ofKinds [] none none s.filename)

/-- **Takes the token at the cursor.** -/
def eat (s : State) : Except ParseError (Token × State) :=
  s.peek.map fun t => (t, s.advance)

/-- **Takes the token at the cursor**, which must be of one of the given
kinds. -/
def require (s : State) (kinds : Kinds) : Except ParseError (Token × State) :=
  match s.rest with
  | t :: _ =>
    if kinds.contains t.kind then .ok (t, s.advance)
    else .error (.ofKinds kinds (some t.kind) (some t) s.filename)
  | [] => .error (.ofKinds kinds none none s.filename)

/-- **Whether the token at the cursor is of one of the given kinds.** -/
def isKind (s : State) (kinds : Kinds) : Bool :=
  match s.rest with
  | t :: _ => kinds.contains t.kind
  | [] => false

/-- **The state after all tokens of the given kinds** that stand at the
cursor. -/
def skipWhile (s : State) (kinds : Kinds) : State :=
  s.moveTo (s.cursor + (s.rest.takeWhile fun t => kinds.contains t.kind).length)

/-- The state after the trivia at the cursor. -/
def skipTrivia (s : State) : State := s.skipWhile s.skipKinds

/-- A cursor in a number of tokens, as messages show a state. -/
def shownAt (cursor size : Nat) : String :=
  "ParserState(cursor=" ++ toString cursor ++ ", tokens=" ++ toString size ++ ")"

/-- A state as messages show it. -/
def shown (s : State) : String := shownAt s.cursor s.tokens.length

end State

end ParseKit
