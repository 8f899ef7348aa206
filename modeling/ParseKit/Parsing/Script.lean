import ParseKit.Log
import ParseKit.Parsing.State
import ParseKit.Tree.Node

/-!
# Parsing units

A parsing unit makes a node from tokens. What it does is a `Script`: it
looks at tokens, takes and skips them, and lets other units parse, until
it has its node or fails. A script sees what each of its steps comes to
and may go on after a failure.

A unit runs on a state of its own. The state that asked for it skips its
trivia first; if the unit makes a node, the cursor moves to where the unit
left its own, which is *committed*; if the unit fails, the cursor stays
after the trivia, however far the unit and those inside it had come.
-/

namespace ParseKit

/-- **Why a unit makes no node.** -/
inductive ParseFailure where
  /-- An error of the toolkit. -/
  | error (e : Error)
  /-- A failure of the unit's own. -/
  | unit (message : String)
  /-- What was asked to parse is no unit; this is how messages show it. -/
  | notUnit (shown : String)
  /-- The source could not be read into tokens. -/
  | lexing (stop : LexStop)
  /-- A unit with a null character in its name. -/
  | badName
  /-- A loop that takes no token and does not end. -/
  | stuck
  deriving DecidableEq, Repr, Inhabited

/-- The message of a failure. -/
def ParseFailure.message : ParseFailure → String
  | .error e => e.message
  | .unit message => message
  | .notUnit shown => shown ++ " is not a parsing unit"
  | .lexing _ => "the source has no tokens"
  | .badName => "a unit's name has a null character"
  | .stuck => "no token was taken"

/-- **What a parsing unit does**, step by step. -/
inductive Script where
  /-- Ends with a node. -/
  | done (n : Node)
  /-- Fails. -/
  | fail (f : ParseFailure)
  /-- Looks at the token at the cursor. -/
  | peek (next : Except ParseFailure Token → Script)
  /-- Takes the token at the cursor. -/
  | eat (next : Except ParseFailure Token → Script)
  /-- Takes the token at the cursor, which must be of one of some kinds. -/
  | require (kinds : Kinds) (next : Except ParseFailure Token → Script)
  /-- Asks whether the token at the cursor is of one of some kinds. -/
  | isKind (kinds : Kinds) (next : Bool → Script)
  /-- Skips tokens of some kinds. -/
  | skipWhile (kinds : Kinds) (next : Script)
  /-- Reads the cursor and the number of tokens. -/
  | look (next : Nat → Nat → Script)
  /-- Lets a unit with a name parse. -/
  | parse (name : String) (unit : Script) (next : Except ParseFailure Node → Script)
  /-- Asks something to parse that is no unit. -/
  | parseOther (shown : String) (next : Except ParseFailure Node → Script)

/-- **Something that happens in a parse.** -/
inductive ParseEvent where
  /-- A unit moves the cursor of the state that asked for it. -/
  | committed (name : String) (start stop : Nat)
  /-- A token is missing or of the wrong kind. -/
  | refused (e : ParseError)
  deriving DecidableEq, Repr, Inhabited

/-- The record of an event, if it has one. -/
def ParseEvent.record? : ParseEvent → Option Record
  | .committed name start stop => some (.committed name start stop)
  | .refused _ => none

/-- **What a script comes to**: a node or a failure, the state afterwards,
and what happened. -/
structure Parsed where
  /-- The node or the failure. -/
  result : Except ParseFailure Node
  /-- The state afterwards. -/
  state : State
  /-- What happened, in order. -/
  events : List ParseEvent := []
  deriving Inhabited

/-- The same outcome after other events. -/
def Parsed.after (p : Parsed) (events : List ParseEvent) : Parsed :=
  { p with events := events ++ p.events }

/-- The records of what happened. -/
def Parsed.records (p : Parsed) : List Record := p.events.filterMap ParseEvent.record?

namespace Script

/-- The failure that an error makes. -/
def refusal (e : ParseError) : ParseFailure := .error (.parse e)

/-- **Runs a script on a state.** -/
def run : Script → State → Parsed
  | .done n, s => { result := .ok n, state := s }
  | .fail f, s => { result := .error f, state := s }
  | .peek next, s =>
    match s.peek with
    | .ok t => run (next (.ok t)) s
    | .error e => (run (next (.error (refusal e))) s).after [.refused e]
  | .eat next, s =>
    match s.eat with
    | .ok (t, s') => run (next (.ok t)) s'
    | .error e => (run (next (.error (refusal e))) s).after [.refused e]
  | .require kinds next, s =>
    match s.require kinds with
    | .ok (t, s') => run (next (.ok t)) s'
    | .error e => (run (next (.error (refusal e))) s).after [.refused e]
  | .isKind kinds next, s => run (next (s.isKind kinds)) s
  | .skipWhile kinds next, s => run next (s.skipWhile kinds)
  | .look next, s => run (next s.cursor s.tokens.length) s
  | .parse name unit next, s =>
    let start := s.skipTrivia
    let inner := run unit start
    match inner.result with
    | .ok n =>
      let stop := inner.state.cursor
      (run (next (.ok n)) (start.moveTo stop)).after
        (inner.events ++ [.committed name start.cursor stop])
    | .error f => (run (next (.error f)) start).after inner.events
  | .parseOther shown next, s => run (next (.error (.notUnit shown))) s

/-! ## Scripts that do not look at failures -/

/-- Goes on with what a step gave, and fails where it failed. -/
def orFail {α : Type} (next : α → Script) : Except ParseFailure α → Script
  | .ok a => next a
  | .error f => .fail f

/-- Looks at the token at the cursor. -/
def peeked (next : Token → Script) : Script := .peek (orFail next)

/-- Takes the token at the cursor. -/
def eaten (next : Token → Script) : Script := .eat (orFail next)

/-- Takes the token at the cursor, which must be of one of some kinds. -/
def required (kinds : Kinds) (next : Token → Script) : Script := .require kinds (orFail next)

/-- Lets a unit with a name parse. -/
def parsed (name : String) (unit : Script) (next : Node → Script) : Script :=
  .parse name unit (orFail next)

end Script

/-- **Lets a unit parse on a state.** -/
def State.parse (s : State) (name : String) (unit : Script) : Parsed :=
  (Script.parsed name unit .done).run s

/-- Asks something to parse on a state that is no unit. -/
def State.parseOther (s : State) (shown : String) : Parsed :=
  (Script.parseOther shown (Script.orFail .done)).run s

end ParseKit
