import ParseKit.Parsing.Move

/-!
# Units given by recipes

A recipe describes a parsing unit as data: the node that the unit starts
with, and the steps by which it takes tokens, adds children and lets other
units parse. Recipes can name one another, and so can be recursive.

`Callee.parse` runs a recipe. A unit that asks for itself before it has
taken a token would do so for ever; it fails instead.
-/

namespace ParseKit

mutual

/-- **A recipe**: the name of the unit, the node it starts with, and its
steps. -/
inductive Recipe where
  /-- A recipe. -/
  | mk (name : String) (start : Node) (steps : List Step)

/-- **What is asked to parse.** -/
inductive Callee where
  /-- The unit with a name. -/
  | named (name : String)
  /-- A unit by its recipe. -/
  | inline (r : Recipe)
  /-- Something that is no unit, as messages show it. -/
  | other (shown : String)

/-- **A step of a recipe.** -/
inductive Step where
  /-- Takes some tokens. -/
  | eat (times : Nat) (keep : Keep)
  /-- Looks at a token. -/
  | peek (keep : Keep)
  /-- Takes a token of one of some kinds. -/
  | require (kinds : Kinds) (keep : Keep)
  /-- Skips tokens of some kinds. -/
  | skip (kinds : Kinds)
  /-- Adds the node of a unit as a child. -/
  | parse (unit : Callee)
  /-- The same, but an error of the toolkit is kept as a child. -/
  | attempt (unit : Callee)
  /-- Goes on with one of two lists of steps. -/
  | choose (kinds : Kinds) (yes no : List Step)
  /-- Repeats steps as long as there is a token of one of some kinds. -/
  | loop (kinds : Kinds) (body : List Step)
  /-- Repeats steps until no token is left. -/
  | untilEnd (body : List Step)
  /-- Adds a child that shows where the cursor is. -/
  | cursor
  /-- Fails. -/
  | fail

end

instance : Inhabited Step := ⟨.cursor⟩

instance : Inhabited Callee := ⟨.named ""⟩

instance : Inhabited Recipe := ⟨.mk "" default []⟩

/-- The failure of a step that fails. -/
def Step.failure : ParseFailure := .unit "unit failed"

/-- **The unit with a name**: the name that records give it, and what it
does. -/
abbrev Resolver := String → Option (String × Script)

/-- Whether a unit can have a name: null characters are refused. -/
def isUnitName (name : String) : Bool := !name.toList.contains '\x00'

/-- Asks for the node of a unit with a name, if it can have that name. -/
def askNamed (name : String) (unit : Script) (next : Except ParseFailure Node → Script) :
    Script :=
  if isUnitName name then .parse name unit next else next (.error .badName)

mutual

/-- The script of a recipe, given the units with names. -/
def Recipe.scriptWith (units : Resolver) : Recipe → Script
  | .mk _ start steps => Step.movesWith units steps start .done

/-- Asks for the node of a unit. -/
def Callee.askWith (units : Resolver) :
    Callee → (Except ParseFailure Node → Script) → Script
  | .named name => fun next =>
    match units name with
    | some (shownName, unit) => askNamed shownName unit next
    | none => .parseOther (Text.quote name) next
  | .inline r => fun next =>
    match r with
    | .mk name start steps => askNamed name (Step.movesWith units steps start .done) next
  | .other shown => fun next => .parseOther shown next

/-- What a step does. -/
def Step.moveWith (units : Resolver) : Step → Move
  | .eat times keep => Move.eat keep times
  | .peek keep => fun n next => .peeked fun t => next (keep.apply n t)
  | .require kinds keep => fun n next => .required kinds fun t => next (keep.apply n t)
  | .skip kinds => fun n next => .skipWhile kinds (next n)
  | .parse unit => Move.parse (unit.askWith units)
  | .attempt unit => Move.attempt (unit.askWith units)
  | .choose kinds yes no => fun n next => .isKind kinds fun
    | true => Step.movesWith units yes n next
    | false => Step.movesWith units no n next
  | .loop kinds body => Move.bounded (Move.loop kinds (Step.movesWith units body))
  | .untilEnd body => Move.bounded (Move.untilEnd (Step.movesWith units body))
  | .cursor => Move.cursor
  | .fail => fun _ _ => .fail Step.failure

/-- What several steps do, one after the other. -/
def Step.movesWith (units : Resolver) : List Step → Move
  | [] => fun n next => next n
  | step :: rest => fun n next =>
    step.moveWith units n fun n => Step.movesWith units rest n next

end

namespace Recipe

/-- The name of a unit. -/
def name : Recipe → String
  | .mk name _ _ => name

/-- The units of a book of recipes, which ask for one another at most
`depth` times within one another. -/
def resolver (book : List (String × Recipe)) : Nat → Resolver
  | 0, name => (book.lookup name).map fun r => (r.name, .fail .stuck)
  | depth + 1, name => (book.lookup name).map fun r =>
    (r.name, .look fun _ _ => r.scriptWith (resolver book depth))

/-- **The units of a book of recipes** on a number of tokens. Units that end
enter each name at each cursor at most once within one another. -/
def unitsOf (book : List (String × Recipe)) (tokens : Nat) : Resolver :=
  resolver book ((tokens + 1) * (book.length + 1))

end Recipe

/-- **Asks for the node of a unit on a state**, given a book of recipes. -/
def Callee.parse (book : List (String × Recipe)) (c : Callee) (s : State) : Parsed :=
  (c.askWith (Recipe.unitsOf book s.tokens.length) (Script.orFail .done)).run s

/-- Whether something is a unit, given a book of recipes. A unit that cannot
have its name is no answer. -/
def Callee.isUnit (book : List (String × Recipe)) : Callee → Except ParseFailure Bool
  | .named name =>
    match book.lookup name with
    | some r => answer r.name
    | none => .ok false
  | .inline r => answer r.name
  | .other _ => .ok false
where
  /-- The answer for a unit with a name. -/
  answer (name : String) : Except ParseFailure Bool :=
    if isUnitName name then .ok true else .error .badName

end ParseKit
