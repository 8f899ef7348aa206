import ParseKit.Log
import ParseKit.Tree.Node
import ParseKit.Tree.Result

/-!
# Visiting trees

A visitor has a handler for each kind of node that it knows. What a
handler does with a node is an `Action`: it may visit children of the
node, write to the text that all handlers share, read that text, and
register further handlers, until it has a result. A handler can reach the
children of its node and nothing above, so that every visit ends.

A failure ends the whole visit; what was written and registered before it
stays.
-/

namespace ParseKit

/-- **Why a visit fails.** -/
inductive VisitFailure where
  /-- An error of the toolkit. -/
  | error (e : Error)
  /-- A text that should be a number is none. -/
  | notNumber
  /-- An integer result would be negative. -/
  | negative (e : NegativeInteger)
  /-- A node has no child with the number asked for. -/
  | missingChild
  deriving Repr, Inhabited

/-- **What a handler does with a node**, step by step. -/
inductive Action where
  /-- Ends with a result. -/
  | done (r : Result)
  /-- Ends with something that is no result, of the named type. -/
  | doneForeign (typeName : String)
  /-- Fails. -/
  | fail (f : VisitFailure)
  /-- Visits the child with a number, counted from zero. -/
  | child (number : Nat) (next : Result → Action)
  /-- Writes to the shared text. -/
  | emit (text : String) (next : Action)
  /-- Reads the shared text. -/
  | scope (next : String → Action)
  /-- Registers a handler. -/
  | register (kind : Int) (handler : Node → Action) (next : Action)

instance : Inhabited Action := ⟨.done .none⟩

/-- **A handler**: what to do with a node. -/
abbrev Handler := Node → Action

/-- **A visitor**: its handlers, the text that they share, and the records
of what was done. -/
structure Visitor where
  /-- The handlers by kind, one for each. -/
  handlers : List (Int × Handler) := []
  /-- The shared text. -/
  scope : String := ""
  /-- The records so far. -/
  records : List Record := []

namespace Visitor

/-- The handler for a kind. -/
def handler? (v : Visitor) (kind : Int) : Option Handler := v.handlers.lookup kind

/-- Whether there is a handler for a kind. -/
def handles (v : Visitor) (kind : Int) : Bool := (v.handler? kind).isSome

/-- The kinds that have handlers, in increasing order. -/
def kinds (v : Visitor) : List Int := sortedKinds (v.handlers.map Prod.fst)

/-- **Registers a handler** in place of the one that the kind had, if any,
which is recorded. -/
def register (v : Visitor) (kind : Int) (handler : Handler) : Visitor :=
  if v.handles kind then
    { v with
      handlers := v.handlers.map fun h => if h.1 == kind then (kind, handler) else h
      records := v.records ++ [.replaced kind] }
  else { v with handlers := v.handlers ++ [(kind, handler)] }

/-- **Takes a handler away**; nothing if the kind has none. -/
def unregister? (v : Visitor) (kind : Int) : Option Visitor :=
  if v.handles kind then some { v with handlers := v.handlers.filter (·.1 != kind) }
  else none

/-- Takes handlers away one after the other, up to the first kind that has
none. -/
def unregisterAll (v : Visitor) : List Int → Except Int Visitor
  | [] => .ok v
  | kind :: rest =>
    match v.unregister? kind with
    | some v => unregisterAll v rest
    | none => .error kind

/-- Writes to the shared text. -/
def emit (v : Visitor) (text : String) : Visitor := { v with scope := v.scope ++ text }

/-- **What a visit comes to**: a result or a failure, and the visitor
afterwards. -/
abbrev Outcome := Except VisitFailure Result × Visitor

/-- **Takes the steps of an action** of a handler for a node, given what it
is to visit each of its children. -/
def perform (node : Node) (children : List (Visitor → Outcome)) : Action → Visitor → Outcome
  | .done r, v => (.ok r, v)
  | .doneForeign typeName, v =>
    (.error (.error (.resultShape ⟨typeName, .notResult node.label node.kind⟩)), v)
  | .fail f, v => (.error f, v)
  | .child number next, v =>
    match children[number]? with
    | none => (.error .missingChild, v)
    | some visit =>
      match visit v with
      | (.ok r, v) => perform node children (next r) v
      | (.error f, v) => (.error f, v)
  | .emit text next, v => perform node children next (v.emit text)
  | .scope next, v => perform node children (next v.scope) v
  | .register kind handler next, v => perform node children next (v.register kind handler)

mutual

/-- **Visits a node** with the handler for its kind. -/
def visit : Node → Visitor → Outcome
  | n@(.mk kind label _ children), v =>
    match v.handler? kind with
    | none => (.error (.error (.visit ⟨kind, label⟩)), v)
    | some handler => perform n (visitEach children) (handler n) v

/-- What it is to visit each of several nodes. -/
def visitEach : List Node → List (Visitor → Outcome)
  | [] => []
  | n :: rest => visit n :: visitEach rest

end

end Visitor

namespace Action

/-- Goes on with a value that may be missing, and fails without it. -/
def orFail {ε α : Type} (x : Except ε α) (failure : ε → VisitFailure) (next : α → Action) :
    Action :=
  match x with
  | .ok a => next a
  | .error e => .fail (failure e)

/-- Visits `count` children from a number on, and then goes on with their
results after those that are there already. -/
def childrenFrom (number : Nat) : Nat → List Result → (List Result → Action) → Action
  | 0, results, next => next results
  | count + 1, results, next =>
    .child number fun r => childrenFrom (number + 1) count (results ++ [r]) next

/-- **Visits all children of a node** in order, and goes on with their
results. -/
def children (n : Node) (next : List Result → Action) : Action :=
  childrenFrom 0 n.children.length [] next

/-- Goes on with the value of a node, which must have one. -/
def value (n : Node) (next : String → Action) : Action :=
  orFail n.valueText (fun e => .error (.nodeValue e)) next

/-- Goes on with the text of a result, which must have one. -/
def textOf (r : Result) (next : String → Action) : Action :=
  orFail r.text (fun e => .error (.nodeValue e)) next

end Action

/-- **Visits the children of a node**, whatever the handler for the node
itself; the result is a compound. -/
def Visitor.visitChildren (n : Node) (v : Visitor) : Visitor.Outcome :=
  Visitor.perform n (Visitor.visitEach n.children)
    (Action.children n fun results => .done (.compound results)) v

/-- Visits a node, and gives the text of the result. -/
def Visitor.visitText (n : Node) (v : Visitor) : Except VisitFailure String × Visitor :=
  match Visitor.visit n v with
  | (.ok r, v) => (r.text.mapError fun e => .error (.nodeValue e), v)
  | (.error f, v) => (.error f, v)

end ParseKit
