import ParseKit.Decimal.Numeral
import ParseKit.Tree.Visitor

/-!
# Ready-made handlers

Handlers that most visitors are put together from: the children as a
compound, the value as a text or a number, sums and counts, labels, and
writing to the shared text.
-/

namespace ParseKit.Handler

/-- The results of the children, as a compound. -/
def children : Handler := fun n => .children n fun results => .done (.compound results)

/-- The value of the node as a text. -/
def value : Handler := fun n => .value n fun s => .done (.string s)

/-- Goes on with the double-precision number that a text spells. -/
def numberOf (s : String) (next : Binary64 → Action) : Action :=
  match Numeral.readBinary64? s with
  | some x => next x
  | none => .fail .notNumber

/-- The value of the node as a number. -/
def number : Handler := fun n => .value n fun s => numberOf s fun x => .done (.number x)

/-- The result of an integer, which must not be negative. -/
def ofInt (k : Int) : Action := .orFail (Result.ofInt k) .negative .done

/-- The value of the node as an integer. -/
def integer : Handler := fun n => .value n fun s =>
  match Numeral.readInt? s with
  | some k => ofInt k
  | none => .fail .notNumber

/-- Adds the numbers that the texts of results spell to a number, from left
to right. -/
def sumFrom (total : Binary64) : List Result → Action
  | [] => .done (.number total)
  | r :: rest => .textOf r fun s => numberOf s fun x => sumFrom (total.add x) rest

/-- **The sum of the children.** All of them are visited first. -/
def sum : Handler := fun n => .children n fun results => sumFrom (.zero false) results

/-- The number of the children, all of which are visited. -/
def count : Handler := fun n => .children n fun results => .done (.integer results.length)

/-- The texts of the children, one after the other. -/
def concat : Handler := fun n => .children n fun results =>
  .textOf (.compound results) fun s => .done (.string s)

/-- Always the same result, or the same failure. -/
def const (r : Except VisitFailure Result) : Handler := fun _ => .orFail r id .done

/-- The children under a label, which is that of the node unless another is
given. -/
def tag (label : Option String) : Handler := fun n => .children n fun results =>
  .done (.tagged (label.getD n.label) (.compound results))

/-- The result of the first child. -/
def first : Handler := fun _ => .child 0 .done

/-- Writes a text, or else the value of the node. -/
def emit (text : Option String) : Handler := fun n =>
  match text with
  | some s => .emit s (.done .none)
  | none => .value n fun s => .emit s (.done .none)

/-- Writes a text before the children are visited and one after. -/
def wrap (before after : String) : Handler := fun n =>
  .emit before (.children n fun results => .emit after (.done (.compound results)))

/-- What has been written so far. -/
def scope : Handler := fun _ => .scope fun s => .done (.string s)

/-- Registers a handler, and then visits the children. -/
def register (kind : Int) (handler : Handler) : Handler := fun n =>
  .register kind handler (children n)

/-- Something that is no result, of the named type. -/
def foreign (typeName : String) : Handler := fun _ => .doneForeign typeName

end ParseKit.Handler
