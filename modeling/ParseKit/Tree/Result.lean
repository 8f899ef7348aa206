import ParseKit.Error

/-!
# Results of visiting

A handler that visits a node gives a result: a text, a number, nothing, a
list of results, or a result under a label. A result has a text unless it
holds nothing somewhere.
-/

namespace ParseKit

/-- **A result of visiting a node.** -/
inductive Result where
  /-- Results in order. -/
  | compound (items : List Result)
  /-- A text. -/
  | string (text : String)
  /-- A natural number. -/
  | integer (value : Nat)
  /-- A double-precision number. -/
  | number (value : Binary64)
  /-- A result under a label. -/
  | tagged (label : String) (inner : Result)
  /-- Nothing. -/
  | none
  /-- A result of a kind of its own, of which only the names of the kind and
  of the variant and the text are known. -/
  | custom (typeName variantName text : String)
  deriving Repr, Inhabited

/-- An integer result must not be negative. -/
structure NegativeInteger where
  /-- The integer. -/
  value : Int
  deriving DecidableEq, Repr, Inhabited

/-- The message: the integer. -/
def NegativeInteger.message (e : NegativeInteger) : String :=
  "integer result must be non-negative, got " ++ toString e.value

namespace Result

/-- The result of an integer, which must not be negative. -/
def ofInt (n : Int) : Except NegativeInteger Result :=
  if n < 0 then .error ⟨n⟩ else .ok (.integer n.toNat)

/-- The name of the variant of a result. -/
def variant : Result → String
  | compound _ => "compound"
  | string _ => "string"
  | integer _ => "integer"
  | number _ => "number"
  | tagged .. => "tagged"
  | none => "none"
  | custom _ variantName _ => variantName

mutual

/-- **The text of a result**: the texts of its parts in order, a label with
a space before what it labels. Nothing has no text. -/
def text : Result → Except NodeValueError String
  | compound items => textAll items
  | string s => .ok s
  | integer n => .ok (toString n)
  | number x => .ok x.plainText
  | tagged label inner => inner.text.map fun s => label ++ " " ++ s
  | none => .error ⟨"none"⟩
  | custom _ _ s => .ok s

/-- The texts of results, one after the other. -/
def textAll : List Result → Except NodeValueError String
  | [] => .ok ""
  | r :: rest =>
    match r.text with
    | .ok s => (textAll rest).map fun t => s ++ t
    | .error e => .error e

end

/-- The number of items of a compound; other results have none to count. -/
def itemCount? : Result → Option Nat
  | compound items => some items.length
  | _ => Option.none

/-- The result with an item more, which must be a compound. -/
def addChild (r child : Result) : Except ResultShapeError Result :=
  match r with
  | compound items => .ok (compound (items ++ [child]))
  | r => .error { variant := r.variant }

end Result

end ParseKit
