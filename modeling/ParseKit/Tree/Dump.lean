import ParseKit.Pattern
import ParseKit.Text.Ansi
import ParseKit.Tree.Node
import ParseKit.Tree.Result

/-!
# Dumps of trees

A dump shows a tree with one line for each node, in pre-order. The line of
a node at depth `d` begins with `d` segments of three columns – guides for
the levels above and a branch for its own – and then comes the head of the
node. Tokens and patterns are shown by a single line.

Colour changes nothing but the colour: a dump with colours is the plain
dump with control sequences put in.
-/

namespace ParseKit

namespace Dump

open Text (paint)

/-! ## Colours -/

/-- Green, for labels. -/
def labelStyle : Text.Style := ⟨"32"⟩

/-- Italic red, for the names of fields. -/
def fieldStyle : Text.Style := ⟨"31;3"⟩

/-- Blue, for texts. -/
def valueStyle : Text.Style := ⟨"34"⟩

/-- Yellow, for numbers. -/
def numberStyle : Text.Style := ⟨"33"⟩

/-- Grey, for guides. -/
def guideStyle : Text.Style := ⟨"90"⟩

/-! ## Guides -/

/-- The segment that leads to a child. -/
def branch (color last : Bool) : String :=
  paint color guideStyle (if last then "└─ " else "├─ ")

/-- The segment that passes a child on the way to those below it. -/
def guide (color last : Bool) : String :=
  if last then "   " else paint color guideStyle "│  "

/-! ## Nodes -/

/-- A label with its kind in parentheses, if the kind can be written (see `ParseKit.Error`). -/
def labelText (color : Bool) (label : String) (kind : Int) : String :=
  paint color labelStyle label ++ "(" ++ toString kind ++ ")"

/-- **The head of a node**: its label and kind, and its value if it has one. -/
def nodeHead (color : Bool) (n : Node) : String :=
  labelText color n.label n.kind ++ (match n.value with
    | some s => " " ++ paint color fieldStyle "value:" ++ " "
        ++ paint color valueStyle (Text.quote s)
    | none => "")

mutual

/-- **The lines of a tree.** The first begins with `lead`, those of the
children with `indent`. -/
def nodeLines (color : Bool) (lead indent : String) : Node → List String
  | n@(.mk _ _ _ children) => (lead ++ nodeHead color n) :: childLines color indent children

/-- The lines of children. -/
def childLines (color : Bool) (indent : String) : List Node → List String
  | [] => []
  | n :: rest =>
    nodeLines color (indent ++ branch color rest.isEmpty) (indent ++ guide color rest.isEmpty) n
      ++ childLines color indent rest

end

/-- **The dump of a tree.** -/
def node (color : Bool) (n : Node) : String := "\n".intercalate (nodeLines color "" "" n)

/-! ## Results -/

/-- Why something has no dump. -/
inductive Fault where
  /-- A result of a kind of its own. -/
  | unknownVariant (typeName : String)
  /-- Something that is no tree, token or pattern. -/
  | unknownType (typeName : String)
  deriving DecidableEq, Repr, Inhabited

/-- The message: the name of the kind. -/
def Fault.message : Fault → String
  | .unknownVariant typeName => "unknown result variant " ++ typeName
  | .unknownType typeName => "cannot format " ++ typeName

/-- The line of a field with its value in a style. -/
def fieldLine (color : Bool) (lead field : String) (style : Text.Style) (value : String) : String :=
  lead ++ paint color fieldStyle field ++ " " ++ paint color style value

mutual

/-- **The lines of a result.** A compound and a label stand on lines of
their own, with what they hold below them. -/
def resultLines (color : Bool) (lead indent : String) : Result → Except Fault (List String)
  | .compound items =>
    (itemLines color indent items).map ((lead ++ paint color labelStyle "compound") :: ·)
  | .tagged label inner =>
    (resultLines color (indent ++ branch color true) (indent ++ guide color true) inner).map
      ((lead ++ paint color labelStyle label) :: ·)
  | .string s => .ok [fieldLine color lead "string:" valueStyle (Text.quote s)]
  | .integer n => .ok [fieldLine color lead "integer:" numberStyle (toString n)]
  | .number x => .ok [fieldLine color lead "number:" numberStyle x.plainText]
  | .none => .ok [lead ++ paint color fieldStyle "none"]
  | .custom typeName _ _ => .error (.unknownVariant typeName)

/-- The lines of the items of a compound. -/
def itemLines (color : Bool) (indent : String) : List Result → Except Fault (List String)
  | [] => .ok []
  | r :: rest =>
    match resultLines color (indent ++ branch color rest.isEmpty)
        (indent ++ guide color rest.isEmpty) r with
    | .ok lines => (itemLines color indent rest).map (lines ++ ·)
    | .error e => .error e

end

/-- **The dump of a result**, if all its parts have one. -/
def result (color : Bool) (r : Result) : Except Fault String :=
  (resultLines color "" "" r).map "\n".intercalate

/-! ## Tokens and patterns -/

/-- A text filled up with spaces to a number of columns. -/
def padded (columns : Nat) (s : String) : String :=
  s ++ String.ofList (List.replicate (columns - s.length) ' ')

/-- **The line of a token**: its position, its label and kind, and its text. -/
def token (color : Bool) (t : Token) : String :=
  paint color numberStyle (padded 8 t.position.text) ++ labelText color t.label t.kind ++ "  "
    ++ paint color valueStyle (Text.quote t.text)

/-- The line of a pattern that is described by a text. -/
def described (color : Bool) (label : String) (kind : Int) (description : String) : String :=
  labelText color label kind ++ "  " ++ description

/-- **The line of a pattern**: its label and kind, and what it matches. -/
def pattern (color : Bool) (p : Pattern) : String := described color p.label p.kind p.describe

end Dump

/-- **Something to be dumped.** -/
inductive Dumpable where
  /-- A tree. -/
  | node (n : Node)
  /-- A result. -/
  | result (r : Result)
  /-- A token. -/
  | token (t : Token)
  /-- A pattern. -/
  | pattern (p : Pattern)
  /-- A value, which has no dump. -/
  | value (v : Value)

/-- **The dump of anything that has one.** -/
def Dumpable.dump (color : Bool) : Dumpable → Except Dump.Fault String
  | .node n => .ok (Dump.node color n)
  | .result r => Dump.result color r
  | .token t => .ok (Dump.token color t)
  | .pattern p => .ok (Dump.pattern color p)
  | .value v => .error (.unknownType v.typeName)

end ParseKit
