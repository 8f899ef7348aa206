/-!
# Kinds

Tokens and nodes are told apart by integers, their kinds. A table of kinds
gives names to kinds; a kind with a name is shown as the name with the
number in parentheses, any other as the number.

A table is made from a list of names, which are numbered from zero on. Not
every name in the list becomes the name of a kind: a name that is private
to the table, or that begins and ends with two underscores, takes a number
but names nothing.
-/

namespace ParseKit

/-- **Names of kinds**, each with its kind. -/
structure KindTable where
  /-- The names, in the order in which they were given. -/
  members : List (String × Int)
  deriving DecidableEq, Repr, Inhabited

namespace KindTable

/-- The table without names. -/
def anonymous : KindTable := ⟨[]⟩

/-- The table of names for the kinds from zero on. -/
def named (names : List String) : KindTable :=
  ⟨names.zipIdx.map fun n => (n.1, (n.2 : Int))⟩

/-- The name of a kind. -/
def name? (t : KindTable) (kind : Int) : Option String :=
  (t.members.find? fun m => m.2 == kind).map Prod.fst

/-- The kind with a name. -/
def kind? (t : KindTable) (name : String) : Option Int := t.members.lookup name

/-- A kind as it is shown: with its name, if it has one. -/
def display (t : KindTable) (kind : Int) : String :=
  match t.name? kind with
  | some name => name ++ "(" ++ toString kind ++ ")"
  | none => toString kind

/-- A member of a table with a title as it is listed. -/
def memberText (title name : String) (kind : Int) : String :=
  "<" ++ title ++ "." ++ name ++ ": " ++ toString kind ++ ">"

/-- The kind that a member of a table reports. Where a member is called
`kind`, that is the kind of this member. -/
def reported (t : KindTable) (kind : Int) : Int := (t.kind? "kind").getD kind

end KindTable

/-! ## Tables from lists of names -/

/-- Whether a text begins and ends with `n` underscores and no more, with
something between. -/
def isFramed (n : Nat) (name : String) : Bool :=
  let cs := name.toList
  let inner := (cs.drop n).take (cs.length - 2 * n)
  2 * n < cs.length && (cs.take n).all (· == '_') && (cs.reverse.take n).all (· == '_')
    && inner.head? != some '_' && inner.getLast? != some '_'

/-- Whether a name is private to the table with a title. -/
def isPrivateTo (title name : String) : Bool :=
  let start := '_' :: title.toList ++ ['_', '_']
  let cs := name.toList
  start.length < cs.length && start.isPrefixOf cs && cs.reverse.take 2 != ['_', '_']

/-- The names between single underscores that are settings of a table. -/
def tableSettings : List String :=
  ["_order_", "_generate_next_value_", "_numeric_repr_", "_missing_", "_ignore_",
    "_iter_member_", "_iter_member_by_value_", "_iter_member_by_def_"]

/-- **Why a list of names makes no table.** -/
inductive KindFault where
  /-- Two kinds have one name. -/
  | duplicate (name : String)
  /-- A word that cannot name a kind. -/
  | reserved (name : String)
  /-- A title with a null character. -/
  | badTitle
  /-- A number in place of a setting or an operation that a table needs. -/
  | notUsable (name : String)
  /-- A number in place of what a member belongs to. -/
  | detached
  deriving DecidableEq, Repr, Inhabited

/-- **What a list of names gives**: a table, and whether looking up a kind
that it does not have can be answered. -/
structure KindList where
  /-- The table. -/
  table : KindTable
  /-- Whether the absence of a kind can be told. -/
  tellsAbsence : Bool
  deriving DecidableEq, Repr, Inhabited

/-- Why a kind cannot be looked up. -/
inductive AbsenceFault where
  /-- There is none. -/
  | absent
  /-- There is none, and that cannot be told. -/
  | untold
  deriving DecidableEq, Repr, Inhabited

namespace KindList

/-- The members of a table with a title, from names with their numbers.
`before` are the members so far. -/
def membersFrom (title : String) (before : List (String × Int)) :
    List (String × Nat) → Except KindFault (List (String × Int))
  | [] => .ok before
  | (name, number) :: rest =>
    if isPrivateTo title name then membersFrom title before rest
    else if isFramed 1 name then
      if !tableSettings.contains name then .error (.reserved name)
      else if name == "_ignore_" then .error (.notUsable name)
      else membersFrom title before rest
    else if isFramed 2 name then membersFrom title before rest
    else if before.any fun m => m.1 == name then .error (.duplicate name)
    else membersFrom title (before ++ [(name, (number : Int))]) rest

/-- The first of several words that is in a list of names. -/
def firstOf? (words names : List String) : Option String := words.find? names.contains

/-- The order that a list of names asks for: the number of the last name
that is the setting of the order. -/
def order (names : List String) : Nat :=
  ((names.zipIdx.filter fun n => n.1 == "_order_" || n.1 == "__order__").getLast?.map
    Prod.snd).getD 0

/-- What is wrong with a list of names once its members are known. The
operations that make and show members are needed only where there is a
member. -/
def faultOf (title : String) (names : List String) (members : List (String × Int)) :
    Option KindFault :=
  let needed (words : List String) : Option KindFault := (firstOf? words names).map .notUsable
  let ofMembers (f : Option KindFault) : Option KindFault := if members.isEmpty then none else f
  ((firstOf? ["", "mro"] (members.map Prod.fst)).map KindFault.reserved).or <|
  (needed ["__slots__"]).or <|
  (if title.toList.contains '\x00' then some .badTitle else none).or <|
  (needed ["__qualname__", "__classcell__"]).or <|
  (ofMembers (needed ["__new__", "__init__", "__getattribute__", "__getattr__",
    "__setattr__"])).or <|
  (if order names == 0 then none else some (.notUsable "_order_")).or <|
  (ofMembers (needed ["__str__", "__repr__"])).or <|
  (ofMembers (if names.contains "__class__" then some .detached else none)).or <|
  ofMembers (needed ["__int__"])

/-- **The table of a list of names**, with the title of the table. -/
def ofNames (title : String) (names : List String) : Except KindFault KindList :=
  match membersFrom title [] names.zipIdx with
  | .error f => .error f
  | .ok members =>
    match faultOf title names members with
    | some f => .error f
    | none => .ok ⟨⟨members⟩, !names.contains "_missing_"⟩

/-- Looks up a kind. -/
def lookup (l : KindList) (kind : Option Int) : Except AbsenceFault Int :=
  match kind.filter fun k => (l.table.name? k).isSome with
  | some k => .ok k
  | none => .error (if l.tellsAbsence then .absent else .untold)

end KindList

/-- **A set of kinds.** Order and repetition do not matter. -/
abbrev Kinds := List Int

/-- A kind put into its place in an increasing list, unless it is there. -/
def insertKind (k : Int) : List Int → List Int
  | [] => [k]
  | a :: rest => if k < a then k :: a :: rest else if k == a then a :: rest
    else a :: insertKind k rest

/-- **The kinds of a set in increasing order**, each once. -/
def sortedKinds (ks : Kinds) : List Int := ks.foldr insertKind []

/-- Kinds between brackets, with a comma and a space between. -/
def kindsText (ks : List Int) : String :=
  "[" ++ ", ".intercalate (ks.map toString) ++ "]"

end ParseKit
