import ParseKit.Data.Value
import ParseKit.Toml.Fault

/-!
# The tables of a document

What a document has defined so far: the nested tables, and for each key
whether its table has been declared and whether its value is complete.
A header opens the table of its key, and a header in double brackets adds
a table to the array of its key; whatever is nested below an array is
nested below its last table.
-/

namespace ParseKit.Toml

/-- The fields of a table. -/
abbrev Fields := List (String × Value)

namespace Fields

/-- A field given a value, in its place if the table has it. -/
def put (key : String) (v : Value) : Fields → Fields
  | [] => [(key, v)]
  | (k, w) :: rest => if k == key then (k, v) :: rest else (k, w) :: put key v rest

/-- The last item of a list, and those before it. -/
def splitLast? : List Value → Option (List Value × Value)
  | [] => none
  | [v] => some ([], v)
  | v :: rest => (splitLast? rest).map fun p => (v :: p.1, p.2)

/-- **Changing the table at a path.** Tables that are missing on the way
are made; a list on the way stands for its last table if `throughLists`
holds. There is no answer if something else is on the way, or if the
change has none. -/
def change (throughLists : Bool) (f : Fields → Option Fields) :
    Key → Fields → Option Fields
  | [], fields => f fields
  | part :: rest, fields =>
    match fields.lookup part with
    | none => (change throughLists f rest []).map fun inner => put part (.table inner) fields
    | some (.table inner) =>
      (change throughLists f rest inner).map fun inner => put part (.table inner) fields
    | some (.list items) =>
      if throughLists then
        match splitLast? items with
        | some (before, .table inner) =>
          (change throughLists f rest inner).map fun inner =>
            put part (.list (before ++ [.table inner])) fields
        | _ => none
      else none
    | some _ => none

/-- Whether the table at a path has a field; false if there is no such
table. -/
def has (throughLists : Bool) (key : String) (path : Key) (fields : Fields) : Bool :=
  (change throughLists (fun inner => if (inner.lookup key).isSome then some inner else none)
    path fields).isSome

end Fields

/-- **What a document has defined so far.** -/
structure Namespace where
  /-- The outermost table. -/
  root : Fields
  /-- The keys whose tables are declared. -/
  declared : List Key
  /-- The keys whose values are complete, with all that is below them. -/
  complete : List Key
  /-- The keys whose tables count as declared from the next header on. -/
  pending : List Key
  deriving Inhabited

namespace Namespace

/-- Nothing is defined. -/
def empty : Namespace := ⟨[], [], [], []⟩

/-- Whether the table of a key is declared. -/
def isDeclared (n : Namespace) (key : Key) : Bool := n.declared.contains key

/-- Whether the value of a key, or of a key above it, is complete. -/
def isComplete (n : Namespace) (key : Key) : Bool :=
  n.complete.any fun k => k.isPrefixOf key

/-- Declares the tables that were left for the next header. -/
def settle (n : Namespace) : Namespace :=
  { n with declared := n.pending ++ n.declared, pending := [] }

/-- Forgets what is known of a key and of all below it. -/
def forget (n : Namespace) (key : Key) : Namespace :=
  { n with
    declared := n.declared.filter fun k => !key.isPrefixOf k
    complete := n.complete.filter fun k => !key.isPrefixOf k }

/-- **Opens the table of a key.** -/
def openTable (n : Namespace) (key : Key) : Except Complaint Namespace :=
  if n.isDeclared key || n.isComplete key then .error (.declaredTwice key)
  else match Fields.change true some key n.root with
    | none => .error .overwritten
    | some root => .ok { n with root := root, declared := key :: n.declared }

/-- A table more at the end of the list in a field. -/
def appendTable (part : String) (fields : Fields) : Option Fields :=
  match fields.lookup part with
  | none => some (Fields.put part (.list [.table []]) fields)
  | some (.list items) => some (Fields.put part (.list (items ++ [.table []])) fields)
  | some _ => none

/-- **Adds a table to the array of a key.** -/
def openItem (n : Namespace) (key : Key) : Except Complaint Namespace :=
  if n.isComplete key then .error (.immutable key)
  else
    let n := n.forget key
    match Fields.change true (appendTable (key.getLastD "")) key.dropLast n.root with
    | none => .error .overwritten
    | some root => .ok { n with root := root, declared := key :: n.declared }

/-- The keys of the tables that a dotted key passes through, shortest first. -/
def passed (header key : Key) : List Key :=
  (List.range key.length).drop 1 |>.map fun i => header ++ key.take i

/-- **Defines the value of a key** below a header. -/
def define (n : Namespace) (header key : Key) (v : Value) : Except Complaint Namespace := do
  let through := passed header key
  if let some k := through.find? n.isDeclared then throw (.redefined k)
  let n := { n with pending := through ++ n.pending }
  let parent := header ++ key.dropLast
  if n.isComplete parent then throw (.immutable parent)
  let stem := key.getLastD ""
  if Fields.has true stem parent n.root then throw .overwritten
  match Fields.change true (fun inner => some (Fields.put stem v inner)) parent n.root with
  | none => throw .overwritten
  | some root =>
    let complete := match v with
      | .table _ | .list _ => (header ++ key) :: n.complete
      | _ => n.complete
    return { n with root := root, complete := complete }

end Namespace

end ParseKit.Toml
