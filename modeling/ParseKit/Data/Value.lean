import ParseKit.Text.Quoted
import ParseKit.Decimal.Numeral
import ParseKit.Decimal.Shortest
import ParseKit.Data.Calendar

/-!
# Values of a document

What a document of settings holds: nothing, truth values, numbers, texts,
dates and times, lists and tables. A table keeps its fields in the order
in which they were first given. `shown` is a value as messages quote it,
`display` as it is printed by itself.
-/

namespace ParseKit

/-- **A value of a document.** -/
inductive Value where
  /-- Nothing. -/
  | null
  /-- A truth value. -/
  | bool (b : Bool)
  /-- An integer. -/
  | int (n : Int)
  /-- A number with a fraction or an exponent. -/
  | float (x : Binary64)
  /-- A text. -/
  | text (s : String)
  /-- A date. -/
  | date (d : Date)
  /-- A time of day. -/
  | clock (t : Clock)
  /-- A date with a time. -/
  | moment (m : Moment)
  /-- A list. -/
  | list (items : List Value)
  /-- A table. -/
  | table (fields : List (String × Value))
  deriving Repr, Inhabited

namespace Value

mutual

/-- Whether two values are equal. -/
def same : Value → Value → Bool
  | null, null => true
  | bool a, bool b => a == b
  | int a, int b => a == b
  | float a, float b => decide (a = b)
  | text a, text b => a == b
  | date a, date b => decide (a = b)
  | clock a, clock b => decide (a = b)
  | moment a, moment b => decide (a = b)
  | list a, list b => sameItems a b
  | table a, table b => sameFields a b
  | _, _ => false

/-- Whether two lists of values are equal. -/
def sameItems : List Value → List Value → Bool
  | [], [] => true
  | v :: vs, w :: ws => same v w && sameItems vs ws
  | _, _ => false

/-- Whether two tables are equal. -/
def sameFields : List (String × Value) → List (String × Value) → Bool
  | [], [] => true
  | (key, v) :: vs, (key', w) :: ws => key == key' && same v w && sameFields vs ws
  | _, _ => false

end

mutual

theorem same_iff : (v w : Value) → (same v w = true ↔ v = w)
  | list items, w => by cases w <;> simp [same, sameItems_iff items]
  | table fields, w => by cases w <;> simp [same, sameFields_iff fields]
  | null, w | bool _, w | int _, w | float _, w | text _, w | date _, w | clock _, w
  | moment _, w => by cases w <;> simp [same]

theorem sameItems_iff : (vs ws : List Value) → (sameItems vs ws = true ↔ vs = ws)
  | [], ws => by cases ws <;> simp [sameItems]
  | v :: vs, ws => by cases ws <;> simp [sameItems, same_iff v, sameItems_iff vs]

theorem sameFields_iff : (vs ws : List (String × Value)) → (sameFields vs ws = true ↔ vs = ws)
  | [], ws => by cases ws <;> simp [sameFields]
  | (_, v) :: vs, ws => by
    cases ws <;> simp [sameFields, same_iff v, sameFields_iff vs, Prod.ext_iff]

end

instance : DecidableEq Value := fun v w => decidable_of_iff _ (same_iff v w)

/-- The name of the kind of a value. -/
def typeName : Value → String
  | .null => "NoneType"
  | .bool _ => "bool"
  | .int _ => "int"
  | .float _ => "float"
  | .text _ => "str"
  | .date _ => "date"
  | .clock _ => "time"
  | .moment _ => "datetime"
  | .list _ => "list"
  | .table _ => "dict"

/-- The distance of a place from universal time, as messages quote it: a
number of seconds that is not negative, after whole days that may be. -/
def shownZone (minutes : Int) : String :=
  if minutes == 0 then "datetime.timezone.utc"
  else
    let days := Int.fdiv minutes 1440
    let seconds := (minutes - days * 1440) * 60
    let fields := (if days == 0 then [] else ["days=" ++ toString days])
      ++ (if seconds == 0 then [] else ["seconds=" ++ toString seconds])
    "datetime.timezone(datetime.timedelta(" ++ commaSeparated fields ++ "))"

/-- A call as messages quote it. -/
def shownCall (name : String) (args : List String) : String :=
  name ++ "(" ++ commaSeparated args ++ ")"

/-- A field of a table as messages quote it, its value being quoted already. -/
def shownField (key value : String) : String := Text.quote key ++ ": " ++ value

mutual

/-- **A value as messages quote it.** -/
def shown : Value → String
  | .null => "None"
  | .bool b => if b then "True" else "False"
  | .int n => toString n
  | .float x => x.text
  | .text s => Text.quote s
  | .date d => shownCall "datetime.date" (d.fields.map toString)
  | .clock t => shownCall "datetime.time" (t.fields.map toString)
  | .moment m =>
    shownCall "datetime.datetime" ((m.date.fields ++ m.clock.fields).map toString
      ++ (match m.ahead with
        | some minutes => ["tzinfo=" ++ shownZone minutes]
        | none => []))
  | .list items => "[" ++ commaSeparated (shownItems items) ++ "]"
  | .table fields => "\x7b" ++ commaSeparated (shownFields fields) ++ "\x7d"

/-- The items of a list as messages quote them. -/
def shownItems : List Value → List String
  | [] => []
  | v :: rest => v.shown :: shownItems rest

/-- The fields of a table as messages quote them. -/
def shownFields : List (String × Value) → List String
  | [] => []
  | (key, v) :: rest => shownField key v.shown :: shownFields rest

end

/-- Whether an integer has few enough digits to be shown. -/
def isShowableInt (n : Int) : Bool := n.natAbs < Nat.pow 10 Numeral.digitLimit

mutual

/-- **Whether a value can be shown**: no integer in it has too many
digits. -/
def isShowable : Value → Bool
  | .int n => isShowableInt n
  | .list items => areShowable items
  | .table fields => fieldsShowable fields
  | _ => true

/-- Whether the items of a list can be shown. -/
def areShowable : List Value → Bool
  | [] => true
  | v :: rest => v.isShowable && areShowable rest

/-- Whether the fields of a table can be shown. -/
def fieldsShowable : List (String × Value) → Bool
  | [] => true
  | (_, v) :: rest => v.isShowable && fieldsShowable rest

end

/-- **A value printed by itself**: texts and dates without quotes and names,
all else as messages quote it. -/
def display : Value → String
  | .text s => s
  | .date d => d.text
  | .clock t => t.text
  | .moment m => m.text
  | v => v.shown

/-- Whether a value counts as nothing: nothing itself, a false truth value,
zero, and whatever is empty. -/
def isEmptyLike : Value → Bool
  | .null => true
  | .bool b => !b
  | .int n => n == 0
  | .float x => x.equal (.zero false)
  | .text s => s.isEmpty
  | .list items => items.isEmpty
  | .table fields => fields.isEmpty
  | _ => false

/-- The integer that a value is; a truth value is zero or one. -/
def toInt? : Value → Option Int
  | .int n => some n
  | .bool b => some (if b then 1 else 0)
  | _ => none

/-- The integer that a value equals. -/
def integral? : Value → Option Int
  | .float x => x.toInt?
  | v => v.toInt?

/-- The number that a value is, as a double-precision one or an integer. -/
inductive Numeric where
  /-- An integer. -/
  | int (n : Int)
  /-- A double-precision number. -/
  | float (x : Binary64)

/-- The number that a value is, if it is one. -/
def numeric? : Value → Option Numeric
  | .int n => some (.int n)
  | .bool b => some (.int (if b then 1 else 0))
  | .float x => some (.float x)
  | _ => none

/-- Whether two numbers are equal, exactly. -/
def Numeric.equal : Numeric → Numeric → Bool
  | .int a, .int b => a == b
  | .float x, .float y => x.equal y
  | .int a, .float y => y.toInt? == some a
  | .float x, .int b => x.toInt? == some b

/-- Whether one number is greater than another, exactly. -/
def Numeric.greater : Numeric → Numeric → Bool
  | .int a, .int b => b < a
  | .float x, .float y => x.greater y
  | .int a, .float y =>
    match y with
    | .finite .. => y.numerator < a * (Nat.pow 2 1074 : Nat)
    | .infinite negative => negative
    | .nan => false
  | .float x, .int b =>
    match x with
    | .finite .. => b * (Nat.pow 2 1074 : Nat) < x.numerator
    | .infinite negative => !negative
    | .nan => false

mutual

/-- **Whether two values are equal.** Numbers are equal as numbers, tables
without regard to order. -/
def equal : Value → Value → Bool
  | .null, .null => true
  | .text a, .text b => a == b
  | .date a, .date b => a == b
  | .clock a, .clock b => a == b
  | .moment a, .moment b => a.ahead.isSome == b.ahead.isSome && a.micros == b.micros
  | .list a, .list b => equalItems a b
  | .table a, .table b => a.length == b.length && equalFields a b
  | a, b =>
    match a.numeric?, b.numeric? with
    | some x, some y => x.equal y
    | _, _ => false

/-- Whether two lists are equal item by item. -/
def equalItems : List Value → List Value → Bool
  | [], [] => true
  | a :: as, b :: bs => equal a b && equalItems as bs
  | _, _ => false

/-- Whether the second table has each field of the first. -/
def equalFields : List (String × Value) → List (String × Value) → Bool
  | [], _ => true
  | (key, v) :: rest, fields =>
    (match fields.lookup key with
      | some w => equal v w
      | none => false) && equalFields rest fields

end

mutual

/-- **Whether one value is greater than another**, if the two can be
compared: numbers, texts, dates, times, moments that both know their place
or both do not, and lists, which are compared at the first items that
differ. -/
def greater? : Value → Value → Option Bool
  | .text a, .text b => some (decide (b < a))
  | .date a, .date b => some (b.ordinal < a.ordinal)
  | .clock a, .clock b => some (b.micros < a.micros)
  | .moment a, .moment b =>
    if a.ahead.isSome == b.ahead.isSome then some (b.micros < a.micros) else none
  | .list a, .list b => greaterItems? a b
  | a, b =>
    match a.numeric?, b.numeric? with
    | some x, some y => some (x.greater y)
    | _, _ => none

/-- Whether one list is greater than another. -/
def greaterItems? : List Value → List Value → Option Bool
  | [], _ => some false
  | _ :: _, [] => some true
  | a :: as, b :: bs => if equal a b then greaterItems? as bs else greater? a b

end

/-- The number of parts of a text, a list or a table. -/
def length? : Value → Option Nat
  | .text s => some s.length
  | .list items => some items.length
  | .table fields => some fields.length
  | _ => none

/-- **What one meets going through a value**: the characters of a text, the
items of a list, the keys of a table. -/
def elements? : Value → Option (List Value)
  | .text s => some (s.toList.map fun c => .text (.singleton c))
  | .list items => some items
  | .table fields => some (fields.map fun f => .text f.1)
  | _ => none

end Value

end ParseKit
