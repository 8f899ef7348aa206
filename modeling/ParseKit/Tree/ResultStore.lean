import ParseKit.Tree.Result

/-!
# Building results that are shared

A compound result may be given items after it has itself become an item of
others, which then see them. A `ResultStore` holds results by number, each
with the numbers of the items it got later; `ResultStore.result?` is the
result that a number stands for at the moment.

Results are compared part by part, but what is the same object is equal in
any case. That shows where a part equals nothing, not even itself.
-/

namespace ParseKit

/-- **A result that is being built**: as it was made, and the numbers of the
items that it got later. -/
structure ResultCell where
  /-- The result as it was made. -/
  base : Result
  /-- The items that it got later. -/
  added : List Nat
  deriving Repr, Inhabited

/-- **Results that are being built**, by number. -/
structure ResultStore where
  /-- The results. -/
  cells : Array ResultCell
  deriving Repr, Inhabited

namespace ResultStore

/-- No results. -/
def empty : ResultStore := ⟨#[]⟩

/-- A store with a result more, and the number of that result. -/
def add (s : ResultStore) (r : Result) : Nat × ResultStore :=
  (s.cells.size, ⟨s.cells.push ⟨r, []⟩⟩)

/-- Gives a result an item more, which must be a compound. -/
def addChild (s : ResultStore) (n child : Nat) : Except ResultShapeError ResultStore :=
  match (s.cells.getD n default).base with
  | .compound _ => .ok ⟨s.cells.modify n fun c => { c with added := c.added ++ [child] }⟩
  | r => .error { variant := r.variant }

/-- The result of a number, down to a depth. -/
def resultTo? (s : ResultStore) : Nat → Nat → Option Result
  | 0, _ => none
  | depth + 1, n => do
    let c ← s.cells[n]?
    match c.base with
    | .compound items => return .compound (items ++ (← c.added.mapM (s.resultTo? depth)))
    | r => return r

/-- **The result that a number stands for**; none if it is inside itself. -/
def result? (s : ResultStore) (n : Nat) : Option Result := s.resultTo? (s.cells.size + 1) n

end ResultStore

/-! ## Equality -/

/-- **A result whose parts know whether they are the same object.** Parts
with equal numbers are. -/
inductive Tracked where
  /-- Results in order. -/
  | compound (id : List Nat) (items : List Tracked)
  /-- A result under a label. -/
  | tagged (id : List Nat) (label : String) (inner : Tracked)
  /-- Any other result. -/
  | single (id : List Nat) (r : Result)
  deriving Inhabited

namespace Tracked

/-- What tells an object from others. -/
def id : Tracked → List Nat
  | compound id _ | tagged id _ _ | single id _ => id

mutual

/-- A result whose parts are objects of their own: each is told from the
others by the way to it. -/
def ofResult (id : List Nat) : Result → Tracked
  | .compound items => compound id (ofResults id 0 items)
  | .tagged label inner => tagged id label (ofResult (0 :: id) inner)
  | r => single id r

/-- The items of a compound from a place on. -/
def ofResults (id : List Nat) (place : Nat) : List Result → List Tracked
  | [] => []
  | r :: rest => ofResult (place :: id) r :: ofResults id (place + 1) rest

end

/-- A result of the store, down to a depth. -/
def ofStore (s : ResultStore) : Nat → Nat → Tracked
  | 0, n => single [n] .none
  | depth + 1, n =>
    let c := s.cells.getD n default
    match c.base with
    | .compound items => compound [n] (ofResults [n] 0 items ++ c.added.map (ofStore s depth))
    | r => ofResult [n] r

/-- Whether two results without parts are equal. -/
def sameSingle : Result → Result → Bool
  | .string a, .string b => a == b
  | .integer a, .integer b => a == b
  | .number x, .number y => x.equal y
  | .none, .none => true
  | _, _ => false

mutual

/-- **Whether two results are equal**: the same object, or of one variant
with equal parts. -/
def equal : Tracked → Tracked → Bool
  | compound i as, compound j bs => i == j || equalAll as bs
  | tagged i a x, tagged j b y => i == j || (a == b && equal x y)
  | single i a, single j b => i == j || sameSingle a b
  | _, _ => false

/-- Whether results are equal one by one. -/
def equalAll : List Tracked → List Tracked → Bool
  | [], [] => true
  | a :: as, b :: bs => equal a b && equalAll as bs
  | _, _ => false

end

end Tracked

/-- Whether the results of two numbers are equal. -/
def ResultStore.equal (s : ResultStore) (a b : Nat) : Bool :=
  let depth := s.cells.size + 1
  (Tracked.ofStore s depth a).equal (Tracked.ofStore s depth b)

end ParseKit
