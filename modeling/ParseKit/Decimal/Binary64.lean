/-!
# Double-precision numbers

The numbers of the binary64 format, as data: not a number, the two
infinities, and the finite ones, each a sign, a significand and a power of
two. Everything is computed in exact integer arithmetic; `ofRatio` is the
one place that rounds, to the nearest number and on a tie to the even
significand.
-/

namespace ParseKit

/-- **A double-precision number.** A finite one stands for
`± mant · 2 ^ exp`; those that `ofRatio` builds have `mant < 2 ^ 53` and
`-1074 ≤ exp ≤ 971`, and a significand below `2 ^ 52` only at the least
exponent, so that equal numbers other than the two zeros are equal data. -/
inductive Binary64 where
  /-- Not a number. -/
  | nan
  /-- An infinity. -/
  | infinite (negative : Bool)
  /-- A finite number. -/
  | finite (negative : Bool) (mant : Nat) (exp : Int)
  deriving DecidableEq, Repr, Inhabited

namespace Binary64

/-- The least exponent of the format. -/
def leastExp : Int := -1074

/-- The greatest exponent of the format. -/
def greatestExp : Int := 971

/-- Zero with a sign. -/
def zero (negative : Bool) : Binary64 := .finite negative 0 leastExp

/-- The quotient rounded to the nearest natural number, a tie to the even
one. -/
def divNearest (num den : Nat) : Nat :=
  let q := num / den
  let r := 2 * (num % den)
  if den < r || (r == den && q % 2 == 1) then q + 1 else q

/-- A quotient of natural numbers divided by a power of two, again as a
quotient. -/
def scaled (num den : Nat) (exp : Int) : Nat × Nat :=
  if 0 ≤ exp then (num, den * Nat.pow 2 exp.toNat)
  else (num * Nat.pow 2 (-exp).toNat, den)

/-- The exponent at which a positive quotient has a significand of 53
bits, or the least exponent if that is greater. -/
def exponentOf (num den : Nat) : Int :=
  let guess : Int := (Nat.log2 num : Int) - (Nat.log2 den : Int) - 53
  let (n, d) := scaled num den guess
  max leastExp (if n / d < Nat.pow 2 53 then guess else guess + 1)

/-- **Rounding**: the number nearest to `± num / den`. -/
def ofRatio (negative : Bool) (num den : Nat) : Binary64 :=
  if num == 0 then zero negative
  else
    let exp := exponentOf num den
    let (n, d) := scaled num den exp
    let mant := divNearest n d
    let (mant, exp) := 
      if mant == Nat.pow 2 53 then (Nat.pow 2 52, exp + 1) else (mant, exp)
    if greatestExp < exp then .infinite negative else .finite negative mant exp

/-- The number nearest to `± digits · 10 ^ exponent`. Far outside the range
of the format the answer is known without the power of ten. -/
def ofDecimal (negative : Bool) (digits : Nat) (exponent : Int) : Binary64 :=
  let length : Int := (Nat.toDigits 10 digits).length
  if digits == 0 then zero negative
  else if 400 < length + exponent then .infinite negative
  else if length + exponent < -400 then zero negative
  else if 0 ≤ exponent then ofRatio negative (digits * Nat.pow 10 exponent.toNat) 1
  else ofRatio negative digits (Nat.pow 10 (-exponent).toNat)

/-- The number nearest to an integer. -/
def ofInt (n : Int) : Binary64 := ofRatio (n < 0) n.natAbs 1

/-- A finite number over `2 ^ 1074`: the numerator. -/
def numerator : Binary64 → Int
  | .finite negative mant exp =>
    let n : Int := (mant * Nat.pow 2 (exp - leastExp).toNat : Nat)
    if negative then -n else n
  | _ => 0

/-- Whether a number carries the minus sign. -/
def isNegative : Binary64 → Bool
  | .nan => false
  | .infinite negative => negative
  | .finite negative _ _ => negative

/-- **The sum**, exact and then rounded. A sum of zero is positive unless
both numbers are negative. -/
def add (x y : Binary64) : Binary64 :=
  match x, y with
  | .nan, _ => .nan
  | _, .nan => .nan
  | .infinite s, .infinite t => if s == t then .infinite s else .nan
  | .infinite s, _ => .infinite s
  | _, .infinite t => .infinite t
  | x, y =>
    let n := x.numerator + y.numerator
    if n == 0 then zero (x.isNegative && y.isNegative)
    else ofRatio (n < 0) n.natAbs (Nat.pow 2 1074)

/-- **Equality of numbers**: nothing equals what is not a number, and the
two zeros are equal. -/
def equal (x y : Binary64) : Bool :=
  match x, y with
  | .nan, _ => false
  | _, .nan => false
  | .infinite s, .infinite t => s == t
  | .infinite _, _ => false
  | _, .infinite _ => false
  | x, y => x.numerator == y.numerator

/-- Whether one number is greater than another; false when either is not a
number. -/
def greater (x y : Binary64) : Bool :=
  match x, y with
  | .nan, _ => false
  | _, .nan => false
  | .infinite s, .infinite t => !s && t
  | .infinite s, _ => !s
  | _, .infinite t => t
  | x, y => y.numerator < x.numerator

/-- The integer that a number is, if it is one. -/
def toInt? : Binary64 → Option Int
  | .finite negative mant exp =>
    if 0 ≤ exp then
      let n : Int := (mant * Nat.pow 2 exp.toNat : Nat)
      some (if negative then -n else n)
    else
      let d := Nat.pow 2 (-exp).toNat
      if mant % d == 0 then
        let n : Int := (mant / d : Nat)
        some (if negative then -n else n)
      else none
  | _ => none

end Binary64

end ParseKit
