import ParseKit.Decimal.Binary64

/-!
# The shortest decimal that reads back

A finite number stands for the interval of reals that round to it. Among
the decimals in that interval its text uses one with the fewest digits,
and among those the one nearest to the number. `shortest` looks for it on
one decimal grid after the other, from coarse to fine: if a point of a
grid lies in the interval, so does one of the two neighbours of the number
on that grid.

`NumberFormat` holds the decisions that the digits leave open, and
`Binary64.text` writes a number under such decisions.
-/

namespace ParseKit

/-- **A decimal**: `digits · 10 ^ exponent`. -/
structure Decimal where
  /-- The digits, read as a number. -/
  digits : Nat
  /-- The power of ten of the last digit. -/
  exponent : Int
  deriving DecidableEq, Repr, Inhabited

namespace Decimal

/-- **The reals that round to a number**: the number itself and the two
ends, as numerators over one denominator. -/
structure Interval where
  /-- The lower end. -/
  low : Nat
  /-- The number. -/
  mid : Nat
  /-- The upper end. -/
  high : Nat
  /-- The denominator of the three. -/
  den : Nat
  /-- Whether the ends belong to the interval. -/
  closed : Bool

/-- The reals that round to `mant · 2 ^ exp`. The gap below the number is
half as wide where the significand is the least of its exponent. -/
def Interval.of (mant : Nat) (exp : Int) : Interval :=
  let narrow := mant == Nat.pow 2 52 && Binary64.leastExp < exp
  let unit : Nat → Nat := fun n => if 0 ≤ exp then n * Nat.pow 2 exp.toNat else n
  let den : Nat := if 0 ≤ exp then 4 else 4 * Nat.pow 2 (-exp).toNat
  { low := unit (4 * mant - (if narrow then 1 else 2))
    mid := unit (4 * mant)
    high := unit (4 * mant + 2)
    den := den
    closed := mant % 2 == 0 }

/-- Whether `n · 10 ^ exponent` lies in the interval. -/
def Interval.holds (i : Interval) (n : Nat) (exponent : Int) : Bool :=
  let (a, k) : Nat × Nat :=
    if 0 ≤ exponent then (n * Nat.pow 10 exponent.toNat * i.den, 1)
    else (n * i.den, Nat.pow 10 (-exponent).toNat)
  if i.closed then i.low * k ≤ a && a ≤ i.high * k else i.low * k < a && a < i.high * k

/-- The neighbour of the number on the grid of multiples of
`10 ^ exponent` that lies in the interval; of two the nearer, and on a tie
the even one. -/
def Interval.onGrid? (i : Interval) (exponent : Int) : Option Nat :=
  let (num, den) : Nat × Nat :=
    if 0 ≤ exponent then (i.mid, i.den * Nat.pow 10 exponent.toNat)
    else (i.mid * Nat.pow 10 (-exponent).toNat, i.den)
  let below := num / den
  let nearest := Binary64.divNearest num den
  let other := if nearest == below then below + 1 else below
  if i.holds nearest exponent then some nearest
  else if i.holds other exponent then some other
  else none

/-- The number of decimal digits of a natural number. -/
def digitCount (n : Nat) : Nat := (Nat.toDigits 10 n).length

/-- The exponent `k` with `10 ^ (k - 1) ≤ num / den < 10 ^ k`. -/
def magnitude (num den : Nat) : Int :=
  if den ≤ num then digitCount (num / den)
  else
    -- the quotient is below one: count the zeros after the point
    let guess : Int := (digitCount num : Int) - digitCount den
    if num * Nat.pow 10 (-guess).toNat < den then guess else guess + 1

/-- Looking for a decimal on finer and finer grids, `fuel` of them. -/
def search (i : Interval) : Nat → Int → Decimal
  | 0, exponent => ⟨(i.onGrid? exponent).getD 0, exponent⟩
  | fuel + 1, exponent =>
    match i.onGrid? exponent with
    | some n => ⟨n, exponent⟩
    | none => search i fuel (exponent - 1)

/-- The decimal without the zeros at the end of its digits. -/
def trim : Nat → Decimal → Decimal
  | 0, d => d
  | fuel + 1, d =>
    if d.digits != 0 && d.digits % 10 == 0 then trim fuel ⟨d.digits / 10, d.exponent + 1⟩ else d

/-- **The shortest decimal that reads back** as `mant · 2 ^ exp`, for a
positive `mant`. Seventeen digits are always enough. -/
def shortest (mant : Nat) (exp : Int) : Decimal :=
  let i := Interval.of mant exp
  trim 20 (search i 17 (magnitude i.mid i.den - 1))

end Decimal

/-- **How a number is written**, as far as its digits do not say. -/
structure NumberFormat where
  /-- Positional notation is used from this power of ten of the first digit. -/
  leastPositional : Int
  /-- Positional notation is used below this power of ten of the first digit. -/
  positionalBelow : Int
  /-- The least number of digits of an exponent. -/
  exponentDigits : Nat
  /-- What follows an integer in positional notation. -/
  integerTail : List Char

/-- Numbers are positional from 0.0001 to below 10 ^ 16, with a zero after
the point of an integer; beyond, the exponent has a sign and two digits. -/
def NumberFormat.standard : NumberFormat := ⟨-4, 16, 2, ['.', '0']⟩

namespace Decimal

/-- The digits of a natural number, with zeros in front up to `width`. -/
def padded (width n : Nat) : List Char :=
  let ds := Nat.toDigits 10 n
  List.replicate (width - ds.length) '0' ++ ds

/-- **The text of a positive decimal.** -/
def text (f : NumberFormat) (d : Decimal) : List Char :=
  let ds := Nat.toDigits 10 d.digits
  let lead : Int := d.exponent + ds.length - 1
  if f.leastPositional ≤ lead && lead < f.positionalBelow then
    if 0 ≤ d.exponent then ds ++ List.replicate d.exponent.toNat '0' ++ f.integerTail
    else if 0 ≤ lead then
      let whole := (lead + 1).toNat
      ds.take whole ++ '.' :: ds.drop whole
    else '0' :: '.' :: List.replicate (-lead - 1).toNat '0' ++ ds
  else
    let fraction := match ds with
      | c :: [] => [c]
      | c :: rest => c :: '.' :: rest
      | [] => []
    fraction ++ 'e' :: (if lead < 0 then '-' else '+') :: padded f.exponentDigits lead.natAbs

end Decimal

namespace Binary64

/-- The text of a number under the given decisions. -/
def textWith (f : NumberFormat) : Binary64 → List Char
  | .nan => ['n', 'a', 'n']
  | .infinite negative => (if negative then ['-'] else []) ++ ['i', 'n', 'f']
  | .finite negative mant exp =>
    (if negative then ['-'] else []) ++
      (if mant == 0 then '0' :: f.integerTail
       else (Decimal.shortest mant exp).text f)

/-- **The text of a number.** -/
def text (x : Binary64) : String := String.ofList (x.textWith .standard)

/-- The text of a number in which an integer is written as one: its digits
without point and exponent. -/
def plainText (x : Binary64) : String :=
  match x.toInt? with
  | some n => toString n
  | none => x.text

end Binary64

end ParseKit
