import ParseKit.Text.Category
import ParseKit.Decimal.Binary64

/-!
# Numerals

Reading a number from a text. Blanks around the number are allowed, the
digits may be decimal digits of any script, and a single underscore may
stand between two digits.
-/

namespace ParseKit.Numeral

open ParseKit.Text

/-- The blanks that may stand around a number. -/
def isBlank (c : Char) : Bool :=
  let n := c.toNat
  if n < 127 then isAsciiSpace n else isSpace n

/-- The text without the blanks around it. -/
def strip (s : List Char) : List Char :=
  ((s.dropWhile isBlank).reverse.dropWhile isBlank).reverse

/-- A decimal digit of any script as the digit of ASCII; all else is its
own. -/
def plainDigit (c : Char) : Char :=
  match decimalValue? c.toNat with
  | some v => Char.ofNat (48 + v)
  | none => c

/-- Whether a character is a digit of ASCII. -/
def isDigit (c : Char) : Bool := isAsciiDigit c.toNat

/-- The text without its underscores, if each stands between two digits;
`prev` is the character before the text. -/
def dropUnderscores? (prev : Option Char) : List Char → Option (List Char)
  | [] => if prev == some '_' then none else some []
  | c :: rest =>
    if c == '_' then
      if prev.any isDigit then dropUnderscores? (some c) rest else none
    else if prev == some '_' && !isDigit c then none
    else (dropUnderscores? (some c) rest).map (c :: ·)

/-- The number that digits of ASCII spell. -/
def value (ds : List Char) : Nat :=
  ds.foldl (fun n c => 10 * n + (c.toNat - 48)) 0

/-- The sign at the front of a text, and what follows it. -/
def splitSign : List Char → Bool × List Char
  | '-' :: rest => (true, rest)
  | '+' :: rest => (false, rest)
  | s => (false, s)

/-- The most digits that an integer may be read from. -/
def digitLimit : Nat := 4300

/-- **Reading an integer.** -/
def readInt? (s : String) : Option Int := do
  let (negative, body) := splitSign ((strip s.toList).map plainDigit)
  let ds ← dropUnderscores? none body
  if ds.isEmpty || !ds.all isDigit || digitLimit < ds.length then none
  else
    let n : Int := value ds
    some (if negative then -n else n)

/-- The exponent after the digits of a number; none is zero. -/
def readExponent? : List Char → Option Int
  | [] => some 0
  | c :: rest =>
    if c == 'e' || c == 'E' then
      let (negative, ds) := splitSign rest
      if ds.isEmpty || !ds.all isDigit then none
      else some (if negative then -(value ds : Int) else value ds)
    else none

/-- Digits, perhaps a point with more digits, perhaps an exponent. -/
def readDecimal? (negative : Bool) (s : List Char) : Option Binary64 :=
  let whole := s.takeWhile isDigit
  let (fraction, rest) := match s.dropWhile isDigit with
    | '.' :: more => (more.takeWhile isDigit, more.dropWhile isDigit)
    | more => ([], more)
  if whole.isEmpty && fraction.isEmpty then none
  else (readExponent? rest).map fun e =>
    Binary64.ofDecimal negative (value (whole ++ fraction)) (e - fraction.length)

/-- The words for numbers that have no digits. -/
def readWord? (negative : Bool) (s : List Char) : Option Binary64 :=
  let word := String.ofList (s.map Char.toLower)
  if word == "inf" || word == "infinity" then some (.infinite negative)
  else if word == "nan" then some .nan
  else none

/-- **Reading a double-precision number.** -/
def readBinary64? (s : String) : Option Binary64 := do
  let body ← dropUnderscores? none ((strip s.toList).map plainDigit)
  let (negative, rest) := splitSign body
  (readWord? negative rest).or (readDecimal? negative rest)

end ParseKit.Numeral
