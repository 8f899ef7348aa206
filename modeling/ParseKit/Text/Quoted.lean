import ParseKit.Text.Category

/-!
# Quoted text

How a text is shown inside a message: between quotes, on one line, with
everything that cannot be shown as it is written as an escape. Single
quotes are used unless the text holds a single quote and no double one.
-/

namespace ParseKit.Text

/-- The digit `n < 16` in lower-case hexadecimal. -/
def hexDigit (n : Nat) : Char :=
  if n < 10 then Char.ofNat (48 + n) else Char.ofNat (87 + n)

/-- `n` in hexadecimal with exactly `width` digits, the low ones. -/
def hexDigits : Nat → Nat → List Char
  | 0, _ => []
  | width + 1, n => hexDigits width (n / 16) ++ [hexDigit (n % 16)]

/-- A code point as the shortest of the three numeric escapes. -/
def numericEscape (c : Nat) : List Char :=
  if c < 0x100 then '\\' :: 'x' :: hexDigits 2 c
  else if c < 0x10000 then '\\' :: 'u' :: hexDigits 4 c
  else '\\' :: 'U' :: hexDigits 8 c

/-- **The quote mark of a text**: the single one, unless the text holds it
and does not hold the double one. -/
def quoteMark (s : List Char) : Char :=
  if s.contains '\'' && !s.contains '"' then '"' else '\''

/-- One character inside quotes that are written with `mark`. -/
def quoteChar (mark c : Char) : List Char :=
  if c == mark || c == '\\' then ['\\', c]
  else if c == '\n' then ['\\', 'n']
  else if c == '\r' then ['\\', 'r']
  else if c == '\t' then ['\\', 't']
  else if isPrintable c.toNat then [c]
  else numericEscape c.toNat

/-- The characters of a quoted text. -/
def quoteChars (s : List Char) : List Char :=
  let mark := quoteMark s
  mark :: s.flatMap (quoteChar mark) ++ [mark]

/-- **The quoted form of a text.** -/
def quote (s : String) : String :=
  String.ofList (quoteChars s.toList)

/-- A text with every character outside ASCII written as a numeric escape. -/
def escapeNonAscii (s : String) : String :=
  String.ofList (s.toList.flatMap fun c => if c.toNat < 128 then [c] else numericEscape c.toNat)

end ParseKit.Text
