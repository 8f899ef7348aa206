import ParseKit.Decimal.Numeral
import ParseKit.Toml.Namespace

/-!
# Reading TOML

A document is read statement by statement: a header, or a key with its
value. `Read` is a reading with the characters that are left and the
position of the first of them; a fault is raised at a position, and
`parse` turns that into a line and a column.
-/

namespace ParseKit.Toml

/-- **Where the reading stands.** -/
structure Scan where
  /-- The characters that are left. -/
  rest : List Char
  /-- The position of the first of them. -/
  pos : Nat
  deriving Inhabited

/-- What stops a reading: a complaint at a position, or an integer that is
too long. -/
inductive Stop where
  /-- A complaint at a position. -/
  | complaint (c : Complaint) (pos : Nat)
  /-- An integer has more digits than can be read. -/
  | longInteger
  deriving Inhabited

/-- Reading part of a document. -/
abbrev Read := StateT Scan (Except Stop)

/-! ## Characters -/

/-- Blanks within a line. -/
def isBlank (c : Char) : Bool := c == ' ' || c == '\t'

/-- Blanks and line ends. -/
def isBlankOrNewline (c : Char) : Bool := isBlank c || c == '\n'

/-- Control characters other than the tab. -/
def isControl (c : Char) : Bool := (c.toNat < 32 && c != '\t') || c.toNat == 127

/-- Control characters other than tab and line feed. -/
def isControlButNewline (c : Char) : Bool := isControl c && c != '\n'

/-- Whether a character is a digit. -/
def isDigit (c : Char) : Bool := '0' ≤ c && c ≤ '9'

/-- Characters of a key that is not quoted. -/
def isBareKey (c : Char) : Bool :=
  isDigit c || ('a' ≤ c && c ≤ 'z') || ('A' ≤ c && c ≤ 'Z') || c == '-' || c == '_'

/-- The value of a hexadecimal digit. -/
def hexValue? (c : Char) : Option Nat :=
  if isDigit c then some (c.toNat - 48)
  else if 'a' ≤ c && c ≤ 'f' then some (c.toNat - 87)
  else if 'A' ≤ c && c ≤ 'F' then some (c.toNat - 55)
  else none

namespace Read

/-- The characters that are left. -/
def rest : Read (List Char) := return (← get).rest

/-- The next character, which stays. -/
def peek : Read (Option Char) := return (← rest).head?

/-- Refuses the document here, or a number of characters further. -/
def fail (c : Complaint) (ahead : Nat := 0) : Read α := do
  throw (.complaint c ((← get).pos + ahead))

/-- Passes over a number of characters. -/
def skip (n : Nat) : Read PUnit :=
  modify fun s => ⟨s.rest.drop n, s.pos + n⟩

/-- Passes over the characters that pass a test. -/
def skipWhile (p : Char → Bool) : Read PUnit :=
  modify fun s => ⟨s.rest.dropWhile p, s.pos + (s.rest.takeWhile p).length⟩

/-- Takes the characters that pass a test. -/
def takeWhile (p : Char → Bool) : Read (List Char) := do
  let s ← get
  skipWhile p
  return s.rest.takeWhile p

/-- Whether a text is next. -/
def isNext (text : List Char) : Read Bool := return text.isPrefixOf (← rest)

/-- Raises what a change of the namespace complains of, here. -/
def ofExcept : Except Complaint α → Read α
  | .ok a => return a
  | .error c => fail c

/-! ## Comments and strings -/

/-- The characters before the first occurrence of a text, if it occurs. -/
def before? (text : List Char) : List Char → Option (List Char)
  | [] => if text.isEmpty then some [] else none
  | c :: rest =>
    if text.isPrefixOf (c :: rest) then some []
    else (before? text rest).map (c :: ·)

/-- Takes what stands before a closing text, which stays. Without a closing
text, all is taken if `required` does not hold. No character taken may
fail the test `bad`. -/
def upTo (text : List Char) (bad : Char → Bool) (required : Bool) : Read (List Char) := do
  let all ← rest
  let taken ← match before? text all with
    | some taken => pure taken
    | none =>
      if required then fail (.expected (String.ofList text)) all.length else pure all
  match taken.find? bad with
  | some c => fail (.invalid c) (taken.takeWhile (fun d => !bad d)).length
  | none =>
    skip taken.length
    return taken

/-- Passes over a comment, if there is one. -/
def comment : Read PUnit := do
  if (← peek) == some '#' then
    skip 1
    let _ ← upTo ['\n'] isControl false

/-- Passes over blanks, line ends and comments; `fuel` bounds their number. -/
def trivia : Nat → Read PUnit
  | 0 => return ()
  | fuel + 1 => do
    let start := (← get).pos
    skipWhile isBlankOrNewline
    comment
    if (← get).pos == start then return () else trivia fuel

/-- A literal string whose quote is next. -/
def literalString : Read (List Char) := do
  skip 1
  let s ← upTo ['\''] isControl true
  skip 1
  return s

/-- An escape of `n` hexadecimal digits, which are next. -/
def hexEscape (n : Nat) : Read (List Char) := do
  let ds := (← rest).take n
  if ds.length != n || !ds.all (fun c => (hexValue? c).isSome) then fail .badHex
  skip n
  let v := ds.foldl (fun a c => a * 16 + (hexValue? c).getD 0) 0
  if v ≤ 0xD7FF || (0xE000 ≤ v && v ≤ 0x10FFFF) then return [Char.ofNat v]
  else fail .notScalar

/-- The character that a simple escape stands for. -/
def simpleEscape? : Char → Option Char
  | 'b' => some '\x08'
  | 't' => some '\t'
  | 'n' => some '\n'
  | 'f' => some '\x0c'
  | 'r' => some '\x0d'
  | '"' => some '"'
  | '\\' => some '\\'
  | _ => none

/-- What an escape stands for; its backslash is next. In a string of
several lines, a backslash at the end of a line takes the blanks after it. -/
def escape (multiline : Bool) : Read (List Char) := do
  let letter := ((← rest).drop 1).head?
  skip 2
  if multiline && letter.any isBlankOrNewline then
    if letter != some '\n' then
      skipWhile isBlank
      match ← peek with
      | none => return []
      | some '\n' => skip 1
      | some _ => fail .badEscape
    skipWhile isBlankOrNewline
    return []
  match letter with
  | some 'u' => hexEscape 4
  | some 'U' => hexEscape 8
  | some c =>
    match simpleEscape? c with
    | some d => return [d]
    | none => fail .badEscape
  | none => fail .badEscape

/-- The rest of a basic string, the characters read so far being given last
first; `fuel` bounds the characters. -/
def basicRest (multiline : Bool) : Nat → List Char → Read (List Char)
  | 0, _ => fail .unterminated
  | fuel + 1, read => do
    match ← peek with
    | none => fail .unterminated
    | some '"' =>
      if !multiline then
        skip 1
        return read.reverse
      if ← isNext ['"', '"', '"'] then
        skip 3
        return read.reverse
      skip 1
      basicRest multiline fuel ('"' :: read)
    | some '\\' =>
      let cs ← escape multiline
      basicRest multiline fuel (cs.reverse ++ read)
    | some c =>
      if (if multiline then isControlButNewline c else isControl c) then fail (.illegal c)
      skip 1
      basicRest multiline fuel (c :: read)

/-- A basic string after its opening quotes. -/
def basicString (multiline : Bool) : Read (List Char) := do
  basicRest multiline ((← rest).length + 1) []

/-- A string of several lines, whose three quotes are next. Up to two more
quotes at its end belong to it. -/
def multilineString (quoteChar : Char) : Read (List Char) := do
  skip 3
  if ← isNext ['\n'] then skip 1
  let body ← if quoteChar == '\'' then do
      let s ← upTo ['\'', '\'', '\''] isControlButNewline true
      skip 3
      pure s
    else basicString true
  let quotes := ((← rest).take 2).takeWhile (· == quoteChar)
  skip quotes.length
  return body ++ quotes

/-! ## Keys -/

/-- A part of a key. -/
def keyPart : Read String := do
  match ← peek with
  | some '\'' => String.ofList <$> literalString
  | some '"' =>
    skip 1
    String.ofList <$> basicString false
  | some c =>
    if isBareKey c then String.ofList <$> takeWhile isBareKey else fail .invalidKey
  | none => fail .invalidKey

/-- The parts of a key after the first. -/
def keyRest : Nat → Read Key
  | 0 => return []
  | fuel + 1 => do
    skipWhile isBlank
    if (← peek) == some '.' then
      skip 1
      skipWhile isBlank
      let part ← keyPart
      return part :: (← keyRest fuel)
    else return []

/-- A key, with the blanks after it. -/
def key : Read Key := do
  let first ← keyPart
  return first :: (← keyRest ((← rest).length + 1))

end Read

/-! ## Numbers and dates -/

/-- Digits of a kind with single underscores between them: the digits, and
what is left. -/
def underscored (p : Char → Bool) : List Char → List Char × List Char
  | [] => ([], [])
  | c :: rest =>
    if !p c then ([], c :: rest)
    else match rest with
      | '_' :: d :: more =>
        if p d then
          let (ds, left) := underscored p (d :: more)
          (c :: ds, left)
        else ([c], '_' :: d :: more)
      | rest =>
        let (ds, left) := underscored p rest
        (c :: ds, left)

/-- A number with a base letter, if the text begins with one. -/
def basedNumber? : List Char → Option (Int × List Char)
  | '0' :: letter :: rest =>
    let base? : Option (Nat × (Char → Bool)) := match letter with
      | 'x' => some (16, fun c => (hexValue? c).isSome)
      | 'o' => some (8, fun c => '0' ≤ c && c ≤ '7')
      | 'b' => some (2, fun c => c == '0' || c == '1')
      | _ => none
    match base? with
    | none => none
    | some (base, p) =>
      let (ds, left) := underscored p rest
      if ds.isEmpty then none
      else some ((ds.foldl (fun n c => n * base + (hexValue? c).getD 0) 0 : Nat), left)
  | _ => none

/-- An optional group of digits after a mark: what was read with the mark,
and what is left. -/
def markedDigits (s mark : List Char) (afterMark : List Char) : List Char × List Char :=
  let (ds, left) := underscored isDigit afterMark
  if ds.isEmpty then ([], s) else (mark ++ ds, left)

/-- The fraction at the front of a text. -/
def fractionPart : List Char → List Char × List Char
  | '.' :: rest => markedDigits ('.' :: rest) ['.'] rest
  | s => ([], s)

/-- The exponent at the front of a text. -/
def exponentPart : List Char → List Char × List Char
  | c :: rest =>
    if c == 'e' || c == 'E' then
      match rest with
      | '+' :: more => markedDigits (c :: rest) ['e', '+'] more
      | '-' :: more => markedDigits (c :: rest) ['e', '-'] more
      | _ => markedDigits (c :: rest) ['e'] rest
    else ([], c :: rest)
  | [] => ([], [])

/-- The digits of a decimal number without superfluous zeros in front. -/
def wholePart : List Char → List Char × List Char
  | '0' :: rest => (['0'], rest)
  | s => underscored isDigit s

/-- A number in decimal, with its characters but without underscores: the
sign, the whole part, the fraction and exponent, and what is left. -/
def decimalNumber? (s : List Char) :
    Option (Bool × List Char × List Char × List Char) :=
  let (negative, body) := Numeral.splitSign s
  let (whole, rest) := wholePart body
  if whole.isEmpty then none
  else
    let (fraction, rest) := fractionPart rest
    let (exponent, rest) := exponentPart rest
    some (negative, whole, fraction ++ exponent, rest)

/-- Two digits as a number between two bounds. -/
def twoDigits? (low high : Nat) : List Char → Option (Nat × List Char)
  | a :: b :: rest =>
    if isDigit a && isDigit b then
      let n := (a.toNat - 48) * 10 + (b.toNat - 48)
      if low ≤ n && n ≤ high then some (n, rest) else none
    else none
  | _ => none

/-- A given character at the front. -/
def mark? (c : Char) : List Char → Option (List Char)
  | d :: rest => if c == d then some rest else none
  | [] => none

/-- A time of day at the front of a text. Of the digits of a fraction the
first six count. -/
def clock? (s : List Char) : Option (Clock × List Char) := do
  let (hour, s) ← twoDigits? 0 23 s
  let s ← mark? ':' s
  let (minute, s) ← twoDigits? 0 59 s
  let s ← mark? ':' s
  let (second, s) ← twoDigits? 0 59 s
  match s with
  | '.' :: more =>
    let ds := more.takeWhile isDigit
    if ds.isEmpty then return (⟨hour, minute, second, 0⟩, s)
    else
      let six := (ds ++ List.replicate 6 '0').take 6
      return (⟨hour, minute, second, Numeral.value six⟩, more.dropWhile isDigit)
  | _ => return (⟨hour, minute, second, 0⟩, s)

/-- A distance from universal time at the front of a text. -/
def zone? : List Char → Option (Int × List Char)
  | [] => none
  | c :: rest => do
    if c == 'Z' || c == 'z' then return (0, rest)
    else if c == '+' || c == '-' then
      let (hours, s) ← twoDigits? 0 23 rest
      let s ← mark? ':' s
      let (minutes, s) ← twoDigits? 0 59 s
      let n : Int := hours * 60 + minutes
      return (if c == '-' then -n else n, s)
    else none

/-- A date, or a date and a time, at the front of a text. -/
def dateValue? (s : List Char) : Option (Date × Option Value × List Char) := do
  let year := s.take 4
  if year.length != 4 || !year.all isDigit then none
  let s ← mark? '-' (s.drop 4)
  let (month, s) ← twoDigits? 1 12 s
  let s ← mark? '-' s
  let (day, s) ← twoDigits? 1 31 s
  let date : Date := ⟨Numeral.value year, month, day⟩
  let time := match s with
    | c :: more => if c == 'T' || c == 't' || c == ' ' then clock? more else none
    | [] => none
  match time with
  | none => return (date, none, s)
  | some (clock, s) =>
    match zone? s with
    | some (ahead, s) => return (date, some (.moment ⟨date, clock, some ahead⟩), s)
    | none => return (date, some (.moment ⟨date, clock, none⟩), s)

/-- The words for numbers that have no digits. -/
def wordNumber? (s : List Char) : Option (Binary64 × Nat) :=
  match s.take 3 with
  | ['i', 'n', 'f'] => some (.infinite false, 3)
  | ['n', 'a', 'n'] => some (.nan, 3)
  | _ =>
    match s.take 4 with
    | ['-', 'i', 'n', 'f'] => some (.infinite true, 4)
    | ['+', 'i', 'n', 'f'] => some (.infinite false, 4)
    | ['-', 'n', 'a', 'n'] => some (.nan, 4)
    | ['+', 'n', 'a', 'n'] => some (.nan, 4)
    | _ => none

namespace Read

/-- Passes to a given rest. -/
def skipTo (left : List Char) : Read PUnit := do
  skip ((← rest).length - left.length)

/-- A date, a time or a number. -/
def scalar : Read Value := do
  let s ← rest
  if let some (date, moment, left) := dateValue? s then
    if !date.isValid then fail .badDate
    skipTo left
    return moment.getD (.date date)
  if let some (clock, left) := clock? s then
    skipTo left
    return .clock clock
  if let some (n, left) := basedNumber? s then
    skipTo left
    return .int n
  if let some (negative, whole, float, left) := decimalNumber? s then
    skipTo left
    if float.isEmpty then
      if Numeral.digitLimit < whole.length then throw .longInteger
      let n : Int := Numeral.value whole
      return .int (if negative then -n else n)
    else return .float ((Numeral.readDecimal? negative (whole ++ float)).getD .nan)
  if let some (x, n) := wordNumber? s then
    skip n
    return .float x
  fail .invalidValue

/-! ## Values -/

mutual

/-- **A value.** -/
def value : Nat → Read Value
  | 0 => fail .invalidValue
  | fuel + 1 => do
    match ← peek with
    | some '"' =>
      if ← isNext ['"', '"', '"'] then return .text (.ofList (← multilineString '"'))
      skip 1
      return .text (.ofList (← basicString false))
    | some '\'' =>
      if ← isNext ['\'', '\'', '\''] then return .text (.ofList (← multilineString '\''))
      return .text (.ofList (← literalString))
    | some '[' =>
      skip 1
      trivia ((← rest).length + 1)
      if ← isNext [']'] then
        skip 1
        return .list []
      return .list (← items fuel [])
    | some '\x7b' =>
      skip 1
      skipWhile isBlank
      if ← isNext ['\x7d'] then
        skip 1
        return .table []
      return .table (← fields fuel [] [])
    | _ =>
      if ← isNext "true".toList then
        skip 4
        return .bool true
      if ← isNext "false".toList then
        skip 5
        return .bool false
      scalar

/-- The items of an array from one item on, those before it last first. -/
def items : Nat → List Value → Read (List Value)
  | 0, _ => fail .unclosedArray
  | fuel + 1, before => do
    let v ← value fuel
    let all := v :: before
    trivia ((← rest).length + 1)
    match ← peek with
    | some ']' =>
      skip 1
      return all.reverse
    | some ',' =>
      skip 1
      trivia ((← rest).length + 1)
      if ← isNext [']'] then
        skip 1
        return all.reverse
      items fuel all
    | _ => fail .unclosedArray

/-- The fields of an inline table from one field on, with the keys whose
values are complete. -/
def fields : Nat → Fields → List Key → Read Fields
  | 0, _, _ => fail .unclosedTable
  | fuel + 1, before, complete => do
    let k ← key
    let v ← keyValue fuel
    if complete.any fun c => c.isPrefixOf k then fail (.immutable k)
    let stem := k.getLastD ""
    if Fields.has false stem k.dropLast before then fail (.duplicateKey stem)
    let all ← match Fields.change false (fun inner => some (Fields.put stem v inner))
        k.dropLast before with
      | some all => pure all
      | none => fail .overwritten
    skipWhile isBlank
    match ← peek with
    | some '\x7d' =>
      skip 1
      return all
    | some ',' =>
      let complete := match v with
        | .table _ | .list _ => k :: complete
        | _ => complete
      skip 1
      skipWhile isBlank
      fields fuel all complete
    | _ => fail .unclosedTable

/-- The value after a key and its equals sign. -/
def keyValue : Nat → Read Value
  | 0 => fail .invalidValue
  | fuel + 1 => do
    if (← peek) != some '=' then fail .missingEquals
    skip 1
    skipWhile isBlank
    value fuel

end

/-! ## Statements -/

/-- A header whose first bracket is next: what it opens, and its key. -/
def header (n : Namespace) : Read (Namespace × Key) := do
  let n := n.settle
  if ← isNext ['[', '['] then
    skip 2
    skipWhile isBlank
    let k ← key
    let n ← ofExcept (n.openItem k)
    if !(← isNext [']', ']']) then fail .arrayHeader
    skip 2
    return (n, k)
  else
    skip 1
    skipWhile isBlank
    let k ← key
    let n ← ofExcept (n.openTable k)
    if !(← isNext [']']) then fail .tableHeader
    skip 1
    return (n, k)

/-- **The statements of a document** below a header. -/
def statements : Nat → Namespace → Key → Read Namespace
  | 0, n, _ => return n
  | fuel + 1, n, current => do
    skipWhile isBlank
    match ← peek with
    | none => return n
    | some '\n' =>
      skip 1
      statements fuel n current
    | some c =>
      let (n, current) ←
        if isBareKey c || c == '"' || c == '\'' then do
          let k ← key
          let v ← keyValue ((← rest).length + 3)
          let n ← ofExcept (n.define current k v)
          skipWhile isBlank
          pure (n, current)
        else if c == '[' then do
          let opened ← header n
          skipWhile isBlank
          pure opened
        else if c == '#' then pure (n, current)
        else fail .invalidStatement
      comment
      match ← peek with
      | none => return n
      | some '\n' =>
        skip 1
        statements fuel n current
      | some _ => fail .afterStatement

end Read

/-- Carriage returns before line feeds are dropped. -/
def dropReturns : List Char → List Char
  | [] => []
  | '\r' :: '\n' :: rest => '\n' :: dropReturns rest
  | c :: rest => c :: dropReturns rest

/-- Without carriage returns, none are dropped. -/
theorem dropReturns_eq_self {s : List Char} (h : '\r' ∉ s) : dropReturns s = s := by
  induction s with
  | nil => rfl
  | cons c s ih =>
    rw [List.mem_cons, not_or] at h
    unfold dropReturns
    split
    case h_1 heq => cases heq
    case h_2 rest heq => exact absurd (List.cons.inj heq).1.symm h.1
    case h_3 first rest _ heq =>
      cases heq
      rw [ih h.2]

/-- Reading the characters of a document, without the carriage returns of
its line ends. -/
def parseChars (document : List Char) : Except Fault (List (String × Value)) :=
  match (Read.statements (document.length + 1) .empty []).run' ⟨document, 0⟩ with
  | .ok n => .ok n.root
  | .error (.complaint c pos) => .error (.malformed c (Place.of document pos))
  | .error .longInteger => .error .longInteger

/-- **Reading a document.** -/
def parse (text : String) : Except Fault (List (String × Value)) :=
  parseChars (dropReturns text.toList)

theorem parse_ofList {s : List Char} (h : '\r' ∉ s) : parse (.ofList s) = parseChars s := by
  rw [parse, String.toList_ofList, dropReturns_eq_self h]

end ParseKit.Toml
