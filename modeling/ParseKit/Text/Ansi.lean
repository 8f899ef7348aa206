/-!
# Terminal control sequences

Colour is written as control sequences: the escape character, an opening
bracket, parameters, and a final byte. `Style.wrap` writes a text in a
style; `stripControls` removes every control sequence from a text, and
`stripColours` only those that set colours.
-/

namespace ParseKit.Text

/-- The escape character. -/
def escape : Char := Char.ofNat 27

/-- **A style of terminal text**, by the parameters of the sequence that
turns it on. -/
structure Style where
  /-- The parameters, numbers with semicolons between. -/
  parameters : String
  deriving DecidableEq, Repr

namespace Style

/-- The sequence that turns a style on. -/
def sequence (s : Style) : String :=
  String.ofList [escape, '['] ++ s.parameters ++ "m"

/-- The sequence that turns every style off. -/
def reset : String := (Style.mk "0").sequence

/-- A text between a style and the reset. -/
def wrap (s : Style) (text : String) : String :=
  s.sequence ++ text ++ reset

end Style

/-- A text in a style, if colours are used. -/
def paint (color : Bool) (style : Style) (text : String) : String :=
  if color then style.wrap text else text

/-- Whether a character may be a parameter of a control sequence. -/
def isControlParameter (c : Char) : Bool := 0x30 ≤ c.toNat && c.toNat ≤ 0x3F

/-- Whether a character may stand between the parameters of a control
sequence and its final character. -/
def isControlIntermediate (c : Char) : Bool := 0x20 ≤ c.toNat && c.toNat ≤ 0x2F

/-- Whether a character may end a control sequence. -/
def isControlFinal (c : Char) : Bool := 0x40 ≤ c.toNat && c.toNat ≤ 0x7E

/-- What follows a control sequence whose opening bracket has been read. -/
def afterControl? (s : List Char) : Option (List Char) :=
  match (s.dropWhile isControlParameter).dropWhile isControlIntermediate with
  | c :: rest => if isControlFinal c then some rest else none
  | [] => none

/-- What follows a colour sequence whose opening bracket has been read. -/
def afterColour? (s : List Char) : Option (List Char) :=
  match s.dropWhile (fun c => ('0' ≤ c && c ≤ '9') || c == ';') with
  | 'm' :: rest => some rest
  | _ => none

/-- A text without the sequences that `after?` recognises; `fuel` is any
bound on its length. -/
def stripWith (after? : List Char → Option (List Char)) : Nat → List Char → List Char
  | 0, s => s
  | _ + 1, [] => []
  | fuel + 1, c :: rest =>
    match (if c == escape then rest else []) with
    | '[' :: more =>
      match after? more with
      | some tail => stripWith after? fuel tail
      | none => c :: stripWith after? fuel rest
    | _ => c :: stripWith after? fuel rest

/-- **A text without its control sequences.** -/
def stripControls (s : String) : String :=
  String.ofList (stripWith afterControl? s.length s.toList)

/-- A text without its colour sequences. -/
def stripColours (s : String) : String :=
  String.ofList (stripWith afterColour? s.length s.toList)

end ParseKit.Text
