import ParseKit.Grammar
import ParseKit.Text.Ansi
import ParseKit.Text.Case
import ParseKit.Text.Identifier
import ParseKit.Text.Lines

/-!
# Highlighting

A text is highlighted by cutting it into pieces, each with a role. The
pieces are the tokens of a list of patterns; a character at which no
pattern matches is a piece of its own with the role of an error, and
cutting goes on after it, so that the pieces together are the text.

The role of a token comes from the label of its pattern. Roles form a
tree, and a piece is coloured by the nearest role above its own that has
a colour.
-/

namespace ParseKit

/-- **A role**, by the names on the way to it from the root. -/
structure Role where
  /-- The names. -/
  path : List String
  deriving DecidableEq, Repr, Inhabited

namespace Role

/-- The text of a role: the names with dots between, below the root. -/
def text (r : Role) : String := ".".intercalate ("Token" :: r.path)

/-- The role below a role with a name, which must begin with a letter in
upper case. The root has names for itself, and for strings and numbers,
which are literals. -/
def below? (r : Role) (name : String) : Option Role :=
  if r.path.isEmpty && name == "Token" then some r
  else if r.path.isEmpty && (name == "String" || name == "Number") then some ⟨["Literal", name]⟩
  else if name.toList.head?.any fun c => Text.isUpper c.toNat then some ⟨r.path ++ [name]⟩
  else none

/-- **The role that a text names**, by the way to it from the root. -/
def ofText? (s : String) : Option Role :=
  if s.isEmpty then some ⟨[]⟩ else (s.splitOn ".").foldlM below? ⟨[]⟩

/-- White space. -/
def whitespace : Role := ⟨["Text", "Whitespace"]⟩
/-- A comment. -/
def comment : Role := ⟨["Comment"]⟩
/-- A string. -/
def string : Role := ⟨["Literal", "String"]⟩
/-- A number. -/
def number : Role := ⟨["Literal", "Number"]⟩
/-- An integer. -/
def integer : Role := ⟨["Literal", "Number", "Integer"]⟩
/-- A number with a fraction. -/
def float : Role := ⟨["Literal", "Number", "Float"]⟩
/-- A name. -/
def name : Role := ⟨["Name"]⟩
/-- A keyword. -/
def keyword : Role := ⟨["Keyword"]⟩
/-- An operator. -/
def operator : Role := ⟨["Operator"]⟩
/-- Text without a role of its own. -/
def plain : Role := ⟨["Text"]⟩
/-- An error. -/
def error : Role := ⟨["Error"]⟩

/-- A role with those above it, the nearest first. -/
def ancestors (r : Role) : List Role := go r.path.reverse
where
  /-- The same for the names in reverse. -/
  go : List String → List Role
    | [] => [⟨[]⟩]
    | name :: up => ⟨(name :: up).reverse⟩ :: go up

end Role

namespace Highlight

/-! ## Roles of patterns -/

/-- Parts of labels and the roles that they suggest; the first part that a
label has decides. -/
def labelHints : List (String × Role) :=
  [ ("space", .whitespace), ("comment", .comment), ("string", .string), ("number", .number),
    ("int", .integer), ("float", .float), ("ident", .name), ("name", .name),
    ("keyword", .keyword) ]

/-- Whether a text occurs in another. -/
def occursIn (part : List Char) : List Char → Bool
  | [] => part.isEmpty
  | c :: rest => part.isPrefixOf (c :: rest) || occursIn part rest

/-- The role that a label suggests. Case does not matter. -/
def hint? (label : String) : Option Role :=
  let label := Text.lowerText label.toList
  (labelHints.find? fun h => occursIn h.1.toList label).map Prod.snd

/-- The role of a literal: words are keywords. -/
def literalRole (text : String) : Role :=
  if Text.isIdentifier text.toList then .keyword else .operator

/-- **The role of the tokens of a pattern.** -/
def guess (p : Pattern) : Role :=
  match hint? p.label with
  | some r => r
  | none =>
    match p.matcher with
    | .literal text => literalRole text
    | _ => .plain

/-- The role of the tokens of an entry. A literal that is no text has none
unless its label suggests one. -/
def guessEntry? (e : Entry) : Option Role :=
  match e.matcher with
  | .sound m => some (guess ⟨e.label, e.kind, m⟩)
  | .literal _ => hint? e.label
  | .range .. => some ((hint? e.label).getD .plain)

/-- **Roles by label.** The last one given for a label counts. -/
abbrev Styles := List (String × Role)

/-- The roles that texts name, by label; nothing if one of them names
none. -/
def namedStyles? (given : List (String × String)) : Option Styles :=
  given.mapM fun s => (Role.ofText? s.2).map fun r => (s.1, r)

/-- The styles of patterns, with styles that go before them. -/
def stylesOf (patterns : List Pattern) (given : Styles) : Styles :=
  (patterns.map fun p => (p.label, guess p)) ++ given

/-- The role of a label. -/
def roleOf (styles : Styles) (label : String) : Role :=
  (styles.reverse.lookup label).getD .plain

/-! ## Pieces -/

/-- **A piece of a text.** -/
structure Piece where
  /-- The number of characters before it. -/
  offset : Nat
  /-- Its role. -/
  role : Role
  /-- Its characters. -/
  text : String
  deriving DecidableEq, Repr, Inhabited

/-- **What cutting a text into pieces gave**: the pieces, why it ended early
if it did, and the records. -/
structure Cut where
  /-- The pieces. -/
  pieces : List Piece := []
  /-- Why it ended early. -/
  stop : Option LexStop := none
  /-- The records. -/
  records : List Record := []
  deriving Inhabited

namespace Cut

/-- A cut with a piece in front, and with the records of that. -/
def cons (p : Piece) (records : List Record) (c : Cut) : Cut :=
  { c with pieces := p :: c.pieces, records := records ++ c.records }

/-- What a cut gives: its pieces, or why it ended early. -/
def result (c : Cut) : Except LexStop (List Piece) :=
  match c.stop with
  | some stop => .error stop
  | none => .ok c.pieces

end Cut

/-- The pieces that a lexer gives, at most `fuel`. A character that no
pattern matches is a piece by itself. -/
def cut (styles : Styles) : (fuel : Nat) → Lexer → Cut
  | 0, _ => {}
  | fuel + 1, l =>
    match l.next with
    | .ok none => {}
    | .ok (some (t, l')) =>
      if t.text.isEmpty then { stop := some .endless }
      else (cut styles fuel l').cons ⟨t.offset, roleOf styles t.label, t.text⟩ []
    | .error (.error e) =>
      (cut styles fuel (l.advance 1)).cons ⟨l.cursor.pos, .error, e.char⟩ [e.record]
    | .error stop => { stop := some stop }

/-- **A text cut into pieces.** A piece has a character at least. -/
def cutText (patterns : List Pattern) (styles : Styles) (text : String) : Cut :=
  let l := Lexer.onSource patterns text
  let c := cut styles l.left l
  { c with records := l.startRecord :: c.records }

/-- **The pieces of a text.** -/
def pieces (patterns : List Pattern) (styles : Styles) (text : String) :
    Except LexStop (List Piece) :=
  (cutText patterns styles text).result

/-! ## The terminal -/

/-- The text without line feeds at its ends. -/
def trimLineFeeds (s : List Char) : List Char :=
  ((s.dropWhile (· == '\n')).reverse.dropWhile (· == '\n')).reverse

/-- The text without a byte order mark at its start. -/
def dropMark : List Char → List Char
  | c :: rest => if c.toNat == 0xFEFF then rest else c :: rest
  | [] => []

/-- The text with a line feed at its end. -/
def closed (s : List Char) : List Char :=
  if s.getLast? == some '\n' then s else s ++ ['\n']

/-- **A text made ready for printing**: without a byte order mark, with
line feeds for line ends, without empty lines around, and closed by a line
feed. -/
def prepared (text : String) : String :=
  .ofList (closed (trimLineFeeds (Text.unifyLineEnds (dropMark text.toList))))

/-- **The colours of roles**: the parameters of the sequences that turn them
on. -/
def colours : List (Role × List String) :=
  [ (⟨[]⟩, []),
    (.whitespace, ["37"]),
    (.comment, ["37"]),
    (⟨["Comment", "Preproc"]⟩, ["36"]),
    (.keyword, ["34"]),
    (⟨["Keyword", "Type"]⟩, ["36"]),
    (⟨["Operator", "Word"]⟩, ["35"]),
    (⟨["Name", "Builtin"]⟩, ["36"]),
    (⟨["Name", "Function"]⟩, ["32"]),
    (⟨["Name", "Namespace"]⟩, ["04", "36"]),
    (⟨["Name", "Class"]⟩, ["04", "32"]),
    (⟨["Name", "Exception"]⟩, ["36"]),
    (⟨["Name", "Decorator"]⟩, ["90"]),
    (⟨["Name", "Variable"]⟩, ["31"]),
    (⟨["Name", "Constant"]⟩, ["31"]),
    (⟨["Name", "Attribute"]⟩, ["36"]),
    (⟨["Name", "Tag"]⟩, ["94"]),
    (.string, ["33"]),
    (.number, ["34"]),
    (⟨["Generic", "Deleted"]⟩, ["91"]),
    (⟨["Generic", "Inserted"]⟩, ["32"]),
    (⟨["Generic", "Heading"]⟩, ["01"]),
    (⟨["Generic", "Subheading"]⟩, ["01", "35"]),
    (⟨["Generic", "Prompt"]⟩, ["01"]),
    (⟨["Generic", "Error"]⟩, ["91"]),
    (.error, ["04", "91"]) ]

/-- The colour of a role: that of the nearest role above it that has one. -/
def colourOf (r : Role) : List String :=
  (r.ancestors.findSome? fun a => colours.lookup a).getD []

/-- The sequence that turns a colour off. -/
def colourReset : String := (Text.Style.mk "39;49;00").sequence

/-- A text in a colour. -/
def coloured (colour : List String) (text : String) : String :=
  if colour.isEmpty then text
  else String.join (colour.map fun p => (Text.Style.mk p).sequence) ++ text ++ colourReset

/-- A line in a colour, with its line feed outside. -/
def colouredLine (colour : List String) (l : Text.Line) : String :=
  let whole := l.whole
  if whole.getLast? == some '\n' then coloured colour (.ofList whole.dropLast) ++ "\n"
  else coloured colour (.ofList whole)

/-- A piece for the terminal, coloured line by line. -/
def terminalPiece (p : Piece) : String :=
  String.join ((Text.linesOf p.text.toList).map (colouredLine (colourOf p.role)))

/-- **Pieces for the terminal.** -/
def terminal (pieces : List Piece) : String := String.join (pieces.map terminalPiece)

/-! ## Grammars -/

/-- Why a text cannot be highlighted by a grammar. -/
inductive Fault where
  /-- A literal that is no text has no role. -/
  | roleless
  /-- Lexing ends before the end of the text. -/
  | stopped (stop : LexStop)
  deriving DecidableEq, Repr, Inhabited

/-- The styles of entries. -/
def entryStyles? : List Entry → Option Styles
  | [] => some []
  | e :: rest => do
    let role ← guessEntry? e
    return (e.label, role) :: (← entryStyles? rest)

/-- **A text highlighted by a grammar for the terminal**, with the records
of doing so. -/
def byGrammar (g : Grammar) (text : String) : Except Fault String × List Record :=
  match entryStyles? g.entries with
  | none => (.error .roleless, [])
  | some styles =>
    let text := prepared text
    let reading := g.read text
    match reading.stop with
    | some .unmatchable => (.error (.stopped .unmatchable), reading.records)
    | _ =>
      let l := g.lexer text
      let c := cut styles l.left l
      ((c.result.map terminal).mapError .stopped,
        g.startRecord text unnamedSource :: c.records)

end Highlight

end ParseKit
