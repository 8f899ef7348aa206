import ParseKit.Pattern
import ParseKit.Log

/-!
# Lexing

A lexer goes through a source with a list of patterns. At each position
the patterns are tried in order, and the first one that matches gives the
next token, even where a later one would match more. Where none matches
the lexer stays, and says so. It also stays where a match is of no use, and
reading all tokens ends at one without a character.

The cursor counts characters, bytes, lines and columns side by side; every
step moves the four together (`Cursor.advance`).
-/

namespace ParseKit

/-- **A source that is lexed**: its characters, and their UTF-8 form. -/
structure Source where
  /-- The characters. -/
  chars : Array Char
  /-- The bytes. -/
  bytes : ByteArray
  deriving Inhabited

namespace Source

/-- The source of a text. -/
def ofString (s : String) : Source := ⟨s.toList.toArray, s.toUTF8⟩

/-- The source without a character. -/
def empty : Source := ofString ""

/-- The number of characters. -/
def size (s : Source) : Nat := s.chars.size

/-- The `n` characters from a position on. -/
def slice (s : Source) (pos n : Nat) : List Char := (s.chars.extract pos (pos + n)).toList

end Source

/-- **Where a lexer stands in its source.** -/
structure Cursor where
  /-- The number of characters before. -/
  pos : Nat
  /-- The number of bytes before. -/
  bytePos : Nat
  /-- The line, counted from one. -/
  line : Nat
  /-- The column, counted from one. -/
  column : Nat
  deriving DecidableEq, Repr, Inhabited

namespace Cursor

/-- The start of a source. -/
def start : Cursor := ⟨0, 0, 1, 1⟩

/-- The number of characters after the last line feed. -/
def tailLength (text : List Char) : Nat := (text.reverse.takeWhile (· != '\n')).length

/-- **The cursor after the given characters.** -/
def advance (c : Cursor) (text : List Char) : Cursor where
  pos := c.pos + text.length
  bytePos := c.bytePos + Text.byteLength text
  line := c.line + text.count '\n'
  column := if text.contains '\n' then tailLength text + 1 else c.column + text.length

/-- The line and column as a position. -/
def position (c : Cursor) : Position := ⟨c.line, c.column⟩

end Cursor

/-- **A lexer.** -/
structure Lexer where
  /-- The patterns, in the order in which they are tried. -/
  patterns : List Pattern
  /-- The name of the source. -/
  filename : String := unnamedSource
  /-- The source. -/
  source : Source := .empty
  /-- Where the lexer stands. -/
  cursor : Cursor := .start
  deriving Inhabited

namespace Lexer

/-- The lexer at the start of a source. -/
def start (l : Lexer) (source : String) : Lexer :=
  { l with source := .ofString source, cursor := .start }

/-- The record of the start of a source. -/
def startRecord (l : Lexer) : Record :=
  .lexing l.filename l.source.size l.patterns.length

/-- The number of characters that are left. -/
def left (l : Lexer) : Nat := l.source.size - l.cursor.pos

/-- The lexer after `n` characters more. -/
def advance (l : Lexer) (n : Nat) : Lexer :=
  { l with cursor := l.cursor.advance (l.source.slice l.cursor.pos n) }

/-- What a pattern matches where the lexer stands. -/
def lengthOf (l : Lexer) (p : Pattern) : Except Regex.Tangled (Option Int) :=
  p.matchLength l.source.chars l.cursor.pos (some ⟨l.source.bytes, l.cursor.bytePos⟩)

/-- **The first pattern that matches** where the lexer stands, of several,
with the number of characters that it takes; a match that ends before it
begins takes none. -/
def firstMatch (l : Lexer) : List Pattern → Except Regex.Tangled (Option (Pattern × Nat))
  | [] => .ok none
  | p :: rest =>
    match l.lengthOf p with
    | .error t => .error t
    | .ok (some n) => .ok (some (p, n.toNat))
    | .ok none => l.firstMatch rest

/-- The token of `n` characters that a pattern recognises where the lexer
stands. -/
def tokenOf (l : Lexer) (p : Pattern) (n : Nat) : Token where
  kind := p.kind
  text := .ofList (l.source.slice l.cursor.pos n)
  label := p.label
  position := l.cursor.position
  span := ⟨l.cursor.bytePos, (l.advance n).cursor.bytePos⟩
  offset := l.cursor.pos

/-- The error where no pattern matches a character. -/
def errorAt (l : Lexer) (c : Char) : LexError where
  char := .singleton c
  line := l.cursor.line
  column := l.cursor.column
  filename := l.filename

/-- **The next token**, with the lexer after it; nothing at the end. -/
def next (l : Lexer) : Except LexStop (Option (Token × Lexer)) :=
  match l.source.chars[l.cursor.pos]? with
  | none => .ok none
  | some c =>
    match l.firstMatch l.patterns with
    | .ok (some (p, n)) => .ok (some (l.tokenOf p n, l.advance n))
    | .ok none => .error (.error (l.errorAt c))
    | .error _ => .error .tangled

/-- **Steps over one character** without a token; nothing at the end. -/
def skip? (l : Lexer) : Option (Char × Lexer) :=
  l.source.chars[l.cursor.pos]?.map fun c => (c, l.advance 1)

/-- **What reading several tokens gave**: the tokens, why the reading ended
early if it did, and the lexer after it. -/
structure Run where
  /-- The tokens that were read. -/
  tokens : List Token
  /-- Why the reading ended early. -/
  stop : Option LexStop
  /-- The lexer afterwards. -/
  lexer : Lexer

/-- A run with a token in front. -/
def Run.cons (t : Token) (r : Run) : Run := { r with tokens := t :: r.tokens }

/-- **Reads at most `n` tokens**, and fewer at the end or where reading has
to stop. -/
def take : Nat → Lexer → Run
  | 0, l => ⟨[], none, l⟩
  | n + 1, l =>
    match l.next with
    | .error stop => ⟨[], some stop, l⟩
    | .ok none => ⟨[], none, l⟩
    | .ok (some (t, l')) => (take n l').cons t

/-- Reads tokens with characters to the end; there are `fuel` of them at
most. -/
def drain : (fuel : Nat) → Lexer → Run
  | 0, l => ⟨[], none, l⟩
  | fuel + 1, l =>
    match l.next with
    | .error stop => ⟨[], some stop, l⟩
    | .ok none => ⟨[], none, l⟩
    | .ok (some (t, l')) =>
      if t.text.isEmpty then ⟨[], some .endless, l⟩ else (drain fuel l').cons t

/-- **Reads all tokens that are left**, of which there are no more than
characters. -/
def all (l : Lexer) : Run := l.drain l.left

end Lexer

/-- The record of a position at which no pattern matches. -/
def LexError.record (e : LexError) : Record := .noMatch e.char e.line e.column

/-- The records of why lexing ends. -/
def LexStop.records : LexStop → List Record
  | .error e => [e.record]
  | _ => []

namespace Lexer

/-- The records of a run. -/
def Run.records (r : Run) : List Record := r.stop.toList.flatMap LexStop.records

/-- What a run gives: its tokens, or why it ended early. -/
def Run.result (r : Run) : Except LexStop (List Token) :=
  match r.stop with
  | some stop => .error stop
  | none => .ok r.tokens

end Lexer

namespace Lexer

/-- A lexer at the start of a source. -/
def onSource (patterns : List Pattern) (source : String)
    (filename : String := unnamedSource) : Lexer :=
  (Lexer.mk patterns filename .empty .start).start source

/-- **Reads a whole source**, with the records of doing so. -/
def readAll (l : Lexer) : Run × List Record :=
  let run := l.all
  (run, l.startRecord :: run.records)

end Lexer

/-- **The tokens of a source**, in order. -/
def tokenize (patterns : List Pattern) (source : String)
    (filename : String := unnamedSource) : Except LexStop (List Token) :=
  (Lexer.onSource patterns source filename).all.result

end ParseKit
