import ParseKit.Error
import ParseKit.Files
import ParseKit.Text.Ansi
import ParseKit.Text.Lines

/-!
# Diagnostics

A diagnostic is an error with the places that it is about. It is rendered
with the lines of the source that its labels point into, and with carets
under the columns.

Lines are looked up first among the sources that are held in memory and
then in files. What a file held when it was first looked up is kept, also
that there was no such file; a file that is no text is not kept, and ends
the rendering. So does a column that is too far out to be pointed at: a row
is a text, and a text has fewer characters than `Renderer.textLimit`. This
limit is that of counting; how much memory there is plays no part.
-/

namespace ParseKit

/-- **A label**: a place, and what is to be said about it. -/
structure DiagnosticLabel where
  /-- The place. -/
  location : Location
  /-- What is said about it. -/
  message : String
  deriving DecidableEq, Repr, Inhabited

/-- **A diagnostic.** -/
structure Diagnostic where
  /-- The code of the error. -/
  code : String
  /-- The message. -/
  message : String
  /-- The places it is about. -/
  labels : List DiagnosticLabel := []
  /-- Remarks. -/
  notes : List String := []
  deriving DecidableEq, Repr, Inhabited

/-- The word for how bad it is. -/
def Diagnostic.severity (_ : Diagnostic) : String := "error"

namespace LexError

/-- The diagnostic points at the character. -/
def toDiagnostic (e : LexError) : Diagnostic where
  code := "E100"
  message := "invalid character " ++ Text.quote e.char
  labels := [⟨.along e.filename e.line e.column, "no token pattern matches here"⟩]

end LexError

namespace ParseError

/-- Where a token is: as many columns as it has characters. -/
def locationOf (filename : String) (t : Token) : Location :=
  .along filename t.position.line t.position.column t.length

/-- The diagnostic points at the token that was found. -/
def toDiagnostic (e : ParseError) : Diagnostic where
  code := "E200"
  message := e.message
  labels := e.token.toList.map fun t =>
    ⟨locationOf e.filename t, "found " ++ labelled t.label t.kind⟩

end ParseError

/-- The diagnostic of an error. -/
def Error.toDiagnostic : Error → Diagnostic
  | .lex e => e.toDiagnostic
  | .parse e => e.toDiagnostic
  | e => ⟨e.code, e.message, [], []⟩

/-! ## Rendering -/

/-- **Why a diagnostic cannot be rendered.** -/
inductive RenderFault where
  /-- The bytes of a file spell no text. -/
  | notText
  /-- A column is beyond what can be counted. -/
  | uncountable
  /-- A row would have more characters than any text. -/
  | tooWide
  deriving DecidableEq, Repr, Inhabited

/-- **A renderer**: whether it uses colours, and the lines of the sources
that it knows. -/
structure Renderer where
  /-- Whether colours are used. -/
  color : Bool
  /-- The lines of each source, by name. -/
  known : List (String × List String)
  deriving Repr, Inhabited

namespace Renderer

open Text (paint)

/-- A renderer that knows sources held in memory. -/
def ofSources (color : Bool) (sources : List (String × String)) : Renderer :=
  ⟨color, sources.map fun s => (s.1, Text.splitLines s.2)⟩

/-- The lines of a file, none if there is no such file or it cannot be
opened. -/
def linesOfFile (files : Files) (name : String) : Except RenderFault (List String) :=
  match files.locate? (Path.tidy name) with
  | some (.file bytes) =>
    match Text.readText? bytes with
    | some s => .ok (Text.splitLines s)
    | none => .error .notText
  | _ => .ok []

/-- **The lines of a source**, with the renderer that knows them from then
on. -/
def lookup (r : Renderer) (files : Files) (name : String) :
    Except RenderFault (List String × Renderer) :=
  match r.known.lookup name with
  | some lines => .ok (lines, r)
  | none => (linesOfFile files name).map fun lines =>
    (lines, { r with known := r.known ++ [(name, lines)] })

/-- The line with a number, counted from one. -/
def lineAt? (lines : List String) (n : Int) : Option String :=
  if n < 1 then none else lines[n.toNat - 1]?

/-- Bold red, for the error and what marks it. -/
def errorStyle : Text.Style := ⟨"1;31"⟩

/-- Bold, for the message. -/
def messageStyle : Text.Style := ⟨"1"⟩

/-- Bold blue, for the frame around source lines. -/
def frameStyle : Text.Style := ⟨"1;34"⟩

/-- The first line: severity and code, and the message. -/
def headerRow (color : Bool) (d : Diagnostic) : String :=
  paint color errorStyle (d.severity ++ "[" ++ d.code ++ "]")
    ++ paint color messageStyle (": " ++ d.message)

/-- The row that names the place. -/
def placeRow (color : Bool) (l : Location) : String :=
  "  " ++ paint color frameStyle "-->" ++ " " ++ l.text

/-- The frame of a row without a line number. -/
def bareFrame (color : Bool) : String := "  " ++ paint color frameStyle "   |"

/-- A number, right-aligned in four columns. -/
def gutter (n : Int) : String :=
  let digits := toString n
  String.ofList (List.replicate (4 - digits.length) ' ') ++ digits

/-- The row of a source line. -/
def sourceRow (color : Bool) (n : Int) (line : String) : String :=
  "  " ++ paint color frameStyle (gutter n ++ " |") ++ " " ++ line

/-- The numbers of columns that can be counted are below this, and not
below its negative. -/
def countLimit : Int := Nat.pow 2 63

/-- Every text has fewer characters than this: the bytes of a text can be
counted, together with those that stand before its characters. -/
def textLimit : Int := countLimit - 49

/-- A character a number of times; a negative number counts as none. -/
def stretch (c : Char) (n : Int) : Except RenderFault String :=
  if n < -countLimit || countLimit ≤ n then .error .uncountable
  else if textLimit ≤ n then .error .tooWide
  else .ok (String.ofList (List.replicate n.toNat c))

/-- The number of carets under a place within one line; there is always
one. -/
def caretCount (l : Location) : Int := max 1 (l.stop.column - l.start.column + 1)

/-- The row of carets under a place within one line. -/
def caretRow (color : Bool) (l : Location) : Except RenderFault String := do
  let padding ← stretch ' ' (l.start.column - 1)
  let carets ← stretch '^' (caretCount l)
  return bareFrame color ++ " " ++ padding ++ paint color errorStyle carets

/-- The row of what is said about a place. -/
def messageRow (color : Bool) (message : String) : String :=
  bareFrame color ++ "   " ++ paint color errorStyle message

/-- The rows of a label, given its source line if there is one. -/
def labelRows (color : Bool) (line : Option String) (l : DiagnosticLabel) :
    Except RenderFault (List String) := do
  let carets ← if l.location.start.line == l.location.stop.line then
      (caretRow color l.location).map fun row => [row]
    else .ok []
  return [placeRow color l.location, bareFrame color]
    ++ (line.toList.map fun line => sourceRow color l.location.start.line line)
    ++ carets
    ++ (if l.message.isEmpty then [] else [messageRow color l.message])

/-- The row of a remark. -/
def noteRow (color : Bool) (note : String) : String :=
  "  " ++ paint color frameStyle "=" ++ " note: " ++ note

/-- The rows of labels one after the other, with the renderer afterwards. -/
def labelsRows (files : Files) : Renderer → List DiagnosticLabel →
    Except RenderFault (List String) × Renderer
  | r, [] => (.ok [], r)
  | r, l :: rest =>
    match r.lookup files l.location.file with
    | .error e => (.error e, r)
    | .ok (lines, r) =>
      match labelRows r.color (lineAt? lines l.location.start.line) l with
      | .error e => (.error e, r)
      | .ok rows =>
        let (more, r) := labelsRows files r rest
        (more.map (rows ++ ·), r)

/-- **Renders a diagnostic**, with the renderer afterwards. -/
def render (r : Renderer) (files : Files) (d : Diagnostic) :
    Except RenderFault String × Renderer :=
  match labelsRows files r d.labels with
  | (.ok rows, r) =>
    (.ok ("\n".intercalate
      (headerRow r.color d :: rows ++ d.notes.map (noteRow r.color))), r)
  | (.error e, r) => (.error e, r)

end Renderer

end ParseKit
