import ParseKit.Text.Encoding

/-!
# Places in a source

Lines and columns are counted from one, in characters; spans count bytes of
the UTF-8 form. Tools may hand in any numbers, so all of them are integers.
-/

namespace ParseKit

/-- **A line and a column.** -/
structure Position where
  /-- The line. -/
  line : Int
  /-- The column. -/
  column : Int
  deriving DecidableEq, Repr, Inhabited

/-- A position with a colon between its numbers. -/
def Position.text (p : Position) : String :=
  toString p.line ++ ":" ++ toString p.column

/-- **A range of bytes**, its end excluded. -/
structure Span where
  /-- The first byte. -/
  start : Int
  /-- The byte after the last. -/
  stop : Int
  deriving DecidableEq, Repr, Inhabited

/-- The number of bytes, unless the range is the wrong way round. -/
def Span.length? (s : Span) : Option Nat :=
  if s.stop < s.start then none else some (s.stop - s.start).toNat

/-- **Where a message points**: from one position of a file to another,
both included. -/
structure Location where
  /-- The name of the file. -/
  file : String
  /-- The first position. -/
  start : Position
  /-- The last position. -/
  stop : Position
  deriving DecidableEq, Repr, Inhabited

namespace Location

/-- The file and the first position. -/
def text (l : Location) : String := l.file ++ ":" ++ l.start.text

/-- **A stretch of one line**, of `width` columns; a stretch has at least
one. -/
def along (file : String) (line column : Int) (width : Int := 1) : Location :=
  ⟨file, ⟨line, column⟩, ⟨line, column + max 1 width - 1⟩⟩

end Location

end ParseKit
