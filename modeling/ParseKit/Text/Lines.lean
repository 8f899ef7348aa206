/-!
# Lines

Cutting a text at its line ends. A line end is one of ten characters, or a
carriage return with a line feed after it. A line end closes the line
before it, so that no empty line follows the last one.
-/

namespace ParseKit.Text

/-- The characters that end a line. -/
def isLineBreak (c : Char) : Bool :=
  let n := c.toNat
  (10 ≤ n && n ≤ 13) || (28 ≤ n && n ≤ 30) || n == 0x85 || n == 0x2028 || n == 0x2029

/-- **A line with what ends it**, which is empty for a last line that is
not closed. -/
structure Line where
  /-- The characters of the line. -/
  text : List Char
  /-- The characters that close it. -/
  ending : List Char
  deriving DecidableEq, Repr

/-- The line with its end. -/
def Line.whole (l : Line) : List Char := l.text ++ l.ending

/-- One more character in front of the first line. -/
def consLine (c : Char) : List Line → List Line
  | [] => [⟨[c], []⟩]
  | l :: rest => ⟨c :: l.text, l.ending⟩ :: rest

/-- **The lines of a text**, each with its end. -/
def linesOf : List Char → List Line
  | [] => []
  | '\r' :: '\n' :: rest => ⟨[], ['\r', '\n']⟩ :: linesOf rest
  | c :: rest => if isLineBreak c then ⟨[], [c]⟩ :: linesOf rest else consLine c (linesOf rest)

/-- The lines of a text without their ends. -/
def splitLines (s : String) : List String :=
  (linesOf s.toList).map fun l => String.ofList l.text

theorem whole_consLine (c : Char) (ls : List Line) :
    (consLine c ls).flatMap Line.whole = c :: ls.flatMap Line.whole := by
  cases ls <;> simp [consLine, Line.whole]

/-- Nothing is lost: the lines with their ends are the text. -/
theorem flatMap_whole_linesOf (s : List Char) : (linesOf s).flatMap Line.whole = s := by
  fun_induction linesOf s with
  | case1 => rfl
  | case2 rest ih => simp [Line.whole, ih]
  | case3 c rest _ _ ih => simp [Line.whole, ih]
  | case4 c rest _ _ ih => rw [whole_consLine, ih]

end ParseKit.Text
