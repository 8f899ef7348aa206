import ParseKit.Source
import ParseKit.Text.Quoted
import ParseKit.Kind

/-!
# Tokens

A token is a piece of a source with the kind and the label of the pattern
that recognised it, and with its place: the position of its first
character, the span of its bytes, and its offset in characters.
-/

namespace ParseKit

/-- **A token.** -/
structure Token where
  /-- The kind of the pattern that recognised it. -/
  kind : Int
  /-- The characters. -/
  text : String
  /-- The label of the pattern that recognised it. -/
  label : String
  /-- The line and column of the first character. -/
  position : Position
  /-- The bytes it covers. -/
  span : Span
  /-- The number of characters before it. -/
  offset : Nat := 0
  deriving DecidableEq, Repr, Inhabited

namespace Token

/-- A token that was not read from any source; its text is its label. -/
def synthetic (text : String) (kind : Int) : Token where
  kind := kind
  text := text
  label := text
  position := ⟨1, 1⟩
  span := ⟨0, Text.byteLength text.toList⟩

/-- The number of characters of a token. -/
def length (t : Token) : Nat := t.text.length

/-- **A token as a line of text**: label and kind, the quoted text, and the
position. Kinds are shown by their names in the given table. -/
def display (t : Token) (kinds : KindTable := .anonymous) : String :=
  t.label ++ "(" ++ kinds.display t.kind ++ ") " ++ Text.quote t.text ++ " @ " ++ t.position.text

end Token

end ParseKit
