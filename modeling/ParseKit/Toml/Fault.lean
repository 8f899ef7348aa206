import ParseKit.Text.Quoted
import ParseKit.Data.Calendar

/-!
# What can be wrong with a TOML document

`Complaint` lists the ways in which a document can be malformed, with the
wording of each, and `Fault` puts one at a position.
-/

namespace ParseKit.Toml

open ParseKit.Text

/-- A dotted key, part by part. -/
abbrev Key := List String

/-- **A key as messages quote it**: its quoted parts in parentheses, with a
comma after a part that is the only one. -/
def shownKey : Key → String
  | [part] => "(" ++ quote part ++ ",)"
  | parts => "(" ++ commaSeparated (parts.map quote) ++ ")"

/-- **A way in which a document is malformed.** -/
inductive Complaint where
  /-- No statement begins like this. -/
  | invalidStatement
  /-- A statement has something after it on its line. -/
  | afterStatement
  /-- A closing text is missing. -/
  | expected (text : String)
  /-- A character that a string must not hold. -/
  | illegal (c : Char)
  /-- A character that a comment or a literal string must not hold. -/
  | invalid (c : Char)
  /-- The header of a table in an array is not closed. -/
  | arrayHeader
  /-- The header of a table is not closed. -/
  | tableHeader
  /-- The equals sign is missing. -/
  | missingEquals
  /-- No part of a key begins like this. -/
  | invalidKey
  /-- A table is declared a second time. -/
  | declaredTwice (key : Key)
  /-- A value that is complete is added to. -/
  | immutable (key : Key)
  /-- A table that is declared elsewhere is opened by a dotted key. -/
  | redefined (key : Key)
  /-- A value is given a second time, or is no table and is used as one. -/
  | overwritten
  /-- An array is not closed. -/
  | unclosedArray
  /-- An inline table is not closed. -/
  | unclosedTable
  /-- A key occurs twice in an inline table. -/
  | duplicateKey (part : String)
  /-- No escape is written like this. -/
  | badEscape
  /-- A numeric escape is not hexadecimal. -/
  | badHex
  /-- A numeric escape is no character. -/
  | notScalar
  /-- A string is not closed. -/
  | unterminated
  /-- The calendar has no such date. -/
  | badDate
  /-- No value begins like this. -/
  | invalidValue
  deriving DecidableEq, Repr, Inhabited

/-- The wording of a complaint. -/
def Complaint.text : Complaint → String
  | .invalidStatement => "Invalid statement"
  | .afterStatement => "Expected newline or end of document after a statement"
  | .expected text => "Expected " ++ quote text
  | .illegal c => "Illegal character " ++ quote (.singleton c)
  | .invalid c => "Found invalid character " ++ quote (.singleton c)
  | .arrayHeader => "Expected ']]' at the end of an array declaration"
  | .tableHeader => "Expected ']' at the end of a table declaration"
  | .missingEquals => "Expected '=' after a key in a key/value pair"
  | .invalidKey => "Invalid initial character for a key part"
  | .declaredTwice key => "Cannot declare " ++ shownKey key ++ " twice"
  | .immutable key => "Cannot mutate immutable namespace " ++ shownKey key
  | .redefined key => "Cannot redefine namespace " ++ shownKey key
  | .overwritten => "Cannot overwrite a value"
  | .unclosedArray => "Unclosed array"
  | .unclosedTable => "Unclosed inline table"
  | .duplicateKey part => "Duplicate inline table key " ++ quote part
  | .badEscape => "Unescaped '\\' in a string"
  | .badHex => "Invalid hex value"
  | .notScalar => "Escaped character is not a Unicode scalar value"
  | .unterminated => "Unterminated string"
  | .badDate => "Invalid date or datetime"
  | .invalidValue => "Invalid value"

/-- **A place in a document.** -/
inductive Place where
  /-- A line and a column, both counted from one. -/
  | at (line column : Nat)
  /-- The end of the document. -/
  | endOfDocument
  deriving DecidableEq, Repr, Inhabited

/-- The place of a position in a document. -/
def Place.of (document : List Char) (pos : Nat) : Place :=
  if document.length ≤ pos then .endOfDocument
  else
    let before := document.take pos
    .at (before.count '\n' + 1) ((before.reverse.takeWhile (· != '\n')).length + 1)

/-- The wording of a place. -/
def Place.text : Place → String
  | .at line column => "line " ++ toString line ++ ", column " ++ toString column
  | .endOfDocument => "end of document"

/-- **Why a document is refused.** -/
inductive Fault where
  /-- The document is malformed at a place. -/
  | malformed (complaint : Complaint) (place : Place)
  /-- An integer has more digits than can be read. -/
  | longInteger
  deriving DecidableEq, Repr, Inhabited

end ParseKit.Toml
