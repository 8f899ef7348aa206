import ParseKit.Lexer

/-!
# The words of pseudo-assembly

Pseudo-assembly is a small language of labels and instructions. This
module has its tokens. The patterns are tried in order: a mnemonic comes
before a name, and so a name that only begins with a mnemonic is a name,
because the mnemonic would not end at a word boundary.
-/

namespace ParseKit.Pasm

/-- **The kinds of tokens.** -/
inductive Lexeme where
  /-- White space. -/
  | whitespace
  /-- A mnemonic. -/
  | instruction
  /-- A name. -/
  | ident
  /-- A colon. -/
  | colon
  /-- A comma. -/
  | comma
  /-- A percent sign. -/
  | percent
  /-- A number. -/
  | number
  /-- A number sign. -/
  | hash
  /-- A comment. -/
  | comment
  deriving DecidableEq, Repr, Inhabited

namespace Lexeme

/-- The integer that stands for a kind. -/
def kind : Lexeme → Int
  | whitespace => 0
  | instruction => 1
  | ident => 2
  | colon => 3
  | comma => 4
  | percent => 5
  | number => 6
  | hash => 7
  | comment => 8

/-- The names of the kinds, in their order. -/
def table : KindTable :=
  .named ["WHITESPACE", "INSTRUCTION", "IDENT", "COLON", "COMMA", "PERCENT", "NUMBER", "HASH",
    "COMMENT"]

end Lexeme

/-- **The mnemonics.** -/
def mnemonics : List String := ["imm", "store", "load", "add", "sub", "mov", "jmp"]

/-! ## Regular expressions -/

section

open Regex

/-- A set of units, as they are. -/
def plainSet (items : List SetItem) : UnitTest := .set items false .exact .unicode

/-- White space of any script. -/
def spaceUnit : UnitTest := plainSet [.category .space false]

/-- A decimal digit of any script. -/
def digitUnit : UnitTest := plainSet [.category .digit false]

/-- A letter of ASCII or an underscore. -/
def nameStart : UnitTest := plainSet [.range 97 122, .range 65 90, .one 95]

/-- A letter or digit of ASCII or an underscore. -/
def namePart : UnitTest := plainSet [.range 97 122, .range 65 90, .range 48 57, .one 95]

/-- Anything but a line feed. -/
def notLineFeed : UnitTest := .one 10 true .exact

/-- A run of white space. -/
def whitespaceRegex : Regex := oneOrMore spaceUnit

/-- A semicolon and the rest of the line. -/
def commentRegex : Regex := .seq (ofChars [';']) (zeroOrMore notLineFeed)

/-- A mnemonic that ends at a word boundary. -/
def instructionRegex : Regex :=
  .seq (anyOf (mnemonics.map fun m => ofChars m.toList)) (.anchor (.boundary .unicode))

/-- A name. -/
def identRegex : Regex := .seq (.unit nameStart) (zeroOrMore namePart)

/-- Digits, and perhaps a point and more digits. -/
def numberRegex : Regex :=
  .seq (oneOrMore digitUnit)
    (.rep .greedy 0 (some 1) (.group 1 (.seq (ofChars ['.']) (oneOrMore digitUnit))))

end

/-! ## Patterns -/

/-- The pattern of a sign. -/
def signPattern (label : String) (l : Lexeme) (text : String) : Pattern :=
  ⟨label, l.kind, .literal text⟩

/-- The pattern of a regular expression, with the text that it is written
as. -/
def regexPattern (label : String) (l : Lexeme) (source : String) (r : Regex) : Pattern :=
  ⟨label, l.kind, .text source r⟩

/-- **The patterns of pseudo-assembly**, in the order in which they are
tried. -/
def patterns : List Pattern :=
  [ regexPattern "whitespace" .whitespace "\\s+" whitespaceRegex,
    regexPattern "comment" .comment ";[^\\n]*" commentRegex,
    signPattern "colon" .colon ":",
    signPattern "comma" .comma ",",
    signPattern "percent" .percent "%",
    signPattern "hash" .hash "#",
    regexPattern "instruction" .instruction
      ("(?:" ++ "|".intercalate mnemonics ++ ")\\b") instructionRegex,
    regexPattern "ident" .ident "[a-zA-Z_][a-zA-Z0-9_]*" identRegex,
    regexPattern "number" .number "\\d+(\\.\\d+)?" numberRegex ]

/-- The kinds of tokens that mean nothing. -/
def trivia : Kinds := [Lexeme.whitespace.kind, Lexeme.comment.kind]

end ParseKit.Pasm
