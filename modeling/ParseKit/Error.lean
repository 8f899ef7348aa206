import ParseKit.Data.Value
import ParseKit.Regex.Fault
import ParseKit.Toml.Fault
import ParseKit.Token

/-!
# Errors

The errors of the toolkit, each by its cause: a malformed grammar, input
that no pattern matches, a token that is not of a required kind, and what
can go wrong when a tree is visited. `Error` is any of them; it has a code
and a message.

Messages are for kinds that can be written, those of at most
`Numeral.digitLimit` digits (`Value.isShowableInt`). The limit is followed
where the values of a document are quoted or listed, because documents can
exceed it; kinds in errors and in the heads of nodes are written whatever
their length.
-/

namespace ParseKit

/-! ## Grammars -/

/-- What a pattern over bytes or text can be called. -/
inductive PatternSort where
  /-- A pattern over text. -/
  | text
  /-- A pattern over bytes. -/
  | bytes
  deriving DecidableEq, Repr, Inhabited

/-- **What can be wrong with a grammar.** -/
inductive GrammarFault where
  /-- A literal without a character. -/
  | emptyLiteral
  /-- An end of a range is no single character. -/
  | wideEndpoint
  /-- A range with its ends the wrong way round. -/
  | emptyRange (low high : Value)
  /-- A compiled pattern of the other sort. -/
  | wrongSort (wanted : PatternSort)
  /-- A malformed regular expression, with its characters. -/
  | badRegex (complaint : Regex.Complaint) (bytes : Bool) (pattern : List Char) (pos : Option Nat)
  /-- An entry without a label. -/
  | missingLabel
  /-- A kind that is no natural number. -/
  | badKind (v : Value)
  /-- An entry with no matcher or with several. -/
  | matcherCount
  /-- A range that is no pair. -/
  | badRange
  /-- A flag that no regular expression has. -/
  | unknownFlag (v : Value)
  /-- A label that no entry has. -/
  | unknownLabel (v : Value)
  /-- A malformed document. -/
  | badDocument (complaint : Toml.Complaint) (place : Toml.Place)
  /-- Anything else. -/
  | other (message : String)
  deriving DecidableEq, Repr, Inhabited

/-- The keys of an entry that name a matcher. -/
def matcherKeys : List String := ["literal", "range", "regex", "bytes"]

/-- The wording of what is wrong with a grammar. -/
def GrammarFault.text : GrammarFault → String
  | .emptyLiteral => "literal must not be empty"
  | .wideEndpoint => "range endpoints must be single characters"
  | .emptyRange low high => "empty range " ++ low.shown ++ ".." ++ high.shown
  | .wrongSort .text => "expected a str pattern"
  | .wrongSort .bytes => "expected a bytes pattern"
  | .badRegex complaint bytes pattern pos =>
    let text := if bytes then Text.escapeNonAscii complaint.text else complaint.text
    "invalid regex: " ++ Regex.placed text pattern pos
  | .missingLabel => "missing label"
  | .badKind v => "kind must be a non-negative integer, got " ++ v.shown
  | .matcherCount => "expected exactly one of " ++ commaSeparated matcherKeys
  | .badRange => "range must be a [start, end] pair"
  | .unknownFlag v => "unknown regex flag " ++ v.shown
  | .unknownLabel v => "unknown token label " ++ v.shown
  | .badDocument complaint place => complaint.text ++ " (at " ++ place.text ++ ")"
  | .other message => message

/-- **A malformed pattern or grammar**, with the entry it is found in. -/
structure GrammarError where
  /-- What is wrong. -/
  fault : GrammarFault
  /-- Where it is found. -/
  entry : Option String := none
  deriving DecidableEq, Repr, Inhabited

/-- The message, after the entry if there is one with a name. -/
def GrammarError.message (e : GrammarError) : String :=
  match e.entry with
  | some entry => if entry.isEmpty then e.fault.text else entry ++ ": " ++ e.fault.text
  | none => e.fault.text

/-! ## Sources and tokens -/

/-- The name of a source that has none. -/
def unnamedSource : String := "<input>"

/-- **No pattern matches at a position.** -/
structure LexError where
  /-- The character there. -/
  char : String
  /-- The line. -/
  line : Int
  /-- The column. -/
  column : Int
  /-- The name of the source. -/
  filename : String := unnamedSource
  deriving DecidableEq, Repr, Inhabited

/-- The message: the character and where it stands. -/
def LexError.message (e : LexError) : String :=
  "invalid character " ++ Text.quote e.char ++ " at line " ++ toString e.line ++ ", column "
    ++ toString e.column

/-- **Why lexing ends before the end of a source.** -/
inductive LexStop where
  /-- No pattern matches. -/
  | error (e : LexError)
  /-- A pattern is reached that cannot be matched. -/
  | unmatchable
  /-- A pattern matches with tangled groups. -/
  | tangled
  /-- A pattern matches without taking a character, and would do so again
  and again. -/
  | endless
  deriving DecidableEq, Repr, Inhabited

/-- **A token is not of a required kind**, or is missing. -/
structure ParseError where
  /-- The kinds that would do, in increasing order. -/
  expected : List Int
  /-- The kind that was found; none at the end of the input. -/
  found : Option Int
  /-- The token that was found. -/
  token : Option Token := none
  /-- The name of the source. -/
  filename : String := unnamedSource
  deriving DecidableEq, Repr, Inhabited

namespace ParseError

/-- The error for a set of kinds, which are such as can be written. -/
def ofKinds (kinds : Kinds) (found : Option Int) (token : Option Token)
    (filename : String) : ParseError :=
  ⟨sortedKinds kinds, found, token, filename⟩

/-- The message: what would do and what was found. -/
def message (e : ParseError) : String :=
  "expected " ++ kindsText e.expected ++ " but found " ++ (match e.found with
    | some kind => toString kind
    | none => "end of input")

end ParseError

/-! ## Trees -/

/-- **No handler is registered for the kind of a node.** -/
structure VisitError where
  /-- The kind. -/
  kind : Int
  /-- The label of the node. -/
  label : String
  deriving DecidableEq, Repr, Inhabited

/-- A label with a kind in parentheses, if the kind can be written. -/
def labelled (label : String) (kind : Int) : String := label ++ "(" ++ toString kind ++ ")"

/-- The message: label and kind of the node. -/
def VisitError.message (e : VisitError) : String :=
  "no visitor registered for `" ++ labelled e.label e.kind ++ "`"

/-- **A node or a result has no value** and was asked for one. -/
structure NodeValueError where
  /-- The label of the node, or the variant of the result. -/
  label : String
  deriving DecidableEq, Repr, Inhabited

/-- The message: the label. -/
def NodeValueError.message (e : NodeValueError) : String := "`" ++ e.label ++ "` has no value"

/-- **Why a result is of the wrong variant.** -/
inductive ShapeFault where
  /-- It has no items. -/
  | notCompound
  /-- It is no result at all, but was returned by the handler of a node. -/
  | notResult (label : String) (kind : Int)
  /-- Anything else. -/
  | other (message : String)
  deriving DecidableEq, Repr, Inhabited

/-- **A result is of the wrong variant** for what is asked of it. -/
structure ResultShapeError where
  /-- The variant. -/
  variant : String
  /-- What is wrong with it. -/
  fault : ShapeFault := .notCompound
  deriving DecidableEq, Repr, Inhabited

/-- The message: the variant and what is wrong with it. -/
def ResultShapeError.message (e : ResultShapeError) : String :=
  e.variant ++ " result " ++ (match e.fault with
    | .notCompound => "is not compound"
    | .notResult label kind =>
      "returned by the `" ++ labelled label kind ++ "` handler is not a visitor result"
    | .other message => message)

/-! ## Any error -/

/-- **An error of the toolkit.** -/
inductive Error where
  /-- An error without a cause of its own. -/
  | plain (message : String)
  /-- A malformed pattern or grammar. -/
  | grammar (e : GrammarError)
  /-- No pattern matches. -/
  | lex (e : LexError)
  /-- A token is not of a required kind. -/
  | parse (e : ParseError)
  /-- No handler for a node. -/
  | visit (e : VisitError)
  /-- No value. -/
  | nodeValue (e : NodeValueError)
  /-- A result of the wrong variant. -/
  | resultShape (e : ResultShapeError)
  deriving DecidableEq, Repr, Inhabited

namespace Error

/-- The code of an error. -/
def code : Error → String
  | .plain _ => "E000"
  | .grammar _ => "E010"
  | .lex _ => "E100"
  | .parse _ => "E200"
  | .visit _ => "E300"
  | .nodeValue _ => "E301"
  | .resultShape _ => "E302"

/-- The message of an error. -/
def message : Error → String
  | .plain message => message
  | .grammar e => e.message
  | .lex e => e.message
  | .parse e => e.message
  | .visit e => e.message
  | .nodeValue e => e.message
  | .resultShape e => e.message

/-- Whether an error is about a value that was handed in. -/
def isAboutValue : Error → Bool
  | .grammar _ | .nodeValue _ => true
  | _ => false

end Error

end ParseKit
