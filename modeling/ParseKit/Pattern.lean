import ParseKit.Error
import ParseKit.Text.Encoding
import ParseKit.Regex.Reader
import ParseKit.Regex.Match

/-!
# Token patterns

A pattern recognises tokens of one kind. It has a label, the kind, and a
matcher: a literal text, a range of characters of which a run is taken, or
a regular expression over the characters or over the bytes of the source.

`Pattern.matchLength` is the number of characters that a pattern matches
at a position. Matching nothing is not matching, and a byte expression
that ends inside a character does not match. An expression over text that
looks behind possessively may end before it begins; the number is negative
then. Nothing is known of a match whose groups are tangled.
-/

namespace ParseKit

/-! ## Compiled expressions -/

/-- **A compiled regular expression**, with what it was compiled from. -/
inductive Compiled where
  /-- An expression over text. -/
  | text (source : String) (regex : Regex)
  /-- An expression over bytes. -/
  | bytes (source : ByteArray) (regex : Regex)
  deriving Inhabited

/-- The characters with the codes of bytes. -/
def byteChars (bytes : ByteArray) : List Char :=
  bytes.toList.map fun b => Char.ofNat b.toNat

namespace Compiled

/-- Compiles an expression over text. -/
def ofText (source : String) (flags : Regex.Flags) : Except Regex.Fault Compiled :=
  (Regex.compile .text flags source.toList).map (.text source)

/-- Compiles an expression over bytes. -/
def ofBytes (source : ByteArray) (flags : Regex.Flags) : Except Regex.Fault Compiled :=
  (Regex.compile .bytes flags (byteChars source)).map (.bytes source)

end Compiled

/-! ## Patterns -/

/-- Bytes are compared one by one, whatever other instances there are. -/
instance decidableEqBytes : DecidableEq ByteArray := fun a b =>
  decidable_of_iff (a.data = b.data) ByteArray.ext_iff.symm

/-- **How a pattern recognises a token.** -/
inductive Matcher where
  /-- A given text. -/
  | literal (text : String)
  /-- Characters from one to another, as many as follow. -/
  | range (low high : Char)
  /-- An expression over characters. -/
  | text (source : String) (regex : Regex)
  /-- An expression over bytes. -/
  | bytes (source : ByteArray) (regex : Regex)
  deriving DecidableEq, Inhabited

/-- **A token pattern.** -/
structure Pattern where
  /-- The label of its tokens. -/
  label : String
  /-- The kind of its tokens. -/
  kind : Int
  /-- How it recognises them. -/
  matcher : Matcher
  deriving DecidableEq, Inhabited

/-- Why a pattern cannot be built. -/
inductive PatternRefusal where
  /-- It is malformed. -/
  | grammar (e : GrammarError)
  /-- Its expression is refused for what it asks. -/
  | refused (r : Regex.Refusal)
  deriving Inhabited

namespace PatternRefusal

/-- The refusal of a pattern with a label, from the fault of its expression. -/
def ofFault (label : String) (bytes : Bool) (pattern : List Char) : Regex.Fault → PatternRefusal
  | .malformed complaint pos => .grammar ⟨.badRegex complaint bytes pattern pos, some label⟩
  | .refused r => .refused r

end PatternRefusal

namespace Pattern

/-- A pattern for a literal text, which must not be empty. -/
def literal (label : String) (kind : Int) (text : String) : Except GrammarError Pattern :=
  if text.isEmpty then .error ⟨.emptyLiteral, some label⟩
  else .ok ⟨label, kind, .literal text⟩

/-- A pattern for runs of characters from one to another. -/
def charRange (label : String) (kind : Int) (low high : String) : Except GrammarError Pattern :=
  match low.toList, high.toList with
  | [a], [b] =>
    if b < a then .error ⟨.emptyRange (.text low) (.text high), some label⟩
    else .ok ⟨label, kind, .range a b⟩
  | _, _ => .error ⟨.wideEndpoint, some label⟩

/-- A pattern for a compiled expression over text. -/
def ofCompiledText (label : String) (kind : Int) : Compiled → Except GrammarError Pattern
  | .text source regex => .ok ⟨label, kind, .text source regex⟩
  | .bytes .. => .error ⟨.wrongSort .text, some label⟩

/-- A pattern for a compiled expression over bytes. -/
def ofCompiledBytes (label : String) (kind : Int) : Compiled → Except GrammarError Pattern
  | .bytes source regex => .ok ⟨label, kind, .bytes source regex⟩
  | .text .. => .error ⟨.wrongSort .bytes, some label⟩

/-- A pattern for an expression over text. -/
def regex (label : String) (kind : Int) (source : String) (flags : Regex.Flags := .none) :
    Except PatternRefusal Pattern :=
  match Regex.compile .text flags source.toList with
  | .ok r => .ok ⟨label, kind, .text source r⟩
  | .error f => .error (.ofFault label false source.toList f)

/-- A pattern for an expression over bytes. -/
def byteRegex (label : String) (kind : Int) (source : ByteArray)
    (flags : Regex.Flags := .none) : Except PatternRefusal Pattern :=
  match Regex.compile .bytes flags (byteChars source) with
  | .ok r => .ok ⟨label, kind, .bytes source r⟩
  | .error f => .error (.ofFault label true (byteChars source) f)

/-! ## Matching -/

/-- Whether the characters at a position are the given ones. -/
def startsAt (chars : Array Char) (pos : Nat) : List Char → Bool
  | [] => true
  | c :: rest => chars[pos]? == some c && startsAt chars (pos + 1) rest

/-- The number of characters from a position on that lie between two, at
most `fuel`. -/
def rangeLength (chars : Array Char) (low high : Char) (pos : Nat) : Nat → Nat
  | 0 => 0
  | fuel + 1 =>
    match chars[pos]? with
    | some c => if low ≤ c && c ≤ high then rangeLength chars low high (pos + 1) fuel + 1 else 0
    | none => 0

/-- **The bytes of a source from a position on**: the whole of them, and
where the position is. -/
structure ByteView where
  /-- The bytes. -/
  bytes : ByteArray
  /-- The position. -/
  pos : Nat

/-- The bytes of the characters from a position on, by themselves. -/
def ByteView.ofRest (chars : Array Char) (pos : Nat) : ByteView :=
  ⟨Text.encode (chars.toList.drop pos), 0⟩

/-- The number of characters that an expression over bytes matches; zero if
it ends inside a character. -/
def bytesLength (r : Regex) (v : ByteView) : Except Regex.Tangled Nat :=
  (r.matchEnd (.ofBytes v.bytes) v.pos).map fun
    | some stop =>
      match Text.decode? (v.bytes.extract v.pos stop) with
      | some s => s.length
      | none => 0
    | none => 0

/-- The number of characters that a matcher takes at a position, zero if it
does not match. An expression over bytes reads the given view; without one
it reads the characters from the position on, and so cannot see what
stands before. -/
def takes (m : Matcher) (chars : Array Char) (pos : Nat) (view : Option ByteView) :
    Except Regex.Tangled Int :=
  match m with
  | .literal text => .ok (if startsAt chars pos text.toList then text.length else 0)
  | .range low high => .ok (rangeLength chars low high pos (chars.size - pos))
  | .text _ r =>
    (r.matchEnd (.ofChars chars) pos).map fun
      | some stop => (stop : Int) - pos
      | none => 0
  | .bytes _ r => (bytesLength r (view.getD (.ofRest chars pos))).map Int.ofNat

/-- **The number of characters that a pattern matches at a position**, which
is not zero. At the end nothing matches. -/
def matchLength (p : Pattern) (chars : Array Char) (pos : Nat)
    (view : Option ByteView := none) : Except Regex.Tangled (Option Int) :=
  if chars.size ≤ pos then .ok none
  else (takes p.matcher chars pos view).map fun n => if n == 0 then none else some n

/-! ## Listing -/

/-- The name of the kind of a matcher. -/
def matcherName : Matcher → String
  | .literal _ => "literal"
  | .range .. => "range"
  | .text .. => "regex"
  | .bytes .. => "bytes"

/-- A pattern's matcher as it is listed. -/
def describe (p : Pattern) : String :=
  match p.matcher with
  | .literal text => "lit " ++ Text.quote text
  | .range low high =>
    "range " ++ Text.quote (.singleton low) ++ ".." ++ Text.quote (.singleton high)
  | .text source _ => "regex /" ++ source ++ "/"
  | .bytes source _ => "bytes /" ++ Text.decodeLossy source ++ "/"

end Pattern

end ParseKit
