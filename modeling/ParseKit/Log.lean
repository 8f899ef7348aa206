import ParseKit.Text.Quoted

/-!
# Records of what was done

Lexing, parsing and visiting can be followed through records. Each belongs
to one of three logs and has a text.
-/

namespace ParseKit

/-- **Something worth a record.** -/
inductive Record where
  /-- The lexing of a source begins. -/
  | lexing (filename : String) (characters patterns : Nat)
  /-- No pattern matches a character. -/
  | noMatch (char : String) (line column : Int)
  /-- A parsing unit has moved the cursor. -/
  | committed (name : String) (start stop : Nat)
  /-- A handler takes the place of another. -/
  | replaced (kind : Int)
  deriving DecidableEq, Repr, Inhabited

namespace Record

/-- The log that a record belongs to. -/
def log : Record → String
  | .lexing .. | .noMatch .. => "descent.lexer"
  | .committed .. => "descent.parser"
  | .replaced _ => "descent.visitor"

/-- The text of a record. -/
def message : Record → String
  | .lexing filename characters patterns =>
    "lexing " ++ filename ++ ": " ++ toString characters ++ " chars, " ++ toString patterns
      ++ " patterns"
  | .noMatch char line column =>
    "no pattern matches " ++ Text.quote char ++ " at " ++ toString line ++ ":" ++ toString column
  | .committed name start stop =>
    name ++ " committed " ++ toString start ++ " -> " ++ toString stop
  | .replaced kind => "replacing handler for kind " ++ toString kind

/-- A record as a line. -/
def text (r : Record) : String := r.log ++ ": " ++ r.message

end Record

end ParseKit
