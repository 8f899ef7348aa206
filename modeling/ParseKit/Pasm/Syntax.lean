import ParseKit.Parsing.Move
import ParseKit.Pasm.Lexicon

/-!
# The grammar of pseudo-assembly

A program is a list of statements. A statement is an instruction, which is
a mnemonic with operands, or a label, which is a name with a colon. An
operand is a register, a constant or a name:

    program   := statement*
    statement := INSTRUCTION operand (COMMA operand)* | IDENT COLON
    operand   := PERCENT IDENT | HASH NUMBER | IDENT

White space and comments may stand between any two tokens, except within a
register or a constant.
-/

namespace ParseKit.Pasm

/-- **The kinds of nodes.** -/
inductive Construct where
  /-- A program. -/
  | program
  /-- A label. -/
  | label
  /-- An instruction. -/
  | instruction
  /-- A register. -/
  | register
  /-- A constant. -/
  | constant
  /-- A name. -/
  | ident
  deriving DecidableEq, Repr, Inhabited

namespace Construct

/-- The integer that stands for a kind. -/
def kind : Construct → Int
  | program => 0
  | label => 1
  | instruction => 2
  | register => 3
  | constant => 4
  | ident => 5

/-- The names of the kinds, in their order. -/
def table : KindTable :=
  .named ["PROGRAM", "LABEL", "INSTRUCTION", "REGISTER", "CONSTANT", "IDENT"]

/-- The label of the nodes of a kind. -/
def nodeLabel : Construct → String
  | program => "Program"
  | label => "Label"
  | instruction => "Instruction"
  | register => "Register"
  | constant => "Constant"
  | ident => "Ident"

/-- A node without children. -/
def leaf (c : Construct) (value : Option String) : Node := .leaf c.kind c.nodeLabel value

end Construct

/-! ## Units -/

/-- A token of one kind. -/
def requiredLexeme (l : Lexeme) (next : Token → Script) : Script := .required [l.kind] next

/-- A percent sign with a name right after it. -/
def registerUnit : Script :=
  requiredLexeme .percent fun _ => requiredLexeme .ident fun name =>
    .done (Construct.register.leaf (some name.text))

/-- A number sign with a number right after it. -/
def constantUnit : Script :=
  requiredLexeme .hash fun _ => requiredLexeme .number fun value =>
    .done (Construct.constant.leaf (some value.text))

/-- An operand. -/
def operandUnit : Script :=
  .isKind [Lexeme.percent.kind] fun
    | true => .parsed "Register" registerUnit .done
    | false => .isKind [Lexeme.hash.kind] fun
      | true => .parsed "Constant" constantUnit .done
      | false => requiredLexeme .ident fun name => .done (Construct.ident.leaf (some name.text))

/-- Adds an operand, and skips what means nothing after it. -/
def addOperand : Move := fun n next =>
  .parsed "Operand" operandUnit fun operand => .skipWhile trivia (next (n.addChild operand))

/-- Adds an operand after a comma. -/
def addFurtherOperand : Move := fun n next => .eaten fun _ => addOperand n next

/-- An instruction. -/
def instructionUnit : Script :=
  requiredLexeme .instruction fun mnemonic =>
    addOperand (Construct.instruction.leaf (some mnemonic.text)) fun n =>
      Move.bounded (Move.loop [Lexeme.comma.kind] addFurtherOperand) n .done

/-- A label. -/
def labelUnit : Script :=
  requiredLexeme .ident fun name => .skipWhile trivia (requiredLexeme .colon fun _ =>
    .done (Construct.label.leaf (some name.text)))

/-- A statement. -/
def statementUnit : Script :=
  .isKind [Lexeme.instruction.kind] fun
    | true => .parsed "Instruction" instructionUnit .done
    | false => .parsed "LabelDecl" labelUnit .done

/-- Adds a statement, and skips what means nothing after it. -/
def addStatement : Move := fun n next =>
  .parsed "Statement" statementUnit fun statement => .skipWhile trivia (next (n.addChild statement))

/-- A program. -/
def programUnit : Script :=
  .skipWhile trivia
    (Move.bounded (Move.untilEnd addStatement) (Construct.program.leaf none) .done)

/-! ## Parsing -/

/-- **The program of a list of tokens.** -/
def parseTokens (tokens : List Token) (filename : String := unnamedSource) : Parsed :=
  State.parse { tokens := tokens, skipKinds := trivia, filename := filename } "Program"
    programUnit

/-- **The program of a source**, with the records of reading it. -/
def parseRecorded (source : String) (filename : String := unnamedSource) :
    Except ParseFailure Node × List Record :=
  let (run, records) := (Lexer.onSource patterns source filename).readAll
  match run.result with
  | .error (.error e) => (.error (.error (.lex e)), records)
  | .error stop => (.error (.lexing stop), records)
  | .ok tokens =>
    let parsed := parseTokens tokens filename
    (parsed.result, records ++ parsed.records)

/-- **The program of a source.** -/
def parse (source : String) (filename : String := unnamedSource) : Except ParseFailure Node :=
  (parseRecorded source filename).1

end ParseKit.Pasm
