import ParseKit.Pasm.Syntax
import ParseKit.Tree.Handler

/-!
# Printing pseudo-assembly

The printer is a visitor that writes a program in its normal form: a label
with its colon on a line of its own, an instruction on a line with four
spaces in front and its operands separated by commas. Constants are
written as the numbers that they are.
-/

namespace ParseKit.Pasm

/-- The text of an operand, with the number sign if it is a number. -/
def operandText (r : Result) : Except NodeValueError String :=
  match r with
  | .number _ => r.text.map fun s => "#" ++ s
  | _ => r.text

/-- The texts of operands. -/
def operandTexts : List Result → Except NodeValueError (List String)
  | [] => .ok []
  | r :: rest =>
    match operandText r with
    | .ok s => (operandTexts rest).map fun more => s :: more
    | .error e => .error e

/-- The line of a label. -/
def labelLine (name : String) : String := name ++ ":\n"

/-- The line of an instruction. -/
def instructionLine (mnemonic : String) (operands : List String) : String :=
  "    " ++ mnemonic ++ " " ++ ", ".intercalate operands ++ "\n"

/-- Writes the line of a label. -/
def printLabel : Handler := fun n => .value n fun name =>
  .emit (labelLine name) (.done (.tagged "label" (.string name)))

/-- Writes the line of an instruction, once its operands are known. -/
def printInstruction : Handler := fun n => .children n fun operands =>
  .orFail (operandTexts operands) (fun e => .error (.nodeValue e)) fun texts =>
    .value n fun mnemonic =>
      .emit (instructionLine mnemonic texts) (.done (.tagged mnemonic (.compound operands)))

/-- The name of a register with its percent sign. -/
def printRegister : Handler := fun n => .value n fun name => .done (.string ("%" ++ name))

/-- **The printer.** -/
def printer : Visitor where
  handlers :=
    [ (Construct.program.kind, Handler.children),
      (Construct.label.kind, printLabel),
      (Construct.instruction.kind, printInstruction),
      (Construct.register.kind, printRegister),
      (Construct.constant.kind, Handler.number),
      (Construct.ident.kind, Handler.value) ]

/-- **The normal form of a program.** -/
def render (tree : Node) : Except VisitFailure String :=
  match Visitor.visit tree printer with
  | (.ok _, v) => .ok v.scope
  | (.error f, _) => .error f

end ParseKit.Pasm
