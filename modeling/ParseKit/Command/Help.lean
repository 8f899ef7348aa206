/-!
# Commands and their help

The commands of the program, what they take, and the texts that explain
them.
-/

namespace ParseKit.Command

/-- The name of the program. -/
def programName : String := "descent"

/-- The version of the program. -/
def version : String := "0.1.0"

/-- **A command.** -/
inductive Name where
  /-- Prints the tokens of a file. -/
  | tokens
  /-- Lists the patterns of a grammar. -/
  | kinds
  /-- Prints a file in colours. -/
  | highlight
  /-- Reprints a program in pseudo-assembly. -/
  | pasm
  deriving DecidableEq, Repr, Inhabited

/-- **An argument of a command.** -/
inductive Parameter where
  /-- Where a grammar is, a file or a directory. -/
  | grammar
  /-- The file to read. -/
  | file
  deriving DecidableEq, Repr, Inhabited

namespace Name

/-- The word for a command. -/
def text : Name → String
  | tokens => "tokens"
  | kinds => "kinds"
  | highlight => "highlight"
  | pasm => "pasm"

/-- All commands, in the order in which they are listed. -/
def all : List Name := [highlight, kinds, pasm, tokens]

/-- The command that a word stands for. -/
def ofText? (s : String) : Option Name := all.find? fun n => n.text == s

/-- What a command does. -/
def about : Name → String
  | tokens => "Print the token stream of FILE."
  | kinds => "List the token patterns of GRAMMAR in match order."
  | highlight => "Print FILE highlighted for the terminal."
  | pasm => "Parse and reprint a pseudo-assembly FILE."

/-- The arguments of a command, in order. -/
def parameters : Name → List Parameter
  | tokens => [.grammar, .file]
  | kinds => [.grammar]
  | highlight => [.grammar, .file]
  | pasm => [.file]

end Name

namespace Parameter

/-- The word for an argument. -/
def text : Parameter → String
  | grammar => "GRAMMAR"
  | file => "FILE"

/-- The word for what an argument must lead to. -/
def wanted : Parameter → String
  | grammar => "Path"
  | file => "File"

end Parameter

/-- **Where options are read**: before the command, or after it. -/
inductive Scope where
  /-- Before the command. -/
  | program
  /-- After the command. -/
  | command (n : Name)
  deriving DecidableEq, Repr, Inhabited

/-- **What an option asks for.** -/
inductive Switch where
  /-- The help text. -/
  | help
  /-- The version. -/
  | version
  /-- Records on the error output. -/
  | verbose
  /-- Whether tokens are left out. -/
  | skip (on : Bool)
  /-- The tree instead of the text. -/
  | tree
  deriving DecidableEq, Repr, Inhabited

namespace Scope

/-- The words that call the program or a command. -/
def path : Scope → String
  | program => programName
  | command n => programName ++ " " ++ n.text

/-- The line that says how the program or a command is called. -/
def usage : Scope → String
  | program => "Usage: " ++ programName ++ " [OPTIONS] COMMAND [ARGS]..."
  | s@(command n) =>
    "Usage: " ++ s.path ++ " [OPTIONS] " ++ " ".intercalate (n.parameters.map Parameter.text)

/-- The options with long names. -/
def longOptions : Scope → List (String × Switch)
  | program => [("--version", .version), ("--verbose", .verbose), ("--help", .help)]
  | command .tokens => [("--skip", .skip true), ("--no-skip", .skip false), ("--help", .help)]
  | command .pasm => [("--tree", .tree), ("--help", .help)]
  | command _ => [("--help", .help)]

/-- The options with a letter. -/
def shortOptions : Scope → List (Char × Switch)
  | program => [('v', .verbose)]
  | command _ => []

/-- What the program or a command does. -/
def about : Scope → String
  | program => "Recursive-descent parsing toolkit."
  | command n => n.about

/-- How options are listed, with what they do. -/
def optionRows : Scope → List (String × String)
  | program => [("--version", "Show the version and exit."),
      ("-v, --verbose", "Log debug output to stderr."), helpRow]
  | command .tokens => [("--skip / --no-skip", "Hide the grammar's skip kinds."), helpRow]
  | command .pasm => [("--tree", "Print the parsed node tree instead."), helpRow]
  | command _ => [helpRow]
where
  /-- The row of the option for help. -/
  helpRow : String × String := ("--help", "Show this message and exit.")

end Scope

/-- **Rows of two columns**: the second begins two places after the longest
entry of the first. -/
def columns (rows : List (String × String)) : List String :=
  let width := rows.foldl (fun w r => max w r.1.length) 0
  rows.map fun r =>
    "  " ++ r.1 ++ String.ofList (List.replicate (width - r.1.length + 2) ' ') ++ r.2

/-- **The help text of the program or a command.** -/
def helpText (s : Scope) : String :=
  "\n".intercalate ([s.usage, "", "  " ++ s.about, "", "Options:"] ++ columns s.optionRows
    ++ (match s with
      | .program => ["", "Commands:"] ++ columns (Name.all.map fun n => (n.text, n.about))
      | .command _ => []))

/-- The line of the version. -/
def versionText : String := programName ++ ", version " ++ version

end ParseKit.Command
