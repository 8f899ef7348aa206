import ParseKit.Command.Help
import ParseKit.Files
import ParseKit.Text.Quoted
import ParseKit.Text.Similarity

/-!
# The command line

The words of a command line are options, a command, and its arguments.
Options that come before the command belong to the program. After the
command, options and arguments may be mixed; two dashes by themselves end
the options.

All words are read before any of them is acted on. Then help and version
are looked for, then the arguments are checked in order, and what is left
over comes last.
-/

namespace ParseKit.Command

open Text (quote)

/-- **What is wrong with a command line.** -/
inductive UsageFault where
  /-- There is no such option, but perhaps similar ones. -/
  | noSuchOption (name : String) (similar : List String)
  /-- An option was given a value and takes none. -/
  | takesNoValue (name : String)
  /-- There is no such command, but perhaps similar ones. -/
  | noSuchCommand (name : String) (similar : List String)
  /-- There is no command. -/
  | missingCommand
  /-- An argument is missing. -/
  | missingArgument (p : Parameter)
  /-- There are too many arguments. -/
  | extraArguments (words : List String)
  /-- An argument leads nowhere. -/
  | notThere (p : Parameter) (word : String)
  /-- An argument leads to a directory and must not. -/
  | isDirectory (p : Parameter) (word : String)
  deriving DecidableEq, Repr, Inhabited

/-- The wording of what is wrong with an argument. -/
def argumentMessage (p : Parameter) (word what : String) : String :=
  "Invalid value for '" ++ p.text ++ "': " ++ p.wanted ++ " " ++ quote word ++ " " ++ what

/-- What is said of similar words. -/
def suggestion : List String → String
  | [] => ""
  | [word] => " Did you mean " ++ quote word ++ "?"
  | words => " (Did you mean one of: " ++ ", ".intercalate (words.map quote) ++ "?)"

/-- The wording of what is wrong with a command line. -/
def UsageFault.message : UsageFault → String
  | .noSuchOption name similar => "No such option " ++ quote name ++ "." ++ suggestion similar
  | .takesNoValue name => "Option " ++ quote name ++ " does not take a value."
  | .noSuchCommand name similar => "No such command " ++ quote name ++ "." ++ suggestion similar
  | .missingCommand => "Missing command."
  | .missingArgument p => "Missing argument '" ++ p.text ++ "'."
  | .extraArguments words =>
    "Got unexpected extra " ++ (if words.length == 1 then "argument" else "arguments")
      ++ " (" ++ " ".intercalate words ++ ")"
  | .notThere p word => argumentMessage p word "does not exist."
  | .isDirectory p word => argumentMessage p word "is a directory."

/-- Whether a reminder of the usage goes before the message. -/
def UsageFault.remindsOfUsage : UsageFault → Bool
  | .takesNoValue _ => false
  | _ => true

/-! ## Words -/

/-- **The words of a scope**, sorted: what the options ask for, in order,
and the other words. -/
structure Words where
  /-- What the options ask for. -/
  switches : List Switch
  /-- The other words. -/
  rest : List String
  deriving DecidableEq, Repr, Inhabited

/-- Whether a word is an option: a dash and something after it. -/
def isOption (word : String) : Bool :=
  word.toList.head? == some '-' && 1 < word.length

/-- What letters after one dash ask for. -/
def readLetters (s : Scope) : List Char → Except UsageFault (List Switch)
  | [] => .ok []
  | c :: rest =>
    match s.shortOptions.lookup c with
    | some switch => (readLetters s rest).map fun more => switch :: more
    | none => .error (.noSuchOption (.ofList ['-', c]) [])

/-- The name and the value of an option with an equals sign. -/
def splitValue (word : List Char) : List Char × Option (List Char) :=
  match word.dropWhile (· != '=') with
  | _ :: value => (word.takeWhile (· != '='), some value)
  | [] => (word, none)

/-- What an option asks for. -/
def readOption (s : Scope) (word : String) : Except UsageFault (List Switch) :=
  let (name, value) := splitValue word.toList
  let name := String.ofList name
  match s.longOptions.lookup name with
  | some switch => if value.isSome then .error (.takesNoValue name) else .ok [switch]
  | none =>
    match word.toList with
    | '-' :: '-' :: _ =>
      .error (.noSuchOption name (Text.closest name (s.longOptions.map Prod.fst)))
    | _ => readLetters s (word.toList.drop 1)

/-- **Reads the words of a scope.** Where options and arguments are not
mixed, the first other word ends the options. -/
def readWords (s : Scope) (mixed : Bool) : List String → Except UsageFault Words
  | [] => .ok ⟨[], []⟩
  | word :: rest =>
    if word == "--" then .ok ⟨[], rest⟩
    else if isOption word then
      match readOption s word with
      | .error e => .error e
      | .ok switches =>
        (readWords s mixed rest).map fun w => { w with switches := switches ++ w.switches }
    else if mixed then (readWords s mixed rest).map fun w => { w with rest := word :: w.rest }
    else .ok ⟨[], word :: rest⟩

/-- Whether a switch is acted on before all else. -/
def isEager : Switch → Bool
  | .help | .version => true
  | _ => false

/-! ## Calls -/

/-- **What a command is called with.** -/
structure Call where
  /-- The command. -/
  name : Name
  /-- The arguments. -/
  arguments : List (Parameter × String)
  /-- Whether tokens are left out. -/
  skip : Bool
  /-- Whether the tree is asked for. -/
  tree : Bool
  /-- Whether records are asked for. -/
  verbose : Bool
  deriving DecidableEq, Repr, Inhabited

/-- The value of an argument. -/
def Call.argument (c : Call) (p : Parameter) : String := (c.arguments.lookup p).getD ""

/-- **What a command line asks for.** -/
inductive Request where
  /-- The help text of a scope. -/
  | help (s : Scope)
  /-- The help text of the program, as nothing was asked for. -/
  | noWords
  /-- The version. -/
  | version
  /-- A command. -/
  | call (c : Call)
  /-- Nothing that makes sense in a scope. -/
  | refused (s : Scope) (f : UsageFault)
  /-- A look at a path that no file can have. -/
  | unlookable (f : PathFault)
  deriving Inhabited

/-- What the first eager switch asks for. -/
def eagerRequest? (s : Scope) (switches : List Switch) : Option Request :=
  (switches.find? isEager).map fun
    | .version => .version
    | _ => .help s

/-- Whether the last of the switches for it asks to leave tokens out. -/
def skips (switches : List Switch) : Bool :=
  switches.foldl (fun on s => match s with
    | .skip b => b
    | _ => on) false

/-- Checks that an argument leads to what it must lead to; otherwise there
is a request to make of that. -/
def checkArgument (files : Files) (s : Scope) (p : Parameter) (word : String) :
    Except Request Unit :=
  if Path.hasNull word then .error (.unlookable .nullCharacter)
  else match files.locate? word with
    | none => .error (.refused s (.notThere p word))
    | some .directory =>
      if p == .file then .error (.refused s (.isDirectory p word)) else .ok ()
    | some (.file _) => .ok ()

/-- The arguments that words give, with the words that are left over. -/
def readArguments (files : Files) (s : Scope) : List Parameter → List String →
    Except Request (List (Parameter × String) × List String)
  | [], words => .ok ([], words)
  | p :: _, [] => .error (.refused s (.missingArgument p))
  | p :: rest, word :: words =>
    match checkArgument files s p word with
    | .error e => .error e
    | .ok () => (readArguments files s rest words).map fun r => ((p, word) :: r.1, r.2)

/-- The request of the words after a command. -/
def commandRequest (files : Files) (verbose : Bool) (n : Name) (words : List String) : Request :=
  let scope := Scope.command n
  match readWords scope true words with
  | .error f => .refused scope f
  | .ok w =>
    match eagerRequest? scope w.switches with
    | some r => r
    | none =>
      match readArguments files scope n.parameters w.rest with
      | .error r => r
      | .ok (arguments, []) =>
        .call ⟨n, arguments, skips w.switches, w.switches.contains .tree, verbose⟩
      | .ok (_, extra) => .refused scope (.extraArguments extra)

/-- The request of a word that is no command, with the words after it. It
may be an option that two dashes have kept from being read as one; then it
is read as one. -/
def unknownCommand (word : String) (rest : List String) : Request :=
  match readWords .program false (word :: rest) with
  | .error f => .refused .program f
  | .ok w =>
    (eagerRequest? .program w.switches).getD
      (.refused .program (.noSuchCommand word (Text.closest word (Name.all.map Name.text))))

/-- **What a command line asks for.** -/
def request (files : Files) (words : List String) : Request :=
  if words.isEmpty then .noWords
  else match readWords .program false words with
    | .error f => .refused .program f
    | .ok w =>
      match eagerRequest? .program w.switches with
      | some r => r
      | none =>
        match w.rest with
        | [] => .refused .program .missingCommand
        | word :: rest =>
          match Name.ofText? word with
          | some n => commandRequest files (w.switches.contains .verbose) n rest
          | none => unknownCommand word rest

end ParseKit.Command
