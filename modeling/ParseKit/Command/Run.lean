import ParseKit.Command.Host
import ParseKit.Grammar.Search
import ParseKit.Highlight
import ParseKit.Pasm.Printer
import ParseKit.Tree.Dump

/-!
# Running commands

A command runs in a host, reads files and writes to two outputs. What it
comes to is an `Output`: the texts of the two and the exit status. Errors of
the toolkit are rendered on the error output. What no command is prepared
for – a file that holds no text, a grammar with values of the wrong type, an
error that cannot be rendered – ends the program, with what was written
before.
-/

namespace ParseKit.Command

/-- **What ends the program** without a message. -/
inductive Crash where
  /-- The grammar cannot be read. -/
  | load (f : LoadFault)
  /-- A path cannot be looked at. -/
  | path (f : PathFault)
  /-- The file holds no text. -/
  | notText
  /-- Lexing by the grammar ended early. -/
  | stopped (stop : LexStop)
  /-- An entry of the grammar has no role. -/
  | roleless
  /-- A value that should be printed cannot be shown. -/
  | unshowable
  /-- A program could not be printed. -/
  | visit (f : VisitFailure)
  /-- A program could not be parsed. -/
  | parse (f : ParseFailure)
  deriving Inhabited

/-- **What the program comes to.** -/
structure Output where
  /-- The exit status. -/
  status : Nat := 0
  /-- What was written to the standard output. -/
  out : String := ""
  /-- What was written to the error output. -/
  err : String := ""
  /-- What ended the program, if anything did. -/
  crash : Option Crash := none
  /-- Why an error could not be rendered, if that ended the program. -/
  unreported : Option RenderFault := none
  /-- The records of what was done, whether they are asked for or not. -/
  records : List Record := []
  deriving Inhabited

/-- The records as lines, if they are asked for. -/
def recordText (c : Call) (records : List Record) : String :=
  if c.verbose then String.join (records.map fun r => r.text ++ "\n") else ""

/-! ## Errors -/

/-- Ends with the rendering of an error, given the sources that it may be
about. -/
def report (h : Host) (files : Files) (sources : List (String × String)) (e : Error) : Output :=
  match ((h.renderer sources).render files e.toDiagnostic).1 with
  | .ok text => { status := 1, err := h.line .err text }
  | .error f => { status := 1, unreported := some f }

/-- Ends without a message. -/
def crashed (c : Crash) : Output := { status := 1, crash := some c }

/-- An output after other texts. -/
def Output.after (o : Output) (out err : String) : Output :=
  { o with out := out ++ o.out, err := err ++ o.err }

/-- An output after records, which are written if they are asked for. -/
def Output.recording (o : Output) (c : Call) (records : List Record) : Output :=
  { o.after "" (recordText c records) with records := records ++ o.records }

/-- Goes on with the grammar at a place, if there is one. What its
expressions write comes first. -/
def withGrammar (h : Host) (files : Files) (place : String) (next : Grammar → Output) : Output :=
  let output := match Grammar.locate files place with
    | .ok g => next g
    | .error .notFound => { status := 1, err := h.line .err ("error: " ++ notFoundMessage) }
    | .error (.document (.malformed e)) => report h files [] (.grammar e)
    | .error f => crashed (.load f)
  output.after (h.notices files place .out) (h.notices files place .err)

/-- Goes on with the text of a file. -/
def withText (files : Files) (file : String) (next : String → Output) : Output :=
  match files.locate? (Path.tidy file) with
  | some (.file bytes) =>
    match Text.readText? bytes with
    | some text => next text
    | none => crashed .notText
  | _ => crashed .notText

/-! ## Commands -/

/-- A listing of things, one line each, with what follows it. At the first
thing that cannot be shown it breaks off, with what follows then. -/
def listing {α : Type} (h : Host) (showable : α → Bool) (line : α → String) (things : List α)
    (broken whole : Output) : Output :=
  let shown := things.takeWhile showable
  (if shown.length == things.length then whole else broken).after (h.lines .out (shown.map line)) ""

/-- Whether a token is shown. -/
def isShown (skip : Bool) (g : Grammar) (token : Token) : Bool :=
  !(skip && g.skipKinds.contains token.kind)

/-- What comes after the tokens. -/
def stopOutput (h : Host) (files : Files) (sources : List (String × String)) :
    Option LexStop → Output
  | none => {}
  | some (.error e) => report h files sources (.lex e)
  | some stop => crashed (.stopped stop)

/-- **The tokens of a file**, up to the first error. -/
def runTokens (h : Host) (files : Files) (c : Call) : Output :=
  let file := c.argument .file
  withGrammar h files (c.argument .grammar) fun g => withText files file fun source =>
    let reading := g.read source file
    let shown := reading.tokens.filter (isShown c.skip g)
    let whole := (stopOutput h files [(file, source)] reading.stop).recording c reading.records
    listing h (fun k => Value.isShowableInt k.kind) (Dump.token (h.isTerminal .out)) shown
      ((crashed .unshowable).recording c (reading.records.take 1)) whole

/-- The line of an entry of a grammar. -/
def entryLine (g : Grammar) (e : Entry) : String :=
  "  " ++ Dump.described false e.label e.kind e.describe
    ++ (if g.skipKinds.contains e.kind then " (skip)" else "")

/-- **The entries of a grammar**, in the order in which they are tried. -/
def runKinds (h : Host) (files : Files) (c : Call) : Output :=
  withGrammar h files (c.argument .grammar) fun g =>
    if g.name.isShowable then
      (listing h Entry.isShowable (entryLine g) g.entries (crashed .unshowable) {}).after
        (h.line .out ("grammar " ++ g.name.display)) ""
    else crashed .unshowable

/-- What comes of highlighting. -/
def highlightOutput (h : Host) : Except Highlight.Fault String → Output
  | .ok text => { out := h.echo .out text }
  | .error .roleless => crashed .roleless
  | .error (.stopped stop) => crashed (.stopped stop)

/-- **A file in colours.** -/
def runHighlight (h : Host) (files : Files) (c : Call) : Output :=
  withGrammar h files (c.argument .grammar) fun g =>
    withText files (c.argument .file) fun source =>
      let (result, records) := Highlight.byGrammar g source
      (highlightOutput h result).recording c records

/-- What is printed of a program: its tree or its normal form. -/
def printed (h : Host) (files : Files) (sources : List (String × String)) (tree : Bool)
    (program : Node) : Output :=
  if tree then { out := h.line .out (Dump.node (h.isTerminal .out) program) }
  else match Pasm.render program with
    | .ok text => { out := h.echo .out text }
    | .error (.error e) => report h files sources e
    | .error f => crashed (.visit f)

/-- What comes of parsing a program. -/
def pasmOutput (h : Host) (files : Files) (sources : List (String × String)) (tree : Bool) :
    Except ParseFailure Node → Output
  | .ok program => printed h files sources tree program
  | .error (.error e) => report h files sources e
  | .error f => crashed (.parse f)

/-- **A program in pseudo-assembly**, printed again. -/
def runPasm (h : Host) (files : Files) (c : Call) : Output :=
  let file := c.argument .file
  withText files file fun source =>
    let (result, records) := Pasm.parseRecorded source file
    (pasmOutput h files [(file, source)] c.tree result).recording c records

/-- Runs a command. -/
def runCall (h : Host) (files : Files) (c : Call) : Output :=
  match c.name with
  | .tokens => runTokens h files c
  | .kinds => runKinds h files c
  | .highlight => runHighlight h files c
  | .pasm => runPasm h files c

/-- What is written about a command line that makes no sense. -/
def usageText (h : Host) (s : Scope) (f : UsageFault) : String :=
  (if f.remindsOfUsage then
      h.line .err (s.usage ++ "\nTry '" ++ s.path ++ " --help' for help.\n")
    else "") ++ h.line .err ("Error: " ++ f.message)

/-- Answers a request. -/
def answer (h : Host) (files : Files) : Request → Output
  | .help s => { out := h.line .out (helpText s) }
  | .noWords => { status := 2, err := h.line .err (helpText .program) }
  | .version => { out := h.line .out versionText }
  | .call c => runCall h files c
  | .refused s f => { status := 2, err := usageText h s f }
  | .unlookable f => crashed (.path f)

/-- **Runs the program in a host** on a command line. -/
def Host.run (h : Host) (files : Files) (words : List String) : Output :=
  answer h files (h.request files words)

/-- **Outputs that are no terminals.** -/
structure Pipes where
  /-- Whether control sequences are kept in what is echoed. -/
  keepsControls : Bool
  deriving DecidableEq, Repr, Inhabited

/-- The host of the program on such outputs. -/
def Pipes.host (p : Pipes) : Host := .usual (fun _ => false) p.keepsControls

/-- Runs the program on outputs that are no terminals. -/
def run (p : Pipes) (files : Files) (words : List String) : Output := p.host.run files words

end ParseKit.Command
