import ParseKit.Command.Arguments
import ParseKit.Diagnostic

/-!
# What commands run in

Some of what the program does is not done by it. Which of its outputs are
terminals, what the words of a command line ask for, what becomes of a text
that is echoed, and what compiling the expressions of a grammar writes by
itself: all this comes from outside, and is together a `Host`. Commands are
run in a host, and what is said of them is said of every host, or of those
that echo texts in the way that is expected (`Host.EchoesTexts`).

`Host.usual` is the host of the program itself, on given outputs.
-/

namespace ParseKit.Command

/-- **An output of the program.** -/
inductive Stream where
  /-- The standard output. -/
  | out
  /-- The error output. -/
  | err
  deriving DecidableEq, Repr, Inhabited

/-- **What the program runs in.** -/
structure Host where
  /-- Whether an output is a terminal. -/
  isTerminal : Stream → Bool
  /-- What the words of a command line ask for. -/
  request : Files → List String → Request
  /-- What is written to an output where a text is echoed. -/
  echo : Stream → String → String
  /-- What is written to an output by the expressions of the grammar for a
  place, while they are compiled. -/
  notices : Files → String → Stream → String

namespace Host

/-- **Texts are echoed as they are**, to a terminal, and to any output if there is no control
sequence in them. Control sequences begin with the escape character. -/
structure EchoesTexts (h : Host) : Prop where
  /-- A terminal shows control sequences. -/
  terminal : ∀ s text, h.isTerminal s = true → h.echo s text = text
  /-- Elsewhere no other characters are left out. -/
  plain : ∀ s text, Text.escape ∉ text.toList → h.echo s text = text

/-- A line as it is echoed. -/
def line (h : Host) (s : Stream) (text : String) : String := h.echo s (text ++ "\n")

/-- Lines as they are echoed, each by itself. -/
def lines (h : Host) (s : Stream) (texts : List String) : String :=
  String.join (texts.map (h.line s))

/-- The renderer of reports, with colours on a terminal, given the sources that errors may be
about. -/
def renderer (h : Host) (sources : List (String × String)) : Renderer :=
  .ofSources (h.isTerminal .err) sources

/-- **The host of the program**, on outputs of which some are terminals. In what is echoed to
another output, control sequences are kept only if that is asked for. Compiling expressions writes
nothing. -/
def usual (isTerminal : Stream → Bool) (keepsControls : Bool) : Host where
  isTerminal := isTerminal
  request := Command.request
  echo s text := if isTerminal s || keepsControls then text else Text.stripControls text
  notices _ _ _ := ""

end Host

end ParseKit.Command
