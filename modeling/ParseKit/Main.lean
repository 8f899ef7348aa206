import ParseKit.Command.Run

/-!
# The program

Looks at the files that the words of the command line lead to and at the
outputs, runs the command on what was found, and writes what it comes to.
-/

namespace ParseKit.Command

/-- What stands at a path. -/
def probe (p : Path) : IO (Option FileEntry) := do
  let known ← (IO.FS.realPath p.text).toBaseIO
  match known with
  | .error _ => return none
  | .ok _ =>
    let content ← (IO.FS.readBinFile p.text).toBaseIO
    match content with
    | .ok bytes => return some (.file bytes)
    | .error _ => return some .directory

/-- The paths that a word can make a command look at. -/
def pathsOf (files : Files) (word : String) : List Path :=
  files.passed word ++ Grammar.candidates (files.absolute word)

/-- The files that words can make a command look at. -/
def snapshot (current : Path) (words : List String) : IO Files := do
  let start := ({ current := current } : Files).makeDirectory current
  let mut files := start
  for p in words.flatMap (pathsOf start) do
    files := files.note p (← probe p)
  return files

end ParseKit.Command

open ParseKit in
/-- **The program.** -/
def main (words : List String) : IO UInt32 := do
  let current := Path.parts (← IO.currentDir).toString |>.filter (· != "")
  let files ← Command.snapshot current words
  let out ← IO.getStdout
  let err ← IO.getStderr
  let outIsTerminal ← out.isTty
  let errIsTerminal ← err.isTty
  let host := Command.Host.usual (fun
    | .out => outIsTerminal
    | .err => errIsTerminal) false
  let output := host.run files words
  IO.print output.out
  IO.eprint output.err
  return output.status.toUInt32
