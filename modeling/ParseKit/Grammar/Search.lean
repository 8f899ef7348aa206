import ParseKit.Files
import ParseKit.Grammar.Document
import ParseKit.Text.Encoding
import ParseKit.Toml.Reader

/-!
# Grammar files

A grammar is looked for from a place upwards: the place may be a file,
which is then the grammar; otherwise the nearest directory among the place
and those above it that has an entry `descent.toml` gives it. The file is
a TOML document.

What stands at a path is asked of a file system, which may refuse to
answer; the refusal then ends the search. `Grammar.search` is the search in
any file system, and `Grammar.find` the search in a tree of files.
-/

namespace ParseKit

/-- The name of a grammar file. -/
def grammarFilename : String := "descent.toml"

/-- **Why there is no grammar to read.** -/
inductive LoadFault where
  /-- Nothing was found. -/
  | notFound
  /-- A path could not be looked at. -/
  | path (f : PathFault)
  /-- What was found is a directory. -/
  | isDirectory
  /-- The bytes of the file spell no text. -/
  | notText
  /-- An integer in the file has more digits than can be read. -/
  | longInteger
  /-- The document is no grammar. -/
  | document (f : DocumentFault)
  deriving DecidableEq, Inhabited

/-- **A file system**, as far as it is asked by a search. Paths are absolute,
and each question may be refused, for whatever reason a system has. -/
structure FileSystem (ε : Type) where
  /-- The absolute path that the text of a path stands for; without one, the
  current directory. -/
  resolve : Option String → Except ε Path
  /-- Whether a regular file stands at a path. -/
  isFile : Path → Except ε Bool
  /-- Whether anything stands at a path. -/
  hasEntry : Path → Except ε Bool

/-- **A tree of files as a file system.** It refuses paths that are too long
and those with null characters, and no others. -/
def Files.system (files : Files) : FileSystem PathFault where
  resolve
    | some text => if Path.hasNull text then .error .nullCharacter else .ok (files.absolute text)
    | none => .ok files.current
  isFile := files.look FileEntry.isFile
  hasEntry := files.look fun _ => true

/-- **Why a search ends without a path.** -/
inductive SearchFault (ε : Type) where
  /-- Nothing was found. -/
  | notFound
  /-- A question was refused. -/
  | refused (e : ε)

/-- The same, as a reason why there is no grammar to read. -/
def SearchFault.toLoadFault : SearchFault PathFault → LoadFault
  | .notFound => .notFound
  | .refused f => .path f

/-- The message that nothing was found. -/
def notFoundMessage : String := "No " ++ grammarFilename ++ " found in any parent directory"

namespace Grammar

/-- Where a grammar for a place may be, the nearest first. -/
def candidates (p : Path) : List Path :=
  (Path.ancestors p).map fun q => q ++ [grammarFilename]

section Search

variable {ε : Type} (fs : FileSystem ε)

/-- The first of several paths at which something stands. -/
def firstEntry : List Path → Except (SearchFault ε) Path
  | [] => .error .notFound
  | p :: rest =>
    match fs.hasEntry p with
    | .error e => .error (.refused e)
    | .ok true => .ok p
    | .ok false => firstEntry rest

/-- **Where the grammar for a place is.** -/
def findFrom (p : Path) : Except (SearchFault ε) Path :=
  match fs.isFile p with
  | .error e => .error (.refused e)
  | .ok true => .ok p
  | .ok false => firstEntry fs (candidates p)

/-- **Where a search ends**, from the place that the text of a path stands
for; without one it begins at the current directory. -/
def search (start : Option String) : Except (SearchFault ε) Path :=
  match fs.resolve start with
  | .error e => .error (.refused e)
  | .ok p => findFrom fs p

end Search

/-- The same in a tree of files. -/
def find (files : Files) (start : Option String) : Except LoadFault Path :=
  (search files.system start).mapError SearchFault.toLoadFault

/-- **The grammar of a text**, of the file with the given name. -/
def ofToml (name text : String) : Except LoadFault Grammar :=
  match Toml.parse text with
  | .ok fields => (ofDocument (.table fields)).mapError .document
  | .error (.malformed complaint place) =>
    .error (.document (.malformed ⟨.badDocument complaint place, some name⟩))
  | .error .longInteger => .error .longInteger

/-- **Reads a grammar file.** -/
def load (files : Files) (p : Path) : Except LoadFault Grammar :=
  match files.entry? p with
  | none => .error .notFound
  | some .directory => .error .isDirectory
  | some (.file bytes) =>
    match Text.decode? bytes with
    | some text => ofToml (Path.text p) text
    | none => .error .notText

/-- Finds and reads the grammar for a place. -/
def locate (files : Files) (start : String) : Except LoadFault Grammar :=
  match find files (some start) with
  | .ok p => load files p
  | .error f => .error f

end Grammar

end ParseKit
