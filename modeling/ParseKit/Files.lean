import ParseKit.Text.Encoding

/-!
# Files

A tree of directories and files, as far as looking things up needs one.
A path is **absolute** here: the names from the root on, without dots. The
text of a path may have dots and repeated slashes, and is read in two ways:
`Files.locate?` follows it step by step, so that each step must lead
through a directory that exists, and `Files.absolute` only computes.

A path or a name in it can be too long to be looked at. Looking at a name
takes a directory to look in, so that a long name below something that is
not there does no harm. How long is too long is as most systems have it;
that some may not look at all is left out. What is proved of searches is
proved for any such rules (`Grammar.search`).
-/

namespace ParseKit

/-- An absolute path: the names from the root on. -/
abbrev Path := List String

namespace Path

/-- The text of an absolute path. -/
def text (p : Path) : String := "/" ++ "/".intercalate p

/-- **A path with the directories above it**, the nearest first; the root is
the last. -/
def ancestors (p : Path) : List Path := go p.reverse
where
  /-- The same for the names in reverse. -/
  go : List String → List Path
    | [] => [[]]
    | name :: up => (name :: up).reverse :: go up

/-- The names in the text of a path, empty ones among them. -/
def parts (text : String) : List String :=
  (text.toList.splitOn '/').map String.ofList

/-- Whether the text of a path begins at the root. -/
def isAbsolute (text : String) : Bool := text.toList.head? == some '/'

/-- One step along a name: a dot stays, two dots go up. -/
def step (p : Path) (name : String) : Path :=
  if name == "" || name == "." then p
  else if name == ".." then p.dropLast
  else p ++ [name]

/-- **The tidy text of a path**: repeated slashes and single dots are left
out. -/
def tidy (text : String) : String :=
  let names := (parts text).filter fun n => n != "" && n != "."
  let body := "/".intercalate names
  if isAbsolute text then "/" ++ body else if names.isEmpty then "." else body

end Path

/-- **Why a path cannot be looked at.** -/
inductive PathFault where
  /-- It has a null character. -/
  | nullCharacter
  /-- It is too long, or a name in it is. -/
  | tooLong
  deriving DecidableEq, Repr, Inhabited

namespace Path

/-- Whether the text of a path has a null character. -/
def hasNull (text : String) : Bool := text.toList.contains '\x00'

/-- The most bytes of the text of a path. -/
def pathLimit : Nat := 4095

/-- The most bytes of a name. -/
def nameLimit : Nat := 255

end Path

/-- What a path leads to. -/
inductive FileEntry where
  /-- A directory. -/
  | directory
  /-- A file with its bytes. -/
  | file (bytes : ByteArray)

/-- Whether a file stands there. -/
def FileEntry.isFile : FileEntry → Bool
  | .file _ => true
  | .directory => false

/-- **A tree of files**, with the directory at which relative paths begin. -/
structure Files where
  /-- The directories other than the root. -/
  directories : List Path := []
  /-- The files with their bytes. -/
  files : List (Path × ByteArray) := []
  /-- The directory at which relative paths begin. -/
  current : Path := []

namespace Files

/-- What stands at an absolute path. -/
def entry? (f : Files) (p : Path) : Option FileEntry :=
  if p.isEmpty then some .directory
  else match f.files.lookup p with
    | some bytes => some (.file bytes)
    | none => if f.directories.contains p then some .directory else none

/-- Whether anything stands at an absolute path. -/
def hasEntry (f : Files) (p : Path) : Bool := (f.entry? p).isSome

/-- Whether a directory stands at an absolute path. -/
def isDirectory (f : Files) (p : Path) : Bool :=
  match f.entry? p with
  | some .directory => true
  | _ => false

/-- Whether a file stands at an absolute path. -/
def isFile (f : Files) (p : Path) : Bool :=
  match f.entry? p with
  | some (.file _) => true
  | _ => false

/-- Whether an absolute path is too long to be looked at. -/
def isTooLong (f : Files) (p : Path) : Bool :=
  Path.pathLimit < p.text.utf8ByteSize
    || (Path.ancestors p).any fun q =>
      q.getLast?.any (Path.nameLimit < ·.utf8ByteSize) && f.isDirectory q.dropLast

/-- Whether something with a property stands at an absolute path, if that
can be looked at. -/
def look (f : Files) (property : FileEntry → Bool) (p : Path) : Except PathFault Bool :=
  if f.isTooLong p then .error .tooLong else .ok ((f.entry? p).any property)

/-- Makes a directory, and those above it. -/
def makeDirectory (f : Files) (p : Path) : Files :=
  { f with directories := (Path.ancestors p).filter (fun q => !q.isEmpty) ++ f.directories }

/-- Writes a file in place of what it held before, making the directories
above it. -/
def write (f : Files) (p : Path) (bytes : ByteArray) : Files :=
  let f := f.makeDirectory p.dropLast
  { f with files := (p, bytes) :: f.files.filter fun e => e.1 != p }

/-- Where the text of a path begins. -/
def origin (f : Files) (text : String) : Path :=
  if Path.isAbsolute text then [] else f.current

/-- **The absolute path of a text**, computed without looking. -/
def absolute (f : Files) (text : String) : Path :=
  (Path.parts text).foldl Path.step (f.origin text)

/-- Following names one by one; there must be a directory to step from. -/
def follow? (f : Files) : Path → List String → Option Path
  | p, [] => some p
  | p, name :: rest =>
    if f.isDirectory p then
      let q := Path.step p name
      if f.hasEntry q then f.follow? q rest else none
    else none

/-- **What the text of a path leads to**, each step being looked up. A text
that is too long leads to nothing. -/
def locate? (f : Files) (text : String) : Option FileEntry :=
  if text.isEmpty || Path.pathLimit < text.utf8ByteSize then none
  else
    let names := Path.parts text
    let names := if Path.isAbsolute text then names.drop 1 else names
    (f.follow? (f.origin text) names).bind f.entry?

/-- The paths that following the text of a path passes. -/
def passed (f : Files) (text : String) : List Path :=
  go (f.origin text) (Path.parts text)
where
  /-- The same from a path on. -/
  go (p : Path) : List String → List Path
    | [] => [p]
    | name :: rest => p :: go (Path.step p name) rest

/-- The tree with what was found at a path. -/
def note (f : Files) (p : Path) : Option FileEntry → Files
  | some .directory => f.makeDirectory p
  | some (.file bytes) => f.write p bytes
  | none => f

end Files

end ParseKit
