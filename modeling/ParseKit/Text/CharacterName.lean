import ParseKit.Text.CharacterName.Alias
import ParseKit.Text.CharacterName.BasicPlane
import ParseKit.Text.CharacterName.OtherPlanes

/-!
# Characters by name

`characterNamed?` finds the character that a name stands for. Case does not
matter in names that are listed. The names of Hangul syllables and of
unified ideographs follow from rules, and must be in upper case.

A list of names is a text of **entries**, and line breaks in it do not
count. An entry that begins with `@` gives, in hexadecimal, the code point
of the next name, and a dot skips a code point. Any other entry begins with
a small letter, which says how many words the name has in common with the
name before it, `a` for none, `b` for one and so on; the rest of the name
follows. A word includes the blank or the hyphen after it.
-/

namespace ParseKit.Text

/-- Whether a character begins an entry of a list of names. -/
def beginsEntry (c : Char) : Bool := c.isLower || c == '.' || c == '@'

/-- The entries of a list of names. -/
def nameEntries (names : String) : List (List Char) :=
  (names.toList.filter (· != '\n')).splitBy fun _ c => !beginsEntry c

/-- The words of a name, each with the blank or the hyphen after it. -/
def nameWords (name : List Char) : List (List Char) :=
  name.splitBy fun c _ => c != ' ' && c != '-'

/-- The value of a hexadecimal digit in upper case. -/
def upperHexValue? (c : Char) : Option Nat :=
  if '0' ≤ c && c ≤ '9' then some (c.toNat - 48)
  else if 'A' ≤ c && c ≤ 'F' then some (c.toNat - 55)
  else none

/-- The number that hexadecimal digits in upper case spell. -/
def upperHex? (ds : List Char) : Option Nat :=
  ds.foldlM (fun n c => (upperHexValue? c).map (16 * n + ·)) 0

/-- **The code point with a name**, given by its words, in a list of names
from an entry on. `code` is the code point of the next name, `before` are
the words of the name before it, and `step` is how far apart the code
points of two names in a row are. -/
def findName (step : Nat) (wanted : List (List Char)) :
    (code : Nat) → (before : List (List Char)) → List (List Char) → Option Nat
  | _, _, [] => none
  | code, before, entry :: rest =>
    match entry with
    | [] => findName step wanted code before rest
    | '@' :: ds => findName step wanted ((upperHex? ds).getD 0) before rest
    | '.' :: _ => findName step wanted (code + 1) before rest
    | mark :: tail =>
      let words := before.take (mark.toNat - 97) ++ nameWords tail
      if words == wanted then some code else findName step wanted (code + step) words rest

/-- The code point with a name in a list of names. -/
def listedName? (step : Nat) (names : String) (name : List Char) : Option Nat :=
  findName step (nameWords name) 0 [] (nameEntries names)

/-! ## Names that follow from rules -/

/-- What follows a beginning of a name. -/
def afterStart? (start : String) (name : List Char) : Option (List Char) :=
  if start.toList.isPrefixOf name then some (name.drop start.length) else none

/-- Whether a code point is in one of several ranges. -/
def inRanges (ranges : List (Nat × Nat)) (c : Nat) : Bool :=
  ranges.any fun r => r.1 ≤ c && c ≤ r.2

/-- Beginnings of names that the code point in hexadecimal completes, with
the code points that are named so. -/
def numberedNames : List (String × List (Nat × Nat)) := [
  ("CJK COMPATIBILITY IDEOGRAPH-", [(0xF900, 0xFA6D), (0xFA70, 0xFAD9), (0x2F800, 0x2FA1D)]),
  ("KHITAN SMALL SCRIPT CHARACTER-", [(0x18B00, 0x18CD5)]),
  ("NUSHU CHARACTER-", [(0x1B170, 0x1B2FB)])]

/-- The code point with a name that its own number completes. -/
def numberedName? (name : List Char) : Option Nat :=
  numberedNames.findSome? fun (start, ranges) => do
    let ds ← afterStart? start name
    let c ← upperHex? ds
    if inRanges ranges c && ds.head? != some '0' then some c else none

/-- The unified ideographs. -/
def unifiedIdeographs : List (Nat × Nat) := [
  (0x3400, 0x4DBF), (0x4E00, 0x9FFF), (0x20000, 0x2A6DF), (0x2A700, 0x2B738),
  (0x2B740, 0x2B81D), (0x2B820, 0x2CEA1), (0x2CEB0, 0x2EBE0), (0x30000, 0x3134A)]

/-- A unified ideograph by the hexadecimal digits that end its name, four or
five of them. -/
def ideograph? (ds : List Char) : Option Nat := do
  let c ← upperHex? ds
  if (ds.length == 4 || ds.length == 5) && inRanges unifiedIdeographs c then some c else none

/-- The letters that can begin a syllable, in order; one of them is
silent. -/
def leadingJamo : List String :=
  ["G", "GG", "N", "D", "DD", "R", "M", "B", "BB", "S", "SS", "", "J", "JJ", "C", "K", "T", "P",
    "H"]

/-- The vowels of syllables, in order. -/
def vowelJamo : List String :=
  ["A", "AE", "YA", "YAE", "EO", "E", "YEO", "YE", "O", "WA", "WAE", "OE", "YO", "U", "WEO",
    "WE", "WI", "YU", "EU", "YI", "I"]

/-- The letters that can end a syllable, in order, and that none does. -/
def trailingJamo : List String :=
  ["", "G", "GG", "GS", "N", "NJ", "NH", "D", "L", "LG", "LM", "LB", "LS", "LT", "LP", "LH", "M",
    "B", "BS", "S", "SS", "NG", "J", "C", "K", "T", "P", "H"]

/-- The longest of several texts that a name begins with, by its number, and
what follows it. -/
def longestJamo? (jamo : List String) (name : List Char) : Option (Nat × List Char) :=
  let fitting := jamo.zipIdx.filter fun j => j.1.toList.isPrefixOf name
  let longest := fitting.foldl (fun best j => if best.any (j.1.length ≤ ·.1.length) then best
    else some j) none
  longest.map fun j => (j.2, name.drop j.1.length)

/-- A Hangul syllable by the letters that end its name. -/
def syllable? (name : List Char) : Option Nat := do
  let (l, name) ← longestJamo? leadingJamo name
  let (v, name) ← longestJamo? vowelJamo name
  let (t, name) ← longestJamo? trailingJamo name
  if name.isEmpty then some (0xAC00 + (l * 21 + v) * 28 + t) else none

/-! ## All names -/

/-- The code point with a name in one of the lists. -/
def anyListedName? (name : List Char) : Option Nat :=
  (listedName? 1 basicPlaneNames name).or
    ((listedName? 1 otherPlaneNames name).or
      ((listedName? 0 aliasNames name).or (numberedName? name)))

/-- **The character that a name stands for.** -/
def characterNamed? (name : List Char) : Option Nat :=
  match afterStart? "HANGUL SYLLABLE " name, afterStart? "CJK UNIFIED IDEOGRAPH-" name with
  | some rest, _ => syllable? rest
  | none, some rest => ideograph? rest
  | none, none => anyListedName? (name.map Char.toUpper)

end ParseKit.Text
