import ParseKit.Text.Quoted

/-!
# What can be wrong with a pattern

`Complaint` lists the ways in which a pattern can be malformed, with the
wording of each. A `Refusal` is not about the text of a pattern, but about
what it asks: flags that exclude each other, counts and distances beyond a
limit. A `Fault` is a complaint at a place in the pattern, or a refusal.
-/

namespace ParseKit.Regex

open ParseKit.Text

/-- **A way in which a pattern is malformed.** Texts are given as they are
spelled in the pattern. -/
inductive Complaint where
  /-- A group or assertion is not closed. -/
  | missingParen
  /-- A parenthesis closes nothing. -/
  | unbalanced
  /-- A set is not closed. -/
  | unterminatedSet
  /-- A range has its ends the wrong way round, or an end that is no unit. -/
  | badRange (low high : List Char)
  /-- A repetition has nothing before it. -/
  | nothingToRepeat
  /-- A repetition is repeated. -/
  | multipleRepeat
  /-- The bounds of a repetition are the wrong way round. -/
  | minAboveMax
  /-- A name is given to a second group. -/
  | redefined (name : List Char) (again first : Nat)
  /-- A group name is no identifier and no number. -/
  | badGroupName (name : List Char)
  /-- A name is missing. -/
  | missingName (what : String)
  /-- A name is not closed. -/
  | unterminatedName (closer : Char)
  /-- No group has the name. -/
  | unknownGroup (name : List Char)
  /-- No construct begins like this after the question mark. -/
  | unknownExtension (text : List Char)
  /-- A backslash ends the pattern. -/
  | danglingEscape
  /-- No escape is written like this. -/
  | badEscape (text : List Char)
  /-- A numeric escape has too few digits. -/
  | incompleteEscape (text : List Char)
  /-- An octal escape is above the greatest byte. -/
  | wideOctal (text : List Char)
  /-- No character has the name. -/
  | unknownCharacter (name : List Char)
  /-- A character name is not opened. -/
  | missingBrace
  /-- No group has the number. -/
  | unknownGroupNumber (n : Nat)
  /-- Zero is no number of a group. -/
  | groupZero
  /-- A group is referred to inside itself. -/
  | openGroup
  /-- A group is referred to in the look-behind that defines it. -/
  | groupOfLookBehind
  /-- The pattern ends within a construct. -/
  | endOfPattern
  /-- A comment is not closed. -/
  | unterminatedComment
  /-- A conditional has three branches or more. -/
  | manyBranches
  /-- Flags for the whole pattern come too late. -/
  | lateFlags
  /-- A list of flags is not closed. -/
  | unclosedFlags
  /-- No flag follows the minus sign. -/
  | missingFlag
  /-- No colon follows the flags to turn off. -/
  | missingColon
  /-- No flag has the letter. -/
  | unknownFlag
  /-- The flag `L` in a text pattern. -/
  | localeInText
  /-- The flag `u` in a byte pattern. -/
  | unicodeInBytes
  /-- Two of the flags `a`, `u` and `L`. -/
  | clashingTypes
  /-- One of the flags `a`, `u` and `L` is to be turned off. -/
  | typeTurnedOff
  /-- A flag for the whole pattern is to be turned on in a part. -/
  | globalTurnedOn
  /-- A flag for the whole pattern is to be turned off. -/
  | globalTurnedOff
  /-- A flag is to be turned on and off. -/
  | turnedOnAndOff
  /-- A look-behind of varying width. -/
  | varyingLookBehind
  /-- A repetition under the template flag. -/
  | templateRepeat (name : String)
  deriving DecidableEq, Repr, Inhabited

/-- The wording of a complaint. -/
def Complaint.text : Complaint → String
  | .missingParen => "missing ), unterminated subpattern"
  | .unbalanced => "unbalanced parenthesis"
  | .unterminatedSet => "unterminated character set"
  | .badRange low high => "bad character range " ++ .ofList low ++ "-" ++ .ofList high
  | .nothingToRepeat => "nothing to repeat"
  | .multipleRepeat => "multiple repeat"
  | .minAboveMax => "min repeat greater than max repeat"
  | .redefined name again first =>
    "redefinition of group name " ++ quote (.ofList name) ++ " as group " ++ toString again
      ++ "; was group " ++ toString first
  | .badGroupName name => "bad character in group name " ++ quote (.ofList name)
  | .missingName what => "missing " ++ what
  | .unterminatedName closer => "missing " ++ .singleton closer ++ ", unterminated name"
  | .unknownGroup name => "unknown group name " ++ quote (.ofList name)
  | .unknownExtension text => "unknown extension ?" ++ .ofList text
  | .danglingEscape => "bad escape (end of pattern)"
  | .badEscape text => "bad escape " ++ .ofList text
  | .incompleteEscape text => "incomplete escape " ++ .ofList text
  | .wideOctal text => "octal escape value " ++ .ofList text ++ " outside of range 0-0o377"
  | .unknownCharacter name => "undefined character name " ++ quote (.ofList name)
  | .missingBrace => "missing \x7b"
  | .unknownGroupNumber n => "invalid group reference " ++ toString n
  | .groupZero => "bad group number"
  | .openGroup => "cannot refer to an open group"
  | .groupOfLookBehind => "cannot refer to group defined in the same lookbehind subpattern"
  | .endOfPattern => "unexpected end of pattern"
  | .unterminatedComment => "missing ), unterminated comment"
  | .manyBranches => "conditional backref with more than two branches"
  | .lateFlags => "global flags not at the start of the expression"
  | .unclosedFlags => "missing -, : or )"
  | .missingFlag => "missing flag"
  | .missingColon => "missing :"
  | .unknownFlag => "unknown flag"
  | .localeInText => "bad inline flags: cannot use 'L' flag with a str pattern"
  | .unicodeInBytes => "bad inline flags: cannot use 'u' flag with a bytes pattern"
  | .clashingTypes => "bad inline flags: flags 'a', 'u' and 'L' are incompatible"
  | .typeTurnedOff => "bad inline flags: cannot turn off flags 'a', 'u' and 'L'"
  | .globalTurnedOn => "bad inline flags: cannot turn on global flag"
  | .globalTurnedOff => "bad inline flags: cannot turn off global flag"
  | .turnedOnAndOff => "bad inline flags: flag turned on and off"
  | .varyingLookBehind => "look-behind requires fixed-width pattern"
  | .templateRepeat name => "internal: unsupported template operator " ++ name

/-- Flags that exclude each other or the kind of the pattern. -/
inductive FlagClash where
  /-- The locale flag on a text pattern. -/
  | localeOnText
  /-- The Unicode flag on a byte pattern. -/
  | unicodeOnBytes
  /-- Both the ASCII and the Unicode flag. -/
  | asciiAndUnicode
  /-- Both the ASCII and the locale flag. -/
  | asciiAndLocale
  deriving DecidableEq, Repr, Inhabited

/-- The wording of a clash of flags. -/
def FlagClash.text : FlagClash → String
  | .localeOnText => "cannot use LOCALE flag with a str pattern"
  | .unicodeOnBytes => "cannot use UNICODE flag with a bytes pattern"
  | .asciiAndUnicode => "ASCII and UNICODE flags are incompatible"
  | .asciiAndLocale => "ASCII and LOCALE flags are incompatible"

/-- **A refusal that is not about the text of a pattern.** -/
inductive Refusal where
  /-- The flags exclude each other. -/
  | clash (c : FlagClash)
  /-- A repetition count is beyond the limit. -/
  | countTooLarge
  /-- A repetition count has more digits than are read. -/
  | countTooLong
  /-- A look-behind reaches further back than can be looked. -/
  | lookBehindTooLong
  deriving DecidableEq, Repr, Inhabited

/-- **Why a pattern is refused.** -/
inductive Fault where
  /-- The pattern is malformed, as a rule at a position. -/
  | malformed (complaint : Complaint) (pos : Option Nat)
  /-- It is refused for what it asks. -/
  | refused (r : Refusal)
  deriving DecidableEq, Repr, Inhabited

/-- The line and column of a position, both counted from one. -/
def lineColumn (pattern : List Char) (pos : Nat) : Nat × Nat :=
  let before := pattern.take pos
  (before.count '\n' + 1, (before.reverse.takeWhile (· != '\n')).length + 1)

/-- **The wording of a complaint at a place**: a position is given, and
with it the line and column if the pattern has more than one line. -/
def placed (complaint : String) (pattern : List Char) : Option Nat → String
  | none => complaint
  | some pos =>
    let text := complaint ++ " at position " ++ toString pos
    if pattern.contains '\n' then
      let (line, column) := lineColumn pattern pos
      text ++ " (line " ++ toString line ++ ", column " ++ toString column ++ ")"
    else text

end ParseKit.Regex
