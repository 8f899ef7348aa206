/-!
# Flags of a pattern

The options under which a pattern is read: how far case matters, what a
dot and the two anchors of lines accept, whether blanks in the pattern
count, and which characters are letters. A part of a pattern may turn
flags on and off for itself.
-/

namespace ParseKit.Regex

/-- **A set of flags.** -/
structure Flags where
  /-- Only the letters, digits and spaces of ASCII count as such. -/
  ascii : Bool := false
  /-- Case does not matter. -/
  ignoreCase : Bool := false
  /-- Letters of bytes are those of the surroundings. -/
  locale : Bool := false
  /-- The letters, digits and spaces of every script count as such. -/
  unicode : Bool := false
  /-- The anchors of lines match at every line. -/
  multiline : Bool := false
  /-- A dot matches a line feed too. -/
  dotAll : Bool := false
  /-- Blanks and comments in the pattern do not count. -/
  verbose : Bool := false
  /-- An obsolete mode without repetitions. -/
  template : Bool := false
  deriving DecidableEq, Repr, Inhabited

namespace Flags

/-- No flag. -/
def none : Flags := {}

/-- The flags of either set. -/
def union (a b : Flags) : Flags where
  ascii := a.ascii || b.ascii
  ignoreCase := a.ignoreCase || b.ignoreCase
  locale := a.locale || b.locale
  unicode := a.unicode || b.unicode
  multiline := a.multiline || b.multiline
  dotAll := a.dotAll || b.dotAll
  verbose := a.verbose || b.verbose
  template := a.template || b.template

/-- The flags of both sets. -/
def inter (a b : Flags) : Flags where
  ascii := a.ascii && b.ascii
  ignoreCase := a.ignoreCase && b.ignoreCase
  locale := a.locale && b.locale
  unicode := a.unicode && b.unicode
  multiline := a.multiline && b.multiline
  dotAll := a.dotAll && b.dotAll
  verbose := a.verbose && b.verbose
  template := a.template && b.template

/-- The flags of the first set that are not in the second. -/
def diff (a b : Flags) : Flags where
  ascii := a.ascii && !b.ascii
  ignoreCase := a.ignoreCase && !b.ignoreCase
  locale := a.locale && !b.locale
  unicode := a.unicode && !b.unicode
  multiline := a.multiline && !b.multiline
  dotAll := a.dotAll && !b.dotAll
  verbose := a.verbose && !b.verbose
  template := a.template && !b.template

/-- The three flags that say which characters are letters. -/
def types : Flags := { ascii := true, locale := true, unicode := true }

/-- Whether a set has one of the three flags that say which characters are
letters. -/
def hasType (f : Flags) : Bool := f.ascii || f.locale || f.unicode

/-- The flags of a part that turns some on and some off. A part that says
which characters are letters drops what was said before. -/
def combine (scope on off : Flags) : Flags :=
  ((if on.hasType then scope.diff types else scope).union on).diff off

/-- The flag with a letter. -/
def ofLetter? : Char → Option Flags
  | 'i' => some { ignoreCase := true }
  | 'L' => some { locale := true }
  | 'm' => some { multiline := true }
  | 's' => some { dotAll := true }
  | 'x' => some { verbose := true }
  | 'a' => some { ascii := true }
  | 't' => some { template := true }
  | 'u' => some { unicode := true }
  | _ => Option.none

/-- **The flag with a name**, the full one or its capital letter. Two names
are no flags of an expression: one stands for none at all, and the other only
asks for a listing while the expression is compiled. -/
def ofName? : String → Option Flags
  | "NOFLAG" => some none
  | "ASCII" | "A" => some { ascii := true }
  | "IGNORECASE" | "I" => some { ignoreCase := true }
  | "LOCALE" | "L" => some { locale := true }
  | "UNICODE" | "U" => some { unicode := true }
  | "MULTILINE" | "M" => some { multiline := true }
  | "DOTALL" | "S" => some { dotAll := true }
  | "VERBOSE" | "X" => some { verbose := true }
  | "TEMPLATE" | "T" => some { template := true }
  | "DEBUG" => some none
  | _ => Option.none

end Flags

end ParseKit.Regex
