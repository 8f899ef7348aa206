import ParseKit.Text.Category
import ParseKit.Text.Case

/-!
# Tests of one code unit

A pattern reads its subject one code unit at a time, a character of a text
or a byte. `UnitTest` is what a pattern can ask of a single unit: to be a
given one, to be any, or to be in a set. How far case matters is a
`CaseRule`, and which characters are digits, spaces and word characters is
a `CharTable`.
-/

namespace ParseKit.Regex

open ParseKit.Text

/-- Which characters are digits, spaces and word characters. -/
inductive CharTable where
  /-- Those of ASCII. -/
  | ascii
  /-- Those of every script. -/
  | unicode
  deriving DecidableEq, Repr, Inhabited

/-- A class of characters with a letter of its own. -/
inductive Category where
  /-- Decimal digits. -/
  | digit
  /-- White space. -/
  | space
  /-- Word characters. -/
  | word
  deriving DecidableEq, Repr, Inhabited

/-- Whether a unit is of a category. -/
def Category.holds (table : CharTable) (k : Category) (c : Nat) : Bool :=
  match k, table with
  | .digit, .ascii => isAsciiDigit c
  | .digit, .unicode => isDecimal c
  | .space, .ascii => isAsciiSpace c
  | .space, .unicode => isSpace c
  | .word, .ascii => isAsciiWord c
  | .word, .unicode => isWord c

/-- **How far case matters.** -/
inductive CaseRule where
  /-- Units match only themselves. -/
  | exact
  /-- Letters of ASCII match either way. -/
  | ascii
  /-- Letters of every script match either way. -/
  | unicode
  /-- Letters of ASCII match either way, each form of the subject's letter
  being tried by itself. -/
  | eitherForm
  deriving DecidableEq, Repr, Inhabited

/-- Whether a unit of the pattern and one of the subject are the same. -/
def CaseRule.same (rule : CaseRule) (a c : Nat) : Bool :=
  match rule with
  | .exact => a == c
  | .ascii => asciiLower a == asciiLower c
  | .unicode => caseRelated a c
  | .eitherForm => asciiLower a == asciiLower c

/-- The form under which a unit of the subject is looked up. -/
def CaseRule.form (rule : CaseRule) (c : Nat) : Nat :=
  match rule with
  | .exact => c
  | .ascii => asciiLower c
  | .unicode => lower c
  | .eitherForm => asciiLower c

/-- Whether a unit of a pattern can be met by units other than itself. -/
def CaseRule.varies (rule : CaseRule) (a : Nat) : Bool :=
  match rule with
  | .exact => false
  | .ascii => isAsciiLetter a
  | .unicode => isCased a
  | .eitherForm => true

/-- The greatest unit of the basic plane. Sets treat the units above it one
by one. -/
def basicLimit : Nat := 0xFFFF

/-- A member of a set of units. -/
inductive SetItem where
  /-- One unit. -/
  | one (c : Nat)
  /-- Every unit from one to another. -/
  | range (low high : Nat)
  /-- A category, or all but that. -/
  | category (k : Category) (negated : Bool)
  deriving DecidableEq, Repr, Inhabited

namespace SetItem

/-- Whether a unit lies between two others. -/
def between (low high c : Nat) : Bool := low ≤ c && c ≤ high

/-- Whether a range that reaches beyond the basic plane covers a form, as it
is or in upper case. -/
def coversBeyond (low high form : Nat) : Bool :=
  basicLimit < high && (between low high form || between low high (upper form))

/-- **Whether a member of a set covers a unit**, given by its form under the
rule. A unit of the basic plane stands for all of its forms, and so does
each unit of a range as far as it is in the basic plane. -/
def covers (rule : CaseRule) (table : CharTable) (form : Nat) : SetItem → Bool
  | .one a =>
    match rule with
    | .exact | .eitherForm => a == form
    | .ascii => asciiLower a == form
    | .unicode =>
      if basicLimit < a then a == form
      else lower a == form || (sameUpper (lower a)).contains form
  | .range low high =>
    match rule with
    | .exact | .eitherForm => between low high form
    | .ascii =>
      [form, asciiUpper form].any (between low (min high basicLimit))
        || coversBeyond low high form
    | .unicode =>
      (caseVariants form).any (between low (min high basicLimit))
        || coversBeyond low high form
  | .category k negated => k.holds table form != negated

/-- Whether case can matter to a member of a set. -/
def varies (rule : CaseRule) : SetItem → Bool
  | .one a =>
    match rule with
    | .exact => false
    | _ => basicLimit < a || rule.varies a
  | .range low high =>
    match rule with
    | .exact => false
    | .ascii => basicLimit < high || hasAsciiLetter low high
    | .unicode => basicLimit < high || hasCased low high
    | .eitherForm => true
  | .category .. => false

end SetItem

/-- **A test of one code unit.** -/
inductive UnitTest where
  /-- Any unit, or any but a line feed. -/
  | any (lineFeed : Bool)
  /-- One given unit, or all but that. -/
  | one (c : Nat) (negated : Bool) (rule : CaseRule)
  /-- The units of a set, or all but those. -/
  | set (items : List SetItem) (negated : Bool) (rule : CaseRule) (table : CharTable)
  deriving DecidableEq, Repr, Inhabited

namespace UnitTest

/-- Whether a set holds a unit, given by its form. -/
def setHolds (items : List SetItem) (negated : Bool) (rule : CaseRule) (table : CharTable)
    (form : Nat) : Bool :=
  items.any (fun i => i.covers rule table form) != negated

/-- **Whether a unit of the subject passes a test.** -/
def holds : UnitTest → Nat → Bool
  | .any lineFeed, c => lineFeed || c != 10
  | .one a negated rule, c => rule.same a c != negated
  | .set items negated rule table, c =>
    let form := rule.form c
    match rule with
    | .eitherForm =>
      setHolds items negated rule table form
        || (asciiUpper form != form && setHolds items negated rule table (asciiUpper form))
    | _ => setHolds items negated rule table form

/-- Whether a run of units is found unit by unit, each of them being a
position of its own: so it is for sets to which case matters, and for a
letter with more than two forms. -/
def isStepwise : UnitTest → Bool
  | .any _ => false
  | .one c _ rule => rule == .unicode && !(sameUpper (lower c)).isEmpty
  | .set _ _ rule _ => rule != .exact

/-- Whether a test settles by itself whether an alternative that begins with
it is worth a try. -/
def isDecisive : UnitTest → Bool
  | .any _ => false
  | .one _ negated rule => !negated && rule == .exact
  | .set _ _ rule _ => rule == .exact

/-- The unit that a test asks for, if that is one unit as it is. -/
def literal? : UnitTest → Option Nat
  | .one c false .exact => some c
  | _ => none

end UnitTest

end ParseKit.Regex
