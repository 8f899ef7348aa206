import ParseKit.Grammar
import ParseKit.Text.Case

/-!
# Grammars in documents

A grammar is written as a document with a table `grammar`, which has its
name and the kinds to skip, and a list `token` of entries. Each entry has
a label, a kind – its number in the list unless given – and exactly one
matcher.

Entries are read in order and the kinds to skip after all of them; the
first thing that is wrong is the one that is reported. What is wrong with
a value of a type that was not foreseen is reported by its cause.
-/

namespace ParseKit

/-- **Why a document is no grammar.** -/
inductive DocumentFault where
  /-- It is malformed. -/
  | malformed (e : GrammarError)
  /-- An expression is refused for what it asks. -/
  | refused (r : Regex.Refusal)
  /-- A value is asked for a field, but is no table. -/
  | notTable
  /-- A value cannot be gone through. -/
  | notIterable
  /-- A flag is no text. -/
  | flagNotText
  /-- An end of a range has no length. -/
  | noLength
  /-- The ends of a range cannot be compared. -/
  | notComparable
  /-- An expression is no text. -/
  | expressionNotText
  /-- A value that should be quoted cannot be shown. -/
  | unshowable
  deriving DecidableEq, Inhabited

namespace DocumentFault

/-- The fault of a pattern that cannot be built. -/
def ofRefusal : PatternRefusal → DocumentFault
  | .grammar e => .malformed e
  | .refused r => .refused r

end DocumentFault

namespace Document

/-- The fields of a table. -/
def fields : Value → Except DocumentFault (List (String × Value))
  | .table fields => .ok fields
  | _ => .error .notTable

/-- What one meets going through a value. -/
def elements (v : Value) : Except DocumentFault (List Value) :=
  match v.elements? with
  | some items => .ok items
  | none => .error .notIterable

/-- The error of an entry. -/
def fault (f : GrammarFault) (entry : String) : DocumentFault := .malformed ⟨f, some entry⟩

/-- The error of an entry that quotes values, if they can be shown. -/
def quotingFault (f : GrammarFault) (quoted : List Value) (entry : String) : DocumentFault :=
  if quoted.all Value.isShowable then fault f entry else .unshowable

/-- The label of an entry, a text with a character at least. -/
def labelOf (number : Nat) (v : Option Value) : Except DocumentFault String :=
  match v with
  | some (.text s) => if s.isEmpty then missing else .ok s
  | _ => missing
where
  /-- There is no label. -/
  missing : Except DocumentFault String :=
    .error (fault .missingLabel ("token[" ++ toString number ++ "]"))

/-- The kind of an entry, which must not be negative. -/
def kindOf (label : String) (v : Value) : Except DocumentFault Int :=
  match v.toInt? with
  | some k => if k < 0 then refuse else .ok k
  | none => refuse
where
  /-- The value is no kind. -/
  refuse : Except DocumentFault Int := .error (quotingFault (.badKind v) [v] label)

/-- The flag that a value names. Case does not matter. -/
def flagOf (label : String) (v : Value) : Except DocumentFault Regex.Flags :=
  match v with
  | .text s =>
    match Regex.Flags.ofName? (.ofList (Text.upperText s.toList)) with
    | some f => .ok f
    | none => .error (fault (.unknownFlag v) label)
  | _ => .error .flagNotText

/-- The flags that values name. -/
def flagsOf (label : String) (flags : Regex.Flags) :
    List Value → Except DocumentFault Regex.Flags
  | [] => .ok flags
  | v :: rest =>
    match flagOf label v with
    | .ok f => flagsOf label (flags.union f) rest
    | .error e => .error e

/-- The entry of a literal. Whatever is empty is refused. -/
def literalEntry (label : String) (kind : Int) (v : Value) : Except DocumentFault Entry :=
  if v.isEmptyLike then .error (fault .emptyLiteral label)
  else match v with
    | .text s => .ok ⟨label, kind, .sound (.literal s)⟩
    | v => .ok ⟨label, kind, .literal v⟩

/-- The length of an end of a range must be one. -/
def checkEndpoint (label : String) (v : Value) : Except DocumentFault Unit :=
  match v.length? with
  | some 1 => .ok ()
  | some _ => .error (fault .wideEndpoint label)
  | none => .error .noLength

/-- The matcher of a range with ends of length one. -/
def rangeMatcher (low high : Value) : EntryMatcher :=
  match low, high with
  | .text a, .text b =>
    match a.toList, b.toList with
    | [a], [b] => .sound (.range a b)
    | _, _ => .range low high
  | _, _ => .range low high

/-- The entry of a range between two ends. -/
def rangeEntry (label : String) (kind : Int) (low high : Value) :
    Except DocumentFault Entry := do
  checkEndpoint label low
  checkEndpoint label high
  match low.greater? high with
  | some true => .error (quotingFault (.emptyRange low high) [low, high] label)
  | some false => .ok ⟨label, kind, rangeMatcher low high⟩
  | none => .error .notComparable

/-- The entry of an expression over text. -/
def regexEntry (label : String) (kind : Int) (flags : Regex.Flags) (v : Value) :
    Except DocumentFault Entry :=
  match v with
  | .text s => ((Pattern.regex label kind s flags).map Entry.ofPattern).mapError .ofRefusal
  | _ => .error .expressionNotText

/-- The entry of an expression over bytes. -/
def bytesEntry (label : String) (kind : Int) (flags : Regex.Flags) (v : Value) :
    Except DocumentFault Entry :=
  match v with
  | .text s =>
    ((Pattern.byteRegex label kind s.toUTF8 flags).map Entry.ofPattern).mapError .ofRefusal
  | _ => .error .expressionNotText

/-- The entry of a matcher that is named by a key. -/
def matcherEntry (label : String) (kind : Int) (flags : Regex.Flags) (key : String) (v : Value) :
    Except DocumentFault Entry :=
  if key == "literal" then literalEntry label kind v
  else if key == "range" then
    match v with
    | .list [low, high] => rangeEntry label kind low high
    | _ => .error (fault .badRange label)
  else if key == "regex" then regexEntry label kind flags v
  else bytesEntry label kind flags v

/-- The matchers that an entry has, by their keys. -/
def matchersOf (entry : List (String × Value)) : List (String × Value) :=
  matcherKeys.filterMap fun key => (entry.lookup key).map fun v => (key, v)

/-- **The entry with a number.** -/
def entryOf (number : Nat) (v : Value) : Except DocumentFault Entry := do
  let entry ← fields v
  let label ← labelOf number (entry.lookup "label")
  let kind ← kindOf label ((entry.lookup "kind").getD (.int number))
  match matchersOf entry with
  | [(key, v)] =>
    let names ← elements ((entry.lookup "flags").getD (.list []))
    let flags ← flagsOf label .none names
    matcherEntry label kind flags key v
  | _ => .error (fault .matcherCount label)

/-- The entries from a number on. -/
def entriesFrom (number : Nat) : List Value → Except DocumentFault (List Entry)
  | [] => .ok []
  | v :: rest =>
    match entryOf number v with
    | .ok e => (entriesFrom (number + 1) rest).map fun es => e :: es
    | .error f => .error f

/-- The kind that an item of the kinds to skip stands for: itself, or that
of the first entry with a label. -/
def skipKindOf (g : Grammar) (v : Value) : Except DocumentFault Int :=
  match v.toInt? with
  | some k => .ok k
  | none =>
    match v with
    | .text label =>
      match g.kindOf? label with
      | some k => .ok k
      | none => .error (fault (.unknownLabel v) "grammar.skip")
    | _ => .error (quotingFault (.unknownLabel v) [v] "grammar.skip")

/-- The kinds that items stand for. -/
def skipKindsOf (g : Grammar) : List Value → Except DocumentFault (List Int)
  | [] => .ok []
  | v :: rest =>
    match skipKindOf g v with
    | .ok k => (skipKindsOf g rest).map fun ks => k :: ks
    | .error f => .error f

end Document

open Document in
/-- **The grammar of a document.** -/
def Grammar.ofDocument (data : Value) : Except DocumentFault Grammar := do
  let document ← fields data
  let about ← fields ((document.lookup "grammar").getD (.table []))
  let name := (about.lookup "name").getD (.text "untitled")
  let entries ← entriesFrom 0 (← elements ((document.lookup "token").getD (.list [])))
  let g : Grammar := { name := name, entries := entries }
  let skip ← skipKindsOf g (← elements ((about.lookup "skip").getD (.list [])))
  return { g with skipKinds := sortedKinds skip }

end ParseKit
