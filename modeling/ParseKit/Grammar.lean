import ParseKit.Lexer

/-!
# Grammars

A grammar is a named list of token patterns, with the kinds of tokens that
can be left out. It comes from a document, whose values are of any type;
an entry whose literal is no text, or whose range is not between
characters, can be listed but not matched. Lexing reaches such an entry
where no entry before it matches, and ends there.
-/

namespace ParseKit

/-- **How an entry of a grammar recognises a token.** -/
inductive EntryMatcher where
  /-- By a matcher of patterns. -/
  | sound (m : Matcher)
  /-- By a literal that is no text. -/
  | literal (v : Value)
  /-- By a range that is not between characters. -/
  | range (low high : Value)
  deriving DecidableEq, Inhabited

/-- **An entry of a grammar.** -/
structure Entry where
  /-- The label. -/
  label : String
  /-- The kind. -/
  kind : Int
  /-- How it recognises tokens. -/
  matcher : EntryMatcher
  deriving DecidableEq, Inhabited

namespace Entry

/-- The entry of a pattern. -/
def ofPattern (p : Pattern) : Entry := ⟨p.label, p.kind, .sound p.matcher⟩

/-- The pattern of an entry that can be matched. -/
def pattern? (e : Entry) : Option Pattern :=
  match e.matcher with
  | .sound m => some ⟨e.label, e.kind, m⟩
  | _ => none

/-- The name of the kind of a matcher. -/
def matcherName (e : Entry) : String :=
  match e.matcher with
  | .sound m => Pattern.matcherName m
  | .literal _ => "literal"
  | .range .. => "range"

/-- An entry's matcher as it is listed. -/
def describe (e : Entry) : String :=
  match e.matcher with
  | .sound m => Pattern.describe ⟨e.label, e.kind, m⟩
  | .literal v => "lit " ++ v.shown
  | .range low high => "range " ++ low.shown ++ ".." ++ high.shown

/-- Whether an entry's matcher can be listed. -/
def isDescribable (e : Entry) : Bool :=
  match e.matcher with
  | .sound _ => true
  | .literal v => v.isShowable
  | .range low high => low.isShowable && high.isShowable

/-- Whether an entry can be listed with its kind. -/
def isShowable (e : Entry) : Bool := Value.isShowableInt e.kind && e.isDescribable

end Entry

/-- **A grammar.** -/
structure Grammar where
  /-- The name, which may be any value. -/
  name : Value := .text "untitled"
  /-- The entries, in the order in which they are tried. -/
  entries : List Entry := []
  /-- The kinds of tokens that can be left out, in increasing order. -/
  skipKinds : Kinds := []
  deriving DecidableEq, Inhabited

/-- **What lexing by a grammar gave**: the tokens, why it ended early if it
did, and the records. -/
structure Reading where
  /-- The tokens. -/
  tokens : List Token
  /-- Why it ended early. -/
  stop : Option LexStop
  /-- The records. -/
  records : List Record
  deriving Inhabited

/-- The patterns of the entries before the first that cannot be matched. -/
def Entry.leading : List Entry → List Pattern
  | [] => []
  | e :: rest =>
    match e.pattern? with
    | some p => p :: leading rest
    | none => []

namespace Grammar

/-- **The kind of the first entry with a label.** -/
def kindOf? (g : Grammar) (label : String) : Option Int :=
  (g.entries.find? fun e => e.label == label).map Entry.kind

/-- **The label of the first entry with a kind**, or else the kind itself. -/
def labelOf (g : Grammar) (kind : Int) : String :=
  match g.entries.find? fun e => e.kind == kind with
  | some e => e.label
  | none => toString kind

/-- Whether every entry can be matched. -/
def isMatchable (g : Grammar) : Bool := g.entries.all fun e => e.pattern?.isSome

/-- A lexer at the start of a source, with the entries that it can reach
without having to stop. -/
def lexer (g : Grammar) (source : String) (filename : String := unnamedSource) : Lexer :=
  .onSource (Entry.leading g.entries) source filename

/-- The record of the start of a source. -/
def startRecord (g : Grammar) (source : String) (filename : String) : Record :=
  .lexing filename source.length g.entries.length

/-- Why lexing by a grammar ends where its lexer stops. Where no pattern
matches, an entry that cannot be matched is reached if there is one. -/
def stopAt (g : Grammar) : LexStop → LexStop
  | .error e => if g.isMatchable then .error e else .unmatchable
  | stop => stop

/-- **Lexes a source by a grammar.** -/
def read (g : Grammar) (source : String) (filename : String := unnamedSource) : Reading :=
  let run := (g.lexer source filename).all
  let stop := run.stop.map g.stopAt
  { tokens := run.tokens
    stop := stop
    records := g.startRecord source filename :: (stop.toList.flatMap LexStop.records) }

end Grammar

end ParseKit
