import ParseKit.Proofs.Grammar.Reported
import ParseKit.Proofs.Parsing.Provenance
import Mathlib.Data.List.Sort
import Mathlib.Data.String.Basic

/-!
# A grammar is what its document says

`Document.Says` is what a grammar has to be by its document: an entry for each
table of tokens, in their order, and as kinds to leave out those that the items
to skip stand for. What an entry has to be by its table is `EntrySays`; the
matchers are in `MatcherNamed`, by the key that each is under. None of these
speaks of reading.

`ofDocument_faithful` is that a document gives a grammar if and only if the
grammar is what the document says, and which fault it gives otherwise. Labels
and kinds may be given more than once, so that the order of the tables decides
what an item to skip stands for; it decides too which of several faults is
reported. A fault of an entry comes before all that is wrong with later entries
and with the items to skip, of which the first comes before the others.
-/

namespace ParseKit.Document

/-! ## Reading one item after another -/

section

variable {α β ε : Type}

theorem bind_eq_ok_iff {x : Except ε α} {f : α → Except ε β} {b : β} :
    x >>= f = .ok b ↔ ∃ a, x = .ok a ∧ f a = .ok b := by
  cases x with
  | error e =>
    constructor
    · rintro ⟨⟩
    · rintro ⟨a, ⟨⟩, -⟩
  | ok a =>
    constructor
    · exact fun h => ⟨a, rfl, h⟩
    · rintro ⟨a, ⟨⟩, h⟩
      exact h

theorem map_eq_ok_iff {x : Except ε α} {f : α → β} {b : β} :
    x.map f = .ok b ↔ ∃ a, x = .ok a ∧ b = f a := by
  cases x <;> simp [Except.map, eq_comm]

theorem mapError_eq_ok_iff {δ : Type} {x : Except ε α} {f : ε → δ} {a : α} :
    x.mapError f = .ok a ↔ x = .ok a := by
  cases x <;> simp [Except.mapError]

variable {f : α → Except ε β}

/-- All items are read if and only if each is. -/
theorem mapM_eq_ok_iff {items : List α} {values : List β} :
    items.mapM f = .ok values ↔ List.Forall₂ (fun a b => f a = .ok b) items values := by
  induction items generalizing values with
  | nil =>
    rw [List.mapM_nil, List.forall₂_nil_left_iff]
    exact ⟨fun h => (Except.ok.inj h).symm, fun h => h ▸ rfl⟩
  | cons item items ih =>
    rw [List.mapM_cons, bind_eq_ok_iff, List.forall₂_cons_left_iff]
    constructor
    · rintro ⟨b, hitem, h⟩
      obtain ⟨bs, hrest, h⟩ := bind_eq_ok_iff.mp h
      exact ⟨b, bs, hitem, ih.mp hrest, (Except.ok.inj h).symm⟩
    · rintro ⟨b, bs, hitem, hrest, rfl⟩
      exact ⟨b, hitem, bind_eq_ok_iff.mpr ⟨bs, ih.mpr hrest, rfl⟩⟩

theorem exists_mapM_eq_ok_iff {items : List α} :
    (∃ values, items.mapM f = .ok values) ↔ ∀ a ∈ items, ∃ b, f a = .ok b := by
  simp only [mapM_eq_ok_iff]
  induction items with
  | nil => simp
  | cons a items ih =>
    rw [List.forall_mem_cons, ← ih]
    constructor
    · rintro ⟨_, hb | ⟨hb, hbs⟩⟩
      exact ⟨⟨_, hb⟩, _, hbs⟩
    · rintro ⟨⟨b, hb⟩, bs, hbs⟩
      exact ⟨b :: bs, .cons hb hbs⟩

/-- **The first item that cannot be read is the one that is reported**,
whatever comes after it. -/
theorem mapM_eq_error {before after : List α} {item : α} {e : ε}
    (hbefore : ∀ a ∈ before, ∃ b, f a = .ok b) (hitem : f item = .error e) :
    (before ++ item :: after).mapM f = .error e := by
  obtain ⟨bs, hbs⟩ := exists_mapM_eq_ok_iff.mpr hbefore
  rw [List.mapM_append, hbs, List.mapM_cons, hitem]
  rfl

end

theorem entriesFrom_eq_mapM (number : Nat) (items : List Value) :
    entriesFrom number items = (items.zipIdx number).mapM fun p => entryOf p.2 p.1 := by
  induction items generalizing number with
  | nil => rfl
  | cons item items ih =>
    rw [entriesFrom, List.zipIdx_cons, List.mapM_cons, ih]
    cases entryOf number item <;> rfl

theorem skipKindsOf_eq_mapM (g : Grammar) (items : List Value) :
    skipKindsOf g items = items.mapM (skipKindOf g) := by
  induction items with
  | nil => rfl
  | cons item items ih =>
    rw [skipKindsOf, List.mapM_cons, ih]
    cases skipKindOf g item <;> rfl

theorem flagsOf_eq_mapM (label : String) (flags : Regex.Flags) (names : List Value) :
    flagsOf label flags names =
      (names.mapM (flagOf label)).map fun fs => fs.foldl .union flags := by
  induction names generalizing flags with
  | nil => rfl
  | cons name names ih =>
    rw [flagsOf, List.mapM_cons]
    cases flagOf label name with
    | error e => rfl
    | ok f =>
      dsimp only
      rw [ih]
      cases names.mapM (flagOf label) <;> rfl

/-! ## What is in a document -/

/-- **The flags that values name**, all of them together: each value is a text
that names one, in letters of either case. -/
def Flagged (names : List Value) (flags : Regex.Flags) : Prop :=
  ∃ fs, List.Forall₂ (fun name f => ∃ s, name = .text s ∧
      Regex.Flags.ofName? (.ofList (Text.upperText s.toList)) = some f) names fs ∧
    flags = fs.foldl .union .none

/-- **The matcher that a value is as a literal.** -/
inductive LiteralNamed : Value → EntryMatcher → Prop
  /-- A text with a character at least. -/
  | text {s : String} (h : s ≠ "") : LiteralNamed (.text s) (.sound (.literal s))
  /-- A value that is no text, and not empty either. -/
  | odd {v : Value} (htext : ∀ s, v ≠ .text s) (h : v.isEmptyLike = false) :
    LiteralNamed v (.literal v)

/-- **The matcher that two values are as a range.** -/
inductive RangeNamed : Value → Value → EntryMatcher → Prop
  /-- One character, and another that does not come before it. -/
  | chars {a b : Char} (h : a ≤ b) :
    RangeNamed (.text (.singleton a)) (.text (.singleton b)) (.sound (.range a b))
  /-- Values of length one, not both of which are texts, the first of which is
  not the greater one. -/
  | odd {low high : Value} (htexts : ∀ a b, low = .text a → high ≠ .text b)
    (hlow : low.length? = some 1) (hhigh : high.length? = some 1)
    (h : low.greater? high = some false) : RangeNamed low high (.range low high)

/-- **The matcher that a value is as an expression over text**, under flags: a
text that compiles. -/
def TextNamed (flags : Regex.Flags) (v : Value) (m : EntryMatcher) : Prop :=
  ∃ s r, v = .text s ∧ Regex.compile .text flags s.toList = .ok r ∧ m = .sound (.text s r)

/-- **The matcher that a value is as an expression over bytes**, under flags: a
text the bytes of which compile. -/
def BytesNamed (flags : Regex.Flags) (v : Value) (m : EntryMatcher) : Prop :=
  ∃ s r, v = .text s ∧ Regex.compile .bytes flags (byteChars s.toUTF8) = .ok r ∧
    m = .sound (.bytes s.toUTF8 r)

/-- **The matcher that a value is under a key**, by the flags of its entry. -/
def MatcherNamed (flags : Regex.Flags) (key : String) (v : Value) (m : EntryMatcher) : Prop :=
  if key == "literal" then LiteralNamed v m
  else if key == "range" then ∃ low high, v = .list [low, high] ∧ RangeNamed low high m
  else if key == "regex" then TextNamed flags v m
  else BytesNamed flags v m

/-- **What the entry with a number is by its table.** -/
structure EntrySays (number : Nat) (fields : List (String × Value)) (e : Entry) : Prop where
  /-- It has the label of the table. -/
  label : fields.lookup "label" = some (.text e.label)
  /-- The label is not empty. -/
  labelled : e.label ≠ ""
  /-- It has the kind of the table, or else its number as its kind. -/
  kind : ((fields.lookup "kind").getD (.int number)).toInt? = some e.kind
  /-- The kind is not negative. -/
  natural : 0 ≤ e.kind
  /-- Its matcher is under a key, the only one of a matcher that the table has. -/
  matcher : ∃ key ∈ matcherKeys, ∃ v, fields.lookup key = some v ∧
    (∀ other ∈ matcherKeys, (fields.lookup other).isSome → other = key) ∧
    ∃ names flags, ((fields.lookup "flags").getD (.list [])).elements? = some names ∧
      Flagged names flags ∧ MatcherNamed flags key v e.matcher

/-- **Tables that can be read**, each at its place. -/
def TablesValid (tables : List (List (String × Value))) : Prop :=
  ∀ i (h : i < tables.length), ∃ e, EntrySays i tables[i] e

/-- **The kind of the first entry with a label.** -/
def FirstKind (entries : List Entry) (label : String) (k : Int) : Prop :=
  ∃ front e back, entries = front ++ e :: back ∧ (∀ x ∈ front, x.label ≠ label) ∧
    e.label = label ∧ e.kind = k

/-- **The kind that an item to skip stands for**: an integer for itself, and a
label for the kind of the first entry that has it. -/
def StandsFor (entries : List Entry) (item : Value) (k : Int) : Prop :=
  item.toInt? = some k ∨ ∃ label, item = .text label ∧ FirstKind entries label k

/-- **An item to skip stands for something**: it is an integer, or the label of
a table. -/
def Resolves (tables : List (List (String × Value))) (item : Value) : Prop :=
  item.toInt?.isSome ∨
    ∃ label, item = .text label ∧ ∃ fields ∈ tables, fields.lookup "label" = some item

/-- **What entries are by their tables**, in the same order. -/
structure EntriesSay (tables : List (List (String × Value))) (entries : List Entry) : Prop where
  /-- There is one entry for each table. -/
  length : entries.length = tables.length
  /-- The entry at a place is what the table there says. -/
  entry : ∀ i (htable : i < tables.length) (hentry : i < entries.length),
    EntrySays i tables[i] entries[i]

/-- **What a grammar is by what its document says about it, by its tables of
tokens and by the items to skip.** -/
structure Says (about : List (String × Value)) (tables : List (List (String × Value)))
    (skip : List Value) (g : Grammar) : Prop where
  /-- It has the name that it is given, if it is given one. -/
  name : g.name = (about.lookup "name").getD (.text "untitled")
  /-- Its entries are what the tables say. -/
  entries : EntriesSay tables g.entries
  /-- Every item to skip stands for something. -/
  resolved : ∀ item ∈ skip, Resolves tables item
  /-- The kinds to leave out are those that the items stand for. -/
  mem_skipKinds : ∀ k, k ∈ g.skipKinds ↔ ∃ item ∈ skip, StandsFor g.entries item k
  /-- They are in increasing order, each once. -/
  increasing : g.skipKinds.Pairwise (· < ·)

/-- **A document with a table about its grammar and a list of tables of
tokens.** Both may be left out. -/
structure Lays (document about : List (String × Value))
    (tables : List (List (String × Value))) : Prop where
  /-- The table about the grammar. -/
  about : (document.lookup "grammar").getD (.table []) = .table about
  /-- The tables of tokens. -/
  tokens : (document.lookup "token").getD (.list []) = .list (tables.map .table)

/-! ## Entries -/

variable {label : String} {kind : Int} {flags : Regex.Flags} {key : String} {v : Value} {e : Entry}

theorem flagOf_eq_ok_iff {f : Regex.Flags} :
    flagOf label v = .ok f ↔ ∃ s, v = .text s ∧
      Regex.Flags.ofName? (.ofList (Text.upperText s.toList)) = some f := by
  unfold flagOf
  split
  · rename_i s
    split
    · rename_i g hg
      simp [hg]
    · rename_i hnone
      simp [hnone]
  · rename_i hne
    simpa using fun s h => absurd h (hne s)

theorem flagsOf_eq_ok_iff {names : List Value} :
    flagsOf label .none names = .ok flags ↔ Flagged names flags := by
  rw [flagsOf_eq_mapM, map_eq_ok_iff]
  simp only [mapM_eq_ok_iff, flagOf_eq_ok_iff]
  rfl

theorem labelOf_eq_ok_iff {number : Nat} {field : Option Value} :
    labelOf number field = .ok label ↔ field = some (.text label) ∧ label ≠ "" := by
  unfold labelOf labelOf.missing
  split
  · rename_i s
    split
    · rename_i hempty
      simp only [String.isEmpty_iff] at hempty
      subst hempty
      simp [eq_comm]
    · rename_i hempty
      simp only [String.isEmpty_iff] at hempty
      simp only [Except.ok.injEq, Option.some.injEq, Value.text.injEq]
      exact ⟨fun h => ⟨h, h ▸ hempty⟩, fun h => h.1⟩
  · rename_i hne
    simpa using fun h => absurd h (hne label)

theorem kindOf_eq_ok_iff {k : Int} :
    kindOf label v = .ok k ↔ v.toInt? = some k ∧ 0 ≤ k := by
  unfold kindOf kindOf.refuse
  split
  · rename_i n hn
    rw [hn, Option.some.injEq]
    split
    · rename_i hneg
      simp only [reduceCtorEq, false_iff]
      omega
    · rw [Except.ok.injEq]
      omega
  · rename_i hnone
    simp [hnone]

theorem literalEntry_eq_ok_iff :
    literalEntry label kind v = .ok e ↔ ∃ m, LiteralNamed v m ∧ e = ⟨label, kind, m⟩ := by
  unfold literalEntry
  split
  · rename_i hempty
    simp only [reduceCtorEq, false_iff, not_exists, not_and]
    rintro m hm rfl
    cases hm with
    | text h => exact h (by simpa [Value.isEmptyLike] using hempty)
    | odd _ h => exact absurd (hempty.symm.trans h) (by simp)
  · rename_i hempty
    split
    · rename_i s
      constructor
      · rintro ⟨⟩
        exact ⟨_, .text (by simpa [Value.isEmptyLike] using hempty), rfl⟩
      · rintro ⟨m, hm, rfl⟩
        cases hm with
        | text => rfl
        | odd htext => exact absurd rfl (htext s)
    · rename_i htext
      constructor
      · rintro ⟨⟩
        exact ⟨_, .odd htext (by simpa using hempty), rfl⟩
      · rintro ⟨m, hm, rfl⟩
        cases hm with
        | text => exact absurd rfl (htext _)
        | odd => rfl

theorem checkEndpoint_eq_ok_iff {u : Unit} :
    checkEndpoint label v = .ok u ↔ v.length? = some 1 := by
  unfold checkEndpoint
  split
  · rename_i hone
    exact ⟨fun _ => hone, fun _ => rfl⟩
  · rename_i n hn hlength
    simpa [hlength] using hn
  · rename_i hnone
    simp [hnone]

theorem greater?_singleton (a b : Char) :
    (Value.text (.singleton a)).greater? (.text (.singleton b)) = some (decide (b < a)) := by
  have hlt : String.singleton b < String.singleton a ↔ b < a := by
    rw [String.lt_iff_toList_lt, String.toList_singleton, String.toList_singleton,
      List.cons_lt_cons_iff]
    simp
  simp only [Value.greater?, hlt]

/-- Two values are a range if both are of length one and the first is not the
greater one. -/
theorem rangeNamed_iff {low high : Value} {m : EntryMatcher} :
    RangeNamed low high m ↔ low.length? = some 1 ∧ high.length? = some 1 ∧
      low.greater? high = some false ∧ m = rangeMatcher low high := by
  constructor
  · intro h
    cases h with
    | @chars a b h =>
      refine ⟨by simp [Value.length?], by simp [Value.length?], ?_, by simp [rangeMatcher]⟩
      rw [greater?_singleton, decide_eq_false (Char.not_lt.mpr h)]
    | odd htexts hlow hhigh h =>
      refine ⟨hlow, hhigh, h, ?_⟩
      unfold rangeMatcher
      split
      · exact absurd rfl (htexts _ _ rfl)
      · rfl
  · rintro ⟨hlow, hhigh, h, rfl⟩
    unfold rangeMatcher
    split
    · rename_i a b
      obtain ⟨c, rfl⟩ := exists_singleton hlow
      obtain ⟨d, rfl⟩ := exists_singleton hhigh
      rw [String.toList_singleton, String.toList_singleton]
      rw [greater?_singleton] at h
      exact .chars (Char.not_lt.mp (of_decide_eq_false (Option.some.inj h)))
    · rename_i htexts
      exact .odd htexts hlow hhigh h

theorem rangeEntry_eq_ok_iff {low high : Value} :
    rangeEntry label kind low high = .ok e ↔
      ∃ m, RangeNamed low high m ∧ e = ⟨label, kind, m⟩ := by
  unfold rangeEntry
  simp only [bind_eq_ok_iff, checkEndpoint_eq_ok_iff, rangeNamed_iff]
  constructor
  · rintro ⟨-, hlow, -, hhigh, h⟩
    split at h
    · unfold quotingFault at h
      split at h <;> cases h
    · rename_i hgreater
      cases h
      exact ⟨_, ⟨hlow, hhigh, hgreater, rfl⟩, rfl⟩
    · cases h
  · rintro ⟨m, ⟨hlow, hhigh, hgreater, rfl⟩, rfl⟩
    refine ⟨(), hlow, (), hhigh, ?_⟩
    rw [hgreater]

theorem regex_eq_ok_iff {s : String} {p : Pattern} :
    Pattern.regex label kind s flags = .ok p ↔
      ∃ r, Regex.compile .text flags s.toList = .ok r ∧ p = ⟨label, kind, .text s r⟩ := by
  unfold Pattern.regex
  cases Regex.compile .text flags s.toList <;> simp [eq_comm]

theorem byteRegex_eq_ok_iff {s : ByteArray} {p : Pattern} :
    Pattern.byteRegex label kind s flags = .ok p ↔
      ∃ r, Regex.compile .bytes flags (byteChars s) = .ok r ∧ p = ⟨label, kind, .bytes s r⟩ := by
  unfold Pattern.byteRegex
  cases Regex.compile .bytes flags (byteChars s) <;> simp [eq_comm]

theorem regexEntry_eq_ok_iff :
    regexEntry label kind flags v = .ok e ↔ ∃ m, TextNamed flags v m ∧ e = ⟨label, kind, m⟩ := by
  unfold regexEntry
  split
  · simp only [mapError_eq_ok_iff, map_eq_ok_iff, regex_eq_ok_iff]
    constructor
    · rintro ⟨p, ⟨r, hr, rfl⟩, rfl⟩
      exact ⟨_, ⟨_, r, rfl, hr, rfl⟩, rfl⟩
    · rintro ⟨m, ⟨s, r, ⟨⟩, hr, rfl⟩, rfl⟩
      exact ⟨_, ⟨r, hr, rfl⟩, rfl⟩
  · rename_i hne
    simp only [reduceCtorEq, false_iff]
    rintro ⟨m, ⟨s, r, rfl, -⟩, -⟩
    exact hne s rfl

theorem bytesEntry_eq_ok_iff :
    bytesEntry label kind flags v = .ok e ↔ ∃ m, BytesNamed flags v m ∧ e = ⟨label, kind, m⟩ := by
  unfold bytesEntry
  split
  · simp only [mapError_eq_ok_iff, map_eq_ok_iff, byteRegex_eq_ok_iff]
    constructor
    · rintro ⟨p, ⟨r, hr, rfl⟩, rfl⟩
      exact ⟨_, ⟨_, r, rfl, hr, rfl⟩, rfl⟩
    · rintro ⟨m, ⟨s, r, ⟨⟩, hr, rfl⟩, rfl⟩
      exact ⟨_, ⟨r, hr, rfl⟩, rfl⟩
  · rename_i hne
    simp only [reduceCtorEq, false_iff]
    rintro ⟨m, ⟨s, r, rfl, -⟩, -⟩
    exact hne s rfl

theorem matcherEntry_eq_ok_iff :
    matcherEntry label kind flags key v = .ok e ↔
      ∃ m, MatcherNamed flags key v m ∧ e = ⟨label, kind, m⟩ := by
  unfold matcherEntry MatcherNamed
  split
  · exact literalEntry_eq_ok_iff
  · split
    · split
      · rename_i low high
        rw [rangeEntry_eq_ok_iff]
        constructor
        · rintro ⟨m, hm, rfl⟩
          exact ⟨m, ⟨low, high, rfl, hm⟩, rfl⟩
        · rintro ⟨m, ⟨_, _, ⟨⟩, hm⟩, rfl⟩
          exact ⟨m, hm, rfl⟩
      · rename_i hpair
        simp only [fault, reduceCtorEq, false_iff]
        rintro ⟨m, ⟨low, high, rfl, -⟩, -⟩
        exact hpair low high rfl
    · split
      · exact regexEntry_eq_ok_iff
      · exact bytesEntry_eq_ok_iff

theorem matchersOf_eq_singleton_iff {fields : List (String × Value)} :
    matchersOf fields = [(key, v)] ↔ key ∈ matcherKeys ∧ fields.lookup key = some v ∧
      ∀ other ∈ matcherKeys, (fields.lookup other).isSome → other = key := by
  constructor
  · intro h
    obtain ⟨hlookup, hkey⟩ := lookup_of_matchersOf h
    refine ⟨hkey, hlookup, fun other hother hsome => ?_⟩
    obtain ⟨w, hw⟩ := Option.isSome_iff_exists.mp hsome
    have hmem : (other, w) ∈ matchersOf fields :=
      List.mem_filterMap.mpr ⟨other, hother, by rw [hw]; rfl⟩
    rw [h, List.mem_singleton] at hmem
    exact congrArg Prod.fst hmem
  · rintro ⟨hkey, hlookup, hsole⟩
    obtain ⟨front, back, hsplit⟩ := List.append_of_mem hkey
    have hnodup : (front ++ key :: back).Nodup := hsplit ▸ (by decide : matcherKeys.Nodup)
    have hnone (keys : List String) (hkeys : ∀ other ∈ keys, other ∈ matcherKeys ∧ other ≠ key) :
        (keys.filterMap fun key => (fields.lookup key).map fun v => (key, v)) = [] := by
      refine List.filterMap_eq_nil_iff.mpr fun other hother => ?_
      obtain ⟨hother, hne⟩ := hkeys other hother
      rw [Option.not_isSome_iff_eq_none.mp fun hsome => hne (hsole other hother hsome)]
      rfl
    have hfront : ∀ other ∈ front, other ∈ matcherKeys ∧ other ≠ key := by grind
    have hback : ∀ other ∈ back, other ∈ matcherKeys ∧ other ≠ key := by grind
    rw [matchersOf, hsplit, List.filterMap_append, List.filterMap_cons, hnone front hfront,
      hnone back hback, hlookup]
    rfl

/-- **An entry is read if and only if its table says it.** -/
theorem entryOf_eq_ok_iff {number : Nat} {fields : List (String × Value)} :
    entryOf number (.table fields) = .ok e ↔ EntrySays number fields e := by
  have helements {names : List Value} :
      elements ((fields.lookup "flags").getD (.list [])) = .ok names ↔
        ((fields.lookup "flags").getD (.list [])).elements? = some names := by
    unfold elements
    split <;> simp [*]
  unfold entryOf
  rw [bind_eq_ok_iff]
  constructor
  · rintro ⟨_, ⟨⟩, h⟩
    obtain ⟨label, hlabel, h⟩ := bind_eq_ok_iff.mp h
    obtain ⟨kind, hkind, h⟩ := bind_eq_ok_iff.mp h
    obtain ⟨hlabel, hlabelled⟩ := labelOf_eq_ok_iff.mp hlabel
    obtain ⟨hkind, hnatural⟩ := kindOf_eq_ok_iff.mp hkind
    split at h
    · rename_i key v hmatchers
      obtain ⟨hkey, hv, hsole⟩ := matchersOf_eq_singleton_iff.mp hmatchers
      obtain ⟨names, hnames, h⟩ := bind_eq_ok_iff.mp h
      obtain ⟨flags, hflags, h⟩ := bind_eq_ok_iff.mp h
      obtain ⟨m, hm, rfl⟩ := matcherEntry_eq_ok_iff.mp h
      exact ⟨hlabel, hlabelled, hkind, hnatural, key, hkey, v, hv, hsole, names, flags,
        helements.mp hnames, flagsOf_eq_ok_iff.mp hflags, hm⟩
    · cases h
  · rintro ⟨hlabel, hlabelled, hkind, hnatural, key, hkey, v, hv, hsole, names, flags, hnames,
      hflags, hm⟩
    refine ⟨fields, rfl, bind_eq_ok_iff.mpr ⟨e.label, ?_, bind_eq_ok_iff.mpr ⟨e.kind, ?_, ?_⟩⟩⟩
    · exact labelOf_eq_ok_iff.mpr ⟨hlabel, hlabelled⟩
    · exact kindOf_eq_ok_iff.mpr ⟨hkind, hnatural⟩
    · rw [matchersOf_eq_singleton_iff.mpr ⟨hkey, hv, hsole⟩]
      refine bind_eq_ok_iff.mpr ⟨names, helements.mpr hnames, bind_eq_ok_iff.mpr ⟨flags, ?_, ?_⟩⟩
      · exact flagsOf_eq_ok_iff.mpr hflags
      · exact matcherEntry_eq_ok_iff.mpr ⟨e.matcher, hm, rfl⟩

/-! ## Lists of entries -/

variable {tables : List (List (String × Value))} {entries : List Entry}

/-- The tables of tokens, each with its number. -/
theorem zipIdx_tables (number : Nat) :
    ((tables.map Value.table).zipIdx number) =
      (tables.zipIdx number).map fun p => (.table p.1, p.2) :=
  List.zipIdx_map

theorem entriesFrom_eq_ok_iff :
    entriesFrom 0 (tables.map .table) = .ok entries ↔ EntriesSay tables entries := by
  rw [entriesFrom_eq_mapM, zipIdx_tables, mapM_eq_ok_iff, List.forall₂_map_left_iff]
  simp only [entryOf_eq_ok_iff]
  rw [List.forall₂_iff_get]
  constructor
  · rintro ⟨hlength, hentry⟩
    refine ⟨by simpa using hlength.symm, fun i htable hi => ?_⟩
    simpa using hentry i (by simpa using htable) hi
  · rintro ⟨hlength, hentry⟩
    refine ⟨by simpa using hlength.symm, fun i htable hi => ?_⟩
    simpa using hentry i (by simpa using htable) hi

theorem TablesValid.exists_entryOf (h : TablesValid tables) :
    ∀ p ∈ (tables.zipIdx 0).map fun p => (Value.table p.1, p.2), ∃ e, entryOf p.2 p.1 = .ok e := by
  intro p hp
  obtain ⟨⟨table, i⟩, hmem, rfl⟩ := List.mem_map.mp hp
  obtain ⟨hi, htable⟩ := List.mem_zipIdx' hmem
  obtain ⟨e, he⟩ := h i hi
  exact ⟨e, entryOf_eq_ok_iff.mpr (htable ▸ he)⟩

theorem TablesValid.exists_entriesSay (h : TablesValid tables) :
    ∃ entries, EntriesSay tables entries := by
  simp only [← entriesFrom_eq_ok_iff, entriesFrom_eq_mapM, zipIdx_tables]
  exact exists_mapM_eq_ok_iff.mpr h.exists_entryOf

/-- **The first entry that cannot be read is the one that is reported.** -/
theorem entriesFrom_eq_error {before after : List (List (String × Value))}
    {fields : List (String × Value)} {f : DocumentFault} (hbefore : TablesValid before)
    (hentry : entryOf before.length (.table fields) = .error f) :
    entriesFrom 0 ((before ++ fields :: after).map .table) = .error f := by
  rw [entriesFrom_eq_mapM, zipIdx_tables, List.zipIdx_append, List.zipIdx_cons, List.map_append,
    List.map_cons]
  exact mapM_eq_error hbefore.exists_entryOf (by simpa using hentry)

/-! ## Kinds to leave out -/

variable {g : Grammar} {item : Value} {k : Int}

theorem kindOf?_eq_some_iff : g.kindOf? label = some k ↔ FirstKind g.entries label k := by
  simp only [Grammar.kindOf?, Option.map_eq_some_iff, List.find?_eq_some_iff_append]
  constructor
  · rintro ⟨e, ⟨hlabel, front, back, hsplit, hfront⟩, hkind⟩
    exact ⟨front, e, back, hsplit, by simpa using hfront, by simpa using hlabel, hkind⟩
  · rintro ⟨front, e, back, hsplit, hfront, hlabel, hkind⟩
    exact ⟨e, ⟨by simpa using hlabel, front, back, hsplit, by simpa using hfront⟩, hkind⟩

theorem skipKindOf_eq_ok_iff : skipKindOf g item = .ok k ↔ StandsFor g.entries item k := by
  unfold skipKindOf StandsFor
  split
  · rename_i n hn
    have htext (label : String) : item ≠ .text label := by
      rintro rfl
      cases hn
    simp [hn, htext]
  · rename_i hnone
    split
    · rename_i label
      rw [hnone]
      split
      · rename_i n hn
        simp [← kindOf?_eq_some_iff, hn]
      · rename_i hn
        simp [← kindOf?_eq_some_iff, hn]
    · rename_i htext
      have htext (label : String) : item ≠ .text label := fun h => htext label h
      unfold quotingFault
      split <;> simp [hnone, htext]

/-- An item that stands for nothing is reported, if it can be quoted. -/
theorem skipKindOf_eq_error (hitem : ∀ k, ¬ StandsFor g.entries item k)
    (hshow : item.isShowable = true) :
    skipKindOf g item = .error (fault (.unknownLabel item) "grammar.skip") := by
  simp only [← skipKindOf_eq_ok_iff] at hitem
  unfold skipKindOf at hitem ⊢
  split at hitem
  · rename_i n hn
    exact absurd rfl (hitem n)
  · split at hitem
    · split at hitem
      · rename_i n hn
        exact absurd rfl (hitem n)
      · simp [*]
    · simp [quotingFault, hshow]

/-- A label is that of some entry if it is that of some table. -/
theorem exists_firstKind_iff (h : EntriesSay tables entries) :
    (∃ k, FirstKind entries label k) ↔
      ∃ fields ∈ tables, fields.lookup "label" = some (.text label) := by
  constructor
  · rintro ⟨k, front, e, back, hsplit, -, rfl, -⟩
    obtain ⟨i, hi, rfl⟩ := List.mem_iff_getElem.mp (hsplit ▸ List.mem_append_right front
      List.mem_cons_self : e ∈ entries)
    have htable : i < tables.length := h.length ▸ hi
    exact ⟨tables[i], List.getElem_mem htable, (h.entry i htable hi).label⟩
  · rintro ⟨fields, hfields, hlabel⟩
    obtain ⟨i, htable, rfl⟩ := List.mem_iff_getElem.mp hfields
    have hi : i < entries.length := h.length ▸ htable
    have hentry := (h.entry i htable hi).label
    have hfound : (entries.find? fun e => e.label == label).isSome := by
      refine List.find?_isSome.mpr ⟨entries[i], List.getElem_mem hi, ?_⟩
      simpa using hentry.symm.trans hlabel
    obtain ⟨e, he⟩ := Option.isSome_iff_exists.mp hfound
    refine ⟨e.kind, (kindOf?_eq_some_iff (g := ⟨.null, entries, []⟩)).mp ?_⟩
    rw [Grammar.kindOf?, he]
    rfl

theorem exists_standsFor_iff (h : EntriesSay tables entries) :
    (∃ k, StandsFor entries item k) ↔ Resolves tables item := by
  simp only [StandsFor, Resolves, exists_or, Option.isSome_iff_exists]
  refine or_congr_right ?_
  rw [exists_comm]
  refine exists_congr fun label => ?_
  rw [exists_and_left, exists_firstKind_iff h]
  refine and_congr_right ?_
  rintro rfl
  rfl

theorem skipKindsOf_eq_ok_iff {items : List Value} {ks : List Int} :
    skipKindsOf g items = .ok ks ↔ List.Forall₂ (StandsFor g.entries) items ks := by
  rw [skipKindsOf_eq_mapM, mapM_eq_ok_iff]
  simp only [skipKindOf_eq_ok_iff]

/-- Items can be read if they all stand for something. -/
theorem exists_skipKindsOf_iff (h : EntriesSay tables g.entries) {items : List Value} :
    (∃ ks, skipKindsOf g items = .ok ks) ↔ ∀ item ∈ items, Resolves tables item := by
  simp only [skipKindsOf_eq_mapM, exists_mapM_eq_ok_iff, skipKindOf_eq_ok_iff,
    exists_standsFor_iff h]

/-- **The first item that stands for nothing is the one that is reported.** -/
theorem skipKindsOf_eq_error (h : EntriesSay tables g.entries) {before after : List Value}
    (hbefore : ∀ x ∈ before, Resolves tables x) (hitem : ¬ Resolves tables item)
    (hshow : item.isShowable = true) :
    skipKindsOf g (before ++ item :: after) =
      .error (fault (.unknownLabel item) "grammar.skip") := by
  rw [skipKindsOf_eq_mapM]
  refine mapM_eq_error (fun x hx => ?_) (skipKindOf_eq_error (fun k hk => ?_) hshow)
  · simp only [skipKindOf_eq_ok_iff]
    exact (exists_standsFor_iff h).mpr (hbefore x hx)
  · exact hitem ((exists_standsFor_iff h).mp ⟨k, hk⟩)

theorem StandsFor.unique {n : Int} (hk : StandsFor entries item k)
    (hn : StandsFor entries item n) : k = n := by
  let g : Grammar := { entries }
  have hk : skipKindOf g item = .ok k := skipKindOf_eq_ok_iff.mpr hk
  have hn : skipKindOf g item = .ok n := skipKindOf_eq_ok_iff.mpr hn
  exact Except.ok.inj (hk.symm.trans hn)

/-- The kinds that items stand for, one for each item, are all that they stand
for. -/
theorem mem_iff_standsFor {items : List Value} {ks : List Int}
    (h : List.Forall₂ (StandsFor entries) items ks) :
    k ∈ ks ↔ ∃ item ∈ items, StandsFor entries item k := by
  induction h with
  | nil => simp
  | @cons item n items ks hitem _ ih =>
    have hn : StandsFor entries item k ↔ k = n := ⟨fun hk => hk.unique hitem, fun hk => hk ▸ hitem⟩
    simp [ih, hn]

/-! ## Grammars -/

variable {document about : List (String × Value)} {skip : List Value}

theorem ofDocument_eq (h : Lays document about tables) :
    Grammar.ofDocument (.table document) = do
      let entries ← entriesFrom 0 (tables.map .table)
      let g : Grammar := { name := (about.lookup "name").getD (.text "untitled"), entries }
      let skip ← skipKindsOf g (← elements ((about.lookup "skip").getD (.list [])))
      return { g with skipKinds := sortedKinds skip } := by
  have habout : fields ((document.lookup "grammar").getD (.table [])) = .ok about := by
    rw [h.about]
    rfl
  have htokens : elements ((document.lookup "token").getD (.list [])) =
      .ok (tables.map .table) := by
    rw [h.tokens]
    rfl
  unfold Grammar.ofDocument
  show (fields ((document.lookup "grammar").getD (.table [])) >>= _) = _
  rw [habout]
  show (elements ((document.lookup "token").getD (.list [])) >>= _) = _
  rw [htokens]
  rfl

/-- **A document gives a grammar if and only if the grammar is what the
document says.** -/
theorem ofDocument_eq_ok_iff (h : Lays document about tables)
    (hskip : (about.lookup "skip").getD (.list []) = .list skip) :
    Grammar.ofDocument (.table document) = .ok g ↔ Says about tables skip g := by
  have helements : elements ((about.lookup "skip").getD (.list [])) = .ok skip := by
    rw [hskip]
    rfl
  rw [ofDocument_eq h, bind_eq_ok_iff]
  constructor
  · rintro ⟨entries, hread, hg⟩
    obtain ⟨_, hitems, hg⟩ := bind_eq_ok_iff.mp hg
    cases helements.symm.trans hitems
    obtain ⟨ks, hks, ⟨⟩⟩ := bind_eq_ok_iff.mp hg
    have hentries := entriesFrom_eq_ok_iff.mp hread
    have hstands : List.Forall₂ (StandsFor entries) skip ks := skipKindsOf_eq_ok_iff.mp hks
    exact {
      name := rfl
      entries := hentries
      resolved := (exists_skipKindsOf_iff hentries).mp ⟨ks, hks⟩
      mem_skipKinds := fun k => mem_sortedKinds.trans (mem_iff_standsFor hstands)
      increasing := pairwise_sortedKinds ks }
  · obtain ⟨name, entries, kinds⟩ := g
    rintro ⟨rfl, hentries, hresolved, hmem, hincreasing⟩
    obtain ⟨ks, hks⟩ := (exists_skipKindsOf_iff hentries).mpr hresolved
    have hstands : List.Forall₂ (StandsFor entries) skip ks := skipKindsOf_eq_ok_iff.mp hks
    have hkinds : sortedKinds ks = kinds :=
      (pairwise_sortedKinds ks).eq_of_mem_iff hincreasing fun k =>
        (mem_sortedKinds.trans (mem_iff_standsFor hstands)).trans (hmem k).symm
    refine ⟨entries, entriesFrom_eq_ok_iff.mpr hentries, bind_eq_ok_iff.mpr ⟨skip, helements, ?_⟩⟩
    exact bind_eq_ok_iff.mpr ⟨ks, skipKindsOf_eq_ok_iff.mpr hstands, hkinds ▸ rfl⟩

/-- **A document is read as what it says, and the first thing that is wrong with
it is reported.** It gives a grammar if and only if the grammar is what it says.
The first table that cannot be read decides the fault, whatever comes after it
and whatever is to be skipped. Where all tables can be read, it is the first item
to skip that is neither an integer nor the label of a table. The item is quoted
then, which a text always can be. -/
theorem ofDocument_faithful (h : Lays document about tables) :
    (∀ skip, (about.lookup "skip").getD (.list []) = .list skip →
      ∀ g, Grammar.ofDocument (.table document) = .ok g ↔ Says about tables skip g) ∧
    (∀ before fields after f, tables = before ++ fields :: after → TablesValid before →
      entryOf before.length (.table fields) = .error f →
      Grammar.ofDocument (.table document) = .error f) ∧
    ∀ before item after, (about.lookup "skip").getD (.list []) = .list (before ++ item :: after) →
      TablesValid tables → (∀ x ∈ before, Resolves tables x) → ¬ Resolves tables item →
      item.isShowable = true →
      Grammar.ofDocument (.table document) =
        .error (.malformed ⟨.unknownLabel item, some "grammar.skip"⟩) := by
  refine ⟨fun skip hskip g => ofDocument_eq_ok_iff h hskip, ?_, ?_⟩
  · rintro before fields after f rfl hbefore hfields
    rw [ofDocument_eq h, entriesFrom_eq_error hbefore hfields]
    rfl
  · intro before item after hskip hvalid hbefore hitem hshow
    obtain ⟨entries, hentries⟩ := hvalid.exists_entriesSay
    rw [ofDocument_eq h, entriesFrom_eq_ok_iff.mpr hentries, hskip]
    show (skipKindsOf _ (before ++ item :: after) >>= _) = _
    rw [skipKindsOf_eq_error hentries hbefore hitem hshow]
    rfl

/-- Tables that share a label, of which the last has the number of the one
before it as its kind. -/
def crowded : List (List (String × Value)) :=
  [[("label", .text "gap"), ("kind", .int 3), ("literal", .text " ")],
    [("label", .text "word"), ("range", .list [.text "a", .text "z"])],
    [("label", .text "gap"), ("kind", .int 1), ("regex", .text "\n+"),
      ("flags", .list [.text "ascii"])]]

/-- A table without a label. -/
def unlabelled : List (String × Value) := [("literal", .text "w")]

/-- A document of tables of tokens and items to skip. -/
def ofTables (tables : List (List (String × Value))) (skip : List Value) :
    List (String × Value) :=
  [("token", .list (tables.map .table)), ("grammar", .table [("skip", .list skip)])]

theorem lays_ofTables (tables : List (List (String × Value))) (skip : List Value) :
    Lays (ofTables tables skip) [("skip", .list skip)] tables :=
  ⟨rfl, rfl⟩

/-- What the crowded tables and three items to skip make. -/
def crowdedGrammar : Grammar where
  entries := [⟨"gap", 3, .sound (.literal " ")⟩, ⟨"word", 1, .sound (.range 'a' 'z')⟩,
    ⟨"gap", 1, .sound (.text "\n+" (Regex.oneOrMore (.one 10 false .exact)))⟩]
  skipKinds := [1, 3, 7]

theorem entriesFrom_crowded :
    entriesFrom 0 (crowded.map .table) = .ok crowdedGrammar.entries := by
  rfl

theorem tablesValid_crowded : TablesValid crowded := by
  have hentries := entriesFrom_eq_ok_iff.mp entriesFrom_crowded
  exact fun i hi => ⟨_, hentries.entry i hi hi⟩

/-- The crowded tables make a grammar, and not with an item that is no label. A
table without a label after them is reported, and neither the one that comes
after it nor what is to be skipped. -/
theorem ofDocument_faithful_crowded :
    Says [("skip", .list [.text "gap", .int 7, .text "word"])] crowded
        [.text "gap", .int 7, .text "word"] crowdedGrammar ∧
      Grammar.ofDocument (.table (ofTables (crowded ++ [unlabelled, []]) [.text "blank"])) =
        .error (.malformed ⟨.missingLabel, some "token[3]"⟩) ∧
      Grammar.ofDocument (.table (ofTables crowded [.text "gap", .text "blank", .text "none"])) =
        .error (.malformed ⟨.unknownLabel (.text "blank"), some "grammar.skip"⟩) := by
  have hblank : ¬ Resolves crowded (.text "blank") := by
    simp [Resolves, crowded, Value.toInt?]
  have hgap : Resolves crowded (.text "gap") :=
    .inr ⟨"gap", rfl, _, List.mem_cons_self, rfl⟩
  refine ⟨?_, ?_, ?_⟩
  · have hread :
        Grammar.ofDocument (.table (ofTables crowded [.text "gap", .int 7, .text "word"])) =
          .ok crowdedGrammar := by
      rfl
    exact ((ofDocument_faithful (lays_ofTables ..)).1 _ rfl _).mp hread
  · exact (ofDocument_faithful (lays_ofTables ..)).2.1 crowded unlabelled [[]] _ rfl
      tablesValid_crowded rfl
  · exact (ofDocument_faithful (lays_ofTables ..)).2.2 [.text "gap"] _ [.text "none"] rfl
      tablesValid_crowded (by simpa using hgap) hblank rfl

end ParseKit.Document
