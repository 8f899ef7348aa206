import ParseKit.Grammar.Document
import ParseKit.Proofs.Regex.Runs

/-!
# What is wrong with a document is reported

Reading a grammar from a document checks some of its values and trusts the
rest. `Document.Foreseen` says of which types the trusted values are meant
to be: tables where fields are looked up, texts as flags and expressions,
texts as literals and as ends of ranges, integers that can be shown where
one is to be quoted. `ofDocument_reports` is that of such a document one gets a
grammar of which every pattern can be matched against every text, or the
report that the document is malformed.

Outside of these types nothing is promised, and nothing is kept: an entry
whose matcher is not of a foreseen type is never reported. Reading fails for
another cause, or it succeeds and the pattern cannot be matched.

Two conditions are about an expression and not about its type. What it asks
must not be refused, and it must not be tangled by any text.
-/

namespace ParseKit

variable {α β : Type}

/-! ## Patterns that can be matched -/

/-- **A pattern that can be matched against any text.** -/
def Pattern.Total (p : Pattern) : Prop :=
  ∀ chars pos view, ∃ found, p.matchLength chars pos view = .ok found

/-- An entry with a pattern that can be matched against any text. -/
def Entry.Total (e : Entry) : Prop := ∃ p, e.pattern? = some p ∧ p.Total

/-- **A grammar whose patterns can all be matched against any text.** -/
def Grammar.Total (g : Grammar) : Prop := ∀ e ∈ g.entries, e.Total

/-- No text tangles an expression. -/
def Regex.TotalOnText (r : Regex) : Prop :=
  ∀ chars : Array Char, ∀ pos < chars.size, ∃ stop, r.matchEnd (.ofChars chars) pos = .ok stop

/-- No bytes tangle an expression. -/
def Regex.TotalOnBytes (r : Regex) : Prop :=
  ∀ bytes pos, ∃ stop, r.matchEnd (.ofBytes bytes) pos = .ok stop

namespace Pattern

variable {label : String} {kind : Int}

/-- Within the text a pattern can be matched if its matcher takes a number
of characters. -/
theorem total_iff_takes {p : Pattern} :
    p.Total ↔ ∀ chars pos view, pos < chars.size → ∃ n, takes p.matcher chars pos view = .ok n := by
  constructor
  · intro h chars pos view hpos
    obtain ⟨found, hfound⟩ := h chars pos view
    unfold matchLength at hfound
    rw [if_neg (Nat.not_le.mpr hpos)] at hfound
    cases htakes : takes p.matcher chars pos view with
    | ok n => exact ⟨n, rfl⟩
    | error t => rw [htakes] at hfound; cases hfound
  · intro h chars pos view
    unfold matchLength
    split
    · exact ⟨none, rfl⟩
    · rename_i hpos
      obtain ⟨n, hn⟩ := h chars pos view (Nat.not_le.mp hpos)
      rw [hn]
      exact ⟨_, rfl⟩

theorem total_literal (text : String) : Pattern.Total ⟨label, kind, .literal text⟩ :=
  total_iff_takes.mpr fun _ _ _ _ => ⟨_, rfl⟩

theorem total_range (low high : Char) : Pattern.Total ⟨label, kind, .range low high⟩ :=
  total_iff_takes.mpr fun _ _ _ _ => ⟨_, rfl⟩

theorem total_text_iff {source : String} {r : Regex} :
    Pattern.Total ⟨label, kind, .text source r⟩ ↔ r.TotalOnText := by
  rw [total_iff_takes]
  constructor
  · intro h chars pos hpos
    obtain ⟨n, hn⟩ := h chars pos none hpos
    simp only [takes] at hn
    cases hend : r.matchEnd (.ofChars chars) pos with
    | ok stop => exact ⟨stop, rfl⟩
    | error t => rw [hend] at hn; cases hn
  · intro h chars pos view hpos
    obtain ⟨stop, hstop⟩ := h chars pos hpos
    simp only [takes, hstop]
    exact ⟨_, rfl⟩

/-- An expression over bytes is matched against whatever view it is given. -/
theorem total_bytes_iff {source : ByteArray} {r : Regex} :
    Pattern.Total ⟨label, kind, .bytes source r⟩ ↔ r.TotalOnBytes := by
  rw [total_iff_takes]
  constructor
  · intro h bytes pos
    obtain ⟨n, hn⟩ := h #['a'] 0 (some ⟨bytes, pos⟩) Nat.one_pos
    simp only [takes, bytesLength, Option.getD_some] at hn
    cases hend : r.matchEnd (.ofBytes bytes) pos with
    | ok stop => exact ⟨stop, rfl⟩
    | error t => rw [hend] at hn; cases hn
  · intro h chars pos view _
    let seen := view.getD (.ofRest chars pos)
    obtain ⟨stop, hstop⟩ := h seen.bytes seen.pos
    simp only [takes, bytesLength, seen, hstop]
    exact ⟨_, rfl⟩

end Pattern

theorem Entry.total_ofPattern_iff {p : Pattern} : (Entry.ofPattern p).Total ↔ p.Total := by
  simp [Entry.Total, Entry.ofPattern, Entry.pattern?]

namespace Document

/-! ## Reported outcomes -/

/-- **An outcome that is reported**: a value with a property, or that the
document is malformed. -/
def Reported (P : α → Prop) : Except DocumentFault α → Prop
  | .ok a => P a
  | .error (.malformed _) => True
  | .error _ => False

variable {P Q : α → Prop} {x : Except DocumentFault α}

@[simp] theorem reported_ok {a : α} : Reported P (.ok a) ↔ P a := .rfl

@[simp] theorem reported_fault (f : GrammarFault) (entry : String) :
    Reported P (.error (fault f entry)) :=
  trivial

@[simp] theorem reported_quotingFault {f : GrammarFault} {quoted : List Value} {entry : String} :
    Reported P (.error (quotingFault f quoted entry)) ↔ quoted.all Value.isShowable = true := by
  unfold quotingFault
  split
  · simp [*]
  · simp [Reported, *]

theorem reported_iff :
    Reported P x ↔ (∃ a, x = .ok a ∧ P a) ∨ ∃ e, x = .error (.malformed e) := by
  cases x with
  | ok a => simp [Reported]
  | error f => cases f <;> simp [Reported]

theorem Reported.imp (h : Reported P x) (hPQ : ∀ a, x = .ok a → P a → Q a) : Reported Q x := by
  cases x with
  | ok a => exact hPQ a rfl h
  | error f => cases f <;> exact h

/-- Of two readers in a row, the second is asked only where the first gives
a value. -/
theorem reported_bind {f : α → Except DocumentFault β} {R : β → Prop} :
    Reported R (x >>= f) ↔ Reported (fun a => Reported R (f a)) x := by
  cases x with
  | ok a => rfl
  | error f => cases f <;> rfl

theorem reported_map {f : α → β} {R : β → Prop} :
    Reported R (x.map f) ↔ Reported (fun a => R (f a)) x := by
  cases x with
  | ok a => rfl
  | error f => cases f <;> rfl

/-! ## Types that are foreseen -/

/-- An expression that is read, and matched if it is well formed, without
anything but a report. -/
def Compiles (total : Regex → Prop) : Except Regex.Fault Regex → Prop
  | .ok r => total r
  | .error (.malformed ..) => True
  | .error (.refused _) => False

/-- **Ends of a range of a foreseen type**: texts, or values of which a
check says that they are no ends. -/
inductive EndsForeseen : Value → Value → Prop
  /-- Two texts, of any length and in any order. -/
  | texts (a b : String) : EndsForeseen (.text a) (.text b)
  /-- The first has a length, which is not one. -/
  | wideLow {low high : Value} {n : Nat} (h : low.length? = some n) (hn : n ≠ 1) :
    EndsForeseen low high
  /-- The second has a length, which is not one. -/
  | wideHigh {low high : Value} {n : Nat} (hlow : low.length? = some 1)
    (h : high.length? = some n) (hn : n ≠ 1) : EndsForeseen low high
  /-- The ends are of length one and the wrong way round, and can be quoted. -/
  | swapped {low high : Value} (hlow : low.length? = some 1) (hhigh : high.length? = some 1)
    (h : low.greater? high = some true) (hshow : low.isShowable && high.isShowable) :
    EndsForeseen low high

/-- **A matcher of a foreseen type**, by its key, under the flags of its
entry. A literal is a text, a range is between two ends, and expressions are
texts; whatever is empty is refused as a literal, and whatever is no pair as
a range. -/
def MatcherForeseen (flags : Regex.Flags) (key : String) (v : Value) : Prop :=
  if key == "literal" then v.isEmptyLike = true ∨ ∃ s, v = .text s
  else if key == "range" then ∀ low high, v = .list [low, high] → EndsForeseen low high
  else if key == "regex" then
    ∃ s, v = .text s ∧ Compiles Regex.TotalOnText (Regex.compile .text flags s.toList)
  else
    ∃ s, v = .text s ∧
      Compiles Regex.TotalOnBytes (Regex.compile .bytes flags (byteChars s.toUTF8))

/-- **The fields of an entry are of foreseen types.** -/
structure EntryForeseen (entry : List (String × Value)) : Prop where
  /-- The kind is natural, or can be quoted. -/
  kind : ∀ v, entry.lookup "kind" = some v → (∃ k, v.toInt? = some k ∧ 0 ≤ k) ∨ v.isShowable
  /-- The flags are texts. -/
  flags : ∀ v, entry.lookup "flags" = some v →
    ∃ names, v.elements? = some names ∧ ∀ name ∈ names, ∃ s, name = .text s
  /-- Under the flags that it names, each matcher is of a foreseen type. -/
  matcher : ∀ names label flags,
    elements ((entry.lookup "flags").getD (.list [])) = .ok names →
    flagsOf label .none names = .ok flags →
    ∀ key v, entry.lookup key = some v → key ∈ matcherKeys → MatcherForeseen flags key v

/-- **The fields of a document are of foreseen types.** -/
structure Foreseen (document : List (String × Value)) : Prop where
  /-- What is said about the grammar is a table. The kinds to skip are
  integers, or can be quoted. -/
  about : ∀ v, document.lookup "grammar" = some v → ∃ about, v = .table about ∧
    ∀ skip, about.lookup "skip" = some skip → ∃ items, skip.elements? = some items ∧
      ∀ item ∈ items, item.toInt?.isSome ∨ item.isShowable
  /-- So is every entry. -/
  entries : ∀ v, document.lookup "token" = some v → ∃ items, v.elements? = some items ∧
    ∀ item ∈ items, ∃ entry, item = .table entry ∧ EntryForeseen entry

/-! ## Matchers -/

variable {label : String} {kind : Int} {flags : Regex.Flags} {key : String} {v : Value}

theorem reported_literalEntry_iff :
    Reported Entry.Total (literalEntry label kind v) ↔
      v.isEmptyLike = true ∨ ∃ s, v = .text s := by
  unfold literalEntry
  split
  · simp [*]
  · rename_i hempty
    cases v with
    | text s => exact ⟨fun _ => .inr ⟨s, rfl⟩, fun _ => ⟨_, rfl, Pattern.total_literal s⟩⟩
    | _ => simp_all [Reported, Entry.Total, Entry.pattern?]

theorem reported_checkEndpoint_iff {Q : Prop} :
    Reported (fun _ => Q) (checkEndpoint label v) ↔
      (∃ n, v.length? = some n ∧ n ≠ 1) ∨ (v.length? = some 1 ∧ Q) := by
  unfold checkEndpoint
  split
  · simp [*]
  · rename_i n hn hlength
    have hone : n ≠ 1 := fun h => hn h
    simp [hlength, hone]
  · simp [Reported, *]

/-- A text of length one is a character. -/
theorem exists_singleton {s : String} (h : (Value.text s).length? = some 1) :
    ∃ c, s = .singleton c := by
  obtain ⟨c, hc⟩ : ∃ c, s.toList = [c] :=
    List.length_eq_one_iff.mp (by simpa [Value.length?, String.length_toList] using h)
  exact ⟨c, String.toList_inj.mp (hc.trans (String.toList_singleton c).symm)⟩

/-- Two values of length one that are in order are between characters only
if they are texts. -/
theorem total_rangeMatcher_iff {low high : Value} (hlow : low.length? = some 1)
    (hhigh : high.length? = some 1) :
    Entry.Total ⟨label, kind, rangeMatcher low high⟩ ↔
      ∃ a b, low = .text a ∧ high = .text b := by
  unfold rangeMatcher
  split
  · rename_i a b
    obtain ⟨c, rfl⟩ := exists_singleton hlow
    obtain ⟨d, rfl⟩ := exists_singleton hhigh
    rw [String.toList_singleton, String.toList_singleton]
    exact ⟨fun _ => ⟨_, _, rfl, rfl⟩, fun _ => ⟨_, rfl, Pattern.total_range c d⟩⟩
  · rename_i hne
    constructor
    · rintro ⟨p, hp, -⟩
      cases hp
    · rintro ⟨a, b, rfl, rfl⟩
      exact absurd rfl (hne a b rfl)

theorem reported_rangeEntry_iff {low high : Value} :
    Reported Entry.Total (rangeEntry label kind low high) ↔ EndsForeseen low high := by
  unfold rangeEntry
  rw [reported_bind, reported_checkEndpoint_iff, reported_bind, reported_checkEndpoint_iff]
  constructor
  · rintro (⟨n, hlow, hn⟩ | ⟨hlow, ⟨n, hhigh, hn⟩ | ⟨hhigh, h⟩⟩)
    · exact .wideLow hlow hn
    · exact .wideHigh hlow hhigh hn
    · split at h
      · rename_i hgreater
        exact .swapped hlow hhigh hgreater (by simpa using h)
      · obtain ⟨a, b, rfl, rfl⟩ := (total_rangeMatcher_iff hlow hhigh).mp h
        exact .texts a b
      · exact h.elim
  · intro h
    cases h with
    | texts a b =>
      by_cases ha : a.length = 1
      · by_cases hb : b.length = 1
        · refine .inr ⟨by simp [Value.length?, ha], .inr ⟨by simp [Value.length?, hb], ?_⟩⟩
          split
          · simp [Value.isShowable]
          · exact (total_rangeMatcher_iff (by simp [Value.length?, ha])
              (by simp [Value.length?, hb])).mpr ⟨a, b, rfl, rfl⟩
          · rename_i hnone
            simp [Value.greater?] at hnone
        · exact .inr ⟨by simp [Value.length?, ha], .inl ⟨b.length, rfl, hb⟩⟩
      · exact .inl ⟨a.length, rfl, ha⟩
    | wideLow hlow hn => exact .inl ⟨_, hlow, hn⟩
    | wideHigh hlow hhigh hn => exact .inr ⟨hlow, .inl ⟨_, hhigh, hn⟩⟩
    | swapped hlow hhigh hgreater hshow =>
      refine .inr ⟨hlow, .inr ⟨hhigh, ?_⟩⟩
      rw [hgreater]
      simpa using hshow

theorem reported_regex_iff {s : String} :
    Reported Entry.Total
        (((Pattern.regex label kind s flags).map Entry.ofPattern).mapError .ofRefusal) ↔
      Compiles Regex.TotalOnText (Regex.compile .text flags s.toList) := by
  unfold Pattern.regex
  cases Regex.compile .text flags s.toList with
  | ok r => exact Entry.total_ofPattern_iff.trans Pattern.total_text_iff
  | error f => cases f <;> rfl

theorem reported_byteRegex_iff {s : ByteArray} :
    Reported Entry.Total
        (((Pattern.byteRegex label kind s flags).map Entry.ofPattern).mapError .ofRefusal) ↔
      Compiles Regex.TotalOnBytes (Regex.compile .bytes flags (byteChars s)) := by
  unfold Pattern.byteRegex
  cases Regex.compile .bytes flags (byteChars s) with
  | ok r => exact Entry.total_ofPattern_iff.trans Pattern.total_bytes_iff
  | error f => cases f <;> rfl

/-- **The matcher of an entry is reported if and only if it is of a foreseen
type.** -/
theorem reported_matcherEntry_iff :
    Reported Entry.Total (matcherEntry label kind flags key v) ↔ MatcherForeseen flags key v := by
  unfold matcherEntry MatcherForeseen
  split
  · exact reported_literalEntry_iff
  · split
    · split
      · rename_i low high
        simp [reported_rangeEntry_iff]
      · rename_i hpair
        exact ⟨fun _ low high h => absurd h (hpair low high), fun _ => reported_fault ..⟩
    · split
      · unfold regexEntry
        split
        · simp [reported_regex_iff]
        · rename_i htext
          simpa [Reported] using fun s h => absurd h (htext s)
      · unfold bytesEntry
        split
        · simp [reported_byteRegex_iff]
        · rename_i htext
          simpa [Reported] using fun s h => absurd h (htext s)

/-! ## Entries -/

theorem reported_labelOf (number : Nat) (v : Option Value) :
    Reported (fun _ => True) (labelOf number v) := by
  unfold labelOf
  split
  · split
    · exact reported_fault ..
    · trivial
  · exact reported_fault ..

theorem reported_kindOf (h : (∃ k, v.toInt? = some k ∧ 0 ≤ k) ∨ v.isShowable) :
    Reported (fun _ => True) (kindOf label v) := by
  have hrefuse (hshow : v.isShowable) : Reported (fun _ => True) (kindOf.refuse label v) := by
    simpa [kindOf.refuse] using hshow
  unfold kindOf
  obtain ⟨k, hk, hnatural⟩ | hshow := h
  · rw [hk]
    simp [Int.not_lt.mpr hnatural]
  · split
    · split
      · exact hrefuse hshow
      · trivial
    · exact hrefuse hshow

theorem reported_flagsOf {names : List Value} (h : ∀ name ∈ names, ∃ s, name = .text s) :
    Reported (fun _ => True) (flagsOf label flags names) := by
  induction names generalizing flags with
  | nil => trivial
  | cons name names ih =>
    obtain ⟨s, rfl⟩ := h name List.mem_cons_self
    unfold flagsOf flagOf
    dsimp only
    split
    · exact ih fun name hname => h name (List.mem_cons_of_mem _ hname)
    · rename_i e he
      split at he
      · cases he
      · cases he
        exact reported_fault ..

theorem lookup_of_matchersOf {entry : List (String × Value)} (h : matchersOf entry = [(key, v)]) :
    entry.lookup key = some v ∧ key ∈ matcherKeys := by
  have hmem : (key, v) ∈ matchersOf entry := h ▸ List.mem_singleton_self _
  obtain ⟨key, hkey, hfound⟩ := List.mem_filterMap.mp hmem
  obtain ⟨v, hlookup, heq⟩ := Option.map_eq_some_iff.mp hfound
  cases heq
  exact ⟨hlookup, hkey⟩

theorem reported_elements_getD {field : Option Value} {Q : List Value → Prop} (hnil : Q [])
    (h : ∀ v, field = some v → ∃ items, v.elements? = some items ∧ Q items) :
    Reported Q (elements (field.getD (.list []))) := by
  cases field with
  | none => exact hnil
  | some v =>
    obtain ⟨items, hitems, hQ⟩ := h v rfl
    simpa [elements, hitems] using hQ

theorem reported_entryOf (number : Nat) {entry : List (String × Value)}
    (h : EntryForeseen entry) : Reported Entry.Total (entryOf number (.table entry)) := by
  have hkind : (∃ k, ((entry.lookup "kind").getD (.int number)).toInt? = some k ∧ 0 ≤ k) ∨
      ((entry.lookup "kind").getD (.int number)).isShowable := by
    cases hk : entry.lookup "kind" with
    | none => exact .inl ⟨number, rfl, Int.natCast_nonneg number⟩
    | some v => exact h.kind v hk
  unfold entryOf
  rw [reported_bind]
  show Reported _ (.ok entry)
  rw [reported_ok, reported_bind]
  refine (reported_labelOf ..).imp fun label _ _ => ?_
  rw [reported_bind]
  refine (reported_kindOf hkind).imp fun kind _ _ => ?_
  split
  · rename_i key v hmatchers
    obtain ⟨hlookup, hkey⟩ := lookup_of_matchersOf hmatchers
    rw [reported_bind]
    refine (reported_elements_getD (by simp) h.flags).imp fun names hnames htexts => ?_
    rw [reported_bind]
    refine (reported_flagsOf htexts).imp fun flags hflags _ => ?_
    have hmatcher := h.matcher names label flags hnames hflags key v hlookup hkey
    exact reported_matcherEntry_iff.mpr hmatcher
  · exact reported_fault ..

theorem reported_entriesFrom (number : Nat) {items : List Value}
    (h : ∀ item ∈ items, ∃ entry, item = .table entry ∧ EntryForeseen entry) :
    Reported (fun es => ∀ e ∈ es, e.Total) (entriesFrom number items) := by
  induction items generalizing number with
  | nil => simp [entriesFrom]
  | cons item items ih =>
    obtain ⟨entry, rfl, hentry⟩ := h item List.mem_cons_self
    have hhead := reported_entryOf number hentry
    unfold entriesFrom
    split
    · rename_i e he
      rw [he] at hhead
      rw [reported_map]
      refine (ih (number + 1) fun item hitem => h item (List.mem_cons_of_mem _ hitem)).imp ?_
      intro es _ hes
      exact List.forall_mem_cons.mpr ⟨hhead, hes⟩
    · rename_i f hf
      rw [hf] at hhead
      cases f <;> exact hhead

/-! ## Grammars -/

theorem reported_skipKindOf (g : Grammar) (h : v.toInt?.isSome ∨ v.isShowable) :
    Reported (fun _ => True) (skipKindOf g v) := by
  unfold skipKindOf
  split
  · trivial
  · rename_i hnone
    split
    · split
      · trivial
      · exact reported_fault ..
    · simpa [hnone] using h

theorem reported_skipKindsOf (g : Grammar) {items : List Value}
    (h : ∀ item ∈ items, item.toInt?.isSome ∨ item.isShowable) :
    Reported (fun _ => True) (skipKindsOf g items) := by
  induction items with
  | nil => trivial
  | cons item items ih =>
    have hhead := reported_skipKindOf g (h item List.mem_cons_self)
    unfold skipKindsOf
    split
    · rw [reported_map]
      exact ih fun item hitem => h item (List.mem_cons_of_mem _ hitem)
    · rename_i f hf
      rw [hf] at hhead
      cases f <;> exact hhead

/-- What is said about the grammar, if anything is, is a table. -/
theorem reported_about {document : List (String × Value)} (h : Foreseen document) :
    Reported (fun about => ∀ skip, about.lookup "skip" = some skip →
        ∃ items, skip.elements? = some items ∧
          ∀ item ∈ items, item.toInt?.isSome ∨ item.isShowable)
      (fields ((document.lookup "grammar").getD (.table []))) := by
  cases habout : document.lookup "grammar" with
  | none => simp [fields]
  | some v =>
    obtain ⟨about, rfl, hskip⟩ := h.about v habout
    exact hskip

theorem reported_ofDocument {document : List (String × Value)} (h : Foreseen document) :
    Reported Grammar.Total (Grammar.ofDocument (.table document)) := by
  unfold Grammar.ofDocument
  rw [reported_bind]
  show Reported _ (.ok document)
  rw [reported_ok, reported_bind]
  refine (reported_about h).imp fun about _ hskip => ?_
  dsimp only
  rw [reported_bind]
  refine (reported_elements_getD (by simp) h.entries).imp fun items _ hitems => ?_
  rw [reported_bind]
  refine (reported_entriesFrom 0 hitems).imp fun entries _ hentries => ?_
  rw [reported_bind]
  refine (reported_elements_getD (by simp) hskip).imp fun skips _ hskips => ?_
  rw [reported_bind]
  exact (reported_skipKindsOf _ hskips).imp fun kinds _ _ => hentries

/-- The document of one entry, with a label and a matcher. -/
def ofEntry (label key : String) (v : Value) : List (String × Value) :=
  [("token", .list [.table [("label", .text label), (key, v)]])]

/-- An entry with a label and one matcher is what its matcher is. -/
theorem entryOf_matcher (number : Nat) (hlabel : label ≠ "") (hkey : key ∈ matcherKeys) :
    entryOf number (.table [("label", .text label), (key, v)]) =
      matcherEntry label number .none key v := by
  have hnatural : ¬ (number : Int) < 0 := by omega
  simp only [matcherKeys, List.mem_cons, List.not_mem_nil, or_false] at hkey
  obtain rfl | rfl | rfl | rfl := hkey <;>
    simp [entryOf, fields, List.lookup_cons, labelOf, hlabel, kindOf, Value.toInt?, hnatural,
      matchersOf, matcherKeys, elements, Value.elements?, flagsOf, bind, Except.bind]

theorem ofDocument_ofEntry (hlabel : label ≠ "") (hkey : key ∈ matcherKeys) :
    Grammar.ofDocument (.table (ofEntry label key v)) =
      (matcherEntry label 0 .none key v).map fun e => { entries := [e] } := by
  have hentry : entriesFrom 0 [.table [("label", .text label), (key, v)]] =
      (matcherEntry label 0 .none key v).map fun e => [e] := by
    unfold entriesFrom
    rw [entryOf_matcher 0 hlabel hkey]
    cases matcherEntry label 0 .none key v <;> rfl
  simp only [Grammar.ofDocument]
  show (entriesFrom 0 [.table [("label", .text label), (key, v)]] >>= _) = _
  rw [hentry]
  cases matcherEntry label 0 .none key v <;> rfl

/-- **An entry by itself is reported if and only if its matcher is of a
foreseen type.** -/
theorem reported_ofEntry_iff (hlabel : label ≠ "") (hkey : key ∈ matcherKeys) :
    Reported Grammar.Total (Grammar.ofDocument (.table (ofEntry label key v))) ↔
      MatcherForeseen .none key v := by
  have htotal (e : Entry) : Grammar.Total { entries := [e] } ↔ e.Total := by
    simp [Grammar.Total]
  rw [ofDocument_ofEntry hlabel hkey, reported_map]
  simp only [htotal]
  exact reported_matcherEntry_iff

/-- **What is wrong with a document whose values are of foreseen types is
reported.** One gets a grammar of which every pattern can be matched against
every text, or that the document is malformed. A matcher that is not of a
foreseen type is not reported: an entry with it fails for another cause, or
gives a pattern that cannot be matched. -/
theorem ofDocument_reports (document : List (String × Value)) :
    (Foreseen document →
      (∃ g, Grammar.ofDocument (.table document) = .ok g ∧ g.Total) ∨
        ∃ e, Grammar.ofDocument (.table document) = .error (.malformed e)) ∧
    ∀ label key v, label ≠ "" → key ∈ matcherKeys → ¬ MatcherForeseen .none key v →
      (∃ g, Grammar.ofDocument (.table (ofEntry label key v)) = .ok g ∧ ¬ g.Total) ∨
        ∃ f, Grammar.ofDocument (.table (ofEntry label key v)) = .error f ∧
          ∀ e, f ≠ .malformed e := by
  refine ⟨fun h => reported_iff.mp (reported_ofDocument h), ?_⟩
  intro label key v hlabel hkey hmatcher
  have hsilent := mt (reported_ofEntry_iff hlabel hkey).mp hmatcher
  cases hread : Grammar.ofDocument (.table (ofEntry label key v)) with
  | ok g =>
    rw [hread] at hsilent
    exact .inl ⟨g, rfl, hsilent⟩
  | error f =>
    rw [hread] at hsilent
    refine .inr ⟨f, rfl, ?_⟩
    rintro e rfl
    exact hsilent trivial

/-- A number in place of an expression, of a literal, or of what is said about
the grammar is not reported. -/
theorem ofDocument_number_unreported :
    Grammar.ofDocument (.table (ofEntry "x" "regex" (.int 5))) = .error .expressionNotText ∧
    (∃ g, Grammar.ofDocument (.table (ofEntry "x" "literal" (.int 5))) = .ok g ∧ ¬ g.Total) ∧
    Grammar.ofDocument (.table [("grammar", .int 1)]) = .error .notTable := by
  refine ⟨rfl, ⟨_, rfl, ?_⟩, rfl⟩
  intro htotal
  obtain ⟨p, hp, -⟩ := htotal _ List.mem_cons_self
  cases hp

/-- Units in a row tangle nothing. -/
theorem totalOnText_oneOrMore (u : Regex.UnitTest) : (Regex.oneOrMore u).TotalOnText := by
  rintro ⟨text⟩ pos hpos
  exact ⟨_, Regex.matchEnd_oneOrMore u (Nat.le_of_lt hpos)⟩

/-- A document with a literal, a range and an expression. -/
def small : List (String × Value) :=
  [("grammar", .table [("skip", .list [.text "gap"])]),
    ("token", .list [
      .table [("label", .text "let"), ("literal", .text "let")],
      .table [("label", .text "word"), ("range", .list [.text "a", .text "z"])],
      .table [("label", .text "gap"), ("regex", .text " +"), ("flags", .list [.text "ascii"])]])]

theorem entryForeseen_let :
    EntryForeseen [("label", .text "let"), ("literal", .text "let")] where
  kind := by rintro v ⟨⟩
  flags := by rintro v ⟨⟩
  matcher := by
    rintro names label flags - - key v hv hkey
    simp only [matcherKeys, List.mem_cons, List.not_mem_nil, or_false] at hkey
    obtain rfl | rfl | rfl | rfl := hkey <;> cases hv
    exact .inr ⟨"let", rfl⟩

theorem entryForeseen_word :
    EntryForeseen [("label", .text "word"), ("range", .list [.text "a", .text "z"])] where
  kind := by rintro v ⟨⟩
  flags := by rintro v ⟨⟩
  matcher := by
    rintro names label flags - - key v hv hkey
    simp only [matcherKeys, List.mem_cons, List.not_mem_nil, or_false] at hkey
    obtain rfl | rfl | rfl | rfl := hkey <;> cases hv
    rintro low high ⟨⟩
    exact .texts "a" "z"

theorem compile_blanks :
    Regex.compile .text { ascii := true } " +".toList =
      .ok (Regex.oneOrMore (.one 32 false .exact)) :=
  rfl

theorem entryForeseen_gap :
    EntryForeseen
      [("label", .text "gap"), ("regex", .text " +"), ("flags", .list [.text "ascii"])] where
  kind := by rintro v ⟨⟩
  flags := by
    rintro v ⟨⟩
    exact ⟨_, rfl, by simp⟩
  matcher := by
    rintro names label flags ⟨⟩ hflags key v hv hkey
    have hascii : flagsOf label .none [.text "ascii"] = .ok { ascii := true } := by rfl
    cases hascii.symm.trans hflags
    simp only [matcherKeys, List.mem_cons, List.not_mem_nil, or_false] at hkey
    obtain rfl | rfl | rfl | rfl := hkey <;> cases hv
    refine ⟨" +", rfl, ?_⟩
    rw [compile_blanks]
    exact totalOnText_oneOrMore _

theorem foreseen_small : Foreseen small where
  about := by
    rintro v ⟨⟩
    refine ⟨_, rfl, ?_⟩
    rintro skip ⟨⟩
    exact ⟨_, rfl, by simp [Value.isShowable]⟩
  entries := by
    rintro v ⟨⟩
    refine ⟨_, rfl, ?_⟩
    simp only [List.forall_mem_cons, List.not_mem_nil, false_implies, implies_true, and_true]
    exact ⟨⟨_, rfl, entryForeseen_let⟩, ⟨_, rfl, entryForeseen_word⟩, ⟨_, rfl, entryForeseen_gap⟩⟩

/-- A small document gives a grammar that can be matched, and a truth
value as an expression is not reported. -/
theorem ofDocument_reports_small :
    (Foreseen small ∧
      ((∃ g, Grammar.ofDocument (.table small) = .ok g ∧ g.Total) ∨
        ∃ e, Grammar.ofDocument (.table small) = .error (.malformed e))) ∧
    ¬ MatcherForeseen .none "bytes" (.bool true) ∧
      ((∃ g, Grammar.ofDocument (.table (ofEntry "x" "bytes" (.bool true))) = .ok g ∧ ¬ g.Total) ∨
        ∃ f, Grammar.ofDocument (.table (ofEntry "x" "bytes" (.bool true))) = .error f ∧
          ∀ e, f ≠ .malformed e) := by
  have hbytes : ¬ MatcherForeseen .none "bytes" (.bool true) := by
    rintro ⟨s, ⟨⟩, -⟩
  obtain ⟨hreported, hsilent⟩ := ofDocument_reports small
  exact ⟨⟨foreseen_small, hreported foreseen_small⟩, hbytes,
    hsilent "x" "bytes" (.bool true) (by decide) (by decide) hbytes⟩

end Document

end ParseKit
