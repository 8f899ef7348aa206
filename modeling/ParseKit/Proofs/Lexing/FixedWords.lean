import ParseKit.Proofs.Lexing.Matching
import ParseKit.Proofs.Lexing.SideBySide
import ParseKit.Proofs.Regex.Words
import Mathlib.Data.List.Forall2

/-!
# Three ways to write a fixed word

A keyword can be written as a literal, as an expression over text and as an
expression over bytes. If no character of it has a meaning of its own in
expressions, the three forms are the same pattern to whoever uses them:
each **spells** the word, that is, it matches the word where the word comes
next and nothing elsewhere, and no table of patterns gives other tokens when
one form takes the place of another (`fixedWord_forms_agree`).

The last form is tried at a byte and ends at a byte. That it spells the word is
due to UTF-8: bytes from the front of a text are those of a word just if the
word is at the front of the text (`Text.byteChars_prefix_iff`), however many
bytes its characters have.
-/

namespace ParseKit

namespace Pattern

/-- **A pattern spells a word**: at a position of a text, given all bytes of the text
or none, it matches the word if it comes next, and nothing otherwise. -/
def Spells (p : Pattern) (w : String) : Prop :=
  ∀ (source : String) (pos : Nat) (view : Option ByteView),
    (view = none ∨ view = some (.whole source pos)) →
      p.matchLength source.toList.toArray pos view
        = .ok (if w.toList <+: source.toList.drop pos then some (w.length : Int) else none)

/-- Patterns for one word are interchangeable. -/
theorem Spells.interchangeable {p q : Pattern} {w : String} (hp : p.Spells w) (hq : q.Spells w)
    (hlabel : p.label = q.label) (hkind : p.kind = q.kind) : p.Interchangeable q :=
  ⟨hlabel, hkind, fun source offset =>
    (hp source offset _ (.inr rfl)).trans (hq source offset _ (.inr rfl)).symm⟩

/-- **A pattern spells a word if its matcher takes the word** where it comes next, and
nothing elsewhere. -/
theorem spells_of_takes {p : Pattern} {w : String} (hw : w ≠ "")
    (h : ∀ (source : String) (pos : Nat) (view : Option ByteView), pos < source.length →
      (view = none ∨ view = some (.whole source pos)) →
        takes p.matcher source.toList.toArray pos view
          = .ok (if w.toList <+: source.toList.drop pos then (w.length : Int) else 0)) :
    p.Spells w := by
  have hlength : w.length ≠ 0 := fun hzero => hw (String.length_eq_zero_iff.mp hzero)
  intro source pos view hview
  unfold matchLength
  rw [List.size_toArray, String.length_toList]
  by_cases hpos : source.length ≤ pos
  · -- at the end there is no room for a character
    have hend : ¬ w.toList <+: source.toList.drop pos := by
      rw [List.drop_eq_nil_of_le (by rwa [String.length_toList]), List.prefix_nil,
        String.toList_eq_nil_iff]
      exact hw
    rw [if_pos hpos, if_neg hend]
  · rw [if_neg hpos, h source pos view (Nat.lt_of_not_le hpos) hview]
    by_cases hcomes : w.toList <+: source.toList.drop pos
    · simp [Except.map, hcomes, hlength]
    · simp [Except.map, hcomes]

theorem literal_spells (label : String) (kind : Int) {w : String} (hw : w ≠ "") :
    (⟨label, kind, .literal w⟩ : Pattern).Spells w := by
  refine spells_of_takes hw fun source pos view _ _ => ?_
  show Except.ok (if startsAt _ _ _ then _ else _) = _
  simp only [startsAt_iff]

theorem text_spells (label : String) (kind : Int) {w : String} (hw : w ≠ "") :
    (⟨label, kind, .text w (.ofChars w.toList)⟩ : Pattern).Spells w := by
  refine spells_of_takes hw fun source pos view hpos _ => ?_
  have hle : pos ≤ source.toList.length := by
    rw [String.length_toList]
    exact Nat.le_of_lt hpos
  show ((Regex.ofChars w.toList).matchEnd _ pos).map _ = _
  rw [Regex.matchEnd_ofChars _ hle, String.length_toList]
  by_cases hcomes : w.toList <+: source.toList.drop pos
  · simp [Except.map, hcomes]
  · simp [Except.map, hcomes]

/-- **A word over bytes takes its characters** where they come next. -/
theorem bytesLength_word {w rest : List Char} {v : ByteView} (hv : v.Shows rest) :
    bytesLength (.ofChars (byteChars (Text.encode w))) v
      = .ok (if w <+: rest then w.length else 0) := by
  rw [bytesLength_eq_of_shows (Regex.looksAhead_ofChars _) hv]
  unfold bytesLength
  rw [Regex.matchEnd_ofBytes _ (Nat.zero_le _), List.drop_zero, Nat.zero_add]
  by_cases hcomes : w <+: rest
  · -- the match ends where the characters of the word end
    have hfront : (Text.encode rest).extract 0 (Text.encode w).size = Text.encode w := by
      rw [Text.size_encode, List.prefix_iff_eq_take.mp hcomes, Text.extract_encode_take]
    rw [if_pos hcomes, if_pos (Text.byteChars_prefix_iff.mpr hcomes)]
    dsimp only [Except.map]
    rw [hfront, Text.decode?_encode]
    simp
  · rw [if_neg hcomes, if_neg fun h => hcomes (Text.byteChars_prefix_iff.mp h)]
    rfl

theorem bytes_spells (label : String) (kind : Int) {w : String} (hw : w ≠ "") :
    (⟨label, kind, .bytes w.toUTF8 (.ofChars (byteChars (Text.encode w.toList)))⟩ :
      Pattern).Spells w := by
  refine spells_of_takes hw fun source pos view _ hview => ?_
  show (bytesLength _ (viewed source pos view)).map _ = _
  rw [bytesLength_word (viewed_shows hview), String.length_toList]
  by_cases hcomes : w.toList <+: source.toList.drop pos
  · simp [Except.map, hcomes]
  · simp [Except.map, hcomes]

/-- **The three forms of a word**: the literal, and the row of its characters over text
and over bytes. -/
def forms (label : String) (kind : Int) (w : String) : List Pattern :=
  [⟨label, kind, .literal w⟩, ⟨label, kind, .text w (.ofChars w.toList)⟩,
    ⟨label, kind, .bytes w.toUTF8 (.ofChars (byteChars (Text.encode w.toList)))⟩]

theorem forms_spell {label : String} {kind : Int} {w : String} (hw : w ≠ "") {p : Pattern}
    (hp : p ∈ forms label kind w) : p.Spells w ∧ p.label = label ∧ p.kind = kind := by
  simp only [forms, List.mem_cons, List.not_mem_nil, or_false] at hp
  rcases hp with rfl | rfl | rfl
  · exact ⟨literal_spells label kind hw, rfl, rfl⟩
  · exact ⟨text_spells label kind hw, rfl, rfl⟩
  · exact ⟨bytes_spells label kind hw, rfl, rfl⟩

end Pattern

/-- **One form of a pattern may take the place of another** in a table: the lexers that
have the one and the other read the same. -/
theorem Pattern.Interchangeable.readSame {p q : Pattern} (h : p.Interchangeable q)
    (before after : List Pattern) (source filename : String) :
    Lexer.ReadSame (.onSource (before ++ p :: after) source filename)
      (.onSource (before ++ q :: after) source filename) := by
  have hsame : ∀ ps : List Pattern, List.Forall₂ Interchangeable ps ps :=
    fun ps => List.forall₂_same.mpr fun p _ => .refl p
  have htables := List.rel_append (hsame before) (List.Forall₂.cons h (hsame after))
  refine (Lexer.along_interchangeable htables).readAlike ?_
    ⟨Lexer.standsIn_onSource _ source filename, rfl, rfl⟩
  rintro l m ⟨-, -, rfl⟩
  rfl

/-- **Three ways to write a fixed word agree.** A word without a character that has a
meaning of its own in expressions can be written as a literal and as an
expression over text and over bytes. Each of these patterns matches the word where it
comes next and nothing elsewhere, and each may take the place of another in any
table, without a change to the tokens of any source. A closing bracket or brace has
a meaning after an opening one only, so that it may be part of the word. -/
theorem fixedWord_forms_agree (label : String) (kind : Int) (w : String) (hw : w ≠ "")
    (hplain : ∀ c ∈ w.toList, Regex.isSpecial c = false) :
    ∃ asLiteral asText asBytes,
      Pattern.literal label kind w = .ok asLiteral
      ∧ Pattern.regex label kind w = .ok asText
      ∧ Pattern.byteRegex label kind w.toUTF8 = .ok asBytes
      ∧ (∀ p ∈ [asLiteral, asText, asBytes], p.Spells w)
      ∧ ∀ p ∈ [asLiteral, asText, asBytes], ∀ q ∈ [asLiteral, asText, asBytes],
        ∀ (before after : List Pattern) (source filename : String),
          tokenize (before ++ p :: after) source filename
              = tokenize (before ++ q :: after) source filename
            ∧ Lexer.ReadSame (.onSource (before ++ p :: after) source filename)
              (.onSource (before ++ q :: after) source filename) := by
  have hencode : w.toUTF8 = Text.encode w.toList := by
    rw [Text.encode, String.ofList_toList]
  have hbytes : Regex.compile .bytes .none (byteChars w.toUTF8)
      = .ok (.ofChars (byteChars (Text.encode w.toList))) := by
    rw [hencode]
    exact Regex.compile_plain .bytes (Regex.isSpecial_byteChars hplain)
  refine ⟨⟨label, kind, .literal w⟩, ⟨label, kind, .text w (.ofChars w.toList)⟩,
    ⟨label, kind, .bytes w.toUTF8 (.ofChars (byteChars (Text.encode w.toList)))⟩, ?_, ?_, ?_, ?_⟩
  · rw [Pattern.literal, if_neg (by simpa using hw)]
  · rw [Pattern.regex, Regex.compile_plain .text hplain]
  · rw [Pattern.byteRegex, hbytes]
  · refine ⟨fun p hp => (Pattern.forms_spell hw hp).1, ?_⟩
    intro p hp q hq before after source filename
    obtain ⟨hpw, hplabel, hpkind⟩ := Pattern.forms_spell hw hp
    obtain ⟨hqw, hqlabel, hqkind⟩ := Pattern.forms_spell hw hq
    have hsame := (hpw.interchangeable hqw (hplabel.trans hqlabel.symm)
      (hpkind.trans hqkind.symm)).readSame before after source filename
    exact ⟨hsame.result_eq, hsame⟩

/-- A letter and a sign that the word begins and ends with. -/
def aroundPrice : List Pattern := [⟨"letter", 1, .literal "n"⟩, ⟨"clef", 2, .range '𝄞' '𝄞'⟩]

/-- A word with characters of one to four bytes, in a source that has it twice and its
last character once more. -/
theorem fixedWord_forms_agree_clef :
    "né€𝄞" ≠ "" ∧ (∀ c ∈ "né€𝄞".toList, Regex.isSpecial c = false)
      ∧ ∃ asLiteral asBytes,
        Pattern.literal "price" 7 "né€𝄞" = .ok asLiteral
        ∧ Pattern.byteRegex "price" 7 "né€𝄞".toUTF8 = .ok asBytes
        ∧ (tokenize (asLiteral :: aroundPrice) "né€𝄞𝄞nné€𝄞" "f").map
            (List.map fun t => (t.label, t.text))
          = .ok [("price", "né€𝄞"), ("clef", "𝄞"), ("letter", "n"), ("price", "né€𝄞")]
        ∧ tokenize (asBytes :: aroundPrice) "né€𝄞𝄞nné€𝄞" "f"
          = tokenize (asLiteral :: aroundPrice) "né€𝄞𝄞nné€𝄞" "f" := by
  have hnone : "né€𝄞".toList.all (fun c => Regex.isSpecial c == false) = true := by decide +kernel
  have hplain : ∀ c ∈ "né€𝄞".toList, Regex.isSpecial c = false := by simpa using hnone
  obtain ⟨asLiteral, asText, asBytes, hliteral, -, hbytes, -, hswap⟩ :=
    fixedWord_forms_agree "price" 7 "né€𝄞" (by decide) hplain
  have hform : asLiteral = ⟨"price", 7, .literal "né€𝄞"⟩ := Except.ok.inj hliteral.symm
  refine ⟨by decide, hplain, asLiteral, asBytes, hliteral, hbytes, ?_, ?_⟩
  · rw [hform]
    decide +kernel
  · exact (hswap asBytes (by simp) asLiteral (by simp) [] aroundPrice "né€𝄞𝄞nné€𝄞" "f").1

end ParseKit
