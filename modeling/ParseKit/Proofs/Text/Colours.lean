import ParseKit.Proofs.Decimal.ReadBack
import ParseKit.Proofs.Text.Quoting
import ParseKit.Text.Ansi
import ParseKit.Text.Encoding
import ParseKit.Text.Lines
import Mathlib.Data.List.Forall2

/-!
# Texts with colours

A text with colours shows a plain text if it is that text with colour sequences put in
(`Shows`). This is kept where texts are put together: by what follows one another, by
painting, and by lines (`Shows.append`, `Shows.paint`, `Shows.lines`). A text shows itself
if it is clear, that is, without the escape character. So whatever is built alike with and
without colours, from clear texts, is the same once the sequences are taken out
(`Shows.stripColours_eq`).

The second part says which texts are clear: those of numbers, quoted texts, lines of a
clear text, and what bytes spell, unless the escape character is among the bytes.
-/

namespace ParseKit.Text

/-! ## Colour sequences put in -/

/-- The parameters of colour sequences are digits and semicolons. -/
def isColourParameter (c : Char) : Bool := ('0' ≤ c && c ≤ '9') || c == ';'

/-- **The first text is the second with colour sequences put in**, and the second is without
the escape character. -/
inductive Coloured : (painted plain : List Char) → Prop where
  /-- Nothing is left. -/
  | nil : Coloured [] []
  /-- A character of both texts. -/
  | char {c : Char} {a b : List Char} (hc : c ≠ escape) (h : Coloured a b) :
      Coloured (c :: a) (c :: b)
  /-- A colour sequence. -/
  | sequence {params a b : List Char} (hparams : ∀ c ∈ params, isColourParameter c = true)
      (h : Coloured a b) : Coloured (escape :: '[' :: (params ++ 'm' :: a)) b

theorem Coloured.append {a b c d : List Char} (h : Coloured a b) (h' : Coloured c d) :
    Coloured (a ++ c) (b ++ d) := by
  induction h with
  | nil => exact h'
  | char hc _ ih => exact .char hc ih
  | sequence hparams _ ih =>
    rw [List.cons_append, List.cons_append, List.append_assoc]
    exact .sequence hparams ih

theorem Coloured.of_not_mem {cs : List Char} (h : escape ∉ cs) : Coloured cs cs := by
  induction cs with
  | nil => exact .nil
  | cons c cs ih =>
    rw [List.mem_cons, not_or] at h
    exact .char (Ne.symm h.1) (ih h.2)

theorem afterColour?_parameters {params : List Char}
    (h : ∀ c ∈ params, isColourParameter c = true) (rest : List Char) :
    afterColour? (params ++ 'm' :: rest) = some rest := by
  have hdrop : (params ++ 'm' :: rest).dropWhile isColourParameter = 'm' :: rest := by
    rw [List.dropWhile_append_of_pos h, List.dropWhile_cons_of_neg (by decide)]
  unfold afterColour?
  split
  case h_1 left hleft =>
    cases hdrop.symm.trans hleft
    rfl
  case h_2 hother => exact absurd hdrop (hother rest)

/-- **Without the sequences the plain text is left.** -/
theorem Coloured.stripWith_eq {a b : List Char} (h : Coloured a b) {fuel : Nat}
    (hfuel : a.length ≤ fuel) : stripWith afterColour? fuel a = b := by
  induction h generalizing fuel with
  | nil => cases fuel <;> rfl
  | @char c a b hc _ ih =>
    obtain ⟨fuel, rfl⟩ := Nat.exists_eq_add_one.mpr (Nat.lt_of_lt_of_le (Nat.succ_pos _) hfuel)
    have hne : (c == escape) = false := beq_false_of_ne hc
    simp only [stripWith, hne, Bool.false_eq_true, ite_false,
      ih (Nat.le_of_succ_le_succ hfuel)]
  | @sequence params a b hparams _ ih =>
    obtain ⟨fuel, rfl⟩ := Nat.exists_eq_add_one.mpr (Nat.lt_of_lt_of_le (Nat.succ_pos _) hfuel)
    simp only [List.length_cons, List.length_append] at hfuel
    simp only [stripWith, BEq.rfl, ite_true, afterColour?_parameters hparams]
    exact ih (by omega)

/-- **A text with colours shows a plain text.** -/
def Shows (painted plain : String) : Prop := Coloured painted.toList plain.toList

/-- A text without the escape character. -/
def Clear (s : String) : Prop := escape ∉ s.toList

instance (s : String) : Decidable (Clear s) := inferInstanceAs (Decidable (escape ∉ s.toList))

/-- The parameters of a style are those of colours. -/
def Style.IsColour (s : Style) : Prop := s.parameters.toList.all isColourParameter = true

instance (s : Style) : Decidable s.IsColour :=
  inferInstanceAs (Decidable (s.parameters.toList.all isColourParameter = true))

theorem Clear.shows {s : String} (h : Clear s) : Shows s s := Coloured.of_not_mem h

namespace Shows

variable {a b c d : String}

theorem append (h : Shows a b) (h' : Shows c d) : Shows (a ++ c) (b ++ d) := by
  unfold Shows
  rw [String.toList_append, String.toList_append]
  exact Coloured.append h h'

/-- A colour sequence shows nothing. -/
theorem sequence {s : Style} (hs : s.IsColour) : Shows s.sequence "" := by
  have hsequence : s.sequence.toList = escape :: '[' :: (s.parameters.toList ++ ['m']) := by
    simp [Style.sequence]
  unfold Shows
  rw [hsequence]
  exact .sequence (List.all_eq_true.mp hs) .nil

/-- **A painted text shows what the text shows.** -/
theorem paint {s : Style} (hs : s.IsColour) (h : Shows a b) :
    Shows (Text.paint true s a) (Text.paint false s b) := by
  have hwrap := ((sequence hs).append h).append (sequence (s := ⟨"0"⟩) (by decide))
  rwa [String.empty_append, String.append_empty] at hwrap

/-- **Texts of many lines**: each line is shown by its own. -/
theorem lines {as bs : List String} (h : List.Forall₂ Shows as bs) :
    Shows ("\n".intercalate as) ("\n".intercalate bs) := by
  have hfeed : Clear "\n" := by decide
  induction h with
  | nil => exact .nil
  | cons hfirst hrest ih =>
    cases hrest with
    | nil => simpa using hfirst
    | cons hsecond hrest =>
      rw [String.intercalate_cons_cons, String.intercalate_cons_cons]
      exact (hfirst.append hfeed.shows).append ih

/-- **What is shown is what is left without the colour sequences.** -/
theorem stripColours_eq (h : Shows a b) : stripColours a = b := by
  rw [stripColours, Coloured.stripWith_eq h (by rw [String.length_toList]), String.ofList_toList]

end Shows

/-! ## Clear texts -/

theorem clear_append {s t : String} : Clear (s ++ t) ↔ Clear s ∧ Clear t := by
  unfold Clear
  rw [String.toList_append, List.mem_append, not_or]

theorem clear_replicate (n : Nat) {c : Char} (hc : c ≠ escape) :
    Clear (String.ofList (List.replicate n c)) := by
  intro hmem
  rw [String.toList_ofList] at hmem
  exact hc (List.eq_of_mem_replicate hmem).symm

/-- Quoted texts are clear. -/
theorem clear_quote (s : String) : Clear (quote s) := by
  intro hmem
  rw [quote, String.toList_ofList] at hmem
  exact absurd (isPrintable_of_mem_quoteChars hmem) (by decide)

theorem clear_toString_int (k : Int) : Clear (toString k) := by
  intro hmem
  rcases Decimal.mem_toString_int hmem with hdigit | hsign
  · exact absurd hdigit (by decide)
  · exact absurd hsign (by decide)

theorem clear_toString_nat (n : Nat) : Clear (toString n) := clear_toString_int n

/-- **Lines of a clear text are clear.** -/
theorem clear_of_mem_splitLines {s line : String} (h : Clear s) (hline : line ∈ splitLines s) :
    Clear line := by
  obtain ⟨l, hl, rfl⟩ := List.mem_map.mp hline
  intro hmem
  rw [String.toList_ofList] at hmem
  refine h ?_
  rw [← flatMap_whole_linesOf s.toList, List.mem_flatMap]
  exact ⟨l, hl, List.mem_append_left _ hmem⟩

end ParseKit.Text

namespace ParseKit

/-- **The text of a number is clear.** -/
theorem Binary64.clear_plainText (x : Binary64) : Text.Clear x.plainText := by
  have hdecimal (d : Decimal) : Text.escape ∉ d.text .standard := fun hmem => by
    rcases Decimal.mem_text hmem with hdigit | hother
    · exact absurd hdigit (by decide)
    · exact absurd hother (by decide)
  unfold plainText
  cases x.toInt? with
  | some n => exact Text.clear_toString_int n
  | none =>
    unfold Text.Clear
    dsimp only
    rw [text, String.toList_ofList]
    cases x with
    | nan => decide
    | infinite negative => cases negative <;> decide
    | finite negative mant exp =>
      have hsign : Text.escape ∉ (if negative then ['-'] else []) := by cases negative <;> decide
      rw [textWith, List.mem_append, not_or]
      refine ⟨hsign, ?_⟩
      split
      · decide
      · exact hdecimal _

namespace Text

/-! ## What bytes spell -/

/-- A character in the making will not be one of the first 128, whatever bytes follow. -/
def Pending.Wide (p : Pending) : Prop :=
  2 ≤ p.bits ∨ p.owed ≠ 1 ∧ 2 ≤ p.bits * 64 + (p.least - 0x80)

/-- **The lead bytes**: a byte by itself has its own code, and one that opens a character
opens a wide one. -/
theorem Lead.ofByte_cases (b : Nat) :
    match Lead.ofByte b with
    | .whole c => c = Char.ofNat b
    | .opens p => p.Wide
    | .stray => True := by
  unfold Lead.ofByte Pending.Wide
  simp only [beq_iff_eq]
  split_ifs <;> dsimp only <;> omega

theorem eq_of_ofNat_eq_escape {n : Nat} (h : Char.ofNat n = escape) : n = 27 := by
  have hcode : (Char.ofNat n).toNat = 27 := congrArg Char.toNat h
  by_cases hvalid : n.isValidChar
  · rw [Char.ofNat, dif_pos hvalid] at hcode
    exact hcode
  · rw [Char.ofNat, dif_neg hvalid] at hcode
    exact absurd hcode (by decide)

/-- A byte that is taken makes the code greater than the first 128, or leaves it wide. -/
theorem Pending.Wide.next {p : Pending} (h : p.Wide) {b : Nat} (hb : p.least ≤ b) :
    2 ≤ p.bits * 64 + (b - 0x80) ∧ (p.owed = 1 → 128 ≤ p.bits * 64 + (b - 0x80)) := by
  unfold Pending.Wide at h
  omega

/-- **Bytes do not spell the escape character**, unless it is among them. -/
theorem escape_not_mem_decodeLossyFrom {bytes : List UInt8} (h : 27 ∉ bytes)
    {pending : Option Pending} (hwide : ∀ p ∈ pending, p.Wide) :
    escape ∉ decodeLossyFrom pending bytes := by
  have hreplacement : escape ≠ replacement := by decide
  induction bytes generalizing pending with
  | nil =>
    cases pending with
    | none => exact List.not_mem_nil
    | some p => simpa [decodeLossyFrom] using hreplacement
  | cons b bytes ih =>
    obtain ⟨hb, hbytes⟩ := not_or.mp (mt List.mem_cons.mpr h)
    have hnone : escape ∉ decodeLossyFrom none bytes := ih hbytes (fun _ hp => nomatch hp)
    have hsome : ∀ p : Pending, p.Wide → escape ∉ decodeLossyFrom (some p) bytes := fun p hp =>
      ih hbytes fun q hq => Option.some.inj hq ▸ hp
    have hcons : ∀ {c}, escape ≠ c → escape ∉ c :: decodeLossyFrom none bytes := fun hc hmem =>
      (List.mem_cons.mp hmem).elim hc hnone
    -- a byte at the start of a character
    have hstart : escape ∉ decodeLossyFrom none (b :: bytes) := by
      have hlead := Lead.ofByte_cases b.toNat
      simp only [decodeLossyFrom]
      cases hbyte : Lead.ofByte b.toNat with
      | whole c =>
        rw [hbyte] at hlead
        refine hcons fun hc => hb ?_
        exact (UInt8.toNat_inj.mp (eq_of_ofNat_eq_escape (hc.trans hlead).symm)).symm
      | opens p =>
        rw [hbyte] at hlead
        exact hsome p hlead
      | stray => exact hcons hreplacement
    cases pending with
    | none => exact hstart
    | some p =>
      have hp := hwide p rfl
      simp only [decodeLossyFrom] at hstart ⊢
      split
      case isTrue htaken =>
        obtain ⟨hmore, hlast⟩ := hp.next (of_decide_eq_true (Bool.and_eq_true_iff.mp htaken).1)
        split
        case isTrue howed =>
          refine hcons fun hc => ?_
          have hcode := eq_of_ofNat_eq_escape hc.symm
          have := hlast (beq_iff_eq.mp howed)
          omega
        case isFalse => exact hsome _ (.inl hmore)
      case isFalse => exact fun hmem => (List.mem_cons.mp hmem).elim hreplacement hstart

theorem clear_decodeLossy {bytes : ByteArray} (h : 27 ∉ bytes.toList) :
    Clear (decodeLossy bytes) := by
  unfold Clear decodeLossy
  rw [String.toList_ofList]
  exact escape_not_mem_decodeLossyFrom h (fun _ hp => nomatch hp)

end Text

end ParseKit
