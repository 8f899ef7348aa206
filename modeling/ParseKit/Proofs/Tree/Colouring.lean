import ParseKit.Tree.Dump
import ParseKit.Proofs.Text.Colours

/-!
# Dumps with colours

A dump with colours shows the dump without (`Dumpable.shows_dump`), for trees, results,
tokens and patterns whose labels and expressions are clear of the escape character.
Everything else in a dump is clear by itself: numbers, guides, and texts, which are quoted.

The lines of children are compared at two indentations, of which one shows the other;
guides of both kinds come to them on the way down (`shows_childLines`).
-/

namespace ParseKit

open Text

namespace Dump

/-! ## Parts of lines -/

theorem shows_branch (last : Bool) : Shows (branch true last) (branch false last) := by
  have hclear : Clear (if last then "└─ " else "├─ ") := by cases last <;> decide
  exact hclear.shows.paint (by decide)

theorem shows_guide (last : Bool) : Shows (guide true last) (guide false last) := by
  cases last with
  | true => exact Clear.shows (by decide : Clear "   ")
  | false => exact Shows.paint (by decide) (Clear.shows (by decide))

theorem shows_labelText {label : String} (h : Clear label) (kind : Int) :
    Shows (labelText true label kind) (labelText false label kind) := by
  have hopening : Clear "(" := by decide
  have hclosing : Clear ")" := by decide
  exact (((h.shows.paint (by decide)).append hopening.shows).append
    (clear_toString_int kind).shows).append hclosing.shows

/-! ## Trees -/

theorem shows_nodeHead {n : Node} (h : Clear n.label) :
    Shows (nodeHead true n) (nodeHead false n) := by
  have hspace : Clear " " := by decide
  have hfield : Shows (paint true fieldStyle "value:") (paint false fieldStyle "value:") :=
    Shows.paint (by decide) (Clear.shows (by decide))
  have hlabel := shows_labelText h n.kind
  unfold nodeHead
  cases n.value with
  | none => exact hlabel.append (Clear.shows (by decide))
  | some s =>
    exact hlabel.append (((hspace.shows.append hfield).append hspace.shows).append
      ((clear_quote s).shows.paint (by decide)))

/-- **The lines of children show those without colours**, where the indentations do. -/
theorem shows_childLines {ns : List Node} (h : ∀ m ∈ Node.preorderAll ns, Clear m.label)
    {indent plain : String} (hindent : Shows indent plain) :
    List.Forall₂ Shows (childLines true indent ns) (childLines false plain ns) := by
  induction ns using Node.forest_induction generalizing indent plain with
  | nil => exact .nil
  | cons n rest hchildren hrest =>
    simp only [Node.mem_preorderAll_cons] at h
    have hhead := shows_nodeHead (h n (.inl rfl))
    have hbelow := hchildren (fun m hm => h m (.inr (.inl hm)))
      (hindent.append (shows_guide rest.isEmpty))
    obtain ⟨kind, label, value, children⟩ := n
    simp only [childLines, nodeLines]
    exact .cons ((hindent.append (shows_branch rest.isEmpty)).append hhead)
      (List.rel_append hbelow (hrest (fun m hm => h m (.inr (.inr hm))) hindent))

theorem shows_node {n : Node} (h : ∀ m ∈ n.preorder, Clear m.label) :
    Shows (node true n) (node false n) := by
  have hempty : Clear "" := by decide
  obtain ⟨kind, label, value, children⟩ := n
  rw [Node.preorder, List.forall_mem_cons] at h
  simp only [node, nodeLines]
  exact Shows.lines (.cons (hempty.shows.append (shows_nodeHead h.1))
    (shows_childLines h.2 hempty.shows))

end Dump

/-! ## Results -/

/-- **A result is built of the variants that every result may have**, and its labels are
clear. -/
inductive Result.ClearlyBuilt : Result → Prop where
  /-- A compound of such results. -/
  | compound {items : List Result} (h : ∀ r ∈ items, r.ClearlyBuilt) :
      ClearlyBuilt (.compound items)
  /-- Such a result under a clear label. -/
  | tagged {label : String} {inner : Result} (hlabel : Clear label) (h : inner.ClearlyBuilt) :
      ClearlyBuilt (.tagged label inner)
  /-- A text. -/
  | string (s : String) : ClearlyBuilt (.string s)
  /-- A natural number. -/
  | integer (n : Nat) : ClearlyBuilt (.integer n)
  /-- A double-precision number. -/
  | number (x : Binary64) : ClearlyBuilt (.number x)
  /-- Nothing. -/
  | none : ClearlyBuilt .none

namespace Dump

theorem shows_fieldLine {lead plain field value : String} {style : Style} (hlead : Shows lead plain)
    (hfield : Clear field) (hstyle : style.IsColour) (hvalue : Clear value) :
    Shows (fieldLine true lead field style value) (fieldLine false plain field style value) := by
  have hspace : Clear " " := by decide
  exact ((hlead.append (hfield.shows.paint (by decide))).append hspace.shows).append
    (hvalue.shows.paint hstyle)

/-- **Both dumps are there, and the lines of one show those of the other.** -/
def LinesShown (painted plain : Except Fault (List String)) : Prop :=
  ∃ as bs, painted = .ok as ∧ plain = .ok bs ∧ List.Forall₂ Shows as bs

theorem LinesShown.cons {a b : String} {painted plain : Except Fault (List String)}
    (hfirst : Shows a b) (h : LinesShown painted plain) :
    LinesShown (painted.map (a :: ·)) (plain.map (b :: ·)) := by
  obtain ⟨as, bs, rfl, rfl, hlines⟩ := h
  exact ⟨a :: as, b :: bs, rfl, rfl, .cons hfirst hlines⟩

theorem LinesShown.single {a b : String} (h : Shows a b) : LinesShown (.ok [a]) (.ok [b]) :=
  ⟨_, _, rfl, rfl, .cons h .nil⟩

/-- The lines of items, from those of each of them. -/
theorem shows_itemLines {items : List Result}
    (h : ∀ r ∈ items, ∀ {lead leadPlain indent plain : String}, Shows lead leadPlain →
      Shows indent plain →
      LinesShown (resultLines true lead indent r) (resultLines false leadPlain plain r))
    {indent plain : String} (hindent : Shows indent plain) :
    LinesShown (itemLines true indent items) (itemLines false plain items) := by
  induction items with
  | nil => exact ⟨[], [], rfl, rfl, .nil⟩
  | cons r rest ih =>
    rw [List.forall_mem_cons] at h
    obtain ⟨as, bs, has, hbs, hlines⟩ := h.1 (hindent.append (shows_branch rest.isEmpty))
      (hindent.append (shows_guide rest.isEmpty))
    obtain ⟨as', bs', has', hbs', hlines'⟩ := ih h.2
    refine ⟨as ++ as', bs ++ bs', ?_, ?_, List.rel_append hlines hlines'⟩
    · simp only [itemLines, has, has']
      rfl
    · simp only [itemLines, hbs, hbs']
      rfl

/-- **The lines of a result show those without colours.** -/
theorem shows_resultLines {r : Result} (h : r.ClearlyBuilt) {lead leadPlain indent plain : String}
    (hlead : Shows lead leadPlain) (hindent : Shows indent plain) :
    LinesShown (resultLines true lead indent r) (resultLines false leadPlain plain r) := by
  induction h generalizing lead leadPlain indent plain with
  | compound _ ih =>
    rw [resultLines, resultLines]
    exact .cons (hlead.append (Shows.paint (by decide) (Clear.shows (by decide))))
      (shows_itemLines (fun r hr => ih r hr) hindent)
  | tagged hlabel _ ih =>
    rw [resultLines, resultLines]
    exact .cons (hlead.append (hlabel.shows.paint (by decide)))
      (ih (hindent.append (shows_branch true)) (hindent.append (shows_guide true)))
  | string s =>
    rw [resultLines, resultLines]
    exact .single (shows_fieldLine hlead (by decide) (by decide) (clear_quote s))
  | integer n =>
    rw [resultLines, resultLines]
    exact .single (shows_fieldLine hlead (by decide) (by decide) (clear_toString_nat n))
  | number x =>
    rw [resultLines, resultLines]
    exact .single (shows_fieldLine hlead (by decide) (by decide) x.clear_plainText)
  | none =>
    rw [resultLines, resultLines]
    exact .single (hlead.append (Shows.paint (by decide) (Clear.shows (by decide))))

/-! ## Tokens and patterns -/

theorem clear_padded {s : String} (h : Clear s) (columns : Nat) : Clear (padded columns s) :=
  clear_append.mpr ⟨h, clear_replicate _ (by decide)⟩

end Dump

theorem Position.clear_text (p : Position) : Clear p.text :=
  clear_append.mpr ⟨clear_append.mpr ⟨clear_toString_int p.line, by decide⟩,
    clear_toString_int p.column⟩

/-- **The expression of a matcher is clear**, if it has one. -/
def Matcher.Clear : Matcher → Prop
  | .literal _ | .range .. => True
  | .text source _ => Text.Clear source
  | .bytes source _ => 27 ∉ source.toList

theorem Pattern.clear_describe {p : Pattern} (h : p.matcher.Clear) : Clear p.describe := by
  unfold describe
  cases hmatcher : p.matcher with
  | literal text => exact clear_append.mpr ⟨by decide, clear_quote text⟩
  | range low high =>
    exact clear_append.mpr ⟨clear_append.mpr ⟨clear_append.mpr ⟨by decide, clear_quote _⟩,
      by decide⟩, clear_quote _⟩
  | text source regex =>
    rw [hmatcher] at h
    exact clear_append.mpr ⟨clear_append.mpr ⟨by decide, h⟩, by decide⟩
  | bytes source regex =>
    rw [hmatcher] at h
    exact clear_append.mpr ⟨clear_append.mpr ⟨by decide, clear_decodeLossy h⟩, by decide⟩

namespace Dump

theorem shows_token {t : Token} (h : Clear t.label) : Shows (token true t) (token false t) := by
  have hgap : Clear "  " := by decide
  have hplace := (clear_padded t.position.clear_text 8).shows.paint (s := numberStyle) (by decide)
  exact ((hplace.append (shows_labelText h t.kind)).append hgap.shows).append
    ((clear_quote t.text).shows.paint (by decide))

theorem shows_pattern {p : Pattern} (hlabel : Clear p.label) (hmatcher : p.matcher.Clear) :
    Shows (pattern true p) (pattern false p) := by
  have hgap : Clear "  " := by decide
  exact ((shows_labelText hlabel p.kind).append hgap.shows).append
    (Pattern.clear_describe hmatcher).shows

end Dump

/-! ## Everything that is dumped -/

/-- **What is dumped has a dump, and its labels and expressions are clear.** -/
def Dumpable.Clear : Dumpable → Prop
  | .node n => ∀ m ∈ n.preorder, Text.Clear m.label
  | .result r => r.ClearlyBuilt
  | .token t => Text.Clear t.label
  | .pattern p => Text.Clear p.label ∧ p.matcher.Clear
  | .value _ => False

/-- **A dump with colours shows the dump without.** -/
theorem Dumpable.shows_dump {x : Dumpable} (h : x.Clear) :
    ∃ painted plain, x.dump true = .ok painted ∧ x.dump false = .ok plain
      ∧ Shows painted plain := by
  have hempty : Text.Clear "" := by decide
  cases x with
  | node n => exact ⟨_, _, rfl, rfl, Dump.shows_node h⟩
  | result r =>
    obtain ⟨as, bs, has, hbs, hlines⟩ := Dump.shows_resultLines h hempty.shows hempty.shows
    exact ⟨_, _, congrArg (Except.map "\n".intercalate) has,
      congrArg (Except.map "\n".intercalate) hbs, .lines hlines⟩
  | token t => exact ⟨_, _, rfl, rfl, Dump.shows_token h⟩
  | pattern p => exact ⟨_, _, rfl, rfl, Dump.shows_pattern h.1 h.2⟩
  | value v => exact h.elim

end ParseKit
