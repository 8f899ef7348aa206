import ParseKit.Tree.ResultStore
import ParseKit.Proofs.Tree.Preorder
import Mathlib.Data.Fintype.Card

/-!
# The text of a result is made of the texts of its parts

A result has a text unless it holds nothing somewhere, and the text is then its
pieces, which `Result.pieces` lists in order (`Result.text_cases`). What groups
the pieces does not matter: the items of a compound inside another can take its
place, wherever that is (`Result.Spliced`).

A compound that gets an item later may be held by several results. What a number
of a store stands for is found down to a depth, which is always enough
(`ResultStore.result?_eq_some_iff`): a number that needs a depth has below it a
number for each smaller depth, and there are only so many of them. From this an
item more changes what the number of the compound stands for
(`ResultStore.result?_withItem`), and nothing that does not hold this number
(`ResultStore.result?_withItem_of_not_holds`). The item must not hold it either,
since the compound would be inside itself.
-/

namespace ParseKit

namespace Result

/-! ## Texts -/

/-- **A result occurs in another**, at any depth. -/
inductive Within (r : Result) : Result → Prop where
  /-- In itself. -/
  | self : Within r r
  /-- In an item. -/
  | item {items : List Result} {item : Result} (hitem : item ∈ items) (h : Within r item) :
    Within r (.compound items)
  /-- Under a label. -/
  | inner {label : String} {inner : Result} (h : Within r inner) : Within r (.tagged label inner)

mutual

/-- **The pieces of the text of a result**, from left to right: the texts that
are no further made of others, and labels with a space after each. -/
def pieces : Result → List String
  | compound items => piecesAll items
  | string s => [s]
  | integer n => [toString n]
  | number x => [x.plainText]
  | tagged label inner => label :: " " :: inner.pieces
  | none => []
  | custom _ _ s => [s]

/-- The pieces of results, one after the other. -/
def piecesAll : List Result → List String
  | [] => []
  | r :: rest => r.pieces ++ piecesAll rest

end

mutual

/-- **A result holds nothing somewhere and has no text, or its text is its
pieces.** -/
theorem text_cases (r : Result) :
    Within .none r ∧ r.text = .error ⟨"none"⟩ ∨
      ¬ Within .none r ∧ r.text = .ok (String.join r.pieces) := by
  cases r with
  | compound items =>
    obtain ⟨⟨item, hitem, h⟩, htext⟩ | ⟨hnone, htext⟩ := textAll_cases items
    · exact .inl ⟨.item hitem h, htext⟩
    · refine .inr ⟨?_, htext⟩
      rintro (_ | ⟨hitem, h⟩)
      exact hnone _ hitem h
  | tagged label inner =>
    obtain ⟨h, htext⟩ | ⟨hnone, htext⟩ := text_cases inner
    · exact .inl ⟨.inner h, by rw [text, htext]; rfl⟩
    · refine .inr ⟨?_, ?_⟩
      · rintro (_ | _ | ⟨h⟩)
        exact hnone h
      · rw [text, htext, pieces, String.join_cons, String.join_cons, ← String.append_assoc]
        rfl
  | none => exact .inl ⟨.self, rfl⟩
  | string s => exact .inr ⟨nofun, by simp [text, pieces]⟩
  | integer n => exact .inr ⟨nofun, by simp [text, pieces]⟩
  | number x => exact .inr ⟨nofun, by simp [text, pieces]⟩
  | custom _ _ s => exact .inr ⟨nofun, by simp [text, pieces]⟩

/-- So do results one after the other. -/
theorem textAll_cases (rs : List Result) :
    (∃ r ∈ rs, Within .none r) ∧ textAll rs = .error ⟨"none"⟩ ∨
      (∀ r ∈ rs, ¬ Within .none r) ∧ textAll rs = .ok (String.join (piecesAll rs)) := by
  cases rs with
  | nil => exact .inr ⟨nofun, by simp [textAll, piecesAll]⟩
  | cons r rest =>
    obtain ⟨h, htext⟩ | ⟨hnone, htext⟩ := text_cases r
    · exact .inl ⟨⟨r, List.mem_cons_self, h⟩, by rw [textAll, htext]⟩
    · obtain ⟨⟨item, hitem, h⟩, hrest⟩ | ⟨hnones, hrest⟩ := textAll_cases rest
      · refine .inl ⟨⟨item, List.mem_cons_of_mem _ hitem, h⟩, ?_⟩
        rw [textAll, htext, hrest]
        rfl
      · refine .inr ⟨List.forall_mem_cons.mpr ⟨hnone, hnones⟩, ?_⟩
        rw [textAll, htext, hrest, piecesAll, String.join_append]
        rfl

end

theorem textAll_append (as bs : List Result) :
    textAll (as ++ bs) = do return (← textAll as) ++ (← textAll bs) := by
  induction as with
  | nil =>
    rw [List.nil_append, textAll]
    cases textAll bs <;> simp [bind, Except.bind, pure, Except.pure]
  | cons r as ih =>
    rw [List.cons_append, textAll, textAll, ih]
    cases r.text with
    | error e => rfl
    | ok s =>
      cases textAll as with
      | error e => rfl
      | ok t =>
        cases textAll bs with
        | error e => rfl
        | ok u => exact congrArg _ String.append_assoc.symm

theorem textAll_singleton (r : Result) : textAll [r] = r.text := by
  rw [textAll]
  cases r.text <;> simp [textAll, Except.map]

/-- **The items of a compound inside another are put in its place**, anywhere in
a result. -/
inductive Spliced : Result → Result → Prop where
  /-- In the outermost compound. -/
  | here {before items after : List Result} :
    Spliced (.compound (before ++ .compound items :: after))
      (.compound (before ++ items ++ after))
  /-- In an item. -/
  | item {before after : List Result} {r r' : Result} (h : Spliced r r') :
    Spliced (.compound (before ++ r :: after)) (.compound (before ++ r' :: after))
  /-- Under a label. -/
  | inner {label : String} {r r' : Result} (h : Spliced r r') :
    Spliced (.tagged label r) (.tagged label r')

/-- **Splicing changes neither the text nor whether there is one.** -/
theorem Spliced.text_eq {r r' : Result} (h : Spliced r r') : r.text = r'.text := by
  induction h with
  | @here before items after =>
    have hitems : textAll (.compound items :: after) = textAll (items ++ after) := by
      rw [← List.singleton_append, textAll_append, textAll_singleton, textAll_append, text]
    rw [text, text, textAll_append, hitems, ← textAll_append, List.append_assoc]
  | @item before after r r' _ ih =>
    have hitem : textAll (r :: after) = textAll (r' :: after) := by
      rw [textAll, textAll, ih]
    rw [text, text, textAll_append, hitem, ← textAll_append]
  | inner _ ih => rw [text, text, ih]

end Result

namespace ResultStore

/-! ## What a number stands for -/

variable {s : ResultStore} {n m depth : Nat} {r : Result}

/-- **A result that is made of the cell of a number**, and of what its items
stand for. -/
inductive Made (s : ResultStore) (stands : Nat → Result → Prop) (n : Nat) : Result → Prop where
  /-- A compound, with the items that it got later. -/
  | compound {items rs : List Result} {added : List Nat}
    (hcell : s.cells[n]? = some ⟨.compound items, added⟩) (h : List.Forall₂ stands added rs) :
    Made s stands n (.compound (items ++ rs))
  /-- Another result. -/
  | single {r : Result} {added : List Nat} (hcell : s.cells[n]? = some ⟨r, added⟩)
    (h : ∀ items, r ≠ .compound items) : Made s stands n r

/-- What is made of a cell is made of it in another store, if the items stand for the same. -/
theorem Made.transfer {s' : ResultStore} {stands stands' : Nat → Result → Prop}
    (h : s.Made stands n r) (hcell : s'.cells[n]? = s.cells[n]?)
    (hitems : ∀ items added k, s.cells[n]? = some ⟨.compound items, added⟩ → k ∈ added →
      ∀ r, stands k r → stands' k r) : s'.Made stands' n r := by
  cases h with
  | @compound items rs added hcell' hadded =>
    have hboth := (List.forall₂_and_left _ _).mpr
      ⟨fun k hk => hitems items added k hcell' hk, hadded⟩
    exact .compound (hcell.trans hcell') (hboth.imp fun k r hk => hk.1 r hk.2)
  | single hcell' hr => exact .single (hcell.trans hcell') hr

theorem Made.mono {stands stands' : Nat → Result → Prop} (h : s.Made stands n r)
    (himp : ∀ m r, stands m r → stands' m r) : s.Made stands' n r :=
  h.transfer rfl fun _ _ k _ _ => himp k

theorem resultTo?_succ_eq_some_iff :
    s.resultTo? (depth + 1) n = some r ↔
      s.Made (fun m r => s.resultTo? depth m = some r) n r := by
  rw [resultTo?]
  constructor
  · intro h
    obtain ⟨⟨base, added⟩, hcell, h⟩ := Option.bind_eq_some_iff.mp h
    cases base with
    | compound items =>
      obtain ⟨rs, hrs, ⟨⟩⟩ := Option.bind_eq_some_iff.mp h
      exact .compound hcell (mapM_eq_some_iff.mp hrs)
    | _ =>
      cases h
      exact .single hcell nofun
  · intro h
    cases h with
    | compound hcell h => simp [hcell, mapM_eq_some_iff.mpr h]
    | single hcell h =>
      rw [hcell]
      cases r with
      | compound items => exact absurd rfl (h items)
      | _ => rfl

/-- What is found down to a depth is found one level further down. -/
theorem resultTo?_succ (h : s.resultTo? depth n = some r) :
    s.resultTo? (depth + 1) n = some r := by
  induction depth generalizing n r with
  | zero => cases h
  | succ depth ih =>
    rw [resultTo?_succ_eq_some_iff] at h ⊢
    exact h.mono fun m r => ih

theorem resultTo?_mono {depth' : Nat} (hle : depth ≤ depth') (h : s.resultTo? depth n = some r) :
    s.resultTo? depth' n = some r := by
  induction hle with
  | refl => exact h
  | step _ ih => exact resultTo?_succ ih

/-- **A number needs a depth**: what it stands for is not found there, and one level further
down it is. -/
def Needs (s : ResultStore) (depth n : Nat) : Prop :=
  s.resultTo? depth n = none ∧ ∃ r, s.resultTo? (depth + 1) n = some r

/-- A number that needs a depth has an item that needs the depth before it. -/
theorem Needs.exists_item (h : s.Needs (depth + 1) n) : ∃ m, s.Needs depth m := by
  obtain ⟨hnone, r, hr⟩ := h
  by_contra hnot
  have hitem (m : Nat) (r : Result) (hm : s.resultTo? (depth + 1) m = some r) :
      s.resultTo? depth m = some r := by
    cases hlow : s.resultTo? depth m with
    | none => exact absurd ⟨m, hlow, r, hm⟩ hnot
    | some r' => exact (resultTo?_succ hlow).symm.trans hm
  have hfound := resultTo?_succ_eq_some_iff.mpr ((resultTo?_succ_eq_some_iff.mp hr).mono hitem)
  rw [hnone] at hfound
  cases hfound

theorem Needs.exists_of_le {depth' : Nat} (hle : depth' ≤ depth) (h : s.Needs depth n) :
    ∃ m, s.Needs depth' m := by
  induction depth generalizing n with
  | zero => exact ⟨n, Nat.le_zero.mp hle ▸ h⟩
  | succ depth ih =>
    rcases Nat.lt_or_eq_of_le hle with hlt | rfl
    · obtain ⟨m, hm⟩ := h.exists_item
      exact ih (Nat.le_of_lt_succ hlt) hm
    · exact ⟨n, h⟩

theorem Needs.unique {depth' : Nat} (h : s.Needs depth n) (h' : s.Needs depth' n) :
    depth = depth' := by
  have hle {d d' : Nat} (h : s.Needs d n) (h' : s.Needs d' n) : d ≤ d' := by
    by_contra hlt
    obtain ⟨r, hr⟩ := h'.2
    have hfound := resultTo?_mono (Nat.lt_of_not_le hlt) hr
    rw [h.1] at hfound
    cases hfound
  exact Nat.le_antisymm (hle h h') (hle h' h)

theorem Needs.lt_size (h : s.Needs depth n) : n < s.cells.size := by
  obtain ⟨-, r, hr⟩ := h
  cases resultTo?_succ_eq_some_iff.mp hr with
  | compound hcell _ => exact (Array.getElem?_eq_some_iff.mp hcell).1
  | single hcell _ => exact (Array.getElem?_eq_some_iff.mp hcell).1

/-- **No number needs a depth that is not less than how many there are.** For each smaller depth
there is a number that needs it, and these are different. -/
theorem Needs.depth_lt_size (h : s.Needs depth n) : depth < s.cells.size := by
  choose number hnumber using fun d : Fin (depth + 1) => h.exists_of_le (Nat.le_of_lt_succ d.isLt)
  let place (d : Fin (depth + 1)) : Fin s.cells.size := ⟨number d, (hnumber d).lt_size⟩
  have hinjective : Function.Injective place := by
    intro d d' heq
    have hsame : number d = number d' := congrArg Fin.val heq
    exact Fin.ext ((hnumber d).unique (hsame ▸ hnumber d'))
  simpa [Nat.succ_le_iff] using Fintype.card_le_of_injective place hinjective

/-- **The depth to which a number is followed is enough**: what it stands for at any depth it
stands for at that one. -/
theorem result?_eq_some_iff : s.result? n = some r ↔ ∃ depth, s.resultTo? depth n = some r := by
  refine ⟨fun h => ⟨_, h⟩, fun h => ?_⟩
  obtain ⟨depth, hr⟩ := h
  induction depth with
  | zero => cases hr
  | succ depth ih =>
    cases hlow : s.resultTo? depth n with
    | none =>
      have hneeds : s.Needs depth n := ⟨hlow, r, hr⟩
      exact resultTo?_mono (Nat.succ_le_succ (Nat.le_of_lt hneeds.depth_lt_size)) hr
    | some r' =>
      have heq : r' = r := Option.some.inj ((resultTo?_succ hlow).symm.trans hr)
      exact ih (heq ▸ hlow)

/-- **What a number stands for is made of its cell**, and of what its items stand for. -/
theorem result?_eq_some_iff_made :
    s.result? n = some r ↔ s.Made (fun m r => s.result? m = some r) n r := by
  constructor
  · intro h
    obtain ⟨depth, h⟩ := result?_eq_some_iff.mp h
    cases depth with
    | zero => cases h
    | succ depth =>
      exact (resultTo?_succ_eq_some_iff.mp h).mono fun m r hm => result?_eq_some_iff.mpr ⟨depth, hm⟩
  · intro h
    exact result?_eq_some_iff.mpr ⟨_, resultTo?_succ_eq_some_iff.mpr h⟩

/-! ## An item more -/

/-- **A number `m` holds a number `n`**: it is that number, or one of its items holds it. -/
inductive Holds (s : ResultStore) (n : Nat) : Nat → Prop where
  /-- A number holds itself. -/
  | self : Holds s n n
  /-- An item holds it. -/
  | item {m k : Nat} {items : List Result} {added : List Nat}
    (hcell : s.cells[m]? = some ⟨.compound items, added⟩) (hk : k ∈ added) (h : Holds s n k) :
    Holds s n m

/-- Items are found one level further up. -/
theorem exists_resultTo?_item {items : List Result} {added : List Nat}
    (hcell : s.cells[n]? = some ⟨.compound items, added⟩) (hm : m ∈ added)
    (hn : s.resultTo? (depth + 1) n = some r) : ∃ r', s.resultTo? depth m = some r' := by
  cases resultTo?_succ_eq_some_iff.mp hn with
  | compound hcell' hadded =>
    cases hcell.symm.trans hcell'
    have hboth := hadded.imp fun k r hk => And.intro (Exists.intro r hk) hk
    exact ((List.forall₂_and_left _ _).mp hboth).1 m hm
  | single hcell' hr =>
    cases hcell.symm.trans hcell'
    exact absurd rfl (hr items)

/-- What a number holds can be found at the same depth. -/
theorem Holds.exists_resultTo? (h : s.Holds n m) (hm : s.resultTo? depth m = some r) :
    ∃ r', s.resultTo? depth n = some r' := by
  induction h generalizing depth r with
  | self => exact ⟨r, hm⟩
  | item hcell hk _ ih =>
    cases depth with
    | zero => cases hm
    | succ depth =>
      obtain ⟨r', hr'⟩ := exists_resultTo?_item hcell hk hm
      obtain ⟨r'', hr''⟩ := ih hr'
      exact ⟨r'', resultTo?_succ hr''⟩

/-- **No item of a number that stands for a result holds the number.** -/
theorem not_holds_item {items : List Result} {added : List Nat}
    (hcell : s.cells[n]? = some ⟨.compound items, added⟩) (hm : m ∈ added)
    (hn : s.resultTo? depth n = some r) : ¬ s.Holds n m := by
  intro hholds
  induction depth generalizing r with
  | zero => cases hn
  | succ depth ih =>
    obtain ⟨r', hr'⟩ := exists_resultTo?_item hcell hm hn
    obtain ⟨r'', hr''⟩ := hholds.exists_resultTo? hr'
    exact ih hr''

/-- The store in which a number has an item more. -/
def withItem (s : ResultStore) (n child : Nat) : ResultStore :=
  ⟨s.cells.modify n fun c => { c with added := c.added ++ [child] }⟩

variable {child : Nat}

/-- **What does not hold a number stands for the same** when that number gets an item more. -/
theorem resultTo?_withItem_of_not_holds (hm : ¬ s.Holds n m) :
    (s.withItem n child).resultTo? depth m = some r ↔ s.resultTo? depth m = some r := by
  induction depth generalizing m r with
  | zero => rfl
  | succ depth ih =>
    have hne : n ≠ m := by
      rintro rfl
      exact hm .self
    have hcell : (s.withItem n child).cells[m]? = s.cells[m]? := by
      rw [withItem, Array.getElem?_modify, if_neg hne]
    have hitem {items : List Result} {added : List Nat} {k : Nat}
        (hcell : s.cells[m]? = some ⟨.compound items, added⟩) (hk : k ∈ added) : ¬ s.Holds n k :=
      fun hholds => hm (.item hcell hk hholds)
    rw [resultTo?_succ_eq_some_iff, resultTo?_succ_eq_some_iff]
    constructor
    · intro h
      refine h.transfer hcell.symm fun items added k hcell' hk r => ?_
      exact (ih (hitem (hcell ▸ hcell') hk)).mp
    · intro h
      exact h.transfer hcell fun items added k hcell' hk r => (ih (hitem hcell' hk)).mpr

theorem result?_withItem_of_not_holds (hm : ¬ s.Holds n m) :
    (s.withItem n child).result? m = s.result? m := by
  ext r
  simp only [result?_eq_some_iff, resultTo?_withItem_of_not_holds hm]

/-- **A compound that gets an item more stands for what it was, with the item at the end.** -/
theorem result?_withItem {items : List Result} {c : Result}
    (hn : s.result? n = some (.compound items)) (hchild : s.result? child = some c)
    (hfree : ¬ s.Holds n child) :
    (s.withItem n child).result? n = some (.compound (items ++ [c])) := by
  rw [result?_eq_some_iff_made] at hn ⊢
  cases hmade : hn with
  | @compound base rs added hcell hadded =>
    have hcell' : (s.withItem n child).cells[n]? = some ⟨.compound base, added ++ [child]⟩ := by
      rw [withItem, Array.getElem?_modify, if_pos rfl, hcell]
      rfl
    have hitem (k : Nat) (hk : k ∈ added) : ¬ s.Holds n k :=
      not_holds_item hcell hk (result?_eq_some_iff_made.mpr hn)
    have hrest : List.Forall₂ (fun k r => (s.withItem n child).result? k = some r) added rs := by
      refine ((List.forall₂_and_left _ _).mpr ⟨hitem, hadded⟩).imp fun k r hk => ?_
      rw [result?_withItem_of_not_holds hk.1, hk.2]
    have hlast : (s.withItem n child).result? child = some c := by
      rw [result?_withItem_of_not_holds hfree, hchild]
    rw [List.append_assoc]
    exact .compound hcell' (List.rel_append hrest (.cons hlast .nil))
  | single hcell h => exact absurd rfl (h items)

theorem addChild_eq_ok {items : List Result} (hn : s.result? n = some (.compound items)) :
    s.addChild n child = .ok (s.withItem n child) := by
  cases result?_eq_some_iff_made.mp hn with
  | compound hcell _ =>
    rw [addChild, Array.getD_eq_getD_getElem?, hcell]
    rfl
  | single _ h => exact absurd rfl (h items)

theorem addChild_eq_error (hn : s.result? n = some r) (hr : ∀ items, r ≠ .compound items) :
    s.addChild n child = .error { variant := r.variant } := by
  cases result?_eq_some_iff_made.mp hn with
  | compound => exact absurd rfl (hr _)
  | single hcell _ =>
    rw [addChild, Array.getD_eq_getD_getElem?, hcell]
    cases r with
    | compound items => exact absurd rfl (hr items)
    | _ => rfl

end ResultStore

namespace Result

/-- **The text of a result is made of the texts of its parts.** There is none if the result holds
nothing somewhere, and only then; it is the pieces otherwise. A compound inside another may be
replaced by its items. An item more for a compound puts the text of the item at the end, where the
item does not hold the compound, and what does not hold the compound stays what it was. No other
result gets an item. -/
theorem text_compositional :
    (∀ r : Result, (∀ e, r.text = .error e ↔ e = ⟨"none"⟩ ∧ Within .none r) ∧
      ∀ t, r.text = .ok t ↔ t = String.join r.pieces ∧ ¬ Within .none r) ∧
    (∀ r r', Spliced r r' → r.text = r'.text) ∧
    ∀ (s : ResultStore) n child r, s.result? n = some r →
      (∀ items c, r = .compound items → s.result? child = some c → ¬ s.Holds n child →
        ∃ s', s.addChild n child = .ok s' ∧ s'.result? n = some (.compound (items ++ [c])) ∧
          (compound (items ++ [c])).text = (do return (← r.text) ++ (← c.text)) ∧
          ∀ m, ¬ s.Holds n m → s'.result? m = s.result? m) ∧
      ((∀ items, r ≠ .compound items) →
        s.addChild n child = .error { variant := r.variant }) := by
  refine ⟨fun r => ?_, fun r r' h => h.text_eq, fun s n child r hn => ⟨?_, ?_⟩⟩
  · obtain ⟨hnone, htext⟩ | ⟨hnone, htext⟩ := text_cases r
    · simp [hnone, htext, eq_comm]
    · simp [hnone, htext, eq_comm]
  · rintro items c rfl hchild hfree
    refine ⟨s.withItem n child, s.addChild_eq_ok hn, s.result?_withItem hn hchild hfree, ?_, ?_⟩
    · rw [text, text, textAll_append, textAll_singleton]
    · exact fun m hm => s.result?_withItem_of_not_holds hm
  · exact fun hr => s.addChild_eq_error hn hr

/-- A compound, and a result under a label that it can get as an item. -/
def twoResults : ResultStore := ⟨#[⟨.compound [.string "a"], []⟩, ⟨.tagged "imm" (.integer 3), []⟩]⟩

/-- Nothing under a label has no text, and the items of a compound may be spliced under one. A
compound gets the text of a labelled number at its end, and that gets no item. -/
theorem text_compositional_labelled :
    (tagged "t" (.compound [.string "a", .none])).text = .error ⟨"none"⟩ ∧
    (tagged "t" (.compound [.string "a", .compound [.integer 1, .integer 2], .string "b"])).text =
      .ok "t a12b" ∧
    (∃ s', twoResults.addChild 0 1 = .ok s' ∧ (s'.result? 0).map text = some (.ok "aimm 3") ∧
      s'.result? 1 = twoResults.result? 1) ∧
    twoResults.addChild 1 0 = .error { variant := "tagged" } := by
  obtain ⟨htext, hspliced, hadd⟩ := text_compositional
  refine ⟨?_, ?_, ?_, ?_⟩
  · have hnone : Within .none (tagged "t" (.compound [.string "a", .none])) :=
      .inner (.item (List.mem_cons_of_mem _ List.mem_cons_self) .self)
    exact ((htext _).1 _).mpr ⟨rfl, hnone⟩
  · have hitems : Spliced
        (.tagged "t" (.compound [.string "a", .compound [.integer 1, .integer 2], .string "b"]))
        (.tagged "t" (.compound [.string "a", .integer 1, .integer 2, .string "b"])) :=
      .inner (@Spliced.here [.string "a"] _ _)
    rw [hspliced _ _ hitems]
    rfl
  · have hfree : ¬ twoResults.Holds 0 1 := by
      rintro (_ | ⟨⟨⟩, -, -⟩)
    obtain ⟨s', hs', hresult, htext, hrest⟩ := (hadd twoResults 0 1 _ rfl).1 _ _ rfl rfl hfree
    refine ⟨s', hs', ?_, hrest 1 hfree⟩
    rw [hresult, Option.map_some, htext]
    rfl
  · exact (hadd twoResults 1 0 (.tagged "imm" (.integer 3)) rfl).2 nofun

end Result

end ParseKit
