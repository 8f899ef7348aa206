import ParseKit.Proofs.Pasm.NormalForm

/-!
# Mnemonics are reserved

Nothing in the grammar says that a name is no mnemonic, and the lexer does not see to it
either. A mnemonic is one only at a word boundary, and word characters are those of every
script, while a name has letters and digits of ASCII. So where a mnemonic is followed by a word
character of another script, the lexer reads a name that is spelled like it
(`lexemeAt_reserved`).

No program has such a name. What follows it can only be a number, and the parser takes a number
nowhere but right after a number sign; that is `exists_program`, which gives the program of every
tree that is parsed, with names that are free of mnemonics by their type. `parse_reserves_mnemonics`
reads this off the nodes of the tree.
-/

namespace ParseKit.Pasm

open Regex

/-! ## Names that are spelled like mnemonics -/

variable {w rest : List Char}

/-- **No mnemonic stands by itself** where one is followed by a word character that is no
part of a name. -/
theorem freeWord_reserved (hw : w ∈ mnemonicWords) (hbegins : beginsWord .unicode rest = true)
    (hstop : namePart.run rest = 0) : freeWord .unicode mnemonicWords (w ++ rest) = none := by
  cases hfound : freeWord .unicode mnemonicWords (w ++ rest) with
  | none => rfl
  | some w' =>
    obtain ⟨hw', rest', hfront, hfree⟩ := freeWord_eq_some hfound
    rcases List.append_eq_append_iff.mp hfront with ⟨more, rfl, rfl⟩ | ⟨more, rfl, rfl⟩
    · -- the other one goes on, with a character that is a part of a name
      cases more with
      | nil => cases hbegins.symm.trans hfree
      | cons c more =>
        have hc := mnemonicWords_nameStart _ hw' c (by simp)
        have hno := (namePart.run_eq_zero_iff _).mp hstop c _ rfl
        cases hno.symm.trans (namePart_of_nameStart hc)
    · -- the other one ends before this one does, at a letter
      cases more with
      | nil => cases hbegins.symm.trans hfree
      | cons c more =>
        have hc := (mnemonicWords_spelled _ hw).2 c (by simp)
        cases hc.symm.trans hfree

/-- **A mnemonic is read as a name** just where a word character follows that is no part of a
name. -/
theorem lexemeAt_reserved (hw : w ∈ mnemonicWords) :
    lexemeAt (w ++ rest) = some (.ident, w.length)
      ↔ beginsWord .unicode rest = true ∧ namePart.run rest = 0 := by
  constructor
  · exact fun h => ⟨beginsWord_of_reserved h hw, (isName_of_lexemeAt h).2⟩
  · rintro ⟨hbegins, hstop⟩
    have hnoWord := freeWord_reserved hw hbegins hstop
    have hletters := mnemonicWords_nameStart w hw
    have hne := (mnemonicWords_spelled w hw).1
    obtain ⟨c, w, rfl⟩ := List.exists_cons_of_ne_nil hne
    obtain ⟨hc, hparts⟩ := List.forall_mem_cons.mp hletters
    have hrun := (namePart.run_append_eq_iff w rest).mpr
      ⟨fun d hd => namePart_of_nameStart (hparts d hd), hstop⟩
    refine lexemeAt_eq (signs ++ [.instruction]) [.number] rfl ?_ ?_
    · refine List.forall_mem_append.mpr ⟨?_, List.forall_mem_singleton.mpr ?_⟩
      · exact reach_signs (isWord_of_namePart (namePart_of_nameStart hc)) _
      · rw [Lexeme.reach, hnoWord]
        rfl
    · rw [Lexeme.reach, List.cons_append, headedRun, if_pos hc, hrun]
      rfl

/-- **The lexer reads a name that is spelled like a mnemonic** before a word character outside
of ASCII. -/
theorem next_reserved {s : String} (hs : s ∈ mnemonics) {c : Char}
    (hword : Text.isWord c.toNat = true) (hc : 128 ≤ c.toNat) (rest : List Char)
    (filename : String) :
    ∃ t l, (Lexer.onSource patterns (s ++ .ofList (c :: rest)) filename).next = .ok (some (t, l))
      ∧ t.kind = Lexeme.ident.kind ∧ t.text = s := by
  have hpart : namePart.run (c :: rest) = 0 := by
    rw [UnitTest.run_eq_zero_iff]
    rintro d more ⟨⟩
    rw [Bool.eq_false_iff]
    intro hadmits
    have hascii := admits_namePart_iff.mp hadmits
    omega
  have hbegins : beginsWord .unicode (c :: rest) = true := hword
  have htaken := (lexemeAt_reserved (mem_mnemonicWords.mpr hs)).mpr ⟨hbegins, hpart⟩
  set source : String := s ++ .ofList (c :: rest) with hsource
  have hchars : source.toList.drop 0 = s.toList ++ c :: rest := by simp [hsource]
  have hnext := Lexer.next_of_chooses filename (Nat.zero_le source.length)
    ((chooses_iff (Nat.zero_le _)).mpr ⟨.ident, hchars ▸ htaken, rfl⟩)
    (Lexeme.reach_pos (reach_of_lexemeAt htaken))
  refine ⟨_, _, hnext, rfl, ?_⟩
  rw [Lexer.tokenOf_onSourceAt (Nat.zero_le _), hchars, List.take_left, String.ofList_toList]

/-! ## The nodes of a program -/

/-- The operands of a statement. -/
def Statement.operands : Statement → List Operand
  | label _ => []
  | instruction _ first more => first :: more

theorem Statement.children_node (s : Statement) :
    s.node.children = s.operands.map Operand.node := by
  cases s <;> rfl

theorem Operand.preorder_node (o : Operand) : o.node.preorder = [o.node] := by
  cases o <;> rfl

theorem Statement.preorder_node (s : Statement) :
    s.node.preorder = s.node :: s.operands.map Operand.node := by
  rw [Node.preorder_eq, s.children_node, Node.preorderAll_eq_flatMap, List.flatMap_map]
  simp only [Operand.preorder_node, List.map_eq_flatMap]

/-- **The nodes of a program** are its root, its statements and their operands. -/
theorem Program.preorder_node (p : Program) :
    p.node.preorder = p.node :: p.flatMap fun s => s.node :: s.operands.map Operand.node := by
  have hchildren : p.node.children = p.map Statement.node := rfl
  rw [Node.preorder_eq, hchildren, Node.preorderAll_eq_flatMap, List.flatMap_map]
  simp only [Statement.preorder_node]

/-! ## Reserved -/

/-- **A node reserves mnemonics**: if it is an instruction its value is one, and if it is a
label, a register or a name its value is none. -/
structure Reserves (m : Node) : Prop where
  /-- An instruction. -/
  mnemonic : m.kind = Construct.instruction.kind → ∃ s ∈ mnemonics, m.value = some s
  /-- A label, a register or a name. -/
  name : (∃ c ∈ [Construct.label, .register, .ident], m.kind = c.kind) →
    ∃ s, s ∉ mnemonics ∧ m.value = some s

/-- A leaf with a name, of a construct other than an instruction. -/
theorem reserves_named {c : Construct} (hc : c.kind ≠ Construct.instruction.kind) (n : Name) :
    Reserves (c.leaf (some n.text)) :=
  ⟨fun h => absurd h hc, fun _ => ⟨n.text, n.free, rfl⟩⟩

/-- Nothing is asked of a node of any other construct. -/
theorem reserves_other {m : Node} {c : Construct} (hkind : m.kind = c.kind)
    (hc : ∀ d ∈ [Construct.instruction, .label, .register, .ident], c.kind ≠ d.kind) :
    Reserves m := by
  constructor
  · intro h
    exact absurd (hkind.symm.trans h) (hc _ List.mem_cons_self)
  · rintro ⟨d, hd, h⟩
    exact absurd (hkind.symm.trans h) (hc d (List.mem_cons_of_mem _ hd))

theorem Operand.reserves_node (o : Operand) : Reserves o.node := by
  cases o with
  | register n => exact reserves_named (by decide) n
  | constant v => exact reserves_other (c := .constant) rfl (by decide)
  | name n => exact reserves_named (by decide) n

theorem Statement.reserves_node (s : Statement) : Reserves s.node := by
  cases s with
  | label n => exact reserves_named (by decide) n
  | instruction m first more =>
    exact ⟨fun _ => ⟨m.text, m.mem, rfl⟩, by simp [node, Node.kind, Construct.kind]⟩

/-- **Mnemonics are reserved in programs.** In the tree of every source that is accepted the
values of instructions are mnemonics, and those of labels, registers and names are not; and
this is not by the lexer, which reads a mnemonic as a name before any word character outside of
ASCII. -/
theorem parse_reserves_mnemonics :
    (∀ source filename tree, parse source filename = .ok tree → ∀ m ∈ tree.preorder, Reserves m)
    ∧ ∀ s ∈ mnemonics, ∀ c rest filename, Text.isWord c.toNat = true → 128 ≤ c.toNat →
      ∃ t l, (Lexer.onSource patterns (s ++ .ofList (c :: rest)) filename).next = .ok (some (t, l))
        ∧ t.kind = Lexeme.ident.kind ∧ t.text = s := by
  refine ⟨fun source filename tree h => ?_, fun s hs c rest filename hword hc =>
    next_reserved hs hword hc rest filename⟩
  obtain ⟨p, rfl, -⟩ := exists_program h
  rw [Program.preorder_node, List.forall_mem_cons]
  refine ⟨reserves_other (c := .program) rfl (by decide),
    List.forall_mem_flatMap.mpr fun s _ => ?_⟩
  refine List.forall_mem_cons.mpr ⟨s.reserves_node, List.forall_mem_map.mpr fun o _ => ?_⟩
  exact o.reserves_node

/-- Names may begin with mnemonics. Before a digit of another script a mnemonic is read as a
name. -/
theorem parse_reserves_mnemonics_scripts :
    (∃ tree, parse "imm_ :add%movs,#٣" "a" = .ok tree ∧ tree.preorder.length = 5
      ∧ ∀ m ∈ tree.preorder, Reserves m)
    ∧ ∃ t l, (Lexer.onSource patterns ("add" ++ .ofList ['٣']) "a").next = .ok (some (t, l))
      ∧ t.kind = Lexeme.ident.kind ∧ t.text = "add" := by
  have hparse : parse "imm_ :add%movs,#٣" "a" = .ok (programNode
      [Construct.label.leaf (some "imm_"), .mk 2 "Instruction" (some "add")
        [Construct.register.leaf (some "movs"), Construct.constant.leaf (some "٣")]]) := by
    decide +kernel
  exact ⟨⟨_, hparse, rfl, parse_reserves_mnemonics.1 _ _ _ hparse⟩,
    parse_reserves_mnemonics.2 "add" (by decide) '٣' [] "a" (by decide +kernel) (by decide)⟩

end ParseKit.Pasm
