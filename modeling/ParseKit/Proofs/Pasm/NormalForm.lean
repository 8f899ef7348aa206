import ParseKit.Pasm.Printer
import ParseKit.Proofs.Pasm.Recognition
import ParseKit.Proofs.Pasm.Spelling
import ParseKit.Proofs.Tree.Dispatch
import Mathlib.Data.List.Chain

/-!
# Programs and their normal form

The trees that parsing makes are programs: lists of statements, with names
that are spelled as names are, and mnemonics that are among the mnemonics.
A name in a program is never a mnemonic. Where a name is spelled like one, a
number follows it, and in a program each number has a number sign right before
it (`Paired.program`); so the tokens of a program do not have such names, and
`exists_program` gives the program of a tree.

The printer visits the tree of a program and writes its normal form. What it
writes is said here without visiting: `render_program` says that it is the
text of the program with each constant replaced by the number that it
stands for, as that number is written.
-/

namespace ParseKit

/-! ## The values in a tree -/

namespace Node

/-- **The values of the nodes of a kind**, in pre-order. -/
def valuesOf (kind : Int) (n : Node) : List String :=
  n.preorder.filterMap fun m => if m.kind = kind then m.value else none

mutual

/-- **The tree with other values** at the nodes of a kind. -/
def mapValues (kind : Int) (f : String → String) : Node → Node
  | mk k label value children =>
    mk k label (if k = kind then value.map f else value) (mapValuesAll kind f children)

/-- Trees with other values at the nodes of a kind. -/
def mapValuesAll (kind : Int) (f : String → String) : List Node → List Node
  | [] => []
  | n :: rest => n.mapValues kind f :: mapValuesAll kind f rest

end

theorem mapValuesAll_eq_map (kind : Int) (f : String → String) (ns : List Node) :
    mapValuesAll kind f ns = ns.map (mapValues kind f) := by
  induction ns with
  | nil => simp [mapValuesAll]
  | cons n ns ih => simp [mapValuesAll, ih]

theorem valuesOf_mk (kind k : Int) (label : String) (value : Option String) (ns : List Node) :
    valuesOf kind (mk k label value ns)
      = (if k = kind then value else none).toList ++ ns.flatMap (valuesOf kind) := by
  unfold valuesOf
  rw [preorder, preorderAll_eq_flatMap, List.filterMap_cons, List.filterMap_flatMap]
  by_cases hk : k = kind
  · cases value <;> simp [Node.kind, Node.value, hk]
  · simp [Node.kind, hk]

theorem mapValues_mk (kind k : Int) (f : String → String) (label : String) (value : Option String)
    (ns : List Node) :
    mapValues kind f (mk k label value ns)
      = mk k label (if k = kind then value.map f else value) (ns.map (mapValues kind f)) := by
  rw [mapValues, mapValuesAll_eq_map]

end Node

namespace Pasm

/-! ## Programs -/

/-- **A name** that is no mnemonic. -/
structure Name where
  /-- The name. -/
  text : String
  /-- It is spelled as names are. -/
  isName : IsName text.toList
  /-- It is no mnemonic. -/
  free : text ∉ mnemonics

/-- **A mnemonic.** -/
structure Mnemonic where
  /-- The mnemonic. -/
  text : String
  /-- It is one of the mnemonics. -/
  mem : text ∈ mnemonics

/-- **An operand.** -/
inductive Operand where
  /-- A register. -/
  | register (name : Name)
  /-- A constant, by its digits. -/
  | constant (value : String)
  /-- A name. -/
  | name (name : Name)

/-- **A statement.** -/
inductive Statement where
  /-- A label. -/
  | label (name : Name)
  /-- An instruction with its operands, of which there is at least one. -/
  | instruction (mnemonic : Mnemonic) (first : Operand) (more : List Operand)

/-- **A program.** -/
abbrev Program := List Statement

namespace Operand

/-- The tree of an operand. -/
def node : Operand → Node
  | register n => Construct.register.leaf (some n.text)
  | constant v => Construct.constant.leaf (some v)
  | name n => Construct.ident.leaf (some n.text)

/-- The operand as it is written. -/
def text : Operand → String
  | register n => "%" ++ n.text
  | constant v => "#" ++ v
  | name n => n.text

/-- The constants of an operand. -/
def constants : Operand → List String
  | constant v => [v]
  | _ => []

/-- The operand with other constants. -/
def map (f : String → String) : Operand → Operand
  | constant v => constant (f v)
  | o => o

end Operand

namespace Statement

/-- The tree of a statement. -/
def node : Statement → Node
  | label n => Construct.label.leaf (some n.text)
  | instruction m first more =>
    .mk Construct.instruction.kind Construct.instruction.nodeLabel (some m.text)
      ((first :: more).map Operand.node)

/-- The line of a statement. -/
def line : Statement → String
  | label n => labelLine n.text
  | instruction m first more => instructionLine m.text ((first :: more).map Operand.text)

/-- The constants of a statement. -/
def constants : Statement → List String
  | label _ => []
  | instruction _ first more => (first :: more).flatMap Operand.constants

/-- The statement with other constants. -/
def map (f : String → String) : Statement → Statement
  | label n => label n
  | instruction m first more => instruction m (first.map f) (more.map (Operand.map f))

end Statement

namespace Program

/-- The tree of a program. -/
def node (p : Program) : Node := programNode (p.map Statement.node)

/-- The lines of a program. -/
def text (p : Program) : String := String.join (p.map Statement.line)

theorem text_cons (s : Statement) (p : Program) : text (s :: p) = s.line ++ text p := by
  rw [text, List.map_cons, String.join_cons]
  rfl

/-- The constants of a program. -/
def constants (p : Program) : List String := p.flatMap Statement.constants

/-- The program with other constants. -/
def mapConstants (f : String → String) (p : Program) : Program := p.map (Statement.map f)

end Program

theorem Operand.valuesOf_node (o : Operand) :
    o.node.valuesOf Construct.constant.kind = o.constants := by
  cases o <;> simp [node, Construct.leaf, Node.leaf, Node.valuesOf_mk, constants, Construct.kind]

theorem Operand.mapValues_node (f : String → String) (o : Operand) :
    o.node.mapValues Construct.constant.kind f = (o.map f).node := by
  cases o <;> simp [node, map, Construct.leaf, Node.leaf, Node.mapValues_mk, Construct.kind]

theorem Statement.valuesOf_node (s : Statement) :
    s.node.valuesOf Construct.constant.kind = s.constants := by
  cases s with
  | label n => simp [node, Construct.leaf, Node.leaf, Node.valuesOf_mk, constants, Construct.kind]
  | instruction m first more =>
    have hkind : Construct.instruction.kind ≠ Construct.constant.kind := by decide
    simp [node, Node.valuesOf_mk, constants, hkind, Operand.valuesOf_node, List.flatMap_map]

theorem Statement.mapValues_node (f : String → String) (s : Statement) :
    s.node.mapValues Construct.constant.kind f = (s.map f).node := by
  cases s <;> simp [node, map, Construct.leaf, Node.leaf, Node.mapValues_mk, Construct.kind,
    ← Operand.mapValues_node]

/-- The constants of a program are the values of the constants in its tree. -/
theorem Program.valuesOf_node (p : Program) :
    p.node.valuesOf Construct.constant.kind = p.constants := by
  simp [node, programNode, Node.valuesOf_mk, constants, Statement.valuesOf_node, List.flatMap_map]

/-- The tree of a program with other constants. -/
theorem Program.mapValues_node (f : String → String) (p : Program) :
    p.node.mapValues Construct.constant.kind f = (p.mapConstants f).node := by
  simp [node, programNode, Node.mapValues_mk, mapConstants, ← Statement.mapValues_node]

theorem Operand.constants_map (f : String → String) (o : Operand) :
    (o.map f).constants = o.constants.map f := by
  cases o <;> rfl

theorem Statement.constants_map (f : String → String) (s : Statement) :
    (s.map f).constants = s.constants.map f := by
  cases s with
  | label n => rfl
  | instruction m first more =>
    simp [map, constants, Operand.constants_map, List.flatMap_map, List.map_flatMap]

/-- The constants of a program with other constants. -/
theorem Program.constants_mapConstants (f : String → String) (p : Program) :
    (p.mapConstants f).constants = p.constants.map f := by
  simp [mapConstants, constants, Statement.constants_map, List.flatMap_map, List.map_flatMap]

theorem Operand.map_eq_self {f : String → String} {o : Operand} (h : ∀ v ∈ o.constants, f v = v) :
    o.map f = o := by
  cases o with
  | constant v => rw [map, h v List.mem_cons_self]
  | register n => rfl
  | name n => rfl

theorem Statement.map_eq_self {f : String → String} {s : Statement}
    (h : ∀ v ∈ s.constants, f v = v) : s.map f = s := by
  cases s with
  | label n => rfl
  | instruction m first more =>
    have hoperand : ∀ o ∈ first :: more, o.map f = o := fun o ho =>
      Operand.map_eq_self fun v hv => h v (List.mem_flatMap.mpr ⟨o, ho, hv⟩)
    obtain ⟨hfirst, hmore⟩ := List.forall_mem_cons.mp hoperand
    rw [map, hfirst, (List.map_congr_left hmore).trans (List.map_id' more)]

/-- A program whose constants stay the same is the same. -/
theorem Program.mapConstants_eq_self {f : String → String} {p : Program}
    (h : ∀ v ∈ p.constants, f v = v) : p.mapConstants f = p := by
  have hstatement : ∀ s ∈ p, s.map f = s := fun s hs =>
    Statement.map_eq_self fun v hv => h v (List.mem_flatMap.mpr ⟨s, hs, hv⟩)
  exact (List.map_congr_left hstatement).trans (List.map_id' p)

/-! ## Numbers come with their signs -/

/-- **Number signs and numbers come in pairs**, each number right after its sign. -/
inductive Paired : List Token → Prop where
  /-- No tokens. -/
  | nil : Paired []
  /-- A token that is neither, and then more. -/
  | one {t : Token} {ts : List Token} (hhash : t.kind ≠ Lexeme.hash.kind)
      (hnumber : t.kind ≠ Lexeme.number.kind) (h : Paired ts) : Paired (t :: ts)
  /-- A number sign with its number, and then more. -/
  | pair {sign number : Token} {ts : List Token} (hsign : sign.kind = Lexeme.hash.kind)
      (hnumber : number.kind = Lexeme.number.kind) (h : Paired ts) : Paired (sign :: number :: ts)

namespace Paired

theorem append {a b : List Token} (ha : Paired a) (hb : Paired b) : Paired (a ++ b) := by
  induction ha with
  | nil => exact hb
  | one hhash hnumber _ ih => exact .one hhash hnumber ih
  | pair hsign hnumber _ ih => exact .pair hsign hnumber ih

theorem lexeme {t : Token} {l : Lexeme} (h : t.kind = l.kind)
    (hl : l.kind ≠ Lexeme.hash.kind ∧ l.kind ≠ Lexeme.number.kind) : Paired [t] :=
  .one (h ▸ hl.1) (h ▸ hl.2) .nil

theorem gap {ts : List Token} (h : IsGap ts) : Paired ts := by
  have htrivia : ∀ k ∈ trivia, k ≠ Lexeme.hash.kind ∧ k ≠ Lexeme.number.kind := by decide
  induction ts with
  | nil => exact .nil
  | cons t ts ih =>
    obtain ⟨ht, hts⟩ := List.forall_mem_cons.mp h
    exact .one (htrivia _ ht).1 (htrivia _ ht).2 (ih hts)

theorem operand {ts : List Token} {n : Node} (h : IsOperand ts n) : Paired ts := by
  cases h with
  | register hsign hname => exact (lexeme hsign (by decide)).append (lexeme hname (by decide))
  | constant hsign hnumber => exact .pair hsign hnumber .nil
  | ident hname => exact lexeme hname (by decide)

theorem operands {ts : List Token} {ns : List Node} (h : AreOperands ts ns) : Paired ts := by
  induction h with
  | nil => exact .nil
  | cons hgap hcomma hgap' hfirst _ ih =>
    exact (gap hgap).append ((lexeme hcomma (by decide)).append
      (((gap hgap').append (operand hfirst)).append ih))

theorem statement {ts : List Token} {n : Node} (h : IsStatement ts n) : Paired ts := by
  cases h with
  | instruction hmnemonic hgap hfirst hrest =>
    exact (lexeme hmnemonic (by decide)).append
      (((gap hgap).append (operand hfirst)).append (operands hrest))
  | label hname hgap hcolon =>
    exact (lexeme hname (by decide)).append ((gap hgap).append (lexeme hcolon (by decide)))

theorem statements {ts : List Token} {ns : List Node} (h : AreStatements ts ns) : Paired ts := by
  induction h with
  | nil => exact .nil
  | cons hfirst hgap _ ih => exact ((statement hfirst).append (gap hgap)).append ih

/-- **In a program number signs and numbers come in pairs.** -/
theorem program {ts : List Token} {n : Node} (h : IsProgram ts n) : Paired ts := by
  obtain ⟨hgap, hrest⟩ := h
  exact (gap hgap).append (statements hrest)

theorem first {ts : List Token} (h : Paired ts) :
    ∀ t ∈ ts.head?, t.kind ≠ Lexeme.number.kind := by
  cases h with
  | nil => exact fun _ ht => nomatch ht
  | one _ hnumber _ =>
    rintro t ⟨⟩
    exact hnumber
  | pair hsign _ _ =>
    rintro t ⟨⟩
    rw [hsign]
    decide

/-- No number comes right after a name. -/
theorem chain {ts : List Token} (h : Paired ts) :
    ts.IsChain fun t t' => t.kind = Lexeme.ident.kind → t'.kind ≠ Lexeme.number.kind := by
  induction h with
  | nil => exact .nil
  | one _ _ h ih => exact List.isChain_cons.mpr ⟨fun t ht _ => h.first t ht, ih⟩
  | @pair sign number ts hsign hnumber h ih =>
    refine List.isChain_cons_cons.mpr ⟨fun hname => ?_, List.isChain_cons.mpr ⟨?_, ih⟩⟩
    · exact absurd (hsign.symm.trans hname) (by decide)
    · exact fun _ _ hname => absurd (hnumber.symm.trans hname) (by decide)

end Paired

/-! ## The spelling of a program -/

/-- **A token is spelled as its kind demands**, and is no mnemonic if it is a
name. -/
structure WellSpelled (t : Token) : Prop where
  /-- A name is spelled as names are. -/
  name : t.kind = Lexeme.ident.kind → IsName t.text.toList ∧ t.text ∉ mnemonics
  /-- A mnemonic is one of the mnemonics. -/
  mnemonic : t.kind = Lexeme.instruction.kind → t.text ∈ mnemonics
  /-- A number is a numeral, in digits of whatever script. -/
  number : t.kind = Lexeme.number.kind → IsNumeral Numeral.isAnyDigit t.text.toList

theorem Lexeme.kind_inj {l l' : Lexeme} (h : l.kind = l'.kind) : l = l' := by
  revert h
  cases l <;> cases l' <;> decide

theorem mem_mnemonicWords {s : String} : s.toList ∈ mnemonicWords ↔ s ∈ mnemonics := by
  rw [mnemonicWords, List.mem_map]
  constructor
  · rintro ⟨m, hm, heq⟩
    rwa [← String.toList_inj.mp heq]
  · exact fun h => ⟨s, h, rfl⟩

/-- **Tokens that are read from a text are well spelled**, if no number comes
right after a name. -/
theorem wellSpelled_of_cut {cs : List Char} {ws : List Word} (h : Cut cs ws) {ts : List Token}
    (hspells : List.Forall₂ Spells ts ws)
    (hchain : ts.IsChain fun t t' => t.kind = Lexeme.ident.kind → t'.kind ≠ Lexeme.number.kind) :
    ∀ t ∈ ts, WellSpelled t := by
  induction h generalizing ts with
  | nil =>
    cases hspells
    exact List.forall_mem_nil _
  | @cons w rest ws taken tail ih =>
    cases hspells with
    | @cons t _ ts _ hw hspells =>
      refine List.forall_mem_cons.mpr ⟨?_, ih hspells hchain.tail⟩
      have hlexeme : ∀ {l : Lexeme}, t.kind = l.kind → w.lexeme = l :=
        fun h => Lexeme.kind_inj (hw.kind.symm.trans h)
      refine ⟨fun hkind => ?_, fun hkind => ?_, fun hkind => ?_⟩
      · have hident := hlexeme hkind
        refine ⟨hw.text ▸ (isName_of_lexemeAt (hident ▸ taken)).1, fun hreserved => ?_⟩
        rw [← mem_mnemonicWords, hw.text] at hreserved
        -- the number that has to come next would be right after a name
        obtain ⟨v, vs, rfl, hnumber⟩ := (Cut.cons taken tail).number_of_reserved hident hreserved
        cases hspells with
        | cons hv _ =>
          refine (List.isChain_cons_cons.mp hchain).1 hkind ?_
          rw [hv.kind, hnumber]
      · rw [← mem_mnemonicWords, hw.text]
        exact mem_mnemonicWords_of_lexemeAt (hlexeme hkind ▸ taken)
      · rw [hw.text]
        exact isNumeral_of_lexemeAt (hlexeme hkind ▸ taken)

/-! ## The program of a tree -/

/-- The constants are numerals, in digits of whatever script. -/
def AreNumerals (vs : List String) : Prop := ∀ v ∈ vs, IsNumeral Numeral.isAnyDigit v.toList

variable {ts : List Token} {n : Node} {ns : List Node}

theorem exists_operand (h : IsOperand ts n) (hts : ∀ t ∈ ts, WellSpelled t) :
    ∃ o : Operand, n = o.node ∧ AreNumerals o.constants := by
  cases h with
  | @register sign name hsign hname =>
    obtain ⟨hisName, hfree⟩ := (hts name (by simp)).name hname
    exact ⟨.register ⟨name.text, hisName, hfree⟩, rfl, List.forall_mem_nil _⟩
  | @constant sign number hsign hnumber =>
    have hnumeral := (hts number (by simp)).number hnumber
    exact ⟨.constant number.text, rfl, List.forall_mem_singleton.mpr hnumeral⟩
  | @ident name hname =>
    obtain ⟨hisName, hfree⟩ := (hts name (by simp)).name hname
    exact ⟨.name ⟨name.text, hisName, hfree⟩, rfl, List.forall_mem_nil _⟩

theorem exists_operands (h : AreOperands ts ns) (hts : ∀ t ∈ ts, WellSpelled t) :
    ∃ os : List Operand, ns = os.map Operand.node
      ∧ AreNumerals (os.flatMap Operand.constants) := by
  induction h with
  | nil => exact ⟨[], rfl, List.forall_mem_nil _⟩
  | @cons gap gap' first rest comma n ns _ _ _ hfirst _ ih =>
    obtain ⟨o, rfl, ho⟩ := exists_operand hfirst fun t ht => hts t (by simp [ht])
    obtain ⟨os, rfl, hos⟩ := ih fun t ht => hts t (by simp [ht])
    exact ⟨o :: os, rfl, List.forall_mem_append.mpr ⟨ho, hos⟩⟩

theorem exists_statement (h : IsStatement ts n) (hts : ∀ t ∈ ts, WellSpelled t) :
    ∃ s : Statement, n = s.node ∧ AreNumerals s.constants := by
  cases h with
  | @instruction mnemonic gap first rest n ns hmnemonic hgap hfirst hrest =>
    have hmem := (hts mnemonic (by simp)).mnemonic hmnemonic
    obtain ⟨o, rfl, ho⟩ := exists_operand hfirst fun t ht => hts t (by simp [ht])
    obtain ⟨os, rfl, hos⟩ := exists_operands hrest fun t ht => hts t (by simp [ht])
    exact ⟨.instruction ⟨mnemonic.text, hmem⟩ o os, rfl, List.forall_mem_append.mpr ⟨ho, hos⟩⟩
  | @label name colon gap hname hgap hcolon =>
    obtain ⟨hisName, hfree⟩ := (hts name (by simp)).name hname
    exact ⟨.label ⟨name.text, hisName, hfree⟩, rfl, List.forall_mem_nil _⟩

theorem exists_statements (h : AreStatements ts ns) (hts : ∀ t ∈ ts, WellSpelled t) :
    ∃ p : Program, ns = p.map Statement.node ∧ AreNumerals p.constants := by
  induction h with
  | nil => exact ⟨[], rfl, List.forall_mem_nil _⟩
  | @cons first gap rest n ns hfirst _ _ ih =>
    obtain ⟨s, rfl, hs⟩ := exists_statement hfirst fun t ht => hts t (by simp [ht])
    obtain ⟨p, rfl, hp⟩ := ih fun t ht => hts t (by simp [ht])
    exact ⟨s :: p, rfl, List.forall_mem_append.mpr ⟨hs, hp⟩⟩

/-- Tokens have the tree of which they are a program. -/
theorem parseTokens_eq_ok_iff (tokens : List Token) (filename : String) (tree : Node) :
    (parseTokens tokens filename).result = .ok tree ↔ IsProgram tokens tree := by
  constructor
  · intro h
    rcases program_cases tokens with hnone | ⟨tree', hprogram⟩
    · obtain ⟨e, he⟩ := parseTokens_meets filename hnone
      cases h.symm.trans he
    · cases h.symm.trans (parseTokens_meets filename (program_yields hprogram)).1
      exact hprogram
  · exact fun h => (parseTokens_meets filename (program_yields h)).1

/-- **A source has the tree of its tokens**, if these are a program. -/
theorem parse_eq_ok_iff {source filename : String} {tree : Node} :
    parse source filename = .ok tree
      ↔ ∃ ts, tokenize patterns source filename = .ok ts ∧ IsProgram ts tree := by
  have hread : (Lexer.onSource patterns source filename).readAll.1.result
      = tokenize patterns source filename := rfl
  unfold parse parseRecorded
  dsimp only
  rw [hread]
  cases tokenize patterns source filename with
  | error stop =>
    cases stop <;> simp
  | ok ts =>
    simp [parseTokens_eq_ok_iff]

/-- **The tree of a source is the tree of a program**, and its constants are
numerals. -/
theorem exists_program {source filename : String} {tree : Node}
    (h : parse source filename = .ok tree) :
    ∃ p : Program, tree = p.node ∧ AreNumerals p.constants := by
  obtain ⟨ts, hts, hprogram⟩ := parse_eq_ok_iff.mp h
  obtain ⟨ws, hcut, hspells⟩ := tokenize_cut hts
  have hwell := wellSpelled_of_cut hcut hspells (Paired.program hprogram).chain
  obtain ⟨hgap, hrest⟩ := hprogram
  obtain ⟨p, rfl, hp⟩ := exists_statements hrest fun t ht => hwell t (List.mem_append_right _ ht)
  exact ⟨p, rfl, hp⟩

/-! ## Printing -/

/-- **A constant as it is printed**: the number that it stands for, as numbers
are written. -/
def constantText (v : String) : String :=
  ((Numeral.readBinary64? v).map Binary64.plainText).getD ""

section

variable {v : Visitor} (hv : v.handlers = printer.handlers)
include hv

theorem handler?_eq (kind : Int) : v.handler? kind = printer.handlers.lookup kind := by
  rw [Visitor.handler?, hv]

/-- **Visiting an operand writes nothing**, and its result has the text of the
operand. -/
theorem visit_operand (o : Operand) (ho : AreNumerals o.constants) :
    ∃ r, Visitor.visit o.node v = (.ok r, v)
      ∧ operandText r = .ok (o.map constantText).text := by
  cases o with
  | register name =>
    refine ⟨.string ("%" ++ name.text), ?_, rfl⟩
    exact Visitor.visit_eq_perform (n := Operand.node (.register name)) (handler?_eq hv _)
  | constant value =>
    obtain ⟨digits, exponent, hx⟩ := Numeral.exists_readBinary64? (ho value List.mem_cons_self)
    set x := Binary64.ofDecimal false digits exponent
    have hvisit := Visitor.visit_eq_perform (n := Operand.node (.constant value)) (handler?_eq hv _)
    have hnumber : Handler.number (Operand.node (.constant value)) = .done (.number x) := by
      show Handler.numberOf value _ = _
      rw [Handler.numberOf, hx]
    refine ⟨.number x, hvisit.trans ?_, ?_⟩
    · rw [hnumber]
      rfl
    · rw [Operand.map, Operand.text, constantText, hx]
      rfl
  | name name =>
    refine ⟨.string name.text, ?_, rfl⟩
    exact Visitor.visit_eq_perform (n := Operand.node (.name name)) (handler?_eq hv _)

theorem visits_operands (os : List Operand) (hos : AreNumerals (os.flatMap Operand.constants)) :
    ∃ rs, Visitor.visitAll (Visitor.visitEach (os.map Operand.node)) v = (.ok rs, v)
      ∧ operandTexts rs = .ok ((os.map (Operand.map constantText)).map Operand.text) := by
  induction os with
  | nil => exact ⟨[], by rw [List.map_nil, Visitor.visitEach, Visitor.visitAll], rfl⟩
  | cons o os ih =>
    rw [AreNumerals, List.flatMap_cons, List.forall_mem_append] at hos
    obtain ⟨r, hvisit, htext⟩ := visit_operand hv o hos.1
    obtain ⟨rs, hvisits, htexts⟩ := ih hos.2
    refine ⟨r :: rs, ?_, ?_⟩
    · rw [List.map_cons, Visitor.visitEach, Visitor.visitAll, hvisit]
      dsimp only
      rw [hvisits]
    · rw [operandTexts, htext, htexts]
      rfl

/-- **Visiting a statement writes its line.** -/
theorem visit_statement (s : Statement) (hs : AreNumerals s.constants) :
    ∃ r, Visitor.visit s.node v = (.ok r, v.emit (s.map constantText).line) := by
  cases s with
  | label name =>
    exact ⟨_, Visitor.visit_eq_perform (n := Statement.node (.label name)) (handler?_eq hv _)⟩
  | instruction m first more =>
    obtain ⟨rs, hvisits, htexts⟩ := visits_operands hv (first :: more) hs
    have hvisit :=
      Visitor.visit_eq_perform (n := Statement.node (.instruction m first more)) (handler?_eq hv _)
    refine ⟨.tagged m.text (.compound rs), hvisit.trans ?_⟩
    rw [printInstruction, Visitor.perform_children (Statement.node (.instruction m first more))]
    change Visitor.visitAll
      (Visitor.visitEach (Statement.node (.instruction m first more)).children) v = _ at hvisits
    rw [hvisits]
    dsimp only
    rw [htexts]
    rfl

end

theorem visits_statements (p : Program) (hp : AreNumerals p.constants) :
    ∀ v : Visitor, v.handlers = printer.handlers →
      ∃ rs, Visitor.visitAll (Visitor.visitEach (p.map Statement.node)) v
        = (.ok rs, v.emit (p.mapConstants constantText).text) := by
  induction p with
  | nil =>
    intro v _
    refine ⟨[], ?_⟩
    have hemit : v.emit "" = v := by rw [Visitor.emit, String.append_empty]
    rw [List.map_nil, Visitor.visitEach, Visitor.visitAll]
    show _ = (_, v.emit "")
    rw [hemit]
  | cons s p ih =>
    intro v hv
    rw [AreNumerals, Program.constants, List.flatMap_cons, List.forall_mem_append] at hp
    obtain ⟨r, hvisit⟩ := visit_statement hv s hp.1
    obtain ⟨rs, hvisits⟩ := ih hp.2 (v.emit (s.map constantText).line) hv
    refine ⟨r :: rs, ?_⟩
    have htext : Program.text (Program.mapConstants constantText (s :: p))
        = (s.map constantText).line ++ (Program.mapConstants constantText p).text := by
      rw [Program.mapConstants, List.map_cons, Program.text_cons]
      rfl
    have hemit : ∀ a b, (v.emit a).emit b = v.emit (a ++ b) := fun a b => by
      rw [Visitor.emit, Visitor.emit, Visitor.emit, String.append_assoc]
    rw [List.map_cons, Visitor.visitEach, htext, ← hemit, Visitor.visitAll, hvisit]
    dsimp only
    rw [hvisits]

/-- **The printer writes the text of a program**, with the constants as they are
printed. -/
theorem render_program (p : Program) (hp : AreNumerals p.constants) :
    render p.node = .ok (p.mapConstants constantText).text := by
  obtain ⟨rs, hvisits⟩ := visits_statements p hp printer rfl
  have hvisit : Visitor.visit p.node printer
      = (.ok (.compound rs), printer.emit (p.mapConstants constantText).text) := by
    rw [Visitor.visit_eq_perform (n := p.node) (v := printer) (h := Handler.children) rfl]
    change Visitor.visitAll (Visitor.visitEach p.node.children) printer = _ at hvisits
    rw [Handler.children, Visitor.perform_children, hvisits]
    rfl
  rw [render, hvisit]
  simp [Visitor.emit, printer]

end Pasm

end ParseKit
