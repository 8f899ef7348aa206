import ParseKit.Pasm.Syntax
import Mathlib.Computability.Language

/-!
# The grammar of pseudo-assembly, said twice

The grammar is first a *language*: the rows of kinds of tokens that are
programs, written with the operations on languages just as the rules are,

    program   := gap (statement gap)*
    statement := INSTRUCTION gap operand (gap COMMA gap operand)* | IDENT gap COLON
    operand   := PERCENT IDENT | HASH NUMBER | IDENT

where a gap is any number of white spaces and comments.

It is then a relation between rows of tokens and trees, with one rule for
each way to build a tree: `IsProgram ts n` says that the tokens `ts` can be
derived as a program and that `n` is the abstract syntax of the derivation.
`kindsOf_mem_programs` says that the two agree, so that whether tokens
are a program is a matter of their kinds alone.
-/

namespace ParseKit.Pasm

/-! ## Programs as rows of kinds -/

open scoped Computability

/-- The row of one token of a kind. -/
def one (l : Lexeme) : Language Int := {[l.kind]}

/-- Rows of white spaces and comments. -/
def gaps : Language Int := (one .whitespace + one .comment)∗

/-- **Rows of kinds that are operands.** -/
def operands : Language Int := one .percent * one .ident + one .hash * one .number + one .ident

/-- **Rows of kinds that are statements.** -/
def statements : Language Int :=
  one .instruction * gaps * operands * (gaps * one .comma * gaps * operands)∗
    + one .ident * gaps * one .colon

/-- **Rows of kinds that are programs.** -/
def programs : Language Int := gaps * (statements * gaps)∗

/-! ## Programs as rows of tokens, with their trees -/

/-- The tokens are white spaces and comments. -/
def IsGap (ts : List Token) : Prop := ∀ t ∈ ts, t.kind ∈ trivia

theorem isGap_nil : IsGap [] := fun _ ht => nomatch ht

/-- **The tokens are an operand**, and this is its tree. -/
inductive IsOperand : List Token → Node → Prop where
  /-- A percent sign and a name. -/
  | register {sign name : Token} (hsign : sign.kind = Lexeme.percent.kind)
      (hname : name.kind = Lexeme.ident.kind) :
      IsOperand [sign, name] (Construct.register.leaf (some name.text))
  /-- A number sign and a number. -/
  | constant {sign number : Token} (hsign : sign.kind = Lexeme.hash.kind)
      (hnumber : number.kind = Lexeme.number.kind) :
      IsOperand [sign, number] (Construct.constant.leaf (some number.text))
  /-- A name. -/
  | ident {name : Token} (hname : name.kind = Lexeme.ident.kind) :
      IsOperand [name] (Construct.ident.leaf (some name.text))

/-- **The tokens are operands, each after a comma**, and these are their
trees. -/
inductive AreOperands : List Token → List Node → Prop where
  /-- No operand. -/
  | nil : AreOperands [] []
  /-- An operand after a comma, and then more. -/
  | cons {gap gap' first rest : List Token} {comma : Token} {n : Node} {ns : List Node}
      (hgap : IsGap gap) (hcomma : comma.kind = Lexeme.comma.kind) (hgap' : IsGap gap')
      (hfirst : IsOperand first n) (hrest : AreOperands rest ns) :
      AreOperands (gap ++ comma :: (gap' ++ first ++ rest)) (n :: ns)

/-- The tree of an instruction. -/
def instructionNode (mnemonic : Token) (operands : List Node) : Node :=
  .mk Construct.instruction.kind Construct.instruction.nodeLabel (some mnemonic.text) operands

/-- **The tokens are a statement**, and this is its tree. -/
inductive IsStatement : List Token → Node → Prop where
  /-- A mnemonic with operands. -/
  | instruction {mnemonic : Token} {gap first rest : List Token} {n : Node} {ns : List Node}
      (hmnemonic : mnemonic.kind = Lexeme.instruction.kind) (hgap : IsGap gap)
      (hfirst : IsOperand first n) (hrest : AreOperands rest ns) :
      IsStatement (mnemonic :: (gap ++ first ++ rest)) (instructionNode mnemonic (n :: ns))
  /-- A name with a colon. -/
  | label {name colon : Token} {gap : List Token} (hname : name.kind = Lexeme.ident.kind)
      (hgap : IsGap gap) (hcolon : colon.kind = Lexeme.colon.kind) :
      IsStatement (name :: (gap ++ [colon])) (Construct.label.leaf (some name.text))

/-- **The tokens are statements**, and these are their trees. -/
inductive AreStatements : List Token → List Node → Prop where
  /-- No statement. -/
  | nil : AreStatements [] []
  /-- A statement, and then more. -/
  | cons {first gap rest : List Token} {n : Node} {ns : List Node} (hfirst : IsStatement first n)
      (hgap : IsGap gap) (hrest : AreStatements rest ns) :
      AreStatements (first ++ gap ++ rest) (n :: ns)

/-- The tree of a program. -/
def programNode (statements : List Node) : Node :=
  .mk Construct.program.kind Construct.program.nodeLabel none statements

/-- **The tokens are a program**, and this is its tree. -/
inductive IsProgram : List Token → Node → Prop where
  /-- Statements after a gap. -/
  | intro {gap rest : List Token} {ns : List Node} (hgap : IsGap gap)
      (hrest : AreStatements rest ns) : IsProgram (gap ++ rest) (programNode ns)

/-! ## The two agree -/

/-- The kinds of some tokens. -/
def kindsOf (ts : List Token) : List Int := ts.map Token.kind

@[simp] theorem kindsOf_append (a b : List Token) : kindsOf (a ++ b) = kindsOf a ++ kindsOf b :=
  List.map_append

@[simp] theorem kindsOf_cons (t : Token) (ts : List Token) :
    kindsOf (t :: ts) = [t.kind] ++ kindsOf ts :=
  rfl

/-- A row of kinds cut in two is a row of tokens cut in two. -/
theorem kindsOf_mem_mul {ts : List Token} {l m : Language Int} :
    kindsOf ts ∈ l * m ↔ ∃ a b, ts = a ++ b ∧ kindsOf a ∈ l ∧ kindsOf b ∈ m := by
  rw [Language.mem_mul]
  constructor
  · rintro ⟨x, hx, y, hy, h⟩
    obtain ⟨a, b, rfl, rfl, rfl⟩ := List.map_eq_append_iff.mp h.symm
    exact ⟨a, b, rfl, hx, hy⟩
  · rintro ⟨a, b, rfl, ha, hb⟩
    exact ⟨_, ha, _, hb, (kindsOf_append a b).symm⟩

/-- One kind is one token. -/
theorem kindsOf_mem_one {ts : List Token} {l : Lexeme} :
    kindsOf ts ∈ one l ↔ ∃ t, ts = [t] ∧ t.kind = l.kind := by
  constructor
  · intro h
    obtain ⟨t, hts, hkind⟩ := List.map_eq_singleton_iff.mp h
    exact ⟨t, hts, hkind⟩
  · rintro ⟨t, rfl, hkind⟩
    show [t.kind] = [l.kind]
    rw [hkind]

theorem nil_mem_kstar (l : Language Int) : kindsOf [] ∈ l∗ := Language.nil_mem_kstar l

theorem append_mem_kstar {a b : List Token} {l : Language Int} (ha : kindsOf a ∈ l)
    (hb : kindsOf b ∈ l∗) : kindsOf (a ++ b) ∈ l∗ := by
  rw [← Language.one_add_self_mul_kstar_eq_kstar, Language.mem_add]
  exact Or.inr (kindsOf_mem_mul.mpr ⟨a, b, rfl, ha, hb⟩)

/-- **Induction over rows one after the other**, by the first of them. -/
theorem kstar_induction {l : Language Int} {P : List Token → Prop} (hnil : P [])
    (happend : ∀ a b, kindsOf a ∈ l → P b → P (a ++ b)) {ts : List Token}
    (h : kindsOf ts ∈ l∗) : P ts := by
  obtain ⟨rows, hrows, hmem⟩ := Language.mem_kstar.mp h
  induction rows generalizing ts with
  | nil =>
    rw [List.map_eq_nil_iff.mp hrows]
    exact hnil
  | cons row rows ih =>
    obtain ⟨a, b, rfl, rfl, hb⟩ := List.map_eq_append_iff.mp (hrows.trans List.flatten_cons)
    have hmem' := List.forall_mem_cons.mp hmem
    have hstar : kindsOf b ∈ l∗ := Language.mem_kstar.mpr ⟨rows, hb, hmem'.2⟩
    exact happend a b hmem'.1 (ih hstar hb hmem'.2)

/-- Rows of white spaces and comments are gaps. -/
theorem kindsOf_mem_gaps {ts : List Token} : kindsOf ts ∈ gaps ↔ IsGap ts := by
  constructor
  · intro h
    refine kstar_induction isGap_nil (fun a b ha hb => ?_) h
    have hone : ∃ t, a = [t] ∧ t.kind ∈ trivia := by
      rcases (Language.mem_add _ _ _).mp ha with ha | ha
      · obtain ⟨t, rfl, ht⟩ := kindsOf_mem_one.mp ha
        exact ⟨t, rfl, List.mem_cons.mpr (Or.inl ht)⟩
      · obtain ⟨t, rfl, ht⟩ := kindsOf_mem_one.mp ha
        exact ⟨t, rfl, List.mem_cons_of_mem _ (List.mem_singleton.mpr ht)⟩
    obtain ⟨t, rfl, ht⟩ := hone
    exact List.forall_mem_cons.mpr ⟨ht, hb⟩
  · intro h
    induction ts with
    | nil => exact nil_mem_kstar _
    | cons t ts ih =>
      obtain ⟨ht, hts⟩ := List.forall_mem_cons.mp h
      refine append_mem_kstar (a := [t]) ?_ (ih hts)
      rw [Language.mem_add, kindsOf_mem_one, kindsOf_mem_one]
      rcases List.mem_cons.mp ht with ht | ht
      · exact Or.inl ⟨t, rfl, ht⟩
      · exact Or.inr ⟨t, rfl, List.mem_singleton.mp ht⟩

theorem kindsOf_mem_operands {ts : List Token} :
    kindsOf ts ∈ operands ↔ ∃ n, IsOperand ts n := by
  unfold operands
  rw [Language.mem_add, Language.mem_add, kindsOf_mem_mul, kindsOf_mem_mul, kindsOf_mem_one]
  simp only [kindsOf_mem_one]
  constructor
  · rintro ((⟨_, _, rfl, ⟨sign, rfl, hsign⟩, ⟨name, rfl, hname⟩⟩
      | ⟨_, _, rfl, ⟨sign, rfl, hsign⟩, ⟨number, rfl, hnumber⟩⟩) | ⟨name, rfl, hname⟩)
    · exact ⟨_, .register hsign hname⟩
    · exact ⟨_, .constant hsign hnumber⟩
    · exact ⟨_, .ident hname⟩
  · rintro ⟨n, h⟩
    cases h with
    | @register sign name hsign hname =>
      exact Or.inl (Or.inl ⟨[sign], [name], rfl, ⟨_, rfl, hsign⟩, ⟨_, rfl, hname⟩⟩)
    | @constant sign number hsign hnumber =>
      exact Or.inl (Or.inr ⟨[sign], [number], rfl, ⟨_, rfl, hsign⟩, ⟨_, rfl, hnumber⟩⟩)
    | @ident name hname => exact Or.inr ⟨name, rfl, hname⟩

theorem kindsOf_mem_furtherOperands {ts : List Token} :
    kindsOf ts ∈ (gaps * one .comma * gaps * operands)∗ ↔ ∃ ns, AreOperands ts ns := by
  constructor
  · intro h
    refine kstar_induction (P := fun ts => ∃ ns, AreOperands ts ns) ⟨[], .nil⟩ ?_ h
    rintro a rest ha ⟨ns, hrest⟩
    obtain ⟨_, first, rfl, ha, hfirst⟩ := kindsOf_mem_mul.mp ha
    obtain ⟨_, gap', rfl, ha, hgap'⟩ := kindsOf_mem_mul.mp ha
    obtain ⟨gap, _, rfl, hgap, ha⟩ := kindsOf_mem_mul.mp ha
    obtain ⟨comma, rfl, hcomma⟩ := kindsOf_mem_one.mp ha
    obtain ⟨n, hfirst⟩ := kindsOf_mem_operands.mp hfirst
    rw [kindsOf_mem_gaps] at hgap hgap'
    exact ⟨n :: ns, by simpa using AreOperands.cons hgap hcomma hgap' hfirst hrest⟩
  · rintro ⟨ns, h⟩
    induction h with
    | nil => exact nil_mem_kstar _
    | @cons gap gap' first rest comma n ns hgap hcomma hgap' hfirst _ ih =>
      have hone : kindsOf (gap ++ [comma] ++ gap' ++ first) ∈ gaps * one .comma * gaps * operands :=
        kindsOf_mem_mul.mpr ⟨_, _, rfl, kindsOf_mem_mul.mpr ⟨_, _, rfl, kindsOf_mem_mul.mpr
          ⟨_, _, rfl, kindsOf_mem_gaps.mpr hgap, kindsOf_mem_one.mpr ⟨comma, rfl, hcomma⟩⟩,
          kindsOf_mem_gaps.mpr hgap'⟩, kindsOf_mem_operands.mpr ⟨n, hfirst⟩⟩
      simpa using append_mem_kstar hone ih

theorem kindsOf_mem_statements {ts : List Token} :
    kindsOf ts ∈ statements ↔ ∃ n, IsStatement ts n := by
  unfold statements
  rw [Language.mem_add]
  constructor
  · rintro (h | h)
    · obtain ⟨_, rest, rfl, h, hrest⟩ := kindsOf_mem_mul.mp h
      obtain ⟨_, first, rfl, h, hfirst⟩ := kindsOf_mem_mul.mp h
      obtain ⟨_, gap, rfl, h, hgap⟩ := kindsOf_mem_mul.mp h
      obtain ⟨mnemonic, rfl, hmnemonic⟩ := kindsOf_mem_one.mp h
      obtain ⟨n, hfirst⟩ := kindsOf_mem_operands.mp hfirst
      obtain ⟨ns, hrest⟩ := kindsOf_mem_furtherOperands.mp hrest
      rw [kindsOf_mem_gaps] at hgap
      exact ⟨_, by simpa using IsStatement.instruction hmnemonic hgap hfirst hrest⟩
    · obtain ⟨_, _, rfl, h, hcolon⟩ := kindsOf_mem_mul.mp h
      obtain ⟨_, gap, rfl, h, hgap⟩ := kindsOf_mem_mul.mp h
      obtain ⟨name, rfl, hname⟩ := kindsOf_mem_one.mp h
      obtain ⟨colon, rfl, hkind⟩ := kindsOf_mem_one.mp hcolon
      rw [kindsOf_mem_gaps] at hgap
      exact ⟨_, by simpa using IsStatement.label hname hgap hkind⟩
  · rintro ⟨n, h⟩
    cases h with
    | @instruction mnemonic gap first rest n ns hmnemonic hgap hfirst hrest =>
      have h : kindsOf ([mnemonic] ++ gap ++ first ++ rest)
          ∈ one .instruction * gaps * operands * (gaps * one .comma * gaps * operands)∗ :=
        kindsOf_mem_mul.mpr ⟨_, _, rfl, kindsOf_mem_mul.mpr ⟨_, _, rfl, kindsOf_mem_mul.mpr
          ⟨_, _, rfl, kindsOf_mem_one.mpr ⟨mnemonic, rfl, hmnemonic⟩, kindsOf_mem_gaps.mpr hgap⟩,
          kindsOf_mem_operands.mpr ⟨n, hfirst⟩⟩, kindsOf_mem_furtherOperands.mpr ⟨ns, hrest⟩⟩
      exact Or.inl (by simpa using h)
    | @label name colon gap hname hgap hcolon =>
      have h : kindsOf ([name] ++ gap ++ [colon]) ∈ one .ident * gaps * one .colon :=
        kindsOf_mem_mul.mpr ⟨_, _, rfl, kindsOf_mem_mul.mpr
          ⟨_, _, rfl, kindsOf_mem_one.mpr ⟨name, rfl, hname⟩, kindsOf_mem_gaps.mpr hgap⟩,
          kindsOf_mem_one.mpr ⟨colon, rfl, hcolon⟩⟩
      exact Or.inr (by simpa using h)

theorem kindsOf_mem_statements_kstar {ts : List Token} :
    kindsOf ts ∈ (statements * gaps)∗ ↔ ∃ ns, AreStatements ts ns := by
  constructor
  · intro h
    refine kstar_induction (P := fun ts => ∃ ns, AreStatements ts ns) ⟨[], .nil⟩ ?_ h
    rintro a rest ha ⟨ns, hrest⟩
    obtain ⟨first, gap, rfl, hfirst, hgap⟩ := kindsOf_mem_mul.mp ha
    obtain ⟨n, hfirst⟩ := kindsOf_mem_statements.mp hfirst
    exact ⟨n :: ns, .cons hfirst (kindsOf_mem_gaps.mp hgap) hrest⟩
  · rintro ⟨ns, h⟩
    induction h with
    | nil => exact nil_mem_kstar _
    | @cons first gap rest n ns hfirst hgap _ ih =>
      refine append_mem_kstar (kindsOf_mem_mul.mpr ⟨first, gap, rfl, ?_, ?_⟩) ih
      · exact kindsOf_mem_statements.mpr ⟨n, hfirst⟩
      · exact kindsOf_mem_gaps.mpr hgap

/-- **The grammar of kinds is the grammar of tokens**: the kinds of some tokens
are those of a program just when the tokens have a tree. -/
theorem kindsOf_mem_programs {ts : List Token} :
    kindsOf ts ∈ programs ↔ ∃ n, IsProgram ts n := by
  unfold programs
  rw [kindsOf_mem_mul]
  constructor
  · rintro ⟨gap, rest, rfl, hgap, hrest⟩
    obtain ⟨ns, hrest⟩ := kindsOf_mem_statements_kstar.mp hrest
    exact ⟨_, .intro (kindsOf_mem_gaps.mp hgap) hrest⟩
  · rintro ⟨n, ⟨hgap, hrest⟩⟩
    exact ⟨_, _, rfl, kindsOf_mem_gaps.mpr hgap, kindsOf_mem_statements_kstar.mpr ⟨_, hrest⟩⟩

end ParseKit.Pasm
