import ParseKit.Tree.Dump
import ParseKit.Proofs.Decimal.ReadBack
import ParseKit.Proofs.Text.Quoting

/-!
# Dumps of trees are read back

A plain dump says everything about a tree, so long as every label is on one line:
`Dump.readBack` makes the tree of its dump again, and so two trees with the same
dump are one tree (`Dump.plain_dump_unambiguous`).

Labels are free otherwise. They may hold parentheses, quotes and what looks like a
value or like guides, and so the reader never looks for anything from the front. It
cuts a row into three columns for each level, as the rows are laid out, and reads
the head of a node from behind: a quoted value back to where its quotes open,
then the kind back to its parenthesis. What is left is the label.

Below a node, the rows of a child are the one with its branch and those with a
guide after it. A branch is no guide, so the guided rows end where the next child
begins (`span_isGuided`).
-/

namespace ParseKit

namespace Dump

/-! ## The head of a node -/

/-- The label and the kind that end a line, from its characters, the last of them
first. -/
def readLabel (back : List Char) : String × Int :=
  let kind := (back.drop 1).takeWhile (· != '(')
  let label := (back.drop 1).dropWhile (· != '(')
  (String.ofList (label.drop 1).reverse, Numeral.signedValue kind.reverse)

/-- **The node with a head**, which is read from behind, and with the given children. -/
def readHead (head : List Char) (children : List Node) : Node :=
  if head.getLast? = some ')' then
    let (label, kind) := readLabel head.reverse
    .mk kind label none children
  else
    let (value, front) := Text.readQuoted head.reverse
    let (label, kind) := readLabel (front.drop " value: ".length)
    .mk kind label (some value) children

theorem readLabel_labelText (label : String) (kind : Int) :
    readLabel (labelText false label kind).toList.reverse = (label, kind) := by
  have hkind : ∀ c ∈ (toString kind).toList.reverse, (c != '(') = true := by
    intro c hc
    rcases Decimal.mem_toString_int (List.mem_reverse.mp hc) with hdigit | rfl
    · refine bne_iff_ne.mpr fun h => ?_
      rw [h] at hdigit
      exact absurd hdigit (by decide)
    · decide
  have hback : ((labelText false label kind).toList.reverse).drop 1
      = (toString kind).toList.reverse ++ '(' :: label.toList.reverse := by
    simp [labelText, Text.paint]
  simp only [readLabel, hback]
  rw [List.takeWhile_append_of_pos hkind, List.dropWhile_append_of_pos hkind,
    List.takeWhile_cons_of_neg (by decide), List.dropWhile_cons_of_neg (by decide), List.append_nil,
    List.reverse_reverse, Decimal.signedValue_toString, List.drop_one, List.tail_cons,
    List.reverse_reverse, String.ofList_toList]

/-- A plain head: the label and the kind, and the value in quotes after the name of
the field. -/
theorem toList_nodeHead (n : Node) :
    (nodeHead false n).toList = (labelText false n.label n.kind).toList
      ++ n.value.elim [] fun s => " value: ".toList ++ (Text.quote s).toList := by
  unfold nodeHead
  cases n.value with
  | none => simp
  | some s => simp [Text.paint]

/-- Quotes do not end with a parenthesis. -/
theorem getLast?_append_quote (front : List Char) (s : String) :
    (front ++ (Text.quote s).toList).getLast? ≠ some ')' := by
  have hmark : Text.quoteMark s.toList ≠ ')' := by
    rcases List.mem_pair.mp (Text.quoteMark_mem s.toList) with h | h <;> rw [h] <;> decide
  rw [← List.head?_reverse]
  simpa [Text.quote, Text.quoteChars] using hmark

/-- **A head is read back.** -/
theorem readHead_nodeHead (n : Node) (children : List Node) :
    readHead (nodeHead false n).toList children = .mk n.kind n.label n.value children := by
  have hlabel := readLabel_labelText n.label n.kind
  rw [toList_nodeHead]
  cases n.value with
  | none =>
    have hlast : (labelText false n.label n.kind).toList.getLast? = some ')' := by
      simp [labelText, List.getLast?_cons]
    rw [Option.elim_none, List.append_nil, readHead, if_pos hlast, hlabel]
  | some s =>
    rw [Option.elim_some, ← List.append_assoc, readHead, if_neg (getLast?_append_quote _ s),
      List.reverse_append, List.reverse_append, Text.readQuoted_quote s (by simp)]
    dsimp only
    rw [List.drop_left' (by decide), hlabel]

/-! ## The rows below a node -/

/-- Whether a row is below the child whose branch came last: it has a guide, or
blanks in its place. -/
def isGuided (row : List Char) : Bool :=
  row.take 3 == "│  ".toList || row.take 3 == "   ".toList

/-- **The trees of the rows below a node.** Each begins with the row of its branch,
and those with a guide after it are the rows below it; `fuel` is any bound on the
number of rows. -/
def readForest : (fuel : Nat) → List (List Char) → List Node
  | 0, _ => []
  | _ + 1, [] => []
  | fuel + 1, row :: rows =>
    readHead (row.drop 3) (readForest fuel ((rows.takeWhile isGuided).map (List.drop 3)))
      :: readForest fuel (rows.dropWhile isGuided)

/-- The rows of children in a plain dump. -/
def plainRows (ns : List Node) : List (List Char) := (childLines false "" ns).map String.toList

/-- A plain branch has three columns. -/
theorem length_branch (last : Bool) : (branch false last).toList.length = 3 := by
  cases last <;> decide

theorem isGuided_guide (last : Bool) (row : List Char) :
    isGuided ((guide false last).toList ++ row) = true
      ∧ ((guide false last).toList ++ row).drop 3 = row := by
  cases last <;> exact ⟨rfl, rfl⟩

theorem isGuided_branch (last : Bool) (row : List Char) :
    isGuided ((branch false last).toList ++ row) = false := by
  cases last <;> rfl

/-- **The lines of children are the same at every indentation**, but for it. -/
theorem childLines_indent (ns : List Node) (indent : String) :
    childLines false indent ns = (childLines false "" ns).map (indent ++ ·) := by
  induction ns using Node.forest_induction generalizing indent with
  | nil => rfl
  | cons n rest hchildren hrest =>
    obtain ⟨kind, label, value, children⟩ := n
    simp only [Node.children] at hchildren
    simp only [childLines, nodeLines]
    rw [hrest indent, hchildren (indent ++ _), hchildren ("" ++ _), List.map_append, List.map_cons,
      List.map_map]
    simp [String.append_assoc]

/-- The rows of a tree and of those after it: its branch and head, the rows of its
children with a guide, and the rows of the rest. -/
theorem plainRows_cons (n : Node) (rest : List Node) :
    plainRows (n :: rest) = ((branch false rest.isEmpty).toList ++ (nodeHead false n).toList)
      :: (plainRows n.children).map ((guide false rest.isEmpty).toList ++ ·) ++ plainRows rest := by
  obtain ⟨kind, label, value, children⟩ := n
  simp only [plainRows, childLines, nodeLines, Node.children]
  rw [childLines_indent children]
  simp [Function.comp_def]

/-- **The guided rows end where the next child begins.** -/
theorem span_isGuided (rows : List (List Char)) (last : Bool) (rest : List Node) :
    (rows.map ((guide false last).toList ++ ·) ++ plainRows rest).takeWhile isGuided
        = rows.map ((guide false last).toList ++ ·)
      ∧ (rows.map ((guide false last).toList ++ ·) ++ plainRows rest).dropWhile isGuided
        = plainRows rest := by
  have hguided : ∀ row ∈ rows.map ((guide false last).toList ++ ·), isGuided row = true := by
    intro row hrow
    obtain ⟨row, -, rfl⟩ := List.mem_map.mp hrow
    exact (isGuided_guide last row).1
  rw [List.takeWhile_append_of_pos hguided, List.dropWhile_append_of_pos hguided]
  cases rest with
  | nil => exact ⟨List.append_nil _, rfl⟩
  | cons n rest =>
    have hbranch := isGuided_branch rest.isEmpty (nodeHead false n).toList
    rw [plainRows_cons, List.cons_append, List.takeWhile_cons_of_neg (by simp [hbranch]),
      List.dropWhile_cons_of_neg (by simp [hbranch])]
    exact ⟨List.append_nil _, rfl⟩

/-- **The trees below a node are read back.** -/
theorem readForest_plainRows (ns : List Node) {fuel : Nat} (hfuel : (plainRows ns).length ≤ fuel) :
    readForest fuel (plainRows ns) = ns := by
  induction ns using Node.forest_induction generalizing fuel with
  | nil => cases fuel <;> rfl
  | cons n rest hchildren hrest =>
    rw [plainRows_cons] at hfuel ⊢
    simp only [List.cons_append, List.length_cons, List.length_append, List.length_map] at hfuel
    obtain ⟨fuel, rfl⟩ := Nat.exists_eq_add_one.mpr (Nat.lt_of_lt_of_le (Nat.succ_pos _) hfuel)
    obtain ⟨htake, hdrop⟩ := span_isGuided (plainRows n.children) rest.isEmpty rest
    have hunguided : ((plainRows n.children).map ((guide false rest.isEmpty).toList ++ ·)).map
        (List.drop 3) = plainRows n.children := by
      rw [List.map_map]
      exact (List.map_congr_left fun row _ => (isGuided_guide _ row).2).trans (List.map_id _)
    rw [List.cons_append, readForest, htake, hdrop, hunguided, hchildren (by omega),
      hrest (by omega), List.drop_left' (length_branch _), readHead_nodeHead]
    cases n
    rfl

/-! ## The rows of a dump -/

/-- **A head is on one line** if the label is. -/
theorem feed_not_mem_nodeHead {n : Node} (h : '\n' ∉ n.label.toList) :
    '\n' ∉ (nodeHead false n).toList := by
  have hkind : '\n' ∉ (toString n.kind).toList := fun hmem => by
    rcases Decimal.mem_toString_int hmem with hdigit | hsign
    · exact absurd hdigit (by decide)
    · exact absurd hsign (by decide)
  have hquote : ∀ s, '\n' ∉ (Text.quote s).toList := fun s hmem => by
    rw [Text.quote, String.toList_ofList] at hmem
    exact absurd (Text.isPrintable_of_mem_quoteChars hmem) (by decide)
  have hlabel : '\n' ∉ (labelText false n.label n.kind).toList := by
    simpa [labelText, Text.paint, h] using hkind
  rw [toList_nodeHead, List.mem_append, not_or]
  refine ⟨hlabel, ?_⟩
  cases n.value with
  | none => exact List.not_mem_nil
  | some s => simpa using hquote s

theorem feed_not_mem_plainRows {ns : List Node}
    (h : ∀ m ∈ Node.preorderAll ns, '\n' ∉ m.label.toList) : ∀ row ∈ plainRows ns, '\n' ∉ row := by
  have hbranch : ∀ last, '\n' ∉ (branch false last).toList := by decide
  have hguide : ∀ last, '\n' ∉ (guide false last).toList := by decide
  induction ns using Node.forest_induction with
  | nil => exact fun row hrow => nomatch hrow
  | cons n rest hchildren hrest =>
    simp only [Node.mem_preorderAll_cons] at h
    rw [plainRows_cons, List.cons_append, List.forall_mem_cons, List.forall_mem_append]
    refine ⟨?_, ?_, hrest fun m hm => h m (.inr (.inr hm))⟩
    · rw [List.mem_append, not_or]
      exact ⟨hbranch _, feed_not_mem_nodeHead (h n (.inl rfl))⟩
    · intro row hrow
      obtain ⟨row, hmem, rfl⟩ := List.mem_map.mp hrow
      rw [List.mem_append, not_or]
      exact ⟨hguide _, hchildren (fun m hm => h m (.inr (.inl hm))) row hmem⟩

/-- **The tree of a dump.** -/
def readBack (text : String) : Node :=
  match text.toList.splitOn '\n' with
  | [] => default
  | head :: rows => readHead head (readForest rows.length rows)

/-- **A tree is read back from its plain dump**, if its labels are on one line each. -/
theorem readBack_node {n : Node} (h : ∀ m ∈ n.preorder, '\n' ∉ m.label.toList) :
    readBack (node false n) = n := by
  obtain ⟨kind, label, value, children⟩ := n
  rw [Node.preorder, List.forall_mem_cons] at h
  have hrows : (node false (.mk kind label value children)).toList = ['\n'].intercalate
      ((nodeHead false (.mk kind label value children)).toList :: plainRows children) := by
    simp [node, nodeLines, plainRows]
  have hone : ∀ row ∈ (nodeHead false (.mk kind label value children)).toList :: plainRows children,
      '\n' ∉ row :=
    List.forall_mem_cons.mpr ⟨feed_not_mem_nodeHead h.1, feed_not_mem_plainRows h.2⟩
  rw [readBack, hrows, List.splitOn_intercalate _ hone (List.cons_ne_nil _ _)]
  dsimp only
  rw [readForest_plainRows children (Nat.le_refl _), readHead_nodeHead]
  rfl

/-- **Plain dumps are unambiguous.** The tree is read back from its dump, and trees
with the same dump are the same, if no label has a line feed. -/
theorem plain_dump_unambiguous {a b : Node} (ha : ∀ m ∈ a.preorder, '\n' ∉ m.label.toList)
    (hb : ∀ m ∈ b.preorder, '\n' ∉ m.label.toList) :
    ((Dumpable.node a).dump false).map readBack = .ok a
      ∧ ((Dumpable.node a).dump false = (Dumpable.node b).dump false → a = b) := by
  refine ⟨congrArg Except.ok (readBack_node ha), fun heq => ?_⟩
  have htext : node false a = node false b := Except.ok.inj heq
  rw [← readBack_node ha, htext, readBack_node hb]

/-- A tree whose labels and values have the marks that dumps are written with. -/
def marked : Node :=
  .mk 3 "a(1) value: 'x'" (some "it's \"so\"\n")
    [.mk (-2) "└─ b" none [.leaf 0 "│  )(" (some "\\")], .leaf 7 "" (some "'")]

/-- A tree that has the head of the other one as its label. -/
def quoted : Node := .leaf 3 (nodeHead false marked)

/-- Labels may look like heads and guides, and the dump still tells the trees apart. -/
theorem plain_dump_unambiguous_marked :
    (∀ m ∈ marked.preorder, '\n' ∉ m.label.toList) ∧ (∀ m ∈ quoted.preorder, '\n' ∉ m.label.toList)
      ∧ ((Dumpable.node marked).dump false).map readBack = .ok marked
      ∧ (Dumpable.node marked).dump false ≠ (Dumpable.node quoted).dump false := by
  have hmarked : ∀ m ∈ marked.preorder, '\n' ∉ m.label.toList := by decide +kernel
  have hquoted : ∀ m ∈ quoted.preorder, '\n' ∉ m.label.toList := by decide +kernel
  obtain ⟨hread, heq⟩ := plain_dump_unambiguous hmarked hquoted
  refine ⟨hmarked, hquoted, hread, fun h => ?_⟩
  have hvalue := congrArg Node.value (heq h)
  cases hvalue

/-- A line feed in a label makes a dump that another tree has too. -/
example : node false (.leaf 0 "a(0)\n└─ b") = node false (.mk 0 "a" none [.leaf 0 "b"]) := by
  decide +kernel

end Dump

end ParseKit
