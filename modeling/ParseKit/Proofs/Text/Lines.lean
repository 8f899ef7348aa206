import ParseKit.Text.Lines
import Mathlib.Data.List.Basic
import Mathlib.Data.List.TakeWhile

/-!
# Two ways to count lines

A text can be cut at its line feeds only, or at every character that ends a
line. A place in a text has a line either way: the characters around it up to
the next line feeds, `lineAround`, with the text above them, `above`; and the
line of `linesOf` that it falls into. A place is numbered by the line feeds
before it. This module says when that number finds the right line of
`linesOf`.

A line feed always ends a line of `linesOf`, so that there are at least as
many lines above a place as there are line feeds (`count_feed_le_length`), and
cutting the text above a place and the text from there on is cutting the whole
(`linesOf_append`). There are just as many if every line above is ended by a
line feed, alone or after a carriage return. `findsLine_iff` puts this
together: the number of line feeds before a place finds the line around it
exactly if all line ends above are of this sort and there is none within the
line. In a text without any other line ends it does so at every place
(`endedByFeeds_of_breaks`).
-/

namespace ParseKit.Text

/-! ## Lines -/

/-- The lines of a character and more, unless the two begin with a carriage
return and a line feed. -/
theorem linesOf_cons {c : Char} {rest : List Char}
    (h : ∀ more, c = '\r' → rest = '\n' :: more → False) :
    linesOf (c :: rest)
      = if isLineBreak c then ⟨[], [c]⟩ :: linesOf rest else consLine c (linesOf rest) := by
  rw [linesOf]
  exact h

/-- What ends a line: nothing, a carriage return with a line feed, or a
character that ends lines. -/
inductive IsEnding : List Char → Prop where
  /-- The text is over. -/
  | none : IsEnding []
  /-- A carriage return with a line feed. -/
  | pair : IsEnding ['\r', '\n']
  /-- One character. -/
  | char {c : Char} (h : isLineBreak c = true) : IsEnding [c]

/-- **A line of a text**: it goes on to its end, and there is something of it. -/
structure Line.WellFormed (l : Line) : Prop where
  /-- No character of the line ends a line. -/
  unbroken : ∀ c ∈ l.text, isLineBreak c = false
  /-- What ends the line ends lines. -/
  ending : IsEnding l.ending
  /-- The line is not without a character, its end included. -/
  nonempty : l.whole ≠ []

theorem wellFormed_consLine {c : Char} (hc : isLineBreak c = false) {ls : List Line}
    (h : ∀ l ∈ ls, l.WellFormed) : ∀ l ∈ consLine c ls, l.WellFormed := by
  cases ls with
  | nil =>
    intro l hl
    rw [List.mem_singleton.mp hl]
    exact ⟨by simpa using hc, .none, by simp [Line.whole]⟩
  | cons first rest =>
    obtain ⟨hfirst, hrest⟩ := List.forall_mem_cons.mp h
    refine List.forall_mem_cons.mpr ⟨⟨?_, hfirst.ending, by simp [Line.whole]⟩, hrest⟩
    exact List.forall_mem_cons.mpr ⟨hc, hfirst.unbroken⟩

/-- **The lines of a text are lines.** -/
theorem wellFormed_linesOf (s : List Char) : ∀ l ∈ linesOf s, l.WellFormed := by
  fun_induction linesOf s with
  | case1 => exact List.forall_mem_nil _
  | case2 rest ih =>
    exact List.forall_mem_cons.mpr ⟨⟨List.forall_mem_nil _, .pair, by simp [Line.whole]⟩, ih⟩
  | case3 c rest _ hc ih =>
    exact List.forall_mem_cons.mpr ⟨⟨List.forall_mem_nil _, .char hc, by simp [Line.whole]⟩, ih⟩
  | case4 c rest _ hc ih => exact wellFormed_consLine (by simpa using hc) ih

/-! ## Cutting at a line feed -/

theorem consLine_append {c : Char} {ls : List Line} (h : ls ≠ []) (more : List Line) :
    consLine c (ls ++ more) = consLine c ls ++ more := by
  cases ls with
  | nil => exact absurd rfl h
  | cons l ls => rfl

theorem linesOf_ne_nil {s : List Char} (h : s ≠ []) : linesOf s ≠ [] := by
  intro hnone
  have hwhole := flatMap_whole_linesOf s
  rw [hnone] at hwhole
  exact h hwhole.symm

theorem linesOf_feed (rest : List Char) :
    linesOf ('\n' :: rest) = ⟨[], ['\n']⟩ :: linesOf rest :=
  linesOf_cons (fun _ h => absurd h (by decide))

/-- A character that ends no line joins the line after it. -/
theorem linesOf_cons_of_unbroken {c : Char} (hc : isLineBreak c = false) (rest : List Char) :
    linesOf (c :: rest) = consLine c (linesOf rest) := by
  have hreturn : c ≠ '\r' := by
    rintro rfl
    cases hc
  rw [linesOf_cons fun _ h => absurd h hreturn, hc]
  rfl

/-- **A line feed ends a line**, whatever comes after it. -/
theorem linesOf_append_feed (a b : List Char) :
    linesOf (a ++ '\n' :: b) = linesOf (a ++ ['\n']) ++ linesOf b := by
  fun_induction linesOf a with
  | case1 => simp [linesOf_feed, linesOf]
  | case2 rest ih =>
    show linesOf ('\r' :: '\n' :: (rest ++ '\n' :: b))
      = linesOf ('\r' :: '\n' :: (rest ++ ['\n'])) ++ linesOf b
    rw [linesOf, linesOf, ih]
    rfl
  | case3 c rest hpair hc ih =>
    cases rest with
    | nil =>
      -- a carriage return at the end of the first part is joined by the line feed
      by_cases hreturn : c = '\r'
      · subst hreturn
        rfl
      · show linesOf (c :: '\n' :: b) = linesOf (c :: ['\n']) ++ linesOf b
        rw [linesOf_cons fun _ h => absurd h hreturn, linesOf_cons fun _ h => absurd h hreturn,
          if_pos hc, if_pos hc, linesOf_feed, linesOf_feed]
        rfl
    | cons d rest =>
      have happart : ∀ more more', c = '\r' → d :: (rest ++ more) = '\n' :: more' → False := by
        intro more more' hreturn hfeed
        injection hfeed with hd
        exact hpair rest hreturn (by rw [hd])
      show linesOf (c :: (d :: (rest ++ '\n' :: b)))
        = linesOf (c :: (d :: (rest ++ ['\n']))) ++ linesOf b
      rw [linesOf_cons (happart _), linesOf_cons (happart _), if_pos hc, if_pos hc]
      exact congrArg _ ih
  | case4 c rest hpair hc ih =>
    have hunbroken : isLineBreak c = false := by simpa using hc
    show linesOf (c :: (rest ++ '\n' :: b)) = linesOf (c :: (rest ++ ['\n'])) ++ linesOf b
    rw [linesOf_cons_of_unbroken hunbroken, linesOf_cons_of_unbroken hunbroken, ih,
      consLine_append (linesOf_ne_nil (by simp))]

/-- **Two parts of a text have the lines of the whole**, if the first part is
closed by a line feed. -/
theorem linesOf_append {a : List Char} (h : a = [] ∨ a.getLast? = some '\n') (b : List Char) :
    linesOf (a ++ b) = linesOf a ++ linesOf b := by
  rcases h with rfl | h
  · rfl
  · obtain ⟨a, rfl⟩ := List.getLast?_eq_some_iff.mp h
    rw [List.append_assoc, List.singleton_append, linesOf_append_feed]

/-- **The first line of a text that begins with unbroken characters** up to a
line feed or the end. -/
theorem linesOf_head {t rest : List Char} (ht : ∀ c ∈ t, isLineBreak c = false)
    (hrest : rest = [] ∨ rest.head? = some '\n') (h : t ++ rest ≠ []) :
    ((linesOf (t ++ rest)).head?).map Line.text = some t := by
  induction t with
  | nil =>
    obtain rfl | hfeed := hrest
    · exact absurd rfl h
    · obtain ⟨more, rfl⟩ := List.head?_eq_some_iff.mp hfeed
      rw [List.nil_append, linesOf_feed]
      rfl
  | cons c t ih =>
    obtain ⟨hc, ht⟩ := List.forall_mem_cons.mp ht
    rw [List.cons_append, linesOf_cons_of_unbroken hc]
    by_cases hmore : t ++ rest = []
    · rw [hmore, (List.append_eq_nil_iff.mp hmore).1]
      rfl
    · obtain ⟨l, hl, htext⟩ := Option.map_eq_some_iff.mp (ih ht hmore)
      obtain ⟨more, hlines⟩ := List.head?_eq_some_iff.mp hl
      rw [hlines, consLine, List.head?_cons, Option.map_some, htext]

/-! ## As many lines as line feeds -/

/-- The line feeds of a line are in its end, and there is one at most. -/
theorem Line.WellFormed.count_feed {l : Line} (h : l.WellFormed) :
    l.whole.count '\n' = if '\n' ∈ l.ending then 1 else 0 := by
  have htext : l.text.count '\n' = 0 :=
    List.count_eq_zero_of_not_mem fun hmem => Bool.noConfusion (h.unbroken '\n' hmem)
  rw [Line.whole, List.count_append, htext, Nat.zero_add]
  have hending := h.ending
  generalize l.ending = ending at hending ⊢
  cases hending with
  | none => rfl
  | pair => decide
  | @char c hc =>
    by_cases hfeed : c = '\n'
    · simp [hfeed]
    · simp [hfeed, Ne.symm hfeed]

/-- The line feeds of lines: there are as many as lines that end with one. -/
theorem count_feed_lines {ls : List Line} (h : ∀ l ∈ ls, l.WellFormed) :
    (ls.flatMap Line.whole).count '\n' = ls.countP fun l => '\n' ∈ l.ending := by
  induction ls with
  | nil => rfl
  | cons l ls ih =>
    obtain ⟨hl, hls⟩ := List.forall_mem_cons.mp h
    rw [List.flatMap_cons, List.count_append, hl.count_feed, ih hls, List.countP_cons,
      Nat.add_comm]
    simp

/-- **There are as many lines as line feeds just if each line ends with one.** -/
theorem length_linesOf_eq_count_iff (s : List Char) :
    (linesOf s).length = s.count '\n' ↔ ∀ l ∈ linesOf s, '\n' ∈ l.ending := by
  have hcount := count_feed_lines (wellFormed_linesOf s)
  rw [flatMap_whole_linesOf] at hcount
  rw [hcount, eq_comm, List.countP_eq_length]
  simp

/-- There are at least as many lines as line feeds. -/
theorem count_feed_le_length (s : List Char) : s.count '\n' ≤ (linesOf s).length := by
  have hcount := count_feed_lines (wellFormed_linesOf s)
  rw [flatMap_whole_linesOf] at hcount
  rw [hcount]
  exact List.countP_le_length

/-- What follows the first character of a closed text is closed. -/
theorem closed_of_cons {c : Char} {rest : List Char}
    (h : c :: rest = [] ∨ (c :: rest).getLast? = some '\n') :
    rest = [] ∨ rest.getLast? = some '\n' := by
  cases rest with
  | nil => exact Or.inl rfl
  | cons d rest => exact Or.inr (h.resolve_left (List.cons_ne_nil _ _))

/-- **Every line of a closed text ends with a line feed**, if nothing but line feeds ends lines
in it. -/
theorem feed_mem_ending {s : List Char} (hbreaks : ∀ c ∈ s, isLineBreak c = true → c = '\n')
    (hclosed : s = [] ∨ s.getLast? = some '\n') : ∀ l ∈ linesOf s, '\n' ∈ l.ending := by
  fun_induction linesOf s with
  | case1 => exact List.forall_mem_nil _
  | case2 rest ih =>
    have hrest := closed_of_cons (closed_of_cons hclosed)
    have hmore := ih (fun c hc => hbreaks c (by simp [hc])) hrest
    exact List.forall_mem_cons.mpr ⟨by simp, hmore⟩
  | case3 c rest _ hc ih =>
    obtain ⟨hfeed, hmore⟩ := List.forall_mem_cons.mp hbreaks
    exact List.forall_mem_cons.mpr ⟨by simp [hfeed hc], ih hmore (closed_of_cons hclosed)⟩
  | case4 c rest _ hc ih =>
    obtain ⟨-, hmore⟩ := List.forall_mem_cons.mp hbreaks
    have hlines := ih hmore (closed_of_cons hclosed)
    -- the character is not the last one, since that is a line feed
    have hne : rest ≠ [] := by
      rintro rfl
      rcases hclosed with h | h
      · cases h
      · cases h
        exact hc rfl
    obtain ⟨first, more, hfirst⟩ := List.exists_cons_of_ne_nil (linesOf_ne_nil hne)
    rw [hfirst] at hlines ⊢
    obtain ⟨hending, hmore⟩ := List.forall_mem_cons.mp hlines
    exact List.forall_mem_cons.mpr ⟨hending, hmore⟩

/-! ## The line around a place -/

/-- The text above a place: up to the last line feed before it, and with that. -/
def above (s : List Char) (offset : Nat) : List Char :=
  ((s.take offset).reverse.dropWhile (· != '\n')).reverse

/-- What is left of a place in its line. -/
def leftOf (s : List Char) (offset : Nat) : List Char :=
  ((s.take offset).reverse.takeWhile (· != '\n')).reverse

/-- What is right of a place in its line, with the character there unless it is the
line feed that ends the line. -/
def rightOf (s : List Char) (offset : Nat) : List Char :=
  (s.drop offset).takeWhile (· != '\n')

/-- **The line around a place**, from the line feed before it to the next. -/
def lineAround (s : List Char) (offset : Nat) : List Char := leftOf s offset ++ rightOf s offset

example : lineAround ['a', '\n', 'b', 'c', '\n'] 4 = ['b', 'c'] := by decide

theorem take_eq_above_append (s : List Char) (offset : Nat) :
    s.take offset = above s offset ++ leftOf s offset := by
  rw [above, leftOf, ← List.reverse_append, List.takeWhile_append_dropWhile, List.reverse_reverse]

/-- A text is what is above a place, the line around it and what comes after. -/
theorem eq_above_append (s : List Char) (offset : Nat) :
    s = above s offset ++ (lineAround s offset ++ (s.drop offset).dropWhile (· != '\n')) := by
  rw [lineAround, rightOf, List.append_assoc, List.takeWhile_append_dropWhile, ← List.append_assoc,
    ← take_eq_above_append, List.take_append_drop]

/-- What stops a run of characters other than line feeds is a line feed. -/
theorem dropWhile_ne_feed (s : List Char) :
    s.dropWhile (· != '\n') = [] ∨ (s.dropWhile (· != '\n')).head? = some '\n' := by
  cases hrest : s.dropWhile (· != '\n') with
  | nil => exact Or.inl rfl
  | cons c rest =>
    have hc := List.head?_dropWhile_not (· != '\n') s
    rw [hrest] at hc
    exact Or.inr (by simpa using hc)

theorem above_closed (s : List Char) (offset : Nat) :
    above s offset = [] ∨ (above s offset).getLast? = some '\n' := by
  rw [above, List.getLast?_reverse, List.reverse_eq_nil_iff]
  exact dropWhile_ne_feed _

/-- The line feeds before a place are above it. -/
theorem count_feed_take (s : List Char) (offset : Nat) :
    (s.take offset).count '\n' = (above s offset).count '\n' := by
  have hleft : '\n' ∉ leftOf s offset := by
    intro hmem
    have hne := List.mem_takeWhile_imp (List.mem_reverse.mp hmem)
    simp at hne
  rw [take_eq_above_append, List.count_append, List.count_eq_zero_of_not_mem hleft, Nat.add_zero]

/-- The text above a place is part of the whole. -/
theorem mem_of_mem_above {s : List Char} {offset : Nat} {c : Char} (h : c ∈ above s offset) :
    c ∈ s := by
  rw [eq_above_append s offset]
  exact List.mem_append_left _ h

theorem mem_of_mem_lineAround {s : List Char} {offset : Nat} {c : Char}
    (h : c ∈ lineAround s offset) : c ∈ s := by
  rw [eq_above_append s offset]
  exact List.mem_append_right _ (List.mem_append_left _ h)

/-- No line feed is in the line around a place. -/
theorem feed_not_mem_lineAround (s : List Char) (offset : Nat) : '\n' ∉ lineAround s offset := by
  intro h
  rcases List.mem_append.mp h with h | h
  · simpa using List.mem_takeWhile_imp (List.mem_reverse.mp h)
  · simpa using List.mem_takeWhile_imp h

/-- The lines of a text, by those above a place and those from its line on. -/
theorem linesOf_eq_above_append (s : List Char) (offset : Nat) :
    linesOf s = linesOf (above s offset)
      ++ linesOf (lineAround s offset ++ (s.drop offset).dropWhile (· != '\n')) :=
  (congrArg linesOf (eq_above_append s offset)).trans (linesOf_append (above_closed s offset) _)

/-- **The character at a place stands in the line around it**, after what is left of
it; a line feed stands just past the end of its line. -/
theorem getElem?_lineAround {s : List Char} {offset : Nat} {c : Char} (h : s[offset]? = some c) :
    (lineAround s offset)[(leftOf s offset).length]? = some c
      ∨ c = '\n' ∧ (lineAround s offset).length = (leftOf s offset).length := by
  obtain ⟨hlt, rfl⟩ := List.getElem?_eq_some_iff.mp h
  rw [lineAround, rightOf, List.drop_eq_getElem_cons hlt, List.takeWhile_cons]
  by_cases hfeed : s[offset] = '\n'
  · refine Or.inr ⟨hfeed, ?_⟩
    simp [hfeed]
  · refine Or.inl ?_
    rw [List.getElem?_append_right (Nat.le_refl _), Nat.sub_self]
    simp [hfeed]

/-- **A piece at a place that has no line feed stands in the line around it**, after what is left
of the place. -/
theorem take_drop_lineAround {s piece : List Char} {offset : Nat} (h : piece <+: s.drop offset)
    (hfeed : '\n' ∉ piece) :
    ((lineAround s offset).drop (leftOf s offset).length).take piece.length = piece := by
  obtain ⟨rest, hrest⟩ := h
  have hall : ∀ c ∈ piece, (c != '\n') = true := by
    rintro c hc
    rw [bne_iff_ne]
    rintro rfl
    exact hfeed hc
  rw [lineAround, List.drop_left, rightOf, ← hrest, List.takeWhile_append_of_pos hall,
    List.take_left]

theorem length_leftOf_le (s : List Char) (offset : Nat) : (leftOf s offset).length ≤ offset := by
  have hle := congrArg List.length (take_eq_above_append s offset)
  rw [List.length_append, List.length_take] at hle
  omega

/-- There is something at a place, in its line or as its end. -/
theorem lineAround_append_ne_nil {s : List Char} {offset : Nat} (h : offset < s.length) :
    lineAround s offset ++ (s.drop offset).dropWhile (· != '\n') ≠ [] := by
  rw [lineAround, List.append_assoc, rightOf, List.takeWhile_append_dropWhile, ne_eq,
    List.append_eq_nil_iff, List.drop_eq_nil_iff]
  exact fun hnil => absurd hnil.2 (Nat.not_le.mpr h)

/-- **There is always a line with the number of the line feeds before a place.** -/
theorem count_feed_lt_length {s : List Char} {offset : Nat} (h : offset < s.length) :
    (s.take offset).count '\n' < (linesOf s).length := by
  have habove := count_feed_le_length (above s offset)
  have hline := List.length_pos_of_ne_nil (linesOf_ne_nil (lineAround_append_ne_nil h))
  rw [count_feed_take, linesOf_eq_above_append s offset, List.length_append]
  omega

/-- **The number of line feeds before a place finds the line around it**: the
lines before are the text above, and the line is the line around it. -/
structure FindsLine (s : List Char) (offset : Nat) : Prop where
  /-- The lines before are the text above the place. -/
  before : ((linesOf s).take ((s.take offset).count '\n')).flatMap Line.whole = above s offset
  /-- The line is the line around the place. -/
  line : ((linesOf s)[(s.take offset).count '\n']?).map Line.text = some (lineAround s offset)

/-- **Lines are ended by line feeds up to the line around a place.** A carriage
return may stand before a line feed. -/
structure EndedByFeeds (s : List Char) (offset : Nat) : Prop where
  /-- Each line above the place ends with a line feed. -/
  above : ∀ l ∈ linesOf (above s offset), '\n' ∈ l.ending
  /-- No character of the line around the place ends a line. -/
  line : ∀ c ∈ lineAround s offset, isLineBreak c = false

/-- **In a text whose lines are ended by line feeds alone, all lines are.** -/
theorem endedByFeeds_of_breaks {s : List Char}
    (h : ∀ c ∈ s, isLineBreak c = true → c = '\n') (offset : Nat) : EndedByFeeds s offset where
  above := feed_mem_ending (fun c hc => h c (mem_of_mem_above hc)) (above_closed s offset)
  line c hc := by
    by_contra hbreak
    have hfeed := h c (mem_of_mem_lineAround hc) (by simpa using hbreak)
    exact feed_not_mem_lineAround s offset (hfeed ▸ hc)

/-- Lines with characters that make up the same text are as many. -/
theorem eq_of_flatMap_whole_take {ls : List Line} (h : ∀ l ∈ ls, l.WellFormed) {i j : Nat}
    (hj : j ≤ ls.length)
    (heq : (ls.take i).flatMap Line.whole = (ls.take j).flatMap Line.whole) : ¬ i < j := by
  intro hlt
  obtain ⟨k, rfl⟩ := Nat.exists_eq_add_of_lt hlt
  rw [Nat.add_assoc, List.take_add, List.flatMap_append, List.self_eq_append_right,
    List.flatMap_eq_nil_iff] at heq
  have hi : i < ls.length := by omega
  have hmem : ls[i] ∈ (ls.drop i).take (k + 1) := by
    rw [List.drop_eq_getElem_cons hi, List.take_succ_cons]
    exact List.mem_cons_self
  exact (h _ (List.getElem_mem hi)).nonempty (heq _ hmem)

/-- **The number of line feeds before a place finds the line around it exactly
where lines are ended by line feeds.** -/
theorem findsLine_iff {s : List Char} {offset : Nat} (h : offset < s.length) :
    FindsLine s offset ↔ EndedByFeeds s offset := by
  have hlines := linesOf_eq_above_append s offset
  have hwell := wellFormed_linesOf s
  constructor
  · rintro ⟨hbefore, hline⟩
    -- the lines before are the lines of the text above, since both make it up
    have hcount : (linesOf (above s offset)).length = (above s offset).count '\n' := by
      have htake : ((linesOf s).take (linesOf (above s offset)).length).flatMap Line.whole
          = above s offset := by
        rw [hlines, List.take_left, flatMap_whole_linesOf]
      have hle : (linesOf (above s offset)).length ≤ (linesOf s).length := by
        rw [hlines, List.length_append]
        exact Nat.le_add_right _ _
      have hlt := count_feed_lt_length h
      have hnot := eq_of_flatMap_whole_take hwell hle (hbefore.trans htake.symm)
      have hnot' := eq_of_flatMap_whole_take hwell (Nat.le_of_lt hlt) (htake.trans hbefore.symm)
      rw [count_feed_take] at hnot hnot'
      omega
    refine ⟨(length_linesOf_eq_count_iff _).mp hcount, ?_⟩
    obtain ⟨l, hl, htext⟩ := Option.map_eq_some_iff.mp hline
    rw [← htext]
    exact (hwell l (List.mem_of_getElem? hl)).unbroken
  · rintro ⟨habove, hline⟩
    have hcount : (s.take offset).count '\n' = (linesOf (above s offset)).length := by
      rw [count_feed_take, (length_linesOf_eq_count_iff _).mpr habove]
    refine ⟨?_, ?_⟩
    · rw [hcount, hlines, List.take_left, flatMap_whole_linesOf]
    · rw [hcount, hlines, List.getElem?_append_right (Nat.le_refl _), Nat.sub_self,
        ← List.head?_eq_getElem?]
      exact linesOf_head hline (dropWhile_ne_feed _) (lineAround_append_ne_nil h)

end ParseKit.Text
