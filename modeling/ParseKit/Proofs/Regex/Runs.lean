import ParseKit.Regex.Match
import Mathlib.Data.List.Find
import Mathlib.Data.List.TakeDrop
import Mathlib.Data.List.TakeWhile

/-!
# Runs and words

The expressions of a lexer are mostly of two forms: a run of characters, as
long as there are any, and a word, or one of several words. For these there
is no need to think of points, notes and marks. What such an expression
matches at a position of a text is said by the characters from there on:
a run takes the characters that pass its test, `List.takeWhile`, and a word
is there if it is a prefix.

That a run never gives back a character is not for want of trying: it is
because what comes after it is content with the first try. Each lemma about
runs therefore has a rest that matches where the run ends.
-/

namespace ParseKit.Regex

/-- Whether a character passes a test. -/
def UnitTest.admits (u : UnitTest) (c : Char) : Bool := u.holds c.toNat

/-- The number of characters at the front of a text that pass a test. -/
def UnitTest.run (u : UnitTest) (cs : List Char) : Nat := (cs.takeWhile u.admits).length

theorem UnitTest.run_le (u : UnitTest) (cs : List Char) : u.run cs ≤ cs.length :=
  (List.takeWhile_prefix _).length_le

@[simp] theorem UnitTest.run_nil (u : UnitTest) : u.run [] = 0 := rfl

theorem UnitTest.run_cons (u : UnitTest) (c : Char) (cs : List Char) :
    u.run (c :: cs) = if u.admits c then u.run cs + 1 else 0 := by
  unfold run
  rw [List.takeWhile_cons]
  split
  · rfl
  · rfl

/-- **A run is a word** if all of the word pass the test, and what follows does
not. -/
theorem UnitTest.run_append_eq_iff (u : UnitTest) (w rest : List Char) :
    u.run (w ++ rest) = w.length ↔ (∀ c ∈ w, u.admits c = true) ∧ u.run rest = 0 := by
  induction w with
  | nil => simp
  | cons c w ih =>
    rw [List.cons_append, run_cons, List.length_cons, List.forall_mem_cons]
    split
    · rename_i hc
      rw [Nat.add_right_cancel_iff, ih]
      simp [hc]
    · rename_i hc
      simp [hc]

/-- A text is its run and what comes after. -/
theorem UnitTest.exists_run (u : UnitTest) (cs : List Char) :
    ∃ ds, ds.length = u.run cs ∧ (∀ c ∈ ds, u.admits c = true) ∧ cs = ds ++ cs.drop (u.run cs) := by
  refine ⟨cs.takeWhile u.admits, rfl, fun c hc => List.mem_takeWhile_imp hc, ?_⟩
  exact (List.prefix_iff_eq_append.mp (List.takeWhile_prefix _)).symm

theorem UnitTest.run_eq_zero_iff (u : UnitTest) (cs : List Char) :
    u.run cs = 0 ↔ ∀ c rest, cs = c :: rest → u.admits c = false := by
  cases cs with
  | nil => simp
  | cons c rest =>
    rw [run_cons]
    split
    · rename_i hc
      simp [hc]
    · rename_i hc
      simpa using hc

variable {text : List Char} {u : UnitTest} {p : Nat}

/-! ## Characters from a position on -/

@[simp] theorem size_ofChars (text : List Char) :
    (Subject.ofChars text.toArray).size = text.length :=
  List.size_toArray

theorem code_ofChars (h : p < text.length) :
    (Subject.ofChars text.toArray).code p = text[p].toNat := by
  show (text.toArray.getD p '\x00').toNat = _
  rw [Array.getD_eq_getD_getElem?, List.getElem?_toArray, List.getElem?_eq_getElem h,
    Option.getD_some]

theorem drop_eq_cons (h : p < text.length) : text.drop p = text[p] :: text.drop (p + 1) :=
  List.drop_eq_getElem_cons h

/-- A test is passed at a position if the first character from there on passes
it. -/
theorem passes_ofChars (text : List Char) (u : UnitTest) (p : Nat) :
    passes (.ofChars text.toArray) u p = (text.drop p).head?.any u.admits := by
  unfold passes
  rcases Nat.lt_or_ge p text.length with h | h
  · rw [size_ofChars, decide_eq_true h, Bool.true_and, code_ofChars h, drop_eq_cons h]
    rfl
  · rw [size_ofChars, decide_eq_false (Nat.not_lt.mpr h), Bool.false_and,
      List.drop_eq_nil_of_le h]
    rfl

theorem wordAt_ofChars (text : List Char) (table : CharTable) (p : Nat) :
    wordAt (.ofChars text.toArray) table p
      = (text.drop p).head?.any fun c => Category.word.holds table c.toNat := by
  unfold wordAt
  rcases Nat.lt_or_ge p text.length with h | h
  · rw [size_ofChars, decide_eq_true h, Bool.true_and, code_ofChars h, drop_eq_cons h]
    rfl
  · rw [size_ofChars, decide_eq_false (Nat.not_lt.mpr h), Bool.false_and,
      List.drop_eq_nil_of_le h]
    rfl

/-! ## Runs -/

/-- **A run is as long as the test is passed.** -/
theorem runLength_ofChars {fuel : Nat} (h : (text.drop p).length ≤ fuel) :
    runLength (.ofChars text.toArray) u p fuel = u.run (text.drop p) := by
  induction fuel generalizing p with
  | zero =>
    rw [List.length_eq_zero_iff.mp (Nat.le_zero.mp h)]
    rfl
  | succ fuel ih =>
    rw [runLength, passes_ofChars]
    rcases Nat.lt_or_ge p text.length with hp | hp
    · rw [drop_eq_cons hp] at h ⊢
      rw [UnitTest.run_cons, ih (Nat.le_of_succ_le_succ h)]
      rfl
    · rw [List.drop_eq_nil_of_le hp]
      rfl

theorem runUpTo_ofChars : runUpTo (.ofChars text.toArray) u p none = u.run (text.drop p) := by
  refine runLength_ofChars ?_
  rw [List.length_drop, size_ofChars]

theorem tryRest_other (s : Subject) (looped : Bool) (before : Marks) (k : Rest) (pos : Nat)
    (q : Point) :
    tryRest s looped .other before k pos q
      = (k (.fresh pos q.marks)).takingBack looped before :=
  rfl

/-- The first try is the only one if it matches. -/
theorem fewer_matched {s : Subject} {looped : Bool} {before marks : Marks} {k : Rest}
    {base n stop : Nat} {q : Point}
    (hk : k (.fresh (base + n) q.marks) = .matched stop marks) :
    fewer s looped .other before k base n q = .matched stop marks := by
  cases n with
  | zero =>
    rw [fewer, tryRest_other, ← Nat.add_zero base, hk]
    rfl
  | succ n =>
    rw [fewer, tryRest_other, hk]
    rfl

/-- **A greedy run takes all there is**, if the rest then matches. -/
theorem runUnits_matched {least : Nat} {looped : Bool} {q : Point} {k : Rest} {stop : Nat}
    {marks : Marks} (hleast : least ≤ u.run (text.drop q.pos))
    (hk : k (.fresh (q.pos + u.run (text.drop q.pos)) q.marks) = .matched stop marks) :
    runUnits (.ofChars text.toArray) .greedy least none u looped .other q k
      = .matched stop marks := by
  have hle := u.run_le (text.drop q.pos)
  rw [List.length_drop] at hle
  unfold runUnits
  rw [if_neg (by rw [size_ofChars]; omega)]
  dsimp only
  rw [runUpTo_ofChars, if_neg (Nat.not_lt.mpr hleast)]
  refine fewer_matched ?_
  dsimp only
  rwa [Nat.add_assoc, Nat.add_sub_cancel' hleast]

/-- A run that is too short fails. -/
theorem runUnits_failed {least : Nat} (looped : Bool) (q : Point) (k : Rest)
    (hleast : u.run (text.drop q.pos) < least) :
    ∃ note, runUnits (.ofChars text.toArray) .greedy least none u looped .other q k
      = .failed note q.marks := by
  unfold runUnits
  split
  · exact ⟨_, rfl⟩
  · dsimp only
    rw [runUpTo_ofChars, if_pos hleast]
    exact ⟨_, rfl⟩

/-! ## Words -/

theorem admits_one (c d : Char) : (UnitTest.one c.toNat false .exact).admits d = (c == d) := by
  show ((c.toNat == d.toNat) != false) = (c == d)
  rw [Bool.bne_false, Bool.eq_iff_iff, beq_iff_eq, beq_iff_eq, Char.toNat_inj]

/-- A character is there if it is the first from a position on. -/
theorem run_unit_one (c : Char) (looped : Bool) (follow : Lead) (q : Point) (k : Rest) :
    run (.ofChars text.toArray) (.unit (.one c.toNat false .exact)) looped follow q k
      = if [c] <+: text.drop q.pos then k { q with pos := q.pos + 1 } else q.fail := by
  rw [run, passes_ofChars]
  cases text.drop q.pos with
  | nil => rfl
  | cons d rest =>
    rw [List.head?_cons, Option.any_some, admits_one]
    simp only [List.cons_prefix_cons, List.nil_prefix, and_true, beq_iff_eq]

/-- **A word is there if it is a prefix** of the characters from a position on. -/
theorem run_ofChars (w : List Char) (looped : Bool) (follow : Lead) (q : Point) (k : Rest) :
    run (.ofChars text.toArray) (ofChars w) looped follow q k
      = if w <+: text.drop q.pos then k { q with pos := q.pos + w.length } else q.fail := by
  induction w generalizing follow q with
  | nil =>
    rw [if_pos List.nil_prefix]
    rfl
  | cons c w ih =>
    cases w with
    | nil => exact run_unit_one c looped follow q k
    | cons d w =>
      have hseq : ofChars (c :: d :: w)
          = .seq (.unit (.one c.toNat false .exact)) (ofChars (d :: w)) := rfl
      rw [hseq, run, run_unit_one, ih]
      rcases Nat.lt_or_ge q.pos text.length with h | h
      · rw [drop_eq_cons h]
        simp only [List.cons_prefix_cons, List.nil_prefix, and_true, List.length_cons]
        by_cases hc : c = text[q.pos]
        · simp only [hc, true_and, if_true]
          rw [Nat.add_assoc, Nat.add_comm 1]
          rfl
        · simp only [hc, false_and, if_false]
      · rw [List.drop_eq_nil_of_le h]
        rfl

/-! ## One of several words -/

/-- An attempt ends at a position, or it fails, with the given marks. -/
def Attempt.Ends (a : Attempt) (marks : Marks) : Option Nat → Prop
  | some stop => a = .matched stop marks
  | none => ∃ note, a = .failed note marks

theorem Attempt.Ends.takingBack {a : Attempt} {marks : Marks} {o : Option Nat}
    (h : a.Ends marks o) (looped : Bool) : (a.takingBack looped marks).Ends marks o := by
  cases o with
  | some stop =>
    cases h
    rfl
  | none =>
    obtain ⟨note, rfl⟩ := h
    refine ⟨note, ?_⟩
    rw [Attempt.takingBack, Marks.takeBack]
    split
    · rfl
    · rw [Array.extract_size]

/-- A rest only judges the position: it matches there or fails, and marks
nothing. -/
def Rest.Judges (k : Rest) (marks : Marks) (ok : Nat → Bool) : Prop :=
  ∀ q : Point, q.marks = marks → (k q).Ends marks (if ok q.pos then some q.pos else none)

/-- Where the first of several words ends that is a prefix, if the position there
is judged well. -/
def wordEnd (words : List (List Char)) (ok : Nat → Bool) (cs : List Char) (pos : Nat) :
    Option Nat :=
  (words.find? fun w => w.isPrefixOf cs && ok (pos + w.length)).map fun w => pos + w.length

theorem wordEnd_cons (w : List Char) (words : List (List Char)) (ok : Nat → Bool)
    (cs : List Char) (pos : Nat) :
    wordEnd (w :: words) ok cs pos
      = if w.isPrefixOf cs && ok (pos + w.length) then some (pos + w.length)
        else wordEnd words ok cs pos := by
  unfold wordEnd
  rw [List.find?_cons]
  split
  · rename_i hhit
    rw [if_pos hhit]
    rfl
  · rename_i hmiss
    rw [if_neg (by rw [hmiss]; exact Bool.false_ne_true)]

variable {k : Rest} {marks : Marks} {ok : Nat → Bool}

theorem run_word_ends (hk : k.Judges marks ok) (w : List Char) (looped : Bool) (follow : Lead)
    {q : Point} (hq : q.marks = marks) :
    (run (.ofChars text.toArray) (ofChars w) looped follow q k).Ends marks
      (if w.isPrefixOf (text.drop q.pos) && ok (q.pos + w.length) then some (q.pos + w.length)
        else none) := by
  rw [run_ofChars]
  by_cases hw : w <+: text.drop q.pos
  · rw [if_pos hw, List.isPrefixOf_iff_prefix.mpr hw, Bool.true_and]
    exact hk _ hq
  · rw [if_neg hw, Bool.eq_false_iff.mpr (mt List.isPrefixOf_iff_prefix.mp hw), Bool.false_and]
    exact ⟨q.note, by rw [← hq]; rfl⟩

/-- An alternative that is a word. To pass over it is right, since it is passed
over only where its first character is not there. -/
theorem choose_word_ends (text : List Char) (hk : k.Judges marks ok) {w : List Char}
    (hw : w ≠ []) (looped : Bool) {q : Point} (hq : q.marks = marks) :
    (choose (.ofChars text.toArray) looped (ofChars w)
      (run (.ofChars text.toArray) (ofChars w) looped .other) q k).Ends marks
        (if w.isPrefixOf (text.drop q.pos) && ok (q.pos + w.length) then some (q.pos + w.length)
          else none) := by
  obtain ⟨c, w, rfl⟩ := List.exists_cons_of_ne_nil hw
  have hlead : (ofChars (c :: w)).lead = .unit (.one c.toNat false .exact) := by
    cases w with
    | nil => rfl
    | cons d w => rfl
  unfold choose
  rw [hlead]
  dsimp only
  split
  · rename_i hpassed
    have hfirst : ¬ c :: w <+: text.drop q.pos := by
      intro hfront
      obtain ⟨rest, hrest⟩ := hfront
      rw [passes_ofChars, ← hrest, List.cons_append, List.head?_cons, Option.any_some,
        admits_one] at hpassed
      simp [UnitTest.isDecisive] at hpassed
    rw [Bool.eq_false_iff.mpr (mt List.isPrefixOf_iff_prefix.mp hfirst), Bool.false_and]
    exact ⟨q.note, by rw [← hq]; rfl⟩
  · rw [hq]
    exact (run_word_ends hk (c :: w) looped .other (q := .fresh q.pos marks) rfl).takingBack looped

/-- A word or something else: the word, if it leads to a match. -/
theorem run_alt_ends (hk : k.Judges marks ok) {w : List Char} (hw : w ≠ []) {b : Regex}
    {looped : Bool} (follow : Lead) {q : Point} (hq : q.marks = marks) {o : Option Nat}
    (hb : ∀ note, (if b.isChoice
      then run (.ofChars text.toArray) b looped .other ⟨q.pos, note, marks⟩ k
      else choose (.ofChars text.toArray) looped b (run (.ofChars text.toArray) b looped .other)
        ⟨q.pos, note, marks⟩ k).Ends marks o) :
    (run (.ofChars text.toArray) (.alt (ofChars w) b) looped follow q k).Ends marks
      (if w.isPrefixOf (text.drop q.pos) && ok (q.pos + w.length) then some (q.pos + w.length)
        else o) := by
  have hfirst := choose_word_ends text hk hw looped hq
  rw [run]
  split at hfirst
  · rename_i hhit
    rw [hfirst, if_pos hhit]
    rfl
  · rename_i hmiss
    obtain ⟨note, hfailed⟩ := hfirst
    rw [hfailed, if_neg hmiss]
    exact hb note

/-- **Of several words the first is taken that leads to a match.** -/
theorem run_anyOf_ends (hk : k.Judges marks ok) {first second : List Char}
    {words : List (List Char)} (hwords : ∀ w ∈ first :: second :: words, w ≠ []) (looped : Bool)
    (follow : Lead) {q : Point} (hq : q.marks = marks) :
    (run (.ofChars text.toArray) (anyOf ((first :: second :: words).map ofChars)) looped follow q
      k).Ends marks (wordEnd (first :: second :: words) ok (text.drop q.pos) q.pos) := by
  induction words generalizing first second follow q with
  | nil =>
    obtain ⟨hfirst, hwords⟩ := List.forall_mem_cons.mp hwords
    obtain ⟨hsecond, -⟩ := List.forall_mem_cons.mp hwords
    -- a word by itself is no choice, and so the last alternative is tried as one
    have hlast : (ofChars second).lastChoice = ofChars second
        ∧ (ofChars second).isChoice = false := by
      obtain ⟨c, w, rfl⟩ := List.exists_cons_of_ne_nil hsecond
      cases w with
      | nil => exact ⟨rfl, rfl⟩
      | cons d w => exact ⟨rfl, rfl⟩
    have hboth : anyOf ([first, second].map ofChars) = .alt (ofChars first) (ofChars second) :=
      congrArg (Regex.alt (ofChars first)) hlast.1
    rw [hboth, wordEnd_cons, wordEnd_cons]
    refine run_alt_ends hk hfirst follow hq fun note => ?_
    rw [hlast.2]
    exact choose_word_ends text hk hsecond looped (q := ⟨q.pos, note, marks⟩) rfl
  | cons third words ih =>
    obtain ⟨hfirst, hwords⟩ := List.forall_mem_cons.mp hwords
    rw [wordEnd_cons]
    exact run_alt_ends hk hfirst follow hq fun note =>
      ih hwords .other (q := ⟨q.pos, note, marks⟩) rfl

/-! ## Where matches end -/

theorem Attempt.Ends.stop {a : Attempt} {o : Option Nat} (h : a.Ends marks o)
    (hmarks : marks.isTangled = false) : a.stop = .ok o := by
  cases o with
  | some stop =>
    cases h
    rw [Attempt.stop, if_neg (by rw [hmarks]; exact Bool.false_ne_true)]
  | none =>
    obtain ⟨note, rfl⟩ := h
    rfl

/-- Matching from a position of a text on. That nothing is tried where there is
too little left makes no difference. -/
theorem matchEnd_of_ends {r : Regex} {o : Option Nat} (marks : Marks)
    (hmarks : marks.isTangled = false) (hp : p ≤ text.length)
    (hwidth : (text.drop p).length < r.width.least → o = none)
    (h : (run (.ofChars text.toArray) r false .other (.fresh p .empty) accept).Ends marks o) :
    r.matchEnd (.ofChars text.toArray) p = .ok o := by
  unfold matchEnd
  rw [size_ofChars, Nat.min_eq_left hp]
  dsimp only
  rw [← List.length_drop]
  split
  · rename_i hshort
    rw [hwidth hshort]
  · exact h.stop hmarks

/-- The number of characters of a run, if there are any. -/
def UnitTest.someRun (u : UnitTest) (cs : List Char) : Option Nat :=
  if u.run cs = 0 then none else some (u.run cs)

theorem UnitTest.someRun_eq_some {cs : List Char} {n : Nat} (h : u.someRun cs = some n) :
    n = u.run cs ∧ 0 < n := by
  unfold someRun at h
  split at h
  · cases h
  · cases h
    exact ⟨rfl, Nat.pos_of_ne_zero ‹_›⟩

/-- **A run of one or more.** -/
theorem matchEnd_oneOrMore (u : UnitTest) (hp : p ≤ text.length) :
    (oneOrMore u).matchEnd (.ofChars text.toArray) p
      = .ok ((u.someRun (text.drop p)).map (p + ·)) := by
  have hwidth : (oneOrMore u).width.least = 1 := rfl
  have hle := u.run_le (text.drop p)
  unfold UnitTest.someRun
  by_cases hrun : u.run (text.drop p) = 0
  · rw [if_pos hrun]
    refine matchEnd_of_ends .empty rfl hp (fun _ => rfl) ?_
    exact runUnits_failed _ (.fresh p .empty) _ (Nat.lt_one_iff.mpr hrun)
  · rw [if_neg hrun]
    refine matchEnd_of_ends .empty rfl hp (fun hshort => absurd hshort (by omega)) ?_
    exact runUnits_matched (q := .fresh p .empty) (Nat.one_le_iff_ne_zero.mpr hrun) rfl

/-- The number of characters of a run with a character of another sort before
it. -/
def headedRun (v u : UnitTest) : List Char → Option Nat
  | c :: cs => if v.admits c then some (u.run cs + 1) else none
  | [] => none

theorem headedRun_eq_some {v : UnitTest} {cs : List Char} {n : Nat}
    (h : headedRun v u cs = some n) :
    ∃ c rest, cs = c :: rest ∧ v.admits c = true ∧ n = u.run rest + 1 := by
  cases cs with
  | nil => cases h
  | cons c rest =>
    rw [headedRun] at h
    split at h
    · cases h
      exact ⟨c, rest, rfl, ‹_›, rfl⟩
    · cases h

/-- **A character of one sort and a run of another.** -/
theorem matchEnd_headed (v u : UnitTest) (hp : p ≤ text.length) :
    (Regex.seq (.unit v) (zeroOrMore u)).matchEnd (.ofChars text.toArray) p
      = .ok ((headedRun v u (text.drop p)).map (p + ·)) := by
  refine matchEnd_of_ends .empty rfl hp (fun hshort => ?_) ?_
  · have hleast : (Regex.seq (.unit v) (zeroOrMore u)).width.least = 1 := rfl
    rw [List.length_eq_zero_iff.mp (by omega : (text.drop p).length = 0)]
    rfl
  · have hpasses := passes_ofChars text v p
    rw [run, run]
    change Attempt.Ends (if passes _ v p then run _ _ _ _ ⟨p + 1, p, .empty⟩ _ else _) _ _
    rcases Nat.lt_or_ge p text.length with h | h
    · rw [drop_eq_cons h, List.head?_cons, Option.any_some] at hpasses
      rw [drop_eq_cons h, hpasses, headedRun]
      split
      · refine runUnits_matched (Nat.zero_le _) ?_
        dsimp only
        rw [Nat.add_comm (u.run _) 1, ← Nat.add_assoc]
        rfl
      · exact ⟨p, rfl⟩
    · rw [List.drop_eq_nil_of_le h] at hpasses
      rw [List.drop_eq_nil_of_le h, hpasses]
      exact ⟨p, rfl⟩

/-! ## Words that end at a boundary -/

/-- Whether a text begins with a word character. -/
def beginsWord (table : CharTable) (cs : List Char) : Bool :=
  cs.head?.any fun c => Category.word.holds table c.toNat

/-- **The first of several words that stands at the front of a text by itself**,
with no word character after it. -/
def freeWord (table : CharTable) (words : List (List Char)) (cs : List Char) :
    Option (List Char) :=
  words.find? fun w => w.isPrefixOf cs && !beginsWord table (cs.drop w.length)

theorem freeWord_eq_some {table : CharTable} {words : List (List Char)} {cs w : List Char}
    (h : freeWord table words cs = some w) :
    w ∈ words ∧ ∃ rest, cs = w ++ rest ∧ beginsWord table rest = false := by
  have hw : (w.isPrefixOf cs && !beginsWord table (cs.drop w.length)) = true :=
    List.find?_some
      (p := fun w : List Char => w.isPrefixOf cs && !beginsWord table (cs.drop w.length)) h
  refine ⟨List.mem_of_find?_eq_some h, ?_⟩
  obtain ⟨hfront, hfree⟩ := Bool.and_eq_true_iff.mp hw
  obtain ⟨rest, rfl⟩ := List.isPrefixOf_iff_prefix.mp hfront
  rw [List.drop_left] at hfree
  exact ⟨rest, rfl, by simpa using hfree⟩

/-- After a word there is a boundary unless a word character follows. -/
theorem boundary_after_word {table : CharTable} {w more : List Char} (hw : w ≠ [])
    (hchars : ∀ c ∈ w, Category.word.holds table c.toNat = true)
    (htext : text.drop p = w ++ more) :
    (Anchor.boundary table).holds (.ofChars text.toArray) (p + w.length)
      = !beginsWord table more := by
  have hlength := congrArg List.length htext
  have hpos : 0 < w.length := List.length_pos_iff.mpr hw
  rw [List.length_drop, List.length_append] at hlength
  have hsize : text.length ≠ 0 := by omega
  -- the character before is the last of the word
  have hbefore : wordAt (.ofChars text.toArray) table (p + w.length - 1) = true := by
    have hdrop : text.drop (p + w.length - 1) = w.getLast hw :: more := by
      rw [Nat.add_sub_assoc hpos, ← List.drop_drop, htext,
        List.drop_append_of_le_length (Nat.sub_le _ _), List.drop_length_sub_one hw]
      rfl
    rw [wordAt_ofChars, hdrop]
    exact hchars _ (List.getLast_mem hw)
  have hafter : wordAt (.ofChars text.toArray) table (p + w.length) = beginsWord table more := by
    rw [wordAt_ofChars, ← List.drop_drop, htext, List.drop_left]
    rfl
  rw [Anchor.holds, atBoundary, hbefore, hafter, size_ofChars, bne_iff_ne.mpr hsize,
    decide_eq_true (by omega : 0 < p + w.length)]
  simp

/-- **One of several words that ends at a boundary.** -/
theorem matchEnd_words {table : CharTable} {words : List (List Char)} (hseveral : 2 ≤ words.length)
    (hwords : ∀ w ∈ words, w ≠ [] ∧ ∀ c ∈ w, Category.word.holds table c.toNat = true)
    (hwidth : ∀ w ∈ words, (Regex.seq (anyOf (words.map ofChars))
      (.anchor (.boundary table))).width.least ≤ w.length) (hp : p ≤ text.length) :
    (Regex.seq (anyOf (words.map ofChars)) (.anchor (.boundary table))).matchEnd
      (.ofChars text.toArray) p
        = .ok (((freeWord table words (text.drop p)).map List.length).map (p + ·)) := by
  have hjudges : Rest.Judges
      (fun q => run (.ofChars text.toArray) (.anchor (.boundary table)) false .other q accept)
      .empty ((Anchor.boundary table).holds (.ofChars text.toArray)) := by
    intro q hq
    dsimp only
    rw [run]
    split
    · exact congrArg _ hq
    · exact ⟨q.note, congrArg _ hq⟩
  have hfree : wordEnd words ((Anchor.boundary table).holds (.ofChars text.toArray))
      (text.drop p) p = ((freeWord table words (text.drop p)).map List.length).map (p + ·) := by
    rw [Option.map_map]
    refine congrArg (Option.map _) (List.find?_congr fun w hw => ?_)
    dsimp only
    by_cases hfront : w <+: text.drop p
    · obtain ⟨more, hmore⟩ := hfront
      rw [boundary_after_word (hwords w hw).1 (hwords w hw).2 hmore.symm, ← hmore, List.drop_left]
    · rw [Bool.eq_false_iff.mpr (mt List.isPrefixOf_iff_prefix.mp hfront)]
      rfl
  rw [← hfree]
  refine matchEnd_of_ends .empty rfl hp (fun hshort => ?_) ?_
  · rw [wordEnd, List.find?_eq_none.mpr, Option.map_none]
    intro w hw hhit
    obtain ⟨hfront, -⟩ := Bool.and_eq_true_iff.mp hhit
    have hle := (List.isPrefixOf_iff_prefix.mp hfront).length_le
    have hleast := hwidth w hw
    omega
  · match words, hseveral with
    | first :: second :: words, _ =>
      rw [run]
      exact run_anyOf_ends hjudges (fun w hw => (hwords w hw).1) false _ rfl

/-! ## Runs with a second run after a point -/

/-- The number of characters of a run with the given character before it. -/
def UnitTest.runAfter (u : UnitTest) (point : Char) : List Char → Option Nat
  | c :: cs => if c = point ∧ u.run cs ≠ 0 then some (u.run cs + 1) else none
  | [] => none

/-- The number of characters of a run, if there are any, and of a second one if
there is one after the given character. -/
def UnitTest.pointedRun (u : UnitTest) (point : Char) (cs : List Char) : Option Nat :=
  if u.run cs = 0 then none else some (u.run cs + (u.runAfter point (cs.drop (u.run cs))).getD 0)

theorem UnitTest.runAfter_eq_some {point : Char} {cs : List Char} {n : Nat}
    (h : u.runAfter point cs = some n) :
    ∃ rest, cs = point :: rest ∧ u.run rest ≠ 0 ∧ n = u.run rest + 1 := by
  cases cs with
  | nil => cases h
  | cons c rest =>
    rw [runAfter] at h
    split at h
    · rename_i hpoint
      cases h
      exact ⟨rest, by rw [hpoint.1], hpoint.2, rfl⟩
    · cases h

theorem UnitTest.pointedRun_eq_some {point : Char} {cs : List Char} {n : Nat}
    (h : u.pointedRun point cs = some n) :
    u.run cs ≠ 0 ∧ n = u.run cs + (u.runAfter point (cs.drop (u.run cs))).getD 0 := by
  unfold pointedRun at h
  split at h
  · cases h
  · cases h
    exact ⟨‹_›, rfl⟩

/-- Something that may be there once, at the end. -/
theorem runRounds_optional (s : Subject) (looped : Bool) (body : Step) (q : Point) :
    runRounds s .greedy 0 (some 1) looped body q accept
      = match body (.fresh q.pos q.marks) accept with
        | .failed .. => .matched q.pos q.marks
        | found => found := by
  have hlast : (fun r => greedyRounds body 0 (some 1) accept (s.size + 1) 1 (some q.pos) r)
      = accept := by
    funext r
    rfl
  have hallowed : (roundAllowed (some 1) 0 && (none != some q.pos)) = true := rfl
  unfold runRounds
  dsimp only
  rw [Nat.zero_add, greedyRounds, if_neg (Nat.lt_irrefl 0), if_pos hallowed, hlast]
  rfl

/-- The second run is there, or the attempt at it fails. -/
theorem run_group_pointed (text : List Char) (u : UnitTest) (point : Char) (looped : Bool)
    (q : Point) :
    match u.runAfter point (text.drop q.pos),
      run (.ofChars text.toArray) (.group 1 (.seq (ofChars [point]) (oneOrMore u))) looped .other q
        accept with
    | some n, a => a = .matched (q.pos + n) ((q.marks.begin 1 q.pos).finish 1 (q.pos + n))
    | none, a => ∃ note marks, a = .failed note marks := by
  rw [run, run, run_ofChars]
  rcases Nat.lt_or_ge q.pos text.length with h | h
  · rw [drop_eq_cons h, UnitTest.runAfter]
    simp only [List.cons_prefix_cons, List.nil_prefix, and_true]
    by_cases hc : text[q.pos] = point
    · rw [if_pos hc.symm]
      by_cases hrun : u.run (text.drop (q.pos + 1)) = 0
      · rw [if_neg fun h => h.2 hrun]
        obtain ⟨note, hfailed⟩ := runUnits_failed looped
          ⟨q.pos + 1, q.note, q.marks.begin 1 q.pos⟩
          (fun r => accept { r with marks := r.marks.finish 1 r.pos }) (Nat.lt_one_iff.mpr hrun)
        exact ⟨note, _, hfailed⟩
      · rw [if_pos ⟨hc, hrun⟩]
        refine runUnits_matched (Nat.one_le_iff_ne_zero.mpr hrun) ?_
        rw [Nat.add_comm (u.run _) 1, ← Nat.add_assoc]
        rfl
    · rw [if_neg fun h => hc h.1, if_neg fun h => hc h.symm]
      exact ⟨_, _, rfl⟩
  · rw [List.drop_eq_nil_of_le h, if_neg (by simp)]
    exact ⟨_, _, rfl⟩

theorem isTangled_one {a b : Nat} (h : a ≤ b) :
    ((Marks.empty.begin 1 a).finish 1 b).isTangled = false := by
  have hmarks : (Marks.empty.begin 1 a).finish 1 b = #[some a, some b] := rfl
  rw [hmarks, Marks.isTangled]
  simpa using h

/-- The second run is taken if it is there. -/
theorem run_optional_pointed (text : List Char) (u : UnitTest) (point : Char) (p : Nat) :
    ∃ marks : Marks, marks.isTangled = false
      ∧ run (.ofChars text.toArray) (.rep .greedy 0 (some 1)
          (.group 1 (.seq (ofChars [point]) (oneOrMore u)))) false .other (.fresh p .empty) accept
        = .matched (p + (u.runAfter point (text.drop p)).getD 0) marks := by
  have hgroup := run_group_pointed text u point true (.fresh p .empty)
  rw [run, runRounds_optional]
  · dsimp only [Point.fresh] at hgroup ⊢
    cases hafter : u.runAfter point (text.drop p) with
    | some n =>
      rw [hafter] at hgroup
      rw [hgroup]
      exact ⟨_, isTangled_one (Nat.le_add_right p n), rfl⟩
    | none =>
      rw [hafter] at hgroup
      obtain ⟨note, marks, hfailed⟩ := hgroup
      rw [hfailed]
      exact ⟨.empty, rfl, rfl⟩
  · intro v h
    cases h
  · intro h
    cases h

/-- **A run, and a second one after a point.** -/
theorem matchEnd_pointed (u : UnitTest) (point : Char) (hp : p ≤ text.length) :
    (Regex.seq (oneOrMore u) (.rep .greedy 0 (some 1)
      (.group 1 (.seq (ofChars [point]) (oneOrMore u))))).matchEnd (.ofChars text.toArray) p
        = .ok ((u.pointedRun point (text.drop p)).map (p + ·)) := by
  have hwidth : (Regex.seq (oneOrMore u) (.rep .greedy 0 (some 1)
      (.group 1 (.seq (ofChars [point]) (oneOrMore u))))).width.least = 1 := rfl
  have hle := u.run_le (text.drop p)
  unfold UnitTest.pointedRun
  by_cases hrun : u.run (text.drop p) = 0
  · rw [if_pos hrun]
    refine matchEnd_of_ends .empty rfl hp (fun _ => rfl) ?_
    exact runUnits_failed _ (.fresh p .empty) _ (Nat.lt_one_iff.mpr hrun)
  · rw [if_neg hrun, List.drop_drop, Option.map_some, ← Nat.add_assoc]
    obtain ⟨marks, hmarks, hsecond⟩ :=
      run_optional_pointed text u point (p + u.run (text.drop p))
    refine matchEnd_of_ends marks hmarks hp (fun hshort => absurd hshort (by omega)) ?_
    exact runUnits_matched (q := .fresh p .empty) (Nat.one_le_iff_ne_zero.mpr hrun) hsecond

end ParseKit.Regex
