import ParseKit.Proofs.Lexing.FirstMatch

/-!
# Lexers side by side

Two lexers may go through their sources in step: a lexer and the same one
with another name for the source, with patterns written in another way, or
in the middle of a longer source. Each time the two differ in what they
hold, and what the one reads is what the other reads, **put in other words**:
a function of tokens and one of errors say how.

That two lexers go side by side is shown for one step (`Along`), by a
relation that the lexers after a token are in again. What it gives for any
number of tokens, and for all of them, is shown here once (`Along.take`,
`Along.all`).
-/

namespace ParseKit

/-- Why lexing ends, with its error put in other words. -/
def LexStop.reword (g : LexError → LexError) : LexStop → LexStop
  | .error e => .error (g e)
  | .unmatchable => .unmatchable
  | .tangled => .tangled
  | .endless => .endless

theorem LexStop.reword_id (stop : LexStop) : stop.reword id = stop := by
  cases stop <;> rfl

namespace Lexer

variable {R : Lexer → Lexer → Prop} {f : Token → Token} {g : LexError → LexError} {l m : Lexer}

/-! ## In step -/

/-- **The second lexer reads next what the first reads, put in other words**, and
after a token the lexers are related again. -/
inductive NextAlike (R : Lexer → Lexer → Prop) (f : Token → Token) (g : LexError → LexError)
    (l m : Lexer) : Prop where
  /-- Both read a token. -/
  | token {t : Token} {l' m' : Lexer} (left : l.next = .ok (some (t, l')))
      (right : m.next = .ok (some (f t, m'))) (after : R l' m')
  /-- Both are at the end. -/
  | atEnd (left : l.next = .ok none) (right : m.next = .ok none)
  /-- Both stop. -/
  | stopped {stop : LexStop} (left : l.next = .error stop)
      (right : m.next = .error (stop.reword g))

/-- **Related lexers go side by side.** -/
structure Along (R : Lexer → Lexer → Prop) (f : Token → Token) (g : LexError → LexError) :
    Prop where
  /-- They read the same next, put in other words. -/
  next : ∀ {l m}, R l m → NextAlike R f g l m
  /-- They have as many characters left. -/
  left : ∀ {l m}, R l m → l.left = m.left
  /-- Other words for a token leave its text as it is. -/
  text : ∀ t, (f t).text = t.text

/-- **The second run is the first, put in other words.** -/
structure Run.Alike (R : Lexer → Lexer → Prop) (f : Token → Token) (g : LexError → LexError)
    (r s : Run) : Prop where
  /-- The tokens correspond, one by one. -/
  tokens : s.tokens = r.tokens.map f
  /-- The runs end for the same reason. -/
  stop : s.stop = r.stop.map (LexStop.reword g)
  /-- The lexers are related afterwards. -/
  lexer : R r.lexer s.lexer

theorem Run.Alike.cons {r s : Run} (h : r.Alike R f g s) (t : Token) :
    (r.cons t).Alike R f g (s.cons (f t)) :=
  ⟨congrArg (f t :: ·) h.tokens, h.stop, h.lexer⟩

/-- **Taking tokens goes side by side.** -/
theorem Along.take (h : Along R f g) (hlm : R l m) (n : Nat) :
    (take n l).Alike R f g (take n m) := by
  induction n generalizing l m with
  | zero => exact ⟨rfl, rfl, hlm⟩
  | succ n ih =>
    unfold Lexer.take
    cases h.next hlm with
    | token left right after =>
      rw [left, right]
      exact (ih after).cons _
    | atEnd left right =>
      rw [left, right]
      exact ⟨rfl, rfl, hlm⟩
    | stopped left right =>
      rw [left, right]
      exact ⟨rfl, rfl, hlm⟩

theorem Along.drain (h : Along R f g) (hlm : R l m) (fuel : Nat) :
    (drain fuel l).Alike R f g (drain fuel m) := by
  induction fuel generalizing l m with
  | zero => exact ⟨rfl, rfl, hlm⟩
  | succ fuel ih =>
    unfold Lexer.drain
    cases h.next hlm with
    | @token t l' m' left right after =>
      rw [left, right]
      dsimp only
      rw [h.text t]
      split
      · exact ⟨rfl, rfl, hlm⟩
      · exact (ih after).cons t
    | atEnd left right =>
      rw [left, right]
      exact ⟨rfl, rfl, hlm⟩
    | stopped left right =>
      rw [left, right]
      exact ⟨rfl, rfl, hlm⟩

/-- **Reading all tokens goes side by side.** -/
theorem Along.all (h : Along R f g) (hlm : R l m) : l.all.Alike R f g m.all := by
  unfold Lexer.all
  rw [← h.left hlm]
  exact h.drain hlm l.left

theorem Run.Alike.mono {R' : Lexer → Lexer → Prop} {r s : Run} (h : r.Alike R f g s)
    (hR : ∀ {l m}, R l m → R' l m) : r.Alike R' f g s :=
  ⟨h.tokens, h.stop, hR h.lexer⟩

/-- **Two lexers are read alike**, in part and as a whole. -/
structure ReadAlike (R : Lexer → Lexer → Prop) (f : Token → Token) (g : LexError → LexError)
    (l m : Lexer) : Prop where
  /-- Any number of tokens is read alike. -/
  take : ∀ n, (take n l).Alike R f g (take n m)
  /-- All tokens are read alike. -/
  all : l.all.Alike R f g m.all

/-- **Lexers that go side by side are read alike.** -/
theorem Along.readAlike (h : Along R f g) {R' : Lexer → Lexer → Prop}
    (hR : ∀ {l m}, R l m → R' l m) (hlm : R l m) : ReadAlike R' f g l m :=
  ⟨fun n => (h.take hlm n).mono hR, (h.all hlm).mono hR⟩

/-- **Two lexers read the same**: the same tokens to the same end, with their cursors at
the same place afterwards. -/
def ReadSame (l m : Lexer) : Prop := ReadAlike (fun l m => m.cursor = l.cursor) id id l m

/-- Lexers that read the same give the same. -/
theorem ReadSame.result_eq (h : ReadSame l m) : l.all.result = m.all.result := by
  have hid : LexStop.reword id = id := funext LexStop.reword_id
  unfold Run.result
  rw [h.all.stop, h.all.tokens, List.map_id, hid, Option.map_id]
  rfl

/-! ## From the first match on -/

/-- What the first pattern that matches, of several, makes of what comes next: the kind, the
label and the number of characters. -/
def choice (l : Lexer) (ps : List Pattern) : Except Regex.Tangled (Option (Int × String × Nat)) :=
  (l.firstMatch ps).map (Option.map fun m => (m.1.kind, m.1.label, m.2))

/-- The first match is the same for lexers at which each pattern matches the same. -/
theorem firstMatch_congr {ps : List Pattern} (h : ∀ p ∈ ps, m.lengthOf p = l.lengthOf p) :
    m.firstMatch ps = l.firstMatch ps := by
  induction ps with
  | nil => rfl
  | cons p ps ih =>
    obtain ⟨hp, hps⟩ := List.forall_mem_cons.mp h
    unfold firstMatch
    rw [hp, ih hps]

theorem choice_congr {ps : List Pattern} (h : ∀ p ∈ ps, m.lengthOf p = l.lengthOf p) :
    m.choice ps = l.choice ps := by
  unfold choice
  rw [firstMatch_congr h]

variable {c : Char} (hc : l.source.chars[l.cursor.pos]? = some c)

include hc

theorem next_of_choice_error {t : Regex.Tangled} (h : l.choice l.patterns = .error t) :
    l.next = .error .tangled := by
  unfold choice at h
  unfold next
  rw [hc]
  cases hfirst : l.firstMatch l.patterns with
  | error t' => rfl
  | ok found =>
    rw [hfirst] at h
    cases h

theorem next_of_choice_none (h : l.choice l.patterns = .ok none) :
    l.next = .error (.error (l.errorAt c)) := by
  unfold choice at h
  unfold next
  rw [hc]
  cases hfirst : l.firstMatch l.patterns with
  | error t =>
    rw [hfirst] at h
    cases h
  | ok found =>
    rw [hfirst] at h
    rw [Option.map_eq_none_iff.mp (Except.ok.inj h)]

/-- A token is made of the kind, the label and the number of characters alone. -/
theorem next_of_choice_some {kind : Int} {label : String} {n : Nat}
    (h : l.choice l.patterns = .ok (some (kind, label, n))) :
    l.next = .ok (some (l.tokenOf ⟨label, kind, default⟩ n, l.advance n)) := by
  unfold choice at h
  unfold next
  rw [hc]
  cases hfirst : l.firstMatch l.patterns with
  | error t =>
    rw [hfirst] at h
    cases h
  | ok found =>
    rw [hfirst] at h
    obtain ⟨⟨p, n'⟩, rfl, hmade⟩ := Option.map_eq_some_iff.mp (Except.ok.inj h)
    cases hmade
    rfl

omit hc

/-- **Lexers read the same next if they choose the same at the same character**, and
all that is made of a choice corresponds. -/
theorem nextAlike_of_choice (hchar : m.source.chars[m.cursor.pos]? = l.source.chars[l.cursor.pos]?)
    (hchoice : m.choice m.patterns = l.choice l.patterns)
    (htoken : ∀ p n, m.tokenOf p n = f (l.tokenOf p n))
    (herror : ∀ c, m.errorAt c = g (l.errorAt c)) (hafter : ∀ n, R (l.advance n) (m.advance n)) :
    NextAlike R f g l m := by
  cases hc : l.source.chars[l.cursor.pos]? with
  | none =>
    rw [hc] at hchar
    exact .atEnd (by unfold next; rw [hc]) (by unfold next; rw [hchar])
  | some c =>
    rw [hc] at hchar
    cases hl : l.choice l.patterns with
    | error t =>
      rw [hl] at hchoice
      exact .stopped (next_of_choice_error hc hl) (next_of_choice_error hchar hchoice)
    | ok found =>
      rw [hl] at hchoice
      cases found with
      | none =>
        refine .stopped (next_of_choice_none hc hl) ?_
        rw [next_of_choice_none hchar hchoice, herror]
        rfl
      | some made =>
        refine .token (next_of_choice_some hc hl) ?_ (hafter made.2.2)
        rw [← htoken]
        exact next_of_choice_some hchar hchoice

/-! ## Patterns in other forms -/

/-- What a pattern matches where a lexer stands in a source. -/
theorem StandsIn.lengthOf {source : String} (h : l.StandsIn source) (p : Pattern) :
    l.lengthOf p = p.matchAt source l.cursor.pos := by
  unfold Lexer.lengthOf Pattern.matchAt
  rw [h.aligned.bytePos, before, h.text_eq, h.source_eq]
  rfl

theorem StandsIn.advance {source : String} (h : l.StandsIn source) (n : Nat) :
    (l.advance n).StandsIn source :=
  ⟨h.source_eq, h.aligned.advance n⟩

/-- **A reading moves the cursor**, and nothing else. -/
theorem Reads.eq_withCursor {l' : Lexer} {ts : List Token} (h : Reads l ts l') :
    l' = { l with cursor := l'.cursor } := by
  induction h with
  | nil l => rfl
  | cons first rest ih =>
    obtain ⟨p, n, -, -, -, rfl⟩ := next_eq_token first
    exact ih

theorem standsIn_onSource (patterns : List Pattern) (source filename : String) :
    (onSource patterns source filename).StandsIn source :=
  ⟨rfl, aligned_start (.mk patterns filename .empty .start) source⟩

end Lexer

/-- **Patterns that cannot be told apart**: with the same label and kind, and with the
same matches at every place of every source. -/
structure Pattern.Interchangeable (p q : Pattern) : Prop where
  /-- The label of their tokens is the same. -/
  label : p.label = q.label
  /-- The kind of their tokens is the same. -/
  kind : p.kind = q.kind
  /-- They match the same. -/
  matchAt : ∀ source offset, p.matchAt source offset = q.matchAt source offset

theorem Pattern.Interchangeable.refl (p : Pattern) : p.Interchangeable p :=
  ⟨rfl, rfl, fun _ _ => rfl⟩

namespace Lexer

variable {source : String} {ps qs : List Pattern}

theorem choice_interchangeable (h : List.Forall₂ Pattern.Interchangeable ps qs) {l : Lexer}
    (hl : l.StandsIn source) :
    l.choice qs = l.choice ps := by
  induction h with
  | nil => rfl
  | @cons p q ps qs hpq _ ih =>
    have hlength : l.lengthOf q = l.lengthOf p := by
      rw [hl.lengthOf, hl.lengthOf, hpq.matchAt]
    unfold choice firstMatch
    rw [hlength]
    cases l.lengthOf p with
    | error t => rfl
    | ok found =>
      cases found with
      | none => exact ih
      | some n => simp only [Except.map, Option.map_some, hpq.kind, hpq.label]

/-- **Patterns can be put in other forms**, if these cannot be told apart. -/
theorem along_interchangeable (h : List.Forall₂ Pattern.Interchangeable ps qs) :
    Along (fun l m => l.StandsIn source ∧ l.patterns = ps ∧ m = { l with patterns := qs })
      id id := by
  refine ⟨?_, ?_, fun t => rfl⟩
  · rintro l m ⟨hl, rfl, rfl⟩
    have hsame : { l with patterns := qs }.choice qs = l.choice qs := choice_congr fun p _ => rfl
    have hchoice := hsame.trans (choice_interchangeable h hl)
    exact nextAlike_of_choice rfl hchoice (fun p n => rfl) (fun c => rfl)
      fun n => ⟨hl.advance n, rfl, rfl⟩
  · rintro l m ⟨-, -, rfl⟩
    rfl

end Lexer

end ParseKit
