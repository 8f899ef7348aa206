import ParseKit.Proofs.Lexing.SideBySide

/-!
# However a stream is drained

There are several ways to get at the tokens of a source: one by one, by an
iteration that is left after some tokens and perhaps taken up again later, and
all at once. They share one cursor, so that each of them goes on where another has
stopped, and an iteration that was begun on one source goes on in the next one. A
`Session` is a lexer together with the iterations that have been begun over it.

What a lexer has before it (`Ahead`) is a list of tokens, and then the end
of the source or an error. A request for tokens takes some of them off the
front, or else it comes to the error (`Session.drawn`); so no mix of requests can
change what comes out in the end, nor can anything that came before the source
was begun (`draining_independent_of_schedule`).
-/

namespace ParseKit

namespace Lexer

/-! ## What lies ahead -/

/-- **What a lexer has before it**: some tokens, then the end or an error, at which the
lexer is the last one. -/
structure Ahead (l : Lexer) (ts : List Token) (e : Option LexError) (last : Lexer) : Prop where
  /-- The tokens are a reading. -/
  reads : Reads l ts last
  /-- Each token has a character. -/
  nonempty : ∀ t ∈ ts, t.text ≠ ""
  /-- Then there is no token more, since this is the end or for the error. -/
  final : last.next = e.elim (.ok none) fun e => .error (.error e)

/-- A run that comes to the end or to an error has read what lies ahead. -/
theorem ahead_all {l : Lexer} {e : Option LexError} (h : l.all.stop = e.map LexStop.error) :
    Ahead l l.all.tokens e l.all.lexer := by
  refine ⟨reads_drain l.left l, fun t ht => nonempty_of_mem_drain ht, ?_⟩
  cases e with
  | none => exact (next_eq_none_iff _).mpr (drain_atEnd (Nat.le_refl _) h)
  | some e => exact next_of_drain_stop h

variable {l last : Lexer} {ts : List Token} {e : Option LexError}

/-- All of what lies ahead is what draining gives. -/
theorem Ahead.all_eq (h : Ahead l ts e last) : l.all = ⟨ts, e.map LexStop.error, last⟩ := by
  cases e with
  | none => exact all_eq_of_reads_end h.reads h.nonempty h.final
  | some e => exact all_eq_of_reads_error h.reads h.nonempty h.final

/-- A lexer that has nothing more before it is the last one. -/
theorem Ahead.of_nil (h : Ahead l [] e last) : l = last := by
  cases h.reads
  rfl

/-- The first token of what lies ahead is the next one. -/
theorem Ahead.of_cons {t : Token} (h : Ahead l (t :: ts) e last) :
    ∃ l', l.next = .ok (some (t, l')) ∧ Ahead l' ts e last := by
  obtain ⟨-, hts⟩ := List.forall_mem_cons.mp h.nonempty
  cases h.reads with
  | cons first rest => exact ⟨_, first, rest, hts, h.final⟩

/-- **Some tokens are taken off the front of what lies ahead**, or all of it. -/
theorem Ahead.take (h : Ahead l ts e last) (n : Nat) :
    (∃ a b l', ts = a ++ b ∧ Lexer.take n l = ⟨a, none, l'⟩ ∧ Ahead l' b e last)
      ∨ Lexer.take n l = ⟨ts, e.map LexStop.error, last⟩ := by
  induction n generalizing l ts with
  | zero => exact .inl ⟨[], ts, l, rfl, rfl, h⟩
  | succ n ih =>
    unfold Lexer.take
    cases ts with
    | nil =>
      obtain rfl := h.of_nil
      rw [h.final]
      right
      cases e <;> rfl
    | cons t ts =>
      obtain ⟨l', hnext, hl'⟩ := h.of_cons
      rw [hnext]
      rcases ih hl' with ⟨a, b, l'', rfl, htake, hahead⟩ | htake
      · refine .inl ⟨t :: a, b, l'', rfl, ?_, hahead⟩
        dsimp only
        rw [htake]
        rfl
      · right
        dsimp only
        rw [htake]
        rfl

/-! ## Sessions -/

/-- Why reading ended early, if it did. -/
def Answer.stop? : Answer → Option LexStop
  | stopped _ stop => some stop
  | _ => none

/-- **A lexer and the iterations over it.** -/
structure Session where
  /-- The lexer, which all iterations share. -/
  lexer : Lexer
  /-- For each iteration, whether it can go on. One that has come to the end or to
  an error cannot. -/
  live : List Bool := []

/-- **What can be asked for in a session.** -/
inductive Request where
  /-- What can be asked of the lexer, among it an iteration that is left after some
  tokens for good. -/
  | ask (a : Action)
  /-- To begin an iteration. -/
  | iterate
  /-- For some tokens of an iteration, as many as there are up to a number. -/
  | resume (i n : Nat)
  deriving DecidableEq, Repr, Inhabited

/-- Whether a request is for tokens: it begins no source and steps over nothing. -/
def Request.isDraw : Request → Bool
  | .ask (.begin _) => false
  | .ask .skip => false
  | _ => true

namespace Session

/-- **What a request does**: the answer, and the session afterwards. -/
def perform (s : Session) : Request → Answer × Session
  | .ask a => ((s.lexer.perform a).1, { s with lexer := (s.lexer.perform a).2 })
  | .iterate => (.tokens [], { s with live := s.live ++ [true] })
  | .resume i n =>
    if s.live.getD i false then
      let run := s.lexer.take n
      (.ofRun run, ⟨run.lexer, s.live.set i (run.tokens.length == n)⟩)
    else (.tokens [], s)

/-- The session after some requests. -/
def performAll (s : Session) (requests : List Request) : Session :=
  requests.foldl (fun s r => (s.perform r).2) s

/-- The answers to some requests. -/
def answers (s : Session) : List Request → List Answer
  | [] => []
  | r :: rs => (s.perform r).1 :: answers (s.perform r).2 rs

theorem performAll_append (s : Session) (a b : List Request) :
    s.performAll (a ++ b) = (s.performAll a).performAll b :=
  List.foldl_append

theorem answers_append (s : Session) (a b : List Request) :
    s.answers (a ++ b) = s.answers a ++ (s.performAll a).answers b := by
  induction a generalizing s with
  | nil => rfl
  | cons r a ih =>
    rw [List.cons_append, answers, ih, answers, List.cons_append]
    rfl

/-! ## One request -/

/-- **What a request makes of what lies ahead.** -/
inductive Drawn (ts : List Token) (e : Option LexError) (last : Lexer) (answer : Answer)
    (after : Lexer) : Prop where
  /-- Some tokens are read, and the others still lie ahead. -/
  | read (a b : List Token) (split : ts = a ++ b) (read : answer.read = a)
      (unstopped : answer.stop? = none) (rest : Ahead after b e last)
  /-- The error is come to. -/
  | stopped (error : LexError) (found : e = some error)
      (answer_eq : answer = .stopped ts (.error error)) (after_eq : after = last)

/-- A run of tokens that lie ahead, or of all that does. -/
theorem drawn_ofRun {run : Run} (h : Ahead l ts e last)
    (hrun : (∃ a b l', ts = a ++ b ∧ run = ⟨a, none, l'⟩ ∧ Ahead l' b e last)
      ∨ run = ⟨ts, e.map LexStop.error, last⟩) :
    Drawn ts e last (.ofRun run) run.lexer := by
  rcases hrun with ⟨a, b, l', hsplit, rfl, hrest⟩ | rfl
  · exact .read a b hsplit rfl rfl hrest
  · cases e with
    | none =>
      have hrest : Ahead last [] none last := ⟨.nil last, List.forall_mem_nil _, h.final⟩
      exact .read ts [] (List.append_nil ts).symm rfl rfl hrest
    | some error => exact .stopped error rfl rfl rfl

theorem drawn_next (h : Ahead l ts e last) :
    Drawn ts e last (l.perform .next).1 (l.perform .next).2 := by
  cases ts with
  | nil =>
    obtain rfl := h.of_nil
    cases e with
    | none =>
      have hnext : l.next = .ok none := h.final
      simp only [Lexer.perform, hnext]
      exact .read [] [] rfl rfl rfl h
    | some error =>
      have hnext : l.next = .error (.error error) := h.final
      simp only [Lexer.perform, hnext]
      exact .stopped error rfl rfl rfl
  | cons t ts =>
    obtain ⟨l', hnext, hrest⟩ := h.of_cons
    simp only [Lexer.perform, hnext]
    exact .read [t] ts rfl rfl rfl hrest

/-- **A request for tokens takes some off the front of what lies ahead, or comes to the
error.** -/
theorem drawn {s : Session} (h : Ahead s.lexer ts e last) {r : Request} (hr : r.isDraw = true) :
    Drawn ts e last (s.perform r).1 (s.perform r).2.lexer := by
  have hnothing : Drawn ts e last (.tokens []) s.lexer := .read [] ts rfl rfl rfl h
  cases r with
  | ask a =>
    cases a with
    | begin source => cases hr
    | next => exact drawn_next h
    | skip => cases hr
    | all => exact drawn_ofRun h (.inr h.all_eq)
    | take n => exact drawn_ofRun h (h.take n)
  | iterate => exact hnothing
  | resume i n =>
    rw [perform]
    split
    · exact drawn_ofRun h (h.take n)
    · exact hnothing

/-! ## Any number of requests -/

/-- **A request is the first that comes to an error**, after some others; `ts` is all that is
read by then. -/
structure StopsAt (s : Session) (done : List Request) (asked : Request) (ts : List Token)
    (error : LexError) (cursor : Cursor) : Prop where
  /-- The requests before it are answered. -/
  unstopped : ∀ answer ∈ s.answers done, answer.stop? = none
  /-- It comes to the error, with what the requests before have left of the tokens. -/
  error_eq : ∃ rest, ((s.performAll done).perform asked).1 = .stopped rest (.error error)
    ∧ (s.answers done).flatMap Answer.read ++ rest = ts
  /-- If it is for the next token alone, they have left none. -/
  next : asked = .ask .next → (s.answers done).flatMap Answer.read = ts
  /-- It leaves the lexer there. -/
  cursor_eq : ((s.performAll done).perform asked).2.lexer.cursor = cursor

/-- A request for the next token that is stopped has read nothing. -/
theorem stopped_next {s : Session} {rest : List Token} {stop : LexStop}
    (h : (s.perform (.ask .next)).1 = .stopped rest stop) : rest = [] := by
  simp only [perform, Lexer.perform] at h
  split at h
  · cases h
  · cases h
  · cases h
    rfl

/-- **Requests for tokens take some off the front of what lies ahead, or one of them is the
first that comes to the error.** -/
theorem drawn_all {s : Session} (h : Ahead s.lexer ts e last) {rs : List Request}
    (hrs : ∀ r ∈ rs, r.isDraw = true) :
    (∃ b, ts = (s.answers rs).flatMap Answer.read ++ b
        ∧ (∀ answer ∈ s.answers rs, answer.stop? = none)
        ∧ Ahead (s.performAll rs).lexer b e last)
      ∨ ∃ error done asked later, e = some error ∧ rs = done ++ asked :: later
        ∧ s.StopsAt done asked ts error last.cursor := by
  induction rs generalizing s ts with
  | nil => exact .inl ⟨ts, rfl, List.forall_mem_nil _, h⟩
  | cons r rs ih =>
    obtain ⟨hr, hrs⟩ := List.forall_mem_cons.mp hrs
    cases drawn h hr with
    | read a b split read unstopped rest =>
      rcases ih rest hrs with
        ⟨c, hc, hunstopped, hrest⟩ | ⟨error, done, asked, later, he, hsplit, hstops⟩
      · refine .inl ⟨c, ?_, List.forall_mem_cons.mpr ⟨unstopped, hunstopped⟩, hrest⟩
        rw [split, hc, answers, List.flatMap_cons, read, List.append_assoc]
      · refine .inr ⟨error, r :: done, asked, later, he, by rw [hsplit]; rfl, ?_⟩
        obtain ⟨front, hanswer, hfront⟩ := hstops.error_eq
        refine ⟨List.forall_mem_cons.mpr ⟨unstopped, hstops.unstopped⟩, ⟨front, hanswer, ?_⟩, ?_,
          hstops.cursor_eq⟩
        · rw [split, ← hfront, answers, List.flatMap_cons, read, List.append_assoc]
        · intro hasked
          rw [split, ← hstops.next hasked, answers, List.flatMap_cons, read]
    | stopped error found answer_eq after_eq =>
      refine .inr ⟨error, [], r, rs, found, rfl, List.forall_mem_nil _, ⟨ts, answer_eq, rfl⟩, ?_,
        congrArg Lexer.cursor after_eq⟩
      rintro rfl
      exact (stopped_next answer_eq).symm

/-- **Requests for tokens and one for all that are left give all tokens**, if there is no
error ahead. -/
theorem drained {s : Session} (h : Ahead s.lexer ts none last) {draws : List Request}
    (hdraws : ∀ r ∈ draws, r.isDraw = true) :
    (s.answers (draws ++ [.ask .all])).flatMap Answer.read = ts
      ∧ ∀ answer ∈ s.answers (draws ++ [.ask .all]), answer.stop? = none := by
  rcases drawn_all h hdraws with ⟨b, hsplit, hunstopped, hrest⟩ | ⟨error, _, _, _, he, _⟩
  · have hlast : (s.performAll draws).answers [.ask .all] = [.tokens b] := by
      show [Answer.ofRun (s.performAll draws).lexer.all] = _
      rw [hrest.all_eq]
      rfl
    rw [answers_append, hlast]
    refine ⟨?_, List.forall_mem_append.mpr ⟨hunstopped, ?_⟩⟩
    · rw [List.flatMap_append, hsplit]
      simp [Answer.read]
    · simp [Answer.stop?]
  · cases he

/-- **If there is an error ahead, one of them is the first that comes to it.** -/
theorem drained_error {s : Session} {error : LexError} (h : Ahead s.lexer ts (some error) last)
    {draws : List Request} (hdraws : ∀ r ∈ draws, r.isDraw = true) :
    ∃ done asked later, draws ++ [.ask .all] = done ++ asked :: later
      ∧ s.StopsAt done asked ts error last.cursor := by
  rcases drawn_all h hdraws with
    ⟨b, hsplit, hunstopped, hrest⟩ | ⟨_, done, asked, later, he, rfl, hstops⟩
  · -- the request for all that are left is the first
    have hrun := hrest.all_eq
    refine ⟨draws, .ask .all, [], rfl, hunstopped, ⟨b, ?_, hsplit.symm⟩, nofun, ?_⟩
    · show Answer.ofRun (s.performAll draws).lexer.all = _
      rw [hrun]
      rfl
    · show (s.performAll draws).lexer.all.lexer.cursor = _
      rw [hrun]
  · cases he
    exact ⟨done, asked, later ++ [.ask .all], List.append_assoc .., hstops⟩

/-! ## Whatever came before -/

/-- **A request leaves the next source to be begun as before.** -/
theorem start_perform (s : Session) (r : Request) (source : String) :
    (s.perform r).2.lexer.start source = s.lexer.start source := by
  have hreads {l l' : Lexer} {ts : List Token} (h : Reads l ts l') :
      l'.start source = l.start source := by
    rw [h.eq_withCursor]
    rfl
  cases r with
  | ask a =>
    show (s.lexer.perform a).2.start source = _
    cases a with
    | begin source' => rfl
    | next =>
      simp only [Lexer.perform]
      split
      · rename_i t l' hnext
        exact hreads (.cons hnext (.nil l'))
      · rfl
      · rfl
    | skip =>
      simp only [Lexer.perform, skip?]
      split
      · rename_i c l' hskip
        obtain ⟨c', -, hskip⟩ := Option.map_eq_some_iff.mp hskip
        cases hskip
        rfl
      · rfl
    | all => exact hreads (reads_drain s.lexer.left s.lexer)
    | take n => exact hreads (reads_take n s.lexer)
  | iterate => rfl
  | resume i n =>
    rw [perform]
    split
    · exact hreads (reads_take n s.lexer)
    · rfl

theorem start_performAll (s : Session) (history : List Request) (source : String) :
    (s.performAll history).lexer.start source = s.lexer.start source := by
  induction history generalizing s with
  | nil => rfl
  | cons r history ih => exact (ih (s.perform r).2).trans (s.start_perform r source)

/-- **After any requests, a source is begun as by a new lexer.** -/
theorem lexer_begun (patterns : List Pattern) (filename source : String)
    (history : List Request) :
    ((Session.mk ⟨patterns, filename, .empty, .start⟩ []).performAll
      (history ++ [.ask (.begin source)])).lexer = onSource patterns source filename := by
  rw [performAll_append]
  exact start_performAll _ history source

end Session

/-- **The name of a source is told by its errors**, and by nothing else. -/
theorem along_rename (name : String) :
    Along (fun l m => m = { l with filename := name }) id
      (fun e => { e with filename := name }) := by
  refine ⟨?_, ?_, fun t => rfl⟩
  · rintro l m rfl
    have hchoice : { l with filename := name }.choice l.patterns = l.choice l.patterns :=
      choice_congr fun p _ => rfl
    exact nextAlike_of_choice rfl hchoice (fun p n => rfl) (fun c => rfl) fun n => rfl
  · rintro l m rfl
    rfl

/-- **What lies ahead of a lexer at the start of a source**, by what is read of the source
under another name. -/
theorem ahead_onSource {patterns : List Pattern} {source name : String} {e : Option LexError}
    (h : (onSource patterns source name).all.stop = e.map LexStop.error) (filename : String) :
    ∃ last, last.cursor = (onSource patterns source name).all.lexer.cursor
      ∧ Ahead (onSource patterns source filename) (onSource patterns source name).all.tokens
          (e.map fun e => { e with filename := filename }) last := by
  have hnamed : (onSource patterns source name).all.Alike _ id
      (fun e => { e with filename := filename }) (onSource patterns source filename).all :=
    (along_rename filename).all rfl
  have htokens : (onSource patterns source filename).all.tokens
      = (onSource patterns source name).all.tokens := hnamed.tokens.trans (List.map_id _)
  have hstop : (onSource patterns source filename).all.stop
      = (e.map fun e => { e with filename := filename }).map LexStop.error := by
    rw [hnamed.stop, h, Option.map_map, Option.map_map]
    rfl
  refine ⟨(onSource patterns source filename).all.lexer, by rw [hnamed.lexer], ?_⟩
  rw [← htokens]
  exact ahead_all hstop

open Session

/-- **The tokens of a source do not depend on how they are drained, nor on what came
before.** After any requests, a source is begun; then come any requests for tokens, in
any order, and one for all that are left. If the source can be read to its end, the
answers together have its tokens, in order. If reading it comes to an error, then the
requests before the first that comes to it have some of the tokens from the start, and
all of them if that request is for the next token; the error is that one but for the name
of the source, and the lexer is left at the same place in any case. -/
theorem draining_independent_of_schedule (patterns : List Pattern) (filename name source : String)
    (history draws : List Request) (hdraws : ∀ r ∈ draws, r.isDraw = true) :
    let s := (Session.mk ⟨patterns, filename, .empty, .start⟩ []).performAll
      (history ++ [.ask (.begin source)])
    let requests := draws ++ [.ask .all]
    (∀ ts, tokenize patterns source name = .ok ts →
        (s.answers requests).flatMap Answer.read = ts
          ∧ ∀ answer ∈ s.answers requests, answer.stop? = none)
      ∧ ∀ e, tokenize patterns source name = .error (.error e) →
        ∃ done asked later, requests = done ++ asked :: later
          ∧ s.StopsAt done asked (onSource patterns source name).all.tokens
              { e with filename := filename } (onSource patterns source name).all.lexer.cursor := by
  intro s requests
  have hlexer : s.lexer = onSource patterns source filename := lexer_begun ..
  refine ⟨fun ts hts => ?_, fun e he => ?_⟩
  · obtain ⟨hstop, rfl⟩ := tokenize_eq_ok_iff.mp hts
    obtain ⟨last, -, hahead⟩ := ahead_onSource (e := none) hstop filename
    rw [← hlexer] at hahead
    exact drained hahead hdraws
  · have hstop := tokenize_eq_error_iff.mp he
    obtain ⟨last, hcursor, hahead⟩ := ahead_onSource (e := some e) hstop filename
    rw [← hlexer] at hahead
    rw [← hcursor]
    exact drained_error hahead hdraws

/-- A source at which two requests fail, the second of an iteration that is over then; and an
iteration that nothing has been asked of yet. -/
def interrupted : List Request :=
  [.ask (.begin "?"), .iterate, .ask .next, .resume 0 1, .iterate]

/-- Requests to both iterations, for the next token, and for some. -/
def patchwork : List Request := [.resume 1 1, .ask .next, .resume 0 5, .ask (.take 3)]

/-- Two keywords and a name, with and without a mark that nothing matches. -/
theorem draining_independent_of_schedule_interrupted :
    (∀ r ∈ patchwork, r.isDraw = true)
      ∧ (let s := (Session.mk ⟨keywordPatterns, "f", .empty, .start⟩ []).performAll
          (interrupted ++ [.ask (.begin "letletx")])
        tokenize keywordPatterns "letletx"
            = .ok ((s.answers (patchwork ++ [.ask .all])).flatMap Answer.read)
          ∧ (s.answers patchwork).map (fun answer => answer.read.map Token.text)
            = [["let"], ["let"], [], ["x"]])
      ∧ let s := (Session.mk ⟨keywordPatterns, "f", .empty, .start⟩ []).performAll
          (interrupted ++ [.ask (.begin "letletx?")])
        ∃ done asked later, patchwork ++ [.ask .all] = done ++ asked :: later
          ∧ s.StopsAt done asked (onSource keywordPatterns "letletx?").all.tokens
              ⟨"?", 1, 8, "f"⟩ (onSource keywordPatterns "letletx?").all.lexer.cursor := by
  have hdraws : ∀ r ∈ patchwork, r.isDraw = true := by decide
  have hok := (draining_independent_of_schedule keywordPatterns "f" unnamedSource "letletx"
    interrupted patchwork hdraws).1
  have herror := (draining_independent_of_schedule keywordPatterns "f" unnamedSource "letletx?"
    interrupted patchwork hdraws).2
  have hread : tokenize keywordPatterns "letletx"
      = .ok (onSource keywordPatterns "letletx").all.tokens :=
    tokenize_eq_ok_iff.mpr ⟨by decide +kernel, rfl⟩
  have hfails : tokenize keywordPatterns "letletx?"
      = .error (.error ⟨"?", 1, 8, unnamedSource⟩) := by decide +kernel
  refine ⟨hdraws, ⟨?_, by decide +kernel⟩, herror _ hfails⟩
  rw [(hok _ hread).1, hread]

end Lexer

end ParseKit
