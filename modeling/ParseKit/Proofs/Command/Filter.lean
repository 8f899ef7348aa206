import ParseKit.Proofs.Command.Reprint

/-!
# Leaving tokens out

The command that lists the tokens of a file writes each of them as it is read, and
can be asked to leave out those of the kinds that its grammar skips. This is a pure
filter: the file is read in the same way up to the same error, and the lines that are
left are the same lines in the same order (`run_tokens_filters`). The argument is that
the list of tokens is read before anything is left out, so that the two runs share
all but the list of lines.

This is said of every host. What is written is not always just the lines of the tokens,
or just an error, and `run_tokens_not_plain` has a grammar for each reason. Lines are
echoed, and to an output that is no terminal without the control sequences that a label
may have. Compiling the expressions of a grammar may write something before all else:
what they are compiled to, or a warning. A kind with too many digits cannot be written;
then the listing breaks off where the token is not left out, and the two runs may end in
different ways, so that it is asked that the kinds of the tokens can be shown. And an
expression may give no answer.
-/

namespace ParseKit

/-! ## The patterns of a grammar -/

/-- The patterns of the entries of a grammar that can be matched. -/
def Grammar.patterns (g : Grammar) : List Pattern := g.entries.filterMap Entry.pattern?

namespace Grammar

variable {g : Grammar}

theorem leading_eq_filterMap {es : List Entry} (h : ∀ e ∈ es, e.pattern?.isSome) :
    Entry.leading es = es.filterMap Entry.pattern? := by
  induction es with
  | nil => rfl
  | cons e es ih =>
    obtain ⟨he, hes⟩ := List.forall_mem_cons.mp h
    obtain ⟨p, hp⟩ := Option.isSome_iff_exists.mp he
    rw [Entry.leading, hp, List.filterMap_cons_some hp, ih hes]

/-- If every entry can be matched, the lexer has all patterns. -/
theorem lexer_eq (h : g.isMatchable = true) (source filename : String) :
    g.lexer source filename = .onSource g.patterns source filename := by
  rw [lexer, leading_eq_filterMap (List.all_eq_true.mp h)]
  rfl

/-- Then reading ends for the reason for which its lexer stops. -/
theorem stopAt_eq (h : g.isMatchable = true) (stop : LexStop) : g.stopAt stop = stop := by
  cases stop <;> simp [stopAt, h]

end Grammar

namespace Command

/-! ## Listings -/

/-- **A listing of things that can all be shown is whole.** -/
theorem listing_eq {α : Type} (h : Host) {showable : α → Bool} (line : α → String)
    {things : List α} (hshowable : ∀ a ∈ things, showable a = true) (broken whole : Output) :
    listing h showable line things broken whole
      = whole.after (h.lines .out (things.map line)) "" := by
  have hshown : things.takeWhile showable = things := List.takeWhile_eq_self_iff.mpr hshowable
  simp [listing, hshown]

/-- A listing breaks off before the first thing that cannot be shown. -/
theorem listing_cons_of_unshowable {α : Type} (h : Host) {showable : α → Bool} (line : α → String)
    {a : α} {things : List α} (hfirst : showable a = false) (broken whole : Output) :
    listing h showable line (a :: things) broken whole = broken.after (h.lines .out []) "" := by
  simp [listing, hfirst]

/-- What comes after the tokens writes nothing more to the standard output. -/
theorem out_stopOutput (h : Host) (files : Files) (sources : List (String × String))
    (stop : Option LexStop) : (stopOutput h files sources stop).out = "" := by
  match stop with
  | none => rfl
  | some (.error _) =>
    rw [stopOutput, report]
    split <;> rfl
  | some .unmatchable => rfl
  | some .tangled => rfl
  | some .endless => rfl

theorem status_stopOutput_eq_one_iff (h : Host) (files : Files)
    (sources : List (String × String)) (stop : Option LexStop) :
    (stopOutput h files sources stop).status = 1 ↔ stop.isSome := by
  match stop with
  | none => simp [stopOutput]
  | some (.error _) =>
    rw [stopOutput, report]
    split <;> simp
  | some .unmatchable => simp [stopOutput, crashed]
  | some .tangled => simp [stopOutput, crashed]
  | some .endless => simp [stopOutput, crashed]

/-- **An output after a listing**: records that are asked for come before it on the error output,
and on both outputs what was written while expressions were compiled. -/
def Output.listed (o : Output) (h : Host) (files : Files) (place : String) (c : Call)
    (records : List Record) (lines : String) : Output :=
  ((o.recording c records).after lines "").after (h.notices files place .out)
    (h.notices files place .err)

section Listed

variable (o : Output) (h : Host) (files : Files) (place : String) (c : Call)
  (records : List Record) (lines : String)

@[simp] theorem status_listed : (o.listed h files place c records lines).status = o.status := rfl

@[simp] theorem crash_listed : (o.listed h files place c records lines).crash = o.crash := rfl

@[simp] theorem unreported_listed :
    (o.listed h files place c records lines).unreported = o.unreported :=
  rfl

theorem out_listed (hout : o.out = "") :
    (o.listed h files place c records lines).out = h.notices files place .out ++ lines := by
  simp [Output.listed, Output.after, Output.recording, hout]

theorem err_listed : (o.listed h files place c records lines).err
    = h.notices files place .err ++ (recordText c records ++ o.err) := by
  simp [Output.listed, Output.after, Output.recording]

end Listed

/-! ## The command -/

variable {files : Files} {words words' : List String} {c : Call} {g : Grammar}
  {bytes : ByteArray} {source place file : String}

/-- **The command writes the lines of the tokens that are shown**, and then what comes
of where reading stopped. -/
theorem run_tokens (h : Host) (hrequest : h.request files words = .call c)
    (hname : c.name = .tokens) (hplace : c.argument .grammar = place)
    (hargument : c.argument .file = file) (hgrammar : Grammar.locate files place = .ok g)
    (hmatchable : g.isMatchable = true)
    (hkinds : ∀ k ∈ (Lexer.onSource g.patterns source file).all.tokens,
      Value.isShowableInt k.kind = true)
    (hfile : files.locate? (Path.tidy file) = some (.file bytes))
    (htext : Text.readText? bytes = some source) :
    h.run files words
      = (stopOutput h files [(file, source)]
          (Lexer.onSource g.patterns source file).all.stop).listed
          h files place c (g.read source file).records
          (h.lines .out (((Lexer.onSource g.patterns source file).all.tokens.filter
            (isShown c.skip g)).map (Dump.token (h.isTerminal .out)))) := by
  subst hplace hargument
  have hread : g.read source (c.argument .file)
      = ⟨(Lexer.onSource g.patterns source (c.argument .file)).all.tokens,
          (Lexer.onSource g.patterns source (c.argument .file)).all.stop,
          (g.read source (c.argument .file)).records⟩ := by
    have hstop : g.stopAt = id := funext (Grammar.stopAt_eq hmatchable)
    simp [Grammar.read, Grammar.lexer_eq hmatchable, hstop]
  have hshowable : ∀ k ∈ (Lexer.onSource g.patterns source (c.argument .file)).all.tokens.filter
      (isShown c.skip g), Value.isShowableInt k.kind = true := fun k hk =>
    hkinds k (List.mem_of_mem_filter hk)
  rw [run_of_request h hrequest, runCall, hname]
  show runTokens h files c = _
  unfold runTokens withGrammar
  rw [hgrammar]
  dsimp only
  rw [withText_of_file _ hfile htext, hread, listing_eq h _ hshowable, Output.listed]

/-- **One run lists the tokens of a source, and another leaves some of them out**: those
of the kinds that the grammar skips. In both runs the same is logged. -/
structure FiltersTokens (h : Host) (files : Files) (place file : String) (g : Grammar)
    (source logged : String) (plain filtered : Output) (tokens : List Token) : Prop where
  /-- The exit status is the same. -/
  status : filtered.status = plain.status
  /-- So is what is written to the error output. -/
  err : filtered.err = plain.err
  /-- So is what ends the program, if anything does. -/
  crash : filtered.crash = plain.crash ∧ filtered.unreported = plain.unreported
  /-- The tokens are read one after the other, up to the error if there is one. -/
  reads : ∃ l', Lexer.Reads (.onSource g.patterns source file) tokens l'
    ∧ ∀ e, tokenize g.patterns source file = .error (.error e) → l'.next = .error (.error e)
  /-- They are all tokens of the source, if it has tokens. -/
  all : ∀ ts, tokenize g.patterns source file = .ok ts → ts = tokens
  /-- The first run writes the line of each token. -/
  out : plain.out = h.notices files place .out
    ++ h.lines .out (tokens.map (Dump.token (h.isTerminal .out)))
  /-- The other writes the lines of those that are not skipped. -/
  filtered_out : filtered.out = h.notices files place .out
    ++ h.lines .out ((tokens.filter fun k => !g.skipKinds.contains k.kind).map
      (Dump.token (h.isTerminal .out)))
  /-- The exit status is one if and only if the source has no tokens. -/
  status_iff : plain.status = 1 ↔ ∃ stop, tokenize g.patterns source file = .error stop
  /-- If it has, nothing more is written to the error output. -/
  unreported : ∀ ts, tokenize g.patterns source file = .ok ts →
    plain.err = h.notices files place .err ++ logged
  /-- If it ends in an error, this error is rendered there, and nothing else ends the program. -/
  reported : ∀ e, tokenize g.patterns source file = .error (.error e) →
    ∃ text, ((Renderer.ofSources (h.isTerminal .err) [(file, source)]).render files
        e.toDiagnostic).1 = .ok text
      ∧ plain.err = h.notices files place .err ++ logged ++ h.echo .err (text ++ "\n")
      ∧ plain.crash = none ∧ plain.unreported = none
  /-- There is no other reason for which it has none, where patterns report ends within it. -/
  stops : (∀ p ∈ g.patterns, p.EndsWithin (.ofString source)) →
    ∀ stop, tokenize g.patterns source file = .error stop → ∃ e, stop = .error e

/-- **Leaving tokens out is a pure filter.** The grammar is one whose entries can all be
matched, and the kinds of the tokens can be shown. Of a file that holds a text, the tokens
that are read up to an error are listed, or those of them that the grammar does not skip;
all else is the same. The text is no longer than a text can be. -/
theorem run_tokens_filters (h : Host) (hrequest : h.request files words = .call c)
    (hrequest' : h.request files words' = .call { c with skip := true })
    (hname : c.name = .tokens) (hskip : c.skip = false)
    (hgrammar : Grammar.locate files (c.argument .grammar) = .ok g)
    (hmatchable : g.isMatchable = true)
    (hkinds : ∀ k ∈ (Lexer.onSource g.patterns source (c.argument .file)).all.tokens,
      Value.isShowableInt k.kind = true)
    (hfile : files.locate? (Path.tidy (c.argument .file)) = some (.file bytes))
    (htext : Text.readText? bytes = some source)
    (hsize : (source.length : Int) < Renderer.textLimit) :
    ∃ tokens, FiltersTokens h files (c.argument .grammar) (c.argument .file) g source
      (recordText c (g.read source (c.argument .file)).records) (h.run files words)
      (h.run files words') tokens := by
  have hplain := run_tokens h hrequest hname rfl rfl hgrammar hmatchable hkinds hfile htext
  have hplace : Call.argument { c with skip := true } .grammar = c.argument .grammar := rfl
  have hargument : Call.argument { c with skip := true } .file = c.argument .file := rfl
  have hfiltered := run_tokens h hrequest' hname hplace hargument hgrammar hmatchable hkinds hfile
    htext
  have hall : isShown c.skip g = fun _ => true := by
    funext k
    rw [hskip]
    rfl
  rw [hall, List.filter_true] at hplain
  refine ⟨(Lexer.onSource g.patterns source (c.argument .file)).all.tokens, ?_⟩
  rw [hplain, hfiltered]
  constructor
  case status => rw [status_listed, status_listed]
  case err =>
    rw [err_listed, err_listed]
    rfl
  case crash =>
    rw [crash_listed, crash_listed, unreported_listed, unreported_listed]
    exact ⟨rfl, rfl⟩
  case reads =>
    exact ⟨_, Lexer.reads_drain _ _, fun e he =>
      Lexer.next_of_drain_stop (tokenize_eq_error_iff.mp he)⟩
  case all => exact fun ts hts => (tokenize_eq_ok_iff.mp hts).2.symm
  case out => exact out_listed _ _ _ _ _ _ _ (out_stopOutput ..)
  case filtered_out => exact out_listed _ _ _ _ _ _ _ (out_stopOutput ..)
  case status_iff =>
    rw [status_listed, status_stopOutput_eq_one_iff, Option.isSome_iff_exists]
    simp only [tokenize_eq_error_iff]
  case unreported =>
    intro ts hts
    rw [err_listed, (tokenize_eq_ok_iff.mp hts).1, stopOutput, String.append_empty]
  case reported =>
    intro e he
    obtain ⟨text, hrendered⟩ := LexError.exists_render (h.isTerminal .err) he hsize files
    have hreport := report_of_render (h := h) (e := .lex e) hrendered
    refine ⟨text, hrendered, ?_⟩
    rw [tokenize_eq_error_iff.mp he, err_listed, crash_listed, unreported_listed, stopOutput,
      hreport, String.append_assoc]
    exact ⟨rfl, rfl, rfl⟩
  case stops => exact fun hends stop hstop => exists_lexError hends hstop

/-! ## A grammar and a text -/

/-- A grammar and a text, each in a file. -/
def pairFiles (grammar text : String) : Files where
  files := [(["g"], grammar.toUTF8), (["f"], text.toUTF8)]

/-- What the command is called with, where tokens are left out and where they are not. -/
def pairCall (skip : Bool) : Call := ⟨.tokens, [(.grammar, "g"), (.file, "f")], skip, false, false⟩

section PairFiles

variable (grammar text : String)

theorem locate?_pairFiles_grammar :
    (pairFiles grammar text).locate? "g" = some (.file grammar.toUTF8) :=
  rfl

theorem locate?_pairFiles_text :
    (pairFiles grammar text).locate? "f" = some (.file text.toUTF8) :=
  rfl

/-- The text is also found by the tidy text of its path. -/
theorem locate?_pairFiles_tidy :
    (pairFiles grammar text).locate? (Path.tidy "f") = some (.file text.toUTF8) := by
  have htidy : Path.tidy "f" = "f" := rfl
  rw [htidy, locate?_pairFiles_text]

theorem readArguments_pairFiles :
    readArguments (pairFiles grammar text) (.command .tokens) [.grammar, .file] ["g", "f"]
      = .ok ([(.grammar, "g"), (.file, "f")], []) := by
  simp only [readArguments, checkArgument, locate?_pairFiles_grammar, locate?_pairFiles_text]
  rfl

theorem request_pairFiles :
    (Pipes.host ⟨false⟩).request (pairFiles grammar text) ["tokens", "g", "f"]
      = .call (pairCall false) := by
  show commandRequest (pairFiles grammar text) false .tokens ["g", "f"] = _
  exact commandRequest_eq (w := ⟨[], ["g", "f"]⟩) false rfl rfl
    (readArguments_pairFiles grammar text)

theorem request_pairFiles_skip :
    (Pipes.host ⟨false⟩).request (pairFiles grammar text) ["tokens", "g", "f", "--skip"]
      = .call (pairCall true) := by
  show commandRequest (pairFiles grammar text) false .tokens ["g", "f", "--skip"] = _
  exact commandRequest_eq (w := ⟨[.skip true], ["g", "f"]⟩) false rfl rfl
    (readArguments_pairFiles grammar text)

/-- The grammar is the one that its file spells. -/
theorem locate_pairFiles :
    Grammar.locate (pairFiles grammar text) "g" = Grammar.ofToml "/g" grammar := by
  have hfind : Grammar.find (pairFiles grammar text) (some "g") = .ok ["g"] := rfl
  have hentry : Files.entry? (pairFiles grammar text) ["g"] = some (.file grammar.toUTF8) := rfl
  have hname : Path.text ["g"] = "/g" := rfl
  have hdecode : Text.decode? grammar.toUTF8 = some grammar := by
    simp [Text.decode?, String.fromUTF8?, grammar.isValidUTF8, String.fromUTF8]
  simp only [Grammar.locate, hfind, Grammar.load, hentry, hdecode, hname]

end PairFiles

/-- **A grammar and a text**, with what reading the text gives. That it gives this is evaluated
where a sample is stated. -/
structure Sample where
  /-- The grammar as it is written. -/
  document : String
  /-- The text. -/
  text : String
  /-- The grammar. -/
  grammar : Grammar
  /-- The tokens that are read. -/
  tokens : List Token
  /-- Why reading stops before the end, if it does. -/
  stop : Option LexStop
  /-- The document spells the grammar. -/
  spells : Grammar.ofToml "/g" document = .ok grammar := by decide +kernel
  /-- All entries of the grammar can be matched. -/
  matchable : grammar.isMatchable = true := by decide +kernel
  /-- The text is read as it is written. -/
  readable : Text.readText? text.toUTF8 = some text := by decide +kernel
  /-- These are the tokens of the text. -/
  read : (Lexer.onSource grammar.patterns text "f").all.tokens = tokens := by decide +kernel
  /-- This is where reading stops. -/
  stopped : (Lexer.onSource grammar.patterns text "f").all.stop = stop := by decide +kernel

namespace Sample

variable (s : Sample)

/-- The grammar and the text in files. -/
def stored : Files := pairFiles s.document s.text

theorem locate_stored : Grammar.locate s.stored "g" = .ok s.grammar :=
  (locate_pairFiles s.document s.text).trans s.spells

theorem locate?_stored : s.stored.locate? (Path.tidy "f") = some (.file s.text.toUTF8) :=
  locate?_pairFiles_tidy s.document s.text

variable {s}

theorem tokenize_eq_ok (h : s.stop = none) :
    tokenize s.grammar.patterns s.text "f" = .ok s.tokens :=
  tokenize_eq_ok_iff.mpr ⟨s.stopped.trans h, s.read⟩

theorem tokenize_eq_error {stop : LexStop} (h : s.stop = some stop) :
    tokenize s.grammar.patterns s.text "f" = .error stop :=
  tokenize_eq_error_iff.mpr (s.stopped.trans h)

theorem request_stored {h : Host} (hrequest : h.request = request) :
    h.request s.stored ["tokens", "g", "f"] = .call (pairCall false) :=
  (congrFun₂ hrequest _ _).trans (request_pairFiles s.document s.text)

/-- What a run on a sample comes to, if the kinds of all tokens can be shown. -/
theorem run_eq {h : Host} (hrequest : h.request = request)
    (hkinds : ∀ k ∈ s.tokens, Value.isShowableInt k.kind = true) :
    h.run s.stored ["tokens", "g", "f"]
      = (stopOutput h s.stored [("f", s.text)] s.stop).listed h s.stored "g" (pairCall false)
        (s.grammar.read s.text "f").records
        (h.lines .out (s.tokens.map (Dump.token (h.isTerminal .out)))) := by
  have hplace : (pairCall false).argument .grammar = "g" := rfl
  have hargument : (pairCall false).argument .file = "f" := rfl
  have hall : isShown (pairCall false).skip s.grammar = fun _ => true := rfl
  have hrun := run_tokens h (request_stored hrequest) rfl hplace hargument s.locate_stored
    s.matchable (s.read ▸ hkinds) s.locate?_stored s.readable
  rw [hrun, s.read, s.stopped, hall, List.filter_true]

/-- A run breaks off at a token whose kind cannot be shown. -/
theorem status_run_of_unshowable {h : Host} {k : Token} {ts : List Token}
    (hrequest : h.request = request) (htokens : s.tokens = k :: ts)
    (hlong : Value.isShowableInt k.kind = false) :
    (h.run s.stored ["tokens", "g", "f"]).status = 1 := by
  have hplace : (pairCall false).argument .grammar = "g" := rfl
  have hargument : (pairCall false).argument .file = "f" := rfl
  have hread : (s.grammar.read s.text "f").tokens = k :: ts := by
    simp [Grammar.read, Grammar.lexer_eq s.matchable, s.read, htokens]
  rw [run_of_request h (request_stored hrequest)]
  show (runTokens h s.stored (pairCall false)).status = 1
  rw [runTokens, withGrammar, hplace, hargument, s.locate_stored]
  dsimp only
  rw [withText_of_file _ s.locate?_stored s.readable, hread, List.filter_cons_of_pos rfl,
    listing_cons_of_unshowable]
  · rfl
  · exact hlong

end Sample

/-- A letter, and a blank that is skipped. -/
def blankSample : Sample where
  document :=
    "grammar.skip=[1]\ntoken=[\x7blabel='a',literal='x'\x7d,\x7blabel='b',literal=' '\x7d]"
  text := "x x"
  grammar :=
    { entries := [⟨"a", 0, .sound (.literal "x")⟩, ⟨"b", 1, .sound (.literal " ")⟩]
      skipKinds := [1] }
  tokens := [⟨0, "x", "a", ⟨1, 1⟩, ⟨0, 1⟩, 0⟩, ⟨1, " ", "b", ⟨1, 2⟩, ⟨1, 2⟩, 1⟩,
    ⟨0, "x", "a", ⟨1, 3⟩, ⟨2, 3⟩, 2⟩]
  stop := none

/-- Of three tokens, two are left. -/
theorem run_tokens_filters_blank :
    (Pipes.host ⟨false⟩).request blankSample.stored ["tokens", "g", "f"] = .call (pairCall false)
    ∧ (Pipes.host ⟨false⟩).request blankSample.stored ["tokens", "g", "f", "--skip"]
      = .call (pairCall true)
    ∧ (run ⟨false⟩ blankSample.stored ["tokens", "g", "f"]).out
      = "1:1     a(0)  'x'\n1:2     b(1)  ' '\n1:3     a(0)  'x'\n"
    ∧ (run ⟨false⟩ blankSample.stored ["tokens", "g", "f", "--skip"]).out
      = "1:1     a(0)  'x'\n1:3     a(0)  'x'\n" := by
  have hkinds : ∀ k ∈ (Lexer.onSource blankSample.grammar.patterns blankSample.text "f").all.tokens,
      Value.isShowableInt k.kind = true := by
    rw [blankSample.read]
    decide +kernel
  obtain ⟨tokens, h⟩ := run_tokens_filters (Pipes.host ⟨false⟩) (request_pairFiles _ _)
    (request_pairFiles_skip _ _) rfl rfl blankSample.locate_stored blankSample.matchable hkinds
    blankSample.locate?_stored blankSample.readable (by decide)
  obtain rfl := h.all _ (Sample.tokenize_eq_ok rfl)
  exact ⟨request_pairFiles _ _, request_pairFiles_skip _ _, h.out.trans (by decide +kernel),
    h.filtered_out.trans (by decide +kernel)⟩

/-! ## What is not plain

The lines of the tokens and the rendering of an error are not always all that is written, and an
error is not always reported where the exit status is one. Here are the reasons, each with a
grammar. -/

/-- **A run lists the tokens of a sample plainly**, to outputs that are no terminals: their lines
are all that is written, and the exit status is one only where an error of reading is raised, of
which the rendering is all that is written to the error output. -/
structure Sample.ListsPlainly (s : Sample) (o : Output) : Prop where
  /-- The lines of all tokens are written as they are, and nothing else. -/
  out : ∀ ts, tokenize s.grammar.patterns s.text "f" = .ok ts →
    o.out = String.join (ts.map fun k => Dump.token false k ++ "\n")
  /-- An error is rendered, and nothing else is written with it. -/
  err : ∀ e text, tokenize s.grammar.patterns s.text "f" = .error (.error e) →
    ((Renderer.ofSources false [("f", s.text)]).render s.stored e.toDiagnostic).1 = .ok text →
    o.err = text ++ "\n"
  /-- Where the run does not end well, there is an error. -/
  status : o.status = 1 → ∃ e, tokenize s.grammar.patterns s.text "f" = .error (.error e)

/-- A label that has a control sequence in it. -/
def paintedSample : Sample where
  document := "token=[\x7blabel=\"a\\u001b[0mb\",literal='x'\x7d]"
  text := "x"
  grammar := { entries := [⟨"a\x1b[0mb", 0, .sound (.literal "x")⟩] }
  tokens := [⟨0, "x", "a\x1b[0mb", ⟨1, 1⟩, ⟨0, 1⟩, 0⟩]
  stop := none

/-- A label with a control sequence is not written as it is. -/
theorem not_listsPlainly_painted :
    ¬ paintedSample.ListsPlainly (run ⟨false⟩ paintedSample.stored ["tokens", "g", "f"]) := by
  intro hplain
  have hrun := Sample.run_eq (s := paintedSample) (h := Pipes.host ⟨false⟩) rfl (by decide +kernel)
  have hout : (run ⟨false⟩ paintedSample.stored ["tokens", "g", "f"]).out
      = "1:1     ab(0)  'x'\n" := by
    rw [run, hrun]
    decide +kernel
  have hlines := hplain.out _ (Sample.tokenize_eq_ok rfl)
  exact absurd (hout.symm.trans hlines) (by decide +kernel)

/-- The grammar of one expression. -/
def soleGrammar (source : String) (r : Regex) : Grammar where
  entries := [⟨"a", 0, .sound (.text source r)⟩]

/-- An expression that is asked to say what it is compiled to. -/
def dumpedSample : Sample where
  document := "token=[\x7blabel='a',regex='a+',flags=['DEBUG']\x7d]"
  text := "a"
  grammar := soleGrammar "a+" (.oneOrMore (.one 97 false .exact))
  tokens := [⟨0, "a", "a", ⟨1, 1⟩, ⟨0, 1⟩, 0⟩]
  stop := none

/-- What the expression says: what it is, and its code. -/
def dumpText : String :=
  "MAX_REPEAT 1 MAXREPEAT\n  LITERAL 97\n\n 0. INFO 4 0b0 1 MAXREPEAT (to 5)\n"
    ++ " 5: REPEAT_ONE 6 1 MAXREPEAT (to 12)\n 9.   LITERAL 0x61 ('a')\n11.   SUCCESS\n"
    ++ "12: SUCCESS\n"

/-- The host in which it does so. -/
def dumpingHost : Host where
  __ := Pipes.host ⟨false⟩
  notices
    | _, _, .out => dumpText
    | _, _, .err => ""

/-- What an expression says of itself is written before the tokens. -/
theorem not_listsPlainly_dumped :
    ¬ dumpedSample.ListsPlainly (dumpingHost.run dumpedSample.stored ["tokens", "g", "f"]) := by
  intro hplain
  have hrun := Sample.run_eq (s := dumpedSample) (h := dumpingHost) rfl (by decide +kernel)
  have hout : (dumpingHost.run dumpedSample.stored ["tokens", "g", "f"]).out
      = dumpText ++ "1:1     a(0)  'a'\n" := by
    rw [hrun]
    decide +kernel
  have hlines := hplain.out _ (Sample.tokenize_eq_ok rfl)
  exact absurd (hout.symm.trans hlines) (by decide +kernel)

/-- An expression that is warned of, a set that seems to have a set in it, with a text that it
does not match. -/
def warnedSample : Sample where
  document := "token=[\x7blabel='a',regex='[[]'\x7d]"
  text := "x"
  grammar := soleGrammar "[[]" (.unit (.one 91 false .exact))
  tokens := []
  stop := some (.error ⟨"x", 1, 1, "f"⟩)

/-- The warning, after the place of the code that compiles the expression, and with its line. -/
def warningText (place line : String) : String :=
  place ++ ": FutureWarning: Possible nested set at position 1\n  " ++ line ++ "\n"

/-- The host in which it is given. -/
def warningHost (place line : String) : Host where
  __ := Pipes.host ⟨false⟩
  notices
    | _, _, .out => ""
    | _, _, .err => warningText place line

theorem warningHost_echoesTexts (place line : String) : (warningHost place line).EchoesTexts := by
  have hecho : (Pipes.host ⟨false⟩).EchoesTexts := Host.usual_echoesTexts _ _
  exact ⟨hecho.terminal, hecho.plain⟩

/-- What the error at the first character is rendered as. -/
def warnedReport : String :=
  "error[E100]: invalid character 'x'\n  --> f:1:1\n     |\n     1 | x\n     | ^\n"
    ++ "     |   no token pattern matches here"

/-- A warning is written before the error. -/
theorem not_listsPlainly_warned (place line : String) :
    ¬ warnedSample.ListsPlainly
      ((warningHost place line).run warnedSample.stored ["tokens", "g", "f"]) := by
  intro hplain
  have hrender : ((Renderer.ofSources false [("f", "x")]).render warnedSample.stored
      (Error.lex ⟨"x", 1, 1, "f"⟩).toDiagnostic).1 = .ok warnedReport := by
    decide +kernel
  have hline : (warningHost place line).line .err warnedReport = warnedReport ++ "\n" :=
    (warningHost_echoesTexts place line).line_eq (.inr (by decide +kernel))
  have hreport : report (warningHost place line) warnedSample.stored [("f", "x")]
      (.lex ⟨"x", 1, 1, "f"⟩) = { status := 1, err := warnedReport ++ "\n" } := by
    rw [report_of_render (h := warningHost place line) hrender, hline]
  have hrun := Sample.run_eq (s := warnedSample) (h := warningHost place line) rfl nofun
  have herr : ((warningHost place line).run warnedSample.stored ["tokens", "g", "f"]).err
      = warningText place line ++ ("" ++ (warnedReport ++ "\n")) := by
    rw [hrun, err_listed]
    show _ ++ (_ ++ (report _ _ [("f", "x")] _).err) = _
    rw [hreport]
    rfl
  have hplainly := hplain.err _ _ (Sample.tokenize_eq_error rfl) hrender
  have hlength := congrArg String.length (herr.symm.trans hplainly)
  have hend : 0 < "\n".length := by decide
  simp only [warningText, String.length_append] at hlength
  omega

/-- An expression that gives no answer for a text: a group of it is left with a beginning after its
end. -/
def tangledSample : Sample where
  document := "token=[\x7blabel='a',regex='((b)|a)++'\x7d]"
  text := "baa"
  grammar := soleGrammar "((b)|a)++" (.rep .possessive 1 none
    (.group 1 (.alt (.group 2 (.unit (.one 98 false .exact))) (.unit (.one 97 false .exact)))))
  tokens := []
  stop := some .tangled

/-- Where an expression gives no answer, the program ends without an error of reading. -/
theorem not_listsPlainly_tangled :
    ¬ tangledSample.ListsPlainly (run ⟨false⟩ tangledSample.stored ["tokens", "g", "f"]) := by
  intro hplain
  have hrun := Sample.run_eq (s := tangledSample) (h := Pipes.host ⟨false⟩) rfl nofun
  have hstatus : (run ⟨false⟩ tangledSample.stored ["tokens", "g", "f"]).status = 1 := by
    rw [run, hrun]
    rfl
  obtain ⟨e, he⟩ := hplain.status hstatus
  have htangled := Sample.tokenize_eq_error (s := tangledSample) rfl
  cases htangled.symm.trans he

/-! A document with a number of thousands of digits is read as a list of characters, where the
kernel can follow it. -/

/-- The characters of a document with one entry. Its kind is a one and thousands of zeros, to the
base sixteen. -/
def longChars : List Char :=
  "token=[\x7blabel='a',literal='x',kind=0x1".toList ++ List.replicate 3600 '0' ++ "\x7d]".toList

/-- The kind. -/
def longKind : Int := Nat.pow 16 3600

/-- What the document says. -/
def longFields : List (String × Value) :=
  [("token", .list [.table [("label", .text "a"), ("literal", .text "x"),
    ("kind", .int longKind)]])]

/-- A kind with too many digits. -/
def longSample : Sample where
  document := .ofList longChars
  text := "x"
  grammar := { entries := [⟨"a", longKind, .sound (.literal "x")⟩] }
  tokens := [⟨longKind, "x", "a", ⟨1, 1⟩, ⟨0, 1⟩, 0⟩]
  stop := none
  spells := by
    have hreturn : '\r' ∉ longChars := by decide +kernel
    have hparse : Toml.parse (.ofList longChars) = .ok longFields := by
      rw [Toml.parse_ofList hreturn]
      decide +kernel
    have hdocument : Grammar.ofDocument (.table longFields)
        = .ok { entries := [⟨"a", longKind, .sound (.literal "x")⟩] } := by
      decide +kernel
    rw [Grammar.ofToml, hparse]
    show (Grammar.ofDocument (.table longFields)).mapError _ = _
    rw [hdocument]
    rfl

/-- A number with too many digits cannot be written, though the token has been read. -/
theorem not_listsPlainly_long :
    ¬ longSample.ListsPlainly (run ⟨false⟩ longSample.stored ["tokens", "g", "f"]) := by
  intro hplain
  have hlong : Value.isShowableInt longKind = false := by decide +kernel
  obtain ⟨e, he⟩ := hplain.status (Sample.status_run_of_unshowable rfl rfl hlong)
  have htokens := Sample.tokenize_eq_ok (s := longSample) rfl
  cases htokens.symm.trans he

/-- **A run does not always list the tokens of a source plainly.** A label may have a control
sequence, an expression may write something while it is compiled or be warned of, a kind may have
too many digits to be written, and an expression may give no answer. -/
theorem run_tokens_not_plain :
    ¬ paintedSample.ListsPlainly (run ⟨false⟩ paintedSample.stored ["tokens", "g", "f"])
    ∧ ¬ dumpedSample.ListsPlainly (dumpingHost.run dumpedSample.stored ["tokens", "g", "f"])
    ∧ (∀ place line, ¬ warnedSample.ListsPlainly
      ((warningHost place line).run warnedSample.stored ["tokens", "g", "f"]))
    ∧ ¬ longSample.ListsPlainly (run ⟨false⟩ longSample.stored ["tokens", "g", "f"])
    ∧ ¬ tangledSample.ListsPlainly (run ⟨false⟩ tangledSample.stored ["tokens", "g", "f"]) :=
  ⟨not_listsPlainly_painted, not_listsPlainly_dumped, not_listsPlainly_warned,
    not_listsPlainly_long, not_listsPlainly_tangled⟩

end Command

end ParseKit
