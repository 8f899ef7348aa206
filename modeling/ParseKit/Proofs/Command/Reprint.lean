import ParseKit.Command.Run
import ParseKit.Proofs.Diagnostics.Underline
import ParseKit.Proofs.Pasm.Stability

/-!
# Printing a program again

The command for pseudo-assembly reads a file, parses it and prints it in its
normal form. It prints the whole program or nothing at all: either the file is a
program, and then every line of it is printed, or it is none, and then an error
says why. No file that holds a text makes it end in any other way
(`run_pasm_reprints`).

There are four things in the way of this. Reading could stop for another reason
than a character that no pattern matches, but all patterns of pseudo-assembly
report ends where they may (`Pasm.patterns_endsWithin`). Parsing could fail with an
error that points nowhere, but its units only pass on what was refused at some
token. The printer could meet a node that it cannot print, but trees of programs
have none (`Pasm.render_eq_reprint`). And an error could point too far out for a
row of carets, so that the report itself would end the program; here it is used that
the source is no longer than a text can be.

What is echoed goes through the host. The lines of a program have no control sequence
in them, and are written as they are; the rendering of an error may have some, where a
line of the source has, or where the error output is a terminal and it has colours.
-/

namespace ParseKit

/-! ## Texts without control sequences -/

namespace Text

/-- Without the escape character there is no sequence to leave out. -/
theorem stripWith_eq_self (after? : List Char → Option (List Char)) (fuel : Nat) {cs : List Char}
    (h : escape ∉ cs) : stripWith after? fuel cs = cs := by
  induction fuel generalizing cs with
  | zero => rfl
  | succ fuel ih =>
    cases cs with
    | nil => rfl
    | cons c cs =>
      rw [List.mem_cons, not_or] at h
      have hc : (c == escape) = false := beq_false_of_ne (Ne.symm h.1)
      simp only [stripWith, hc, Bool.false_eq_true, ite_false, ih h.2]

theorem stripControls_eq_self {s : String} (h : escape ∉ s.toList) : stripControls s = s := by
  rw [stripControls, stripWith_eq_self _ _ h, String.ofList_toList]

end Text

/-- **The usual host echoes texts as is expected.** -/
theorem Command.Host.usual_echoesTexts (isTerminal : Stream → Bool) (keepsControls : Bool) :
    (usual isTerminal keepsControls).EchoesTexts where
  terminal := by
    intro s text hs
    show (if isTerminal s || keepsControls then text else Text.stripControls text) = text
    rw [if_pos (by rw [show isTerminal s = true from hs, Bool.true_or])]
  plain := by
    intro s text hplain
    show (if isTerminal s || keepsControls then text else Text.stripControls text) = text
    split
    · rfl
    · exact Text.stripControls_eq_self hplain

/-! ## Errors that can be rendered -/

namespace Renderer

/-- **A diagnostic with one label is rendered**, if the label is within one line and
a text can have its columns. -/
theorem exists_render (color : Bool) {d : Diagnostic} {l : DiagnosticLabel} {filename : String}
    {n m : Nat} (source : String) (files : Files) (hlabels : d.labels = [l])
    (hfile : l.location.file = filename) (hline : l.location.start.line = l.location.stop.line)
    (hcolumn : l.location.start.column = n + 1) (hcount : caretCount l.location = m)
    (hn : (n : Int) < textLimit) (hm : (m : Int) < textLimit) :
    ∃ text, ((ofSources color [(filename, source)]).render files d).1 = .ok text := by
  have hknown : (ofSources color [(filename, source)]).known.lookup l.location.file
      = some (Text.splitLines source) := by
    rw [hfile]
    show List.lookup filename [(filename, Text.splitLines source)] = _
    rw [List.lookup_cons_self]
  have hcarets := caretRow_eq color hcolumn hcount hn hm
  have hrows : labelRows color (lineAt? (Text.splitLines source) l.location.start.line) l = .ok _ :=
    labelRows_of_caretRow hline hcarets
  exact ⟨_, congrArg Prod.fst (render_single files hlabels hknown hrows)⟩

end Renderer

/-- The error of a source that no pattern matches is rendered. -/
theorem LexError.exists_render (color : Bool) {patterns : List Pattern}
    {source filename : String} {e : LexError}
    (h : tokenize patterns source filename = .error (.error e))
    (hsize : (source.length : Int) < Renderer.textLimit) (files : Files) :
    ∃ text, ((Renderer.ofSources color [(filename, source)]).render files e.toDiagnostic).1
      = .ok text := by
  obtain ⟨hfile, offset, c, hc, -, hplace⟩ := (Lexer.raises_of_tokenize h).exists_offset
  have hlt : offset < source.toList.length := (List.getElem?_eq_some_iff.mp hc).1
  have hlength : source.toList.length = source.length := String.length_toList
  have hleft := Text.length_leftOf_le source.toList offset
  have hcolumn : e.column = (Text.leftOf source.toList offset).length + 1 := by
    rw [← Lexer.column_placeAfter, ← hplace]
  have hcount : Renderer.caretCount e.label.location = (1 : Nat) := by
    show max 1 (e.column + max 1 1 - 1 - e.column + 1) = 1
    omega
  exact Renderer.exists_render color (d := e.toDiagnostic) source files rfl hfile rfl hcolumn hcount
    (by omega) (by decide)

/-- The error of a parse that points at the tokens of a source is rendered. -/
theorem ParseError.exists_render (color : Bool) {patterns : List Pattern} {source filename : String}
    {ts : List Token} {start : Nat} {e : ParseError} (h : e.PointsFrom ts filename start)
    (hts : tokenize patterns source filename = .ok ts)
    (hsize : (source.length : Int) < Renderer.textLimit) (files : Files) :
    ∃ text, ((Renderer.ofSources color [(filename, source)]).render files e.toDiagnostic).1
      = .ok text := by
  obtain ⟨i, -, ⟨-, -, htoken⟩ | ⟨t, ht, htoken, -⟩⟩ := h.place
  · -- at the end there is nothing to point at
    have hlabels : e.toDiagnostic.labels = [] := by simp [toDiagnostic, htoken]
    exact ⟨_, by rw [Renderer.render, hlabels]; rfl⟩
  · obtain ⟨hcut, htext, hne⟩ := cut_of_mem_tokenize hts (List.mem_of_getElem? ht)
    obtain ⟨hend, hpos⟩ := Token.offset_add_length_le hne htext
    have hleft := Text.length_leftOf_le source.toList t.offset
    exact Renderer.exists_render color source files (labels_of_token htoken) h.filename rfl
      hcut.column_eq (e.caretCount_label hpos) (by omega) (by omega)

/-! ## Where reading stops -/

/-- **Reading a source fails at a character that no pattern matches**, where patterns report
ends within the source. -/
theorem exists_lexError {patterns : List Pattern} {source filename : String} {stop : LexStop}
    (h : ∀ p ∈ patterns, p.EndsWithin (.ofString source))
    (hstop : tokenize patterns source filename = .error stop) : ∃ e, stop = .error e := by
  have hstart : (Lexer.onSource patterns source filename).Aligned := Lexer.aligned_start _ source
  rw [tokenize_eq_error_iff, Lexer.all] at hstop
  rcases Lexer.drain_stop (Lexer.onSource patterns source filename).left hstart rfl h
    with hnone | ⟨e, he⟩
  · cases hstop.symm.trans hnone
  · exact ⟨e, Option.some.inj (hstop.symm.trans he)⟩

namespace Pasm

/-- An expression that takes some number of units reports ends within a text. -/
theorem endsWithin_of_reach {r : Regex} {text : List Char} {reach : List Char → Option Nat}
    (h : ∀ {p : Nat}, p ≤ text.length →
      r.matchEnd (.ofChars text.toArray) p = .ok ((reach (text.drop p)).map (p + ·))) :
    r.EndsWithin (.ofChars text.toArray) := by
  intro pos hpos
  have hmatch := h (Regex.size_ofChars text ▸ hpos)
  refine ⟨_, hmatch, fun stop hstop => ⟨?_, ?_⟩⟩
  · obtain ⟨n, -, rfl⟩ := Option.map_eq_some_iff.mp hstop
    exact Nat.le_add_right pos n
  · rw [Option.mem_def.mp hstop] at hmatch
    exact Regex.matchEnd_le_size hmatch

/-- **The patterns of pseudo-assembly report ends within every source.** -/
theorem patterns_endsWithin (source : String) :
    ∀ p ∈ patterns, p.EndsWithin (.ofString source) := by
  intro p hp
  rw [Lexeme.patterns_eq] at hp
  obtain ⟨l, -, rfl⟩ := List.mem_map.mp hp
  cases l with
  | whitespace => exact endsWithin_of_reach (Regex.matchEnd_oneOrMore spaceUnit)
  | comment => exact endsWithin_of_reach (Regex.matchEnd_headed semicolon notLineFeed)
  | instruction => exact endsWithin_of_reach matchEnd_instructionRegex
  | ident => exact endsWithin_of_reach (Regex.matchEnd_headed nameStart namePart)
  | number => exact endsWithin_of_reach (Regex.matchEnd_pointed digitUnit '.')
  | colon => trivial
  | comma => trivial
  | percent => trivial
  | hash => trivial

/-! ## Where parsing stops -/

theorem operandUnit_passesOn : operandUnit.PassesOn := by
  have hregister : registerUnit.PassesOn := .required fun _ => .required fun _ => .done _
  have hconstant : constantUnit.PassesOn := .required fun _ => .required fun _ => .done _
  refine .isKind fun isRegister => ?_
  cases isRegister with
  | true => exact .parsed hregister .done
  | false =>
    refine .isKind fun isConstant => ?_
    cases isConstant with
    | true => exact .parsed hconstant .done
    | false => exact .required fun _ => .done _

theorem addOperand_passesOn : Move.PassesOn addOperand := fun _ _ hnext =>
  .parsed operandUnit_passesOn fun _ => .skipWhile (hnext _)

theorem statementUnit_passesOn : statementUnit.PassesOn := by
  have hfurther : Move.PassesOn addFurtherOperand := fun n next hnext =>
    .eaten fun _ => addOperand_passesOn n next hnext
  have hinstruction : instructionUnit.PassesOn := .required fun _ =>
    addOperand_passesOn _ _ fun n =>
      Move.passesOn_bounded (Move.passesOn_loop hfurther _) n _ .done
  have hlabel : labelUnit.PassesOn :=
    .required fun _ => .skipWhile (.required fun _ => .done _)
  refine .isKind fun isInstruction => ?_
  cases isInstruction with
  | true => exact .parsed hinstruction .done
  | false => exact .parsed hlabel .done

/-- **The units of pseudo-assembly make no error of their own.** -/
theorem programUnit_passesOn : programUnit.PassesOn := by
  have hstatement : Move.PassesOn addStatement := fun _ _ hnext =>
    .parsed statementUnit_passesOn fun _ => .skipWhile (hnext _)
  exact .skipWhile (Move.passesOn_bounded (Move.passesOn_untilEnd hstatement) _ _ .done)

theorem parseTokens_pointsFrom {tokens : List Token} {filename : String} {e : ParseError}
    (h : (parseTokens tokens filename).result = .error (.error (.parse e))) :
    e.PointsFrom tokens filename 0 := by
  have hpasses : (Script.parsed "Program" programUnit .done).PassesOn :=
    .parsed programUnit_passesOn .done
  exact Script.refused_pointsFrom _ (Nat.zero_le _) (hpasses.refused_mem h)

/-- **A source is a program, or reading or parsing it ends in an error**, which can be
rendered. -/
theorem parse_cases (source filename : String) :
    (∃ tree, parse source filename = .ok tree)
      ∨ ∃ e : Error, parse source filename = .error (.error e)
        ∧ (e.code = "E100" ∨ e.code = "E200")
        ∧ ∀ color files, (source.length : Int) < Renderer.textLimit →
          ∃ text, ((Renderer.ofSources color [(filename, source)]).render files
            e.toDiagnostic).1 = .ok text := by
  have hread : (Lexer.onSource patterns source filename).readAll.1.result
      = tokenize patterns source filename := rfl
  unfold parse parseRecorded
  dsimp only
  rw [hread]
  cases htokens : tokenize patterns source filename with
  | error stop =>
    obtain ⟨e, rfl⟩ := exists_lexError (patterns_endsWithin source) htokens
    refine .inr ⟨.lex e, rfl, .inl rfl, fun color files hsize => ?_⟩
    exact LexError.exists_render color htokens hsize files
  | ok ts =>
    show (∃ tree, (parseTokens ts filename).result = .ok tree) ∨ _
    rcases program_cases ts with hnone | ⟨tree, hprogram⟩
    · obtain ⟨e, he⟩ := parseTokens_meets filename hnone
      refine .inr ⟨.parse e, he, .inr rfl, fun color files hsize => ?_⟩
      exact ParseError.exists_render color (parseTokens_pointsFrom he) htokens hsize files
    · exact .inl ⟨tree, (parseTokens_eq_ok_iff ts filename tree).mpr hprogram⟩

/-! ## What is printed -/

/-- **An operand as it is printed**, by its node. -/
def operandOf (n : Node) : String :=
  if n.kind = Construct.register.kind then "%" ++ n.value.getD ""
  else if n.kind = Construct.constant.kind then "#" ++ constantText (n.value.getD "")
  else n.value.getD ""

/-- **The line of a statement**, by its node. -/
def lineOf (n : Node) : String :=
  if n.kind = Construct.label.kind then n.value.getD "" ++ ":\n"
  else "    " ++ n.value.getD "" ++ " " ++ ", ".intercalate (n.children.map operandOf) ++ "\n"

/-- **The lines of a program**, by its tree. -/
def reprint (tree : Node) : String := String.join (tree.children.map lineOf)

theorem operandOf_node (o : Operand) : operandOf o.node = (o.map constantText).text := by
  cases o <;> rfl

theorem lineOf_node (s : Statement) : lineOf s.node = (s.map constantText).line := by
  cases s with
  | label n => rfl
  | instruction m first more =>
    have hoperands : ((first :: more).map Operand.node).map operandOf
        = ((first :: more).map (Operand.map constantText)).map Operand.text := by
      rw [List.map_map, List.map_map]
      exact List.map_congr_left fun o _ => operandOf_node o
    show instructionLine m.text (((first :: more).map Operand.node).map operandOf) = _
    rw [hoperands]
    rfl

theorem reprint_node (p : Program) : reprint p.node = (p.mapConstants constantText).text := by
  show String.join ((p.map Statement.node).map lineOf) = _
  rw [Program.text, Program.mapConstants, List.map_map, List.map_map]
  exact congrArg String.join (List.map_congr_left fun s _ => lineOf_node s)

variable {source filename : String} {tree : Node}

/-- **The printer prints every tree that parsing makes**, line by line. -/
theorem render_eq_reprint (h : parse source filename = .ok tree) :
    render tree = .ok (reprint tree) := by
  obtain ⟨p, rfl, hnumerals⟩ := exists_program h
  rw [render_program p hnumerals, reprint_node]

/-- Every constant in such a tree stands for a number. -/
theorem exists_number (h : parse source filename = .ok tree) :
    ∀ v ∈ tree.valuesOf Construct.constant.kind, ∃ x, Numeral.readBinary64? v = some x := by
  obtain ⟨p, rfl, hnumerals⟩ := exists_program h
  rw [Program.valuesOf_node]
  intro v hv
  obtain ⟨digits, exponent, hread⟩ := Numeral.exists_readBinary64? (hnumerals v hv)
  exact ⟨_, hread⟩

theorem escape_not_mem_reprint (h : parse source filename = .ok tree) :
    Text.escape ∉ (reprint tree).toList := by
  obtain ⟨p, rfl, hnumerals⟩ := exists_program h
  rw [reprint_node]
  exact fun hmem => absurd (mem_printed hnumerals hmem) (by decide)

end Pasm

namespace Command

/-! ## The command -/

variable {files : Files} {words : List String} {c : Call} {bytes : ByteArray}
  {source : String}

/-- A command whose arguments are read is called with them. -/
theorem commandRequest_eq {n : Name} {w : Words} {arguments : List (Parameter × String)}
    (verbose : Bool) (hwords : readWords (.command n) true words = .ok w)
    (heager : eagerRequest? (.command n) w.switches = none)
    (harguments : readArguments files (.command n) n.parameters w.rest = .ok (arguments, [])) :
    commandRequest files verbose n words
      = .call ⟨n, arguments, skips w.switches, w.switches.contains .tree, verbose⟩ := by
  simp [commandRequest, hwords, heager, harguments]

/-- Records that are not asked for are not written. -/
theorem Output.recording_quiet (o : Output) (hverbose : c.verbose = false)
    (records : List Record) :
    o.recording c records = { o with records := records ++ o.records } := by
  simp [recording, after, recordText, hverbose]

theorem run_of_request (h : Host) (hrequest : h.request files words = .call c) :
    h.run files words = runCall h files c := by
  rw [Host.run, hrequest, answer]

theorem withText_of_file {file : String} (next : String → Output)
    (hfile : files.locate? (Path.tidy file) = some (.file bytes))
    (htext : Text.readText? bytes = some source) : withText files file next = next source := by
  simp [withText, hfile, htext]

/-- The command comes to what its source comes to, after the records. -/
theorem run_pasm (h : Host) (hrequest : h.request files words = .call c) (hname : c.name = .pasm)
    (hfile : files.locate? (Path.tidy (c.argument .file)) = some (.file bytes))
    (htext : Text.readText? bytes = some source) :
    h.run files words
      = (pasmOutput h files [(c.argument .file, source)] c.tree
          (Pasm.parse source (c.argument .file))).recording c
            (Pasm.parseRecorded source (c.argument .file)).2 := by
  rw [run_of_request h hrequest, runCall, hname]
  show runPasm h files c = _
  unfold runPasm
  dsimp only
  rw [withText_of_file _ hfile htext]
  rfl

/-- An error that is rendered is reported. -/
theorem report_of_render {h : Host} {sources : List (String × String)} {e : Error} {text : String}
    (hrender : ((h.renderer sources).render files e.toDiagnostic).1 = .ok text) :
    report h files sources e = { status := 1, err := h.line .err text } := by
  rw [report, hrender]

/-- **A line is echoed as it is** to a terminal, and to any output if there is no control sequence
in it. -/
theorem Host.EchoesTexts.line_eq {h : Host} (hecho : h.EchoesTexts) {s : Stream} {text : String}
    (hkept : h.isTerminal s = true ∨ Text.escape ∉ text.toList) : h.line s text = text ++ "\n" := by
  rcases hkept with hterminal | hplain
  · exact hecho.terminal s _ hterminal
  · refine hecho.plain s _ ?_
    rw [String.toList_append, List.mem_append, not_or]
    exact ⟨hplain, by decide⟩

/-- **The command prints a program again, or says why it is none.** Of a file that holds
a text, it prints every line and nothing else and ends well, or it prints nothing,
reports an error of reading or parsing, and ends with one; the source is no longer than
a text can be. Nothing else ends the program: the printer prints every tree that parsing
makes, and every constant in it is a number, and an error that is reported is rendered. -/
theorem run_pasm_reprints {h : Host} (hecho : h.EchoesTexts)
    (hrequest : h.request files words = .call c)
    (hname : c.name = .pasm) (htree : c.tree = false) (hverbose : c.verbose = false)
    (hfile : files.locate? (Path.tidy (c.argument .file)) = some (.file bytes))
    (htext : Text.readText? bytes = some source)
    (hsize : (source.length : Int) < Renderer.textLimit) :
    ((∃ tree, Pasm.parse source (c.argument .file) = .ok tree
        ∧ (h.run files words).status = 0
        ∧ (h.run files words).out = Pasm.reprint tree
        ∧ (h.run files words).err = "")
      ∨ ∃ (e : Error) (text : String), Pasm.parse source (c.argument .file) = .error (.error e)
        ∧ (e.code = "E100" ∨ e.code = "E200")
        ∧ (h.run files words).status = 1
        ∧ (h.run files words).out = ""
        ∧ ((Renderer.ofSources (h.isTerminal .err) [(c.argument .file, source)]).render files
          e.toDiagnostic).1 = .ok text
        ∧ (h.run files words).err = h.echo .err (text ++ "\n")
        ∧ (h.isTerminal .err = true ∨ Text.escape ∉ text.toList →
          (h.run files words).err = text ++ "\n"))
    ∧ (h.run files words).crash = none ∧ (h.run files words).unreported = none
    ∧ ∀ filename tree, Pasm.parse source filename = .ok tree →
      Pasm.render tree = .ok (Pasm.reprint tree)
        ∧ ∀ v ∈ tree.valuesOf Pasm.Construct.constant.kind,
          ∃ x, Numeral.readBinary64? v = some x := by
  have hprinter : ∀ filename tree, Pasm.parse source filename = .ok tree →
      Pasm.render tree = .ok (Pasm.reprint tree)
        ∧ ∀ v ∈ tree.valuesOf Pasm.Construct.constant.kind,
          ∃ x, Numeral.readBinary64? v = some x := fun _ _ hparse =>
    ⟨Pasm.render_eq_reprint hparse, Pasm.exists_number hparse⟩
  rw [run_pasm h hrequest hname hfile htext, Output.recording_quiet _ hverbose, htree]
  obtain ⟨tree, hparse⟩ | ⟨e, hparse, hcode, hrender⟩ :=
    Pasm.parse_cases source (c.argument .file)
  · have hout : pasmOutput h files [(c.argument .file, source)] false (.ok tree)
        = { out := Pasm.reprint tree } := by
      simp [pasmOutput, printed, Pasm.render_eq_reprint hparse,
        hecho.plain .out _ (Pasm.escape_not_mem_reprint hparse)]
    rw [hparse, hout]
    exact ⟨.inl ⟨tree, rfl, rfl, rfl, rfl⟩, rfl, rfl, hprinter⟩
  · obtain ⟨text, hrendered⟩ := hrender (h.isTerminal .err) files hsize
    have hout : pasmOutput h files [(c.argument .file, source)] false (.error (.error e))
        = { status := 1, err := h.line .err text } :=
      report_of_render hrendered
    rw [hparse, hout]
    exact ⟨.inr ⟨e, text, rfl, hcode, rfl, rfl, hrendered, rfl, hecho.line_eq⟩, rfl, rfl, hprinter⟩

/-- A file with an instruction that lacks an operand. -/
def brokenFiles : Files := { files := [(["a"], "add %a,".toUTF8)] }

example : ((run ⟨false⟩ brokenFiles ["pasm", "a"]).out, (run ⟨false⟩ brokenFiles ["pasm", "a"]).err)
    = ("", "error[E200]: expected [2] but found end of input\n") := by
  decide +kernel

/-- A file with one instruction and a label, with digits of two scripts. -/
def scriptFiles : Files := { files := [(["a"], "imm#٠07.50;\r\nb :".toUTF8)] }

/-- The file is printed with its constant as the number that it is. -/
theorem run_pasm_reprints_scripts :
    (Pipes.host ⟨false⟩).EchoesTexts
    ∧ (Pipes.host ⟨false⟩).request scriptFiles ["pasm", "a"]
      = .call ⟨.pasm, [(.file, "a")], false, false, false⟩
    ∧ (run ⟨false⟩ scriptFiles ["pasm", "a"]).status = 0
    ∧ (run ⟨false⟩ scriptFiles ["pasm", "a"]).out = "    imm #7.5\nb:\n"
    ∧ (run ⟨false⟩ scriptFiles ["pasm", "a"]).err = "" := by
  have hecho : (Pipes.host ⟨false⟩).EchoesTexts := Host.usual_echoesTexts _ _
  have hfile : scriptFiles.locate? (Path.tidy "a")
      = some (.file "imm#٠07.50;\r\nb :".toUTF8) := rfl
  have harguments : readArguments scriptFiles (.command .pasm) [.file] ["a"]
      = .ok ([(.file, "a")], []) := by
    have htidy : Path.tidy "a" = "a" := rfl
    rw [htidy] at hfile
    simp only [readArguments, checkArgument, hfile]
    rfl
  have hrequest : (Pipes.host ⟨false⟩).request scriptFiles ["pasm", "a"]
      = .call ⟨.pasm, [(.file, "a")], false, false, false⟩ := by
    show commandRequest scriptFiles false .pasm ["a"] = _
    exact commandRequest_eq (w := ⟨[], ["a"]⟩) false rfl rfl harguments
  have htext : Text.readText? "imm#٠07.50;\r\nb :".toUTF8 = some "imm#٠07.50;\nb :" := by
    decide +kernel
  have hparse : Pasm.parse "imm#٠07.50;\nb :" "a" = .ok (Pasm.programNode
      [.mk 2 "Instruction" (some "imm") [Pasm.Construct.constant.leaf (some "٠07.50")],
        Pasm.Construct.label.leaf (some "b")]) := by
    decide +kernel
  have hprinted : Pasm.constantText "٠07.50" = "7.5" := by decide +kernel
  obtain ⟨⟨tree, htree, hstatus, hout, herr⟩ | ⟨e, -, he, -⟩, -⟩ :=
    run_pasm_reprints hecho hrequest rfl rfl rfl hfile htext (by decide)
  · cases htree.symm.trans hparse
    refine ⟨hecho, hrequest, hstatus, hout.trans ?_, herr⟩
    show "" ++ ("    " ++ "imm" ++ " " ++ ("#" ++ Pasm.constantText "٠07.50") ++ "\n")
      ++ ("b" ++ ":\n") = _
    rw [hprinted]
    decide
  · cases he.symm.trans hparse

end Command

end ParseKit
