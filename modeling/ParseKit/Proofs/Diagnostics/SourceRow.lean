import ParseKit.Diagnostic
import ParseKit.Proofs.Lexing.History
import ParseKit.Proofs.Text.Lines
import Mathlib.Tactic.IntervalCases

/-!
# The row of a source that an error is shown with

An error of a lexer has a line and a column, and is shown with a row of the
source and a caret below it. The lexer counts line feeds. The renderer looks
the row up among the lines of the source, and these are cut at every character
that ends a line, so that the two can come apart.

`Lexer.raised_error_shown` says what is shown, for every error and whatever was
asked of the lexer before: there is always a row, and it is the line around the
character of the error exactly if the lines above are ended by line feeds and
the line itself has no other line end in it. Then the character stands in the
row at the column of the error, with the caret below it; a line feed that no
pattern matches stands just past the end of its row.
`Lexer.raised_error_misplaced` is a source in which a form feed stands above,
and a row of another line is shown.
-/

namespace ParseKit

/-! ## Rendering one label -/

namespace Renderer

/-- **A diagnostic with one label in a source that is known**: its rows, between
the header and the remarks. -/
theorem render_single {r : Renderer} {d : Diagnostic} {l : DiagnosticLabel}
    {lines rows : List String} (files : Files) (hlabels : d.labels = [l])
    (hknown : r.known.lookup l.location.file = some lines)
    (hrows : labelRows r.color (lineAt? lines l.location.start.line) l = .ok rows) :
    r.render files d
      = (.ok ("\n".intercalate
          (headerRow r.color d :: rows ++ d.notes.map (noteRow r.color))), r) := by
  have hlookup : r.lookup files l.location.file = .ok (lines, r) := by
    rw [lookup, hknown]
  have hall : labelsRows files r d.labels = (.ok rows, r) := by
    rw [hlabels, labelsRows, hlookup]
    dsimp only
    rw [hrows, labelsRows]
    show (Except.ok (rows ++ []), r) = _
    rw [List.append_nil]
  rw [render, hall]

/-- A number of columns that a text can have is a row of so many characters. -/
theorem stretch_eq_ok {n : Nat} (c : Char) (h : (n : Int) < textLimit) :
    stretch c n = .ok (String.ofList (List.replicate n c)) := by
  have hlimit : textLimit < countLimit := by decide
  have hpos : 0 < countLimit := by decide
  have hcount : ¬ ((n : Int) < -countLimit ∨ countLimit ≤ n) := by omega
  unfold stretch
  simp only [Bool.or_eq_true, decide_eq_true_eq, if_neg hcount, if_neg (Int.not_le.mpr h),
    Int.toNat_natCast]

/-- A row of carets for columns that a text can have. -/
theorem caretRow_eq (color : Bool) {l : Location} {n m : Nat} (hcolumn : l.start.column = n + 1)
    (hcount : caretCount l = m) (hn : (n : Int) < textLimit) (hm : (m : Int) < textLimit) :
    caretRow color l
      = .ok (bareFrame color ++ " " ++ String.ofList (List.replicate n ' ')
          ++ Text.paint color errorStyle (String.ofList (List.replicate m '^'))) := by
  unfold caretRow
  rw [hcolumn, Int.add_sub_cancel, stretch_eq_ok ' ' hn, hcount, stretch_eq_ok '^' hm]
  rfl

/-- The rows of a label within one line, given its source line and its row of
carets. -/
theorem labelRows_of_caretRow {color : Bool} {line : Option String} {l : DiagnosticLabel}
    {carets : String} (hline : l.location.start.line = l.location.stop.line)
    (hcarets : caretRow color l.location = .ok carets) :
    labelRows color line l
      = .ok ([placeRow color l.location, bareFrame color]
          ++ (line.toList.map fun line => sourceRow color l.location.start.line line)
          ++ [carets]
          ++ if l.message.isEmpty then [] else [messageRow color l.message]) := by
  unfold labelRows
  rw [if_pos (beq_iff_eq.mpr hline), hcarets]
  rfl

/-! Rows without colours, written out. -/

theorem placeRow_plain (l : Location) : placeRow false l = "  --> " ++ l.text := rfl

theorem sourceRow_plain (n : Int) (line : String) :
    sourceRow false n line = "  " ++ gutter n ++ " | " ++ line := by
  show "  " ++ (gutter n ++ " |") ++ " " ++ line = _
  rw [show " | " = " |" ++ " " from rfl]
  simp only [String.append_assoc]

theorem caretRow_plain {l : Location} {n m : Nat} (hcolumn : l.start.column = n + 1)
    (hcount : caretCount l = m) (hn : (n : Int) < textLimit) (hm : (m : Int) < textLimit) :
    caretRow false l
      = .ok ("     | " ++ String.ofList (List.replicate n ' ')
          ++ String.ofList (List.replicate m '^')) :=
  caretRow_eq false hcolumn hcount hn hm

/-- **The rows of a diagnostic with one label along a line**, of which a row is shown: the carets
are `width` columns wide, after `indent` blanks. -/
def rowsAlong (d : Diagnostic) (l : DiagnosticLabel) (row : String) (indent width : Nat) :
    List String :=
  [ "error[" ++ d.code ++ "]: " ++ d.message,
    "  --> " ++ l.location.text,
    "     |",
    "  " ++ gutter l.location.start.line ++ " | " ++ row,
    "     | " ++ String.ofList (List.replicate indent ' ')
      ++ String.ofList (List.replicate width '^'),
    "     |   " ++ l.message ]

/-- **A diagnostic with one label along a line of a source that is known** is rendered with these
rows. -/
theorem render_along {r : Renderer} {d : Diagnostic} {l : DiagnosticLabel} {lines : List String}
    {row : String} {n m : Nat} (files : Files) (hplain : r.color = false) (hlabels : d.labels = [l])
    (hnotes : d.notes = []) (hknown : r.known.lookup l.location.file = some lines)
    (hline : l.location.start.line = l.location.stop.line)
    (hrow : lineAt? lines l.location.start.line = some row)
    (hcolumn : l.location.start.column = n + 1) (hcount : caretCount l.location = m)
    (hn : (n : Int) < textLimit) (hm : (m : Int) < textLimit)
    (hmessage : l.message.isEmpty = false) :
    (r.render files d).1 = .ok ("\n".intercalate (rowsAlong d l row n m)) := by
  have hcarets := caretRow_plain hcolumn hcount hn hm
  have hrows : labelRows false (lineAt? lines l.location.start.line) l = .ok _ :=
    labelRows_of_caretRow hline hcarets
  rw [← hplain] at hrows
  have hheader : headerRow false d = "error[" ++ d.code ++ "]: " ++ d.message := by
    show "error" ++ "[" ++ d.code ++ "]" ++ (": " ++ d.message) = _
    rw [show "error[" = "error" ++ "[" from rfl, show "]: " = "]" ++ ": " from rfl]
    simp only [String.append_assoc]
  rw [render_single files hlabels hknown hrows, hplain, hheader, hrow, hmessage, hnotes, rowsAlong,
    ← sourceRow_plain, ← placeRow_plain]
  rfl

end Renderer

namespace LexError

/-- **What is shown of an error**, with a row of its source. -/
def shown (e : LexError) (row : String) : String :=
  "\n".intercalate
    [ "error[E100]: invalid character " ++ Text.quote e.char,
      "  --> " ++ e.filename ++ ":" ++ toString e.line ++ ":" ++ toString e.column,
      "     |",
      "  " ++ Renderer.gutter e.line ++ " | " ++ row,
      "     | " ++ String.ofList (List.replicate (e.column - 1).toNat ' ') ++ "^",
      "     |   no token pattern matches here" ]

/-- The label of an error. -/
def label (e : LexError) : DiagnosticLabel :=
  ⟨.along e.filename e.line e.column, "no token pattern matches here"⟩

/-- **Rendering an error shows a row of its source**, the line with the number of
the error. -/
theorem render_eq_shown {e : LexError} {source row : String} {n : Nat} (files : Files)
    (hrow : Renderer.lineAt? (Text.splitLines source) e.line = some row)
    (hcolumn : e.column = n + 1) (hwidth : (n : Int) < Renderer.textLimit) :
    ((Renderer.ofSources false [(e.filename, source)]).render files e.toDiagnostic).1
      = .ok (e.shown row) := by
  have hknown : (Renderer.ofSources false [(e.filename, source)]).known.lookup
      e.label.location.file = some (Text.splitLines source) := by
    show List.lookup e.filename [(e.filename, Text.splitLines source)] = _
    rw [List.lookup_cons_self]
  have hcount : Renderer.caretCount e.label.location = (1 : Nat) := by
    show max 1 (e.column + max 1 1 - 1 - e.column + 1) = 1
    omega
  have hplace : "  --> " ++ e.label.location.text
      = "  --> " ++ e.filename ++ ":" ++ toString e.line ++ ":" ++ toString e.column := by
    show "  --> " ++ (e.filename ++ ":" ++ (toString e.line ++ ":" ++ toString e.column)) = _
    simp only [String.append_assoc]
  have hheader : "error[E100]: invalid character " ++ Text.quote e.char
      = "error[E100]: " ++ e.toDiagnostic.message := by
    show _ = "error[E100]: " ++ ("invalid character " ++ Text.quote e.char)
    rw [← String.append_assoc]
    rfl
  have hpadding : (e.column - 1).toNat = n := by omega
  rw [Renderer.render_along (d := e.toDiagnostic) (l := e.label) files rfl rfl rfl hknown rfl hrow
    hcolumn hcount hwidth (by decide) rfl, Renderer.rowsAlong, shown, hpadding, hheader, ← hplace]
  rfl

end LexError

/-! ## Errors that are raised -/

namespace Lexer

theorem Reads.filename_eq {l l' : Lexer} {ts : List Token} (h : Reads l ts l') :
    l'.filename = l.filename := by
  induction h with
  | nil l => rfl
  | cons first rest ih =>
    obtain ⟨p, n, -, -, -, rfl⟩ := next_eq_token first
    exact ih

/-- No request changes the name of the source. -/
theorem filename_perform (l : Lexer) (a : Action) : (l.perform a).2.filename = l.filename := by
  cases a with
  | begin source => rfl
  | next =>
    simp only [perform]
    split
    · rename_i t l' hnext
      exact (Reads.cons hnext (.nil l')).filename_eq
    · rfl
    · rfl
  | skip =>
    simp only [perform, skip?]
    split
    · rename_i c l' hskip
      obtain ⟨c', -, hskip⟩ := Option.map_eq_some_iff.mp hskip
      cases hskip
      rfl
    · rfl
  | all => exact (reads_drain l.left l).filename_eq
  | take n => exact (reads_take n l).filename_eq

theorem filename_performAll (l : Lexer) (history : List Action) :
    (l.performAll history).filename = l.filename := by
  induction history generalizing l with
  | nil => rfl
  | cons a history ih => exact (ih _).trans (l.filename_perform a)

/-- **Reading a source raises an error**: after some history, in which the source
was begun last, a request is answered with it. -/
def Raises (patterns : List Pattern) (filename source : String) (e : LexError) : Prop :=
  ∃ history a, sourceAfter "" history = source
    ∧ (((Lexer.mk patterns filename .empty .start).performAll history).perform a).1.error? = some e

variable {patterns : List Pattern} {filename source : String} {e : LexError}

/-- Reading all tokens of a source raises the error that it ends in. -/
theorem raises_of_tokenize (h : tokenize patterns source filename = .error (.error e)) :
    Raises patterns filename source e := by
  refine ⟨[.begin source], .all, rfl, ?_⟩
  unfold tokenize Run.result at h
  show (Answer.ofRun (onSource patterns source filename).all).error? = some e
  unfold Answer.ofRun
  cases hstop : (onSource patterns source filename).all.stop with
  | none =>
    rw [hstop] at h
    cases h
  | some stop =>
    rw [hstop] at h
    cases h
    rfl

/-- **An error that is raised has the character and the place of an offset**, and
the name of the source. -/
theorem Raises.exists_offset (h : Raises patterns filename source e) :
    e.filename = filename ∧ ∃ offset c, source.toList[offset]? = some c ∧ e.char = .singleton c
      ∧ (⟨e.line, e.column⟩ : Position) = Text.placeAfter (source.toList.take offset) := by
  obtain ⟨history, a, rfl, herror⟩ := h
  have hstart : (Lexer.mk patterns filename .empty .start).StandsIn "" :=
    ⟨rfl, aligned_start (.mk patterns filename .empty .start) ""⟩
  obtain ⟨c, hc⟩ := (hstart.performAll history).keepsPlace.error a e herror
  refine ⟨?_, _, c, hc⟩
  obtain ⟨c', -, -, rfl⟩ := next_eq_error (next_of_perform_error herror)
  exact (filename_perform _ a).trans (filename_performAll _ history)

end Lexer

/-! ## The row -/

/-- **An error points into a row**, which is the line of the source around an
offset. -/
structure LexError.PointsInto (e : LexError) (source : String) (offset : Nat) (row : String) :
    Prop where
  /-- The lines before the one with the number of the error are the text above the
  line. -/
  above : ((Text.linesOf source.toList).take (e.line - 1).toNat).flatMap Text.Line.whole
    = Text.above source.toList offset
  /-- The row is the line. -/
  line : row.toList = Text.lineAround source.toList offset
  /-- The character of the error stands in the row at its column; a line feed stands
  just past the end. -/
  char : ∀ c, e.char = .singleton c →
    row.toList[(e.column - 1).toNat]? = some c ∨ c = '\n' ∧ e.column - 1 = row.length

namespace Lexer

/-- The column of a place counts what is left of it. -/
theorem column_placeAfter (s : List Char) (offset : Nat) :
    (Text.placeAfter (s.take offset)).column = (Text.leftOf s offset).length + 1 := by
  show ((s.take offset).length : Int) - Text.lastBreak (s.take offset) = _
  rw [Text.length_sub_lastBreak, Cursor.tailLength, Text.leftOf, List.length_reverse]

/-- The line that is looked up for a place is the one with the number of the line feeds before. -/
theorem lineAt?_placeAfter (source : String) (offset : Nat) :
    Renderer.lineAt? (Text.splitLines source) (Text.placeAfter (source.toList.take offset)).line
      = ((Text.linesOf source.toList)[(source.toList.take offset).count '\n']?).map
        fun l => String.ofList l.text := by
  show Renderer.lineAt? _ (1 + ((source.toList.take offset).count '\n' : Int)) = _
  have hindex : (1 + ((source.toList.take offset).count '\n' : Int)).toNat - 1
      = (source.toList.take offset).count '\n' := by
    omega
  rw [Renderer.lineAt?, if_neg (by omega), hindex, Text.splitLines, List.getElem?_map]

variable {patterns : List Pattern} {filename source : String} {e : LexError}

/-- **An error is shown with the line that has its number.** There is one, for every
error that reading a source raises; and it is the line around the character of
the error exactly if lines are ended by line feeds up to there. The source is no
longer than a text can be. -/
theorem raised_error_shown (files : Files) (h : Raises patterns filename source e)
    (hsize : (source.length : Int) ≤ Renderer.textLimit) :
    ∃ offset c row, source.toList[offset]? = some c ∧ e.char = .singleton c
      ∧ (⟨e.line, e.column⟩ : Position) = Text.placeAfter (source.toList.take offset)
      ∧ ((Renderer.ofSources false [(filename, source)]).render files e.toDiagnostic).1
        = .ok (e.shown row)
      ∧ (e.PointsInto source offset row ↔ Text.EndedByFeeds source.toList offset) := by
  obtain ⟨rfl, offset, c, hc, hchar, hplace⟩ := h.exists_offset
  have hlt : offset < source.toList.length := (List.getElem?_eq_some_iff.mp hc).1
  have hlength : source.toList.length = source.length := String.length_toList
  have hline : e.line = (source.toList.take offset).count '\n' + 1 := by
    rw [Int.add_comm]
    exact congrArg Position.line hplace
  have hcolumn : e.column = (Text.leftOf source.toList offset).length + 1 := by
    rw [← column_placeAfter, ← hplace]
  have hleft := Text.length_leftOf_le source.toList offset
  -- the line with the number of the error
  have hcount := Text.count_feed_lt_length hlt
  obtain ⟨l, hl⟩ : ∃ l, (Text.linesOf source.toList)[(source.toList.take offset).count '\n']?
      = some l := ⟨_, List.getElem?_eq_getElem hcount⟩
  have hnumber : (e.line - 1).toNat = (source.toList.take offset).count '\n' := by omega
  have hrow : Renderer.lineAt? (Text.splitLines source) e.line = some (String.ofList l.text) := by
    rw [show e.line = _ from congrArg Position.line hplace, lineAt?_placeAfter, hl]
    rfl
  refine ⟨offset, c, String.ofList l.text, hc, hchar, hplace,
    LexError.render_eq_shown files hrow hcolumn (by omega), ?_⟩
  rw [← Text.findsLine_iff hlt]
  constructor
  · rintro ⟨habove, htext, -⟩
    rw [String.toList_ofList] at htext
    rw [hnumber] at habove
    exact ⟨habove, by rw [hl, Option.map_some, htext]⟩
  · rintro ⟨habove, htext⟩
    rw [hl, Option.map_some, Option.some.injEq] at htext
    refine ⟨by rw [hnumber, habove], by rw [String.toList_ofList, htext], fun d hd => ?_⟩
    obtain rfl : c = d := by simpa [hchar] using congrArg String.toList hd
    have hindex : (e.column - 1).toNat = (Text.leftOf source.toList offset).length := by omega
    rw [String.toList_ofList, String.length_ofList, htext, hindex]
    rcases Text.getElem?_lineAround hc with hat | ⟨hfeed, hend⟩
    · exact Or.inl hat
    · exact Or.inr ⟨hfeed, by omega⟩

/-- Small letters, and the four control characters from the line feed to the
carriage return. -/
def breakPatterns : List Pattern := [⟨"word", 0, .range 'a' 'z'⟩, ⟨"break", 1, .range '\n' '\r'⟩]

/-- After a line that is ended by a carriage return and a line feed, the row is
the second line, with a question mark at its third column. -/
theorem raised_error_shown_pair : ∃ e : LexError, e = ⟨"?", 2, 3, "in"⟩
    ∧ Raises breakPatterns "in" "ab\r\ncd?\n" e
    ∧ ("ab\r\ncd?\n".length : Int) ≤ Renderer.textLimit
    ∧ ∃ row, ((Renderer.ofSources false [("in", "ab\r\ncd?\n")]).render {} e.toDiagnostic).1
        = .ok (e.shown row)
      ∧ e.PointsInto "ab\r\ncd?\n" 6 row := by
  have hraises : Raises breakPatterns "in" "ab\r\ncd?\n" ⟨"?", 2, 3, "in"⟩ :=
    raises_of_tokenize (by decide +kernel)
  have hsize : ("ab\r\ncd?\n".length : Int) ≤ Renderer.textLimit := by decide
  obtain ⟨offset, c, row, hc, -, hplace, hrender, hiff⟩ := raised_error_shown {} hraises hsize
  -- no other offset has this place
  have hoffset : offset = 6 := by
    have hlt : offset < 8 := (List.getElem?_eq_some_iff.mp hc).1
    revert hplace
    clear hc hrender hiff
    interval_cases offset <;> decide
  subst hoffset
  have hline : Text.lineAround "ab\r\ncd?\n".toList 6 = ['c', 'd', '?'] := by decide
  refine ⟨_, rfl, hraises, hsize, row, hrender, hiff.mpr ⟨by decide, ?_⟩⟩
  rw [hline]
  simp only [List.forall_mem_cons]
  exact ⟨by decide, by decide, by decide, List.forall_mem_nil _⟩

/-- **After a form feed, the row of another line is shown.** The lexer has counted
one line feed, and the line with the commercial at is the third of the lines
of the source. -/
theorem raised_error_misplaced : ∃ e : LexError, e = ⟨"@", 2, 1, "in"⟩
    ∧ tokenize breakPatterns "a\x0cb\n@" "in" = .error (.error e)
    ∧ ((Renderer.ofSources false [("in", "a\x0cb\n@")]).render {} e.toDiagnostic).1
      = .ok (e.shown "b")
    ∧ e.shown "b" ≠ e.shown "@" ∧ Text.lineAround "a\x0cb\n@".toList 4 = "@".toList :=
  ⟨_, rfl, by decide +kernel, by decide +kernel, by decide +kernel, by decide⟩

end Lexer

end ParseKit
