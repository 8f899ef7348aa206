import ParseKit.Proofs.Diagnostics.SourceRow
import ParseKit.Proofs.Lexing.FirstMatch
import ParseKit.Proofs.Parsing.Provenance

/-!
# What the label of a token points at

An error of a parse has a label at the token that would not do. The label begins at the position
of the token and is as many columns wide as the token has characters. Four counts meet in what is
shown of it, and each of them is off by one from an offset: columns and lines are counted from
one, the last position of a location is part of it, and the carets begin after one blank less than
the number of their column.

Within one line they come out even. `ParseError.underlines_token` says so of every source in which
nothing but line feeds ends lines, and of every error that parsing its tokens raises, at a token
without a line feed: the row that is shown is the line around the token, and what stands in this
row after as many characters as there are blanks before the carets, for as many characters as
there are carets, is the text of the token.

Over several lines they do not. The lexer goes to a new line after each line feed of a token and
starts its columns anew, but a label stays in the line in which it begins. So a label stops at the
last character of its token exactly if no line feed comes before that character; otherwise it is
as many lines short as there are such line feeds (`ParseError.label_spans_iff`).
-/

namespace ParseKit

/-! ## Tokens within their source -/

section

variable {source : String} {t : Token}

/-- A token with a character begins within the source and is no longer than what is left. -/
theorem Token.offset_add_length_le (htext : t.text ≠ "")
    (hcut : t.text.toList = (source.toList.drop t.offset).take t.length) :
    t.offset + t.length ≤ source.length ∧ 0 < t.length := by
  have hlength := congrArg List.length hcut
  rw [String.length_toList, List.length_take, List.length_drop, String.length_toList] at hlength
  have hpos : 0 < t.length :=
    Nat.pos_of_ne_zero fun hzero => htext (String.length_eq_zero_iff.mp hzero)
  change t.length = _ at hlength
  omega

/-- The column of a token counts what is left of it in its line. -/
theorem Token.CutAfter.column_eq (h : t.CutAfter (source.toList.take t.offset)) :
    t.position.column = (Text.leftOf source.toList t.offset).length + 1 := by
  rw [h.position, Lexer.column_placeAfter]

end

/-! ## The carets of a token -/

namespace ParseError

/-- **What is said about the token of an error.** -/
def label (e : ParseError) (t : Token) : DiagnosticLabel :=
  ⟨locationOf e.filename t, "found " ++ labelled t.label t.kind⟩

theorem labels_of_token {e : ParseError} {t : Token} (h : e.token = some t) :
    e.toDiagnostic.labels = [e.label t] := by
  rw [toDiagnostic, h]
  rfl

/-- There are as many carets as the token has characters, if it has one. -/
theorem caretCount_label (e : ParseError) {t : Token} (h : 0 < t.length) :
    Renderer.caretCount (e.label t).location = t.length := by
  show max 1 (t.position.column + max 1 (t.length : Int) - 1 - t.position.column + 1) = _
  omega

/-- **What is shown of an error at a token**, with a row of its source, and with `width` carets
after `indent` blanks. -/
def shown (e : ParseError) (t : Token) (row : String) (indent width : Nat) : String :=
  "\n".intercalate
    [ "error[E200]: " ++ e.message,
      "  --> " ++ e.filename ++ ":" ++ toString t.position.line ++ ":"
        ++ toString t.position.column,
      "     |",
      "  " ++ Renderer.gutter t.position.line ++ " | " ++ row,
      "     | " ++ String.ofList (List.replicate indent ' ')
        ++ String.ofList (List.replicate width '^'),
      "     |   found " ++ labelled t.label t.kind ]

/-- **Rendering an error at a token shows a row of its source**, the line with the number of the
token. -/
theorem render_eq_shown {e : ParseError} {t : Token} {source row : String} {n : Nat}
    (files : Files) (htoken : e.token = some t)
    (hrow : Renderer.lineAt? (Text.splitLines source) t.position.line = some row)
    (hcolumn : t.position.column = n + 1) (hpos : 0 < t.length)
    (hn : (n : Int) < Renderer.textLimit) (hlength : (t.length : Int) < Renderer.textLimit) :
    ((Renderer.ofSources false [(e.filename, source)]).render files e.toDiagnostic).1
      = .ok (e.shown t row n t.length) := by
  have hknown : (Renderer.ofSources false [(e.filename, source)]).known.lookup
      (e.label t).location.file = some (Text.splitLines source) := by
    show List.lookup e.filename [(e.filename, Text.splitLines source)] = _
    rw [List.lookup_cons_self]
  have hplace : "  --> " ++ (e.label t).location.text = "  --> " ++ e.filename ++ ":"
      ++ toString t.position.line ++ ":" ++ toString t.position.column := by
    show "  --> " ++ (e.filename ++ ":"
      ++ (toString t.position.line ++ ":" ++ toString t.position.column)) = _
    simp only [String.append_assoc]
  have hmessage : "     |   found " ++ labelled t.label t.kind
      = "     |   " ++ (e.label t).message := by
    show _ = "     |   " ++ ("found " ++ labelled t.label t.kind)
    rw [← String.append_assoc]
    rfl
  have hsaid : (e.label t).message.isEmpty = false := by
    rw [Bool.eq_false_iff, ne_eq, String.isEmpty_iff]
    show "found " ++ labelled t.label t.kind ≠ ""
    simp
  rw [Renderer.render_along files rfl (labels_of_token htoken) rfl hknown rfl hrow hcolumn
    (e.caretCount_label hpos) hn hlength hsaid, Renderer.rowsAlong, shown, ← hplace, hmessage]
  rfl

end ParseError

/-- **Parsing on a state raises an error**: some script fails with it, and it was made where a
state refused to give a token, however far below. -/
def State.Raises (s : State) (e : ParseError) : Prop :=
  ∃ u : Script, (u.run s).result = .error (Script.refusal e) ∧ .refused e ∈ (u.run s).events

/-- An error that is raised at a token has one of the tokens, and the name of the source. -/
theorem State.Raises.mem_tokens {s : State} {e : ParseError} {t : Token} (h : s.Raises e)
    (hs : s.cursor ≤ s.tokens.length) (ht : e.token = some t) :
    t ∈ s.tokens ∧ e.filename = s.filename := by
  obtain ⟨u, -, hrefused⟩ := h
  have hpoints := u.refused_pointsFrom hs hrefused
  obtain ⟨i, -, ⟨-, -, hnone⟩ | ⟨t', ht', htoken, -⟩⟩ := hpoints.place
  · cases hnone.symm.trans ht
  · cases htoken.symm.trans ht
    exact ⟨List.mem_of_getElem? ht', hpoints.filename⟩

namespace ParseError

variable {patterns : List Pattern} {source name filename : String} {tokens : List Token}

/-- **The carets of an error stand below its token.** The source is no longer than a text can be. -/
theorem underlines_token {kinds : Kinds} {e : ParseError} {t : Token} (files : Files)
    (htokens : tokenize patterns source name = .ok tokens)
    (hraises : State.Raises { tokens := tokens, skipKinds := kinds, filename := filename } e)
    (htoken : e.token = some t) (hfeed : '\n' ∉ t.text.toList)
    (hbreaks : ∀ c ∈ source.toList, Text.isLineBreak c = true → c = '\n')
    (hsize : (source.length : Int) < Renderer.textLimit) :
    ∃ row indent width,
      ((Renderer.ofSources false [(filename, source)]).render files e.toDiagnostic).1
        = .ok (e.shown t row indent width)
      ∧ row.toList = Text.lineAround source.toList t.offset
      ∧ 0 < width ∧ (row.toList.drop indent).take width = t.text.toList := by
  obtain ⟨ht, rfl⟩ := hraises.mem_tokens (Nat.zero_le _) htoken
  obtain ⟨hcut, htext, hne⟩ := cut_of_mem_tokenize htokens ht
  obtain ⟨hend, hpos⟩ := Token.offset_add_length_le hne htext
  have hlt : t.offset < source.toList.length := by
    rw [String.length_toList]
    omega
  -- the line with the number of the token is the line around it
  have hfinds := (Text.findsLine_iff hlt).mpr (Text.endedByFeeds_of_breaks hbreaks t.offset)
  have hrow : Renderer.lineAt? (Text.splitLines source) t.position.line
      = some (String.ofList (Text.lineAround source.toList t.offset)) := by
    obtain ⟨l, hl, hline⟩ := Option.map_eq_some_iff.mp hfinds.line
    rw [hcut.position, Lexer.lineAt?_placeAfter, hl, Option.map_some, hline]
  have hleft := Text.length_leftOf_le source.toList t.offset
  refine ⟨_, _, t.length, render_eq_shown files htoken hrow hcut.column_eq hpos (by omega)
    (by omega), String.toList_ofList, hpos, ?_⟩
  have hpiece : t.text.toList <+: source.toList.drop t.offset := by
    rw [htext]
    exact List.take_prefix _ _
  rw [String.toList_ofList, Token.length, ← String.length_toList]
  exact Text.take_drop_lineAround hpiece hfeed

/-- Words of small letters, blanks with line feeds among them, and letters with accents. -/
def accentPatterns : List Pattern :=
  [⟨"word", 0, .range 'a' 'z'⟩, ⟨"gap", 1, .range '\n' ' '⟩, ⟨"accent", 2, .range 'à' 'ÿ'⟩]

/-- A word in the second line, after letters of two bytes each. -/
def secondWord : Token := ⟨0, "cd", "word", ⟨2, 5⟩, ⟨10, 12⟩, 7⟩

/-- The tokens of a source with that word. -/
def accentTokens : List Token :=
  [ ⟨0, "ab", "word", ⟨1, 1⟩, ⟨0, 2⟩, 0⟩, ⟨1, "\n ", "gap", ⟨1, 3⟩, ⟨2, 4⟩, 2⟩,
    ⟨2, "ééé", "accent", ⟨2, 2⟩, ⟨4, 10⟩, 4⟩, secondWord, ⟨1, "\n", "gap", ⟨2, 7⟩, ⟨12, 13⟩, 9⟩ ]

/-- The state at the start of these tokens. -/
def accentState : State := { tokens := accentTokens, skipKinds := [1], filename := "in" }

/-- The error where letters with accents are required instead of the word. -/
def accentError : ParseError := ⟨[2], some 0, some secondWord, "in"⟩

theorem accentState_raises : accentState.Raises accentError := by
  let u : Script :=
    .skipWhile [0, 1] (.required [2] fun _ => .required [2] fun t => .done t.asLeaf)
  have hevents : (u.run accentState).events = [.refused accentError] := by cbv
  exact ⟨u, by cbv, hevents ▸ List.mem_singleton_self _⟩

/-- The word is underlined in its row, which begins with a blank and the letters with accents. -/
theorem underlines_token_second :
    tokenize accentPatterns "ab\n ééécd\n" = .ok accentTokens
      ∧ accentState.Raises accentError ∧ '\n' ∉ secondWord.text.toList
      ∧ (∀ c ∈ "ab\n ééécd\n".toList, Text.isLineBreak c = true → c = '\n')
      ∧ ("ab\n ééécd\n".length : Int) < Renderer.textLimit
      ∧ ∃ row indent width,
        ((Renderer.ofSources false [("in", "ab\n ééécd\n")]).render {}
          accentError.toDiagnostic).1 = .ok (accentError.shown secondWord row indent width)
        ∧ row.toList = Text.lineAround "ab\n ééécd\n".toList 7
        ∧ 0 < width ∧ (row.toList.drop indent).take width = "cd".toList := by
  have htokens : tokenize accentPatterns "ab\n ééécd\n" = .ok accentTokens := by decide +kernel
  have hfeed : '\n' ∉ secondWord.text.toList := by decide
  have hbreaks : ∀ c ∈ "ab\n ééécd\n".toList, Text.isLineBreak c = true → c = '\n' := by
    simp [Text.isLineBreak]
  have hsize : ("ab\n ééécd\n".length : Int) < Renderer.textLimit := by decide
  exact ⟨htokens, accentState_raises, hfeed, hbreaks, hsize,
    underlines_token {} htokens accentState_raises rfl hfeed hbreaks hsize⟩

end ParseError

/-! ## Locations of tokens -/

/-- **A location spans a piece of a text**: it begins at the place of the first character of the
piece and stops at the place of its last. -/
structure Location.Spans (l : Location) (text : List Char) (offset length : Nat) : Prop where
  /-- It begins at the first character. -/
  start : l.start = Text.placeAfter (text.take offset)
  /-- It stops at the last one. -/
  stop : l.stop = Text.placeAfter (text.take (offset + length - 1))

/-- What comes before the last character of a piece is what comes before the piece, and all but
the last of it. -/
theorem Text.take_eq_append_dropLast {s piece : List Char} {offset : Nat}
    (h : piece = (s.drop offset).take piece.length) (hne : piece ≠ []) :
    s.take (offset + piece.length - 1) = s.take offset ++ piece.dropLast := by
  have hpos := List.length_pos_of_ne_nil hne
  rw [Nat.add_sub_assoc hpos, List.take_add, List.dropLast_eq_take]
  conv_rhs => rw [h, List.take_take, Nat.min_eq_left (by rw [← h]; omega), ← h]

/-- **Some text more leads on in the same line exactly if it has no line feed.** -/
theorem Text.placeAfter_append_iff (a b : List Char) :
    placeAfter (a ++ b) = ⟨(placeAfter a).line, (placeAfter a).column + b.length⟩ ↔ '\n' ∉ b := by
  constructor
  · intro h hfeed
    have hline : 1 + ((a ++ b).count '\n' : Int) = 1 + (a.count '\n' : Int) :=
      congrArg Position.line h
    have hcount := List.count_pos_iff.mpr hfeed
    rw [List.count_append] at hline
    omega
  · intro hfeed
    simp only [placeAfter, List.count_append, List.count_eq_zero_of_not_mem hfeed, Nat.add_zero,
      lastBreak_append_of_not_mem a hfeed, List.length_append, Position.mk.injEq, true_and]
    omega

namespace ParseError

/-- **The label of a token spans it exactly if the token has no line feed before its last
character.** It begins where the token does, in any case, and stops in the same line; the last
character stands further down by the line feeds before it in the token. -/
theorem label_spans_iff (htokens : tokenize patterns source name = .ok tokens) {t : Token}
    (ht : t ∈ tokens) (kinds : Kinds) (filename : String) :
    t.text.toList = (source.toList.drop t.offset).take t.length ∧ 0 < t.length
      ∧ ∃ l message,
        (ofKinds kinds (some t.kind) (some t) filename).toDiagnostic.labels = [⟨l, message⟩]
        ∧ l.start = Text.placeAfter (source.toList.take t.offset)
        ∧ (l.Spans source.toList t.offset t.length ↔ '\n' ∉ t.text.toList.dropLast)
        ∧ l.stop.line = l.start.line
        ∧ (Text.placeAfter (source.toList.take (t.offset + t.length - 1))).line
          = l.stop.line + t.text.toList.dropLast.count '\n' := by
  obtain ⟨hcut, htext, hne⟩ := cut_of_mem_tokenize htokens ht
  obtain ⟨-, hpos⟩ := Token.offset_add_length_le hne htext
  let l : Location := locationOf filename t
  have hstart : l.start = Text.placeAfter (source.toList.take t.offset) := hcut.position
  -- the last character stands after the beginning of the source and the others of the token
  have hlength : t.text.toList.length = t.length := String.length_toList
  have hlast : source.toList.take (t.offset + t.length - 1)
      = source.toList.take t.offset ++ t.text.toList.dropLast := by
    rw [← hlength]
    refine Text.take_eq_append_dropLast ?_ ?_
    · rw [hlength]
      exact htext
    · exact List.ne_nil_of_length_pos (hlength ▸ hpos)
  have hstop : l.stop = ⟨(Text.placeAfter (source.toList.take t.offset)).line,
      (Text.placeAfter (source.toList.take t.offset)).column + t.text.toList.dropLast.length⟩ := by
    rw [← hcut.position, List.length_dropLast, hlength]
    show (⟨t.position.line, t.position.column + max 1 (t.length : Int) - 1⟩ : Position) = _
    rw [Position.mk.injEq]
    omega
  refine ⟨htext, hpos, l, _, rfl, hstart, ?_, rfl, ?_⟩
  · rw [← Text.placeAfter_append_iff (source.toList.take t.offset), ← hlast, ← hstop]
    exact ⟨fun h => h.stop.symm, fun h => ⟨hstart, h.symm⟩⟩
  · rw [hlast, hstop]
    show 1 + ((_ ++ _ : List Char).count '\n' : Int) = 1 + _ + _
    rw [List.count_append]
    omega

/-- A token that ends with a line feed is spanned, since no line feed comes before that one. -/
theorem label_spans_iff_closed :
    ∃ t : Token, tokenize accentPatterns "ab \ncd"
        = .ok [⟨0, "ab", "word", ⟨1, 1⟩, ⟨0, 2⟩, 0⟩, t, ⟨0, "cd", "word", ⟨2, 1⟩, ⟨4, 6⟩, 4⟩]
      ∧ t.text = " \n" ∧ ∃ l message,
        (ofKinds [0] (some t.kind) (some t) "in").toDiagnostic.labels = [⟨l, message⟩]
        ∧ l.Spans "ab \ncd".toList t.offset t.length := by
  let t : Token := ⟨1, " \n", "gap", ⟨1, 3⟩, ⟨2, 4⟩, 2⟩
  have htokens : tokenize accentPatterns "ab \ncd"
      = .ok [⟨0, "ab", "word", ⟨1, 1⟩, ⟨0, 2⟩, 0⟩, t, ⟨0, "cd", "word", ⟨2, 1⟩, ⟨4, 6⟩, 4⟩] := by
    decide +kernel
  obtain ⟨-, -, l, message, hlabels, -, hspans, -⟩ :=
    label_spans_iff htokens (List.mem_cons_of_mem _ List.mem_cons_self) [0] "in"
  exact ⟨t, htokens, rfl, l, message, hlabels, hspans.mpr (by decide)⟩

/-- Characters from the line feed to the last small letter, as many as follow. -/
def blockPatterns : List Pattern := [⟨"block", 0, .range '\n' 'z'⟩]

/-- A block of five characters, the last of them in the second line. -/
def blockToken : Token := ⟨0, "[a\nb]", "block", ⟨1, 1⟩, ⟨0, 5⟩, 0⟩

/-- **A label that stops short.** The block is read as one token, which stops in the second column
of the second line; its label stops in the first line. -/
theorem label_stops_short :
    tokenize blockPatterns "[a\nb]" = .ok [blockToken]
      ∧ (ofKinds [1] (some 0) (some blockToken) "in").toDiagnostic.labels
        = [⟨⟨"in", ⟨1, 1⟩, ⟨1, 5⟩⟩, "found block(0)"⟩]
      ∧ Text.placeAfter ("[a\nb]".toList.take 4) = ⟨2, 2⟩ :=
  ⟨by decide +kernel, by decide +kernel, by decide⟩

end ParseError

end ParseKit
