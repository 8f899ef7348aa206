import ParseKit.Text.CharacterName
import ParseKit.Text.Identifier
import ParseKit.Decimal.Numeral
import ParseKit.Regex.Fault
import ParseKit.Regex.Flags
import ParseKit.Regex.Syntax

/-!
# Reading a pattern

A pattern is read as a sequence of **symbols**: a character by itself, or a
backslash with the character after it. `Scan` is where the reading stands:
the symbols that are left, the position of the first of them, and what has
been learnt about flags and groups. A backslash that ends the pattern is
refused as soon as it is the next symbol, before anything is made of what
stands before it.

A sequence is first read into **pieces**, which say what is written and
not yet what it means under the flags. Alternatives that begin with the
same pieces share them, and alternatives of one unit each are one set.

`compile` reads a whole pattern and gives the `Regex` that it denotes, or
the first fault in the order in which faults are looked for: malformed
text, clashing flags, a parenthesis too many, a reference to a group that
never comes, a look-behind of varying width, and one that reaches too far.
-/

namespace ParseKit.Regex

open ParseKit.Text

/-- What a pattern is matched against. -/
inductive Alphabet where
  /-- The characters of a text. -/
  | text
  /-- Bytes. -/
  | bytes
  deriving DecidableEq, Repr, Inhabited

/-- **A symbol of a pattern.** -/
inductive Symbol where
  /-- A character by itself. -/
  | plain (c : Char)
  /-- A backslash and a character. -/
  | escaped (c : Char)
  /-- A backslash that ends the pattern. -/
  | dangling
  deriving DecidableEq, Repr, Inhabited

namespace Symbol

/-- How a symbol is spelled. -/
def text : Symbol → List Char
  | .plain c => [c]
  | .escaped c => ['\\', c]
  | .dangling => ['\\']

/-- The symbols of a pattern. -/
def ofChars : List Char → List Symbol
  | [] => []
  | ['\\'] => [.dangling]
  | '\\' :: c :: rest => .escaped c :: ofChars rest
  | c :: rest => .plain c :: ofChars rest

end Symbol

/-- **Where the reading of a pattern stands.** -/
structure Scan where
  /-- The symbols that are left. -/
  rest : List Symbol
  /-- The position of the first symbol that is left. -/
  pos : Nat
  /-- The flags of the whole pattern. -/
  flags : Flags
  /-- The named groups, with their numbers. -/
  names : List (List Char × Nat)
  /-- The width of each group that is closed, in the order of numbers. -/
  widths : Array (Option Width)
  /-- Within a look-behind, the number of groups before it, counting the
  whole pattern as one. -/
  lookBehindGroups : Option Nat
  /-- The groups that conditionals refer to by number, with the place of
  the first reference to each. -/
  references : List (Nat × Nat)
  deriving Inhabited

/-- Reading part of a pattern. -/
abbrev Read := StateT Scan (Except Fault)

namespace Read

/-- The next symbol, which stays. -/
def peek : Read (Option Symbol) := return (← get).rest.head?

/-- The position of the next symbol. -/
def position : Read Nat := return (← get).pos

/-- Refuses the pattern at a position. -/
def failAt (pos : Nat) (c : Complaint) : Read α := throw (.malformed c (some pos))

/-- Refuses the pattern a number of characters before the next symbol. -/
def fail (c : Complaint) (back : Nat := 0) : Read α := do
  failAt ((← position) - back) c

/-- Takes the next symbol. -/
def next : Read (Option Symbol) := do
  let s ← get
  match s.rest with
  | [] => return none
  | sym :: rest =>
    let pos := s.pos + sym.text.length
    if rest.head? == some .dangling then failAt pos .danglingEscape
    set { s with rest := rest, pos := pos }
    return some sym

/-- Takes the next symbol if it is the given character. -/
def accept (c : Char) : Read Bool := do
  if (← peek) == some (.plain c) then
    let _ ← next
    return true
  else return false

/-- Takes at most `n` characters as long as they pass a test. -/
def takeWhile (p : Char → Bool) : Nat → Read (List Char)
  | 0 => return []
  | n + 1 => do
    match ← peek with
    | some (.plain c) =>
      if p c then
        let _ ← next
        return c :: (← takeWhile p n)
      else return []
    | _ => return []

/-- What is read of a name before its closing character; `fuel` bounds the
number of symbols. -/
def nameBefore (closer : Char) (what : String) : Nat → List Char → Read (List Char)
  | 0, _ => fail .endOfPattern
  | fuel + 1, name => do
    match ← next with
    | none =>
      if name.isEmpty then fail (.missingName what)
      else fail (.unterminatedName closer) name.length
    | some sym =>
      if sym == .plain closer then
        if name.isEmpty then fail (.missingName what) 1 else return name
      else nameBefore closer what fuel (name ++ sym.text)

/-- A name up to its closing character, which is taken too. -/
def name (closer : Char) (what : String) : Read (List Char) := do
  nameBefore closer what ((← get).rest.length + 1) []

/-- Refuses a group name that is no identifier. -/
def checkName (n : List Char) (back : Nat) : Read PUnit :=
  if isIdentifier n then return () else fail (.badGroupName n) (n.length + back)

/-- The width of a group that is closed. -/
def closedWidth? (n : Nat) : Read (Option Width) :=
  return ((← get).widths[n]?).join

/-- Refuses a reference from within a look-behind to a group that is open
or that the look-behind itself defines. -/
def checkLookBehind (n : Nat) : Read PUnit := do
  match (← get).lookBehindGroups with
  | none => return ()
  | some before =>
    if (← closedWidth? n).isNone then fail .openGroup
    if before ≤ n then fail .groupOfLookBehind

end Read

/-! ## Escapes -/

/-- Whether a character is an octal digit. -/
def isOctal (c : Char) : Bool := '0' ≤ c && c ≤ '7'

/-- Whether a character is a decimal digit of ASCII. -/
def isDigit (c : Char) : Bool := '0' ≤ c && c ≤ '9'

/-- The value of a hexadecimal digit. -/
def hexValue? (c : Char) : Option Nat :=
  if isDigit c then some (c.toNat - 48)
  else if 'a' ≤ c && c ≤ 'f' then some (c.toNat - 87)
  else if 'A' ≤ c && c ≤ 'F' then some (c.toNat - 55)
  else none

/-- Whether a character is a hexadecimal digit. -/
def isHex (c : Char) : Bool := (hexValue? c).isSome

/-- The number that digits spell in a base. -/
def ofDigits (base : Nat) (ds : List Char) : Nat :=
  ds.foldl (fun n c => n * base + (hexValue? c).getD 0) 0

/-- The control characters with a letter of their own, and the backslash. -/
def simpleEscape? : Char → Option Nat
  | 'a' => some 7
  | 'b' => some 8
  | 'f' => some 12
  | 'n' => some 10
  | 'r' => some 13
  | 't' => some 9
  | 'v' => some 11
  | '\\' => some 92
  | _ => none

/-- The categories with a letter of their own. -/
def categoryEscape? : Char → Option SetItem
  | 'd' => some (.category .digit false)
  | 'D' => some (.category .digit true)
  | 's' => some (.category .space false)
  | 'S' => some (.category .space true)
  | 'w' => some (.category .word false)
  | 'W' => some (.category .word true)
  | _ => none

namespace Read

/-- An escape of exactly `width` hexadecimal digits. -/
def hexEscape (letter : Char) (width : Nat) : Read Nat := do
  let ds ← takeWhile isHex width
  let text := '\\' :: letter :: ds
  if ds.length != width then fail (.incompleteEscape text) text.length
  let n := ofDigits 16 ds
  if 0x10FFFF < n then fail (.badEscape text) text.length
  return n

/-- A character by its name in braces. -/
def namedCharacter : Read Nat := do
  if !(← accept '\x7b') then fail .missingBrace
  let n ← name '\x7d' "character name"
  match characterNamed? n with
  | some c => return c
  | none => fail (.unknownCharacter n) (n.length + 4)

/-- An escape that means a unit both inside and outside of sets, if the
letter begins one. -/
def sharedEscape? (alphabet : Alphabet) (c : Char) : Read (Option Nat) := do
  match c, alphabet with
  | 'x', _ => some <$> hexEscape c 2
  | 'u', .text => some <$> hexEscape c 4
  | 'U', .text => some <$> hexEscape c 8
  | 'N', .text => some <$> namedCharacter
  | _, _ => return none

/-- An escape that stands for the character after the backslash. -/
def identityEscape (c : Char) : Read Nat :=
  if isAsciiLetter c.toNat || isDigit c then fail (.badEscape ['\\', c]) 2
  else return c.toNat

/-- An octal escape that begins with the given digit, three digits at most. -/
def octalEscape (c : Char) : Read Nat := do
  let ds := c :: (← takeWhile isOctal 2)
  let n := ofDigits 8 ds
  if 255 < n then fail (.wideOctal ('\\' :: ds)) (ds.length + 1)
  return n

/-- What an escape means inside a set. -/
def setEscape (alphabet : Alphabet) (c : Char) : Read SetItem := do
  if let some n := simpleEscape? c then return .one n
  if let some item := categoryEscape? c then return item
  if let some n ← sharedEscape? alphabet c then return .one n
  if isOctal c then return .one (← octalEscape c)
  return .one (← identityEscape c)

end Read

/-! ## Units under flags -/

/-- Which characters are letters under the flags. -/
def Flags.table (f : Flags) (alphabet : Alphabet) : CharTable :=
  match alphabet with
  | .text => if f.ascii then .ascii else .unicode
  | .bytes => .ascii

/-- How far case matters under the flags. -/
def Flags.caseRule (f : Flags) (alphabet : Alphabet) : CaseRule :=
  if !f.ignoreCase then .exact
  else if f.locale then .eitherForm
  else match f.table alphabet with
    | .ascii => .ascii
    | .unicode => .unicode

/-- One given unit as a pattern. Where it has no other form, case does not
matter to it. -/
def ofUnit (f : Flags) (alphabet : Alphabet) (c : Nat) (negated : Bool) : Regex :=
  let rule := f.caseRule alphabet
  .unit (.one c negated (if rule.varies c then rule else .exact))

/-- A set as a pattern. Where no member has another form, case does not
matter to it. -/
def ofSet (f : Flags) (alphabet : Alphabet) (items : List SetItem) (negated : Bool) : Regex :=
  let rule := f.caseRule alphabet
  let varies := rule == .eitherForm || items.any (SetItem.varies rule)
  .unit (.set items negated (if varies then rule else .exact) (f.table alphabet))

/-! ## Pieces -/

/-- **A piece of a sequence**: what is written, as far as flags have not
been made use of. -/
inductive Piece where
  /-- A position, with the sign that stands for it. -/
  | anchor (sign : Char) (a : Anchor)
  /-- One given unit, or all but that. -/
  | one (c : Nat) (negated : Bool)
  /-- The units of a set, or all but those. -/
  | set (items : List SetItem) (negated : Bool)
  /-- A dot. -/
  | any
  /-- A reference to a group, with the width of the group. -/
  | backref (n : Nat) (width : Width)
  /-- A repetition. -/
  | rep (r : Regex)
  /-- Anything else. -/
  | other (r : Regex)
  deriving DecidableEq, Inhabited

namespace Piece

/-- A set as a piece; a set of one unit is that unit. -/
def ofItems (items : List SetItem) (negated : Bool) : Piece :=
  match items with
  | [.one c] => .one c negated
  | items => .set items negated

/-- What a piece means under the flags. -/
def regex (f : Flags) (alphabet : Alphabet) : Piece → Regex
  | .anchor _ a => .anchor a
  | .one c negated => ofUnit f alphabet c negated
  | .set items negated => ofSet f alphabet items negated
  | .any => .unit (.any f.dotAll)
  | .backref n w => .backref n (f.caseRule alphabet) w
  | .rep r | .other r => r

/-- Whether a piece can be told to be the same as another. -/
def isComparable : Piece → Bool
  | .rep _ | .other _ => false
  | _ => true

/-- The members of the set that a row of pieces is, if it is one. -/
def setItems? : List Piece → Option (List SetItem)
  | [.one c false] => some [.one c]
  | [.set items false] => some items
  | _ => none

/-- **The common beginning of alternatives**, of which the first is given by
itself, and what is left of the first and of the others. -/
def sharedStart : List Piece → List (List Piece) → List Piece × List Piece × List (List Piece)
  | [], others => ([], [], others)
  | p :: first, others =>
    if p.isComparable && others.all (fun o => o.head? == some p) then
      let (shared, first, others) := sharedStart first (others.map List.tail)
      (p :: shared, first, others)
    else ([], p :: first, others)

end Piece

/-- What pieces in a row mean under the flags. -/
def ofPieces (f : Flags) (alphabet : Alphabet) (pieces : List Piece) : Regex :=
  ofList (pieces.map (Piece.regex f alphabet))

/-- **Alternatives as pieces in a row**: what they share, and then a set or
a choice. -/
def joined (f : Flags) (alphabet : Alphabet) : List (List Piece) → List Piece
  | [] => []
  | [only] => only
  | first :: others =>
    let (shared, first, others) := Piece.sharedStart first others
    let choice := match (first :: others).mapM Piece.setItems? with
      | some sets => .set sets.flatten.eraseDups false
      | none => .other (anyOf ((first :: others).map (ofPieces f alphabet)))
    shared ++ [choice]

/-- **An item of a sequence**: what a repetition sign after it would apply
to. -/
inductive Item where
  /-- A piece. -/
  | piece (p : Piece)
  /-- A group without a number or flags, which is its pieces. -/
  | inline (ps : List Piece)
  deriving Inhabited

/-- The pieces of an item. -/
def Item.pieces : Item → List Piece
  | .piece p => [p]
  | .inline ps => ps

namespace Read

/-- A reference to a group by number, from the digits that follow a
backslash; three octal digits are a unit instead. -/
def groupEscape (c : Char) : Read Piece := do
  let mut ds := [c]
  if let some (.plain d) ← peek then
    if isDigit d then
      let _ ← next
      ds := [c, d]
      if let some (.plain e) ← peek then
        if isOctal c && isOctal d && isOctal e then
          let _ ← next
          let n := ofDigits 8 [c, d, e]
          if 255 < n then fail (.wideOctal ['\\', c, d, e]) 4
          return .one n false
  let n := ofDigits 10 ds
  if n < (← get).widths.size then
    match ← closedWidth? n with
    | none => fail .openGroup (ds.length + 1)
    | some w =>
      checkLookBehind n
      return .backref n w
  else fail (.unknownGroupNumber n) ds.length

/-- What an escape means outside of sets. -/
def escape (alphabet : Alphabet) (scope : Flags) (c : Char) : Read Piece := do
  match c with
  | 'A' => return .anchor c .start
  | 'Z' => return .anchor c .stop
  | 'b' => return .anchor c (.boundary (scope.table alphabet))
  | 'B' => return .anchor c (.inside (scope.table alphabet))
  | _ =>
    if let some item := categoryEscape? c then return .set [item] false
    if let some n := simpleEscape? c then return .one n false
    if let some n ← sharedEscape? alphabet c then return .one n false
    if c == '0' then return .one (← octalEscape c) false
    if isDigit c then groupEscape c
    else return .one (← identityEscape c) false

/-! ## Sets -/

/-- The members of a set up to its closing bracket. `start` is the place of
the opening one, and `items` are the members so far, the last one first. -/
def setItems (alphabet : Alphabet) (start : Nat) : Nat → List SetItem → Read (List SetItem)
  | 0, _ => failAt start .unterminatedSet
  | fuel + 1, items => do
    let some this ← next | failAt start .unterminatedSet
    if this == .plain ']' && !items.isEmpty then return items.reverse
    let low ← item this
    if ← accept '-' then
      let some that ← next | failAt start .unterminatedSet
      if that == .plain ']' then return (.one 45 :: low :: items).reverse
      let high ← item that
      let refuse : Read (List SetItem) :=
        fail (.badRange this.text that.text) (this.text.length + 1 + that.text.length)
      match low, high with
      | .one a, .one b =>
        if b < a then refuse
        else setItems alphabet start fuel (.range a b :: items)
      | _, _ => refuse
    else setItems alphabet start fuel (low :: items)
where
  /-- A symbol as a member of the set. -/
  item : Symbol → Read SetItem
    | .plain c => return .one c.toNat
    | .escaped c => setEscape alphabet c
    | .dangling => return .one 92

/-- A set whose opening bracket, at `start`, has been taken. -/
def set (alphabet : Alphabet) (start : Nat) : Read Piece := do
  let negated ← accept '^'
  let items ← setItems alphabet start ((← get).rest.length + 1) []
  return .ofItems items.eraseDups negated

/-! ## Repetitions -/

/-- The least count that is beyond the limit. -/
def countLimit : Nat := 4294967295

/-- A count, if one is given. -/
def count? (ds : List Char) : Read (Option Nat) :=
  if ds.isEmpty then return none
  else do
    if Numeral.digitLimit < ds.length then throw (.refused .countTooLong)
    let n := ofDigits 10 ds
    if countLimit ≤ n then throw (.refused .countTooLarge) else return some n

/-- The bounds in braces whose opening one has been taken, if the braces
hold bounds; otherwise nothing more is taken. -/
def bounds? : Read (Option (Nat × Option Nat)) := do
  let before ← get
  let limit := before.rest.length
  if (← peek) == some (.plain '\x7d') then return none
  let low ← takeWhile isDigit limit
  let comma ← accept ','
  let high ← if comma then takeWhile isDigit limit else pure low
  if !(← accept '\x7d') then
    MonadStateOf.set before
    return none
  let least ← count? low
  let most ← count? high
  match most with
  | some m => if m < least.getD 0 then failAt before.pos .minAboveMax
  | none => pure ()
  return some (least.getD 0, most)

/-- The bounds that a repetition sign gives. -/
def repetition? (c : Char) : Read (Option (Nat × Option Nat)) :=
  match c with
  | '?' => return some (0, some 1)
  | '*' => return some (0, none)
  | '+' => return some (1, none)
  | _ => bounds?

/-- How a repetition chooses its rounds, by the sign after it. -/
def greed : Read Greed := do
  if ← accept '?' then return .lazy
  if ← accept '+' then return .possessive
  return .greedy

/-! ## Groups -/

/-- A comment up to its parenthesis. -/
def comment (start : Nat) : Nat → Read PUnit
  | 0 => failAt start .unterminatedComment
  | fuel + 1 => do
    if (← peek).isNone then failAt start .unterminatedComment
    if (← next) == some (.plain ')') then return () else comment start fuel

/-- A comment up to the end of its line. -/
def lineComment : Nat → Read PUnit
  | 0 => return ()
  | fuel + 1 => do
    match ← next with
    | none | some (.plain '\n') => return ()
    | _ => lineComment fuel

/-- Opens a group, which gets the next number. -/
def openGroup (n : Option (List Char)) : Read Nat := do
  let s ← get
  let number := s.widths.size
  match n with
  | none => pure ()
  | some name =>
    match s.names.lookup name with
    | some first => fail (.redefined name number first) (name.length + 1)
    | none => pure ()
  MonadStateOf.set { s with
    widths := s.widths.push none
    names := match n with
      | some name => (name, number) :: s.names
      | none => s.names }
  return number

/-- Closes a group. -/
def closeGroup (n : Nat) (w : Width) : Read PUnit :=
  modify fun s => { s with widths := s.widths.set! n (some w) }

/-- Takes the parenthesis that closes the group opened at `start`. -/
def close (start : Nat) : Read PUnit := do
  if !(← accept ')') then failAt start .missingParen

/-- What a list of flags says: flags for the whole pattern, or flags to
turn on and off in a part. -/
inductive FlagList where
  /-- Flags for the whole pattern. -/
  | whole
  /-- Flags of a part. -/
  | part (on off : Flags)

/-- The complaint about a symbol in a list of flags that is no flag. -/
def unknownFlag (sym : Symbol) (otherwise : Complaint) : Complaint :=
  match sym with
  | .plain c => if isLetter c.toNat then .unknownFlag else otherwise
  | _ => otherwise

/-- The flag of a symbol. -/
def flagOf? : Symbol → Option (Char × Flags)
  | .plain c => (Flags.ofLetter? c).map fun f => (c, f)
  | _ => none

/-- The flags to turn on, the first of them given, with the symbol that
ends them. -/
def flagsOn (alphabet : Alphabet) : Nat → Char → Flags → Flags → Read (Symbol × Flags)
  | 0, _, _, _ => fail .endOfPattern
  | fuel + 1, letter, flag, on => do
    if alphabet == .text && letter == 'L' then fail .localeInText
    if alphabet == .bytes && letter == 'u' then fail .unicodeInBytes
    let on := on.union flag
    if flag.hasType && on.inter Flags.types != flag then fail .clashingTypes
    let some sym ← next | fail .unclosedFlags
    if sym == .plain ')' || sym == .plain '-' || sym == .plain ':' then return (sym, on)
    match flagOf? sym with
    | some (c, f) => flagsOn alphabet fuel c f on
    | none => fail (unknownFlag sym .unclosedFlags) sym.text.length

/-- The flags to turn off, the first of them given, up to the colon. -/
def flagsOff : Nat → Flags → Flags → Read Flags
  | 0, _, _ => fail .endOfPattern
  | fuel + 1, flag, off => do
    if flag.hasType then fail .typeTurnedOff
    let off := off.union flag
    let some sym ← next | fail .missingColon
    if sym == .plain ':' then return off
    match flagOf? sym with
    | some (_, f) => flagsOff fuel f off
    | none => fail (unknownFlag sym .missingColon) sym.text.length

/-- A list of flags whose first symbol has been taken. -/
def flagList (alphabet : Alphabet) (first : Symbol) : Read FlagList := do
  let fuel := (← get).rest.length + 1
  let (sym, on) ← match flagOf? first with
    | some (c, f) => flagsOn alphabet fuel c f .none
    | none => pure (first, .none)
  if sym == .plain ')' then
    modify fun s => { s with flags := s.flags.union on }
    return .whole
  if on.template then fail .globalTurnedOn 1
  let off ← if sym == .plain '-' then do
      let some sym ← next | fail .missingFlag
      match flagOf? sym with
      | some (_, f) => flagsOff fuel f .none
      | none => fail (unknownFlag sym .missingFlag) sym.text.length
    else pure .none
  if off.template then fail .globalTurnedOff 1
  if on.inter off != .none then fail .turnedOnAndOff 1
  return .part on off

/-- The group that a conditional asks about, by name or by number. -/
def condition : Read Nat := do
  let n ← name ')' "group name"
  let number ← if isIdentifier n then
      match (← get).names.lookup n with
      | some number => pure number
      | none => fail (.unknownGroup n) (n.length + 1)
    else
      match Numeral.readInt? (String.ofList n) with
      | some (.ofNat number) =>
        if number == 0 then fail .groupZero (n.length + 1)
        if 1073741823 ≤ number then fail (.unknownGroupNumber number) (n.length + 1)
        let pos ← position
        modify fun s =>
          if s.references.any (fun r => r.1 == number) then s
          else { s with references := s.references ++ [(number, pos - n.length - 1)] }
        pure number
      | _ => fail (.badGroupName n) (n.length + 1)
  checkLookBehind number
  return number

/-- A reference to a group by name. -/
def namedReference : Read Piece := do
  let n ← name ')' "group name"
  checkName n 1
  match (← get).names.lookup n with
  | none => fail (.unknownGroup n) (n.length + 1)
  | some number =>
    match ← closedWidth? number with
    | none => fail .openGroup (n.length + 1)
    | some w =>
      checkLookBehind number
      return .backref number w

end Read

/-! ## Sequences and alternatives -/

/-- Characters that mean something other than themselves. -/
def isSpecial (c : Char) : Bool := ".\\[\x7b()*+?^$|".toList.contains c

/-- Characters that begin a repetition sign. -/
def isRepeat (c : Char) : Bool := "*+?\x7b".toList.contains c

/-- Blanks that do not count under the verbose flag. -/
def isIgnored (c : Char) : Bool := isAsciiSpace c.toNat

/-- What follows a group's opening parenthesis, as far as it is decided
before the body. -/
inductive Opening where
  /-- The group is finished, perhaps with a piece of its own. -/
  | done (p : Option Piece)
  /-- The flags of the whole pattern have changed. -/
  | flagsChanged
  /-- The body of a group with a number follows. -/
  | numbered (n : Nat)
  /-- A body without a number or flags follows. -/
  | plain
  /-- A body under flags of its own follows. -/
  | flagged (scope : Flags)
  /-- A body that is matched in the first way only follows. -/
  | atomic
  /-- A look-around follows, behind or ahead. -/
  | look (behind negated : Bool)
  /-- The branches of a conditional follow. -/
  | branches (n : Nat)

namespace Read

/-- Reads what follows a group's opening parenthesis at `start` up to its
body. Flags for the whole pattern are in order only if `first` holds. -/
def opening (alphabet : Alphabet) (scope : Flags) (first : Bool) (start : Nat) : Read Opening := do
  if !(← accept '?') then return .numbered (← openGroup none)
  let fuel := (← get).rest.length + 1
  let some sym ← next | fail .endOfPattern
  match sym with
  | .plain 'P' =>
    if ← accept '<' then
      let n ← name '>' "group name"
      checkName n 1
      return .numbered (← openGroup (some n))
    if ← accept '=' then return .done (some (← namedReference))
    let some sym ← next | fail .endOfPattern
    fail (.unknownExtension ('P' :: sym.text)) (sym.text.length + 2)
  | .plain ':' => return .plain
  | .plain '#' =>
    comment start fuel
    return .done none
  | .plain '=' => return .look false false
  | .plain '!' => return .look false true
  | .plain '<' =>
    let some sym ← next | fail .endOfPattern
    match sym with
    | .plain '=' => return .look true false
    | .plain '!' => return .look true true
    | _ => fail (.unknownExtension ('<' :: sym.text)) (sym.text.length + 2)
  | .plain '(' => return .branches (← condition)
  | .plain '>' => return .atomic
  | _ =>
    if (flagOf? sym).isSome || sym == .plain '-' then
      match ← flagList alphabet sym with
      | .whole =>
        if !first then failAt start .lateFlags
        return .flagsChanged
      | .part on off => return .flagged (scope.combine on off)
    else fail (.unknownExtension sym.text) (sym.text.length + 1)

mutual

/-- Alternatives up to a closing parenthesis or the end. At the outermost
level the flags of the whole pattern hold, which the first alternative may
still change. -/
def alternatives (alphabet : Alphabet) :
    (fuel : Nat) → (scope : Flags) → (outermost first : Bool) → Read (List (List Piece))
  | 0, _, _, _ => fail .endOfPattern
  | fuel + 1, scope, outermost, first => do
    let pieces ← sequence alphabet fuel scope (outermost && first) []
    if ← accept '|' then
      let s ← get
      let scope := if outermost then s.flags else scope
      return pieces :: (← alternatives alphabet fuel scope outermost false)
    else return [pieces]

/-- A sequence of items, the last one first, up to a bar, a closing
parenthesis or the end. -/
def sequence (alphabet : Alphabet) :
    (fuel : Nat) → (scope : Flags) → (first : Bool) → List Item → Read (List Piece)
  | 0, _, _, _ => fail .endOfPattern
  | fuel + 1, scope, first, items => do
    let continueWith (p : Piece) : Read (List Piece) :=
      sequence alphabet fuel scope first (.piece p :: items)
    match ← peek with
    | none | some (.plain '|') | some (.plain ')') =>
      return items.reverse.flatMap Item.pieces
    | some .dangling => fail .danglingEscape
    | some (.escaped c) =>
      let _ ← next
      continueWith (← escape alphabet scope c)
    | some (.plain c) =>
      let start ← position
      let _ ← next
      if scope.verbose && isIgnored c then sequence alphabet fuel scope first items
      else if scope.verbose && c == '#' then
        lineComment ((← get).rest.length + 1)
        sequence alphabet fuel scope first items
      else if !isSpecial c then continueWith (.one c.toNat false)
      else if c == '[' then continueWith (← set alphabet start)
      else if c == '.' then continueWith .any
      else if c == '^' then
        continueWith (.anchor c (if scope.multiline then .lineStart else .start))
      else if c == '$' then
        continueWith (.anchor c (if scope.multiline then .lineStop else .lastStop))
      else if isRepeat c then
        match ← repetition? c with
        | none => continueWith (.one c.toNat false)
        | some (least, most) =>
          match items with
          | [] | .piece (.anchor ..) :: _ => failAt start .nothingToRepeat
          | .piece (.rep _) :: _ => failAt start .multipleRepeat
          | item :: before =>
            let r := .rep (← greed) least most (ofPieces scope alphabet item.pieces)
            sequence alphabet fuel scope first (.piece (.rep r) :: before)
      else
        let body (inner : Flags) : Read (List Piece) := do
          let pieces := joined inner alphabet (← alternatives alphabet fuel inner false false)
          close start
          return pieces
        match ← opening alphabet scope (first && items.isEmpty) start with
        | .done none => sequence alphabet fuel scope first items
        | .done (some p) => continueWith p
        | .flagsChanged => sequence alphabet fuel (← get).flags first items
        | .numbered n =>
          let r := ofPieces scope alphabet (← body scope)
          closeGroup n r.width
          continueWith (.other (.group n r))
        | .plain => sequence alphabet fuel scope first (.inline (← body scope) :: items)
        | .flagged inner => continueWith (.other (ofPieces inner alphabet (← body inner)))
        | .atomic => continueWith (.other (.atomic (ofPieces scope alphabet (← body scope))))
        | .look behind negated =>
          let outer := (← get).lookBehindGroups
          if behind && outer.isNone then
            modify fun s => { s with lookBehindGroups := some s.widths.size }
          let branches ← alternatives alphabet fuel scope false false
          let r := ofPieces scope alphabet (joined scope alphabet branches)
          if behind && outer.isNone then
            modify fun s => { s with lookBehindGroups := none }
          close start
          continueWith (.other (.look (if behind then some r.width else none) negated r))
        | .branches n =>
          let yes ← sequence alphabet fuel scope false []
          let no ← if ← accept '|' then do
              let no ← sequence alphabet fuel scope false []
              if (← peek) == some (.plain '|') then fail .manyBranches
              pure no
            else pure []
          close start
          continueWith
            (.other (.cond n (ofPieces scope alphabet yes) (ofPieces scope alphabet no)))

end

end Read

/-! ## Whole patterns -/

/-- The clash among the flags of a pattern, if there is one. -/
def Flags.clash? (f : Flags) : Alphabet → Option FlagClash
  | .text =>
    if f.locale then some .localeOnText
    else if f.ascii && f.unicode then some .asciiAndUnicode
    else Option.none
  | .bytes =>
    if f.unicode then some .unicodeOnBytes
    else if f.locale && f.ascii then some .asciiAndLocale
    else Option.none

/-- The name of a way to repeat, as the template flag's refusal gives it. -/
def Greed.name : Greed → String
  | .greedy => "MAX_REPEAT"
  | .lazy => "MIN_REPEAT"
  | .possessive => "POSSESSIVE_REPEAT"

/-- **The first part of a pattern that cannot be matched**: a look-behind
without a fixed width, or a repetition under the template flag. -/
def unmatchable? (template : Bool) : Regex → Option Complaint
  | .seq a b | .alt a b | .cond _ a b =>
    (unmatchable? template a).or (unmatchable? template b)
  | .group _ r | .atomic r => unmatchable? template r
  | .rep g _ _ r =>
    if template then some (.templateRepeat g.name) else unmatchable? template r
  | .look behind _ r =>
    if behind.all Width.isFixed then unmatchable? template r else some .varyingLookBehind
  | _ => none

/-- The least distance that is too far to look behind. -/
def behindLimit : Nat := 2147483648

/-- Whether a pattern looks too far behind somewhere. -/
def looksTooFar : Regex → Bool
  | .seq a b | .alt a b | .cond _ a b => a.looksTooFar || b.looksTooFar
  | .group _ r | .atomic r | .rep _ _ _ r => r.looksTooFar
  | .look behind _ r => behind.any (behindLimit ≤ ·.least) || r.looksTooFar
  | _ => false

/-- Reads a whole pattern whose scan is at its start. -/
def Read.whole (alphabet : Alphabet) : Read Regex := do
  let s ← get
  if s.rest.head? == some .dangling then fail .danglingEscape
  let branches ← alternatives alphabet (4 * s.rest.length + 4) s.flags true true
  let s ← get
  let r := ofPieces s.flags alphabet (joined s.flags alphabet branches)
  if let some c := s.flags.clash? alphabet then throw (.refused (.clash c))
  if !s.rest.isEmpty then fail .unbalanced
  if let some (n, pos) := s.references.find? (fun r => s.widths.size ≤ r.1) then
    failAt pos (.unknownGroupNumber n)
  if let some c := unmatchable? s.flags.template r then throw (.malformed c none)
  if r.looksTooFar then throw (.refused .lookBehindTooLong)
  return r

/-- The scan at the start of a pattern. -/
def Scan.start (pattern : List Char) (flags : Flags) : Scan where
  rest := Symbol.ofChars pattern
  pos := 0
  flags := flags
  names := []
  widths := #[some .none]
  lookBehindGroups := none
  references := []

/-- **Reading a pattern**, whose characters are given; those of a byte
pattern are its bytes. -/
def compile (alphabet : Alphabet) (flags : Flags) (pattern : List Char) : Except Fault Regex :=
  (Read.whole alphabet).run' (Scan.start pattern flags)

end ParseKit.Regex
