/-!
# UTF-8

Text as bytes and back. `encode` is total; `decode?` is strict and inverts
it; `decodeLossy` never fails, and writes one replacement character for
each longest stretch of bytes that begins a character and does not finish
it. `readText?` is how a text file is read: strictly, and with every line
end brought to a single line feed.
-/

namespace ParseKit.Text

/-- The number of bytes of the characters in UTF-8. -/
def byteLength : List Char → Nat
  | [] => 0
  | c :: rest => c.utf8Size + byteLength rest

/-- The characters in UTF-8. -/
def encode (s : List Char) : ByteArray :=
  (String.ofList s).toUTF8

/-- The text that the bytes spell in UTF-8, if they spell one. -/
def decode? (bytes : ByteArray) : Option String :=
  String.fromUTF8? bytes

/-! ## Decoding that never fails -/

/-- **A character in the making**: what the bytes read so far spell, how
many bytes are still owed, and between which bounds the next one must lie. -/
structure Pending where
  /-- The bits gathered so far. -/
  bits : Nat
  /-- The number of bytes still owed. -/
  owed : Nat
  /-- The least byte that may come next. -/
  least : Nat
  /-- The greatest byte that may come next. -/
  greatest : Nat

/-- What a byte does at the start of a character. -/
inductive Lead where
  /-- The byte is a character by itself. -/
  | whole (c : Char)
  /-- The byte begins a longer character. -/
  | opens (p : Pending)
  /-- No character begins with the byte. -/
  | stray

/-- **The lead bytes of UTF-8.** The bounds on the second byte shut out
forms that are longer than needed, surrogates, and what lies above the
last code point. -/
def Lead.ofByte (b : Nat) : Lead :=
  if b < 0x80 then .whole (Char.ofNat b)
  else if b < 0xC2 then .stray
  else if b < 0xE0 then .opens ⟨b - 0xC0, 1, 0x80, 0xBF⟩
  else if b == 0xE0 then .opens ⟨0, 2, 0xA0, 0xBF⟩
  else if b == 0xED then .opens ⟨0xD, 2, 0x80, 0x9F⟩
  else if b < 0xF0 then .opens ⟨b - 0xE0, 2, 0x80, 0xBF⟩
  else if b == 0xF0 then .opens ⟨0, 3, 0x90, 0xBF⟩
  else if b < 0xF4 then .opens ⟨b - 0xF0, 3, 0x80, 0xBF⟩
  else if b == 0xF4 then .opens ⟨4, 3, 0x80, 0x8F⟩
  else .stray

/-- The replacement character. -/
def replacement : Char := Char.ofNat 0xFFFD

/-- Decoding with at most one character in the making. -/
def decodeLossyFrom : Option Pending → List UInt8 → List Char
  | none, [] => []
  | some _, [] => [replacement]
  | pending, b :: rest =>
    let start : List Char := match Lead.ofByte b.toNat with
      | .whole c => c :: decodeLossyFrom none rest
      | .opens p => decodeLossyFrom (some p) rest
      | .stray => replacement :: decodeLossyFrom none rest
    match pending with
    | none => start
    | some p =>
      if p.least ≤ b.toNat && b.toNat ≤ p.greatest then
        let bits := p.bits * 64 + (b.toNat - 0x80)
        if p.owed == 1 then Char.ofNat bits :: decodeLossyFrom none rest
        else decodeLossyFrom (some ⟨bits, p.owed - 1, 0x80, 0xBF⟩) rest
      else replacement :: start

/-- **The text of any bytes**, with a replacement character for each
stretch that spells none. -/
def decodeLossy (bytes : ByteArray) : String :=
  String.ofList (decodeLossyFrom none bytes.toList)

/-! ## Reading files -/

/-- **Line ends brought to line feeds**: a carriage return becomes a line
feed, and with a line feed after it the two become one. -/
def unifyLineEnds : List Char → List Char
  | [] => []
  | '\r' :: '\n' :: rest => '\n' :: unifyLineEnds rest
  | '\r' :: rest => '\n' :: unifyLineEnds rest
  | c :: rest => c :: unifyLineEnds rest

/-- The text of a file of text, if its bytes spell one. -/
def readText? (bytes : ByteArray) : Option String :=
  (decode? bytes).map fun s => String.ofList (unifyLineEnds s.toList)

end ParseKit.Text
