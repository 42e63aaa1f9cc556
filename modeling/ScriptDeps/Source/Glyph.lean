namespace ScriptDeps.Source

/-! # Glyphs: what a reader of source bytes sees at an offset

A source is a sequence of bytes that is usually, but not always, UTF-8. At every offset the reader
sees a code point, a byte that belongs to no well-formed sequence, or the end of the source.
-/

/-- What stands at one offset of a source. -/
inductive Glyph where
  /-- A code point. -/
  | code (value : Nat)
  /-- A byte that starts no well-formed UTF-8 sequence. -/
  | undecodable
  /-- Nothing is left. -/
  | stop
deriving DecidableEq, Repr, Inhabited

namespace Glyph

/-- The glyph is this ASCII character. -/
def is (g : Glyph) (c : Char) : Bool :=
  match g with
  | code v => v == c.toNat
  | _ => false

/-- The source ends here, or a NUL stands here: both end every scan. -/
def isEnd : Glyph → Bool
  | code v => v == 0
  | undecodable => false
  | stop => true

/-- A line feed, a line separator or a paragraph separator. -/
def isLineBreak : Glyph → Bool
  | code v => v == 0x0A || v == 0x2028 || v == 0x2029
  | _ => false

/-- White space without the no-break spaces. -/
def isSpace : Glyph → Bool
  | code v =>
    (0x09 ≤ v && v ≤ 0x0D) || v == 0x20 || v == 0x1680 || (0x2000 ≤ v && v ≤ 0x2006) ||
      (0x2008 ≤ v && v ≤ 0x200A) || v == 0x2028 || v == 0x2029 || v == 0x205F || v == 0x3000
  | _ => false

/-- An ASCII decimal digit. -/
def isDigit : Glyph → Bool
  | code v => 0x30 ≤ v && v ≤ 0x39
  | _ => false

end Glyph

/-! ## Decoding -/

/-- The byte at `i`, or `none` past the end. -/
def byteAt (bytes : ByteArray) (i : Nat) : Option Nat :=
  bytes[i]?.map UInt8.toNat

/-- The low six bits of the continuation byte at `i`, if there is one. -/
def continuation (bytes : ByteArray) (i : Nat) : Option Nat :=
  match byteAt bytes i with
  | some b => if 0x80 ≤ b ∧ b < 0xC0 then some (b - 0x80) else none
  | none => none

/-- The code point of the well-formed sequence of two or more bytes that starts at `i` with the
byte `b`, and its length. Overlong forms, surrogates and values above 10FFFF are not well-formed. -/
def longSequence (bytes : ByteArray) (i b : Nat) : Option (Nat × Nat) :=
  if b < 0xC2 then none
  else if b < 0xE0 then do
    let c ← continuation bytes (i + 1)
    return ((b - 0xC0) * 0x40 + c, 2)
  else if b < 0xF0 then do
    let c ← continuation bytes (i + 1)
    let d ← continuation bytes (i + 2)
    let v := ((b - 0xE0) * 0x40 + c) * 0x40 + d
    if v < 0x800 ∨ (0xD800 ≤ v ∧ v ≤ 0xDFFF) then none else some (v, 3)
  else if b < 0xF5 then do
    let c ← continuation bytes (i + 1)
    let d ← continuation bytes (i + 2)
    let e ← continuation bytes (i + 3)
    let v := (((b - 0xF0) * 0x40 + c) * 0x40 + d) * 0x40 + e
    if v < 0x10000 ∨ 0x10FFFF < v then none else some (v, 4)
  else none

/-- The glyph at offset `i` and the number of bytes it takes. -/
def glyphAt (bytes : ByteArray) (i : Nat) : Glyph × Nat :=
  match byteAt bytes i with
  | none => (.stop, 0)
  | some b =>
    if b < 0x80 then (.code b, 1)
    else match longSequence bytes i b with
      | some (v, n) => (.code v, n)
      | none => (.undecodable, 1)

/-! ## Positions -/

/-- A place in a source: its byte offset and the number of line feeds before it. -/
structure Position where
  offset : Nat := 0
  row : Nat := 0
deriving DecidableEq, Repr, Inhabited

end ScriptDeps.Source
