import ScriptDeps.Text.Basic

namespace ScriptDeps.Text

/-! # UTF-8

Reading a text from bytes goes byte by byte. Between two bytes of one code point the reader keeps
what it knows of the code point and the bounds for the next byte, which leave out overlong forms,
surrogates and values above 10FFFF. A byte out of bounds is a fault of the bytes read before it.
-/

/-- Why bytes are no text. -/
inductive DecodeFault where
  | badStart
  | badContinuation
  | truncated
  | outOfRange
  /-- The bytes of a code unit are incomplete. -/
  | partialUnit
deriving DecidableEq, Repr

/-- The encodings of a text. -/
inductive Encoding where
  | utf8
  | utf16le
  | utf16be
  | utf32le
  | utf32be
deriving DecidableEq, Repr

/-- The bytes from `start` to `stop` are no text. -/
structure DecodeError where
  encoding : Encoding
  start : Nat
  stop : Nat
  /-- The value of the first byte. -/
  first : Nat
  fault : DecodeFault
deriving DecidableEq, Repr

/-- The name of an encoding. -/
def Encoding.name : Encoding → String
  | utf8 => "utf-8"
  | utf16le => "utf-16-le"
  | utf16be => "utf-16-be"
  | utf32le => "utf-32-le"
  | utf32be => "utf-32-be"

/-- A fault in words. -/
def DecodeFault.reason : DecodeFault → String
  | badStart => "invalid start byte"
  | badContinuation => "invalid continuation byte"
  | truncated => "unexpected end of data"
  | outOfRange => "code point not in range(0x110000)"
  | partialUnit => "truncated data"

/-- A message names the faulty byte, or the bounds of several of them. -/
def DecodeError.message (e : DecodeError) : Text :=
  lit "'" ++ lit e.encoding.name ++
    (if e.stop = e.start + 1 then
      lit "' codec can't decode byte 0x" ++ hex 2 e.first ++ lit " in position " ++ ofNat e.start
    else
      lit "' codec can't decode bytes in position " ++ ofNat e.start ++ lit "-" ++
        ofNat (e.stop - 1)) ++
    lit ": " ++ lit e.fault.reason

/-! ## Decoding -/

/-- A code point of which some bytes were read. -/
structure Partial where
  start : Nat
  first : Nat
  value : Nat
  /-- How many bytes are still to come. -/
  left : Nat
  /-- The least value of the next byte. -/
  low : Nat := 0x80
  /-- The greatest value of the next byte. -/
  high : Nat := 0xBF
deriving DecidableEq, Repr

/-- What a byte leads to. -/
inductive Utf8Step where
  /-- A code point is complete. -/
  | done (c : Nat)
  /-- More bytes must follow. -/
  | wait (p : Partial)
  /-- The bytes from `start` on are no code point. -/
  | fail (e : DecodeError)

/-- Reads the first byte of a code point. Where surrogates are let through, three bytes may denote
one. -/
def startStep (surrogates : Bool) (pos b : Nat) : Utf8Step :=
  if b < 0x80 then .done b
  else if b < 0xC2 then .fail ⟨.utf8, pos, pos + 1, b, .badStart⟩
  else if b < 0xE0 then .wait { start := pos, first := b, value := b - 0xC0, left := 1 }
  else if b < 0xF0 then
    .wait { start := pos, first := b, value := b - 0xE0, left := 2,
            low := if b = 0xE0 then 0xA0 else 0x80, high := if b = 0xED ∧ !surrogates then 0x9F else 0xBF }
  else if b < 0xF5 then
    .wait { start := pos, first := b, value := b - 0xF0, left := 3,
            low := if b = 0xF0 then 0x90 else 0x80, high := if b = 0xF4 then 0x8F else 0xBF }
  else .fail ⟨.utf8, pos, pos + 1, b, .badStart⟩

/-- The first bytes of a surrogate. -/
def Partial.isSurrogate (p : Partial) : Bool := p.first == 0xED && p.left == 1 && p.value ≥ 0x360

/-- The fault of a code point whose next byte, at `pos`, is not there or out of bounds. Half a
surrogate is no reason to accept its second byte. -/
def Partial.fault (p : Partial) (pos : Nat) (f : DecodeFault) : DecodeError :=
  if p.isSurrogate then ⟨.utf8, p.start, p.start + 1, p.first, .badContinuation⟩
  else ⟨.utf8, p.start, pos, p.first, f⟩

/-- Reads a later byte of a code point. -/
def Partial.step (p : Partial) (pos b : Nat) : Utf8Step :=
  if p.low ≤ b ∧ b ≤ p.high then
    let value := p.value * 0x40 + (b - 0x80)
    if p.left ≤ 1 then .done value
    else .wait { start := p.start, first := p.first, value, left := p.left - 1 }
  else .fail (p.fault pos .badContinuation)

/-- The fault of a code point whose bytes end at `pos`. -/
def Partial.truncated (p : Partial) (pos : Nat) : DecodeError := p.fault pos .truncated

/-- Reads a byte, of the code point that was begun or else of a new one. -/
def nextStep (surrogates : Bool) (p : Option Partial) (pos b : Nat) : Utf8Step :=
  match p with
  | none => startStep surrogates pos b
  | some p => p.step pos b

/-- Decodes the bytes at `pos`. -/
def decodeFrom (surrogates : Bool) : Nat → Option Partial → List Nat → Except DecodeError Text
  | _, none, [] => .ok []
  | pos, some p, [] => .error (p.truncated pos)
  | pos, p, b :: rest =>
    match nextStep surrogates p pos b with
    | .done c => (decodeFrom surrogates (pos + 1) none rest).map (c :: ·)
    | .wait p => decodeFrom surrogates (pos + 1) (some p) rest
    | .fail e => .error e

/-- The text that the bytes hold. -/
def decode (bytes : List Nat) : Except DecodeError Text := decodeFrom false 0 none bytes

/-- Decodes the bytes at `pos`; every fault becomes a replacement character, and a byte that cannot
continue a code point is read anew. -/
def decodeLossyFrom : Nat → Option Partial → List Nat → Text
  | _, none, [] => []
  | _, some _, [] => [0xFFFD]
  | pos, p, b :: rest =>
    match nextStep false p pos b with
    | .done c => c :: decodeLossyFrom (pos + 1) none rest
    | .wait p => decodeLossyFrom (pos + 1) (some p) rest
    | .fail _ =>
      match p, startStep false pos b with
      | none, _ => 0xFFFD :: decodeLossyFrom (pos + 1) none rest
      | some _, .done c => 0xFFFD :: c :: decodeLossyFrom (pos + 1) none rest
      | some _, .wait p => 0xFFFD :: decodeLossyFrom (pos + 1) (some p) rest
      | some _, .fail _ => 0xFFFD :: 0xFFFD :: decodeLossyFrom (pos + 1) none rest

/-- The text that the bytes hold, with a replacement character for every fault. -/
def decodeLossy (bytes : List Nat) : Text := decodeLossyFrom 0 none bytes

/-! ## Encoding -/

/-- The code points from `start` to `stop` cannot be encoded. -/
structure EncodeError where
  encoding : String
  start : Nat
  stop : Nat
  first : Nat
  reason : String
deriving DecidableEq, Repr

/-- A message names the code point, or the bounds of several of them. -/
def EncodeError.message (e : EncodeError) : Text :=
  let shown :=
    if e.first < 0x100 then lit "\\x" ++ hex 2 e.first
    else if e.first < 0x10000 then lit "\\u" ++ hex 4 e.first
    else lit "\\U" ++ hex 8 e.first
  lit "'" ++ lit e.encoding ++
    (if e.stop = e.start + 1 then
      lit "' codec can't encode character '" ++ shown ++ lit "' in position " ++ ofNat e.start
    else
      lit "' codec can't encode characters in position " ++ ofNat e.start ++ lit "-" ++
        ofNat (e.stop - 1)) ++
    lit ": " ++ lit e.reason

/-- The first run of code points that an encoding lacks is an error. -/
def lacking (encoding reason : String) (lacks : Nat → Bool) (t : Text) : Option EncodeError :=
  let start := (t.takeWhile fun c => !lacks c).length
  match t.drop start with
  | [] => none
  | c :: rest => some ⟨encoding, start, start + 1 + (rest.takeWhile lacks).length, c, reason⟩

/-- ASCII lacks all other code points. -/
def asciiError? (t : Text) : Option EncodeError :=
  lacking "ascii" "ordinal not in range(128)" (fun c => c ≥ 0x80) t

/-- UTF-8 lacks surrogates. -/
def utf8Error? (t : Text) : Option EncodeError :=
  lacking "utf-8" "surrogates not allowed" isSurrogate t

/-- The bytes of a code point. -/
def encodeOne (c : Nat) : List Nat :=
  if c < 0x80 then [c]
  else if c < 0x800 then [0xC0 + c / 0x40, 0x80 + c % 0x40]
  else if c < 0x10000 then [0xE0 + c / 0x1000, 0x80 + c / 0x40 % 0x40, 0x80 + c % 0x40]
  else [0xF0 + c / 0x40000, 0x80 + c / 0x1000 % 0x40, 0x80 + c / 0x40 % 0x40, 0x80 + c % 0x40]

/-- The bytes of a text without surrogates. -/
def encode (t : Text) : List Nat := t.flatMap encodeOne

/-! ## Bytes -/

/-- The values of the bytes from `start` to `stop`. -/
def bytesBetween (bytes : ByteArray) (start stop : Nat) : List Nat :=
  (bytes.extract start stop).data.toList.map UInt8.toNat

/-- Bytes with the values. -/
def toBytes (values : List Nat) : ByteArray := ⟨(values.map UInt8.ofNat).toArray⟩

example : decode [0x61, 0xC3, 0xA9] = .ok [0x61, 0xE9] := rfl
example : decode [0xED, 0xA0, 0x80] = .error ⟨.utf8, 0, 1, 0xED, .badContinuation⟩ := rfl
example : decode [0x61, 0xE2, 0x82] = .error ⟨.utf8, 1, 3, 0xE2, .truncated⟩ := rfl
example : decodeLossy [0xE2, 0x82, 0x61, 0xFF] = [0xFFFD, 0x61, 0xFFFD] := rfl

end ScriptDeps.Text
