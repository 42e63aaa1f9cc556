import ScriptDeps.Text.Utf8

namespace ScriptDeps.Text

/-! # Encodings of JSON

A JSON text that comes as bytes is in UTF-8, UTF-16 or UTF-32, which its first bytes tell. Surrogates
that stand alone are let through.
-/

/-! ## Wide encodings -/

/-- The value of the bytes of one code unit. -/
def unitValue (bigEndian : Bool) (bytes : List Nat) : Nat :=
  (if bigEndian then bytes else bytes.reverse).foldl (fun v b => v * 0x100 + b) 0

/-- Joins a surrogate pair. -/
def joinPair (high low : Nat) : Nat := 0x10000 + (high - 0xD800) * 0x400 + (low - 0xDC00)

/-- Joins the surrogate pairs among code units. -/
def joinPairs : List Nat → Text
  | [] => []
  | [u] => [u]
  | u :: v :: rest =>
    if 0xD800 ≤ u ∧ u ≤ 0xDBFF ∧ 0xDC00 ≤ v ∧ v ≤ 0xDFFF then joinPair u v :: joinPairs rest
    else u :: joinPairs (v :: rest)

/-- The code units of UTF-16 at `pos`. -/
def units16 (e : Encoding) (bigEndian : Bool) : Nat → List Nat → Except DecodeError (List Nat)
  | _, [] => .ok []
  | pos, [a] => .error ⟨e, pos, pos + 1, a, .partialUnit⟩
  | pos, a :: b :: rest => (units16 e bigEndian (pos + 2) rest).map (unitValue bigEndian [a, b] :: ·)

/-- The code points of UTF-32 at `pos`. -/
def units32 (e : Encoding) (bigEndian : Bool) : Nat → List Nat → Except DecodeError Text
  | _, [] => .ok []
  | pos, a :: b :: c :: d :: rest =>
    let v := unitValue bigEndian [a, b, c, d]
    if v > 0x10FFFF then .error ⟨e, pos, pos + 4, a, .outOfRange⟩
    else (units32 e bigEndian (pos + 4) rest).map (v :: ·)
  | pos, a :: rest => .error ⟨e, pos, pos + 1 + rest.length, a, .partialUnit⟩

/-- Decodes UTF-16, behind a mark of `skip` bytes. -/
def decode16 (bigEndian : Bool) (skip : Nat) (bytes : List Nat) : Except DecodeError Text :=
  (units16 (if bigEndian then .utf16be else .utf16le) bigEndian skip (bytes.drop skip)).map joinPairs

/-- Decodes UTF-32, behind a mark of `skip` bytes. -/
def decode32 (bigEndian : Bool) (skip : Nat) (bytes : List Nat) : Except DecodeError Text :=
  units32 (if bigEndian then .utf32be else .utf32le) bigEndian skip (bytes.drop skip)

/-! ## Telling the encoding -/

/-- Decodes bytes in the encoding that a byte order mark or the zeros among the first of them tell.
Positions in UTF-8 count from behind the mark. -/
def decodeDetected (bytes : List Nat) : Except DecodeError Text :=
  match bytes with
  | 0x00 :: 0x00 :: 0xFE :: 0xFF :: _ => decode32 true 4 bytes
  | 0xFF :: 0xFE :: 0x00 :: 0x00 :: _ => decode32 false 4 bytes
  | 0xFE :: 0xFF :: _ => decode16 true 2 bytes
  | 0xFF :: 0xFE :: _ => decode16 false 2 bytes
  | 0xEF :: 0xBB :: 0xBF :: rest => decodeFrom true 0 none rest
  | a :: b :: c :: d :: _ =>
    if a = 0 then if b = 0 then decode32 true 0 bytes else decode16 true 0 bytes
    else if b = 0 then if c = 0 ∧ d = 0 then decode32 false 0 bytes else decode16 false 0 bytes
    else decodeFrom true 0 none bytes
  | [a, b] =>
    if a = 0 then decode16 true 0 bytes
    else if b = 0 then decode16 false 0 bytes
    else decodeFrom true 0 none bytes
  | _ => decodeFrom true 0 none bytes

example : decodeDetected [0x7B, 0x00, 0x7D, 0x00] = .ok [0x7B, 0x7D] := rfl
example : decodeDetected [0xED, 0xA0, 0x80] = .ok [0xD800] := rfl

end ScriptDeps.Text
