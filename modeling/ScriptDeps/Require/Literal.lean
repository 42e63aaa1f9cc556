import ScriptDeps.Syntax.Text

namespace ScriptDeps.Require

open Syntax (Node TextError)

/-! # Literals

The value of a string literal is its body with all escapes replaced. A backslash before a character
that starts no escape is dropped, as is a line that goes on behind a backslash.
-/

/-! ## Escapes -/

/-- The control character that the letter behind a backslash stands for, or the character itself. -/
def plainEscape (c : Nat) : Nat :=
  if c = 0x6E then 0x0A
  else if c = 0x74 then 0x09
  else if c = 0x72 then 0x0D
  else if c = 0x62 then 0x08
  else if c = 0x66 then 0x0C
  else if c = 0x76 then 0x0B
  else if c = 0x30 then 0x00
  else c

/-- The code point of a value. -/
def codePoint (v : Nat) : Except TextError Text :=
  if v ≤ 0x10FFFF then .ok [v]
  else if v < 0x80000000 then .error .noCodePoint
  else .error .tooLarge

/-- The digits that the text starts with, if there are as many. -/
def hexDigits? (count : Nat) (t : Text) : Option Text :=
  let ds := t.take count
  if ds.length = count ∧ ds.all (fun c => (Text.hexValue? c).isSome) then some ds else none

/-- The digits between the braces that the text starts with. -/
def bracedDigits? : Text → Option Text
  | 0x7B :: rest =>
    let ds := rest.takeWhile fun c => (Text.hexValue? c).isSome
    if ds.isEmpty then none
    else if (rest.drop ds.length).head? = some 0x7D then some ds
    else none
  | _ => none

/-- What the escape behind a backslash stands for, and how long it is. -/
def escapeAt (t : Text) : Option (Except TextError Text × Nat) :=
  match t with
  | [] => none
  | c :: rest =>
    let plain := (.ok [plainEscape c], 1)
    if c = 0x75 then
      match bracedDigits? rest, hexDigits? 4 rest with
      | some ds, _ => some (codePoint (Text.valueOf 16 ds), ds.length + 3)
      | none, some ds => some (.ok [Text.valueOf 16 ds], 5)
      | none, none => some plain
    else if c = 0x78 then
      match hexDigits? 2 rest with
      | some ds => some (.ok [Text.valueOf 16 ds], 3)
      | none => some plain
    else if c = 0x0D ∧ rest.head? = some 0x0A then some (.ok [], 2)
    else if c = 0x0A ∨ c = 0x0D ∨ c = 0x2028 ∨ c = 0x2029 then some (.ok [], 1)
    else some plain

/-- The text without escapes, behind the first `skip` code points. -/
def unescapeFrom : Nat → Text → Except TextError Text
  | _, [] => .ok []
  | skip + 1, _ :: rest => unescapeFrom skip rest
  | 0, c :: rest =>
    if c = 0x5C then
      match escapeAt rest with
      | none => (unescapeFrom 0 rest).map (c :: ·)
      | some (value, length) => do
        let v ← value
        let t ← unescapeFrom length rest
        return v ++ t
    else (unescapeFrom 0 rest).map (c :: ·)

/-- The value of the body of a string literal. -/
def unescape (body : Text) : Except TextError Text := unescapeFrom 0 body

/-! ## Values -/

/-- The kinds of literals. -/
def literalKinds : List String := ["string", "number", "true", "false", "null", "regex"]

/-- The node is a literal. -/
def isLiteral (n : Node) : Bool := literalKinds.contains n.kind

/-- The value of a literal as a text: of a string what it denotes, of any other its own text. -/
def literalValue (source : ByteArray) (n : Node) : Except TextError Text := do
  let t ← n.text source
  if n.kind = "string" then unescape ((t.drop 1).dropLast) else return t

end ScriptDeps.Require
