import ScriptDeps.Text.Basic

namespace ScriptDeps.Text

/-! # Integers as they are written by hand

An integer may have blanks around it, a sign, and single underscores between its digits. Digits of
every script count.
-/

/-- The code points of the zeros; the other digits follow them. -/
def zeros : List Nat :=
  [
    0x0030, 0x0660, 0x06F0, 0x07C0, 0x0966, 0x09E6, 0x0A66, 0x0AE6, 0x0B66, 0x0BE6, 0x0C66, 0x0CE6,
    0x0D66, 0x0DE6, 0x0E50, 0x0ED0, 0x0F20, 0x1040, 0x1090, 0x17E0, 0x1810, 0x1946, 0x19D0, 0x1A80,
    0x1A90, 0x1B50, 0x1BB0, 0x1C40, 0x1C50, 0xA620, 0xA8D0, 0xA900, 0xA9D0, 0xA9F0, 0xAA50, 0xABF0,
    0xFF10, 0x104A0, 0x10D30, 0x11066, 0x110F0, 0x11136, 0x111D0, 0x112F0, 0x11450, 0x114D0,
    0x11650, 0x116C0, 0x11730, 0x118E0, 0x11950, 0x11C50, 0x11D50, 0x11DA0, 0x16A60, 0x16AC0,
    0x16B50, 0x1D7CE, 0x1D7D8, 0x1D7E2, 0x1D7EC, 0x1D7F6, 0x1E140, 0x1E2F0, 0x1E950, 0x1FBF0]

/-- The value of a decimal digit of any script. -/
def digitValue? (c : Nat) : Option Nat :=
  (zeros.find? fun z => z ≤ c && c ≤ z + 9).map (c - ·)

/-- The code point is a blank of any kind. -/
def isWhite (c : Nat) : Bool :=
  (0x09 ≤ c && c ≤ 0x0D) || (0x1C ≤ c && c ≤ 0x20) || c == 0x85 || c == 0xA0 || c == 0x1680 ||
    (0x2000 ≤ c && c ≤ 0x200A) || c == 0x2028 || c == 0x2029 || c == 0x202F || c == 0x205F ||
    c == 0x3000

/-- A text without the blanks around it. -/
def strip (t : Text) : Text := ((t.dropWhile isWhite).reverse.dropWhile isWhite).reverse

/-- The value of digits with single underscores between them, behind a value so far. -/
def digitsFrom (value : Nat) : Text → Option Nat
  | [] => some value
  | [c] => (digitValue? c).map (10 * value + ·)
  | c :: d :: rest =>
    match digitValue? c with
    | some v => digitsFrom (10 * value + v) (d :: rest)
    | none =>
      if c = 0x5F then (digitValue? d).bind fun v => digitsFrom (10 * value + v) rest else none

/-- Integers of more digits are refused. -/
def maxDigits : Nat := 4300

/-- The integer that a text denotes. -/
def toInt? (t : Text) : Option Int :=
  let t := strip t
  let (negative, digits) := match t with
    | 0x2D :: rest => (true, rest)
    | 0x2B :: rest => (false, rest)
    | _ => (false, t)
  match digits with
  | [] => none
  | c :: _ =>
    if c = 0x5F ∨ (digits.filter (· != 0x5F)).length > maxDigits then none
    else (digitsFrom 0 digits).map fun v => if negative then -(v : Int) else v

example : toInt? (lit " +1_000 ") = some 1000 := by decide +kernel
example : toInt? (lit "1__0") = none := by decide +kernel

end ScriptDeps.Text
