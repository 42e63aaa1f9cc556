namespace ScriptDeps

/-! # Texts

A text is a list of code points. Surrogates may stand in it alone: escapes of a script and of JSON
can denote them.
-/

/-- A list of code points. -/
abbrev Text := List Nat

namespace Text

/-- The text that a string holds. -/
def lit (s : String) : Text := s.toList.map Char.toNat

/-- The code point is a surrogate. -/
def isSurrogate (c : Nat) : Bool := 0xD800 ≤ c && c ≤ 0xDFFF

/-- The text consists of ASCII characters. -/
def isAscii (t : Text) : Bool := t.all (· < 0x80)

/-! ## Numbers -/

/-- The digit of a value below sixteen, in lower case. -/
def digit (d : Nat) : Nat := if d < 10 then 0x30 + d else 0x57 + d

/-- The value of a hexadecimal digit. -/
def hexValue? (c : Nat) : Option Nat :=
  if 0x30 ≤ c ∧ c ≤ 0x39 then some (c - 0x30)
  else if 0x41 ≤ c ∧ c ≤ 0x46 then some (c - 0x37)
  else if 0x61 ≤ c ∧ c ≤ 0x66 then some (c - 0x57)
  else none

/-- The code point is a decimal digit of ASCII. -/
def isDigit (c : Nat) : Bool := 0x30 ≤ c && c ≤ 0x39

/-- The value of a row of digits. -/
def valueOf (base : Nat) (digits : List Nat) : Nat :=
  digits.foldl (fun v c => base * v + (hexValue? c).getD 0) 0

/-- A number in decimal digits. -/
def ofNat (n : Nat) : Text := lit (toString n)

/-- A number in decimal digits, with a sign if it is negative. -/
def ofInt : Int → Text
  | .ofNat n => ofNat n
  | .negSucc n => 0x2D :: ofNat (n + 1)

/-- The last `width` hexadecimal digits of a number. -/
def hex : Nat → Nat → Text
  | 0, _ => []
  | width + 1, n => hex width (n / 16) ++ [digit (n % 16)]

/-- A number in decimal digits, filled up with zeros to the width. -/
def padded (width n : Nat) : Text :=
  let ds := ofNat n
  List.replicate (width - ds.length) 0x30 ++ ds

/-! ## Parts -/

/-- The text up to the first line feed. -/
def firstLine (t : Text) : Text := t.takeWhile (· != 0x0A)

/-- The texts with a separator between them. -/
def join (separator : Text) : List Text → Text
  | [] => []
  | [t] => t
  | t :: rest => t ++ separator ++ join separator rest

/-- The parts of a text between the separators. -/
def splitOn (separator : Nat) : Text → List Text
  | [] => [[]]
  | c :: rest =>
    if c = separator then [] :: splitOn separator rest
    else match splitOn separator rest with
      | [] => [[c]]
      | t :: ts => (c :: t) :: ts

/-- Comparison by code points. -/
def before : Text → Text → Bool
  | [], [] => false
  | [], _ :: _ => true
  | _ :: _, [] => false
  | a :: s, b :: t => if a = b then before s t else a < b

/-- Sorts by code points; equal texts keep their order. -/
def sort (ts : List Text) : List Text := ts.mergeSort fun a b => !before b a

/-- The string of a text. A lone surrogate, which no string holds, becomes a replacement
character. -/
def asString (t : Text) : String :=
  String.ofList (t.map fun c => if isSurrogate c then Char.ofNat 0xFFFD else Char.ofNat c)

end Text

end ScriptDeps
