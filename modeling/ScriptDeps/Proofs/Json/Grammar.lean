import Mathlib.Data.List.TakeWhile
import ScriptDeps.Json.Reader
import ScriptDeps.Proofs.Json.Members

namespace ScriptDeps.Json

/-! # The grammar of JSON

Which texts stand for a value, without any reader. Besides the numbers of the format, `NaN`,
`Infinity` and `-Infinity` are values, and the digits of an integer are limited. Main definitions:

* `Spells`: what stands between the quotes of a string;
* `Number`: the numbers;
* `Writes`: all values, with items and members as the parts of arrays and objects;
* `Written`: a value between blanks.
-/

/-! ## Blanks -/

/-- A text of blanks. -/
def Blanks (t : Text) : Prop := ∀ c ∈ t, isBlank c = true

/-! ## Strings -/

/-- The first half of a surrogate pair. -/
def IsHighHalf (v : Nat) : Prop := 0xD800 ≤ v ∧ v ≤ 0xDBFF

/-- The second half of a surrogate pair. -/
def IsLowHalf (v : Nat) : Prop := 0xDC00 ≤ v ∧ v ≤ 0xDFFF

/-- The text starts with the escape of the second half of a surrogate pair. -/
def StartsWithLowHalf (t : Text) : Prop :=
  ∃ digits low rest, t = 0x5C :: 0x75 :: digits ++ rest ∧ codeUnit? digits = some low ∧
    IsLowHalf low

/-- What stands between the quotes of a string, and the string that it stands for. -/
inductive Spells : Text → Text → Prop where
  | nil : Spells [] []
  | plain {c : Nat} {t s : Text} (hquote : c ≠ 0x22) (hbackslash : c ≠ 0x5C)
      (hcontrol : 0x20 ≤ c) (h : Spells t s) : Spells (c :: t) (c :: s)
  /-- A backslash and a letter. -/
  | letter {d v : Nat} {t s : Text} (hd : escapeValue? d = some v) (h : Spells t s) :
      Spells (0x5C :: d :: t) (v :: s)
  /-- A backslash, a `u` and four digits that are not the first half of a pair. -/
  | unit {digits : Text} {v : Nat} {t s : Text} (hdigits : codeUnit? digits = some v)
      (hsingle : IsHighHalf v → ¬ StartsWithLowHalf t) (h : Spells t s) :
      Spells (0x5C :: 0x75 :: digits ++ t) (v :: s)
  /-- Both halves of a surrogate pair. -/
  | pair {first second : Text} {high low : Nat} {t s : Text} (hfirst : codeUnit? first = some high)
      (hhigh : IsHighHalf high) (hsecond : codeUnit? second = some low) (hlow : IsLowHalf low)
      (h : Spells t s) :
      Spells (0x5C :: 0x75 :: first ++ 0x5C :: 0x75 :: second ++ t)
        ((0x10000 + (high - 0xD800) * 0x400 + (low - 0xDC00)) :: s)

/-! ## Numbers -/

/-- A row of digits. -/
def IsDigits (ds : Text) : Prop := ds ≠ [] ∧ ∀ c ∈ ds, Text.isDigit c = true

/-- The minus sign of a negative number. -/
def minus (negative : Bool) : Text := if negative then [0x2D] else []

/-- The digits before the decimal point; only a single one of them is a leading zero. -/
def IsWhole (ds : Text) : Prop := IsDigits ds ∧ (ds.head? = some 0x30 → ds = [0x30])

/-- The decimal point and the digits behind it, which may both be left out. -/
inductive Fraction : Text → Text → Prop where
  | none : Fraction [] []
  | digits {ds : Text} (hds : IsDigits ds) : Fraction (0x2E :: ds) ds

/-- The exponent and its value. -/
inductive Exponent : Text → Int → Prop where
  | none : Exponent [] 0
  | digits {letter : Nat} {sign ds : Text} {negative : Bool}
      (hletter : letter = 0x65 ∨ letter = 0x45)
      (hsign : sign = minus negative ∨ sign = [0x2B] ∧ negative = false) (hds : IsDigits ds) :
      Exponent (letter :: sign ++ ds)
        (if negative then -(Text.valueOf 10 ds : Int) else (Text.valueOf 10 ds : Int))

/-- A number and its value, which is an integer without fraction and exponent. -/
inductive Number : Text → Json → Prop where
  | int {negative : Bool} {whole : Text} (hwhole : IsWhole whole)
      (hlimit : whole.length ≤ digitLimit) :
      Number (minus negative ++ whole)
        (int (if negative then -(Text.valueOf 10 whole : Int) else (Text.valueOf 10 whole : Int)))
  | real {negative : Bool} {whole f fraction x : Text} {e : Int} (hwhole : IsWhole whole)
      (hfraction : Fraction f fraction) (hexponent : Exponent x e) (hreal : f ≠ [] ∨ x ≠ []) :
      Number (minus negative ++ whole ++ f ++ x)
        (real (Binary64.ofDecimal negative (Text.valueOf 10 (whole ++ fraction))
          (e - fraction.length)))

/-! ## Values -/

/-- What a part of a text stands for. -/
inductive Part where
  | value (j : Json)
  /-- The items of an array, at least one. -/
  | items (js : List Json)
  | member (m : Text × Json)
  /-- The members of an object, at least one. -/
  | members (ms : List (Text × Json))

/-- A part of a text and what it stands for. Blanks may stand around each item, name and value. -/
inductive Writes : Text → Part → Prop where
  | word {t : Text} {j : Json} (h : (t, j) ∈ words) : Writes t (.value j)
  | number {t : Text} {j : Json} (h : Number t j) : Writes t (.value j)
  | string {t s : Text} (h : Spells t s) : Writes (0x22 :: t ++ [0x22]) (.value (.string s))
  | emptyArray {b : Text} (hb : Blanks b) : Writes (0x5B :: b ++ [0x5D]) (.value (.array []))
  | array {b t : Text} {js : List Json} (hb : Blanks b) (h : Writes t (.items js)) :
      Writes (0x5B :: b ++ t ++ [0x5D]) (.value (.array js))
  | emptyObject {b : Text} (hb : Blanks b) : Writes (0x7B :: b ++ [0x7D]) (.value (.object []))
  | object {b t : Text} {ms : List (Text × Json)} (hb : Blanks b) (h : Writes t (.members ms)) :
      Writes (0x7B :: b ++ t ++ [0x7D]) (.value (.object (collect ms)))
  | lastItem {t b : Text} {j : Json} (h : Writes t (.value j)) (hb : Blanks b) :
      Writes (t ++ b) (.items [j])
  | item {t b b' u : Text} {j : Json} {js : List Json} (h : Writes t (.value j)) (hb : Blanks b)
      (hb' : Blanks b') (hrest : Writes u (.items js)) :
      Writes (t ++ b ++ 0x2C :: b' ++ u) (.items (j :: js))
  | named {k name b b' t b'' : Text} {j : Json} (hname : Spells k name) (hb : Blanks b)
      (hb' : Blanks b') (h : Writes t (.value j)) (hb'' : Blanks b'') :
      Writes (0x22 :: k ++ 0x22 :: b ++ 0x3A :: b' ++ t ++ b'') (.member (name, j))
  | lastMember {t : Text} {m : Text × Json} (h : Writes t (.member m)) : Writes t (.members [m])
  | member {t b u : Text} {m : Text × Json} {ms : List (Text × Json)} (h : Writes t (.member m))
      (hb : Blanks b) (hrest : Writes u (.members ms)) :
      Writes (t ++ 0x2C :: b ++ u) (.members (m :: ms))

/-- The text is JSON: a value between blanks. -/
def Written (t : Text) (j : Json) : Prop :=
  ∃ b u b', t = b ++ u ++ b' ∧ Blanks b ∧ Writes u (.value j) ∧ Blanks b'

end ScriptDeps.Json
