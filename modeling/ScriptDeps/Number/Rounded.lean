import ScriptDeps.Number.Binary64

namespace ScriptDeps.Binary64

/-! # Rounded decimals

Numbers of double precision with a given number of digits. The exact value is rounded, a half to the
even neighbour.
-/

/-- The absolute value as a fraction, if it is finite. -/
def fraction? : Binary64 → Option (Nat × Nat)
  | finite _ m e => some (scale 2 e m 1)
  | _ => none

/-- The number has a minus sign. -/
def hasMinus : Binary64 → Bool
  | nan => false
  | infinite negative => negative
  | finite negative _ _ => negative

/-- The greatest integer that is not above the number. -/
def floor? (x : Binary64) : Option Int :=
  x.fraction?.map fun (num, den) =>
    if x.hasMinus then -(((num + den - 1) / den : Nat) : Int) else ((num / den : Nat) : Int)

/-- The integer between the number and zero that is nearest to the number. -/
def truncate? (x : Binary64) : Option Int :=
  x.fraction?.map fun (num, den) =>
    if x.hasMinus then -((num / den : Nat) : Int) else ((num / den : Nat) : Int)

/-- The number nearest to an integer. -/
def ofInt (n : Int) : Binary64 :=
  if n = 0 then finite false 0 (-1074) else ofFraction (n < 0) n.natAbs 1

/-- A digit string with a point before the last `places` digits. -/
def withPoint (alternate : Bool) (places value : Nat) : Text :=
  let ds := Text.padded (places + 1) value
  let whole := ds.take (ds.length - places)
  if places = 0 then if alternate then whole ++ [0x2E] else whole
  else whole ++ 0x2E :: ds.drop whole.length

/-- A fraction with a fixed number of places. -/
def fixedText (alternate : Bool) (places num den : Nat) : Text :=
  withPoint alternate places (roundEven (num * Nat.pow 10 places) den)

/-- The power of ten that a positive fraction lies at or just above. -/
def decimalExponent (num den : Nat) : Int :=
  let guess : Int := (toString num).length - (toString den).length
  let (a, b) := scale 10 (-guess) num den
  if a < b then guess - 1 else guess

/-- The digits of a fraction, `places` behind the first, and the power of ten of the first. -/
def exponentDigits (places num den : Nat) : Nat × Int :=
  if num = 0 then (0, 0)
  else
    let e := decimalExponent num den
    let (a, b) := scale 10 (places - e) num den
    let v := roundEven a b
    if v = Nat.pow 10 (places + 1) then (Nat.pow 10 places, e + 1) else (v, e)

/-- An exponent with a sign and at least two digits. -/
def exponentSuffix (e : Int) : Text :=
  (if e < 0 then Text.lit "e-" else Text.lit "e+") ++ Text.padded 2 e.natAbs

/-- A fraction with an exponent. -/
def exponentText (alternate : Bool) (places num den : Nat) : Text :=
  let (v, e) := exponentDigits places num den
  withPoint alternate places v ++ exponentSuffix e

/-- A digit string without zeros at the end of its fraction. -/
def dropZeros (t : Text) : Text :=
  if t.contains 0x2E then
    let t := (t.reverse.dropWhile (· == 0x30)).reverse
    if t.getLast? = some 0x2E then t.dropLast else t
  else t

/-- A fraction with a number of significant digits: positional or with an exponent, whichever is
short. -/
def generalText (alternate : Bool) (digits num den : Nat) : Text :=
  let digits := max digits 1
  let shorten (t : Text) : Text := if alternate then t else dropZeros t
  let (v, e) := exponentDigits (digits - 1) num den
  if -4 ≤ e ∧ e < digits then
    shorten (fixedText alternate (digits - 1 - e).toNat num den)
  else shorten (withPoint alternate (digits - 1) v) ++ exponentSuffix e

end ScriptDeps.Binary64
