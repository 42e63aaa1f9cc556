import ScriptDeps.Text.Basic

namespace ScriptDeps

/-! # Numbers of double precision

A finite number is a mantissa below `2 ^ 53` times a power of two. A decimal is read as the nearest
of them, and a number is written with the fewest digits that read back as that number.
-/

/-- A number of double precision. -/
inductive Binary64 where
  | nan
  | infinite (negative : Bool)
  /-- The mantissa times `2 ^ exponent`. -/
  | finite (negative : Bool) (mantissa : Nat) (exponent : Int)
deriving DecidableEq, Repr, Inhabited

namespace Binary64

/-! ## Rounding -/

/-- The fraction `num / den` times `base ^ e`. -/
def scale (base : Nat) (e : Int) (num den : Nat) : Nat × Nat :=
  match e with
  | .ofNat n => (num * base.pow n, den)
  | .negSucc n => (num, den * base.pow (n + 1))

/-- The integer nearest to a fraction, the even one of two. -/
def roundEven (num den : Nat) : Nat :=
  let q := num / den
  let r := num % den
  if 2 * r < den ∨ (2 * r = den ∧ q % 2 = 0) then q else q + 1

/-- The number nearest to the fraction `num / den`. -/
def ofFraction (negative : Bool) (num den : Nat) : Binary64 :=
  let guess : Int := max (num.log2 - den.log2 - 53) (-1074)
  let (a, b) := scale 2 (-guess) num den
  let e := if a / b < Nat.pow 2 53 then guess else guess + 1
  let (a, b) := scale 2 (-e) num den
  let m := roundEven a b
  let (m, e) := if m = Nat.pow 2 53 then (Nat.pow 2 52, e + 1) else (m, e)
  if e > 971 then .infinite negative else .finite negative m e

/-- The number nearest to `digits * 10 ^ e`. Numbers far beyond the greatest or below the least are
not computed. -/
def ofDecimal (negative : Bool) (digits : Nat) (e : Int) : Binary64 :=
  let size : Int := digits.log2 / 4 + e
  if digits = 0 ∨ (digits.log2 : Int) / 3 + e < -400 then .finite negative 0 (-1074)
  else if size > 400 then .infinite negative
  else
    let (num, den) := scale 10 e digits 1
    ofFraction negative num den

/-! ## Shortest digits -/

/-- The digits of the first grid `10 ^ k`, from `k` downwards, on which a neighbour of the mantissa
times `2 ^ e` rounds to that number; the nearer of two. -/
def shortestFrom (m : Nat) (e : Int) : Nat → Int → Nat × Int
  | 0, k => (0, k)
  | n + 1, k =>
    let (v, grid) := scale 2 (e - 2) (4 * m) 1
    let (v, grid) := scale 10 (-k) v grid
    let (unit, unitGrid) := scale 2 (e - 2) 1 1
    let (unit, _) := scale 10 (-k) unit unitGrid
    -- all values below are multiples of the quantum `1 / grid` of the decimal grid
    let below := if m = Nat.pow 2 52 ∧ e > -1074 then unit else 2 * unit
    let inside (d : Nat) : Bool :=
      let x := d * grid
      if m % 2 = 0 then v ≤ x + below && x ≤ v + 2 * unit
      else v < x + below && x < v + 2 * unit
    let d := v / grid
    let nearDown := 2 * (v - d * grid) < grid || (2 * (v - d * grid) = grid && d % 2 = 0)
    match d ≠ 0 && inside d, inside (d + 1) with
    | true, true => (if nearDown then d else d + 1, k)
    | true, false => (d, k)
    | false, true => (d + 1, k)
    | false, false => shortestFrom m e n (k - 1)

/-- The fewest digits that read back as the mantissa times `2 ^ e`, and their power of ten. -/
def shortest (m : Nat) (e : Int) : Nat × Int :=
  let (num, den) := scale 2 e m 1
  let size (n : Nat) : Int := (toString n).length
  shortestFrom m e 25 (size num - size den + 1)

/-! ## Text -/

/-- Digits with a decimal point behind the first `point` of them: positional up to 16 places before
the point and up to four zeros behind it, with an exponent otherwise. -/
def layout (digits : Text) (point : Int) : Text :=
  let zeros (n : Int) : Text := List.replicate n.toNat 0x30
  let count : Int := digits.length
  if point ≤ -4 ∨ 16 < point then
    let e := point - 1
    let fraction := digits.drop 1
    digits.take 1 ++ (if fraction.isEmpty then [] else 0x2E :: fraction) ++
      (if e < 0 then Text.lit "e-" else Text.lit "e+") ++ Text.padded 2 e.natAbs
  else if point ≤ 0 then Text.lit "0." ++ zeros (-point) ++ digits
  else if count ≤ point then digits ++ zeros (point - count) ++ Text.lit ".0"
  else digits.take point.toNat ++ 0x2E :: digits.drop point.toNat

/-- A number in its shortest form. -/
def text : Binary64 → Text
  | nan => Text.lit "nan"
  | infinite negative => Text.lit (if negative then "-inf" else "inf")
  | finite negative m e =>
    (if negative then [0x2D] else []) ++
      if m = 0 then Text.lit "0.0"
      else
        let (d, k) := shortest m e
        let ds := Text.ofNat d
        layout ds (ds.length + k)

/-- The number is less than zero. -/
def isNegative : Binary64 → Bool
  | nan => false
  | infinite negative => negative
  | finite negative m _ => negative && m != 0

end Binary64

end ScriptDeps
