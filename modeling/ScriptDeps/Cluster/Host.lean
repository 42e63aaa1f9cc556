import ScriptDeps.Text.Integer
import ScriptDeps.Text.Letter

namespace ScriptDeps.Cluster

open Text (lit)

/-! # Addresses and names of hosts

Which texts are addresses of version four and six, and how a name beyond ASCII is spelled in ASCII.
-/

/-! ## Version four -/

/-- The decimal number below 256 that a part of an address is; no zero stands in front. -/
def isOctet (t : Text) : Bool :=
  !t.isEmpty && t.length ≤ 3 && t.all Text.isDigit && Text.valueOf 10 t ≤ 255 &&
    !(t.length > 1 && t.head? == some 0x30)

/-- The text is an address of version four. -/
def isAddress4 (t : Text) : Bool :=
  let parts := Text.splitOn 0x2E t
  parts.length == 4 && parts.all isOctet

/-- The places that can be reached in "digits, any character" three times and digits again, by
reading `c`; digits are read at the odd places. -/
def numericStep (places : List Nat) (c : Nat) : List Nat :=
  (places.flatMap fun p =>
    if p % 2 = 0 then if Text.isDigit c then [p + 1] else []
    else (if Text.isDigit c then [p] else []) ++ if p < 7 then [p + 1] else []).eraseDups

/-- The text looks like an address of version four: four rows of digits with any character between
two of them. -/
def looksLikeAddress4 (t : Text) : Bool := (t.foldl numericStep [0]).contains 7

/-! ## Version six -/

/-- A part of an address of version six. -/
def isHextet (t : Text) : Bool :=
  !t.isEmpty && t.length ≤ 4 && t.all fun c => (Text.hexValue? c).isSome

/-- The parts of an address of version six; an address of version four at the end counts as two. -/
def hextets? (t : Text) : Option (List Text) :=
  let parts := Text.splitOn 0x3A t
  let last := parts.getLast?.getD []
  if parts.length < 3 then none
  else if last.contains 0x2E then
    if isAddress4 last then some (parts.dropLast ++ [lit "0", lit "0"]) else none
  else some parts

/-- The parts are right: eight of them or, around one gap, fewer. The text may begin or end with the
gap, but not with a single colon. -/
def validHextets (parts : List Text) : Bool :=
  let inner := (parts.drop 1).dropLast
  let gaps := inner.countP (·.isEmpty)
  if parts.length > 9 || gaps > 1 then false
  else if gaps = 0 then parts.length == 8 && parts.all isHextet
  else
    let before := parts.take (inner.findIdx (·.isEmpty) + 1)
    let behind := parts.drop (before.length + 1)
    let shorten (ts : List Text) (edge : Option Text) : List Text :=
      if edge = some [] ∧ ts.length = 1 then [] else ts
    let before := shorten before before.head?
    let behind := shorten behind behind.getLast?
    before.length + behind.length < 8 && before.all isHextet && behind.all isHextet

/-- The text is an address of version six, perhaps with a zone behind a percent sign. -/
def isAddress6 (t : Text) : Bool :=
  let address := t.takeWhile (· != 0x25)
  let zone := t.drop address.length
  let zoneFits := zone.isEmpty || (zone.length > 1 && !(zone.drop 1).contains 0x25)
  zoneFits && !address.contains 0x2F &&
    match hextets? address with
    | some parts => validHextets parts
    | none => false

/-! ## Names beyond ASCII -/

/-- How much a threshold is off its usual place. -/
def adaptedBias (delta points : Nat) (first : Bool) : Nat :=
  let d := if first then delta / 700 else delta / 2
  let d := d + d / points
  go d 0 64
where
  go (d k : Nat) : Nat → Nat
    | 0 => k
    | n + 1 => if d > 455 then go (d / 35) (k + 36) n else k + 36 * d / (d + 38)

/-- The letter or digit for a value below 36. -/
def base36 (d : Nat) : Nat := if d < 26 then 0x61 + d else 0x30 + (d - 26)

/-- A number of variable length. -/
def variableLength (bias : Nat) (q : Nat) : Nat → Nat → Text
  | 0, _ => []
  | n + 1, k =>
    let t := if k ≤ bias then 1 else min 26 (k - bias)
    if q < t then [base36 q]
    else base36 (t + (q - t) % (36 - t)) :: variableLength bias ((q - t) / (36 - t)) n (k + 36)

/-- How far an encoding has got. -/
private structure Progress where
  delta : Nat
  bias : Nat
  handled : Nat
  written : Text

/-- Encodes every occurrence of the code point `n` in a label. -/
private def encodeOccurrences (basic n : Nat) (label : Text) (p : Progress) : Progress :=
  label.foldl (fun p c =>
    if c < n then { p with delta := p.delta + 1 }
    else if c = n then
      { delta := 0
        bias := adaptedBias p.delta (p.handled + 1) (p.handled == basic)
        handled := p.handled + 1
        written := p.written ++ variableLength p.bias p.delta 64 36 }
    else p) p

/-- A label in ASCII: its ASCII characters, a hyphen if there are any, and where the others go. -/
def punycode (label : Text) : Text :=
  let basic := label.filter (· < 0x80)
  let others := ((label.filter (· ≥ 0x80)).mergeSort (· ≤ ·)).eraseDups
  let start : Progress := { delta := 0, bias := 72, handled := basic.length, written := [] }
  let (p, _) := others.foldl (fun (acc : Progress × Nat) n =>
    let p := acc.1
    let p := { p with delta := p.delta + (n - acc.2) * (p.handled + 1) }
    let p := encodeOccurrences basic.length n label p
    ({ p with delta := p.delta + 1 }, n + 1)) (start, 0x80)
  basic ++ (if basic.isEmpty then [] else [0x2D]) ++ p.written

/-- The character may stand in a label. -/
def fitsLabel (c : Nat) : Bool :=
  if c < 0x80 then Text.isDigit c || (0x61 ≤ c && c ≤ 0x7A) || c == 0x2D
  else Text.isLetter c || (Text.digitValue? c).isSome

/-- Hyphens stand neither at the ends of a label nor both third and fourth. -/
def hyphensFit (label : Text) : Bool :=
  label.head? != some 0x2D && label.getLast? != some 0x2D && (label.drop 2).take 2 != [0x2D, 0x2D]

/-- A label in ASCII, if it is a label at all. -/
def asciiLabel? (label : Text) : Option Text :=
  if label.isEmpty || !label.all fitsLabel || !hyphensFit label then none
  else
    let t := if Text.isAscii label then label else lit "xn--" ++ punycode label
    if t.length > 63 then none else some t

/-- A letter in lower case, in the Latin, Greek and Cyrillic scripts. -/
def lowered (c : Nat) : Nat :=
  if (0x41 ≤ c ∧ c ≤ 0x5A) ∨ (0xC0 ≤ c ∧ c ≤ 0xDE ∧ c ≠ 0xD7) ∨ (0x391 ≤ c ∧ c ≤ 0x3A9) ∨
      (0x410 ≤ c ∧ c ≤ 0x42F) then c + 0x20
  else if 0x400 ≤ c ∧ c ≤ 0x40F then c + 0x50
  else c

/-- The parts of a name; full stops of other scripts separate them, too. -/
def labels (name : Text) : List Text :=
  Text.splitOn 0x2E (name.map fun c => if c = 0x3002 ∨ c = 0xFF0E ∨ c = 0xFF61 then 0x2E else c)

/-- A name in ASCII, if every part of it is a label. An empty part may stand at the end. -/
def asciiName? (name : Text) : Option Text :=
  let parts := labels name
  let trailing := parts.getLast? == some []
  let parts := if trailing then parts.dropLast else parts
  match parts.mapM asciiLabel? with
  | some (p :: ps) =>
    let t := Text.join [0x2E] (p :: ps) ++ if trailing then [0x2E] else []
    if t.length > (if trailing then 254 else 253) then none else some t
  | _ => none

example : punycode (lit "bücher") = lit "bcher-kva" := by decide +kernel
example : isAddress6 (lit "::1") = true ∧ isAddress6 (lit "1::2::3") = false := by decide +kernel
example : looksLikeAddress4 (lit "1.2.3.4") = true := by decide +kernel

end ScriptDeps.Cluster
