import ScriptDeps.Json.Basic
import ScriptDeps.Text.Utf8

namespace ScriptDeps

/-! # Reading JSON

A reader stands before the rest of the text and knows how many code points it has read. Besides the
numbers of the format it takes `NaN`, `Infinity` and `-Infinity`. Every fault has the position at
which it was found.
-/

namespace Json

/-! ## Faults -/

/-- What is wrong with a text that is no JSON. -/
inductive Flaw where
  | noValue
  | noName
  | noColon
  | noComma
  | unterminated
  | controlCharacter
  | badEscape
  | badCodeUnit
  | extraData
  | byteOrderMark
deriving DecidableEq, Repr

/-- A flaw in words. -/
def Flaw.words : Flaw → String
  | noValue => "Expecting value"
  | noName => "Expecting property name enclosed in double quotes"
  | noColon => "Expecting ':' delimiter"
  | noComma => "Expecting ',' delimiter"
  | unterminated => "Unterminated string starting at"
  | controlCharacter => "Invalid control character at"
  | badEscape => "Invalid \\escape"
  | badCodeUnit => "Invalid \\uXXXX escape"
  | extraData => "Extra data"
  | byteOrderMark => "Unexpected UTF-8 BOM (decode using utf-8-sig)"

/-- Why a text was not read. -/
inductive Failure where
  /-- The text is no JSON from that position on. -/
  | malformed (flaw : Flaw) (position : Nat)
  /-- An integer has more digits than are converted. -/
  | tooManyDigits (count : Nat)
deriving DecidableEq, Repr

/-- Integers of more digits are not converted. -/
def digitLimit : Nat := 4300

/-- The line and the column of a position, both from 1. -/
def lineAndColumn (t : Text) (position : Nat) : Nat × Nat :=
  let before := t.take position
  (before.count 0x0A + 1, (before.reverse.takeWhile (· != 0x0A)).length + 1)

/-- A failure to read `t` in words. -/
def Failure.message (t : Text) : Failure → Text
  | malformed flaw position =>
    let (line, column) := lineAndColumn t position
    Text.lit flaw.words ++ Text.lit ": line " ++ Text.ofNat line ++ Text.lit " column " ++
      Text.ofNat column ++ Text.lit " (char " ++ Text.ofNat position ++ Text.lit ")"
  | tooManyDigits count =>
    Text.lit "Exceeds the limit (" ++ Text.ofNat digitLimit ++
      Text.lit " digits) for integer string conversion: value has " ++ Text.ofNat count ++
      Text.lit " digits; use sys.set_int_max_str_digits() to increase the limit"

/-! ## The parts of a value -/

/-- What is left to read, and how much was read. -/
structure Rest where
  text : Text
  position : Nat

/-- Goes on behind `n` code points. -/
def Rest.skip (r : Rest) (n : Nat) : Rest := ⟨r.text.drop n, r.position + n⟩

/-- Fails at this place. -/
def Rest.fail {α : Type} (r : Rest) (flaw : Flaw) : Except Failure (α × Rest) := .error (.malformed flaw r.position)

/-- The code point is a blank. -/
def isBlank (c : Nat) : Bool := c == 0x20 || c == 0x09 || c == 0x0A || c == 0x0D

/-- Goes on behind the blanks. -/
def Rest.skipBlanks (r : Rest) : Rest := r.skip (r.text.takeWhile isBlank).length

/-- The value of four hexadecimal digits. -/
def codeUnit? (digits : Text) : Option Nat :=
  if digits.length = 4 ∧ digits.all (fun c => (Text.hexValue? c).isSome) then
    some (Text.valueOf 16 digits)
  else none

/-- The code point that the letter behind a backslash stands for. -/
def escapeValue? (c : Nat) : Option Nat :=
  if c = 0x22 ∨ c = 0x5C ∨ c = 0x2F then some c
  else if c = 0x62 then some 0x08
  else if c = 0x66 then some 0x0C
  else if c = 0x6E then some 0x0A
  else if c = 0x72 then some 0x0D
  else if c = 0x74 then some 0x09
  else none

/-- Reads the four digits behind a backslash and a `u`, before which `r` stands, and those of a
second half of a surrogate pair. The string cannot end with the digits. -/
def readCodeUnit (r : Rest) : Except Failure (Nat × Rest) :=
  let start := r.skip 1
  if (start.text.drop 4).isEmpty then r.fail .badCodeUnit
  else match codeUnit? (start.text.take 4) with
    | none => r.fail .badCodeUnit
    | some high =>
      let next := start.skip 4
      if 0xD800 ≤ high ∧ high ≤ 0xDBFF ∧ !(next.text.drop 6).isEmpty ∧ next.text.take 2 = [0x5C, 0x75] then
        match codeUnit? ((next.skip 2).text.take 4) with
        | none => (next.skip 1).fail .badCodeUnit
        | some low =>
          if 0xDC00 ≤ low ∧ low ≤ 0xDFFF then
            .ok (0x10000 + (high - 0xD800) * 0x400 + (low - 0xDC00), next.skip 6)
          else .ok (high, next)
      else .ok (high, next)

/-- Reads the rest of a string that started at position `start`. -/
def readString (start : Nat) : Nat → Rest → Except Failure (Text × Rest)
  | 0, _ => .error (.malformed .unterminated start)
  | n + 1, r =>
    match r.text with
    | [] => .error (.malformed .unterminated start)
    | c :: rest =>
      if c = 0x22 then .ok ([], r.skip 1)
      else if c = 0x5C then
        match rest with
        | [] => .error (.malformed .unterminated start)
        | d :: _ =>
          if d = 0x75 then do
            let (v, r) ← readCodeUnit (r.skip 1)
            let (t, r) ← readString start n r
            return (v :: t, r)
          else match escapeValue? d with
            | none => r.fail .badEscape
            | some v => do
              let (t, r) ← readString start n (r.skip 2)
              return (v :: t, r)
      else if c < 0x20 then r.fail .controlCharacter
      else do
        let (t, r) ← readString start n (r.skip 1)
        return (c :: t, r)

/-- Reads a string, before whose quote `r` stands. -/
def readQuoted (n : Nat) (r : Rest) : Except Failure (Text × Rest) :=
  readString r.position n (r.skip 1)

/-- The digits that a text starts with. -/
def leadingDigits (t : Text) : Text := t.takeWhile Text.isDigit

/-- The digits behind a decimal point, and how long they are with the point. -/
def fractionPart (t : Text) : Text × Nat :=
  match t with
  | 0x2E :: rest =>
    let ds := leadingDigits rest
    if ds.isEmpty then ([], 0) else (ds, ds.length + 1)
  | _ => ([], 0)

/-- The value of an exponent, and how long it is with its letter and sign. -/
def exponentPart (t : Text) : Option (Int × Nat) :=
  match t with
  | c :: rest =>
    if c = 0x65 ∨ c = 0x45 then
      let (negative, signs) := match rest with
        | 0x2D :: _ => (true, 1)
        | 0x2B :: _ => (false, 1)
        | _ => (false, 0)
      let ds := leadingDigits (rest.drop signs)
      let e : Int := Text.valueOf 10 ds
      if ds.isEmpty then none else some (if negative then -e else e, 1 + signs + ds.length)
    else none
  | [] => none

/-- Reads a number. -/
def readNumber (r : Rest) : Except Failure (Json × Rest) :=
  let negative := r.text.head? = some 0x2D
  let start := if negative then r.skip 1 else r
  let whole := match start.text with
    | 0x30 :: _ => [0x30]
    | t => leadingDigits t
  if whole.isEmpty then r.fail .noValue
  else
    let behind := start.skip whole.length
    let (fraction, fractionLength) := fractionPart behind.text
    let behind := behind.skip fractionLength
    match fractionLength, exponentPart behind.text with
    | 0, none =>
      if whole.length > digitLimit then .error (.tooManyDigits whole.length)
      else
        let n : Int := Text.valueOf 10 whole
        .ok (int (if negative then -n else n), behind)
    | _, e =>
      let (e, length) := e.getD (0, 0)
      let x := Binary64.ofDecimal negative (Text.valueOf 10 (whole ++ fraction)) (e - fraction.length)
      .ok (real x, behind.skip length)

/-- The words that stand for values. -/
def words : List (Text × Json) :=
  [(Text.lit "null", null), (Text.lit "true", bool true), (Text.lit "false", bool false),
   (Text.lit "NaN", real .nan), (Text.lit "Infinity", real (.infinite false)),
   (Text.lit "-Infinity", real (.infinite true))]

/-- Reads a word or a number. -/
def readAtom (r : Rest) : Except Failure (Json × Rest) :=
  match words.find? fun w => w.1.isPrefixOf r.text with
  | some (w, v) => .ok (v, r.skip w.length)
  | none => readNumber r

/-! ## Values -/

mutual

/-- Reads a value. -/
def readValue : Nat → Rest → Except Failure (Json × Rest)
  | 0, r => r.fail .noValue
  | n + 1, r =>
    match r.text.head? with
    | some 0x22 => do
      let (t, r) ← readQuoted n r
      return (string t, r)
    | some 0x7B =>
      let next := (r.skip 1).skipBlanks
      if next.text.head? = some 0x7D then .ok (object [], next.skip 1)
      else readMembers n [] next
    | some 0x5B =>
      let next := (r.skip 1).skipBlanks
      if next.text.head? = some 0x5D then .ok (array [], next.skip 1)
      else do
        let (items, r) ← readItems n next
        return (array items, r)
    | _ => readAtom r

/-- Reads the items of an array and the closing bracket. -/
def readItems : Nat → Rest → Except Failure (List Json × Rest)
  | 0, r => r.fail .noValue
  | n + 1, r => do
    let (v, r) ← readValue n r
    let r := r.skipBlanks
    match r.text.head? with
    | some 0x5D => return ([v], r.skip 1)
    | some 0x2C => do
      let (rest, r) ← readItems n (r.skip 1).skipBlanks
      return (v :: rest, r)
    | _ => r.fail .noComma

/-- Reads the members of an object and the closing brace, after `known` ones. -/
def readMembers : Nat → List (Text × Json) → Rest → Except Failure (Json × Rest)
  | 0, _, r => r.fail .noName
  | n + 1, known, r => do
    if r.text.head? ≠ some 0x22 then r.fail .noName
    else
      let (name, r) ← readQuoted n r
      let r := r.skipBlanks
      if r.text.head? ≠ some 0x3A then r.fail .noColon
      else
        let (v, r) ← readValue n (r.skip 1).skipBlanks
        let r := r.skipBlanks
        let known := insert name v known
        match r.text.head? with
        | some 0x7D => return (object known, r.skip 1)
        | some 0x2C => readMembers n known (r.skip 1).skipBlanks
        | _ => r.fail .noComma

end

/-- Reads a text that holds one value and blanks. -/
def readText (t : Text) : Except Failure Json := do
  let (v, r) ← readValue (2 * t.length + 2) (Rest.mk t 0).skipBlanks
  let r := r.skipBlanks
  if r.text.isEmpty then return v else .error (.malformed .extraData r.position)

/-- Reads a text that must not start with a byte order mark. -/
def read (t : Text) : Except Failure Json :=
  if t.head? = some 0xFEFF then .error (.malformed .byteOrderMark 0) else readText t

end Json

end ScriptDeps
