import ScriptDeps.Log

namespace ScriptDeps.Log

/-! # Log lines

A line starts with the letter of the level, the time and the component in brackets, on a terminal in
the colour of the level.
-/

/-! ## Times -/

/-- A point in time, in universal time. -/
structure Moment where
  /-- Whole seconds since the start of 1970. -/
  seconds : Int
  milliseconds : Int

/-- The year, the month and the day that lie so many days after the start of 1970. Years are counted
from the first of March, so that a leap day is the last day of its year. -/
def civilDate (days : Int) : Int × Nat × Nat :=
  let z := days + 719468
  let era := Int.fdiv z 146097
  let dayOfEra := (z - era * 146097).toNat
  let yearOfEra := (dayOfEra - dayOfEra / 1460 + dayOfEra / 36524 - dayOfEra / 146096) / 365
  let dayOfYear := dayOfEra - (365 * yearOfEra + yearOfEra / 4 - yearOfEra / 100)
  let m := (5 * dayOfYear + 2) / 153
  let day := dayOfYear - (153 * m + 2) / 5 + 1
  let month := if m < 10 then m + 3 else m - 9
  let year := (yearOfEra : Int) + era * 400 + (if month ≤ 2 then 1 else 0)
  (year, month, day)

/-- An integer with at least so many places, zeros and the sign included. -/
def paddedInt (width : Nat) (n : Int) : Text :=
  if n < 0 then 0x2D :: Text.padded (width - 1) n.natAbs else Text.padded width n.natAbs

/-- A point in time, as it stands in a line. -/
def Moment.text (t : Moment) : Text :=
  let days := Int.fdiv t.seconds 86400
  let second := (t.seconds - days * 86400).toNat
  let (year, month, day) := civilDate days
  paddedInt 4 year ++ Text.lit "-" ++ Text.padded 2 month ++ Text.lit "-" ++ Text.padded 2 day ++
    Text.lit " " ++ Text.padded 2 (second / 3600) ++ Text.lit ":" ++
    Text.padded 2 (second / 60 % 60) ++ Text.lit ":" ++ Text.padded 2 (second % 60) ++
    Text.lit "." ++ paddedInt 3 t.milliseconds

example : civilDate 0 = (1970, 1, 1) := by decide +kernel
example : civilDate 19783 = (2024, 3, 1) := by decide +kernel
example : civilDate (-1) = (1969, 12, 31) := by decide +kernel

/-! ## Prefixes -/

/-- The level of that number, if it has a name. -/
def Level.ofNumber? (n : Int) : Option Level := all.find? fun l => l.number == n

/-- The letter for a level. -/
def letter (n : Int) : Text :=
  match Level.ofNumber? n with
  | some l => (Text.lit l.name).take 1
  | none => Text.lit (if n = 0 then "N" else "L")

/-- The name that all components start with. -/
def package : Text := Text.lit "webtask_analyzer"

/-- A component without the name that all start with. -/
def shortComponent (component : Text) : Text :=
  if (package ++ Text.lit ".").isPrefixOf component then component.drop (package.length + 1)
  else if component = package then Text.lit "WebtaskAnalyzer"
  else component

/-- What stands in brackets before a message. -/
def header (r : Record) (time : Text) : Text :=
  Text.lit "[" ++ letter r.level ++ Text.lit " " ++ time ++ Text.lit " " ++
    shortComponent r.component ++ Text.lit "]"

/-! ## Colours -/

/-- What starts to colour a terminal: `0` ends all colours. -/
def colourCode (code : String) : Text := 0x1B :: Text.lit "[" ++ Text.lit code ++ Text.lit "m"

/-- The colour of a level. -/
def Level.colour : Level → String
  | debug => "36"
  | info => "32"
  | warning => "33"
  | error => "31"
  | critical => "35"

/-- A text in the colour of a level. -/
def coloured (level : Int) (t : Text) : Text :=
  colourCode (((Level.ofNumber? level).map Level.colour).getD "0") ++ t ++ colourCode "0"

/-! ## Lines -/

/-- The line of a record, and behind it the error that goes with the record. -/
def line (onTerminal : Bool) (time : Text) (r : Record) (failure : Option Text) : Text :=
  let h := header r time
  (if onTerminal then coloured r.level h else h) ++ Text.lit " " ++ r.message ++
    match failure with
    | some e => 0x0A :: e
    | none => []

/-- An error of a kind, with its text if it has any. -/
def failureText (kind : String) (t : Text) : Text :=
  Text.lit kind ++ if t.isEmpty then [] else Text.lit ": " ++ t

/-! ## Logging -/

/-- What becomes of records. -/
structure Setup where
  /-- Less urgent records are left out. -/
  threshold : Int
  onTerminal : Bool

/-- The record is not left out. Records of level zero always are. -/
def Setup.admits (s : Setup) (r : Record) : Bool := r.level > 0 && r.level ≥ s.threshold

/-- All that is written for the records. -/
def Setup.write (s : Setup) (time : Text) (records : List Record) : Text :=
  (records.filter s.admits).flatMap fun r => line s.onTerminal time r none ++ [0x0A]

/-- All that is written if nothing was set up: the messages of warnings and worse. -/
def writePlain (records : List Record) : Text :=
  (records.filter fun r => r.level ≥ Level.warning.number).flatMap fun r => r.message ++ [0x0A]

end ScriptDeps.Log
