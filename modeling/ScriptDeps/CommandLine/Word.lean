import ScriptDeps.CommandLine.Page
import ScriptDeps.Text.Integer
import ScriptDeps.Text.Quoted

namespace ScriptDeps.CommandLine

open Text (lit)

/-! # Words

What a word is depends on its spelling alone: a switch may be shortened as long as only one switch
begins like that, its value may follow behind an equals sign, and behind a word of two dashes all
words are operands.
-/

/-! ## Errors -/

/-- What is wrong with a command line. -/
inductive LineError where
  /-- Several switches begin like a word. -/
  | ambiguous (word : Text) (spellings : List String)
  /-- A switch that takes no value has one. -/
  | unexpectedValue (s : Switch) (value : Text)
  | missingValue (s : Switch)
  | unknownLevel (value : Text)
  | unknownCommand (word : Text)
  | missingFiles
  | missingCommand
  | unrecognized (words : List Text)
  /-- The configuration of the cluster is no good. -/
  | configuration (reason : Text)
deriving DecidableEq, Repr

namespace LineError

/-- What is said of a switch. -/
def ofSwitch (s : Switch) (t : Text) : Text :=
  lit "argument " ++ lit ("/".intercalate s.names) ++ lit ": " ++ t

/-- A word that is none of those that may stand there. -/
def notAmong (word : Text) (choices : List String) : Text :=
  lit "invalid choice: " ++ Text.quoted word ++ lit " (choose from " ++
    Text.join (lit ", ") (choices.map fun c => Text.quoted (lit c)) ++ lit ")"

/-- An error in words. -/
def message : LineError → Text
  | ambiguous word spellings =>
    lit "ambiguous option: " ++ word ++ lit " could match " ++ lit (", ".intercalate spellings)
  | unexpectedValue s value =>
    ofSwitch s (lit "ignored explicit argument " ++ Text.quoted value)
  | missingValue s => ofSwitch s (lit "expected one argument")
  | unknownLevel value => ofSwitch .logLevel (notAmong value (Log.Level.all.map Log.Level.name))
  | unknownCommand word =>
    lit "argument command: " ++ notAmong word (Command.all.map Command.name)
  | missingFiles => lit "the following arguments are required: files"
  | missingCommand =>
    lit "A subcommand is required. See '" ++ lit program ++ lit " --help'."
  | unrecognized words => lit "unrecognized arguments: " ++ Text.join (lit " ") words
  | configuration reason => lit "Invalid cluster configuration: " ++ reason

end LineError

/-! ## Kinds of words -/

/-- What is attached to a switch within the same word. -/
inductive Attached where
  | nothing
  /-- More letters behind a switch of one letter. -/
  | letters (t : Text)
  /-- A value behind an equals sign. -/
  | value (t : Text)
deriving DecidableEq, Repr

/-- What a word is. -/
inductive Kind where
  /-- Two dashes. -/
  | separator
  | operand
  | switch (s : Switch) (a : Attached)
  /-- It looks like a switch, but there is none like that. -/
  | unknown
deriving DecidableEq, Repr

/-- A word and what it is. -/
structure Word where
  text : Text
  kind : Kind
deriving DecidableEq, Repr

/-- The dash. -/
def dash : Nat := 0x2D

/-- Two dashes, which end the switches. -/
def endOfSwitches : Text := [dash, dash]

/-- The part before the first equals sign and what is attached by it. -/
def splitValue (t : Text) : Text × Attached :=
  match t.dropWhile (· != 0x3D) with
  | [] => (t, .nothing)
  | _ :: value => (t.takeWhile (· != 0x3D), .value value)

/-- A dash and a decimal number. A line feed may follow. -/
def isNegativeNumber (t : Text) : Bool :=
  let isDigit (c : Nat) : Bool := (Text.digitValue? c).isSome
  match t with
  | [] => false
  | c :: body =>
    let body := if body.getLast? = some 0x0A then body.dropLast else body
    let digits := match body.dropWhile isDigit with
      | 0x2E :: fraction => fraction
      | _ => body
    c == dash && !digits.isEmpty && digits.all isDigit

/-- The switches that a word may be short for, with the spelling. -/
def candidates (p : Page) (t : Text) : List (String × Switch × Attached) :=
  if endOfSwitches.isPrefixOf t then
    let (start, attached) := splitValue t
    (p.spellings.filter fun n => start.isPrefixOf (lit n.1)).map fun n => (n.1, n.2, attached)
  else
    p.spellings.filterMap fun n =>
      if lit n.1 = t.take 2 then some (n.1, n.2, .letters (t.drop 2))
      else if t.isPrefixOf (lit n.1) then some (n.1, n.2, .nothing)
      else none

/-- The switch that is spelled out. -/
def spelled? (p : Page) (t : Text) : Option Switch :=
  (p.spellings.find? fun n => lit n.1 == t).map (·.2)

/-- The kind of a word that may be a switch. -/
def kindOf (p : Page) (t : Text) : Except LineError Kind :=
  if t.head? ≠ some dash then .ok .operand
  else match spelled? p t with
    | some s => .ok (.switch s .nothing)
    | none =>
      if t.length = 1 then .ok .operand
      else match spelled? p (splitValue t).1, (splitValue t).2 with
        | some s, attached => .ok (.switch s attached)
        | none, _ =>
          match candidates p t with
          | [(_, s, attached)] => .ok (.switch s attached)
          | [] => .ok (if isNegativeNumber t || t.contains 0x20 then .operand else .unknown)
          | several => .error (.ambiguous t (several.map (·.1)))

/-- The words of a page with their kinds. -/
def wordsOf (p : Page) : List Text → Except LineError (List Word)
  | [] => .ok []
  | t :: rest =>
    if t = endOfSwitches then .ok (⟨t, .separator⟩ :: rest.map (⟨·, .operand⟩))
    else do
      let kind ← kindOf p t
      let words ← wordsOf p rest
      return ⟨t, kind⟩ :: words

example : (wordsOf .program [lit "--pro=a b", lit "-5", lit "--", lit "-h"]).toOption =
    some [⟨lit "--pro=a b", .switch .profile (.value (lit "a b"))⟩, ⟨lit "-5", .operand⟩,
      ⟨lit "--", .separator⟩, ⟨lit "-h", .operand⟩] := by decide +kernel

end ScriptDeps.CommandLine
