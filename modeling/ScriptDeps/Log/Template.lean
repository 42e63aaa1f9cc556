import ScriptDeps.Json.Basic
import ScriptDeps.Number.Rounded
import ScriptDeps.Text.Quoted

namespace ScriptDeps.Log

open Text (lit)

/-! # Message templates

A template is a text with places for arguments. A place starts with a percent sign and says how its
argument is written: as a text, as a number to some base, or with how many digits.
-/

/-! ## Values as texts -/

mutual

/-- A value as it is shown among others. -/
def shown : Json → Text
  | .null => lit "None"
  | .bool b => lit (if b then "True" else "False")
  | .int n => Text.ofInt n
  | .real x => x.text
  | .string t => Text.quoted t
  | .array items => lit "[" ++ shownItems [] items ++ lit "]"
  | .object members => 0x7B :: shownMembers [] members ++ [0x7D]

/-- The items of a list; `lead` stands before the next of them. -/
def shownItems (lead : Text) : List Json → Text
  | [] => []
  | v :: rest => lead ++ shown v ++ shownItems (lit ", ") rest

/-- The members of an object; `lead` stands before the next of them. -/
def shownMembers (lead : Text) : List (Text × Json) → Text
  | [] => []
  | (k, v) :: rest =>
    lead ++ Text.quoted k ++ lit ": " ++ shown v ++ shownMembers (lit ", ") rest

end

/-- A value as it is shown alone: a string without quotes. -/
def plain : Json → Text
  | .string t => t
  | v => shown v

/-- A text in which everything beyond ASCII is an escape. -/
def asciiOnly (t : Text) : Text :=
  t.flatMap fun c =>
    if c < 0x80 then [c]
    else if c < 0x100 then lit "\\x" ++ Text.hex 2 c
    else if c < 0x10000 then lit "\\u" ++ Text.hex 4 c
    else lit "\\U" ++ Text.hex 8 c

/-! ## Errors -/

/-- Why a template cannot be filled in. -/
inductive TemplateError where
  | tooFewArguments
  | tooManyArguments
  | noMapping
  | noMember (name : Text)
  | incomplete
  | incompleteName
  | badConversion (c index : Nat)
  | noStarWidth
  | noReal (conversion : Nat) (kind : String)
  | noInteger (conversion : Nat) (kind : String)
  | noFloat (kind : String)
  | noCharacter
  | characterTooLarge
  | tooLargeForFloat
  | infinite
  | notANumber
deriving DecidableEq, Repr

/-- The name of the kind of an error. -/
def TemplateError.kind : TemplateError → String
  | incomplete | incompleteName | badConversion .. | notANumber => "ValueError"
  | noMember _ => "KeyError"
  | characterTooLarge | tooLargeForFloat | infinite => "OverflowError"
  | _ => "TypeError"

/-- An error in words. -/
def TemplateError.message : TemplateError → Text
  | tooFewArguments => lit "not enough arguments for format string"
  | tooManyArguments => lit "not all arguments converted during string formatting"
  | noMapping => lit "format requires a mapping"
  | noMember name => Text.quoted name
  | incomplete => lit "incomplete format"
  | incompleteName => lit "incomplete format key"
  | badConversion c index =>
    let shownChar := if 0x1F ≤ c ∧ c ≤ 0x7E then c else 0x3F
    lit "unsupported format character '" ++ [shownChar] ++ lit "' (0x" ++
      lit (String.ofList (Nat.toDigits 16 c)) ++ lit ") at index " ++ Text.ofNat index
  | noStarWidth => lit "* wants int"
  | noReal c kind =>
    0x25 :: c :: lit " format: a real number is required, not " ++ lit kind
  | noInteger c kind => 0x25 :: c :: lit " format: an integer is required, not " ++ lit kind
  | noFloat kind => lit "must be real number, not " ++ lit kind
  | noCharacter => lit "%c requires int or char"
  | characterTooLarge => lit "%c arg not in range(0x110000)"
  | tooLargeForFloat => lit "int too large to convert to float"
  | infinite => lit "cannot convert float infinity to integer"
  | notANumber => lit "cannot convert float NaN to integer"

/-! ## Places -/

/-- How an argument is written. -/
structure Place where
  left : Bool := false
  plus : Bool := false
  blank : Bool := false
  alternate : Bool := false
  zero : Bool := false
  width : Nat := 0
  precision : Option Nat := none
  conversion : Nat := 0x73

/-- Sets a flag. -/
def Place.flag? (p : Place) (c : Nat) : Option Place :=
  if c = 0x2D then some { p with left := true }
  else if c = 0x2B then some { p with plus := true }
  else if c = 0x20 then some { p with blank := true }
  else if c = 0x23 then some { p with alternate := true }
  else if c = 0x30 then some { p with zero := true }
  else none

/-- A text in a place of some width. -/
def Place.padText (p : Place) (t : Text) : Text :=
  let fill := List.replicate (p.width - t.length) 0x20
  if p.left then t ++ fill else fill ++ t

/-- A number in a place of some width; zeros go between its sign and its digits. -/
def Place.padNumber (p : Place) (minus : Bool) (mark digits : Text) : Text :=
  let sign := if minus then lit "-" else if p.plus then lit "+" else if p.blank then lit " " else []
  let t := sign ++ mark ++ digits
  if p.zero && !p.left then
    sign ++ mark ++ List.replicate (p.width - t.length) 0x30 ++ digits
  else p.padText t

/-- Digits, filled up with zeros to the precision. -/
def Place.fillDigits (p : Place) (ds : Text) : Text :=
  List.replicate (p.precision.getD 0 - ds.length) 0x30 ++ ds

/-- The digits of a number to a base. -/
def digitsTo (base n : Nat) (upper : Bool) : Text :=
  let ds := lit (String.ofList (Nat.toDigits base n))
  if upper then ds.map fun c => if 0x61 ≤ c ∧ c ≤ 0x7A then c - 0x20 else c else ds

/-- The integer that an argument is. -/
def integerOf (fractions : Bool) (conversion : Nat) : Json → Except TemplateError Int
  | .int n => .ok n
  | .bool b => .ok (if b then 1 else 0)
  | .real x =>
    if !fractions then .error (.noInteger conversion "float")
    else match x.truncate?, x with
      | some n, _ => .ok n
      | none, .nan => .error .notANumber
      | none, _ => .error .infinite
  | v =>
    if fractions then .error (.noReal conversion v.kindName)
    else .error (.noInteger conversion v.kindName)

/-- The number of double precision that an argument is. -/
def realOf : Json → Except TemplateError Binary64
  | .real x => .ok x
  | .bool b => .ok (Binary64.ofInt (if b then 1 else 0))
  | .int n =>
    match Binary64.ofInt n with
    | .infinite _ => .error .tooLargeForFloat
    | x => .ok x
  | v => .error (.noFloat v.kindName)

/-- A number with a point or an exponent. -/
def Place.real (p : Place) (x : Binary64) : Text :=
  let upper := p.conversion < 0x61
  let kind := if upper then p.conversion + 0x20 else p.conversion
  let digits := p.precision.getD 6
  let t := match x.fraction? with
    | none => if x = .nan then lit "nan" else lit "inf"
    | some (num, den) =>
      if kind = 0x66 then Binary64.fixedText p.alternate digits num den
      else if kind = 0x65 then Binary64.exponentText p.alternate digits num den
      else Binary64.generalText p.alternate digits num den
  let t := if upper then t.map fun c => if 0x61 ≤ c ∧ c ≤ 0x7A then c - 0x20 else c else t
  p.padNumber x.hasMinus [] t

/-- An argument in its place; `index` tells where the conversion stands. -/
def Place.write (p : Place) (index : Nat) (v : Json) : Except TemplateError Text :=
  let c := p.conversion
  let text (t : Text) : Text := p.padText (t.take (p.precision.getD t.length))
  if c = 0x73 then .ok (text (plain v))
  else if c = 0x72 then .ok (text (shown v))
  else if c = 0x61 then .ok (text (asciiOnly (shown v)))
  else if c = 0x64 ∨ c = 0x69 ∨ c = 0x75 then do
    let n ← integerOf true c v
    return p.padNumber (n < 0) [] (p.fillDigits (Text.ofNat n.natAbs))
  else if c = 0x78 ∨ c = 0x58 ∨ c = 0x6F then do
    let n ← integerOf false c v
    let ds := digitsTo (if c = 0x6F then 8 else 16) n.natAbs (c == 0x58)
    return p.padNumber (n < 0) (if p.alternate then [0x30, c] else []) (p.fillDigits ds)
  else if c = 0x65 ∨ c = 0x45 ∨ c = 0x66 ∨ c = 0x46 ∨ c = 0x67 ∨ c = 0x47 then
    (realOf v).map p.real
  else if c = 0x63 then
    match v with
    | .string [x] => .ok (p.padText [x])
    | .int n => if 0 ≤ n ∧ n ≤ 0x10FFFF then .ok (p.padText [n.toNat]) else .error .characterTooLarge
    | .bool b => .ok (p.padText [if b then 1 else 0])
    | _ => .error .noCharacter
  else .error (.badConversion c index)

/-! ## Filling in -/

/-- What a template is filled in with. -/
inductive Arguments where
  | list (vs : List Json)
  | mapping (members : List (Text × Json))

/-- The arguments that are left. One mapping is an argument as a whole, too, but need not be
used. -/
structure Supply where
  given : Arguments
  rest : List Json

/-- All arguments. -/
def Supply.ofArguments (a : Arguments) : Supply :=
  ⟨a, match a with
    | .list vs => vs
    | .mapping members => [.object members]⟩

/-- Takes the next argument. -/
def Supply.next (s : Supply) : Except TemplateError (Json × Supply) :=
  match s.rest with
  | v :: rest => .ok (v, { s with rest })
  | [] => .error .tooFewArguments

/-- What is left of a template, and how much was read. -/
structure Reading where
  text : Text
  index : Nat
  supply : Supply

/-- Goes on behind `n` code points. -/
def Reading.skip (r : Reading) (n : Nat) : Reading :=
  { r with text := r.text.drop n, index := r.index + n }

/-- The name in parentheses that a text starts with; parentheses in it are paired. -/
def nameIn (depth : Nat) : Text → Option Text
  | [] => none
  | c :: rest =>
    if c = 0x29 then if depth = 0 then some [] else (nameIn (depth - 1) rest).map (c :: ·)
    else (nameIn (if c = 0x28 then depth + 1 else depth) rest).map (c :: ·)

/-- Reads the name of a member, which becomes the next argument. -/
def readName (r : Reading) : Except TemplateError Reading :=
  match r.text with
  | 0x28 :: rest =>
    match r.supply.given with
    | .list _ => .error .noMapping
    | .mapping members =>
      match nameIn 0 rest with
      | none => .error .incompleteName
      | some name =>
        match Json.lookup name members with
        | none => .error (.noMember name)
        | some v =>
          .ok { r.skip (name.length + 2) with supply := { r.supply with rest := [v] } }
  | _ => .ok r

/-- Reads the flags. -/
def readFlags : Nat → Place → Reading → Place × Reading
  | 0, p, r => (p, r)
  | n + 1, p, r =>
    match r.text with
    | c :: _ =>
      match p.flag? c with
      | some p => readFlags n p (r.skip 1)
      | none => (p, r)
    | [] => (p, r)

/-- Reads a number, or a star and the argument that is the number. -/
def readAmount (r : Reading) : Except TemplateError (Option Int × Reading) :=
  match r.text with
  | 0x2A :: _ => do
    let (v, supply) ← r.supply.next
    match v with
    | .int n => return (some n, { r.skip 1 with supply })
    | .bool b => return (some (if b then 1 else 0), { r.skip 1 with supply })
    | _ => .error .noStarWidth
  | t =>
    let ds := t.takeWhile Text.isDigit
    .ok (if ds.isEmpty then none else some (Text.valueOf 10 ds), r.skip ds.length)

/-- Reads a place behind its percent sign. -/
def readPlace (r : Reading) : Except TemplateError (Text × Reading) := do
  let r ← readName r
  let (p, r) := readFlags (r.text.length + 1) {} r
  let (width, r) ← readAmount r
  let width := width.getD 0
  let p := { p with width := width.natAbs, left := p.left || width < 0 }
  let (p, r) ← match r.text with
    | 0x2E :: _ => do
      let (n, r) ← readAmount (r.skip 1)
      pure ({ p with precision := some (n.getD 0).toNat }, r)
    | _ => pure (p, r)
  let r := match r.text with
    | c :: _ => if c = 0x68 ∨ c = 0x6C ∨ c = 0x4C then r.skip 1 else r
    | [] => r
  match r.text with
  | [] => .error .incomplete
  | c :: _ =>
    let (v, supply) ← r.supply.next
    let t ← { p with conversion := c }.write r.index v
    return (t, { r.skip 1 with supply })

/-- Fills in what is left of a template. Two percent signs stand for one. -/
def fillFrom : Nat → Reading → Except TemplateError Text
  | 0, _ => .ok []
  | n + 1, r =>
    match r.text with
    | [] =>
      match r.supply.given, r.supply.rest with
      | .list _, _ :: _ => .error .tooManyArguments
      | _, _ => .ok []
    | 0x25 :: 0x25 :: _ => (fillFrom n (r.skip 2)).map (0x25 :: ·)
    | 0x25 :: _ => do
      let (t, r) ← readPlace (r.skip 1)
      return t ++ (← fillFrom n r)
    | c :: _ => (fillFrom n (r.skip 1)).map (c :: ·)

/-- Fills in a template. -/
def fill (template : Text) (a : Arguments) : Except TemplateError Text :=
  fillFrom (template.length + 1) ⟨template, 0, .ofArguments a⟩

/-- The message of a template. Without arguments it is the template; one mapping that is not empty
gives arguments by name. -/
def message (template : Text) : List Json → Except TemplateError Text
  | [] => .ok template
  | [.object (m :: ms)] => fill template (.mapping (m :: ms))
  | vs => fill template (.list vs)

end ScriptDeps.Log
