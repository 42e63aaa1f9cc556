import ScriptDeps.Parse.Reader
import ScriptDeps.Parse.Scanner
import ScriptDeps.Parse.Tree

namespace ScriptDeps.Parse

open Source (Cursor Position)

/-! # The next token

In a state of the parser only some tokens can stand. The scanner is asked first, then the tokens
that are known by their text are read. Where none of them stands, any token is taken, and glyphs
that start no token at all are collected into an error.
-/

/-- A token that stands somewhere. -/
structure Found where
  symbol : Nat
  start : Position
  stop : Position
  /-- The token was found by the scanner. -/
  scanned : Bool

/-- What the scanner finds among the tokens of a state, unless it is an empty token that would not
lead on: in the midst of an error, right behind one, or where it would not change the state. -/
def scanAt (state among : Nat) (advanced : Bool) (c : Cursor) : Option Found :=
  match scan (Grammar.state among).tokens c.begin with
  | (some symbol, d) =>
    let (start, stop) := d.bounds
    let idle := stop.offset ≤ c.place.offset &&
      (among = 0 || !advanced || Grammar.successor state symbol = state)
    if idle then none else some { symbol, start, stop, scanned := true }
  | (none, _) => none

/-- The token among those of a state that stands at the cursor, and where reading stopped. -/
@[irreducible] def tokenAt (state among : Nat) (advanced : Bool) (c : Cursor) : Option Found × Cursor :=
  match scanAt state among advanced c with
  | some f => (some f, c)
  | none =>
    match readToken (Grammar.state among).mode c.begin with
    | (some symbol, d) =>
      let (start, stop) := d.bounds
      (some { symbol, start, stop, scanned := false }, d)
    | (none, d) => (none, d)

/-- Passes over glyphs until any token stands; returns where that is. `d` is where reading stopped
when it was tried last, and everything before `stop` is passed over already. -/
def passOver (state : Nat) (advanced : Bool) : Nat → Position → Cursor → Position
  | 0, stop, _ => stop
  | n + 1, stop, d =>
    if d.place.offset = stop.offset ∧ d.glyph = .stop then stop
    else
      let p := if d.place.offset = stop.offset then d.next else d.place
      match tokenAt state 0 advanced (Cursor.moveTo d.bytes p) with
      | (some _, _) => p
      | (none, d) => passOver state advanced n p d

/-- The token at a name: a keyword, if it can stand here or is reserved here, else the name. The
flag says that a keyword starts the word. -/
def classifyWord (state : Nat) (text : List Char) : Nat × Bool :=
  let starts := Grammar.keywordTexts.any fun k => k.1.isPrefixOf text
  if !starts then (Grammar.wordSymbol, false)
  else match Grammar.keyword? text with
    | some k =>
      let s := Grammar.state state
      (if s.allows k || s.reserves k then k else Grammar.wordSymbol, true)
    | none => (Grammar.wordSymbol, true)

/-- The bytes between two offsets as characters, one for each byte. -/
def bytesText (bytes : ByteArray) (start stop : Nat) : List Char :=
  (bytes.extract start stop).data.toList.map fun b => Char.ofNat b.toNat

/-- The tree of a token. -/
def Found.toTree (f : Found) (bytes : ByteArray) (state : Nat) (place : Position) : Tree :=
  if !f.scanned && f.symbol = Grammar.wordSymbol then
    let (symbol, keyword) := classifyWord state (bytesText bytes f.start.offset f.stop.offset)
    .token symbol place f.start f.stop state keyword
  else .token f.symbol place f.start f.stop state false

/-- The next token behind a place. `advanced` says that something was read since the last error. -/
def nextToken (bytes : ByteArray) (state : Nat) (advanced : Bool) (place : Position) : Tree :=
  let c := Cursor.moveTo bytes place
  let (found, d) := match tokenAt state state advanced c with
    | (some f, d) => (some f, d)
    | (none, d) => if state = 0 then (none, d) else tokenAt state 0 advanced c
  match found with
  | some f => f.toTree bytes state place
  | none =>
    let start := d.tokenStart
    .token errorSymbol place start (passOver state advanced (c.budget + 1) start d) state false

end ScriptDeps.Parse
