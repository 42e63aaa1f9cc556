import ScriptDeps.Grammar.Token
import ScriptDeps.Grammar.Table.Actions
import ScriptDeps.Grammar.Table.Gotos
import ScriptDeps.Grammar.Table.States
import ScriptDeps.Grammar.Table.SymbolSets

namespace ScriptDeps.Grammar

/-! # The automaton of the grammar

The states of the parser with what can be done in each of them, read from the codes of the tables.
State `0` passes over errors, state `1` is where parsing starts.
-/

/-- A set of tokens: bit `n` stands for token `n`. -/
abbrev TokenSet := Nat

/-- One state of the automaton. -/
structure State where
  /-- The tokens, in groups that are treated alike, with what can be done at them. -/
  groups : List (TokenSet × List Action)
  /-- The states behind nonterminals. -/
  gotos : List (Nat × Nat)
  /-- The number of the reading mode. -/
  mode : Nat
  /-- A reserved word is no name here. -/
  reserving : Bool
  /-- The tokens at which something can be done. -/
  tokens : TokenSet
deriving Repr, Inhabited

/-! ## Reading the codes -/

/-- The lowest `n` pairs of twelve-bit numbers in a code. -/
def readPairs : Nat → Nat → List (Nat × Nat)
  | 0, _ => []
  | n + 1, code =>
    if code = 0 then []
    else (code % 4096, code / 4096 % 4096) :: readPairs n (code / 16777216)

/-- More pairs than any code has. -/
def maxPairs : Nat := 256

/-- What a group's number for what to do stands for. -/
def readCell (n : Nat) : List Action :=
  if n < 2048 then [.shift n] else cells.getD (n - 2048) []

/-- The state that a code describes. -/
def State.read (code : Nat) : State :=
  let groups := (readPairs maxPairs (code / 65536)).map fun p =>
    (symbolSets.getD p.2 0, readCell p.1)
  { groups
    gotos := readPairs maxPairs (gotoCodes.getD (code % 1024) 0)
    mode := code / 1024 % 16
    reserving := code / 16384 % 2 = 1
    tokens := groups.foldl (fun s g => s ||| g.1) 0 }

/-- The states by number. -/
@[irreducible] def states : Array State := (stateCodes.map State.read).toArray

/-- The state of that number. -/
def state (n : Nat) : State := states.getD n default

/-! ## What can be done -/

/-- What can be done at a token in a state. -/
def State.actions (s : State) (token : Nat) : List Action :=
  match s.groups.find? fun g => g.1.testBit token with
  | some g => g.2
  | none => []

/-- Something can be done at the token. -/
def State.allows (s : State) (token : Nat) : Bool := s.tokens.testBit token

/-- The state that `n` leads to behind a symbol, or `0` if the symbol cannot stand there. -/
def successor (n symbol : Nat) : Nat :=
  if symbol < tokenCount then
    match ((state n).actions symbol).getLast? with
    | some (.shift t) => t
    | some (.again t) => t
    | some .extra => n
    | _ => 0
  else match (state n).gotos.find? fun g => g.1 == symbol with
    | some g => g.2
    | none => 0

/-- The token makes the parser build a node before it is taken. -/
def State.reducesAt (s : State) (token : Nat) : Bool :=
  match s.actions token with
  | .reduce .. :: _ => true
  | _ => false

/-! ## Words -/

/-- The tokens that are spelled like names. -/
def keywords : TokenSet := 0x1aff000720000000013c000f7fc7ffc68

/-- The words that are no names where a state says so. -/
def reservedWords : TokenSet := 0x7c000720000000012c00077fc78b428

/-- The keywords with their spelling. -/
def keywordTexts : List (List Char × Nat) :=
  (List.range tokenCount).filterMap fun n =>
    if keywords.testBit n then some ((symbolInfo n).kind.toList, n) else none

/-- The keyword of that spelling. -/
def keyword? (word : List Char) : Option Nat :=
  (keywordTexts.find? fun k => k.1 == word).map (·.2)

/-- The word is reserved in the state. -/
def State.reserves (s : State) (token : Nat) : Bool := s.reserving && reservedWords.testBit token

end ScriptDeps.Grammar
