import ScriptDeps.Grammar.Automaton
import ScriptDeps.Source.Glyph
import ScriptDeps.Syntax.Node

namespace ScriptDeps.Parse

open Source (Position)
open Syntax (Node)
open Grammar (SymbolInfo)

/-! # What the parser builds

A tree stands for a token or for a rule of the grammar that was applied to the trees before it. It
keeps what is needed to choose between readings of a source: what its errors cost, and how much
weight the grammar gives to the rules in it.
-/

/-- The symbol of a tree around what could not be read. -/
def errorSymbol : Nat := 65535

/-- The symbol of a run of tokens that are being passed over. -/
def errorRun : Nat := 65534

/-- How a symbol of a tree shows. -/
def shownAs (symbol : Nat) : SymbolInfo :=
  if symbol = errorSymbol then .node Node.errorKind else Grammar.symbolInfo symbol

/-! ## What errors cost -/

/-- For having to recover at all. -/
def recoveryCost : Nat := 500

/-- For a token that is missing. -/
def missingCost : Nat := 110

/-- For a tree that is passed over. -/
def skippedTreeCost : Nat := 100

/-- For a byte that is passed over. -/
def skippedByteCost : Nat := 1

/-- For a line that is passed over. -/
def skippedLineCost : Nat := 30

/-- What it costs to pass over everything between two places. -/
def distanceCost (a b : Position) : Nat :=
  (b.offset - a.offset) * skippedByteCost + (b.row - a.row) * skippedLineCost

/-! ## Trees -/

/-- A token or an applied rule. -/
structure Tree where
  symbol : Nat
  /-- Where the white space before the first token starts. -/
  place : Position
  start : Position
  stop : Position
  children : List Tree := []
  arity : Nat := 0
  /-- The tree belongs to no rule, like a comment. -/
  extra : Bool := false
  missing : Bool := false
  /-- A keyword starts the word. -/
  keyword : Bool := false
  /-- The state in which the token was read. -/
  state : Nat := 0
  /-- The symbol of the first token. -/
  leaf : Nat
  /-- What the errors in the tree cost, unless it is missing. -/
  ownCost : Nat := 0
  /-- What the grammar adds to or takes from the rules in it. -/
  weight : Int := 0
  /-- The number of nodes below that show. -/
  descendants : Nat := 0
  /-- The number of nodes that show at the next level. -/
  offspring : Nat := 0
  /-- The nodes that show at the next level, last first. -/
  nodes : List Node := []
deriving Inhabited

namespace Tree

/-- A token. The end of the source belongs to no rule. -/
def token (symbol : Nat) (place start stop : Position) (state : Nat) (keyword : Bool) : Tree :=
  { symbol, place, start, stop, state, keyword, leaf := symbol
    extra := symbol = Grammar.endSymbol }

/-- A token that is missing at a place. -/
def absent (symbol : Nat) (place : Position) : Tree :=
  { symbol, place, start := place, stop := place, leaf := symbol, missing := true }

/-- What the errors in the tree cost. -/
def cost (t : Tree) : Nat := if t.missing then missingCost + recoveryCost else t.ownCost

/-- The tree shows as a node. -/
def visible (t : Tree) : Bool := (shownAs t.symbol).visible

/-- The tree is around what could not be read. -/
def isError (t : Tree) : Bool := t.symbol == errorSymbol

/-- The nodes that the tree shows for its parent, last first, given how its rule shows it. -/
def shown (t : Tree) (renamed : Option SymbolInfo) (role : Option String) : List Node :=
  let info := renamed.getD (shownAs t.symbol)
  if info.visible then
    [{ kind := info.kind, named := info.named, start := t.start.offset, stop := t.stop.offset
       missing := t.missing, faulty := t.cost > 0, role, children := t.nodes.reverse }]
  else match role with
    | none => t.nodes
    | some r => giveRole r t.nodes
where
  /-- Gives the role to the first node, which comes last. -/
  giveRole (r : String) : List Node → List Node
    | [] => []
    | [n] => [{ n with role := some r }]
    | n :: ns => n :: giveRole r ns

/-- What passing over the tree adds to the cost of an error around it. -/
def passedOverCost (t : Tree) : Nat :=
  if t.extra || (t.isError && t.arity = 0) then 0
  else if t.visible then skippedTreeCost
  else skippedTreeCost * t.offspring

/-- The sums over the children of a tree under construction. -/
structure Sums where
  cost : Nat := 0
  weight : Int := 0
  descendants : Nat := 0
  offspring : Nat := 0
  arity : Nat := 0
  index : Nat := 0
  nodes : List Node := []

/-- Adds a child to the sums. Extra children have no place in the rule. -/
def Sums.add (shape : Grammar.Shape) (isError : Bool) (s : Sums) (t : Tree) : Sums :=
  let renamed := if t.extra || t.symbol = Grammar.endSymbol then none
    else (shape.renamed.find? fun r => r.1 == s.index).map (·.2)
  let role := if t.extra then none else (shape.roles.find? fun r => r.1 == s.index).map (·.2)
  let shows := renamed.isSome || t.visible
  { cost := s.cost + (if t.symbol = errorRun then 0 else t.cost) +
      (if isError then t.passedOverCost else 0)
    weight := s.weight + t.weight
    descendants := s.descendants + t.descendants + (if shows then 1 else 0)
    offspring := s.offspring + (if shows then 1 else t.offspring)
    arity := s.arity + 1
    index := if t.extra then s.index else s.index + 1
    nodes := addNodes (t.shown renamed role) s.nodes }
where
  /-- Nodes before others; without others they are not copied. -/
  addNodes (nodes : List Node) : List Node → List Node
    | [] => nodes
    | others => nodes ++ others

/-- The tree of a rule that was applied to these trees. -/
def build (symbol : Nat) (children : List Tree) (shape : Nat) : Tree :=
  let isError := symbol = errorSymbol || symbol = errorRun
  let s : Sums := children.foldl (Sums.add (Grammar.shapes.getD shape default) isError) {}
  let first := children.head?
  let start := (first.map (·.start)).getD {}
  let stop := (children.getLast?.map (·.stop)).getD {}
  { symbol, children, start, stop
    place := (first.map (·.place)).getD {}
    arity := s.arity
    leaf := (first.map (·.leaf)).getD symbol
    ownCost := s.cost + (if isError then recoveryCost + distanceCost start stop else 0)
    weight := s.weight
    descendants := s.descendants
    offspring := s.offspring
    nodes := s.nodes }

/-- An error around nothing at a place. -/
def emptyError (place : Position) : Tree :=
  { symbol := errorSymbol, place, start := place, stop := place, leaf := errorSymbol
    ownCost := recoveryCost }

/-- The number of nodes that the tree adds to what a stack holds. A run of tokens that are passed
over counts although it does not show, since passing over a token is progress, too. -/
def stackCount (t : Tree) : Nat :=
  t.descendants + (if t.visible then 1 else 0) + (if t.symbol = errorRun then 1 else 0)

/-- Splits off the extra trees at the end of a list. -/
def splitExtras (ts : List Tree) : List Tree × List Tree :=
  let extras := (ts.reverse.takeWhile (·.extra)).reverse
  (ts.take (ts.length - extras.length), extras)

/-! ## Choosing between readings -/

/-- The order of two trees by their symbols and the numbers of their children, from the top. -/
def compare (a b : Tree) : Ordering :=
  go 1000000 [(a, b)]
where
  go : Nat → List (Tree × Tree) → Ordering
    | 0, _ => .eq
    | _, [] => .eq
    | n + 1, (a, b) :: rest =>
      if a.symbol < b.symbol then .lt
      else if b.symbol < a.symbol then .gt
      else if a.arity < b.arity then .lt
      else if b.arity < a.arity then .gt
      else go n (a.children.zip b.children ++ rest)

/-- The second tree is the better reading of the same text: it has cheaper errors, or more weight,
or it comes later in the order although neither has errors. -/
def improves (a b : Tree) : Bool :=
  if b.cost < a.cost then true
  else if a.cost < b.cost then false
  else if a.weight < b.weight then true
  else if b.weight < a.weight then false
  else if a.cost > 0 then true
  else compare a b = .gt

/-- The syntax tree that a tree shows as. -/
def toNode (t : Tree) : Node := ((t.shown none none).head?).getD default

end Tree

end ScriptDeps.Parse
