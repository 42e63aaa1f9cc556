import ScriptDeps.Parse.Lexer
import ScriptDeps.Parse.Stack

namespace ScriptDeps.Parse

open Source (Position)
open Syntax (Node)
open Grammar (Action)

/-! # Parsing

The parser lets every version of its stack take the next token, then compares the versions and keeps
those that are worth it. A version that cannot take a token is paused; when no better version is
left, the best paused one recovers: it inserts a token that is missing, goes back to a state below
in which the token can stand, or passes over the token. What a version pays for that decides which
of them wins.
-/

/-- What the parser knows. -/
structure Parser where
  stack : Stack := .initial
  /-- The best complete tree so far. -/
  finished : Option Tree := none
  /-- How many complete trees there were. -/
  completions : Nat := 0
  /-- The token that was read last. -/
  lastToken : Option Tree := none
deriving Inhabited

/-! ## Building nodes -/

/-- More versions are not kept. -/
def maxVersions : Nat := 6

/-- More versions beyond these are not even tried. -/
def maxSurplus : Nat := 4

/-- Joins the slices that ended at one version: the trees of the best reading, and the extra trees
behind them. -/
def bestReading (symbol shape : Nat) (first : Stack.Slice) (others : List Stack.Slice) :
    Tree × List Tree :=
  let (trees, extras) := Tree.splitExtras first.trees
  others.foldl (fun best other =>
    let (trees, extras) := Tree.splitExtras other.trees
    if best.1.improves (.build symbol trees 0) then (.build symbol trees shape, extras) else best)
    (.build symbol trees shape, extras)

/-- Merges version `v` into one of the first versions below it, `except` left out. -/
def mergeBelow (s : Stack) (v except : Nat) : Option Stack :=
  (List.range v).findSome? fun w => if w = except then none else s.merge w v

/-- Applies a rule to the slices of a version, one new version at a time; `removed` versions before
them are gone already. -/
def applyRule (symbol : Nat) (weight : Int) (shape version limit : Nat) :
    Nat → List Stack.Slice → Nat → Stack → Stack
  | 0, _, _, s => s
  | _, [], _, s => s
  | n + 1, x :: rest, removed, s =>
    let same := rest.takeWhile fun y => y.version == x.version
    let rest := rest.drop same.length
    let v := x.version - removed
    if v > limit then applyRule symbol weight shape version limit n rest (removed + 1) (s.remove v)
    else
      let (tree, extras) := bestReading symbol shape x same
      let target := Grammar.successor (s.top v).state symbol
      let tree := { tree with weight := tree.weight + weight }
      let s := (s.push v (some tree) target).pushAll v extras target
      match mergeBelow s v version with
      | some s => applyRule symbol weight shape version limit n rest (removed + 1) s
      | none => applyRule symbol weight shape version limit n rest removed s

/-- Applies a rule to the top of a version. The results are new versions; the first of them is
returned, if any is left. -/
def reduce (s : Stack) (version symbol count : Nat) (weight : Int) (shape : Nat) :
    Stack × Option Nat :=
  let before := s.size
  let halted := s.heads.countP (·.status.isHalted)
  let (s, slices) := s.pop version count
  let limit := maxVersions + maxSurplus + halted
  let s := applyRule symbol weight shape version limit (slices.length + 1) slices 0 s
  (s, if s.size > before then some before else none)

/-! ## Completing a tree -/

/-- The root over the trees of a whole version: the children of its last tree that is not extra
stand among the trees around it. -/
def rootOf (trees : List Tree) : Option Tree :=
  let after := (trees.reverse.takeWhile (·.extra)).reverse
  match (trees.take (trees.length - after.length)).reverse with
  | t :: before => some (.build t.symbol (before.reverse ++ t.children ++ after) 0)
  | [] => none

/-- Completes a version at the end of the source, with these trees behind all others. -/
def complete (p : Parser) (version : Nat) (ending : List Tree) : Parser :=
  let (s, slices) := p.stack.popAll version
  let p := slices.foldl (fun p x =>
    match rootOf (x.trees ++ ending) with
    | none => p
    | some root =>
      let better := match p.finished with
        | some t => t.improves root
        | none => true
      { p with completions := p.completions + 1
               finished := if better then some root else p.finished }) p
  let s := match slices with
    | x :: _ => s.remove x.version
    | [] => s
  { p with stack := (ending.foldl (fun s t => s.finish version t) s).halt version }

/-! ## Comparing versions -/

/-- How a version stands. -/
structure Standing where
  cost : Nat
  count : Nat
  weight : Int
  inError : Bool

/-- The outcome of a comparison. -/
inductive Preference where
  | onlyFirst
  | first
  | neither
  | second
  | onlySecond
deriving DecidableEq

/-- How a version stands. A version that met a token it cannot take will pass over some tree. -/
def standing (s : Stack) (v : Nat) : Standing :=
  let paused := (s.head v).status.isPaused
  let top := s.top v
  { cost := s.cost v + if paused then skippedTreeCost else 0
    count := s.countSinceError v
    weight := top.weight
    inError := paused || top.state = 0 }

/-- A difference of costs, multiplied by the progress since, from which on a version is given
up. -/
def maxCostDifference : Nat := 1800

/-- Compares two versions. -/
def Standing.compare (a b : Standing) : Preference :=
  if !a.inError && b.inError then if a.cost < b.cost then .onlyFirst else .first
  else if a.inError && !b.inError then if b.cost < a.cost then .onlySecond else .second
  else if a.cost < b.cost then
    if (b.cost - a.cost) * (1 + a.count) > maxCostDifference then .onlyFirst else .first
  else if b.cost < a.cost then
    if (a.cost - b.cost) * (1 + b.count) > maxCostDifference then .onlySecond else .second
  else if a.weight > b.weight then .first
  else if b.weight > a.weight then .second
  else .neither

/-- Some version is better than `version` would be at that cost, or a complete tree is. The versions
that are looked at are settled. -/
def betterExists (p : Parser) (version cost : Nat) : Bool × Parser :=
  if p.finished.any fun t => decide (t.cost ≤ cost) then (true, p)
  else
    let s := p.stack.settle version
    let (better, s) := go (List.range s.size) s
    (better, { p with stack := s })
where
  go : List Nat → Stack → Bool × Stack
    | [], s => (false, s)
    | v :: rest, s =>
      let top := s.top version
      if v = version || !(s.head v).status.isActive || (s.top v).place.offset < top.place.offset then
        go rest s
      else
        let s := s.settle v
        let mine : Standing :=
          { cost, count := s.countSinceError version, weight := top.weight, inError := false }
        match mine.compare (standing s v) with
        | .onlySecond => (true, s)
        | .second => if s.canMerge v version then (true, s) else go rest s
        | _ => go rest s

/-! ## Recovering from errors -/

/-- The different nodes that can be built in a state at some of the tokens, and whether one of them
can be taken. -/
def choices (state : Nat) (tokens : List Nat) : List Action × Bool :=
  let s := Grammar.state state
  let (actions, takes) := tokens.foldl (fun acc t =>
    (s.actions t).foldl (fun (acc : List Action × Bool) a =>
      match a with
      | .shift _ => (acc.1, true)
      | .recover => (acc.1, true)
      | .reduce symbol (count + 1) _ _ =>
        let known := acc.1.any fun b =>
          match b with
          | .reduce symbol' count' _ _ => symbol' == symbol && count' == count + 1
          | _ => false
        (if known then acc.1 else a :: acc.1, acc.2)
      | _ => acc) acc) ([], false)
  (actions.reverse, takes)

/-- All tokens but the end of the source. -/
def allTokens : List Nat := (List.range Grammar.tokenCount).tail

/-- Does everything that can be done from a version without taking a token: before any token at all
or, if one is given, before that one. The flag says that a token can be taken in the end. -/
def reduceAll (lookahead : Option Nat) (start : Nat) (s : Stack) : Stack × Bool :=
  go 1000 0 start false s
where
  first : Nat := s.size
  tokens : List Nat := match lookahead with
    | some t => [t]
    | none => allTokens
  go : Nat → Nat → Nat → Bool → Stack → Stack × Bool
    | 0, _, _, takes, s => (s, takes)
    | n + 1, round, v, takes, s =>
      let count := s.size
      if v ≥ count then (s, takes)
      else
        match (List.range v).findSome? fun w => if w < first then none else s.merge w v with
        | some s => go n (round + 1) v takes s
        | none =>
          let (actions, taken) := choices (s.top v).state tokens
          let (s, last) := actions.foldl (fun (acc : Stack × Option Nat) a =>
            match a with
            | .reduce symbol count weight shape => reduce acc.1 v symbol count weight shape
            | _ => acc) (s, none)
          match taken, last with
          | false, some w =>
            if round < maxVersions then go n (round + 1) v takes (s.moveTo w v)
            else go n (round + 1) (if v = start then count else v + 1) takes
              (if lookahead.isSome then s.remove v else s)
          | _, _ =>
            go n (round + 1) (if v = start then count else v + 1) (takes || taken)
              (if !taken && lookahead.isSome then s.remove v else s)

/-- Inserts the first token that is missing before the lookahead, in a new version. At the end of the
source the version can go on with any token, since a semicolon may still come that is not
written. -/
def insertMissing (v : Nat) (lookahead : Nat) (s : Stack) : Stack × Bool :=
  go allTokens s
where
  go : List Nat → Stack → Stack × Bool
    | [], s => (s, false)
    | token :: rest, s =>
      let top := s.top v
      let behind := Grammar.successor top.state token
      if behind = 0 || behind = top.state || !(Grammar.state behind).reducesAt lookahead then
        go rest s
      else
        let copy := s.size
        let s := (s.copy v).push copy (some (.absent token top.place)) behind
        match reduceAll (if lookahead = Grammar.endSymbol then none else some lookahead) copy s with
        | (s, true) => (s, true)
        | (s, false) => go rest s

/-- Goes back from a version to a state below, with an error around everything above it. -/
def goBack (s : Stack) (version depth goal : Nat) : Stack × Bool :=
  let (s, slices) := s.pop version depth
  let (s, last) := slices.foldl (fun (acc : Stack × Option Nat) x =>
    let (s, last) := acc
    if last = some x.version then acc
    else if (s.top x.version).state ≠ goal then (s.halt x.version, last)
    else
      let (s, error) := s.popError x.version
      let inner := (error.map (·.children)).getD []
      let (trees, extras) := Tree.splitExtras (inner ++ x.trees)
      let s := if trees.isEmpty then s
        else s.push x.version (some { Tree.build errorSymbol trees 0 with extra := true }) goal
      (s.pushAll x.version extras goal, some x.version)) (s, none)
  (s, last.isSome)

/-- Looks below an error for a state in which the lookahead can stand, and goes back to the first
one that is worth it. -/
def goBackFor (p : Parser) (version : Nat) (lookahead : Tree) : Parser × Bool :=
  let s := p.stack
  let place := (s.top version).place
  let cost := s.cost version
  let progress := s.countSinceError version > 0
  let before := s.size
  let rec go : List Waypoint → Parser → Parser × Bool
    | [], p => (p, false)
    | w :: rest, p =>
      let s := p.stack
      let redundant := (List.range before).any fun v =>
        (s.top v).state == w.state && (s.top v).place.offset == place.offset
      if w.state = 0 || w.place.offset = place.offset || redundant then go rest p
      else
        match betterExists p version
            (cost + w.depth * skippedTreeCost + distanceCost w.place place) with
        | (true, p) => (p, false)
        | (false, p) =>
          if (Grammar.state w.state).allows lookahead.symbol then
            match goBack p.stack version (if progress then w.depth + 1 else w.depth) w.state with
            | (s, true) => ({ p with stack := s }, true)
            | (s, false) => go rest { p with stack := s }
          else go rest p
  if lookahead.isError then (p, false) else go ((s.head version).summary.getD []) p

/-- Passes over the lookahead, together with what was passed over right before it. -/
def passOverToken (s : Stack) (version : Nat) (lookahead : Tree) : Stack :=
  let isExtra := ((Grammar.state 1).actions lookahead.symbol).getLast? = some .extra
  let run := Tree.build errorRun [if isExtra then { lookahead with extra := true } else lookahead] 0
  if s.countSinceError version > 0 then
    match s.pop version 1 with
    | (s, x :: _) =>
      let s := { s with heads := s.heads.take (x.version + 1) }
      let s := s.moveTo x.version version
      s.push version (some (.build errorRun (x.trees ++ [run]) 0)) 0
    | (s, []) => s.push version (some run) 0
  else s.push version (some run) 0

/-- Recovers from an error at the lookahead: by going back, and by passing over the lookahead. At
the end of the source, everything is wrapped in an error. -/
def recover (p : Parser) (version : Nat) (lookahead : Tree) : Parser :=
  let p := { p with stack := p.stack.settle version }
  let before := p.stack.size
  let place := (p.stack.top version).place
  let cost := p.stack.cost version
  let (p, wentBack) := goBackFor p version lookahead
  let old := p.stack.heads.take before
  let new := (p.stack.heads.drop before).filter (·.status.isActive)
  let p := { p with stack := { p.stack with heads := old ++ new } }
  if wentBack && p.stack.size > maxVersions then { p with stack := p.stack.halt version }
  else if lookahead.symbol = Grammar.endSymbol then
    complete p version [.emptyError place, lookahead]
  else
    match betterExists p version
        (cost + skippedTreeCost + distanceCost lookahead.place lookahead.stop) with
    | (true, p) => { p with stack := p.stack.halt version }
    | (false, p) => { p with stack := passOverToken p.stack version lookahead }

/-- Marks the error on every version from `v` on that came out of one version, and inserts a missing
token in at most one of them. -/
def markError (version first lookahead : Nat) : Nat → Nat → Nat → Bool → Stack → Stack
  | 0, _, _, _, s => s
  | n + 1, v, bound, inserted, s =>
    if v ≥ bound then s
    else
      let (s, inserted) := if inserted then (s, true) else insertMissing v lookahead s
      let s := s.push v none 0
      markError version first lookahead n (if v = version then first else v + 1) bound inserted s

/-- Begins to recover a version that met a token it cannot take. -/
def handleError (p : Parser) (version : Nat) (lookahead : Tree) : Parser :=
  let first := p.stack.size
  let (s, _) := reduceAll none version p.stack
  let bound := s.size
  let s := markError version first lookahead.leaf (bound + 1) version bound false s
  let s := (List.range (bound - first)).foldl (fun s _ => (s.merge version first).getD s) s
  recover { p with stack := s.summarize version } version lookahead

/-! ## Advancing -/

/-- The token that was read last can be taken again, in a state that reads in the same way. -/
def reusable (token : Tree) (state : Nat) : Bool :=
  let a := Grammar.state token.state
  let b := Grammar.state state
  let scanned := [Grammar.unwrittenSemicolon, Grammar.templateText, Grammar.conditionalMark,
    Grammar.markupComment, Grammar.orSymbol, Grammar.escapeSymbol, Grammar.regexSymbol,
    Grammar.elementText]
  b.allows token.symbol && a.mode == b.mode && a.reserving == b.reserving &&
    (scanned.all fun t => a.allows t == b.allows t) &&
    (token.symbol != Grammar.wordSymbol || (!token.keyword && token.state == state))

/-- The next token of a version. -/
def lookaheadFor (bytes : ByteArray) (p : Parser) (version : Nat) : Tree :=
  let top := p.stack.top version
  let known := match p.lastToken with
    | some t => if t.place.offset = top.place.offset ∧ reusable t top.state then some t else none
    | none => none
  known.getD (nextToken bytes top.state (p.stack.hasAdvanced version) top.place)

/-- What became of the actions at a token. -/
inductive Outcome where
  /-- The version is done with the token. -/
  | done (p : Parser)
  /-- Nodes were built in new versions, the last of which is given, unless they were merged. -/
  | reduced (p : Parser) (last : Option Nat)
  /-- Nothing could be done. -/
  | stuck (p : Parser)

/-- Does what can be done at a token. Building nodes leads to new versions, taking the token ends
the list. -/
def act (version : Nat) (lookahead : Tree) : List Action → Outcome → Outcome
  | [], o => o
  | _, .done p => .done p
  | a :: rest, o =>
    let (p, last) := match o with
      | .done p => (p, none)
      | .reduced p last => (p, last)
      | .stuck p => (p, none)
    match a with
    | .again _ => act version lookahead rest o
    | .shift target =>
      let tree := { lookahead with extra := false }
      .done { p with stack := p.stack.push version (some tree) target }
    | .extra =>
      let tree := { lookahead with extra := true }
      .done { p with stack := p.stack.push version (some tree) (p.stack.top version).state }
    | .reduce symbol count weight shape =>
      let (s, new) := reduce p.stack version symbol count weight shape
      act version lookahead rest (.reduced { p with stack := s } (new.orElse fun _ => last))
    | .accept => .done (complete p version [lookahead])
    | .recover => .done (recover p version lookahead)

/-- Lets a version do what it can at a token until the token is taken or the version stops. -/
def work (version : Nat) : Nat → Tree → Parser → Parser
  | 0, _, p => { p with stack := p.stack.halt version }
  | n + 1, lookahead, p =>
    let s := Grammar.state (p.stack.top version).state
    match act version lookahead (s.actions lookahead.symbol) (.stuck p) with
    | .done p => p
    | .reduced p (some last) => work version n lookahead { p with stack := p.stack.moveTo last version }
    | .reduced p none => { p with stack := p.stack.halt version }
    | .stuck p =>
      if lookahead.keyword && lookahead.symbol ≠ Grammar.wordSymbol &&
          !s.reserves lookahead.symbol && s.allows Grammar.wordSymbol then
        work version n { lookahead with symbol := Grammar.wordSymbol, leaf := Grammar.wordSymbol } p
      else { p with stack := p.stack.pause version lookahead }

/-- Lets a version take the next token. -/
def advance (bytes : ByteArray) (fuel version : Nat) (p : Parser) : Parser :=
  let token := lookaheadFor bytes p version
  work version fuel token { p with lastToken := some token }

/-- Lets a version go on until it has read further than any version before. -/
def advanceFurther (bytes : ByteArray) (fuel version : Nat) :
    Nat → Nat → Parser → Nat × Parser
  | 0, furthest, p => (furthest, p)
  | n + 1, furthest, p =>
    if (p.stack.head version).status.isActive then
      let p := advance bytes fuel version p
      let place := (p.stack.top version).place.offset
      if place > furthest || (version > 0 && place = furthest) then (place, p)
      else advanceFurther bytes fuel version n furthest p
    else (furthest, p)

/-- Lets every version go on, in turn. -/
def advanceAll (bytes : ByteArray) (fuel : Nat) : Nat → Nat → Nat → Parser → Nat × Parser
  | 0, _, furthest, p => (furthest, p)
  | n + 1, version, furthest, p =>
    if version ≥ p.stack.size then (furthest, p)
    else
      let (furthest, p) := advanceFurther bytes fuel version fuel furthest p
      advanceAll bytes fuel n (version + 1) furthest p

/-! ## Choosing among versions -/

/-- Compares version `v`, which stands as given, with the versions before it from `w` on. Returns
the number of the last version that was dealt with. -/
def rank (v : Nat) (mine : Standing) : Nat → Nat → Stack → Nat × Stack
  | 0, _, s => (v + 1, s)
  | n + 1, w, s =>
    if w ≥ v then (v + 1, s)
    else
      let s := s.settle w
      match (standing s w).compare mine with
      | .onlyFirst => (v, s.remove v)
      | .onlySecond => rank (v - 1) mine n w (s.remove w)
      | .second =>
        match s.merge w v with
        | some s => (v, s)
        | none => rank v mine n (w + 1) (s.swap v w)
      | _ =>
        match s.merge w v with
        | some s => (v, s)
        | none => rank v mine n (w + 1) s

/-- Removes halted versions, compares and orders the others; returns the least cost of a version
that is not in an error. -/
def rankAll : Nat → Nat → Option Nat → Stack → Option Nat × Stack
  | 0, _, least, s => (least, s)
  | n + 1, v, least, s =>
    if v ≥ s.size then (least, s)
    else if (s.head v).status.isHalted then rankAll n v least (s.remove v)
    else
      let s := s.settle v
      let mine := standing s v
      let least := if mine.inError then least else some (min mine.cost (least.getD mine.cost))
      let (next, s) := rank v mine (v + 1) 0 s
      rankAll n next least s

/-- Resumes the best version if it is paused, and removes the other paused ones. -/
def resume : Nat → Nat → Bool → Option Nat → Parser → Option Nat × Parser
  | 0, _, _, least, p => (least, p)
  | n + 1, v, going, least, p =>
    match p.stack.heads[v]? with
    | none => (least, p)
    | some h =>
      match h.status with
      | .paused lookahead =>
        if !going && p.completions < maxVersions then
          let least := some (p.stack.cost v)
          let s := p.stack.modifyHead v fun h => { h with status := .active }
          resume n (v + 1) true least (handleError { p with stack := s } v lookahead)
        else resume n v going least { p with stack := p.stack.remove v }
      | _ => resume n (v + 1) true least p

/-- Keeps the versions that are worth it. Returns the least cost among them, if there is any. -/
def condense (p : Parser) : Option Nat × Parser :=
  let (least, s) := rankAll (2 * p.stack.size + 1) 0 none p.stack
  let s := { s with heads := s.heads.take maxVersions }
  resume s.size 0 false least { p with stack := s }

/-! ## The whole source -/

/-- Parses on until a tree is complete that no version can better, or no version is left. -/
def run (bytes : ByteArray) (fuel : Nat) : Nat → Nat → Parser → Option Tree
  | 0, _, p => p.finished
  | n + 1, furthest, p =>
    let (furthest, p) := advanceAll bytes fuel fuel 0 furthest p
    let (least, p) := condense p
    let won := match p.finished, least with
      | some t, some cost => t.cost < cost
      | some _, none => true
      | none, _ => false
    if won || p.stack.size = 0 then p.finished else run bytes fuel n furthest p

/-- The syntax tree of a source. -/
@[irreducible] def parse (bytes : ByteArray) : Node :=
  let fuel := 1000 * (bytes.size + 10)
  ((run bytes fuel fuel 0 {}).map (·.toNode)).getD default

end ScriptDeps.Parse
