import ScriptDeps.Parse.Tree

namespace ScriptDeps.Parse

open Source (Position)

/-! # The stack of stacks

Where the grammar leaves a choice, the parser follows all choices at once. Each of them is a version
of the stack; versions share what lies below, and versions that reach one state at one place are
merged, so the stack is a graph. Its joints are numbered and never removed; a joint may gain links
to what lies below it.
-/

/-- A way down from a joint: the tree on it and the joint below. Without a tree, it is the place
where an error was met. -/
structure Link where
  below : Nat
  tree : Option Tree
deriving Inhabited

/-- A point of the stack between trees. -/
structure Joint where
  state : Nat
  place : Position := {}
  /-- What the errors below cost. -/
  cost : Nat := 0
  weight : Int := 0
  /-- The number of nodes below. -/
  count : Nat := 0
  links : List Link := []
deriving Inhabited

/-- A way down has been found to some state; see `Head.summary`. -/
structure Waypoint where
  place : Position
  depth : Nat
  state : Nat
deriving Inhabited, DecidableEq

/-- What a version is doing. -/
inductive Status where
  | active
  /-- It met a token that it cannot take. -/
  | paused (lookahead : Tree)
  | halted
deriving Inhabited

/-- The top of a version. -/
structure Head where
  joint : Nat
  status : Status := .active
  /-- The number of nodes below when the last error was met. -/
  countAtError : Nat := 0
  /-- The states below where an error was met, nearest first. -/
  summary : Option (List Waypoint) := none
deriving Inhabited

/-- All versions. -/
structure Stack where
  joints : Array Joint
  heads : List Head
deriving Inhabited

/-- A version that takes part in parsing. -/
def Status.isActive : Status → Bool
  | active => true
  | _ => false

/-- A version that met a token it cannot take. -/
def Status.isPaused : Status → Bool
  | paused _ => true
  | _ => false

/-- A version that is to be removed. -/
def Status.isHalted : Status → Bool
  | halted => true
  | _ => false

namespace Stack

/-- One version, in the state where parsing starts. -/
def initial : Stack := { joints := #[{ state := 1 }], heads := [{ joint := 0 }] }

/-! ## Looking -/

/-- The joint of that number. -/
def joint (s : Stack) (n : Nat) : Joint := s.joints.getD n default

/-- The head of a version. -/
def head (s : Stack) (v : Nat) : Head := s.heads.getD v default

/-- The joint at the top of a version. -/
def top (s : Stack) (v : Nat) : Joint := s.joint (s.head v).joint

/-- The number of versions. -/
def size (s : Stack) : Nat := s.heads.length

/-- What the errors of a version cost, the one that it has just met included. -/
def cost (s : Stack) (v : Nat) : Nat :=
  let top := s.top v
  let atError := top.state = 0 && ((top.links.head?.map (·.tree.isNone)).getD true)
  top.cost + if (s.head v).status.isPaused || atError then recoveryCost else 0

/-- The number of nodes since the last error of a version. -/
def countSinceError (s : Stack) (v : Nat) : Nat := (s.top v).count - (s.head v).countAtError

/-- Something that was counted since the last error has made progress in the version. A version
without errors has always made progress. -/
def hasAdvanced (s : Stack) (v : Nat) : Bool :=
  (s.top v).cost = 0 || go (s.joints.size + 1) (s.head v).joint
where
  go : Nat → Nat → Bool
    | 0, _ => false
    | fuel + 1, n =>
      let j := s.joint n
      match j.links with
      | ⟨below, some t⟩ :: _ =>
        if t.stop.offset > t.place.offset then true
        else if j.count > (s.head v).countAtError && t.cost = 0 then go fuel below
        else false
      | _ => false

/-! ## Changing versions -/

/-- Changes the head of a version. -/
def modifyHead (s : Stack) (v : Nat) (f : Head → Head) : Stack :=
  { s with heads := s.heads.modify v f }

/-- Forgets progress that was taken off a version again. -/
def settle (s : Stack) (v : Nat) : Stack :=
  let n := (s.top v).count
  s.modifyHead v fun h => { h with countAtError := min h.countAtError n }

/-- Puts an end to a version. -/
def halt (s : Stack) (v : Nat) : Stack := s.modifyHead v fun h => { h with status := .halted }

/-- Removes a version; later ones move up. -/
def remove (s : Stack) (v : Nat) : Stack := { s with heads := s.heads.eraseIdx v }

/-- Lets version `v` take the place of the earlier version `w`, which leaves its summary. -/
def moveTo (s : Stack) (v w : Nat) : Stack :=
  if v = w then s
  else
    let h := s.head v
    let h := { h with summary := h.summary.orElse fun _ => (s.head w).summary }
    { s with heads := (s.heads.set w h).eraseIdx v }

/-- Lets two versions change places. -/
def swap (s : Stack) (v w : Nat) : Stack :=
  { s with heads := (s.heads.set v (s.head w)).set w (s.head v) }

/-- A second version with the same top. -/
def copy (s : Stack) (v : Nat) : Stack :=
  { s with heads := s.heads ++ [{ s.head v with summary := none }] }

/-- Stops a version at a token that it cannot take. -/
def pause (s : Stack) (v : Nat) (lookahead : Tree) : Stack :=
  let n := (s.top v).count
  s.modifyHead v fun h => { h with status := .paused lookahead, countAtError := n }

/-- The joint above `below`. -/
def jointAbove (s : Stack) (below : Nat) (tree : Option Tree) (state : Nat) : Joint :=
  let j := s.joint below
  match tree with
  | none => { j with state, links := [⟨below, none⟩] }
  | some t =>
    { state, place := t.stop, cost := j.cost + t.cost, weight := j.weight + t.weight
      count := j.count + t.stackCount, links := [⟨below, some t⟩] }

/-- Puts a tree on a version, or marks that an error was met. -/
def push (s : Stack) (v : Nat) (tree : Option Tree) (state : Nat) : Stack :=
  let j := s.jointAbove (s.head v).joint tree state
  let n := s.joints.size
  { joints := s.joints.push j
    heads := s.heads.modify v fun h =>
      { h with joint := n, countAtError := if tree.isNone then j.count else h.countAtError } }

/-- Puts several trees on a version. -/
def pushAll (s : Stack) (v : Nat) (trees : List Tree) (state : Nat) : Stack :=
  trees.foldl (fun s t => s.push v (some t) state) s

/-- Puts a tree on a version that is done. Nothing is looked up below it any more, so that it needs no
link to what lies there. -/
def finish (s : Stack) (v : Nat) (tree : Tree) : Stack :=
  let j := { s.jointAbove (s.head v).joint (some tree) 1 with links := [] }
  let n := s.joints.size
  { joints := s.joints.push j, heads := s.heads.modify v fun h => { h with joint := n } }

/-! ## Merging -/

/-- The most links that a joint can have. -/
def maxLinks : Nat := 8

/-- Two trees stand for the same text in the same way. -/
def alike : Option Tree → Option Tree → Bool
  | none, none => true
  | some a, some b =>
    a.symbol == b.symbol && (a.cost > 0 && b.cost > 0 ||
      (a.start.offset - a.place.offset == b.start.offset - b.place.offset &&
        a.stop.offset - a.start.offset == b.stop.offset - b.start.offset &&
        a.arity == b.arity && a.extra == b.extra))
  | _, _ => false

/-- The weight of a tree on a link. -/
def linkWeight (t : Option Tree) : Int := (t.map (·.weight)).getD 0

/-- Changes a joint. -/
def setJoint (s : Stack) (n : Nat) (j : Joint) : Stack :=
  { s with joints := s.joints.setIfInBounds n j }

/-- Adds a way down to a joint. A way that looks like one that is there already is not added:
if both lead to one joint, the one of more weight stays, and if they lead to joints that can be
merged, these are merged. -/
def addLink : Nat → Stack → Nat → Link → Stack
  | 0, s, _, _ => s
  | fuel + 1, s, n, link =>
    if link.below = n then s
    else
      let self := s.joint n
      let below := s.joint link.below
      let fits (l : Link) : Bool :=
        let b := s.joint l.below
        alike l.tree link.tree && (l.below == link.below ||
          (b.state == below.state && b.place.offset == below.place.offset &&
            b.cost == below.cost))
      match self.links.findIdx? fits with
      | some i =>
        let l := self.links.getD i default
        if l.below = link.below then
          if linkWeight l.tree < linkWeight link.tree then
            s.setJoint n { self with
              links := self.links.set i link
              weight := below.weight + linkWeight link.tree }
          else s
        else
          let s := below.links.foldl (fun s m => addLink fuel s l.below m) s
          let self := s.joint n
          s.setJoint n { self with
            weight := max self.weight (below.weight + linkWeight link.tree) }
      | none =>
        if self.links.length ≥ maxLinks then s
        else
          s.setJoint n { self with
            links := self.links ++ [link]
            count := max self.count (below.count + (link.tree.map (·.stackCount)).getD 0)
            weight := max self.weight (below.weight + linkWeight link.tree) }

/-- The versions can be merged: both go on, in one state, at one place, with errors of one cost. -/
def canMerge (s : Stack) (v w : Nat) : Bool :=
  let a := s.top v
  let b := s.top w
  (s.head v).status.isActive && (s.head w).status.isActive && a.state == b.state &&
    a.place.offset == b.place.offset && a.cost == b.cost

/-- Merges version `w` into version `v` if that is possible. -/
def merge (s : Stack) (v w : Nat) : Option Stack :=
  if s.canMerge v w then
    let n := (s.head v).joint
    let fuel := s.joints.size + 1
    let s := (s.top w).links.foldl (fun s l => addLink fuel s n l) s
    let top := s.joint n
    let s := if top.state = 0 then s.modifyHead v fun h => { h with countAtError := top.count }
      else s
    some (s.remove w)
  else none

/-! ## Ways down -/

/-- A way down that is being followed: the trees passed, lowest first, and their number without
extra ones. -/
structure Way where
  joint : Nat
  trees : List Tree := []
  depth : Nat := 0
deriving Inhabited

/-- What to do with a way. -/
structure Verdict where
  /-- The way is one that was looked for. -/
  found : Bool := false
  /-- The way is not followed any further. -/
  stop : Bool := false

/-- The way along a link. -/
def Way.follow (w : Way) (l : Link) : Way :=
  match l.tree with
  | some t =>
    { joint := l.below, trees := t :: w.trees, depth := if t.extra then w.depth else w.depth + 1 }
  | none => { w with joint := l.below, depth := w.depth + 1 }

/-- The most ways that are followed at a time. -/
def maxWays : Nat := 64

/-- A new version that a way led to, with the trees on the way. -/
structure Slice where
  version : Nat
  trees : List Tree
deriving Inhabited

/-- Adds the end of a way to the slices. Ways that end at one joint share a version. -/
def addSlice (s : Stack) (origin : Nat) (slices : List Slice) (w : Way) : Stack × List Slice :=
  match (slices.reverse.findIdx? fun x => (s.head x.version).joint == w.joint) with
  | some i =>
    let k := slices.length - i
    let version := (slices.getD (k - 1) default).version
    (s, slices.take k ++ [⟨version, w.trees⟩] ++ slices.drop k)
  | none =>
    let h : Head := { joint := w.joint, countAtError := (s.head origin).countAtError }
    ({ s with heads := s.heads ++ [h] }, slices ++ [⟨s.heads.length, w.trees⟩])

/-- What is known while ways are followed. -/
structure Descent (σ : Type) where
  stack : Stack
  slices : List Slice
  memory : σ

/-- Follows every way one link further: the first link of a joint goes on in place, the others are
added behind all ways. -/
def descendOnce {σ : Type} (origin : Nat) (judge : σ → Way → Verdict × σ) :
    List Way → List Way → List Way → Descent σ → List Way × Descent σ
  | [], kept, added, d => (kept.reverse ++ added.reverse, d)
  | w :: todo, kept, added, d =>
    let (verdict, memory) := judge d.memory w
    let d := { d with memory }
    let links := (d.stack.joint w.joint).links
    let d :=
      if verdict.found then
        let (stack, slices) := addSlice d.stack origin d.slices w
        { d with stack, slices }
      else d
    match links with
    | [] => descendOnce origin judge todo kept added d
    | l :: more =>
      if verdict.stop then descendOnce origin judge todo kept added d
      else
        let room := maxWays - (kept.length + todo.length + 1 + added.length)
        let new := (more.take room).map w.follow
        descendOnce origin judge todo (w.follow l :: kept) (new.reverse ++ added) d

def descend {σ : Type} (origin : Nat) (judge : σ → Way → Verdict × σ) :
    Nat → List Way → Descent σ → Descent σ
  | 0, _, d => d
  | _, [], d => d
  | n + 1, ways, d =>
    let (ways, d) := descendOnce origin judge ways [] [] d
    descend origin judge n ways d

/-- Follows the ways down from the top of a version. Each way that is found becomes a version. -/
def follow {σ : Type} (s : Stack) (v : Nat) (memory : σ) (judge : σ → Way → Verdict × σ) :
    Stack × List Slice × σ :=
  let d := descend v judge (s.joints.size + 1) [{ joint := (s.head v).joint }] ⟨s, [], memory⟩
  (d.stack, d.slices, d.memory)

/-- Takes a number of trees off a version, extra trees not counted, along every way. -/
def pop (s : Stack) (v depth : Nat) : Stack × List Slice :=
  let (s, slices, _) := s.follow v () fun _ w =>
    (if w.depth = depth then { found := true, stop := true } else {}, ())
  (s, slices)

/-- Takes everything off a version, along every way. -/
def popAll (s : Stack) (v : Nat) : Stack × List Slice :=
  let (s, slices, _) := s.follow v () fun _ w =>
    ({ found := (s.joint w.joint).links.isEmpty }, ())
  (s, slices)

/-- Takes an error off the top of a version, if there is one. -/
def popError (s : Stack) (v : Nat) : Stack × Option Tree :=
  if (s.top v).links.any fun l => (l.tree.map (·.isError)).getD false then
    let (s, slices, _) := s.follow v false fun found w =>
      match w.trees with
      | [] => ({}, found)
      | t :: _ =>
        if !found && t.isError then ({ found := true, stop := true }, true)
        else ({ stop := true }, found)
    match slices with
    | x :: _ => (s.moveTo x.version v, x.trees.head?)
    | [] => (s, none)
  else (s, none)

/-- The number of trees below an error that are looked at to recover from it. -/
def maxDepth : Nat := 16

/-- Notes the states below the top of a version. -/
def summarize (s : Stack) (v : Nat) : Stack :=
  let (s, _, seen) := s.follow v ([] : List Waypoint) fun seen w =>
    let j := s.joint w.joint
    if w.depth > maxDepth then ({ stop := true }, seen)
    else if (seen.takeWhile fun p => p.depth ≥ w.depth).any fun p =>
        p.depth == w.depth && p.state == j.state then ({}, seen)
    else ({}, ⟨j.place, w.depth, j.state⟩ :: seen)
  s.modifyHead v fun h => { h with summary := some seen.reverse }

end Stack

end ScriptDeps.Parse
