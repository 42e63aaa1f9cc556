namespace ScriptDeps.Syntax

/-! # Syntax trees

A node has a kind, a span of bytes, the role that it plays for its parent, and its children. Nodes
that are more than a keyword or a punctuator are *named*. A tree of a faulty source has nodes of
kind `ERROR` around what could not be read and *missing* nodes where something was left out.
-/

/-- A node of a syntax tree. -/
structure Node where
  kind : String
  named : Bool
  start : Nat
  stop : Nat
  /-- The node stands for something that is not there. -/
  missing : Bool := false
  /-- There is an error in the node or below it. -/
  faulty : Bool := false
  /-- The role that the node plays for its parent. -/
  role : Option String := none
  children : List Node := []
deriving Repr, Inhabited

namespace Node

/-- The kind of a node around what could not be read. -/
def errorKind : String := "ERROR"

/-- The node surrounds what could not be read. -/
def isError (n : Node) : Bool := n.kind == errorKind

/-- The first child that plays the role. -/
def child? (n : Node) (role : String) : Option Node :=
  n.children.find? fun c => c.role == some role

/-- The named children. -/
def namedChildren (n : Node) : List Node := n.children.filter (·.named)

/-- The node counts as a part of its parent: it is named and no comment. -/
def isPart (n : Node) : Bool := n.named && n.kind != "comment"

/-- The children that are parts. -/
def parts (n : Node) : List Node := n.children.filter isPart

/-! ## Comparison -/

mutual

/-- The trees are the same. -/
def same : Node → Node → Bool
  | ⟨kind, named, start, stop, missing, faulty, role, children⟩,
    ⟨kind', named', start', stop', missing', faulty', role', children'⟩ =>
    kind == kind' && named == named' && start == start' && stop == stop' && missing == missing' &&
      faulty == faulty' && role == role' && sameAll children children'

/-- The siblings are the same. -/
def sameAll : List Node → List Node → Bool
  | [], [] => true
  | a :: as, b :: bs => same a b && sameAll as bs
  | _, _ => false

end

mutual

theorem same_iff : ∀ {a b : Node}, same a b = true ↔ a = b
  | ⟨_, _, _, _, _, _, _, _⟩, ⟨_, _, _, _, _, _, _, _⟩ => by
    simp only [same, Bool.and_eq_true, beq_iff_eq, sameAll_iff, mk.injEq, and_assoc]

theorem sameAll_iff : ∀ {as bs : List Node}, sameAll as bs = true ↔ as = bs
  | [], [] => by simp [sameAll]
  | [], _ :: _ => by simp [sameAll]
  | _ :: _, [] => by simp [sameAll]
  | _ :: _, _ :: _ => by simp [sameAll, same_iff, sameAll_iff]

end

instance : DecidableEq Node := fun _ _ => decidable_of_iff _ same_iff

end Node

end ScriptDeps.Syntax
