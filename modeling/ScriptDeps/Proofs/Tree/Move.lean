import ScriptDeps.Proofs.Tree.Postorder

namespace ScriptDeps.Syntax.Node

/-! # Moved trees

If the words of a source become longer or shorter, the tree stays the same but for the bounds of its
nodes. `moved f` is the tree with all bounds moved by `f`; children, parts and places move with it.
-/

mutual

/-- The tree with all bounds moved. -/
def moved (f : Nat → Nat) : Node → Node
  | ⟨kind, named, start, stop, missing, faulty, role, children⟩ =>
    ⟨kind, named, f start, f stop, missing, faulty, role, movedAll f children⟩

/-- The siblings with all bounds moved. -/
def movedAll (f : Nat → Nat) : List Node → List Node
  | [] => []
  | n :: rest => moved f n :: movedAll f rest

end

section

variable {f : Nat → Nat}

theorem movedAll_eq_map (ns : List Node) : movedAll f ns = ns.map (moved f) := by
  induction ns with
  | nil => rfl
  | cons n rest ih => rw [movedAll, ih, List.map_cons]

@[simp] theorem moved_kind (n : Node) : (n.moved f).kind = n.kind := by cases n; rfl
@[simp] theorem moved_named (n : Node) : (n.moved f).named = n.named := by cases n; rfl
@[simp] theorem moved_role (n : Node) : (n.moved f).role = n.role := by cases n; rfl
@[simp] theorem moved_start (n : Node) : (n.moved f).start = f n.start := by cases n; rfl
@[simp] theorem moved_stop (n : Node) : (n.moved f).stop = f n.stop := by cases n; rfl
@[simp] theorem moved_isPart (n : Node) : (n.moved f).isPart = n.isPart := by cases n; rfl

@[simp] theorem moved_children (n : Node) : (n.moved f).children = n.children.map (moved f) := by
  rw [← movedAll_eq_map]
  cases n
  rfl

@[simp] theorem moved_parts (n : Node) : (n.moved f).parts = n.parts.map (moved f) := by
  rw [parts, moved_children, List.filter_map]
  congr 1
  exact List.filter_congr fun c _ => moved_isPart c

@[simp] theorem moved_child? (n : Node) (role : String) :
    (n.moved f).child? role = (n.child? role).map (moved f) := by
  rw [child?, moved_children, List.find?_map]
  congr 1
  exact congrArg (List.find? · n.children) (funext fun c => by simp)

/-- The places of a moved tree are those of the tree. -/
theorem places_moved (up : List Node) (n : Node) :
    places (up.map (moved f)) (n.moved f) =
      (places up n).map fun p => (p.1.map (moved f), p.2.moved f) := by
  induction n using induct generalizing up with
  | step n ih =>
    rw [places_eq, places_eq, placesAmong_eq_flatMap, placesAmong_eq_flatMap, moved_children,
      List.flatMap_map, List.map_cons, List.map_flatMap, ← List.map_cons]
    congr 1
    exact List.flatMap_congr fun c hc => ih c hc (n :: up)

theorem postorder_moved (up : List Node) (n : Node) :
    postorder (up.map (moved f)) (n.moved f) =
      (postorder up n).map fun p => (p.1.map (moved f), p.2.moved f) := by
  induction n using induct generalizing up with
  | step n ih =>
    rw [postorder_eq, postorder_eq, moved_children, List.flatMap_map, List.map_append,
      List.map_flatMap, ← List.map_cons]
    congr 1
    exact List.flatMap_congr fun c hc => ih c hc (n :: up)

/-- What occurs in a moved tree is moved. -/
theorem occurs_moved {root m : Node} {vs : List Node} :
    (root.moved f).Occurs vs m ↔
      ∃ up n, root.Occurs up n ∧ vs = up.map (moved f) ∧ m = n.moved f := by
  rw [← mem_places_root, ← List.map_nil (f := moved f), places_moved, List.mem_map]
  constructor
  · rintro ⟨⟨up, n⟩, hp, heq⟩
    cases heq
    exact ⟨up, n, mem_places_root.1 hp, rfl, rfl⟩
  · rintro ⟨up, n, hn, rfl, rfl⟩
    exact ⟨(up, n), mem_places_root.2 hn, rfl⟩

end

end ScriptDeps.Syntax.Node
