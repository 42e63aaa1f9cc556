import ScriptDeps.Text.Basic

namespace ScriptDeps

/-! # Sets of names

A set of names is kept as a list in the order of code points without repetition, so that equal sets
are equal lists.
-/

namespace Text

/-! ## The order of texts -/

theorem before_irrefl (a : Text) : before a a = false := by
  induction a with
  | nil => rfl
  | cons x a ih => simp [before, ih]

theorem before_trans {a b c : Text} (hab : before a b = true) (hbc : before b c = true) :
    before a c = true := by
  induction a generalizing b c with
  | nil =>
    cases b with
    | nil => simp [before] at hab
    | cons y b =>
      cases c with
      | nil => simp [before] at hbc
      | cons z c => rfl
  | cons x a ih =>
    cases b with
    | nil => simp [before] at hab
    | cons y b =>
      cases c with
      | nil => simp [before] at hbc
      | cons z c =>
        simp only [before] at hab hbc ⊢
        grind

theorem eq_of_not_before {a b : Text} (hab : before a b = false) (hba : before b a = false) :
    a = b := by
  induction a generalizing b with
  | nil =>
    cases b with
    | nil => rfl
    | cons y b => simp [before] at hab
  | cons x a ih =>
    cases b with
    | nil => simp [before] at hba
    | cons y b =>
      simp only [before] at hab hba
      grind

/-- Inserts a text into an ordered list in which it may already occur. -/
def insertOrdered (x : Text) : List Text → List Text
  | [] => [x]
  | y :: ys =>
    if before x y then x :: y :: ys
    else if before y x then y :: insertOrdered x ys
    else y :: ys

theorem mem_insertOrdered {x z : Text} {ys : List Text} :
    z ∈ insertOrdered x ys ↔ z = x ∨ z ∈ ys := by
  induction ys with
  | nil => simp [insertOrdered]
  | cons y ys ih =>
    simp only [insertOrdered]
    split
    · simp
    · split
      · simp only [List.mem_cons, ih]
        grind
      · next h₁ h₂ =>
        have : x = y := eq_of_not_before (by simpa using h₁) (by simpa using h₂)
        simp [this]

theorem pairwise_insertOrdered {x : Text} {ys : List Text}
    (h : ys.Pairwise fun a b => before a b = true) :
    (insertOrdered x ys).Pairwise fun a b => before a b = true := by
  induction ys with
  | nil => simp [insertOrdered]
  | cons y ys ih =>
    obtain ⟨hy, hys⟩ := List.pairwise_cons.1 h
    simp only [insertOrdered]
    split
    · next hxy =>
      refine List.pairwise_cons.2 ⟨fun z hz => ?_, h⟩
      rcases List.mem_cons.1 hz with rfl | hz
      · exact hxy
      · exact before_trans hxy (hy z hz)
    · split
      · next hyx =>
        refine List.pairwise_cons.2 ⟨fun z hz => ?_, ih hys⟩
        rcases mem_insertOrdered.1 hz with rfl | hz
        · exact hyx
        · exact hy z hz
      · exact h

end Text

/-- A set of names. -/
structure NameSet where
  names : List Text := []
  ordered : names.Pairwise fun a b => Text.before a b = true := by simp

namespace NameSet

/-- Adds a name. -/
def insert (s : NameSet) (x : Text) : NameSet :=
  ⟨Text.insertOrdered x s.names, Text.pairwise_insertOrdered s.ordered⟩

/-- The set of the names in a list. -/
def ofList (xs : List Text) : NameSet := xs.foldl insert {}

/-- The name is in the set. -/
def contains (s : NameSet) (x : Text) : Bool := s.names.contains x

/-- The number of names. -/
def size (s : NameSet) : Nat := s.names.length

theorem contains_insert (s : NameSet) (x y : Text) :
    (s.insert x).contains y = (y == x || s.contains y) := by
  have h : y ∈ (s.insert x).names ↔ y = x ∨ y ∈ s.names := Text.mem_insertOrdered
  simp only [contains]
  grind

end NameSet

end ScriptDeps
