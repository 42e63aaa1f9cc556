import Mathlib.Data.List.Forall2
import ScriptDeps.Text.Basic

namespace ScriptDeps

/-! # Gathering results that may fail

A walk over a tree asks every node for its results and puts them together in the order of the walk;
the first node that fails ends it. `gather` is that walk over the list of the nodes. What it yields
are the results of the nodes (`mem_gather`), and it fails exactly if some node does
(`gather_fails`).
-/

section

variable {ε α β : Type}

/-! ## Two steps in a row -/

/-- The second step is taken with what the first one led to. -/
theorem andThen_ok_iff {x : Except ε α} {next : α → Except ε β} {b : β} :
    x >>= next = .ok b ↔ ∃ a, x = .ok a ∧ next a = .ok b := by
  constructor
  · intro h
    cases x with
    | error e => cases h
    | ok a => exact ⟨a, rfl, h⟩
  · rintro ⟨a, rfl, h⟩
    exact h

theorem andThen_fails_iff {x : Except ε α} {next : α → Except ε β} :
    (∃ e, x >>= next = .error e) ↔
      (∃ e, x = .error e) ∨ ∃ a, x = .ok a ∧ ∃ e, next a = .error e := by
  constructor
  · rintro ⟨e, h⟩
    cases x with
    | error e' => exact Or.inl ⟨e', rfl⟩
    | ok a => exact Or.inr ⟨a, rfl, e, h⟩
  · rintro (⟨e, rfl⟩ | ⟨a, rfl, e, h⟩)
    · exact ⟨e, rfl⟩
    · exact ⟨e, h⟩

/-- A last step that cannot fail does not matter. -/
theorem andThen_return_fails {x : Except ε α} {f : α → β} :
    (∃ e, (x >>= fun a => (pure (f a) : Except ε β)) = .error e) ↔ ∃ e, x = .error e := by
  rw [andThen_fails_iff, or_iff_left]
  rintro ⟨a, -, e, he⟩
  cases he

theorem map_eq_ok {x : Except ε α} {f : α → β} {b : β} :
    x.map f = .ok b ↔ ∃ a, x = .ok a ∧ b = f a := by
  cases x with
  | error e => simp [Except.map]
  | ok a => simp [Except.map, eq_comm]

theorem map_fails {x : Except ε α} {f : α → β} :
    (∃ e, x.map f = .error e) ↔ ∃ e, x = .error e := by
  cases x with
  | error e => simp [Except.map]
  | ok a => simp [Except.map]

theorem mapError_eq_ok {δ : Type} {x : Except ε α} {g : ε → δ} {a : α} :
    x.mapError g = .ok a ↔ x = .ok a := by
  cases x <;> simp [Except.mapError]

theorem map_mapError {δ : Type} (f : α → β) (g : ε → δ) (x : Except ε α) :
    (x.mapError g).map f = (x.map f).mapError g := by
  cases x <;> rfl

/-- There is a result unless something fails. -/
theorem exists_ok_iff {x : Except ε α} : (∃ a, x = .ok a) ↔ ¬ ∃ e, x = .error e := by
  cases x with
  | error e => exact iff_of_false nofun (not_not_intro ⟨e, rfl⟩)
  | ok a => exact iff_of_true ⟨a, rfl⟩ nofun

/-- Outcomes can be compared if results and failures can. -/
instance decidableEqOutcome [DecidableEq ε] [DecidableEq α] : DecidableEq (Except ε α)
  | .ok a, .ok b => decidable_of_iff (a = b) (by rw [Except.ok.injEq])
  | .error d, .error e => decidable_of_iff (d = e) (by rw [Except.error.injEq])
  | .ok _, .error _ => isFalse (by simp)
  | .error _, .ok _ => isFalse (by simp)

/-- Whether there is a result can be decided. -/
instance decidableEnds : (x : Except ε α) → Decidable (∃ a, x = .ok a)
  | .ok a => isTrue ⟨a, rfl⟩
  | .error _ => isFalse (by simp)

/-- Whether two results agree can be decided if results can be compared. -/
instance decidableAgree [DecidableEq α] : (x y : Except ε α) →
    Decidable (∃ a, x = .ok a ∧ y = .ok a)
  | .ok a, .ok b => decidable_of_iff (a = b) (by simp [eq_comm])
  | .ok _, .error _ => isFalse (by simp)
  | .error _, _ => isFalse (by simp)

/-! ## Gathering -/

/-- The results of `f` for all members of a list, one after the other. -/
def gather (f : α → Except ε (List β)) : List α → Except ε (List β)
  | [] => .ok []
  | x :: xs => do
    let first ← f x
    let others ← gather f xs
    return first ++ others

theorem gather_append (f : α → Except ε (List β)) (xs ys : List α) :
    gather f (xs ++ ys) = (do
      let first ← gather f xs
      let others ← gather f ys
      return first ++ others) := by
  induction xs with
  | nil =>
    cases h : gather f ys with
    | error e => simp [gather, h, bind, Except.bind]
    | ok zs => simp [gather, h, bind, Except.bind, pure, Except.pure]
  | cons x xs ih =>
    rw [List.cons_append, gather, gather, ih]
    cases f x with
    | error e => rfl
    | ok first =>
      cases gather f xs with
      | error e => rfl
      | ok second =>
        cases gather f ys with
        | error e => rfl
        | ok third => simp [bind, Except.bind, pure, Except.pure]

theorem gather_singleton (f : α → Except ε (List β)) (x : α) : gather f [x] = f x := by
  cases h : f x with
  | error e => simp [gather, h, bind, Except.bind]
  | ok zs => simp [gather, h, bind, Except.bind, pure, Except.pure]

theorem gather_flatMap {γ : Type} (f : α → Except ε (List β)) (g : γ → List α) (xs : List γ) :
    gather f (xs.flatMap g) = gather (fun x => gather f (g x)) xs := by
  induction xs with
  | nil => rfl
  | cons x xs ih => rw [List.flatMap_cons, gather_append, ih, gather]

theorem gather_congr {f g : α → Except ε (List β)} {xs : List α} (h : ∀ x ∈ xs, f x = g x) :
    gather f xs = gather g xs := by
  induction xs with
  | nil => rfl
  | cons x xs ih =>
    rw [gather, gather, h x List.mem_cons_self, ih fun y hy => h y (List.mem_cons_of_mem x hy)]

/-- If the results of a member are changed in one way wherever it stands, so are all results. -/
theorem gather_map {γ δ : Type} {f : α → Except ε (List β)} {f' : γ → Except ε (List δ)} {g : α → γ}
    {h : β → δ} {xs : List α} (hf : ∀ x ∈ xs, f' (g x) = (f x).map (List.map h)) :
    gather f' (xs.map g) = (gather f xs).map (List.map h) := by
  induction xs with
  | nil => rfl
  | cons x xs ih =>
    rw [List.map_cons, gather, gather, hf x List.mem_cons_self,
      ih fun y hy => hf y (List.mem_cons_of_mem x hy)]
    cases f x with
    | error e => rfl
    | ok first =>
      cases gather f xs with
      | error e => rfl
      | ok others => simp [Except.map, bind, Except.bind, pure, Except.pure]

theorem gather_cons_eq_ok {f : α → Except ε (List β)} {x : α} {xs : List α} {zs : List β} :
    gather f (x :: xs) = .ok zs ↔
      ∃ first others, f x = .ok first ∧ gather f xs = .ok others ∧ zs = first ++ others := by
  rw [gather, andThen_ok_iff]
  constructor
  · rintro ⟨first, h₁, h⟩
    obtain ⟨others, h₂, h₃⟩ := andThen_ok_iff.1 h
    cases h₃
    exact ⟨first, others, h₁, h₂, rfl⟩
  · rintro ⟨first, others, h₁, h₂, rfl⟩
    exact ⟨first, h₁, andThen_ok_iff.2 ⟨others, h₂, rfl⟩⟩

/-- Every result comes from some member of the list. -/
theorem mem_gather {f : α → Except ε (List β)} {xs : List α} {zs : List β}
    (h : gather f xs = .ok zs) {z : β} :
    z ∈ zs ↔ ∃ x ∈ xs, ∃ ys, f x = .ok ys ∧ z ∈ ys := by
  induction xs generalizing zs with
  | nil =>
    cases h
    simp
  | cons x xs ih =>
    obtain ⟨first, others, h₁, h₂, rfl⟩ := gather_cons_eq_ok.1 h
    rw [List.mem_append, ih h₂]
    constructor
    · rintro (hz | ⟨y, hy, ys, hys, hz⟩)
      · exact ⟨x, List.mem_cons_self, first, h₁, hz⟩
      · exact ⟨y, List.mem_cons_of_mem x hy, ys, hys, hz⟩
    · rintro ⟨y, hy, ys, hys, hz⟩
      rcases List.mem_cons.1 hy with rfl | hy
      · rw [h₁] at hys
        cases hys
        exact Or.inl hz
      · exact Or.inr ⟨y, hy, ys, hys, hz⟩

/-- Gathering fails exactly if it fails for some member. -/
theorem gather_fails {f : α → Except ε (List β)} {xs : List α} :
    (∃ e, gather f xs = .error e) ↔ ∃ x ∈ xs, ∃ e, f x = .error e := by
  induction xs with
  | nil => simp [gather]
  | cons x xs ih =>
    simp only [List.mem_cons, exists_eq_or_imp, ← ih]
    cases hx : f x with
    | error e => simp [gather, hx, bind, Except.bind]
    | ok first =>
      cases hxs : gather f xs with
      | error e => simp [gather, hx, hxs, bind, Except.bind]
      | ok others => simp [gather, hx, hxs, bind, Except.bind, pure, Except.pure]

/-- There are results of all members if each of them has its own. -/
theorem exists_gather_iff {f : α → Except ε (List β)} {xs : List α} :
    (∃ ys, gather f xs = .ok ys) ↔ ∀ x ∈ xs, ∃ ys, f x = .ok ys := by
  simp only [exists_ok_iff, gather_fails, not_exists, not_and]

/-- Reading one result from each member is gathering lists of one. -/
theorem mapM_eq_gather (f : α → Except ε β) (xs : List α) :
    xs.mapM f = gather (fun x => (f x).map fun b => [b]) xs := by
  induction xs with
  | nil => rfl
  | cons x xs ih =>
    rw [List.mapM_cons, gather, ih]
    cases f x with
    | error e => rfl
    | ok b => rfl

theorem mapM_map {γ δ : Type} {f : α → Except ε β} {f' : γ → Except ε δ} {g : α → γ} {h : β → δ}
    {xs : List α} (hf : ∀ x ∈ xs, f' (g x) = (f x).map h) :
    (xs.map g).mapM f' = (xs.mapM f).map (List.map h) := by
  rw [mapM_eq_gather, mapM_eq_gather]
  refine gather_map fun x hx => ?_
  rw [hf x hx]
  cases f x with
  | error e => rfl
  | ok b => rfl

theorem mem_mapM {f : α → Except ε β} {xs : List α} {ys : List β} (h : xs.mapM f = .ok ys)
    {y : β} : y ∈ ys ↔ ∃ x ∈ xs, f x = .ok y := by
  rw [mapM_eq_gather] at h
  rw [mem_gather h]
  constructor
  · rintro ⟨x, hx, zs, hzs, hy⟩
    refine ⟨x, hx, ?_⟩
    cases hfx : f x with
    | error e =>
      rw [hfx] at hzs
      cases hzs
    | ok b =>
      rw [hfx] at hzs
      cases hzs
      rw [List.mem_singleton.1 hy]
  · rintro ⟨x, hx, hfx⟩
    exact ⟨x, hx, [y], by rw [hfx]; rfl, List.mem_singleton.2 rfl⟩

theorem mapM_fails {f : α → Except ε β} {xs : List α} :
    (∃ e, xs.mapM f = .error e) ↔ ∃ x ∈ xs, ∃ e, f x = .error e := by
  rw [mapM_eq_gather, gather_fails]
  simp only [map_fails]

theorem exists_mapM_iff {f : α → Except ε β} {xs : List α} :
    (∃ ys, xs.mapM f = .ok ys) ↔ ∀ x ∈ xs, ∃ y, f x = .ok y := by
  simp only [exists_ok_iff, mapM_fails, not_exists, not_and]

theorem mapM_cons_eq_error {f : α → Except ε β} {x : α} {xs : List α} {e : ε} :
    (x :: xs).mapM f = .error e ↔
      f x = .error e ∨ ∃ b, f x = .ok b ∧ xs.mapM f = .error e := by
  rw [List.mapM_cons]
  cases hx : f x with
  | error e' => simp [bind, Except.bind]
  | ok b =>
    cases hxs : xs.mapM f with
    | error e' => simp [bind, Except.bind]
    | ok others => simp [bind, Except.bind, pure, Except.pure]

/-- The first member that fails ends a row of readings. -/
theorem mapM_eq_error {f : α → Except ε β} {xs : List α} {e : ε} :
    xs.mapM f = .error e ↔ ∃ before x after, xs = before ++ x :: after ∧
      (∀ y ∈ before, ∃ b, f y = .ok b) ∧ f x = .error e := by
  constructor
  · intro h
    induction xs with
    | nil => cases h
    | cons x xs ih =>
      rcases mapM_cons_eq_error.1 h with hx | ⟨b, hx, hxs⟩
      · exact ⟨[], x, xs, rfl, nofun, hx⟩
      · obtain ⟨before, y, after, rfl, hbefore, hy⟩ := ih hxs
        exact ⟨x :: before, y, after, rfl, List.forall_mem_cons.2 ⟨⟨b, hx⟩, hbefore⟩, hy⟩
  · rintro ⟨before, x, after, rfl, hbefore, hx⟩
    induction before with
    | nil => exact mapM_cons_eq_error.2 (.inl hx)
    | cons y before ih =>
      obtain ⟨⟨b, hy⟩, hrest⟩ := List.forall_mem_cons.1 hbefore
      exact mapM_cons_eq_error.2 (.inr ⟨b, hy, ih hrest⟩)

/-- What is read belongs to the members in their order. -/
theorem forall₂_mapM {f : α → Except ε β} {xs : List α} {ys : List β} (h : xs.mapM f = .ok ys) :
    List.Forall₂ (fun x y => f x = .ok y) xs ys := by
  induction xs generalizing ys with
  | nil =>
    cases h
    exact List.Forall₂.nil
  | cons x xs ih =>
    rw [List.mapM_cons] at h
    obtain ⟨first, hfirst, h⟩ := andThen_ok_iff.1 h
    obtain ⟨others, hothers, h⟩ := andThen_ok_iff.1 h
    cases h
    exact List.Forall₂.cons hfirst (ih hothers)

/-- A relation between the results of one member and between those of an earlier and a later member
holds between all results in their order. -/
theorem pairwise_gather {f : α → Except ε (List β)} {R : β → β → Prop} {xs : List α} {zs : List β}
    (h : gather f xs = .ok zs)
    (within : ∀ x ∈ xs, ∀ ys, f x = .ok ys → ys.Pairwise R)
    (across : xs.Pairwise fun a b => ∀ ys zs, f a = .ok ys → f b = .ok zs →
      ∀ y ∈ ys, ∀ z ∈ zs, R y z) :
    zs.Pairwise R := by
  induction xs generalizing zs with
  | nil =>
    cases h
    exact List.Pairwise.nil
  | cons x xs ih =>
    obtain ⟨first, others, h₁, h₂, rfl⟩ := gather_cons_eq_ok.1 h
    obtain ⟨hx, hxs⟩ := List.pairwise_cons.1 across
    refine List.pairwise_append.2 ⟨within x List.mem_cons_self first h₁, ?_, ?_⟩
    · exact ih h₂ (fun y hy => within y (List.mem_cons_of_mem x hy)) hxs
    · intro a ha b hb
      obtain ⟨y, hy, ys, hys, hb⟩ := (mem_gather h₂).1 hb
      exact hx y hy first ys h₁ hys a ha b hb

/-- If only some members have a result, and one each, the results belong to these in their order. -/
theorem forall₂_gather {f : α → Except ε (List β)} {P : α → Prop} [DecidablePred P]
    {R : α → β → Prop} {xs : List α} {zs : List β} (h : gather f xs = .ok zs)
    (one : ∀ x ∈ xs, P x → ∀ ys, f x = .ok ys → ∃ y, ys = [y] ∧ R x y)
    (none : ∀ x ∈ xs, ¬ P x → f x = .ok []) :
    List.Forall₂ R (xs.filter fun x => decide (P x)) zs := by
  induction xs generalizing zs with
  | nil =>
    cases h
    exact List.Forall₂.nil
  | cons x xs ih =>
    obtain ⟨first, others, h₁, h₂, rfl⟩ := gather_cons_eq_ok.1 h
    have hothers := ih h₂ (fun y hy => one y (List.mem_cons_of_mem x hy))
      fun y hy => none y (List.mem_cons_of_mem x hy)
    by_cases hx : P x
    · obtain ⟨y, rfl, hy⟩ := one x List.mem_cons_self hx first h₁
      rw [List.filter_cons_of_pos (by simpa using hx)]
      exact List.Forall₂.cons hy hothers
    · rw [none x List.mem_cons_self hx] at h₁
      cases h₁
      rw [List.filter_cons_of_neg (by simpa using hx)]
      exact hothers

/-- What stands on the right has a partner on the left. -/
theorem exists_left_of_mem {R : α → β → Prop} {xs : List α} {ys : List β}
    (h : List.Forall₂ R xs ys) {y : β} (hy : y ∈ ys) : ∃ x ∈ xs, R x y := by
  induction h with
  | nil => exact absurd hy List.not_mem_nil
  | @cons x y' xs ys hxy _ ih =>
    rcases List.mem_cons.1 hy with rfl | hy
    · exact ⟨x, List.mem_cons_self, hxy⟩
    · obtain ⟨x', hx', hxy'⟩ := ih hy
      exact ⟨x', List.mem_cons_of_mem x hx', hxy'⟩

/-- What two lists have in common with a third, place by place, relates them to each other. -/
theorem forall₂_of_common {γ : Type} {R : α → β → Prop} {S : α → γ → Prop} {T : β → γ → Prop}
    {xs : List α} {ys : List β} {zs : List γ} (hys : List.Forall₂ R xs ys)
    (hzs : List.Forall₂ S xs zs) (h : ∀ x ∈ xs, ∀ y z, R x y → S x z → T y z) :
    List.Forall₂ T ys zs := by
  induction hys generalizing zs with
  | nil =>
    cases hzs
    exact List.Forall₂.nil
  | cons hy _ ih =>
    cases hzs with
    | cons hz hzs =>
      refine List.Forall₂.cons (h _ List.mem_cons_self _ _ hy hz) ?_
      exact ih hzs fun x hx => h x (List.mem_cons_of_mem _ hx)

end

end ScriptDeps
