import ScriptDeps.Proofs.Json.Reading

namespace ScriptDeps.Json

/-! # Failures

Whatever is not read has a flaw at some place, unless there is an integer with too many digits in
it. Main statements:

* `excused_read`: no other text fails for its digits;
* `read_error`: how a text fails that is not in the grammar.
-/

/-- More digits than are converted stand in the text, next to each other. -/
def LongDigits (t : Text) : Prop :=
  ∃ before ds behind, t = before ++ ds ++ behind ∧ IsDigits ds ∧ digitLimit < ds.length

theorem LongDigits.behind {t : Text} (h : LongDigits t) (before : Text) :
    LongDigits (before ++ t) := by
  obtain ⟨u, ds, v, rfl, hds, hlong⟩ := h
  exact ⟨before ++ u, ds, v, by simp only [List.append_assoc], hds, hlong⟩

/-- Only a text with so many digits fails for its digits. -/
def Excused {α : Type} (t : Text) (x : Except Failure α) : Prop :=
  ∀ k, x = .error (.tooManyDigits k) → LongDigits t

section

variable {α β : Type} {t : Text} {x : Except Failure α}

theorem Excused.ok (a : α) : Excused t (.ok a : Except Failure α) := fun _ h => nomatch h

theorem Excused.malformed (flaw : Flaw) (position : Nat) :
    Excused t (.error (.malformed flaw position) : Except Failure α) := fun _ h => nomatch h

theorem Excused.fail (r : Rest) (flaw : Flaw) :
    Excused t (r.fail flaw : Except Failure (α × Rest)) :=
  .malformed flaw r.position

theorem Excused.bind {f : α → Except Failure β} (hx : Excused t x)
    (hf : ∀ a, x = .ok a → Excused t (f a)) : Excused t (x >>= f) := by
  intro k h
  cases x with
  | error e => exact hx k (congrArg Except.error (Except.error.inj h))
  | ok a => exact hf a rfl k h

theorem Excused.behind (h : Excused t x) (before : Text) : Excused (before ++ t) x :=
  fun k hk => (h k hk).behind before

end

variable {r : Rest}

theorem Excused.skip {α : Type} {x : Except Failure α} {n : Nat} (h : Excused (r.skip n).text x) :
    Excused r.text x := by
  rw [← List.take_append_drop n r.text]
  exact h.behind _

/-! ## Strings and numbers -/

theorem excused_readCodeUnit {t : Text} : Excused t (readCodeUnit r) := by
  unfold readCodeUnit
  dsimp only
  split
  · exact .fail _ _
  · split
    · exact .fail _ _
    · split
      · split
        · exact .fail _ _
        · split <;> exact .ok _
      · exact .ok _

theorem excused_readString {t : Text} {start n : Nat} : Excused t (readString start n r) := by
  induction n generalizing r with
  | zero => exact .malformed _ _
  | succ n ih =>
    have hrest : ∀ (v : Nat) (next : Rest),
        Excused t (readString start n next >>= fun found => .ok (v :: found.1, found.2)) :=
      fun v next => .bind ih fun _ _ => .ok _
    rw [readString]
    split
    · exact .malformed _ _
    · split
      · exact .ok _
      · split
        · split
          · exact .malformed _ _
          · split
            · exact .bind excused_readCodeUnit fun _ _ => hrest _ _
            · split
              · exact .fail _ _
              · exact hrest _ _
        · split
          · exact .fail _ _
          · exact hrest _ _

theorem excused_readUnsigned {negative : Bool} {start : Rest} :
    Excused start.text (readUnsigned negative r start) := by
  unfold readUnsigned
  dsimp only
  split
  · exact .fail _ _
  · next hempty =>
    split
    · split
      · next hlong =>
        intro k h
        refine ⟨[], wholePart start.text, start.text.drop (wholePart start.text).length,
          (wholePart_append_drop start.text).symm, (isWhole_wholePart hempty).1, hlong⟩
      · exact .ok _
    · exact .ok _

theorem excused_readAtom : Excused r.text (readAtom r) := by
  rw [readAtom]
  split
  · exact .ok _
  · rw [readNumber_eq]
    split
    · exact excused_readUnsigned.skip
    · exact excused_readUnsigned

/-! ## Values -/

/-- With that bound on the depth, only texts with so many digits fail for their digits. -/
structure AllExcused (n : Nat) : Prop where
  value : ∀ r, Excused r.text (readValue n r)
  items : ∀ r, Excused r.text (readItems n r)
  members : ∀ known r, Excused r.text (readMembers n known r)

namespace AllExcused

variable {n : Nat}

theorem readValue_succ (h : AllExcused n) : Excused r.text (readValue (n + 1) r) := by
  rw [readValue]
  split
  · exact .bind excused_readString fun _ _ => .ok _
  · dsimp only
    split
    · exact .ok _
    · exact (h.members [] _).skip.skip
  · dsimp only
    split
    · exact .ok _
    · exact .bind (h.items _).skip.skip fun _ _ => .ok _
  · exact excused_readAtom

theorem readItems_succ (h : AllExcused n) : Excused r.text (readItems (n + 1) r) := by
  rw [Json.readItems_succ]
  refine .bind (h.value r) fun found hread => ?_
  obtain ⟨v, next⟩ := found
  obtain ⟨t, ht, -⟩ := (onlyWritten n).value _ _ _ hread
  rw [ht]
  refine Excused.behind ?_ t
  dsimp only [afterItem]
  split
  · exact .ok _
  · exact .bind (h.items _).skip.skip.skip fun _ _ => .ok _
  · exact .fail _ _

theorem readMembers_succ (h : AllExcused n) (known : List (Text × Json)) :
    Excused r.text (readMembers (n + 1) known r) := by
  rw [Json.readMembers_succ]
  split
  · exact .fail _ _
  next hquote =>
  refine .bind excused_readString fun found hname => ?_
  obtain ⟨name, r₁⟩ := found
  -- what stands behind the name is a part of the text
  obtain ⟨k, hk, -⟩ := spells_of_readQuoted (not_not.1 hquote) hname
  rw [hk, List.append_cons]
  refine Excused.behind ?_ _
  dsimp only
  split
  · exact .fail _ _
  refine .bind (h.value _).skip.skip.skip fun found hread => ?_
  obtain ⟨v, r₃⟩ := found
  have hbehind : Excused r₃.text (afterMember n (insert name v known) r₃.skipBlanks) := by
    unfold afterMember
    split
    · exact .ok _
    · exact (h.members _ _).skip.skip.skip
    · exact .fail _ _
  obtain ⟨t, ht, -⟩ := (onlyWritten n).value _ _ _ hread
  have hvalue : Excused (r₁.skipBlanks.skip 1).skipBlanks.text
      (afterMember n (insert name v known) r₃.skipBlanks) := by
    rw [ht]
    exact hbehind.behind t
  exact hvalue.skip.skip.skip

end AllExcused

theorem allExcused (n : Nat) : AllExcused n := by
  -- running out of fuel is a flaw as well, and no other reader counts digits
  induction n with
  | zero => exact ⟨fun _ => .fail _ _, fun _ => .fail _ _, fun _ _ => .fail _ _⟩
  | succ n ih =>
    exact ⟨fun _ => ih.readValue_succ, fun _ => ih.readItems_succ, fun known _ =>
      ih.readMembers_succ known⟩

/-! ## Texts -/

theorem excused_read (t : Text) : Excused t (read t) := by
  rw [read]
  split
  · exact .malformed _ _
  · refine .bind ((allExcused _).value _).skip fun found _ => ?_
    dsimp only
    split
    · exact .ok _
    · exact .malformed _ _

/-- A text that is not in the grammar has a flaw, or so many digits stand in it. -/
theorem read_error {t : Text} (h : ∀ j, ¬ Written t j) :
    (∃ flaw position, read t = .error (.malformed flaw position)) ∨
      ∃ count, read t = .error (.tooManyDigits count) ∧ LongDigits t := by
  cases hread : read t with
  | ok j => exact absurd (read_eq_ok_iff.1 hread) (h j)
  | error e =>
    cases e with
    | malformed flaw position => exact .inl ⟨flaw, position, rfl⟩
    | tooManyDigits count => exact .inr ⟨count, rfl, excused_read t count hread⟩

end ScriptDeps.Json
