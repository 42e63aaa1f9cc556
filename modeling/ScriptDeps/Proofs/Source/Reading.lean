import ScriptDeps.Source.Cursor

namespace ScriptDeps.Source

/-! # Where a cursor can stand

A cursor reads a source glyph by glyph, so that it stands between two glyphs at all times, and so do
the bounds of the token that it reads. Whoever reads with a cursor takes glyphs, skips them and marks
the end of the token, in some order. Main statements:

* `Between`: the offsets between two glyphs;
* `Cursor.Reads`: what reading can lead to;
* `Cursor.Stands.reads`: reading leaves a cursor between two glyphs.
-/

/-- The offset lies between two glyphs. -/
inductive Between (bytes : ByteArray) : Nat → Prop
  | start : Between bytes 0
  | behind {i : Nat} : Between bytes i → Between bytes (i + (glyphAt bytes i).2)

namespace Cursor

variable {bytes : ByteArray} {c d : Cursor}

/-- The cursor and the bounds of its token are between glyphs of the source. -/
structure Stands (bytes : ByteArray) (c : Cursor) : Prop where
  bytes_eq : c.bytes = bytes
  width_eq : c.width = (glyphAt bytes c.place.offset).2
  place : Between bytes c.place.offset
  tokenStart : Between bytes c.tokenStart.offset
  tokenStop : ∀ p, c.tokenStop = some p → Between bytes p.offset

/-! ## One step -/

/-- A cursor that is moved between two glyphs stands there. -/
theorem Stands.moveTo {p : Position} (h : Between bytes p.offset) : Stands bytes (moveTo bytes p) where
  bytes_eq := rfl
  width_eq := rfl
  place := h
  tokenStart := h
  tokenStop := fun _ hq => nomatch hq

theorem Stands.next (h : Stands bytes c) : Between bytes c.next.offset := by
  have hbehind := h.place.behind
  rw [← h.width_eq] at hbehind
  exact hbehind

theorem Stands.take (h : Stands bytes c) : Stands bytes c.take where
  bytes_eq := h.bytes_eq
  width_eq := by
    show (glyphAt c.bytes c.next.offset).2 = (glyphAt bytes c.next.offset).2
    rw [h.bytes_eq]
  place := h.next
  tokenStart := h.tokenStart
  tokenStop := h.tokenStop

theorem Stands.skip (h : Stands bytes c) : Stands bytes c.skip where
  bytes_eq := h.take.bytes_eq
  width_eq := h.take.width_eq
  place := h.take.place
  tokenStart := h.take.place
  tokenStop := h.take.tokenStop

theorem Stands.mark (h : Stands bytes c) : Stands bytes c.mark where
  bytes_eq := h.bytes_eq
  width_eq := h.width_eq
  place := h.place
  tokenStart := h.tokenStart
  tokenStop := by
    intro p hp
    cases hp
    exact h.place

/-- A token that starts anew starts between two glyphs. -/
theorem Stands.begin (h : Stands bytes c) : Stands bytes c.begin := by
  have hempty : Stands bytes { c with tokenStart := c.place, tokenStop := none } :=
    ⟨h.bytes_eq, h.width_eq, h.place, h.place, fun _ hq => nomatch hq⟩
  unfold Cursor.begin
  dsimp only
  split
  · exact hempty.skip
  · exact hempty

/-- The bounds of the token are between two glyphs. -/
theorem Stands.bounds (h : Stands bytes c) :
    Between bytes c.bounds.1.offset ∧ Between bytes c.bounds.2.offset := by
  have hstop : Between bytes (c.tokenStop.getD c.place).offset := by
    cases hs : c.tokenStop with
    | none => exact h.place
    | some p => exact h.tokenStop p hs
  refine ⟨?_, hstop⟩
  unfold Cursor.bounds
  dsimp only
  split
  · exact hstop
  · exact h.tokenStart

/-! ## Any number of steps -/

/-- Reading leads from one cursor to the other. -/
inductive Reads (c : Cursor) : Cursor → Prop
  | refl : Reads c c
  | take {d : Cursor} : Reads c d → Reads c d.take
  | skip {d : Cursor} : Reads c d → Reads c d.skip
  | mark {d : Cursor} : Reads c d → Reads c d.mark

/-- Reading leaves a cursor between two glyphs. -/
theorem Stands.reads (h : Stands bytes c) (hd : Reads c d) : Stands bytes d := by
  induction hd with
  | refl => exact h
  | take _ ih => exact ih.take
  | skip _ ih => exact ih.skip
  | mark _ ih => exact ih.mark

theorem Reads.skipWhile (h : Reads c d) (p : Glyph → Bool) : Reads c (d.skipWhile p) := by
  unfold Cursor.skipWhile
  generalize d.budget = n
  induction n generalizing d with
  | zero => exact h
  | succ n ih =>
    unfold skipWhile.go
    split
    · exact ih h.skip
    · exact h

theorem Reads.takeWhile (h : Reads c d) (p : Glyph → Bool) : Reads c (d.takeWhile p) := by
  unfold Cursor.takeWhile
  generalize d.budget = n
  induction n generalizing d with
  | zero => exact h
  | succ n ih =>
    unfold takeWhile.go
    split
    · exact ih h.take
    · exact h

end Cursor

end ScriptDeps.Source
