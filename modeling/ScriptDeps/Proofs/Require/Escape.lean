import ScriptDeps.Proofs.Gather
import ScriptDeps.Require.Literal

namespace ScriptDeps.Require

open Syntax (TextError)
open Text (hexValue? valueOf)

/-! # Escapes that denote nothing

The body of a string literal is read from left to right, an escape at a time. It has a value unless
an escape with braces is met whose digits denote no code point. Main statements:

* `Remains`: what is left of a body while it is read;
* `escapeAt_fails`: the escapes without a value;
* `unescape_fails`: the bodies without a value.
-/

/-- What is left of a text after some of its characters and escapes were read. -/
inductive Remains (t : Text) : Text → Prop
  | all : Remains t t
  | behindCharacter {c : Nat} {rest : Text} :
      c ≠ 0x5C → Remains t (c :: rest) → Remains t rest
  | behindEscape {rest : Text} {value : Except TextError Text} {length : Nat} :
      Remains t (0x5C :: rest) → escapeAt rest = some (value, length) →
      Remains t (rest.drop length)

theorem Remains.trans {t u v : Text} (htu : Remains t u) (huv : Remains u v) : Remains t v := by
  induction huv with
  | all => exact htu
  | behindCharacter hc _ ih => exact ih.behindCharacter hc
  | behindEscape _ hescape ih => exact ih.behindEscape hescape

/-- The text starts with hexadecimal digits between braces. -/
def Braced (t ds : Text) : Prop :=
  ∃ rest, t = 0x7B :: (ds ++ 0x7D :: rest) ∧ ds ≠ [] ∧ ∀ c ∈ ds, (hexValue? c).isSome = true

/-- The text starts with an escape whose digits denote no code point. -/
def StartsTooLarge (t : Text) : Prop :=
  ∃ rest ds, t = 0x5C :: 0x75 :: rest ∧ Braced rest ds ∧ 0x10FFFF < valueOf 16 ds

/-- While the body is read, an escape is met whose digits denote no code point. -/
def TooLarge (body : Text) : Prop := ∃ t, Remains body t ∧ StartsTooLarge t

/-! ## One escape -/

theorem takeWhile_append_of_not {p : Nat → Bool} {ds rest : Text} {c : Nat}
    (hds : ∀ d ∈ ds, p d = true) (hc : p c = false) :
    (ds ++ c :: rest).takeWhile p = ds := by
  rw [List.takeWhile_append_of_pos hds, List.takeWhile_cons, hc, if_neg Bool.false_ne_true,
    List.append_nil]

/-- The digits between braces are all hexadecimal, and a brace follows them. -/
theorem bracedDigits?_eq_some {t ds : Text} : bracedDigits? t = some ds ↔ Braced t ds := by
  constructor
  · intro h
    unfold bracedDigits? at h
    split at h
    · next rest =>
      dsimp only at h
      split at h
      · cases h
      · next hempty =>
        split at h
        · next hbrace =>
          cases h
          obtain ⟨tail, htail⟩ := List.head?_eq_some_iff.1 hbrace
          have hsplit : rest = (rest.takeWhile fun c => (hexValue? c).isSome) ++ 0x7D :: tail := by
            rw [← htail]
            exact (List.prefix_iff_eq_append.1 (List.takeWhile_prefix _)).symm
          refine ⟨tail, congrArg (0x7B :: ·) hsplit, ?_, ?_⟩
          · intro hnil
            rw [hnil] at hempty
            exact hempty rfl
          · exact List.all_eq_true.1 List.all_takeWhile
        · cases h
    · cases h
  · rintro ⟨rest, rfl, hne, hhex⟩
    have hds : (ds ++ 0x7D :: rest).takeWhile (fun c => (hexValue? c).isSome) = ds :=
      takeWhile_append_of_not hhex rfl
    have hempty : ds.isEmpty = false := List.isEmpty_eq_false_iff.2 hne
    simp only [bracedDigits?, hds, hempty, List.drop_left, List.head?_cons]
    rfl

theorem codePoint_fails {v : Nat} : (∃ e, codePoint v = .error e) ↔ 0x10FFFF < v := by
  unfold codePoint
  constructor
  · rintro ⟨e, h⟩
    split at h
    · cases h
    · omega
  · intro h
    rw [if_neg (by omega)]
    split
    · exact ⟨_, rfl⟩
    · exact ⟨_, rfl⟩

/-- Only at the end of a body, a backslash starts no escape. -/
theorem escapeAt_eq_none {t : Text} : escapeAt t = none ↔ t = [] := by
  constructor
  · intro h
    cases t with
    | nil => rfl
    | cons c rest =>
      simp only [escapeAt] at h
      split at h
      · split at h <;> cases h
      · split at h
        · split at h <;> cases h
        · split at h
          · cases h
          · split at h <;> cases h
  · rintro rfl
    rfl

/-- An escape has a value unless its digits denote no code point. -/
theorem escapeAt_fails {t : Text} :
    (∃ e length, escapeAt t = some (.error e, length)) ↔ StartsTooLarge (0x5C :: t) := by
  constructor
  · rintro ⟨e, length, h⟩
    unfold escapeAt at h
    split at h
    · cases h
    · next c rest =>
      dsimp only at h
      split at h
      · next hu =>
        subst hu
        split at h
        · next _ _ ds hds =>
          simp only [Option.some.injEq, Prod.mk.injEq] at h
          exact ⟨rest, ds, rfl, bracedDigits?_eq_some.1 hds, codePoint_fails.1 ⟨e, h.1⟩⟩
        · cases h
        · cases h
      · -- no other escape can fail
        split at h
        · split at h <;> cases h
        · split at h
          · cases h
          · split at h <;> cases h
  · rintro ⟨rest, ds, heq, hbraced, hlarge⟩
    obtain ⟨e, he⟩ := codePoint_fails.2 hlarge
    cases heq
    refine ⟨e, ds.length + 3, ?_⟩
    simp only [escapeAt, bracedDigits?_eq_some.2 hbraced, if_true, he]

/-! ## A whole body -/

theorem unescapeFrom_eq (skip : Nat) (t : Text) : unescapeFrom skip t = unescape (t.drop skip) := by
  induction t generalizing skip with
  | nil =>
    rw [List.drop_nil]
    cases skip <;> rfl
  | cons c rest ih =>
    cases skip with
    | zero => rfl
    | succ skip => rw [unescapeFrom, ih, List.drop_succ_cons]

theorem unescape_character {c : Nat} (hc : c ≠ 0x5C) (rest : Text) :
    (∃ e, unescape (c :: rest) = .error e) ↔ ∃ e, unescape rest = .error e := by
  rw [unescape, unescapeFrom, if_neg hc, map_fails, unescapeFrom_eq, List.drop_zero]

theorem unescape_escape {rest : Text} {value : Except TextError Text} {length : Nat}
    (h : escapeAt rest = some (value, length)) :
    (∃ e, unescape (0x5C :: rest) = .error e) ↔
      (∃ e, value = .error e) ∨ ∃ e, unescape (rest.drop length) = .error e := by
  rw [unescape, unescapeFrom, if_pos rfl, h]
  dsimp only
  cases value with
  | error e =>
    constructor
    · exact fun _ => Or.inl ⟨e, rfl⟩
    · exact fun _ => ⟨e, rfl⟩
  | ok v =>
    rw [unescapeFrom_eq]
    cases unescape (rest.drop length) with
    | error e =>
      constructor
      · exact fun _ => Or.inr ⟨e, rfl⟩
      · exact fun _ => ⟨e, rfl⟩
    | ok u =>
      constructor
      · rintro ⟨e, he⟩
        cases he
      · rintro (⟨e, he⟩ | ⟨e, he⟩) <;> cases he

/-- A body has no value if what remains of it has none. -/
theorem Remains.fails {body t : Text} (h : Remains body t) (ht : ∃ e, unescape t = .error e) :
    ∃ e, unescape body = .error e := by
  induction h with
  | all => exact ht
  | behindCharacter hc _ ih => exact ih ((unescape_character hc _).2 ht)
  | behindEscape _ hescape ih => exact ih ((unescape_escape hescape).2 (Or.inr ht))

/-- A body has a value unless an escape is met that denotes no code point. -/
theorem unescape_fails {body : Text} : (∃ e, unescape body = .error e) ↔ TooLarge body := by
  constructor
  · intro h
    -- every escape and every character leaves less of the body
    induction hlength : body.length using Nat.strongRecOn generalizing body with
    | ind n ih =>
      subst hlength
      cases body with
      | nil =>
        obtain ⟨e, he⟩ := h
        cases he
      | cons c rest =>
        by_cases hc : c = 0x5C
        · subst hc
          cases hescape : escapeAt rest with
          | none =>
            -- nothing is behind the backslash
            rw [escapeAt_eq_none.1 hescape] at h
            obtain ⟨e, he⟩ := h
            cases he
          | some found =>
            obtain ⟨value, length⟩ := found
            rcases (unescape_escape hescape).1 h with ⟨e, rfl⟩ | hrest
            · exact ⟨0x5C :: rest, .all, escapeAt_fails.1 ⟨e, length, hescape⟩⟩
            · have hshorter : (rest.drop length).length < (0x5C :: rest).length := by
                rw [List.length_drop, List.length_cons]
                omega
              obtain ⟨t, hremains, hlarge⟩ := ih _ hshorter hrest rfl
              exact ⟨t, (Remains.all.behindEscape hescape).trans hremains, hlarge⟩
        · have hrest := (unescape_character hc rest).1 h
          obtain ⟨t, hremains, hlarge⟩ := ih _ (Nat.lt_succ_self _) hrest rfl
          exact ⟨t, (Remains.all.behindCharacter hc).trans hremains, hlarge⟩
  · rintro ⟨t, hremains, hlarge⟩
    obtain ⟨rest, ds, rfl, -⟩ := id hlarge
    obtain ⟨e, length, hescape⟩ := escapeAt_fails.2 hlarge
    exact hremains.fails ((unescape_escape hescape).2 (Or.inl ⟨e, rfl⟩))

end ScriptDeps.Require
