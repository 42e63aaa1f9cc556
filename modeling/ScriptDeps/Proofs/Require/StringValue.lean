import Mathlib.Algebra.Group.Nat.Defs
import Mathlib.Data.List.Induction
import ScriptDeps.Proofs.Require.Items
import ScriptDeps.Proofs.Require.Restored
import ScriptDeps.Text.Encoding

namespace ScriptDeps.Require

open Syntax (Node TextError)
open Text (hexValue? joinPair joinPairs lit valueOf)

/-! # The value of a string literal

A string literal denotes a row of code units. A code point beyond `FFFF` is a pair of surrogates, be
it written as it is or in two escapes, and digits behind a backslash are a number to the base of
eight. The specifier of a static call has the value of its literal unless there are such digits,
which are read as if the backslash were not there; and it is the only text of that value in which no
pair is left apart. Main statements:

* `joinPairs_utf16`: a text is given by its code units if its pairs are joined;
* `Piece`: what a literal is written with, and what that denotes;
* `unescape_read`, `utf16_read_iff`: what is read instead, and when it is the same;
* `specifiers_of_value`: the specifiers of two literals with one value.
-/

/-! ## Code units -/

/-- The code units of a code point in UTF-16. -/
def unitsOf (c : Nat) : List Nat :=
  if c < 0x10000 then [c]
  else [0xD800 + (c - 0x10000) / 0x400, 0xDC00 + (c - 0x10000) % 0x400]

/-- The code units of a text in UTF-16. A surrogate that stands alone is a unit. -/
def utf16 (t : Text) : List Nat := t.flatMap unitsOf

/-- The code unit can be the first of a pair. -/
def IsHigh (u : Nat) : Prop := 0xD800 ≤ u ∧ u ≤ 0xDBFF

/-- The code unit can be the second of a pair. -/
def IsLow (u : Nat) : Prop := 0xDC00 ≤ u ∧ u ≤ 0xDFFF

instance (u : Nat) : Decidable (IsHigh u) := inferInstanceAs (Decidable (_ ∧ _))

instance (u : Nat) : Decidable (IsLow u) := inferInstanceAs (Decidable (_ ∧ _))

/-- No pair is left apart. -/
def IsJoined (t : Text) : Prop := t.IsChain fun a b => ¬ (IsHigh a ∧ IsLow b)

instance (t : Text) : Decidable (IsJoined t) := by
  unfold IsJoined
  infer_instance

theorem unitsOf_small {c : Nat} (h : c < 0x10000) : unitsOf c = [c] := if_pos h

theorem utf16_cons (c : Nat) (t : Text) : utf16 (c :: t) = unitsOf c ++ utf16 t :=
  List.flatMap_cons

theorem utf16_append (t u : Text) : utf16 (t ++ u) = utf16 t ++ utf16 u :=
  List.flatMap_append

/-- A text starts with the second half of a pair only if its first code point is one. -/
theorem head?_of_isLow {t : Text} {u : Nat} (hpoints : ∀ c ∈ t, c ≤ 0x10FFFF)
    (h : (utf16 t).head? = some u) (hu : IsLow u) : t.head? = some u := by
  cases t with
  | nil => cases h
  | cons c rest =>
    have hc := hpoints c List.mem_cons_self
    rw [utf16_cons] at h
    by_cases hsmall : c < 0x10000
    · rw [unitsOf_small hsmall] at h
      exact h
    · rw [unitsOf, if_neg hsmall] at h
      obtain rfl := Option.some.inj h
      have hlow := hu.1
      omega

/-- Units are joined one by one unless there is a pair. -/
theorem joinPairs_cons {u : Nat} {us : List Nat}
    (h : ∀ v, us.head? = some v → ¬ (IsHigh u ∧ IsLow v)) :
    joinPairs (u :: us) = u :: joinPairs us := by
  cases us with
  | nil => rfl
  | cons v rest =>
    have hno := h v rfl
    rw [joinPairs, if_neg]
    rintro ⟨hu, hu', hv, hv'⟩
    exact hno ⟨⟨hu, hu'⟩, hv, hv'⟩

theorem joinPairs_pair {c : Nat} (hlarge : 0x10000 ≤ c) (hc : c ≤ 0x10FFFF) (us : List Nat) :
    joinPairs (unitsOf c ++ us) = c :: joinPairs us := by
  have hpair : joinPair (0xD800 + (c - 0x10000) / 0x400) (0xDC00 + (c - 0x10000) % 0x400) = c := by
    unfold joinPair
    omega
  rw [unitsOf, if_neg (Nat.not_lt.2 hlarge), List.cons_append, List.cons_append, List.nil_append,
    joinPairs, if_pos (by omega), hpair]

/-- A text without pairs that are left apart is given by its code units. -/
theorem joinPairs_utf16 {t : Text} (hpoints : ∀ c ∈ t, c ≤ 0x10FFFF) (h : IsJoined t) :
    joinPairs (utf16 t) = t := by
  induction t with
  | nil => rfl
  | cons c rest ih =>
    have hrest : ∀ d ∈ rest, d ≤ 0x10FFFF := fun d hd => hpoints d (List.mem_cons_of_mem c hd)
    have hjoined : joinPairs (utf16 rest) = rest := ih hrest (List.IsChain.of_cons h)
    rw [utf16_cons]
    by_cases hsmall : c < 0x10000
    · rw [unitsOf_small hsmall, List.singleton_append, joinPairs_cons, hjoined]
      rintro v hv ⟨hhigh, hlow⟩
      obtain ⟨more, rfl⟩ := List.head?_eq_some_iff.1 (head?_of_isLow hrest hv hlow)
      exact (List.isChain_cons_cons.1 h).1 ⟨hhigh, hlow⟩
    · rw [joinPairs_pair (Nat.le_of_not_lt hsmall) (hpoints c List.mem_cons_self), hjoined]

/-! ## Pieces of a literal -/

/-- The code point is a digit to the base of eight. -/
def IsOctalDigit (c : Nat) : Prop := '0'.toNat ≤ c ∧ c ≤ '7'.toNat

instance (c : Nat) : Decidable (IsOctalDigit c) := inferInstanceAs (Decidable (_ ∧ _))

/-- The digits denote a code unit to the base of eight: there are at most three, and their value is
that of a byte. -/
structure AreOctal (ds : Text) : Prop where
  nonempty : ds ≠ []
  length : ds.length ≤ 3
  digits : ∀ d ∈ ds, IsOctalDigit d
  byte : valueOf 8 ds ≤ 0xFF

theorem areOctal_iff {ds : Text} : (ds ≠ [] ∧ ds.length ≤ 3 ∧ (∀ d ∈ ds, IsOctalDigit d) ∧
    valueOf 8 ds ≤ 0xFF) ↔ AreOctal ds := by
  constructor
  · rintro ⟨hnonempty, hlength, hdigits, hbyte⟩
    exact ⟨hnonempty, hlength, hdigits, hbyte⟩
  · intro h
    exact ⟨h.nonempty, h.length, h.digits, h.byte⟩

instance (ds : Text) : Decidable (AreOctal ds) := decidable_of_iff _ areOctal_iff

/-- What a string literal is written with. -/
inductive Piece where
  | item (i : Item)
  /-- Digits to the base of eight behind a backslash. The digit `0` alone is an escape of its
  own. -/
  | octal (ds : Text) (h : AreOctal ds) (other : ds ≠ lit "0")
  /-- A digit behind a backslash that is none to the base of eight. -/
  | decimal (d : Nat) (h : d = '8'.toNat ∨ d = '9'.toNat)

namespace Piece

/-- How a piece is written. -/
def text : Piece → Text
  | item i => i.text
  | octal ds _ _ => backslash :: ds
  | decimal d _ => [backslash, d]

/-- The code units that a piece denotes. -/
def units : Piece → List Nat
  | item i => utf16 i.value
  | octal ds _ _ => [valueOf 8 ds]
  | decimal d _ => [d]

/-- What is read for a piece. Of digits to the base of eight, the first is read as if it stood alone
behind the backslash, and the others as characters. -/
def read : Piece → Text
  | item i => i.value
  | octal ds _ _ => ds.modifyHead plainEscape
  | decimal d _ => [d]

/-- The piece consists of digits to the base of eight. -/
def IsOctal (p : Piece) : Prop := ∃ ds h other, p = octal ds h other

/-- A piece is as long as it can be. What stands behind it does not belong to it. -/
def EndsBefore : Piece → Text → Prop
  | item i, rest => ∀ e, i = .escape e →
    e.EndsBefore rest ∧ (e = .null → ∀ d ∈ rest.head?, ¬ IsOctalDigit d)
  | octal ds _ _, rest => ∀ d ∈ rest.head?, ¬ AreOctal (ds ++ [d])
  | decimal _ _, _ => True

end Piece

/-- The pieces are a body between two such quotes: each ends where the next one begins, and none ends
the literal or the line. -/
def IsBody (quote : Nat) : List Piece → Prop
  | [] => True
  | p :: rest => p.EndsBefore (rest.flatMap Piece.text) ∧
    p.text ∉ [[quote], LineEnd.lineFeed.text, LineEnd.carriageReturn.text] ∧ IsBody quote rest

/-- The value of a literal with these pieces. -/
def valueOfPieces (ps : List Piece) : List Nat := ps.flatMap Piece.units

/-- What is read for a literal with these pieces. -/
def readPieces (ps : List Piece) : Text := ps.flatMap Piece.read

/-- No piece consists of digits to the base of eight, and no pair is left apart. -/
structure IsPlain (ps : List Piece) : Prop where
  decimal : ∀ p ∈ ps, ¬ p.IsOctal
  joined : IsJoined (readPieces ps)

/-! ## What is read -/

/-- Characters in front of a body stand for themselves. -/
theorem unescape_characters {t : Text} (h : ∀ c ∈ t, c ≠ backslash) (rest : Text) :
    unescape (t ++ rest) = (unescape rest).map (t ++ ·) := by
  induction t with
  | nil =>
    rw [List.nil_append]
    cases unescape rest <;> rfl
  | cons c t ih =>
    obtain ⟨hc, ht⟩ := List.forall_mem_cons.1 h
    rw [List.cons_append, unescape_cons hc, ih ht]
    cases unescape rest <;> rfl

/-- A decimal digit behind a backslash is an escape of one character. -/
theorem escapeAt_digit {d : Nat} (hlow : '0'.toNat ≤ d) (hhigh : d ≤ '9'.toNat) (rest : Text) :
    escapeAt (d :: rest) = some (.ok [plainEscape d], 1) := by
  have hlow : 0x30 ≤ d := hlow
  have hhigh : d ≤ 0x39 := hhigh
  have hu : d ≠ 0x75 := by omega
  have hx : d ≠ 0x78 := by omega
  have hlf : d ≠ 0x0A := by omega
  have hcr : d ≠ 0x0D := by omega
  have hls : d ≠ 0x2028 := by omega
  have hps : d ≠ 0x2029 := by omega
  simp only [escapeAt, hu, hx, hlf, hcr, hls, hps, false_and, or_self, if_false]

/-- Of digits behind a backslash, the first is an escape, and the others stand for themselves. -/
theorem unescape_octal {ds : Text} (h : ∀ d ∈ ds, IsOctalDigit d) (hne : ds ≠ []) (rest : Text) :
    unescape (backslash :: (ds ++ rest)) = (unescape rest).map (ds.modifyHead plainEscape ++ ·) := by
  cases ds with
  | nil => exact absurd rfl hne
  | cons d more =>
    obtain ⟨⟨hlow, hhigh⟩, hmore⟩ := List.forall_mem_cons.1 h
    have hplain : ∀ c ∈ more, c ≠ backslash := by
      rintro c hc rfl
      exact absurd (hmore _ hc) (by decide)
    have hfirst : escapeAt ([d] ++ (more ++ rest)) = some (.ok [plainEscape d], [d].length) :=
      escapeAt_digit hlow (Nat.le_trans hhigh (by decide)) _
    have hbody : d :: more ++ rest = [d] ++ (more ++ rest) := rfl
    rw [hbody, unescape_backslash hfirst, unescape_characters hplain]
    cases unescape rest <;> rfl

theorem unescape_decimal {d : Nat} (h : d = '8'.toNat ∨ d = '9'.toNat) (rest : Text) :
    unescape (backslash :: ([d] ++ rest)) = (unescape rest).map ([d] ++ ·) := by
  refine unescape_backslash ?_
  rcases h with rfl | rfl
  · rfl
  · rfl

/-- What is read for a piece in front of a body. -/
theorem unescape_piece {p : Piece} {rest : Text} (h : p.EndsBefore rest) :
    unescape (p.text ++ rest) = (unescape rest).map (p.read ++ ·) := by
  cases p with
  | item i => exact unescape_append fun e he => (h e he).1
  | octal ds hds _ => exact unescape_octal hds.digits hds.nonempty rest
  | decimal d hd => exact unescape_decimal hd rest

/-- A body is read piece by piece. -/
theorem unescape_read {quote : Nat} {ps : List Piece} (h : IsBody quote ps) :
    unescape (ps.flatMap Piece.text) = .ok (readPieces ps) := by
  induction ps with
  | nil => rfl
  | cons p rest ih =>
    obtain ⟨hends, -, hrest⟩ := h
    rw [List.flatMap_cons, unescape_piece hends, ih hrest]
    rfl

/-! ## When the value is read -/

theorem utf16_of_small {t : Text} (h : ∀ c ∈ t, c < 0x10000) : utf16 t = t := by
  induction t with
  | nil => rfl
  | cons c rest ih =>
    obtain ⟨hc, hrest⟩ := List.forall_mem_cons.1 h
    rw [utf16_cons, unitsOf_small hc, ih hrest, List.singleton_append]

namespace Piece

theorem le_of_mem_octal {ds : Text} (h : ∀ d ∈ ds, IsOctalDigit d) :
    ∀ c ∈ ds.modifyHead plainEscape, c ≤ '7'.toNat := by
  intro c hc
  cases ds with
  | nil => cases hc
  | cons d more =>
    obtain ⟨hd, hmore⟩ := List.forall_mem_cons.1 h
    rcases List.mem_cons.1 hc with rfl | hc
    · have hhigh : d ≤ 0x37 := hd.2
      show _ ≤ 0x37
      unfold plainEscape
      split_ifs <;> omega
    · exact (hmore c hc).2

/-- What is read for octal digits has no pairs. -/
theorem utf16_octal {ds : Text} (h : ∀ d ∈ ds, IsOctalDigit d) :
    utf16 (ds.modifyHead plainEscape) = ds.modifyHead plainEscape :=
  utf16_of_small fun c hc => Nat.lt_of_le_of_lt (le_of_mem_octal h c hc) (by decide)

/-- Octal digits are not read as what they denote. -/
theorem read_octal_ne {ds : Text} (h : AreOctal ds) (other : ds ≠ lit "0") :
    ds.modifyHead plainEscape ≠ [valueOf 8 ds] := by
  cases ds with
  | nil => exact absurd rfl h.nonempty
  | cons d more =>
    intro heq
    obtain ⟨hd, rfl⟩ := List.cons.inj heq
    obtain ⟨hlow, hhigh⟩ := h.digits d List.mem_cons_self
    have hlow : 0x30 ≤ d := hlow
    have hhigh : d ≤ 0x37 := hhigh
    have hzero : d ≠ 0x30 := by
      rintro rfl
      exact other rfl
    have hvalue : valueOf 8 [d] = d - 0x30 := by
      have hdigit : hexValue? d = some (d - 0x30) := if_pos ⟨hlow, by omega⟩
      simp [valueOf, hdigit]
    have hread : plainEscape d = d := by
      unfold plainEscape
      split_ifs <;> omega
    omega

/-- The units that are read for a piece are those that it denotes unless it consists of octal
digits. -/
theorem utf16_read_iff {p : Piece} : utf16 p.read = p.units ↔ ¬ p.IsOctal := by
  cases p with
  | item i => exact iff_of_true rfl fun ⟨_, _, _, h⟩ => nomatch h
  | octal ds h other =>
    refine iff_of_false ?_ fun hno => hno ⟨ds, h, other, rfl⟩
    rw [read, units, utf16_octal h.digits]
    exact read_octal_ne h other
  | decimal d h =>
    refine iff_of_true (utf16_of_small fun c hc => ?_) fun ⟨_, _, _, h⟩ => nomatch h
    obtain rfl := List.mem_singleton.1 hc
    rcases h with rfl | rfl <;> decide

/-- No piece denotes more units than are read for it. -/
theorem length_units_le (p : Piece) : p.units.length ≤ (utf16 p.read).length := by
  by_cases hoctal : p.IsOctal
  · obtain ⟨ds, h, other, rfl⟩ := hoctal
    rw [read, utf16_octal h.digits, List.length_modifyHead]
    exact List.length_pos_iff.2 h.nonempty
  · exact Nat.le_of_eq (congrArg List.length (utf16_read_iff.2 hoctal).symm)

end Piece

theorem length_valueOfPieces_le (ps : List Piece) :
    (valueOfPieces ps).length ≤ (utf16 (readPieces ps)).length := by
  induction ps with
  | nil => exact Nat.le_refl _
  | cons p rest ih =>
    rw [valueOfPieces, readPieces, List.flatMap_cons, List.flatMap_cons, utf16_append,
      List.length_append, List.length_append]
    exact Nat.add_le_add p.length_units_le ih

/-- What is read for a literal is its value unless there are octal digits in it. -/
theorem utf16_readPieces_iff {ps : List Piece} :
    utf16 (readPieces ps) = valueOfPieces ps ↔ ∀ p ∈ ps, ¬ p.IsOctal := by
  induction ps with
  | nil => simp [readPieces, valueOfPieces, utf16]
  | cons p rest ih =>
    rw [List.forall_mem_cons, ← Piece.utf16_read_iff, ← ih]
    have hread : utf16 (readPieces (p :: rest)) = utf16 p.read ++ utf16 (readPieces rest) :=
      utf16_append _ _
    have hvalue : valueOfPieces (p :: rest) = p.units ++ valueOfPieces rest := List.flatMap_cons
    rw [hread, hvalue]
    constructor
    · intro heq
      -- neither part can be made up for by the other one
      have hlength := congrArg List.length heq
      rw [List.length_append, List.length_append] at hlength
      have hfirst := p.length_units_le
      have hothers := length_valueOfPieces_le rest
      exact List.append_inj heq (by omega)
    · rintro ⟨hfirst, hothers⟩
      rw [hfirst, hothers]

/-! ## Code points -/

theorem hexValue?_getD_lt (c : Nat) : (hexValue? c).getD 0 < 16 := by
  unfold hexValue?
  split_ifs <;> simp <;> omega

theorem valueOf_lt (ds : Text) : valueOf 16 ds < 16 ^ ds.length := by
  induction ds using List.reverseRecOn with
  | nil => exact Nat.one_pos
  | append_singleton ds d ih =>
    have hvalue : valueOf 16 (ds ++ [d]) = 16 * valueOf 16 ds + (hexValue? d).getD 0 := by
      rw [valueOf, List.foldl_append]
      rfl
    have hdigit := hexValue?_getD_lt d
    rw [hvalue, List.length_append, List.length_singleton, Nat.pow_succ]
    omega

/-- An escape stands for code points if it is written with such. -/
theorem Escape.value_le {e : Escape} (h : ∀ c ∈ e.text, c ≤ 0x10FFFF) :
    ∀ c ∈ e.value, c ≤ 0x10FFFF := by
  intro c hc
  cases e with
  | braced digits nonempty hex bound => exact List.mem_singleton.1 hc ▸ bound
  | unit digits length hex =>
    have hlt := valueOf_lt digits
    rw [length] at hlt
    rw [List.mem_singleton.1 hc]
    omega
  | byte digits length hex =>
    have hlt := valueOf_lt digits
    rw [length] at hlt
    rw [List.mem_singleton.1 hc]
    omega
  | null => exact List.mem_singleton.1 hc ▸ Nat.zero_le _
  | control k =>
    rw [List.mem_singleton.1 hc]
    cases k <;> decide
  | continuation e => cases hc
  | itself d hd => exact h c hc

theorem Piece.read_le {p : Piece} (h : ∀ c ∈ p.text, c ≤ 0x10FFFF) :
    ∀ c ∈ p.read, c ≤ 0x10FFFF := by
  cases p with
  | item i =>
    cases i with
    | character c hc => exact h
    | escape e => exact Escape.value_le fun c hc => h c (List.mem_cons_of_mem _ hc)
  | octal ds hds other =>
    exact fun c hc => Nat.le_trans (le_of_mem_octal hds.digits c hc) (by decide)
  | decimal d hd => exact fun c hc => h c (List.mem_cons_of_mem _ hc)

theorem readPieces_le {ps : List Piece} (h : ∀ c ∈ ps.flatMap Piece.text, c ≤ 0x10FFFF) :
    ∀ c ∈ readPieces ps, c ≤ 0x10FFFF := by
  intro c hc
  obtain ⟨p, hp, hcp⟩ := List.mem_flatMap.1 hc
  exact Piece.read_le (fun d hd => h d (List.mem_flatMap.2 ⟨p, hp, hd⟩)) c hcp

/-! ## The specifier -/

/-- The literal is written with these pieces. -/
structure IsSpelled (source : ByteArray) (literal : Node) (ps : List Piece) : Prop where
  string : literal.kind = "string"
  between : ∃ quote ∈ lit "\"'", IsBody quote ps ∧
    literal.text source = .ok (quote :: (ps.flatMap Piece.text ++ [quote]))

theorem IsSpelled.literalValue_eq {source : ByteArray} {literal : Node} {ps : List Piece}
    (h : IsSpelled source literal ps) : literalValue source literal = .ok (readPieces ps) := by
  obtain ⟨quote, -, hbody, htext⟩ := h.between
  have hdrop : ((quote :: (ps.flatMap Piece.text ++ [quote])).drop 1).dropLast =
      ps.flatMap Piece.text := by
    rw [List.drop_one, List.tail_cons, List.dropLast_concat]
  rw [literalValue, htext]
  dsimp only [bind, Except.bind]
  rw [if_pos h.string, hdrop, unescape_read hbody]

theorem IsSpelled.read_le {source : ByteArray} {literal : Node} {ps : List Piece}
    (h : IsSpelled source literal ps) : ∀ c ∈ readPieces ps, c ≤ 0x10FFFF := by
  obtain ⟨quote, -, -, htext⟩ := h.between
  have hscalar := Text.isEncodable_of_decode (Syntax.text_eq_ok.1 htext)
  refine readPieces_le fun c hc => ?_
  rcases hscalar c (List.mem_cons_of_mem _ (List.mem_append_left _ hc)) with hc | hc
  · omega
  · exact hc.2

/-- The node calls `require` with a string literal that is written with these pieces. -/
def Specifies (source : ByteArray) (n : Node) (ps : List Piece) : Prop :=
  ∃ arguments literal, Requires source n arguments ∧ HasLiteral arguments literal ∧
    IsSpelled source literal ps

section

variable {source source' : ByteArray} {root root' n n' : Node} {up up' : List Node}
variable {ps ps' : List Piece} {cs cs' : List Call}

/-- What is read for the literal is the specifier. -/
theorem callAt_of_specifies (h : Specifies source n ps) :
    callAt source n = .ok [⟨readPieces ps, n.start, n.stop, false⟩] := by
  obtain ⟨arguments, literal, hrequires, hliteral, hspelled⟩ := h
  exact callAt_of_hasLiteral hrequires hliteral hspelled.literalValue_eq

theorem Specifies.read_le (h : Specifies source n ps) : ∀ c ∈ readPieces ps, c ≤ 0x10FFFF := by
  obtain ⟨arguments, literal, -, -, hspelled⟩ := h
  exact hspelled.read_le

/-- The call is found wherever the node stands. -/
theorem mem_calls_of_callAt {c : Call} (hc : callAt source n = .ok [c])
    (hn : root.Occurs up n) (hcs : calls source root = .ok cs) : c ∈ cs := by
  rw [calls_eq_gather] at hcs
  exact (mem_gather hcs).2 ⟨(up, n), Node.mem_postorder_root.2 hn, [c], hc, List.mem_singleton_self c⟩

/-- The only plain spelling of a value is read as the one text that has this value and in which no
pair is left apart. -/
theorem readPieces_eq_iff (hpoints : ∀ c ∈ readPieces ps, c ≤ 0x10FFFF)
    (hpoints' : ∀ c ∈ readPieces ps', c ≤ 0x10FFFF) (hplain : IsPlain ps)
    (hvalue : valueOfPieces ps' = valueOfPieces ps) :
    readPieces ps' = readPieces ps ↔ IsPlain ps' := by
  have hread := utf16_readPieces_iff.2 hplain.decimal
  constructor
  · intro heq
    refine ⟨utf16_readPieces_iff.1 ?_, ?_⟩
    · rw [heq, hread, hvalue]
    · rw [heq]
      exact hplain.joined
  · intro hplain'
    calc readPieces ps'
      _ = joinPairs (utf16 (readPieces ps')) := (joinPairs_utf16 hpoints' hplain'.joined).symm
      _ = joinPairs (utf16 (readPieces ps)) := by
        rw [utf16_readPieces_iff.2 hplain'.decimal, hvalue, hread]
      _ = readPieces ps := joinPairs_utf16 hpoints hplain.joined

/-- Wherever the node stands, the call is found with the specifier. -/
structure FoundAs (source : ByteArray) (n : Node) (spec : Text) : Prop where
  alone : callAt source n = .ok [⟨spec, n.start, n.stop, false⟩]
  among : ∀ root up cs, root.Occurs up n → calls source root = .ok cs →
    ⟨spec, n.start, n.stop, false⟩ ∈ cs

theorem Specifies.foundAs (h : Specifies source n ps) : FoundAs source n (readPieces ps) :=
  ⟨callAt_of_specifies h, fun _ _ _ hn hcs => mem_calls_of_callAt (callAt_of_specifies h) hn hcs⟩

/-- Two literals have the same value, and the first is plain. The second has the same specifier if
it is plain, too, and then both calls resolve alike; otherwise it has another one. -/
theorem specifiers_of_value (h : Specifies source n ps) (h' : Specifies source' n' ps')
    (hvalue : valueOfPieces ps' = valueOfPieces ps) (hplain : IsPlain ps) :
    ∃ spec spec', FoundAs source n spec ∧ FoundAs source' n' spec' ∧
      utf16 spec = valueOfPieces ps ∧
      (utf16 spec' = valueOfPieces ps' ↔ ∀ p ∈ ps', ¬ p.IsOctal) ∧
      (spec' = spec ↔ IsPlain ps') ∧
      (IsPlain ps' → ∀ catalog, ∃ r,
        Dependency.ofCall catalog ⟨spec, n.start, n.stop, false⟩ =
          .module spec n.start n.stop r ∧
        Dependency.ofCall catalog ⟨spec', n'.start, n'.stop, false⟩ =
          .module spec' n'.start n'.stop r) := by
  have heq := readPieces_eq_iff h.read_le h'.read_le hplain hvalue
  refine ⟨readPieces ps, readPieces ps', h.foundAs, h'.foundAs,
    utf16_readPieces_iff.2 hplain.decimal, utf16_readPieces_iff, heq, ?_⟩
  intro hplain' catalog
  refine ⟨Module.resolve catalog (.ofText (readPieces ps)), rfl, ?_⟩
  rw [heq.2 hplain']
  rfl

end

/-! ## Spellings of one value -/

/-- The tree of a string literal behind `require(`, with these kinds of parts up to these places. -/
def stringNode (quote : String) (parts : List (String × Nat × Nat)) (stop : Nat) : Node where
  kind := "string"
  named := true
  start := 8
  stop := stop
  children := { kind := quote, named := false, start := 8, stop := 9 } ::
    (parts.map fun (kind, start, stop) => { kind := kind, named := true, start := start, stop := stop })
      ++ [{ kind := quote, named := false, start := stop - 1, stop := stop }]

theorem specifies_callNode {source : ByteArray} {a : Node} {ps : List Piece} (h : a.isPart = true)
    (hname : Text.decode (Text.bytesBetween source 0 7) = .ok (lit "require"))
    (hspelled : IsSpelled source a ps) : Specifies source (callNode a) ps :=
  ⟨[a], a, requires_callNode h hname, ⟨a, rfl, .bare, Or.inl hspelled.string⟩, hspelled⟩

/-- The bytes of `require("B😀")`. -/
def rawFace : ByteArray := Text.toBytes (lit "require(\"B😀\")").encode

/-- The literal in it. -/
def rawNode : Node := stringNode "\"" [("string_fragment", 9, 14)] 15

/-- What the literal is written with. -/
def rawPieces : List Piece :=
  [.item (.character 'B'.toNat (by decide)), .item (.character 0x1F600 (by decide))]

/-- The bytes of the same call with escapes. -/
def escapedFace : ByteArray := Text.toBytes (lit "require('\\x42\\u\x7b1F600\x7d')").encode

/-- The literal in it. -/
def escapedNode : Node := stringNode "'" [("escape_sequence", 9, 13), ("escape_sequence", 13, 22)] 23

/-- What the literal is written with. -/
def escapedPieces : List Piece :=
  [.item (.escape (.byte (lit "42") rfl (by decide))),
    .item (.escape (.braced (lit "1F600") (by decide) (by decide) (by decide)))]

/-- The bytes of `require('A')`. -/
def letterA : ByteArray := Text.toBytes (lit "require('A')").encode

/-- The bytes of the same call with the letter as a number to the base of eight. -/
def octalA : ByteArray := Text.toBytes (lit "require('\\101')").encode

/-- Both literals are plain, so that both calls have one specifier. -/
theorem specifier_of_face :
    (Script.ofSource rawFace).root = callTree rawNode ∧
    (Script.ofSource escapedFace).root = callTree escapedNode ∧
    ∃ spec, FoundAs rawFace (callNode rawNode) spec ∧
      FoundAs escapedFace (callNode escapedNode) spec ∧ utf16 spec = [0x42, 0xD83D, 0xDE00] := by
  have hroots : (Script.ofSource rawFace).root = callTree rawNode ∧
      (Script.ofSource escapedFace).root = callTree escapedNode := by
    decide +kernel
  have hraw : IsSpelled rawFace rawNode rawPieces := by
    refine ⟨rfl, '"'.toNat, by decide, ?_, by decide +kernel⟩
    simp [IsBody, rawPieces, Piece.EndsBefore, Piece.text, Item.text, LineEnd.text]
  have hescaped : IsSpelled escapedFace escapedNode escapedPieces := by
    refine ⟨rfl, '\''.toNat, by decide, ?_, by decide +kernel⟩
    simp [IsBody, escapedPieces, Piece.EndsBefore, Piece.text, Item.text, LineEnd.text, Escape.text,
      Escape.EndsBefore, lit]
  have hdecimal : ∀ i, ¬ (Piece.item i).IsOctal := by
    rintro i ⟨ds, hds, other, heq⟩
    cases heq
  have hplain : IsPlain rawPieces := ⟨by simp [rawPieces, hdecimal], by decide⟩
  have hplain' : IsPlain escapedPieces := ⟨by simp [escapedPieces, hdecimal], by decide⟩
  have hspecifies := specifies_callNode (by decide) (by decide +kernel) hraw
  have hspecifies' := specifies_callNode (by decide) (by decide +kernel) hescaped
  obtain ⟨spec, spec', hfound, hfound', hvalue, -, heq, -⟩ :=
    specifiers_of_value hspecifies hspecifies' (by decide) hplain
  obtain rfl := heq.2 hplain'
  exact ⟨hroots.1, hroots.2, spec', hfound, hfound', hvalue⟩

/-- Not all literals with one value have one specifier: a number to the base of eight is not read. -/
theorem not_all_values_keep_specifiers : ¬ ∀ (source source' : ByteArray) (s s' : Script)
    (up up' : List Node) (n n' : Node) (ps ps' : List Piece) (cs cs' : List Call),
    Script.read source = .ok s → Script.read source' = .ok s' →
    s.root.Occurs up n → s'.root.Occurs up' n' →
    Specifies s.source n ps → Specifies s'.source n' ps' →
    valueOfPieces ps' = valueOfPieces ps → s.calls = .ok cs → s'.calls = .ok cs' →
    ∃ c ∈ cs, ∃ c' ∈ cs', c.start = n.start ∧ c'.start = n'.start ∧ c'.spec = c.spec := by
  intro h
  have hletter : let s := Script.ofSource letterA
      s.error? = none ∧ s.root = callTree (stringNode "'" [("string_fragment", 9, 10)] 11) ∧
        s.calls = .ok [⟨lit "A", 0, 12, false⟩] := by
    decide +kernel
  have hoctal : let s := Script.ofSource octalA
      s.error? = none ∧ s.root = callTree (stringNode "'" [("escape_sequence", 9, 13)] 14) ∧
        s.calls = .ok [⟨lit "101", 0, 15, false⟩] := by
    decide +kernel
  obtain ⟨hvalid, hroot, hcalls⟩ := hletter
  obtain ⟨hvalid', hroot', hcalls'⟩ := hoctal
  have hspelled : IsSpelled letterA (stringNode "'" [("string_fragment", 9, 10)] 11)
      [.item (.character 'A'.toNat (by decide))] := by
    refine ⟨rfl, '\''.toNat, by decide, ?_, by decide +kernel⟩
    simp [IsBody, Piece.EndsBefore, Piece.text, Item.text, LineEnd.text]
  have hspelled' : IsSpelled octalA (stringNode "'" [("escape_sequence", 9, 13)] 14)
      [.octal (lit "101") (by decide) (by decide)] := by
    refine ⟨rfl, '\''.toNat, by decide, ?_, by decide +kernel⟩
    simp [IsBody, Piece.EndsBefore, Piece.text, LineEnd.text, lit]
  have hspecifies := specifies_callNode (by decide) (by decide +kernel) hspelled
  have hspecifies' := specifies_callNode (by decide) (by decide +kernel) hspelled'
  have hoccurs : ∀ a, ∃ up, (callTree a).Occurs up (callNode a) := fun a =>
    ⟨_, (Node.Occurs.root.child List.mem_cons_self).child List.mem_cons_self⟩
  obtain ⟨up, hn⟩ := hroot ▸ hoccurs _
  obtain ⟨up', hn'⟩ := hroot' ▸ hoccurs _
  obtain ⟨c, hc, c', hc', -, -, heq⟩ := h _ _ _ _ up up' _ _ _ _ _ _
    (Script.read_eq_ok.2 ⟨rfl, hvalid⟩) (Script.read_eq_ok.2 ⟨rfl, hvalid'⟩) hn hn' hspecifies
    hspecifies' (by decide) hcalls hcalls'
  rw [List.mem_singleton.1 hc, List.mem_singleton.1 hc'] at heq
  exact absurd heq (by decide)

end ScriptDeps.Require
