import ScriptDeps.Proofs.Json.Numbers

namespace ScriptDeps.Json

/-! # Reading values

The reader reads exactly the texts of the grammar. It has no value to give for any other text, and
none is too deep for it. Main statements:

* `onlyWritten`: whatever is read, is in the grammar;
* `Writes.isRead`: whatever is in the grammar, is read;
* `read_eq_ok_iff`: both for a whole text.
-/

/-! ## Words -/

/-- The first code points of a word that tell it from all numbers. -/
def tellsFromNumbers (t : Text) : Bool :=
  match t with
  | c :: d :: _ => !Text.isDigit c && (c != 0x2D || !Text.isDigit d)
  | _ => false

theorem tellsFromNumbers_of_mem_words {w : Text × Json} (h : w ∈ words) :
    tellsFromNumbers w.1 = true := by
  have hall : words.all (fun w => tellsFromNumbers w.1) = true := by decide +kernel
  exact List.all_eq_true.1 hall w h

/-- No word starts with another one. -/
theorem find?_words {t : Text} {j : Json} (h : (t, j) ∈ words) (rest : Text) :
    words.find? (fun w => w.1.isPrefixOf (t ++ rest)) = some (t, j) := by
  simp only [words, List.mem_cons, List.not_mem_nil, or_false, Prod.mk.injEq] at h
  rcases h with ⟨rfl, rfl⟩ | ⟨rfl, rfl⟩ | ⟨rfl, rfl⟩ | ⟨rfl, rfl⟩ | ⟨rfl, rfl⟩ | ⟨rfl, rfl⟩ <;> rfl

/-- A number starts with a digit or a minus sign and a digit. -/
theorem Number.exists_digit {t : Text} {j : Json} (h : Number t j) :
    ∃ negative c u, t = minus negative ++ c :: u ∧ Text.isDigit c = true := by
  cases h with
  | @int negative whole hwhole hlimit =>
    obtain ⟨c, u, rfl⟩ := List.exists_cons_of_ne_nil hwhole.1.1
    exact ⟨negative, c, u, rfl, hwhole.1.2 c List.mem_cons_self⟩
  | @real negative whole f fraction x e hwhole hfraction hexponent hreal =>
    obtain ⟨c, u, rfl⟩ := List.exists_cons_of_ne_nil hwhole.1.1
    refine ⟨negative, c, u ++ (f ++ x), ?_, hwhole.1.2 c List.mem_cons_self⟩
    simp only [List.append_assoc, List.cons_append]

theorem tellsFromNumbers_of_isPrefixOf {w t : Text} (hw : tellsFromNumbers w = true)
    (hbegins : w.isPrefixOf t = true) : tellsFromNumbers t = true := by
  obtain ⟨u, rfl⟩ := List.isPrefixOf_iff_prefix.1 hbegins
  match w, hw with
  | c :: d :: v, hw => exact hw

/-- No number starts with a word. -/
theorem Number.find?_words {t : Text} {j : Json} (h : Number t j) (rest : Text) :
    words.find? (fun w => w.1.isPrefixOf (t ++ rest)) = none := by
  obtain ⟨negative, c, u, rfl, hc⟩ := h.exists_digit
  refine List.find?_eq_none.2 fun w hw hbegins => ?_
  have htells := tellsFromNumbers_of_isPrefixOf (tellsFromNumbers_of_mem_words hw) hbegins
  -- only a minus sign is common to words and numbers, and then the second code point decides
  cases negative with
  | true => simp [minus, tellsFromNumbers, hc] at htells
  | false =>
    cases hbehind : u ++ rest with
    | nil => simp [minus, tellsFromNumbers, hbehind] at htells
    | cons d v => simp [minus, tellsFromNumbers, hbehind, hc] at htells

/-- What is read as a word or a number is one. -/
theorem writes_of_readAtom {r r' : Rest} {j : Json} (h : readAtom r = .ok (j, r')) :
    ∃ t, r.text = t ++ r'.text ∧ Writes t (.value j) := by
  rw [readAtom] at h
  split at h
  · next w v hfind =>
    cases h
    have hbegins := List.find?_some hfind
    obtain ⟨rest, hrest⟩ := List.isPrefixOf_iff_prefix.1 hbegins
    refine ⟨w, ?_, .word (List.mem_of_find?_eq_some hfind)⟩
    rw [skip_text, ← hrest, List.drop_left]
  · obtain ⟨t, ht, hnumber⟩ := number_of_readNumber h
    exact ⟨t, ht, .number hnumber⟩

/-! ## What is read is written -/

/-- What stands behind an item is read. -/
def afterItem (n : Nat) (v : Json) (r : Rest) : Except Failure (List Json × Rest) :=
  match r.text.head? with
  | some 0x5D => return ([v], r.skip 1)
  | some 0x2C => do
    let (rest, r) ← readItems n (r.skip 1).skipBlanks
    return (v :: rest, r)
  | _ => r.fail .noComma

/-- What stands behind the last of the known members is read. -/
def afterMember (n : Nat) (known : List (Text × Json)) (r : Rest) : Except Failure (Json × Rest) :=
  match r.text.head? with
  | some 0x7D => return (object known, r.skip 1)
  | some 0x2C => readMembers n known (r.skip 1).skipBlanks
  | _ => r.fail .noComma

theorem readItems_succ (n : Nat) (r : Rest) :
    readItems (n + 1) r = (do
      let (v, r) ← readValue n r
      afterItem n v r.skipBlanks) := by
  rw [readItems]
  rfl

theorem readMembers_succ (n : Nat) (known : List (Text × Json)) (r : Rest) :
    readMembers (n + 1) known r =
      if r.text.head? ≠ some 0x22 then r.fail .noName
      else (do
        let (name, r) ← readQuoted n r
        if r.skipBlanks.text.head? ≠ some 0x3A then r.skipBlanks.fail .noColon
        else
          let (v, r) ← readValue n (r.skipBlanks.skip 1).skipBlanks
          afterMember n (insert name v known) r.skipBlanks) := by
  rw [readMembers]
  rfl

/-- The members are added to those that are known. -/
def addAll (known ms : List (Text × Json)) : List (Text × Json) :=
  ms.foldl (fun members x => insert x.1 x.2 members) known

/-- With that bound on the depth, whatever is read is in the grammar. -/
structure OnlyWritten (n : Nat) : Prop where
  value : ∀ r j r', readValue n r = .ok (j, r') →
    ∃ t, r.text = t ++ r'.text ∧ Writes t (.value j)
  items : ∀ r js r', readItems n r = .ok (js, r') →
    ∃ t, r.text = t ++ 0x5D :: r'.text ∧ Writes t (.items js)
  members : ∀ known r j r', readMembers n known r = .ok (j, r') →
    ∃ t ms, r.text = t ++ 0x7D :: r'.text ∧ Writes t (.members ms) ∧ j = object (addAll known ms)

theorem head_eq_of_head? {r : Rest} {c : Nat} (h : r.text.head? = some c) :
    r.text = c :: (r.skip 1).text := by
  obtain ⟨rest, hrest⟩ := List.head?_eq_some_iff.1 h
  rw [skip_one hrest, hrest]

theorem spells_of_readQuoted {n : Nat} {r r' : Rest} {s : Text} (hr : r.text.head? = some 0x22)
    (h : readQuoted n r = .ok (s, r')) :
    ∃ t, r.text = 0x22 :: t ++ 0x22 :: r'.text ∧ Spells t s := by
  obtain ⟨t, ht, hspells⟩ := spells_of_readString h
  exact ⟨t, by rw [head_eq_of_head? hr, ht, List.cons_append], hspells⟩

namespace OnlyWritten

variable {n : Nat}

theorem zero : OnlyWritten 0 where
  value := by
    intro r j r' h
    cases h
  items := by
    intro r js r' h
    cases h
  members := by
    intro known r j r' h
    cases h

/-- An array or an object is opened and, behind blanks, read up to its end. -/
theorem readValue_succ (h : OnlyWritten n) {r r' : Rest} {j : Json}
    (hread : readValue (n + 1) r = .ok (j, r')) :
    ∃ t, r.text = t ++ r'.text ∧ Writes t (.value j) := by
  rw [readValue] at hread
  split at hread
  · next hquote =>
    obtain ⟨⟨s, next⟩, hstring, heq⟩ := exists_of_bind_eq_ok hread
    cases heq
    obtain ⟨t, ht, hspells⟩ := spells_of_readQuoted hquote hstring
    exact ⟨_, by rw [ht, List.append_assoc, List.singleton_append], .string hspells⟩
  · next hbrace =>
    obtain ⟨b, hb, hblanks⟩ := exists_blanks (r.skip 1)
    have hr := head_eq_of_head? hbrace
    rw [hblanks] at hr
    dsimp only at hread
    split at hread
    · next hend =>
      cases hread
      refine ⟨_, ?_, .emptyObject hb⟩
      rw [hr, head_eq_of_head? hend, List.append_assoc]
      rfl
    · obtain ⟨t, ms, ht, hmembers, rfl⟩ := h.members _ _ _ _ hread
      refine ⟨_, ?_, .object hb hmembers⟩
      rw [hr, ht]
      simp only [List.append_assoc, List.cons_append, List.nil_append]
  · next hbracket =>
    obtain ⟨b, hb, hblanks⟩ := exists_blanks (r.skip 1)
    have hr := head_eq_of_head? hbracket
    rw [hblanks] at hr
    dsimp only at hread
    split at hread
    · next hend =>
      cases hread
      refine ⟨_, ?_, .emptyArray hb⟩
      rw [hr, head_eq_of_head? hend, List.append_assoc]
      rfl
    · obtain ⟨⟨js, next⟩, hitems, heq⟩ := exists_of_bind_eq_ok hread
      cases heq
      obtain ⟨t, ht, hwrites⟩ := h.items _ _ _ hitems
      refine ⟨_, ?_, .array hb hwrites⟩
      rw [hr, ht]
      simp only [List.append_assoc, List.cons_append, List.nil_append]
  · exact writes_of_readAtom hread

theorem readItems_succ (h : OnlyWritten n) {r r' : Rest} {js : List Json}
    (hread : readItems (n + 1) r = .ok (js, r')) :
    ∃ t, r.text = t ++ 0x5D :: r'.text ∧ Writes t (.items js) := by
  rw [Json.readItems_succ] at hread
  obtain ⟨⟨j, next⟩, hvalue, hafter⟩ := exists_of_bind_eq_ok hread
  obtain ⟨t, ht, hwrites⟩ := h.value _ _ _ hvalue
  obtain ⟨b, hb, hblanks⟩ := exists_blanks next
  dsimp only at hafter
  generalize next.skipBlanks = behind at hafter hblanks
  unfold afterItem at hafter
  split at hafter
  · next hend =>
    cases hafter
    refine ⟨_, ?_, .lastItem hwrites hb⟩
    rw [ht, hblanks, head_eq_of_head? hend, List.append_assoc]
  · next hcomma =>
    obtain ⟨⟨js, last⟩, hitems, heq⟩ := exists_of_bind_eq_ok hafter
    cases heq
    obtain ⟨u, hu, hrest⟩ := h.items _ _ _ hitems
    obtain ⟨b', hb', hblanks'⟩ := exists_blanks (behind.skip 1)
    refine ⟨_, ?_, .item hwrites hb hb' hrest⟩
    rw [ht, hblanks, head_eq_of_head? hcomma, hblanks', hu]
    simp only [List.append_assoc, List.cons_append]
  · cases hafter

theorem readMembers_succ (h : OnlyWritten n) {known : List (Text × Json)} {r r' : Rest} {j : Json}
    (hread : readMembers (n + 1) known r = .ok (j, r')) :
    ∃ t ms, r.text = t ++ 0x7D :: r'.text ∧ Writes t (.members ms) ∧
      j = object (addAll known ms) := by
  rw [Json.readMembers_succ] at hread
  split at hread
  · cases hread
  next hquote =>
  obtain ⟨⟨name, r₁⟩, hname, hread⟩ := exists_of_bind_eq_ok hread
  obtain ⟨k, hk, hspells⟩ := spells_of_readQuoted (not_not.1 hquote) hname
  obtain ⟨b, hb, hblanks⟩ := exists_blanks r₁
  dsimp only at hread
  generalize r₁.skipBlanks = r₂ at hread hblanks
  split at hread
  · cases hread
  next hcolon =>
  obtain ⟨b', hb', hblanks'⟩ := exists_blanks (r₂.skip 1)
  obtain ⟨⟨v, r₃⟩, hvalue, hafter⟩ := exists_of_bind_eq_ok hread
  obtain ⟨t, ht, hwrites⟩ := h.value _ _ _ hvalue
  obtain ⟨b'', hb'', hblanks''⟩ := exists_blanks r₃
  have hmember := Writes.named hspells hb hb' hwrites hb''
  have hr : r.text =
      (0x22 :: k ++ 0x22 :: b ++ 0x3A :: b' ++ t ++ b'') ++ r₃.skipBlanks.text := by
    rw [hk, hblanks, head_eq_of_head? (not_not.1 hcolon), hblanks', ht, hblanks'']
    simp only [List.append_assoc, List.cons_append]
  dsimp only at hafter
  generalize r₃.skipBlanks = r₄ at hafter hr
  unfold afterMember at hafter
  split at hafter
  · next hend =>
    cases hafter
    refine ⟨_, _, ?_, .lastMember hmember, rfl⟩
    rw [hr, head_eq_of_head? hend]
  · next hcomma =>
    obtain ⟨u, ms, hu, hrest, rfl⟩ := h.members _ _ _ _ hafter
    obtain ⟨b₃, hb₃, hblanks₃⟩ := exists_blanks (r₄.skip 1)
    refine ⟨_, _, ?_, .member hmember hb₃ hrest, rfl⟩
    rw [hr, head_eq_of_head? hcomma, hblanks₃, hu]
    simp only [List.append_assoc, List.cons_append]
  · cases hafter

end OnlyWritten

theorem onlyWritten (n : Nat) : OnlyWritten n := by
  -- the three readers call each other with one less, so all of them go through one induction
  induction n with
  | zero => exact .zero
  | succ n ih =>
    exact ⟨fun _ _ _ => ih.readValue_succ, fun _ _ _ => ih.readItems_succ,
      fun _ _ _ _ => ih.readMembers_succ⟩

/-! ## What is written is read -/

/-- A part of a text starts neither with a blank nor with a closing bracket or brace, nor with a
byte order mark. -/
def Opens (t : Text) : Prop := ∃ c u, t = c :: u ∧ isBlank c = false ∧ c ∉ [0x5D, 0x7D, 0xFEFF]

theorem Opens.append {t : Text} (h : Opens t) (u : Text) : Opens (t ++ u) := by
  obtain ⟨c, v, rfl, hc⟩ := h
  exact ⟨c, v ++ u, rfl, hc⟩

theorem Opens.not_blank {t : Text} (h : Opens t) : ∀ c ∈ t.head?, isBlank c = false := by
  obtain ⟨c, u, rfl, hc, -⟩ := h
  intro d hd
  cases hd
  exact hc

theorem Opens.head?_ne {t : Text} (h : Opens t) : ∀ c ∈ [0x5D, 0x7D, 0xFEFF], t.head? ≠ some c := by
  obtain ⟨d, u, rfl, -, hd⟩ := h
  intro c hc heq
  cases heq
  exact hd hc

/-- Words and numbers start with neither a blank nor a mark. -/
def IsAtomStart (c : Nat) : Prop := isBlank c = false ∧ c ∉ [0x22, 0x5B, 0x7B, 0x5D, 0x7D, 0xFEFF]

instance (c : Nat) : Decidable (IsAtomStart c) := by
  unfold IsAtomStart
  infer_instance

theorem IsAtomStart.opens {c : Nat} (h : IsAtomStart c) (u : Text) : Opens (c :: u) :=
  ⟨c, u, rfl, h.1, fun hc => h.2 (List.mem_append_right [0x22, 0x5B, 0x7B] hc)⟩

theorem isAtomStart_of_isDigit {c : Nat} (h : Text.isDigit c = true) : IsAtomStart c := by
  simp only [Text.isDigit, Bool.and_eq_true, decide_eq_true_eq] at h
  simp only [IsAtomStart, isBlank, Bool.or_eq_false_iff, beq_eq_false_iff_ne, List.mem_cons,
    List.not_mem_nil, or_false]
  omega

theorem exists_isAtomStart_of_mem_words {t : Text} {j : Json} (h : (t, j) ∈ words) :
    ∃ c u, t = c :: u ∧ IsAtomStart c := by
  have hall : words.all (fun w => w.1.head?.any fun c => decide (IsAtomStart c)) = true := by
    decide +kernel
  have hword : t.head?.any (fun c => decide (IsAtomStart c)) = true := List.all_eq_true.1 hall _ h
  cases t with
  | nil => cases hword
  | cons c u => exact ⟨c, u, rfl, of_decide_eq_true hword⟩

theorem Number.exists_isAtomStart {t : Text} {j : Json} (h : Number t j) :
    ∃ c u, t = c :: u ∧ IsAtomStart c := by
  obtain ⟨negative, c, u, rfl, hc⟩ := h.exists_digit
  cases negative with
  | true => exact ⟨0x2D, c :: u, rfl, by decide⟩
  | false => exact ⟨c, u, rfl, isAtomStart_of_isDigit hc⟩

theorem Writes.opens {t : Text} {p : Part} (h : Writes t p) : Opens t := by
  induction h with
  | word h =>
    obtain ⟨c, u, rfl, hc⟩ := exists_isAtomStart_of_mem_words h
    exact hc.opens u
  | number h =>
    obtain ⟨c, u, rfl, hc⟩ := h.exists_isAtomStart
    exact hc.opens u
  | string h => exact ⟨_, _, rfl, by decide⟩
  | emptyArray hb => exact ⟨_, _, rfl, by decide⟩
  | array hb h ih => exact ⟨_, _, rfl, by decide⟩
  | emptyObject hb => exact ⟨_, _, rfl, by decide⟩
  | object hb h ih => exact ⟨_, _, rfl, by decide⟩
  | lastItem h hb ih => exact ih.append _
  | item h hb hb' hrest ih ihrest => exact ((ih.append _).append _).append _
  | named hname hb hb' h hb'' ih => exact ⟨_, _, rfl, by decide⟩
  | lastMember h ih => exact ih
  | member h hb hrest ih ihrest => exact (ih.append _).append _

theorem Writes.length_pos {t : Text} {p : Part} (h : Writes t p) : 0 < t.length := by
  obtain ⟨c, u, rfl, -⟩ := h.opens
  exact Nat.succ_pos _

theorem readValue_of_isAtomStart {n : Nat} {r : Rest} {c : Nat} {u : Text}
    (hr : r.text = c :: u) (hc : IsAtomStart c) : readValue (n + 1) r = readAtom r := by
  have hnot : ∀ d ∈ [0x22, 0x5B, 0x7B, 0x5D, 0x7D, 0xFEFF], r.text.head? ≠ some d := by
    intro d hd heq
    rw [hr] at heq
    cases heq
    exact hc.2 hd
  rw [readValue]
  split
  · next heq => exact absurd heq (hnot 0x22 (by decide))
  · next heq => exact absurd heq (hnot 0x7B (by decide))
  · next heq => exact absurd heq (hnot 0x5B (by decide))
  · rfl

theorem Ends.append {b rest : Text} (hb : Blanks b) (hrest : Ends rest) : Ends (b ++ rest) := by
  cases b with
  | nil => exact hrest
  | cons c b =>
    intro d hd
    cases hd
    have hblank := hb c List.mem_cons_self
    simp only [isBlank, Bool.or_eq_true, beq_iff_eq] at hblank
    simp only [List.mem_cons]
    omega

/-- A reader with enough fuel reads the part up to its end, and goes on with what is behind it. -/
def Part.IsRead (t : Text) : Part → Prop
  | value j => ∀ n r rest, 2 * t.length ≤ n + 1 → r.text = t ++ rest → Ends rest →
      ∃ r', readValue n r = .ok (j, r') ∧ r'.text = rest
  | items js => ∀ n r rest, 2 * t.length ≤ n → r.text = t ++ 0x5D :: rest →
      ∃ r', readItems n r = .ok (js, r') ∧ r'.text = rest
  | member m => ∀ n known r rest, 2 * t.length ≤ n + 1 → r.text = t ++ rest →
      (rest.head? = some 0x2C ∨ rest.head? = some 0x7D) →
      ∃ r', readMembers (n + 1) known r = afterMember n (insert m.1 m.2 known) r' ∧ r'.text = rest
  | members ms => ∀ n known r rest, 2 * t.length ≤ n → r.text = t ++ 0x7D :: rest →
      ∃ r', readMembers n known r = .ok (object (addAll known ms), r') ∧ r'.text = rest

theorem Spells.readQuoted {k s rest : Text} (h : Spells k s) {n : Nat} {r : Rest}
    (hn : k.length < n) (hr : r.text = 0x22 :: k ++ 0x22 :: rest) :
    ∃ r', readQuoted n r = .ok (s, r') ∧ r'.text = rest :=
  h.read hn (skip_one hr)

theorem readAtom_of_word {t rest : Text} {j : Json} (h : (t, j) ∈ words) {r : Rest}
    (hr : r.text = t ++ rest) : ∃ r', readAtom r = .ok (j, r') ∧ r'.text = rest := by
  refine ⟨r.skip t.length, ?_, ?_⟩
  · rw [readAtom, hr, find?_words h]
  · rw [skip_text, hr, List.drop_left]

theorem readAtom_of_number {t rest : Text} {j : Json} (h : Number t j) {r : Rest}
    (hr : r.text = t ++ rest) (hrest : Ends rest) :
    ∃ r', readAtom r = .ok (j, r') ∧ r'.text = rest := by
  obtain ⟨r', hread, hr'⟩ := h.read hr hrest
  refine ⟨r', ?_, hr'⟩
  rw [readAtom, hr, h.find?_words]
  exact hread

/-- The items and the end of an array behind its bracket and blanks. -/
theorem readValue_array {n : Nat} {r : Rest} {b t rest : Text} {js : List Json} (hb : Blanks b)
    (ht : Opens t) (hr : r.text = 0x5B :: b ++ t ++ [0x5D] ++ rest)
    (hn : 2 * (0x5B :: b ++ t ++ [0x5D]).length ≤ n + 1) (ih : Part.IsRead t (.items js)) :
    ∃ r', readValue n r = .ok (array js, r') ∧ r'.text = rest := by
  simp only [List.length_append, List.length_cons, List.length_nil] at hn
  obtain ⟨n, rfl⟩ : ∃ m, n = m + 1 := ⟨n - 1, by omega⟩
  have hstart : r.text = 0x5B :: (b ++ (t ++ 0x5D :: rest)) := by
    rw [hr]
    simp
  have hitems : (r.skip 1).skipBlanks.text = t ++ 0x5D :: rest :=
    skipBlanks_behind hstart hb (ht.append _).not_blank
  obtain ⟨r', hread, hr'⟩ := ih n _ rest (by omega) hitems
  have hopen : (r.skip 1).skipBlanks.text.head? ≠ some 0x5D :=
    hitems ▸ (ht.append _).head?_ne 0x5D (by decide)
  refine ⟨r', ?_, hr'⟩
  rw [readValue, hr]
  dsimp only [List.cons_append, List.head?_cons]
  rw [if_neg hopen, hread]
  rfl

/-- The members and the end of an object behind its brace and blanks. -/
theorem readValue_object {n : Nat} {r : Rest} {b t rest : Text} {ms : List (Text × Json)}
    (hb : Blanks b) (ht : Opens t) (hr : r.text = 0x7B :: b ++ t ++ [0x7D] ++ rest)
    (hn : 2 * (0x7B :: b ++ t ++ [0x7D]).length ≤ n + 1) (ih : Part.IsRead t (.members ms)) :
    ∃ r', readValue n r = .ok (object (collect ms), r') ∧ r'.text = rest := by
  simp only [List.length_append, List.length_cons, List.length_nil] at hn
  obtain ⟨n, rfl⟩ : ∃ m, n = m + 1 := ⟨n - 1, by omega⟩
  have hstart : r.text = 0x7B :: (b ++ (t ++ 0x7D :: rest)) := by
    rw [hr]
    simp
  have hmembers : (r.skip 1).skipBlanks.text = t ++ 0x7D :: rest :=
    skipBlanks_behind hstart hb (ht.append _).not_blank
  obtain ⟨r', hread, hr'⟩ := ih n [] _ rest (by omega) hmembers
  have hopen : (r.skip 1).skipBlanks.text.head? ≠ some 0x7D :=
    hmembers ▸ (ht.append _).head?_ne 0x7D (by decide)
  refine ⟨r', ?_, hr'⟩
  rw [readValue, hr]
  dsimp only [List.cons_append, List.head?_cons]
  rw [if_neg hopen, hread]
  rfl

theorem not_blank_of_mark {c : Nat} (hc : isBlank c = false) (rest : Text) :
    ∀ d ∈ (c :: rest).head?, isBlank d = false := by
  intro d hd
  cases hd
  exact hc

theorem skipBlanks_mark {r : Rest} {b rest : Text} {c : Nat} (hr : r.text = b ++ c :: rest)
    (hb : Blanks b) (hc : isBlank c = false) : r.skipBlanks.text = c :: rest :=
  skipBlanks_eq hr hb (not_blank_of_mark hc rest)

/-- Where nothing but blanks stands between two brackets, the second one is met at once. -/
theorem skip_to_closing {r : Rest} {b rest : Text} {opening closing : Nat} (hb : Blanks b)
    (hclosing : isBlank closing = false) (hr : r.text = opening :: b ++ [closing] ++ rest) :
    (r.skip 1).skipBlanks.text.head? = some closing ∧
      ((r.skip 1).skipBlanks.skip 1).text = rest := by
  have hstart : r.text = opening :: (b ++ closing :: rest) := by
    rw [hr]
    simp
  have hend : (r.skip 1).skipBlanks.text = closing :: rest :=
    skipBlanks_behind hstart hb (not_blank_of_mark hclosing rest)
  exact ⟨congrArg List.head? hend, skip_one hend⟩

theorem readValue_emptyArray {n : Nat} {r : Rest} {b rest : Text} (hb : Blanks b)
    (hr : r.text = 0x5B :: b ++ [0x5D] ++ rest) :
    ∃ r', readValue (n + 1) r = .ok (array [], r') ∧ r'.text = rest := by
  obtain ⟨hclosing, hbehind⟩ := skip_to_closing hb rfl hr
  refine ⟨(r.skip 1).skipBlanks.skip 1, ?_, hbehind⟩
  rw [readValue, hr]
  exact if_pos hclosing

theorem readValue_emptyObject {n : Nat} {r : Rest} {b rest : Text} (hb : Blanks b)
    (hr : r.text = 0x7B :: b ++ [0x7D] ++ rest) :
    ∃ r', readValue (n + 1) r = .ok (object [], r') ∧ r'.text = rest := by
  obtain ⟨hclosing, hbehind⟩ := skip_to_closing hb rfl hr
  refine ⟨(r.skip 1).skipBlanks.skip 1, ?_, hbehind⟩
  rw [readValue, hr]
  exact if_pos hclosing

theorem readValue_string {n : Nat} {r : Rest} {k s rest : Text} (h : Spells k s)
    (hn : k.length < n) (hr : r.text = 0x22 :: k ++ [0x22] ++ rest) :
    ∃ r', readValue (n + 1) r = .ok (string s, r') ∧ r'.text = rest := by
  rw [List.append_assoc, List.singleton_append] at hr
  obtain ⟨r', hread, hr'⟩ := h.readQuoted hn hr
  refine ⟨r', ?_, hr'⟩
  rw [readValue, hr]
  dsimp only [List.cons_append, List.head?_cons]
  rw [hread]
  rfl

/-- The last item is followed by blanks and the end of the array. -/
theorem readItems_last {n : Nat} {r : Rest} {t b rest : Text} {j : Json} (hb : Blanks b)
    (hr : r.text = t ++ b ++ 0x5D :: rest) (hn : 2 * t.length ≤ n + 1)
    (ih : Part.IsRead t (.value j)) :
    ∃ r', readItems (n + 1) r = .ok ([j], r') ∧ r'.text = rest := by
  rw [List.append_assoc] at hr
  have hends : Ends (b ++ 0x5D :: rest) := by
    refine .append hb fun c hc => ?_
    cases hc
    decide
  obtain ⟨next, hread, hnext⟩ := ih n r _ hn hr hends
  have hend : next.skipBlanks.text = 0x5D :: rest := skipBlanks_mark hnext hb rfl
  refine ⟨next.skipBlanks.skip 1, ?_, skip_one hend⟩
  rw [readItems_succ, hread]
  dsimp only [bind, Except.bind]
  rw [afterItem, hend]
  rfl

/-- Any other item is followed by blanks, a comma and more items. -/
theorem readItems_more {n : Nat} {r : Rest} {t b b' u rest : Text} {j : Json} {js : List Json}
    (hb : Blanks b) (hb' : Blanks b') (hu : Opens u)
    (hr : r.text = t ++ b ++ 0x2C :: b' ++ u ++ 0x5D :: rest)
    (hn : 2 * t.length ≤ n + 1) (hn' : 2 * u.length ≤ n)
    (ih : Part.IsRead t (.value j)) (ihrest : Part.IsRead u (.items js)) :
    ∃ r', readItems (n + 1) r = .ok (j :: js, r') ∧ r'.text = rest := by
  simp only [List.append_assoc, List.cons_append] at hr
  have hends : Ends (b ++ 0x2C :: (b' ++ (u ++ 0x5D :: rest))) := by
    refine .append hb fun c hc => ?_
    cases hc
    decide
  obtain ⟨next, hread, hnext⟩ := ih n r _ hn hr hends
  have hcomma := skipBlanks_mark hnext hb rfl
  have hmore : (next.skipBlanks.skip 1).skipBlanks.text = u ++ 0x5D :: rest :=
    skipBlanks_behind hcomma hb' (hu.append _).not_blank
  obtain ⟨r', hitems, hr'⟩ := ihrest n _ rest hn' hmore
  refine ⟨r', ?_, hr'⟩
  rw [readItems_succ, hread]
  dsimp only [bind, Except.bind]
  rw [afterItem, hcomma]
  dsimp only [List.head?_cons, bind, Except.bind]
  rw [hitems]
  rfl

/-- A name, a colon and a value, with blanks between and behind them. -/
theorem readMembers_named {n : Nat} {known : List (Text × Json)} {r : Rest}
    {k name b b' t b'' rest : Text} {j : Json} (hname : Spells k name) (hb : Blanks b)
    (hb' : Blanks b') (ht : Opens t) (hb'' : Blanks b'')
    (hr : r.text = 0x22 :: k ++ 0x22 :: b ++ 0x3A :: b' ++ t ++ b'' ++ rest)
    (hrest : rest.head? = some 0x2C ∨ rest.head? = some 0x7D)
    (hn : k.length < n) (hn' : 2 * t.length ≤ n + 1) (ih : Part.IsRead t (.value j)) :
    ∃ r', readMembers (n + 1) known r = afterMember n (insert name j known) r' ∧
      r'.text = rest := by
  simp only [List.append_assoc, List.cons_append] at hr
  obtain ⟨r₁, hquoted, hr₁⟩ := hname.readQuoted hn hr
  have hcolon := skipBlanks_mark hr₁ hb rfl
  have hquote : r.text.head? = some 0x22 := congrArg List.head? hr
  have hmarked : r₁.skipBlanks.text.head? = some 0x3A := congrArg List.head? hcolon
  have hstart := skipBlanks_behind hcolon hb' (ht.append _).not_blank
  have hmark : ∀ c ∈ rest.head?, c = 0x2C ∨ c = 0x7D := by
    intro c hc
    rcases hrest with h | h
    · exact .inl (Option.some.inj (hc.symm.trans h))
    · exact .inr (Option.some.inj (hc.symm.trans h))
  have hends : Ends (b'' ++ rest) := by
    refine .append hb'' fun c hc => ?_
    rcases hmark c hc with rfl | rfl <;> decide
  obtain ⟨r₂, hvalue, hr₂⟩ := ih n _ _ hn' hstart hends
  have hlast : r₂.skipBlanks.text = rest := by
    refine skipBlanks_eq hr₂ hb'' fun c hc => ?_
    rcases hmark c hc with rfl | rfl <;> rfl
  refine ⟨r₂.skipBlanks, ?_, hlast⟩
  rw [readMembers_succ, if_neg (not_not.2 hquote), hquoted]
  dsimp only [bind, Except.bind]
  rw [if_neg (not_not.2 hmarked), hvalue]

/-- The last member is followed by the end of the object. -/
theorem readMembers_last {n : Nat} {known : List (Text × Json)} {r : Rest} {t rest : Text}
    {m : Text × Json} (hr : r.text = t ++ 0x7D :: rest) (hn : 2 * t.length ≤ n + 1)
    (ih : Part.IsRead t (.member m)) :
    ∃ r', readMembers (n + 1) known r = .ok (object (addAll known [m]), r') ∧ r'.text = rest := by
  obtain ⟨next, hread, hnext⟩ := ih n known r _ hn hr (.inr rfl)
  refine ⟨next.skip 1, ?_, skip_one hnext⟩
  rw [hread, afterMember, hnext]
  rfl

/-- Any other member is followed by a comma and more members. -/
theorem readMembers_more {n : Nat} {known : List (Text × Json)} {r : Rest} {t b u rest : Text}
    {m : Text × Json} {ms : List (Text × Json)} (hb : Blanks b) (hu : Opens u)
    (hr : r.text = t ++ 0x2C :: b ++ u ++ 0x7D :: rest)
    (hn : 2 * t.length ≤ n + 1) (hn' : 2 * u.length ≤ n)
    (ih : Part.IsRead t (.member m)) (ihrest : Part.IsRead u (.members ms)) :
    ∃ r', readMembers (n + 1) known r = .ok (object (addAll known (m :: ms)), r') ∧
      r'.text = rest := by
  simp only [List.append_assoc, List.cons_append] at hr
  obtain ⟨next, hread, hnext⟩ := ih n known r _ hn hr (.inl rfl)
  have hmore : (next.skip 1).skipBlanks.text = u ++ 0x7D :: rest :=
    skipBlanks_behind hnext hb (hu.append _).not_blank
  obtain ⟨r', hmembers, hr'⟩ := ihrest n (insert m.1 m.2 known) _ rest hn' hmore
  refine ⟨r', ?_, hr'⟩
  rw [hread, afterMember, hnext]
  exact hmembers

/-- Whatever is in the grammar, is read. -/
theorem Writes.isRead {t : Text} {p : Part} (h : Writes t p) : p.IsRead t := by
  -- a part takes at least one code point and two steps, so twice its length is enough fuel
  induction h with
  | @word t j h =>
    intro n r rest hn hr hrest
    obtain ⟨c, u, rfl, hc⟩ := exists_isAtomStart_of_mem_words h
    obtain ⟨n, rfl⟩ : ∃ m, n = m + 1 := ⟨n - 1, by simp only [List.length_cons] at hn; omega⟩
    rw [readValue_of_isAtomStart hr hc]
    exact readAtom_of_word h hr
  | @number t j h =>
    intro n r rest hn hr hrest
    obtain ⟨c, u, rfl, hc⟩ := h.exists_isAtomStart
    obtain ⟨n, rfl⟩ : ∃ m, n = m + 1 := ⟨n - 1, by simp only [List.length_cons] at hn; omega⟩
    rw [readValue_of_isAtomStart hr hc]
    exact readAtom_of_number h hr hrest
  | @string k s h =>
    intro n r rest hn hr hrest
    simp only [List.length_append, List.length_cons, List.length_nil] at hn
    obtain ⟨n, rfl⟩ : ∃ m, n = m + 1 := ⟨n - 1, by omega⟩
    exact readValue_string h (by omega) hr
  | @emptyArray b hb =>
    intro n r rest hn hr hrest
    simp only [List.length_append, List.length_cons, List.length_nil] at hn
    obtain ⟨n, rfl⟩ : ∃ m, n = m + 1 := ⟨n - 1, by omega⟩
    exact readValue_emptyArray hb hr
  | array hb h ih =>
    intro n r rest hn hr hrest
    exact readValue_array hb h.opens hr hn ih
  | @emptyObject b hb =>
    intro n r rest hn hr hrest
    simp only [List.length_append, List.length_cons, List.length_nil] at hn
    obtain ⟨n, rfl⟩ : ∃ m, n = m + 1 := ⟨n - 1, by omega⟩
    exact readValue_emptyObject hb hr
  | object hb h ih =>
    intro n r rest hn hr hrest
    exact readValue_object hb h.opens hr hn ih
  | @lastItem t b j h hb ih =>
    intro n r rest hn hr
    have ht := h.length_pos
    rw [List.length_append] at hn
    obtain ⟨n, rfl⟩ : ∃ m, n = m + 1 := ⟨n - 1, by omega⟩
    exact readItems_last hb hr (by omega) ih
  | @item t b b' u j js h hb hb' hrest ih ihrest =>
    intro n r rest hn hr
    simp only [List.length_append, List.length_cons] at hn
    obtain ⟨n, rfl⟩ : ∃ m, n = m + 1 := ⟨n - 1, by omega⟩
    have ht := h.length_pos
    exact readItems_more hb hb' hrest.opens hr (by omega) (by omega) ih ihrest
  | @named k name b b' t b'' j hname hb hb' h hb'' ih =>
    intro n known r rest hn hr hrest
    simp only [List.length_append, List.length_cons] at hn
    exact readMembers_named hname hb hb' h.opens hb'' hr hrest (by omega) (by omega) ih
  | @lastMember t m h ih =>
    intro n known r rest hn hr
    have ht := h.length_pos
    obtain ⟨n, rfl⟩ : ∃ m, n = m + 1 := ⟨n - 1, by omega⟩
    exact readMembers_last hr (by omega) ih
  | @member t b u m ms h hb hrest ih ihrest =>
    intro n known r rest hn hr
    have ht := h.length_pos
    simp only [List.length_append, List.length_cons] at hn
    obtain ⟨n, rfl⟩ : ∃ m, n = m + 1 := ⟨n - 1, by omega⟩
    exact readMembers_more hb hrest.opens hr (by omega) (by omega) ih ihrest

/-! ## Texts -/

/-- The reader reads exactly the texts of the grammar. -/
theorem readText_eq_ok_iff {t : Text} {j : Json} : readText t = .ok j ↔ Written t j := by
  constructor
  · intro h
    obtain ⟨⟨v, r⟩, hread, hend⟩ := exists_of_bind_eq_ok h
    obtain ⟨u, hu, hwrites⟩ := (onlyWritten _).value _ _ _ hread
    obtain ⟨b, hb, hblanks⟩ := exists_blanks (Rest.mk t 0)
    obtain ⟨b', hb', hblanks'⟩ := exists_blanks r
    dsimp only at hend hblanks
    split at hend
    · next hnil =>
      cases hend
      refine ⟨b, u, b', ?_, hb, hwrites, hb'⟩
      rw [hblanks, hu, hblanks', List.isEmpty_iff.1 hnil, List.append_nil, List.append_assoc]
    · cases hend
  · rintro ⟨b, u, b', rfl, hb, hwrites, hb'⟩
    have hstart : (Rest.mk (b ++ u ++ b') 0).skipBlanks.text = u ++ b' :=
      skipBlanks_eq (List.append_assoc b u b') hb (hwrites.opens.append _).not_blank
    have hends : Ends b' := by
      rw [← List.append_nil b']
      exact .append hb' fun c hc => absurd hc (by simp)
    -- the fuel of a whole text is enough for the value between its blanks
    have hfuel : 2 * u.length ≤ 2 * (b ++ u ++ b').length + 2 + 1 := by
      simp only [List.length_append]
      omega
    obtain ⟨r, hread, hr⟩ := hwrites.isRead _ _ _ hfuel hstart hends
    have hlast : r.skipBlanks.text = [] := by
      refine skipBlanks_eq (hr.trans (List.append_nil b').symm) hb' fun c hc => ?_
      cases hc
    rw [readText, hread]
    dsimp only [bind, Except.bind]
    rw [hlast]
    rfl

/-- No text of the grammar starts with a byte order mark. -/
theorem Written.head?_ne {t : Text} {j : Json} (h : Written t j) : t.head? ≠ some 0xFEFF := by
  obtain ⟨b, u, b', rfl, hb, hwrites, -⟩ := h
  cases b with
  | nil => exact (hwrites.opens.append b').head?_ne 0xFEFF (by decide)
  | cons c b =>
    intro hmark
    cases hmark
    exact absurd (hb 0xFEFF List.mem_cons_self) (by decide)

theorem read_eq_ok_iff {t : Text} {j : Json} : read t = .ok j ↔ Written t j := by
  rw [read, ← readText_eq_ok_iff]
  split
  · next hmark =>
    refine iff_of_false (fun h => by cases h) fun h => ?_
    exact (readText_eq_ok_iff.1 h).head?_ne hmark
  · rfl

end ScriptDeps.Json
