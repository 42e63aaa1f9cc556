import ScriptDeps.Proofs.Require.Escape

namespace ScriptDeps.Require

open Syntax (TextError)
open Text (hexValue? valueOf lit)

/-! # Bodies item by item

The body of a string literal is a row of characters and escapes. Its value is what they stand for,
one after the other: no item is read together with the next one, however they are mixed. Only a
carriage return behind a backslash must not have a line feed behind it, since the two would be one
line end. Main statements:

* `escapeAt_text`: an escape is recognised whatever stands behind it;
* `unescape_append`: one item more in front of a body;
* `unescape_items`: the value of a row of items.
-/

/-! ## Items -/

/-- The code point of a backslash. -/
def backslash : Nat := 0x5C

/-- All code points are hexadecimal digits. -/
def AreHex (ds : Text) : Prop := ∀ d ∈ ds, (hexValue? d).isSome = true

instance (ds : Text) : Decidable (AreHex ds) := by
  unfold AreHex
  infer_instance

/-- The control characters that a letter stands for. -/
inductive Control where
  | lineFeed
  | tab
  | carriageReturn
  | backspace
  | formFeed
  | verticalTab
deriving DecidableEq, Repr

/-- The letter behind the backslash. -/
def Control.letter : Control → Nat
  | lineFeed => 'n'.toNat
  | tab => 't'.toNat
  | carriageReturn => 'r'.toNat
  | backspace => 'b'.toNat
  | formFeed => 'f'.toNat
  | verticalTab => 'v'.toNat

/-- The control character. -/
def Control.value : Control → Nat
  | lineFeed => 0x0A
  | tab => 0x09
  | carriageReturn => 0x0D
  | backspace => 0x08
  | formFeed => 0x0C
  | verticalTab => 0x0B

/-- What ends a line. -/
inductive LineEnd where
  | lineFeed
  | carriageReturn
  /-- A carriage return with a line feed behind it. -/
  | both
  | lineSeparator
  | paragraphSeparator
deriving DecidableEq, Repr

/-- The code points of a line end. -/
def LineEnd.text : LineEnd → Text
  | lineFeed => [0x0A]
  | carriageReturn => [0x0D]
  | both => [0x0D, 0x0A]
  | lineSeparator => [0x2028]
  | paragraphSeparator => [0x2029]

/-- Behind a backslash, the code point stands for itself: it starts no other escape. -/
def StandsForItself (c : Nat) : Prop :=
  c ∉ lit "xu0123456789ntrbfv" ++ [0x0A, 0x0D, 0x2028, 0x2029]

instance (c : Nat) : Decidable (StandsForItself c) := by
  unfold StandsForItself
  infer_instance

/-- What can stand behind a backslash. -/
inductive Escape where
  /-- `u` and the digits of a code point between braces. -/
  | braced (digits : Text) (nonempty : digits ≠ []) (hex : AreHex digits)
      (bound : valueOf 16 digits ≤ 0x10FFFF)
  /-- `u` and four digits. -/
  | unit (digits : Text) (length : digits.length = 4) (hex : AreHex digits)
  /-- `x` and two digits. -/
  | byte (digits : Text) (length : digits.length = 2) (hex : AreHex digits)
  /-- The digit `0`. -/
  | null
  | control (k : Control)
  /-- The line goes on behind the line end. -/
  | continuation (e : LineEnd)
  | itself (c : Nat) (h : StandsForItself c)

/-- How an escape is written behind the backslash. -/
def Escape.text : Escape → Text
  | braced digits _ _ _ => lit "u\x7b" ++ digits ++ lit "\x7d"
  | unit digits _ _ => lit "u" ++ digits
  | byte digits _ _ => lit "x" ++ digits
  | null => lit "0"
  | control k => [k.letter]
  | continuation e => e.text
  | itself c _ => [c]

/-- What an escape stands for. -/
def Escape.value : Escape → Text
  | braced digits _ _ _ => [valueOf 16 digits]
  | unit digits _ _ => [valueOf 16 digits]
  | byte digits _ _ => [valueOf 16 digits]
  | null => [0]
  | control k => [k.value]
  | continuation _ => []
  | itself c _ => [c]

/-- A character or an escape. -/
inductive Item where
  | character (c : Nat) (h : c ≠ backslash)
  | escape (e : Escape)

/-- How an item is written. -/
def Item.text : Item → Text
  | character c _ => [c]
  | escape e => backslash :: e.text

/-- What an item stands for. -/
def Item.value : Item → Text
  | character c _ => [c]
  | escape e => e.value

/-- No line end is made of two items: behind a carriage return that ends a line stands no line
feed. -/
def KeepsLineEnds (items : List Item) : Prop :=
  items.IsChain fun i j => i = .escape (.continuation .carriageReturn) → j.text ≠ LineEnd.lineFeed.text

/-! ## One escape -/

theorem hexDigits?_append {ds : Text} (hex : AreHex ds) (rest : Text) :
    hexDigits? ds.length (ds ++ rest) = some ds := by
  have htake : (ds ++ rest).take ds.length = ds := List.take_left
  rw [hexDigits?, htake]
  exact if_pos ⟨rfl, List.all_eq_true.2 hex⟩

/-- Digits are no brace. -/
theorem bracedDigits?_digits {ds : Text} (hex : AreHex ds) (nonempty : ds ≠ []) (rest : Text) :
    bracedDigits? (ds ++ rest) = none := by
  cases ds with
  | nil => exact absurd rfl nonempty
  | cons d ds =>
    refine Option.eq_none_iff_forall_not_mem.2 fun found hfound => ?_
    obtain ⟨tail, hbraced, -⟩ := bracedDigits?_eq_some.1 hfound
    have hd := hex d List.mem_cons_self
    obtain ⟨rfl, -⟩ := List.cons.inj hbraced
    cases hd

/-- What may not be read together with an escape does not stand behind it. -/
def Escape.EndsBefore (e : Escape) (rest : Text) : Prop :=
  e = .continuation .carriageReturn → rest.head? ≠ some 0x0A

theorem escapeAt_braced {digits : Text} (nonempty : digits ≠ []) (hex : AreHex digits)
    (bound : valueOf 16 digits ≤ 0x10FFFF) (rest : Text) :
    escapeAt (lit "u\x7b" ++ digits ++ lit "\x7d" ++ rest) =
      some (.ok [valueOf 16 digits], digits.length + 3) := by
  have hbraced : bracedDigits? (0x7B :: (digits ++ 0x7D :: rest)) = some digits :=
    bracedDigits?_eq_some.2 ⟨rest, rfl, nonempty, hex⟩
  have hbody : lit "u\x7b" ++ digits ++ lit "\x7d" ++ rest =
      0x75 :: 0x7B :: (digits ++ 0x7D :: rest) := by
    simp [lit]
  rw [hbody]
  simp only [escapeAt, if_true, hbraced, codePoint, if_pos bound]

theorem escapeAt_unit {digits : Text} (length : digits.length = 4) (hex : AreHex digits)
    (rest : Text) :
    escapeAt (lit "u" ++ digits ++ rest) = some (.ok [valueOf 16 digits], 5) := by
  have hnonempty : digits ≠ [] := List.ne_nil_of_length_eq_add_one length
  have hdigits : hexDigits? 4 (digits ++ rest) = some digits := length ▸ hexDigits?_append hex rest
  have hbody : lit "u" ++ digits ++ rest = 0x75 :: (digits ++ rest) := rfl
  rw [hbody]
  simp only [escapeAt, if_true, bracedDigits?_digits hex hnonempty rest, hdigits]

theorem escapeAt_byte {digits : Text} (length : digits.length = 2) (hex : AreHex digits)
    (rest : Text) :
    escapeAt (lit "x" ++ digits ++ rest) = some (.ok [valueOf 16 digits], 3) := by
  have hdigits : hexDigits? 2 (digits ++ rest) = some digits := length ▸ hexDigits?_append hex rest
  have hbody : lit "x" ++ digits ++ rest = 0x78 :: (digits ++ rest) := rfl
  rw [hbody]
  simp only [escapeAt, Nat.reduceEqDiff, if_false, if_true, hdigits]

theorem escapeAt_continuation {e : LineEnd} {rest : Text}
    (h : e = .carriageReturn → rest.head? ≠ some 0x0A) :
    escapeAt (e.text ++ rest) = some (.ok [], e.text.length) := by
  cases e with
  | carriageReturn =>
    have hrest : rest.head? ≠ some 0x0A := h rfl
    simp [escapeAt, LineEnd.text, hrest]
  | lineFeed => rfl
  | both => rfl
  | lineSeparator => rfl
  | paragraphSeparator => rfl

theorem escapeAt_itself {c : Nat} (h : StandsForItself c) (rest : Text) :
    escapeAt (c :: rest) = some (.ok [c], 1) := by
  have hother : ∀ d ∈ lit "xu0123456789ntrbfv" ++ [0x0A, 0x0D, 0x2028, 0x2029], c ≠ d := by
    rintro d hd rfl
    exact h hd
  have hplain : plainEscape c = c := by
    have hn := hother 'n'.toNat (by decide)
    have ht := hother 't'.toNat (by decide)
    have hr := hother 'r'.toNat (by decide)
    have hb := hother 'b'.toNat (by decide)
    have hf := hother 'f'.toNat (by decide)
    have hv := hother 'v'.toNat (by decide)
    have hzero := hother '0'.toNat (by decide)
    simp only [Char.reduceToNat] at hn ht hr hb hf hv hzero
    simp only [plainEscape, hn, ht, hr, hb, hf, hv, hzero, if_false]
  have hu : c ≠ 0x75 := hother 0x75 (by decide)
  have hx : c ≠ 0x78 := hother 0x78 (by decide)
  have hlf : c ≠ 0x0A := hother 0x0A (by decide)
  have hcr : c ≠ 0x0D := hother 0x0D (by decide)
  have hls : c ≠ 0x2028 := hother 0x2028 (by decide)
  have hps : c ≠ 0x2029 := hother 0x2029 (by decide)
  simp only [escapeAt, hu, hx, hlf, hcr, hls, hps, hplain, false_and, or_self, if_false]

/-- An escape is recognised, with what it stands for and how long it is. -/
theorem escapeAt_text {e : Escape} {rest : Text} (h : e.EndsBefore rest) :
    escapeAt (e.text ++ rest) = some (.ok e.value, e.text.length) := by
  cases e with
  | braced digits nonempty hex bound =>
    have hlength : (Escape.braced digits nonempty hex bound).text.length = digits.length + 3 := by
      simp [Escape.text, lit]
    rw [hlength]
    exact escapeAt_braced nonempty hex bound rest
  | unit digits length hex =>
    have hlength : (Escape.unit digits length hex).text.length = 5 := by
      simp [Escape.text, lit, length]
    rw [hlength]
    exact escapeAt_unit length hex rest
  | byte digits length hex =>
    have hlength : (Escape.byte digits length hex).text.length = 3 := by
      simp [Escape.text, lit, length]
    rw [hlength]
    exact escapeAt_byte length hex rest
  | null => rfl
  | control k => cases k <;> rfl
  | continuation e => exact escapeAt_continuation fun he => h (he ▸ rfl)
  | itself c hc => exact escapeAt_itself hc rest

/-! ## One item and a row of them -/

/-- A character in front of a body stands for itself. -/
theorem unescape_cons {c : Nat} (hc : c ≠ backslash) (rest : Text) :
    unescape (c :: rest) = (unescape rest).map (c :: ·) := by
  have hc : c ≠ 0x5C := hc
  rw [unescape, unescapeFrom, if_neg hc, unescape]

/-- An escape in front of a body stands for its value. -/
theorem unescape_backslash {t v rest : Text}
    (h : escapeAt (t ++ rest) = some (.ok v, t.length)) :
    unescape (backslash :: (t ++ rest)) = (unescape rest).map (v ++ ·) := by
  have hbackslash : backslash = 0x5C := rfl
  rw [unescape, unescapeFrom, if_pos hbackslash, h]
  dsimp only
  rw [unescapeFrom_eq, List.drop_left]
  cases unescape rest with
  | error e => rfl
  | ok u => rfl

/-- Only a line feed is written with a line feed in front. -/
theorem Item.head?_text {i : Item} : i.text.head? = some 0x0A ↔ i.text = LineEnd.lineFeed.text := by
  cases i with
  | character c hc => simp [Item.text, LineEnd.text]
  | escape e => simp [Item.text, LineEnd.text, backslash]

/-- An item in front of a body stands for its value. -/
theorem unescape_append {i : Item} {rest : Text} (h : ∀ e, i = .escape e → e.EndsBefore rest) :
    unescape (i.text ++ rest) = (unescape rest).map (i.value ++ ·) := by
  cases i with
  | character c hc => exact unescape_cons hc rest
  | escape e => exact unescape_backslash (escapeAt_text (h e rfl))

/-- The value of a body is what its items stand for, one after the other. -/
theorem unescape_items {items : List Item} (h : KeepsLineEnds items) :
    unescape (items.flatMap Item.text) = .ok (items.flatMap Item.value) := by
  induction items with
  | nil => rfl
  | cons i rest ih =>
    have hends : ∀ e, i = .escape e → e.EndsBefore (rest.flatMap Item.text) := by
      rintro e rfl rfl hhead
      cases rest with
      | nil => cases hhead
      | cons j rest =>
        have hnext := (List.isChain_cons_cons.1 h).1 rfl
        refine hnext (Item.head?_text.1 ?_)
        cases j with
        | character c hc => exact hhead
        | escape e => exact hhead
    rw [List.flatMap_cons, List.flatMap_cons, unescape_append hends, ih (List.IsChain.of_cons h)]
    rfl

/-- Items of many forms, next to each other where they could be taken for others. -/
def mixedItems : List Item :=
  [.escape (.itself backslash (by decide)), .character 'u'.toNat (by decide),
    .escape (.byte (lit "41") rfl (by decide)), .character '1'.toNat (by decide),
    .escape (.unit (lit "d83D") rfl (by decide)), .escape (.unit (lit "de00") rfl (by decide)),
    .escape (.braced (lit "0001F600") (by decide) (by decide) (by decide)),
    .escape .null, .character '7'.toNat (by decide), .escape (.control .lineFeed),
    .escape (.continuation .carriageReturn), .escape (.continuation .both),
    .character 0x0A (by decide), .escape (.itself '\''.toNat (by decide))]

/-- The items are written without anything between them, and so are their values. -/
theorem unescape_mixedItems :
    KeepsLineEnds mixedItems ∧
    mixedItems.flatMap Item.text =
      lit "\\\\u\\x411\\ud83D\\ude00\\u\x7b0001F600\x7d\\07\\n\\\r\\\r\n\n\\'" ∧
    unescape (mixedItems.flatMap Item.text) =
      .ok ([0x5C, 0x75, 0x41, 0x31, 0xD83D, 0xDE00, 0x1F600, 0, 0x37, 0x0A, 0x0A, 0x27]) := by
  have hkeeps : KeepsLineEnds mixedItems := by
    simp [KeepsLineEnds, mixedItems, Item.text, LineEnd.text, Escape.text, backslash]
  exact ⟨hkeeps, by decide, unescape_items hkeeps⟩

end ScriptDeps.Require
