import ScriptDeps.Source.Glyph

namespace ScriptDeps.Source

/-! # Cursors: reading a source with the bounds of a token in hand

A cursor stands before a glyph and remembers where the token that is being read starts and, once
`mark` was called, where it ends. Reading on never passes the end of the source.
-/

/-- A place in a source together with the bounds of the token that is being read. -/
structure Cursor where
  bytes : ByteArray
  place : Position
  glyph : Glyph
  width : Nat
  tokenStart : Position
  tokenStop : Option Position
deriving Inhabited

namespace Cursor

/-- A cursor at `p` with an empty token there. -/
def moveTo (bytes : ByteArray) (p : Position) : Cursor :=
  let (g, n) := glyphAt bytes p.offset
  { bytes, place := p, glyph := g, width := n, tokenStart := p, tokenStop := none }

/-- The place behind the current glyph. -/
def next (c : Cursor) : Position :=
  ⟨c.place.offset + c.width, if c.glyph.is '\n' then c.place.row + 1 else c.place.row⟩

/-- Reads the current glyph as part of the token. -/
def take (c : Cursor) : Cursor :=
  let p := c.next
  let (g, n) := glyphAt c.bytes p.offset
  { c with place := p, glyph := g, width := n }

/-- Reads the current glyph as something before the token. -/
def skip (c : Cursor) : Cursor :=
  let d := c.take
  { d with tokenStart := d.place }

/-- Lets the token end here, as far as is known. -/
def mark (c : Cursor) : Cursor :=
  { c with tokenStop := some c.place }

/-- Starts a token here. A byte order mark at the very start of the source is passed over. -/
def begin (c : Cursor) : Cursor :=
  let d := { c with tokenStart := c.place, tokenStop := none }
  if c.place.offset = 0 ∧ c.glyph = .code 0xFEFF then d.skip else d

/-- The bounds of the token: an unmarked token ends here, and a token never starts behind its
end. -/
def bounds (c : Cursor) : Position × Position :=
  let stop := c.tokenStop.getD c.place
  (if stop.offset < c.tokenStart.offset then stop else c.tokenStart, stop)

/-- An upper bound for the number of glyphs that can still be read, plus one. -/
def budget (c : Cursor) : Nat := c.bytes.size + 1 - c.place.offset

/-- Skips while `p` holds; the budget covers the rest of the source. -/
def skipWhile (p : Glyph → Bool) (c : Cursor) : Cursor :=
  go c.budget c
where
  go : Nat → Cursor → Cursor
    | 0, c => c
    | n + 1, c => if p c.glyph && c.glyph != .stop then go n c.skip else c

/-- Takes while `p` holds; the budget covers the rest of the source. -/
def takeWhile (p : Glyph → Bool) (c : Cursor) : Cursor :=
  go c.budget c
where
  go : Nat → Cursor → Cursor
    | 0, c => c
    | n + 1, c => if p c.glyph && c.glyph != .stop then go n c.take else c

end Cursor

end ScriptDeps.Source
