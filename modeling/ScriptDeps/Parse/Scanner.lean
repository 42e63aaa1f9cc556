import ScriptDeps.Grammar.Automaton
import ScriptDeps.Source.Cursor
import ScriptDeps.Text.Letter

namespace ScriptDeps.Parse

open Source (Glyph Cursor)
open Grammar (TokenSet)

/-! # Tokens that depend on what surrounds them

Unwritten semicolons, the text of templates and elements, the question mark of a conditional
expression and comments in the manner of markup. Every scan returns what it found, if anything, and
the cursor where it stopped reading: a scan that finds nothing may be followed by another one that
goes on from there.
-/

/-! ## Templates -/

/-- Text of a template up to a back quote, a backslash or the start of a substitution. -/
def scanTemplate (c : Cursor) : Bool × Cursor :=
  go c.budget false c
where
  go : Nat → Bool → Cursor → Bool × Cursor
    | 0, _, c => (false, c)
    | n + 1, found, c =>
      let c := c.mark
      if c.glyph.isEnd then (false, c)
      else if c.glyph.is '`' || c.glyph.is '\\' then (found, c)
      else if c.glyph.is '$' && c.take.glyph.is '{' then (found, c.take)
      else go n true c.take

/-! ## Unwritten semicolons -/

/-- What a stretch of white space and comments says about a semicolon. -/
inductive Gap where
  /-- No semicolon can stand for it. -/
  | closed
  /-- It does not decide. -/
  | undecided
  /-- A semicolon can stand for it. -/
  | ended
deriving DecidableEq, Repr

/-- The inside of a block comment, behind its opening: whether a line break was seen, whether the
comment was closed, and where reading stopped. -/
def skipBlockComment (lineBreak : Bool) (c : Cursor) : Bool × Bool × Cursor :=
  go c.budget lineBreak c
where
  go : Nat → Bool → Cursor → Bool × Bool × Cursor
    | 0, broken, c => (broken, false, c)
    | n + 1, broken, c =>
      if c.glyph.isEnd then (broken, false, c)
      else if c.glyph.is '*' then
        let d := c.skip
        if d.glyph.is '/' then (broken, true, d.skip) else go n broken d
      else go n (broken || c.glyph.isLineBreak) c.skip

/-- Skips white space and comments. With `all` unset, stops behind the first block comment that is
not followed by another comment. The second part says whether a comment was seen. -/
def skipGap (all : Bool) (c : Cursor) : Gap × Bool × Cursor :=
  go c.budget false false c
where
  go : Nat → Bool → Bool → Cursor → Gap × Bool × Cursor
    | 0, _, seen, c => (.ended, seen, c)
    | n + 1, broken, seen, c =>
      let c := c.skipWhile Glyph.isSpace
      if !c.glyph.is '/' then (.ended, seen, c)
      else
        let c := c.skip
        if c.glyph.is '/' then
          go n broken true (c.skip.skipWhile fun g => !g.isEnd && !g.isLineBreak)
        else if c.glyph.is '*' then
          let (broken, closed, c) := skipBlockComment broken c.skip
          if closed && !c.glyph.is '/' && !all then
            (if broken then .ended else .undecided, true, c)
          else go n broken (seen || closed) c
        else (.closed, seen, c)

/-- What stands on a new line starts a statement of its own. -/
def startsStatement (c : Cursor) : Bool × Cursor :=
  let g := c.glyph
  if ["`", ",", ":", ";", "*", "%", ">", "<", "=", "[", "(", "?", "^", "|", "&", "/"].any
      fun s => s.toList.any g.is then (false, c)
  else if g.is '.' then (c.skip.glyph.isDigit, c.skip)
  else if g.is '+' then (c.skip.glyph.is '+', c.skip)
  else if g.is '-' then (c.skip.glyph.is '-', c.skip)
  else if g.is '!' then (!c.skip.glyph.is '=', c.skip)
  else if g.is 'i' then
    let c := c.skip
    if !c.glyph.is 'n' then (true, c)
    else
      let c := c.skip
      if !isLetter c.glyph then (false, c)
      else match spelled "stanceof".toList c with
        | (true, c) => (isLetter c.glyph, c)
        | (false, c) => (true, c)
  else (true, c)
where
  /-- The glyph is a letter. -/
  isLetter : Glyph → Bool
    | .code v => Text.isLetter v
    | _ => false
  /-- The characters stand here, one after another. -/
  spelled : List Char → Cursor → Bool × Cursor
    | [], c => (true, c)
    | x :: xs, c => if c.glyph.is x then spelled xs c.skip else (false, c)

/-- A semicolon that is not written: before a closing brace, at the end, and at a line break before
something that starts a statement. With `beforeComment` set, a comment that ends a line also ends
the statement. The second part says whether a comment was seen. -/
def scanSemicolon (beforeComment : Bool) (c : Cursor) : Bool × Bool × Cursor :=
  go c.budget false c.mark
where
  go : Nat → Bool → Cursor → Bool × Bool × Cursor
    | 0, seen, c => (false, seen, c)
    | n + 1, seen, c =>
      if c.glyph.isEnd then (true, seen, c)
      else
        let (gap, seenHere, c) :=
          if c.glyph.is '/' then skipGap false c else (Gap.undecided, false, c)
        let seen := seen || seenHere
        if gap = .closed then (false, seen, c)
        else if gap = .ended && beforeComment && !c.glyph.is ',' && !c.glyph.is '=' then
          (true, seen, c)
        else if c.glyph.is '}' then (true, seen, c)
        else if c.glyph.isLineBreak then
          let (gap, seenHere, c) := skipGap true c.skip
          let seen := seen || seenHere
          if gap = .closed then (false, seen, c)
          else
            let (starts, c) := startsStatement c
            (starts, seen, c)
        else if !c.glyph.isSpace then (false, seen, c)
        else go n seen c.skip

/-! ## Conditional expressions -/

/-- The question mark of a conditional expression: not `??`, and not `?.` unless a digit follows. -/
def scanConditionalMark (c : Cursor) : Bool × Cursor :=
  let c := c.skipWhile Glyph.isSpace
  if !c.glyph.is '?' then (false, c)
  else
    let c := c.take
    if c.glyph.is '?' then (false, c)
    else
      let c := c.mark
      if c.glyph.is '.' then (c.take.glyph.isDigit, c.take) else (true, c)

/-! ## Markup -/

/-- A comment in the manner of markup, from its opening or its closing to the end of the line. -/
def scanMarkupComment (c : Cursor) : Bool × Cursor :=
  let c := c.skipWhile fun g => g.isSpace
  if c.glyph.is '<' then opened "<!--".toList c
  else if c.glyph.is '-' then opened "-->".toList c
  else (false, c)
where
  opened : List Char → Cursor → Bool × Cursor
    | [], c => (true, (c.takeWhile fun g => !g.isEnd && !g.isLineBreak).mark)
    | x :: xs, c => if c.glyph.is x then opened xs c.take else (false, c)

/-- Text of an element. White space that follows a line break is no text by itself. -/
def scanElementText (c : Cursor) : Bool × Cursor :=
  go c.budget false false c
where
  go : Nat → Bool → Bool → Cursor → Bool × Cursor
    | 0, text, _, c => (text, c)
    | n + 1, text, atBreak, c =>
      let g := c.glyph
      if g.isEnd || g.is '<' || g.is '>' || g.is '{' || g.is '}' || g.is '&' then (text, c)
      else if g.is '\n' then go n text true c.take
      else
        let atBreak := atBreak && g.isSpace
        go n (text || !atBreak) atBreak c.take

/-! ## All of them -/

/-- The token that the scanner finds among the ones that can stand here, and where it stopped. -/
def scan (valid : TokenSet) (c : Cursor) : Option Nat × Cursor :=
  let can (t : Nat) : Bool := valid.testBit t
  let found (t : Nat) (r : Bool × Cursor) : Option Nat × Cursor :=
    (if r.1 then some t else none, r.2)
  if can Grammar.templateText then
    if can Grammar.unwrittenSemicolon then (none, c)
    else found Grammar.templateText (scanTemplate c)
  else if can Grammar.unwrittenSemicolon then
    match scanSemicolon (!can Grammar.orSymbol) c with
    | (true, _, c) => (some Grammar.unwrittenSemicolon, c)
    | (false, seen, c) =>
      if !seen && can Grammar.conditionalMark && c.glyph.is '?' then
        found Grammar.conditionalMark (scanConditionalMark c)
      else (none, c)
  else if can Grammar.conditionalMark then found Grammar.conditionalMark (scanConditionalMark c)
  else
    let (text, c) := if can Grammar.elementText then scanElementText c else (false, c)
    if text then (some Grammar.elementText, c)
    else if can Grammar.markupComment && !can Grammar.orSymbol && !can Grammar.escapeSymbol &&
        !can Grammar.regexSymbol then
      found Grammar.markupComment (scanMarkupComment c)
    else (none, c)

end ScriptDeps.Parse
