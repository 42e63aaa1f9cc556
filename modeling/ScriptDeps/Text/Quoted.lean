import ScriptDeps.Text.Basic
import ScriptDeps.Text.Printable

namespace ScriptDeps.Text

/-! # Quoted texts

A text is shown between single quotes, or between double quotes if it holds a single quote and no
double quote. What cannot be printed is written as an escape.
-/

/-- A code point between the quotes. -/
def quotedOne (quote c : Nat) : Text :=
  if c = quote ∨ c = 0x5C then [0x5C, c]
  else if c = 0x09 then lit "\\t"
  else if c = 0x0A then lit "\\n"
  else if c = 0x0D then lit "\\r"
  else if isPrintable c then [c]
  else if c < 0x100 then lit "\\x" ++ hex 2 c
  else if c < 0x10000 then lit "\\u" ++ hex 4 c
  else lit "\\U" ++ hex 8 c

/-- The quote that a text is shown with. -/
def quoteFor (t : Text) : Nat := if t.contains 0x27 && !t.contains 0x22 then 0x22 else 0x27

/-- A text between quotes. -/
def quoted (t : Text) : Text :=
  let q := quoteFor t
  q :: t.flatMap (quotedOne q) ++ [q]

example : quoted (lit "a'b\n") = lit "\"a'b\\n\"" := by decide +kernel
example : quoted [0x27, 0x22] = lit "'\\'\"'" := by decide +kernel

end ScriptDeps.Text
