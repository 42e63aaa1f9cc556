import ScriptDeps.Syntax.Node
import ScriptDeps.Text.Utf8

namespace ScriptDeps.Syntax

/-! # The text of a node

A source may hold bytes that are no text, and an escape may denote a value that is no code point, so
reading a text out of a tree can fail.
-/

/-- Why a text could not be read out of a tree. -/
inductive TextError where
  /-- The source is no text there. -/
  | undecodable (e : Text.DecodeError)
  /-- An escape denotes a value above `10FFFF`. -/
  | noCodePoint
  /-- An escape denotes a value of more than 31 bits. -/
  | tooLarge
deriving DecidableEq, Repr

/-- An error in words. -/
def TextError.message : TextError → Text
  | undecodable e => e.message
  | noCodePoint => Text.lit "chr() arg not in range(0x110000)"
  | tooLarge => Text.lit "Python int too large to convert to C int"

namespace Node

/-- The text between the bounds of a node. -/
def text (source : ByteArray) (n : Node) : Except TextError Text :=
  match Text.decode (Text.bytesBetween source n.start n.stop) with
  | .ok t => .ok t
  | .error e => .error (.undecodable e)

end Node

end ScriptDeps.Syntax
