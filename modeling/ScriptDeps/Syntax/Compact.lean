import ScriptDeps.Syntax.Text

namespace ScriptDeps.Syntax

/-! # Compact text

The compact text of a node consists of its tokens. It does not tell how wide a gap between two of
them is, or whether a comment stands in it: where there is one, there is one blank, or none inside
brackets and before or behind some punctuators.
-/

/-- The kinds of the nodes that are one token with everything in them. -/
def atomicKinds : List String := ["string", "template_string", "regex", "number"]

/-- The tokens behind which no blank stands. -/
def noBlankBehind : List Text := [Text.lit "(", Text.lit "[", Text.lit ".", Text.lit "?.", Text.lit "..."]

/-- The tokens before which no blank stands. -/
def noBlankBefore : List Text :=
  [Text.lit ")", Text.lit "]", Text.lit ",", Text.lit ".", Text.lit "?.", Text.lit ";"]

namespace Node

mutual

/-- The tokens of a node without comments. -/
def tokens : Node → List Node
  | ⟨kind, named, start, stop, missing, faulty, role, children⟩ =>
    if kind = "comment" then []
    else if children.isEmpty || atomicKinds.contains kind then
      [⟨kind, named, start, stop, missing, faulty, role, children⟩]
    else tokensAmong children

/-- The tokens of siblings. -/
def tokensAmong : List Node → List Node
  | [] => []
  | n :: rest => n.tokens ++ tokensAmong rest

end

end Node

/-- A token that was written, with its text. -/
structure Written where
  text : Text
  start : Nat
  stop : Nat
deriving DecidableEq, Repr

/-- The texts of the tokens; those without text are left out. -/
def writtenTokens (source : ByteArray) : List Node → Except TextError (List Written)
  | [] => .ok []
  | n :: rest => do
    let t ← n.text source
    let ts ← writtenTokens source rest
    return if t.isEmpty then ts else ⟨t, n.start, n.stop⟩ :: ts

/-- A blank stands between the tokens. -/
def spaced (a b : Written) : Bool :=
  a.stop < b.start && !noBlankBehind.contains a.text && !noBlankBefore.contains b.text

/-- The tokens behind `a`, with the blanks before them. -/
def layoutAfter (a : Written) : List Written → Text
  | [] => []
  | b :: rest => (if spaced a b then [0x20] else []) ++ b.text ++ layoutAfter b rest

/-- The tokens with blanks between them. -/
def layout : List Written → Text
  | [] => []
  | a :: rest => a.text ++ layoutAfter a rest

/-- The compact text of a node. -/
def Node.compact (source : ByteArray) (n : Node) : Except TextError Text :=
  (writtenTokens source n.tokens).map layout

end ScriptDeps.Syntax
