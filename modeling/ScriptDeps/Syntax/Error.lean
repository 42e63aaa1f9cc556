import ScriptDeps.Syntax.Node
import ScriptDeps.Text.Quoted
import ScriptDeps.Text.Utf8

namespace ScriptDeps.Syntax

/-! # Syntax errors

A tree is in error where it has an `ERROR` node or a missing node. The first of them in document
order is reported.
-/

/-- Why and where a source is no script. -/
structure SyntaxError where
  /-- What is wrong there. -/
  message : Text
  /-- The line, from 1. -/
  line : Nat
  /-- The number of bytes before it on its line. -/
  column : Nat
  /-- The number of bytes before it. -/
  offset : Nat
deriving DecidableEq, Repr

namespace SyntaxError

/-- An error in words with its place. -/
def text (e : SyntaxError) : Text :=
  e.message ++ Text.lit " (" ++ Text.ofNat e.line ++ Text.lit ":" ++ Text.ofNat e.column ++
    Text.lit ")"

end SyntaxError

namespace Node

/-- The node itself is in error. -/
def isFault (n : Node) : Bool := n.isError || n.missing

mutual

/-- The first node in error, in document order; only faulty children are looked at. -/
def firstFault? (n : Node) : Option Node :=
  match n with
  | ⟨kind, named, start, stop, missing, faulty, role, children⟩ =>
    let n : Node := ⟨kind, named, start, stop, missing, faulty, role, children⟩
    if n.isFault then some n else firstFaultAmong? children

/-- The first node in error among siblings and below them. -/
def firstFaultAmong? : List Node → Option Node
  | [] => none
  | n :: rest =>
    let found := if n.faulty || n.missing then n.firstFault? else none
    match found with
    | some m => some m
    | none => firstFaultAmong? rest

end

end Node

/-! ## Messages -/

/-- The number of code points of the source that a message shows. -/
def snippetLength : Nat := 20

/-- The start of a node's text, up to the end of its first line. -/
def snippet (source : ByteArray) (n : Node) : Text :=
  (Text.decodeLossy (Text.bytesBetween source n.start n.stop)).firstLine.take snippetLength

/-- What is wrong at a node. -/
def faultMessage (source : ByteArray) (n : Node) : Text :=
  if n.missing then Text.lit "Missing " ++ Text.quoted (Text.lit n.kind)
  else
    let shown := snippet source n
    if shown.isEmpty then Text.lit "Unexpected end of input"
    else Text.lit "Unexpected token " ++ Text.quoted shown

/-- The error at a node. -/
def errorAt (source : ByteArray) (n : Node) : SyntaxError :=
  let before := Text.bytesBetween source 0 n.start
  { message := faultMessage source n
    line := before.count 0x0A + 1
    column := (before.reverse.takeWhile (· != 0x0A)).length
    offset := n.start }

/-- The error of a tree, if there is any. -/
def error? (source : ByteArray) (root : Node) : Option SyntaxError :=
  if root.faulty then some (errorAt source (root.firstFault?.getD root)) else none

end ScriptDeps.Syntax
