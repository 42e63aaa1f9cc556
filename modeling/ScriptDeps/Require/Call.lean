import ScriptDeps.Require.Literal
import ScriptDeps.Syntax.Compact

namespace ScriptDeps.Require

open Syntax (Node TextError)

/-! # Calls of `require`

A call counts if what is called is the identifier `require` itself. It is static if its only
argument is a literal, perhaps in parentheses, and dynamic otherwise.
-/

/-- A call of `require`. -/
structure Call where
  /-- The value of the literal, or the compact text of the arguments of a dynamic call. -/
  spec : Text
  start : Nat
  stop : Nat
  dynamic : Bool
deriving DecidableEq, Repr

/-! ## Parentheses -/

/-- The kind of an expression in parentheses. -/
def parenthesized : String := "parenthesized_expression"

mutual

/-- The expression inside any number of parentheses. Parentheses around none or several parts
stay. -/
def unwrapped : Node → Node
  | ⟨kind, named, start, stop, missing, faulty, role, children⟩ =>
    let n : Node := ⟨kind, named, start, stop, missing, faulty, role, children⟩
    if kind = parenthesized ∧ n.parts.length = 1 then (firstUnwrapped children).getD n else n

/-- The first part among siblings, without its parentheses. -/
def firstUnwrapped : List Node → Option Node
  | [] => none
  | n :: rest => if n.isPart then some (unwrapped n) else firstUnwrapped rest

end

/-! ## Finding the calls -/

/-- The call that a node with these arguments is. -/
def callWith (source : ByteArray) (n : Node) (arguments : List Node) : Except TextError Call :=
  match arguments.map unwrapped with
  | [argument] =>
    if isLiteral argument then do
      return ⟨← literalValue source argument, n.start, n.stop, false⟩
    else dynamicCall
  | _ => dynamicCall
where
  dynamicCall : Except TextError Call := do
    let texts ← arguments.mapM (Node.compact source)
    return ⟨texts.flatten, n.start, n.stop, true⟩

/-- The call that a node is, if it is one. A template behind `require` is no argument. -/
def callAt (source : ByteArray) (n : Node) : Except TextError (List Call) := do
  if n.kind ≠ "call_expression" then return []
  match n.child? "function" with
  | none => return []
  | some callee =>
    if callee.kind ≠ "identifier" then return []
    if (← callee.text source) ≠ Text.lit "require" then return []
    match n.child? "arguments" with
    | none => return []
    | some arguments =>
      if arguments.kind ≠ "arguments" then return []
      return [← callWith source n arguments.parts]

mutual

/-- The calls in a tree; a call follows those inside it. -/
def calls (source : ByteArray) : Node → Except TextError (List Call)
  | ⟨kind, named, start, stop, missing, faulty, role, children⟩ => do
    let inner ← callsAmong source children
    let own ← callAt source ⟨kind, named, start, stop, missing, faulty, role, children⟩
    return inner ++ own

/-- The calls in siblings. -/
def callsAmong (source : ByteArray) : List Node → Except TextError (List Call)
  | [] => .ok []
  | n :: rest => do
    let first ← calls source n
    let others ← callsAmong source rest
    return first ++ others

end

end ScriptDeps.Require
