import ScriptDeps.Scope.Declaration
import ScriptDeps.Text.Lowercase

namespace ScriptDeps.Scope

open Syntax (Node TextError)

/-! # Free references

An identifier that declares nothing refers to a name. The reference is free if no enclosing node
makes the name known.
-/

/-- A reference to a name that no enclosing node declares. -/
structure Reference where
  name : Text
  start : Nat
  stop : Nat
deriving DecidableEq, Repr

/-! ## Identifiers that refer to a name -/

/-- The kinds of identifiers. -/
def identifierKinds : List String :=
  ["identifier", "shorthand_property_identifier", "shorthand_property_identifier_pattern"]

/-- Identifiers below these name exports or imported members. -/
def foreignParentKinds : List String := ["import_specifier", "export_specifier", "namespace_export"]

/-- The kinds of tags of elements in markup. -/
def tagKinds : List String :=
  ["jsx_opening_element", "jsx_closing_element", "jsx_self_closing_element"]

/-- The text starts with a lower-case letter, as the names of built-in elements do. -/
def startsLowercase (t : Text) : Bool := (t.head?.map Text.isLowercase).getD false

/-- The node is an identifier that refers to a name, given the keys of the identifiers that declare
one. -/
def refers (source : ByteArray) (declaring : List Key) (parent : Option Node) (n : Node) :
    Except TextError Bool := do
  if !identifierKinds.contains n.kind || declaring.contains (Key.of n) then return false
  match parent with
  | none => return true
  | some p =>
    if foreignParentKinds.contains p.kind then return false
    if tagKinds.contains p.kind then return !startsLowercase (← n.text source)
    return true

/-! ## Scopes -/

/-- The kinds of functions in which `arguments` is known. -/
def argumentsKinds : List String :=
  functionScopeKinds.filter fun k => k != "program" && k != "arrow_function"

/-- What an enclosing node makes known. -/
structure Enclosing where
  bindsArguments : Bool
  names : List Text

/-- The name is known within the enclosing node. -/
def Enclosing.knows (e : Enclosing) (name : Text) : Bool :=
  (e.bindsArguments && name == Text.lit "arguments") || e.names.contains name

/-- What a node makes known within itself, if it is named and makes anything known. -/
def enclosing? (ds : List Declaration) (n : Node) : Option Enclosing :=
  let names := (ds.filter fun d => d.scope == Key.of n).map (·.name)
  let bindsArguments := argumentsKinds.contains n.kind
  if n.named && (bindsArguments || !names.isEmpty) then some ⟨bindsArguments, names⟩ else none

/-! ## Finding the references -/

/-- This name is known everywhere. -/
def everywhere : Text := Text.lit "undefined"

/-- The free reference that a node is, if it is one. -/
def referenceAt (source : ByteArray) (declaring : List Key) (scopes : List Enclosing)
    (parent : Option Node) (n : Node) : Except TextError (List Reference) := do
  if !(← refers source declaring parent n) then return []
  let name ← n.text source
  if name = everywhere ∨ scopes.any (·.knows name) then return []
  return [⟨name, n.start, n.stop⟩]

mutual

/-- The free references in a tree, in document order. -/
def references (source : ByteArray) (ds : List Declaration) (declaring : List Key)
    (scopes : List Enclosing) (parent : Option Node) : Node → Except TextError (List Reference)
  | ⟨kind, named, start, stop, missing, faulty, role, children⟩ => do
    let n : Node := ⟨kind, named, start, stop, missing, faulty, role, children⟩
    let own ← referenceAt source declaring scopes parent n
    let inner ← referencesAmong source ds declaring ((enclosing? ds n).toList ++ scopes) n children
    return own ++ inner

/-- The free references in siblings. -/
def referencesAmong (source : ByteArray) (ds : List Declaration) (declaring : List Key)
    (scopes : List Enclosing) (parent : Node) : List Node → Except TextError (List Reference)
  | [] => .ok []
  | n :: rest => do
    let first ← references source ds declaring scopes (some parent) n
    let others ← referencesAmong source ds declaring scopes parent rest
    return first ++ others

end

/-- The free references of a tree, ordered by name; those of one name keep the document order. -/
def freeReferences (source : ByteArray) (root : Node) : Except TextError (List Reference) := do
  let ds ← declarations source [] root
  let found ← references source ds (ds.filterMap (·.site)) [] none root
  return found.mergeSort fun a b => !Text.before b.name a.name

end ScriptDeps.Scope
