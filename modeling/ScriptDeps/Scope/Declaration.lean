import ScriptDeps.Syntax.Text

namespace ScriptDeps.Scope

open Syntax (Node TextError)

/-! # Declarations

A declaration makes a name known within a node of the tree, its scope. A variable and a declared
function belong to the nearest function, a lexical name and a declared class to the nearest block,
and parameters, names of expressions and caught errors to the function, class or clause itself.
-/

/-- What identifies a node: its bounds and its kind. -/
structure Key where
  start : Nat
  stop : Nat
  kind : String
deriving DecidableEq, Repr

/-- What identifies the node. -/
def Key.of (n : Node) : Key := ⟨n.start, n.stop, n.kind⟩

/-- A name that is known within a scope. -/
structure Declaration where
  scope : Key
  name : Text
  /-- The identifier that declares it. The name of a declared class is known within the class a
  second time without an identifier of its own. -/
  site : Option Key
deriving DecidableEq, Repr

/-! ## Kinds of nodes -/

/-- The kinds of declared functions. -/
def declaredFunctionKinds : List String :=
  ["function_declaration", "generator_function_declaration"]

/-- The kinds of the functions that are expressions or members. -/
def functionExpressionKinds : List String :=
  ["function_expression", "function", "generator_function", "arrow_function", "method_definition"]

/-- The kinds of nodes that variables belong to. -/
def functionScopeKinds : List String :=
  declaredFunctionKinds ++ functionExpressionKinds ++ ["program"]

/-- The kinds of nodes that lexical names belong to. -/
def blockScopeKinds : List String :=
  functionScopeKinds ++ ["statement_block", "for_statement", "for_in_statement", "class_static_block"]

/-! ## Patterns -/

/-- The kinds of patterns of which every part is a pattern. -/
def collectionKinds : List String := ["object_pattern", "array_pattern", "rest_pattern"]

/-- The kinds of patterns with a default value. -/
def defaultKinds : List String := ["assignment_pattern", "object_assignment_pattern"]

mutual

/-- The identifiers that a pattern binds. -/
def boundIn : Node → List Node
  | ⟨kind, named, start, stop, missing, faulty, role, children⟩ =>
    if kind = "identifier" ∨ kind = "shorthand_property_identifier_pattern" then
      [⟨kind, named, start, stop, missing, faulty, role, children⟩]
    else if collectionKinds.contains kind then boundInParts children
    else if kind = "pair_pattern" then boundInChild "value" children
    else if defaultKinds.contains kind then boundInChild "left" children
    else []

/-- The identifiers that the parts among siblings bind. -/
def boundInParts : List Node → List Node
  | [] => []
  | n :: rest => (if n.isPart then boundIn n else []) ++ boundInParts rest

/-- The identifiers that the first sibling with that role binds. -/
def boundInChild (role : String) : List Node → List Node
  | [] => []
  | n :: rest => if n.role == some role then boundIn n else boundInChild role rest

end

/-- The identifiers that a pattern binds, if there is one. -/
def boundIn? (n : Option Node) : List Node := (n.map boundIn).getD []

/-! ## What a node declares -/

/-- The nearest named node of one of the kinds, or else the outermost one; the nearest node comes
first. -/
def nearest (kinds : List String) (ancestors : List Node) (n : Node) : Node :=
  match ancestors.find? fun a => a.named && kinds.contains a.kind with
  | some a => a
  | none => ancestors.getLast?.getD n

/-- An identifier and the scope that its name belongs to. -/
structure Binding where
  identifier : Node
  scope : Node

/-- All identifiers belong to the scope. -/
def bindTo (scope : Node) (identifiers : List Node) : List Binding :=
  identifiers.map fun i => ⟨i, scope⟩

/-- The names of the declarators of a declaration. -/
def declaratorNames (n : Node) : List Node :=
  n.parts.flatMap fun d =>
    if d.kind = "variable_declarator" then boundIn? (d.child? "name") else []

/-- The parameters of a function; an arrow function may have one without parentheses. -/
def parameterNames (n : Node) : List Node :=
  ((n.child? "parameters").map fun ps => ps.parts.flatMap boundIn).getD [] ++
    boundIn? (n.child? "parameter")

/-- The name of a function or class that is an expression. -/
def ownName (n : Node) : List Node :=
  match n.child? "name" with
  | some i => if i.kind = "identifier" then [i] else []
  | none => []

/-- The local names of an import. -/
def importNames (n : Node) : List Node :=
  n.parts.flatMap fun clause =>
    if clause.kind ≠ "import_clause" then []
    else clause.parts.flatMap fun item =>
      if item.kind = "identifier" then [item]
      else if item.kind = "namespace_import" then item.parts
      else if item.kind = "named_imports" then
        item.parts.flatMap fun specifier =>
          match (specifier.child? "alias").orElse fun _ => specifier.child? "name" with
          | some i => if i.kind = "identifier" then [i] else []
          | none => []
      else []

/-- The names that the head of a loop over a collection declares. -/
def loopBindings (source : ByteArray) (ancestors : List Node) (n : Node) :
    Except TextError (List Binding) :=
  match n.child? "kind" with
  | none => .ok []
  | some keyword => do
    let scope :=
      if (← keyword.text source) = Text.lit "var" then nearest functionScopeKinds ancestors n else n
    return bindTo scope (boundIn? (n.child? "left"))

/-- The bindings of a named node with these ancestors, the nearest first. -/
def bindingsAt (source : ByteArray) (ancestors : List Node) (n : Node) :
    Except TextError (List Binding) :=
  if n.kind = "variable_declaration" then
    .ok (bindTo (nearest functionScopeKinds ancestors n) (declaratorNames n))
  else if n.kind = "lexical_declaration" then
    .ok (bindTo (nearest blockScopeKinds ancestors n) (declaratorNames n))
  else if n.kind = "for_in_statement" then loopBindings source ancestors n
  else if declaredFunctionKinds.contains n.kind then
    .ok (bindTo (nearest functionScopeKinds ancestors n) (n.child? "name").toList ++
      bindTo n (parameterNames n))
  else if n.kind = "method_definition" then .ok (bindTo n (parameterNames n))
  else if functionExpressionKinds.contains n.kind then
    .ok (bindTo n (ownName n ++ parameterNames n))
  else if n.kind = "class_declaration" then
    .ok (bindTo (nearest blockScopeKinds ancestors n) (n.child? "name").toList)
  else if n.kind = "class" then .ok (bindTo n (ownName n))
  else if n.kind = "catch_clause" then .ok (bindTo n (boundIn? (n.child? "parameter")))
  else if n.kind = "import_statement" then .ok (bindTo (ancestors.getLast?.getD n) (importNames n))
  else .ok []

/-- The declaration that a binding makes. -/
def Binding.declaration (source : ByteArray) (b : Binding) : Except TextError Declaration := do
  return ⟨Key.of b.scope, ← b.identifier.text source, some (Key.of b.identifier)⟩

/-- The declarations of a node with these ancestors. -/
def declarationsAt (source : ByteArray) (ancestors : List Node) (n : Node) :
    Except TextError (List Declaration) := do
  if !n.named then return []
  let declared ← (← bindingsAt source ancestors n).mapM (Binding.declaration source)
  let inside :=
    if n.kind = "class_declaration" then declared.map fun d => ⟨Key.of n, d.name, none⟩ else []
  return declared ++ inside

mutual

/-- The declarations in a tree, in document order. -/
def declarations (source : ByteArray) (ancestors : List Node) :
    Node → Except TextError (List Declaration)
  | ⟨kind, named, start, stop, missing, faulty, role, children⟩ => do
    let n : Node := ⟨kind, named, start, stop, missing, faulty, role, children⟩
    let own ← declarationsAt source ancestors n
    let inner ← declarationsAmong source (n :: ancestors) children
    return own ++ inner

/-- The declarations in siblings. -/
def declarationsAmong (source : ByteArray) (ancestors : List Node) :
    List Node → Except TextError (List Declaration)
  | [] => .ok []
  | n :: rest => do
    let first ← declarations source ancestors n
    let others ← declarationsAmong source ancestors rest
    return first ++ others

end

end ScriptDeps.Scope
