import ScriptDeps.Number.Binary64

namespace ScriptDeps

/-! # JSON values

An object is a list of members in the order in which their names came up first; no name occurs
twice.
-/

/-- A JSON value. The numbers that are written without fraction and exponent are integers. -/
inductive Json where
  | null
  | bool (b : Bool)
  | int (n : Int)
  | real (x : Binary64)
  | string (t : Text)
  | array (items : List Json)
  | object (members : List (Text × Json))
deriving Inhabited

namespace Json

/-! ## Members -/

/-- The value of the member with that name. -/
def lookup (name : Text) : List (Text × Json) → Option Json
  | [] => none
  | (k, v) :: rest => if k = name then some v else lookup name rest

/-- Adds a member. A name that is there already keeps its place and gets the new value. -/
def insert (name : Text) (value : Json) : List (Text × Json) → List (Text × Json)
  | [] => [(name, value)]
  | (k, v) :: rest => if k = name then (k, value) :: rest else (k, v) :: insert name value rest

/-- The member of an object with that name. -/
def get? (name : String) : Json → Option Json
  | object members => lookup (Text.lit name) members
  | _ => none

/-- The name that messages use for the kind of a value. -/
def kindName : Json → String
  | null => "NoneType"
  | bool _ => "bool"
  | int _ => "int"
  | real _ => "float"
  | string _ => "str"
  | array _ => "list"
  | object _ => "dict"

/-- The texts of a list of strings. -/
def strings? : Json → Option (List Text)
  | array items => items.mapM fun x => match x with
    | string t => some t
    | _ => none
  | _ => none

/-- An object with the members. -/
def ofMembers (members : List (String × Json)) : Json :=
  object (members.map fun m => (Text.lit m.1, m.2))

/-- A value or `null`. -/
def ofOption : Option Json → Json
  | some v => v
  | none => null

end Json

end ScriptDeps
