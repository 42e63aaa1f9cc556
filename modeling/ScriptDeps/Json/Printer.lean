import ScriptDeps.Json.Basic

namespace ScriptDeps.Json

/-! # Writing JSON

Everything but printable ASCII is escaped, a code point beyond `FFFF` as a pair of surrogates.
-/

/-- A code point between the quotes of a JSON string. -/
def escaped (c : Nat) : Text :=
  if c = 0x22 ∨ c = 0x5C then [0x5C, c]
  else if c = 0x0A then Text.lit "\\n"
  else if c = 0x0D then Text.lit "\\r"
  else if c = 0x09 then Text.lit "\\t"
  else if c = 0x0C then Text.lit "\\f"
  else if c = 0x08 then Text.lit "\\b"
  else if 0x20 ≤ c ∧ c ≤ 0x7E then [c]
  else if c < 0x10000 then Text.lit "\\u" ++ Text.hex 4 c
  else
    let v := c - 0x10000
    Text.lit "\\u" ++ Text.hex 4 (0xD800 + v / 0x400) ++
      Text.lit "\\u" ++ Text.hex 4 (0xDC00 + v % 0x400)

/-- A JSON string. -/
def quote (t : Text) : Text := 0x22 :: t.flatMap escaped ++ [0x22]

/-- A number of double precision; those that are not finite have names. -/
def realText : Binary64 → Text
  | .nan => Text.lit "NaN"
  | .infinite negative => Text.lit (if negative then "-Infinity" else "Infinity")
  | x => x.text

/-- A value that has no parts. -/
def atomText : Json → Text
  | null => Text.lit "null"
  | bool b => Text.lit (if b then "true" else "false")
  | int n => Text.ofInt n
  | real x => realText x
  | string t => quote t
  | array _ => Text.lit "[]"
  | object _ => [0x7B, 0x7D]

/-! ## On one line -/

mutual

/-- A value on one line. -/
def compact : Json → Text
  | array items => 0x5B :: compactItems [] items ++ [0x5D]
  | object members => 0x7B :: compactMembers [] members ++ [0x7D]
  | v => atomText v

/-- The items of an array; `lead` stands before the next of them. -/
def compactItems (lead : Text) : List Json → Text
  | [] => []
  | v :: rest => lead ++ compact v ++ compactItems (Text.lit ", ") rest

/-- The members of an object; `lead` stands before the next of them. -/
def compactMembers (lead : Text) : List (Text × Json) → Text
  | [] => []
  | (k, v) :: rest =>
    lead ++ quote k ++ Text.lit ": " ++ compact v ++ compactMembers (Text.lit ", ") rest

end

/-! ## On many lines -/

/-- A line feed and two blanks for every level. -/
def newline (level : Nat) : Text := 0x0A :: List.replicate (2 * level) 0x20

mutual

/-- A value on many lines, indented by two blanks a level. -/
def indented (level : Nat) : Json → Text
  | array items =>
    if items.isEmpty then Text.lit "[]"
    else 0x5B :: indentedItems level [] items ++ newline level ++ [0x5D]
  | object members =>
    if members.isEmpty then [0x7B, 0x7D]
    else 0x7B :: indentedMembers level [] members ++ newline level ++ [0x7D]
  | v => atomText v

/-- The items of an array, each on lines of its own; `lead` stands before the next of them. -/
def indentedItems (level : Nat) (lead : Text) : List Json → Text
  | [] => []
  | v :: rest =>
    lead ++ newline (level + 1) ++ indented (level + 1) v ++ indentedItems level [0x2C] rest

/-- The members of an object, each on lines of its own; `lead` stands before the next of them. -/
def indentedMembers (level : Nat) (lead : Text) : List (Text × Json) → Text
  | [] => []
  | (k, v) :: rest =>
    lead ++ newline (level + 1) ++ quote k ++ Text.lit ": " ++ indented (level + 1) v ++
      indentedMembers level [0x2C] rest

end

end ScriptDeps.Json
