namespace ScriptDeps.Text

/-! # Sets of code points as lists of inclusive ranges -/

/-- The code point lies in one of the ranges. -/
def inRanges (ranges : List (Nat × Nat)) (c : Nat) : Bool :=
  ranges.any fun r => r.1 ≤ c && c ≤ r.2

end ScriptDeps.Text
