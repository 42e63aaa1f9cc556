import ScriptDeps.Source.Glyph

namespace ScriptDeps.Grammar

open Source (Glyph)

/-! # Patterns: regular expressions over glyphs, read by derivatives

A pattern stands for a set of glyph sequences. `Pattern.derive p g` stands for the sequences that
`p` continues with after `g`, and `Pattern.nullable` says whether the empty sequence is among them,
so that reading a token is taking derivatives until nothing is left.
-/

/-- A set of code points, given by inclusive ranges or by the ranges that it leaves out. NUL is in
no class. -/
structure CharClass where
  ranges : List (Nat × Nat)
  /-- The class holds what is outside the ranges. -/
  complement : Bool := false
  /-- The class also holds bytes that are not UTF-8. -/
  undecodable : Bool := false
deriving DecidableEq, Repr, Inhabited

/-- The glyph is in the class. -/
def CharClass.contains (k : CharClass) : Glyph → Bool
  | .code c => c != 0 && (k.ranges.any fun r => r.1 ≤ c && c ≤ r.2) != k.complement
  | .undecodable => k.undecodable
  | .stop => false

/-- A regular expression. -/
inductive Pattern where
  /-- Nothing matches. -/
  | never
  /-- The empty sequence. -/
  | empty
  /-- One glyph of a class. -/
  | one (k : CharClass)
  /-- One pattern after another. -/
  | seq (p q : Pattern)
  /-- One pattern or another. -/
  | either (p q : Pattern)
  /-- Any number of times. -/
  | many (p : Pattern)
deriving DecidableEq, Repr, Inhabited

namespace Pattern

/-! ## Constructors that keep patterns small -/

/-- One pattern after another, without `never` and `empty` parts. -/
def andThen : Pattern → Pattern → Pattern
  | never, _ => never
  | empty, q => q
  | _, never => never
  | p, q => seq p q

/-- One pattern or another, without `never` parts. -/
def orElse : Pattern → Pattern → Pattern
  | never, q => q
  | p, never => p
  | p, q => either p q

/-- At least once. -/
def oneOrMore (p : Pattern) : Pattern := andThen p (many p)

/-- At most once. -/
def opt (p : Pattern) : Pattern := orElse p empty

/-- Exactly `n` times. -/
def times (n : Nat) (p : Pattern) : Pattern :=
  match n with
  | 0 => empty
  | n + 1 => andThen p (times n p)

/-- At most `n` times. -/
def upTo (n : Nat) (p : Pattern) : Pattern :=
  match n with
  | 0 => empty
  | n + 1 => opt (andThen p (upTo n p))

/-- All the patterns in turn. -/
def chain (ps : List Pattern) : Pattern := ps.foldr andThen empty

/-- Any one of the patterns. -/
def anyOf (ps : List Pattern) : Pattern := ps.foldr orElse never

/-- Exactly this text. -/
def text (s : String) : Pattern :=
  chain (s.toList.map fun c => one { ranges := [(c.toNat, c.toNat)] })

/-- One character of these inclusive ranges. -/
def within (ranges : List (Char × Char)) : Pattern :=
  one { ranges := ranges.map fun r => (r.1.toNat, r.2.toNat) }

/-- One of these characters. -/
def oneOf (s : String) : Pattern :=
  one { ranges := s.toList.map fun c => (c.toNat, c.toNat) }

/-- Anything but these characters, bytes that are not UTF-8 included. -/
def noneOf (s : String) : Pattern :=
  one { ranges := s.toList.map fun c => (c.toNat, c.toNat), complement := true,
        undecodable := true }

/-! ## Derivatives -/

/-- The empty sequence matches. -/
def nullable : Pattern → Bool
  | never => false
  | empty => true
  | one _ => false
  | seq p q => p.nullable && q.nullable
  | either p q => p.nullable || q.nullable
  | many _ => true

/-- What can follow `g`. -/
def derive (g : Glyph) : Pattern → Pattern
  | never => never
  | empty => never
  | one k => if k.contains g then empty else never
  | seq p q =>
    let d := andThen (p.derive g) q
    if p.nullable then orElse d (q.derive g) else d
  | either p q => orElse (p.derive g) (q.derive g)
  | many p => andThen (p.derive g) (many p)

/-- The pattern is the one that matches nothing. -/
def isNever : Pattern → Bool
  | never => true
  | _ => false

end Pattern

end ScriptDeps.Grammar
