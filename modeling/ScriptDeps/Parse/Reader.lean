import ScriptDeps.Grammar.Automaton
import ScriptDeps.Source.Cursor

namespace ScriptDeps.Parse

open Source (Glyph Cursor)
open Grammar (TokenSet Pattern TokenRule)

/-! # Reading a token by its text

All tokens that can stand at a place are tried at once: a reading holds one thread for every token
that still matches, and every glyph takes each thread a derivative further. The longest match wins,
unless a token of higher priority is already complete.
-/

/-- One token that may be the one that is being read. -/
structure Thread where
  token : Nat
  /-- Nothing of the token was read yet, so white space may still come first. -/
  leading : Bool
  /-- What is left to match. -/
  rest : Pattern
deriving Repr, Inhabited

/-- The tokens that still match. -/
structure Reading where
  threads : List Thread
  /-- The source may end here. -/
  mayEnd : Bool
deriving Repr, Inhabited

namespace Reading

/-- How the token is recognised. -/
def rule (token : Nat) : TokenRule := rules.getD token default
where
  rules : Array TokenRule := Grammar.tokens.toArray

/-- The reading that starts with these tokens. -/
def start (tokens : TokenSet) : Reading where
  threads := (List.range Grammar.tokens.length).filterMap fun n =>
    if n ≠ 0 ∧ tokens.testBit n then some ⟨n, !(rule n).immediate, (rule n).pattern⟩ else none
  mayEnd := tokens.testBit 0

/-- One complete token is preferred over another: by priority, then rank, then number. -/
def prefers (m n : Nat) : Bool :=
  let a := rule m
  let b := rule n
  if a.priority ≠ b.priority then a.priority > b.priority
  else if a.rank ≠ b.rank then a.rank > b.rank
  else m < n

/-- The token that is complete, the preferred one if there are several. -/
def complete (r : Reading) : Option Nat :=
  r.threads.foldl (fun best t =>
    if t.leading || !t.rest.nullable then best
    else match best with
      | some b => if prefers b t.token then some b else some t.token
      | none => some t.token) none

/-- The threads after a glyph, whether the glyph was white space before the token for all of them,
and the highest priority among them. -/
def threadsAfter (r : Reading) (g : Glyph) : List Thread × Bool × Option Int :=
  r.threads.foldr (fun t acc =>
    let (ts, blank, best) := acc
    let (ts, blank, best) :=
      let d := t.rest.derive g
      if d.isNever then (ts, blank, best)
      else
        let p := (rule t.token).priority
        (⟨t.token, false, d⟩ :: ts, false, some (max p (best.getD p)))
    if t.leading && Grammar.separator.contains g then (t :: ts, blank, some (max 0 (best.getD 0)))
    else (ts, blank, best)) ([], true, none)

/-- Reads a glyph. `none` if no token goes on, or none that is worth giving up the complete one
for. The flag says that the glyph is white space before the token. -/
def step (r : Reading) (g : Glyph) : Option (Reading × Bool) :=
  match r.threadsAfter g with
  | (_, _, none) => none
  | (threads, blank, some priority) =>
    let goOn := match r.complete with
      | none => true
      | some t =>
        let p := (rule t).priority
        if priority < p then false
        else if priority > p then true
        else !blank && (!(r.threads.any (·.leading)) || threads.any fun u => u.token == t)
    if goOn then some (⟨threads, r.mayEnd && blank⟩, blank) else none

/-- Reads on from the cursor; returns the token that was complete last, and where reading
stopped. -/
def run : Nat → Reading → Option Nat → Cursor → Option Nat × Cursor
  | 0, _, best, c => (best, c)
  | n + 1, r, best, c =>
    let (best, c) := match r.complete with
      | some t => (some t, c.mark)
      | none => (best, c)
    if c.glyph = .stop && r.mayEnd then (some Grammar.endSymbol, c.mark)
    else match r.step c.glyph with
      | none => (best, c)
      | some (r, blank) => run n r best (if blank then c.skip else c.take)

end Reading

/-- The readings that the modes start with. -/
def startReadings : Array Reading := (Grammar.lexicalModes.map Reading.start).toArray

/-- Reads a token in the mode of that number. -/
def readToken (mode : Nat) (c : Cursor) : Option Nat × Cursor :=
  (startReadings.getD mode default).run c.budget none c

end ScriptDeps.Parse
