import ScriptDeps.Text.Basic

namespace ScriptDeps

/-! # Log records

What a computation has to tell is part of its result: the records come in the order in which they
were noted.
-/

namespace Log

/-- The levels that have names. -/
inductive Level where
  | debug
  | info
  | warning
  | error
  | critical
deriving DecidableEq, Repr

/-- The number of a level; a higher one is more urgent. -/
def Level.number : Level → Int
  | debug => 10
  | info => 20
  | warning => 30
  | error => 40
  | critical => 50

/-- The name of a level. -/
def Level.name : Level → String
  | debug => "DEBUG"
  | info => "INFO"
  | warning => "WARNING"
  | error => "ERROR"
  | critical => "CRITICAL"

/-- The levels, the least urgent first. -/
def Level.all : List Level := [debug, info, warning, error, critical]

/-- Something that a component of the program tells. -/
structure Record where
  component : Text
  level : Int
  message : Text
deriving DecidableEq, Repr

end Log

/-- A value and the records that were noted on the way to it. -/
structure Logged (α : Type) where
  value : α
  records : List Log.Record := []

namespace Logged

instance : Monad Logged where
  pure a := ⟨a, []⟩
  bind x f :=
    let y := f x.value
    ⟨y.value, x.records ++ y.records⟩

@[simp] theorem pure_value {α : Type} (a : α) : (pure a : Logged α).value = a := rfl

@[simp] theorem bind_value {α β : Type} (x : Logged α) (f : α → Logged β) :
    (x >>= f).value = (f x.value).value := rfl

/-- Notes a record. -/
def note (level : Log.Level) (component message : Text) : Logged Unit :=
  ⟨(), [⟨component, level.number, message⟩]⟩

end Logged

end ScriptDeps
