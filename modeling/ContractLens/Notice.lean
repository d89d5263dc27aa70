/-!
# Notices

What the library reports besides its answers: a level, a message and named details. `Noted α` is an
answer with the notices that led to it, in order.
-/

namespace ContractLens

/-- How important a notice is. -/
inductive Notice.Level where
  | trace
  | debug
  | info
  | warn
  | error
deriving DecidableEq, Repr

/-- The upper-case name of a level. -/
def Notice.Level.name : Notice.Level → String
  | .trace => "TRACE"
  | .debug => "DEBUG"
  | .info => "INFO"
  | .warn => "WARN"
  | .error => "ERROR"

/-- A report: its level, its message, and details by name. -/
structure Notice where
  level : Notice.Level
  message : String
  details : List (String × String)
deriving DecidableEq, Repr

/-- An answer and the notices that led to it. -/
structure Noted (α : Type) where
  value : α
  notices : List Notice

namespace Noted

/-- One notice and no answer. -/
def note (n : Notice) : Noted Unit := ⟨(), [n]⟩

instance : Monad Noted where
  pure a := ⟨a, []⟩
  bind m f := ⟨(f m.value).value, m.notices ++ (f m.value).notices⟩

@[simp] theorem value_pure {α : Type} (a : α) : (pure a : Noted α).value = a := rfl

@[simp] theorem notices_pure {α : Type} (a : α) : (pure a : Noted α).notices = [] := rfl

@[simp] theorem value_bind {α β : Type} (m : Noted α) (f : α → Noted β) :
    (m >>= f).value = (f m.value).value := rfl

@[simp] theorem notices_bind {α β : Type} (m : Noted α) (f : α → Noted β) :
    (m >>= f).notices = m.notices ++ (f m.value).notices := rfl

@[simp] theorem value_note (n : Notice) : (note n).value = () := rfl

@[simp] theorem notices_note (n : Notice) : (note n).notices = [n] := rfl

end Noted

end ContractLens
