import FrameLens.Text.Loose

/-!
# Notes

What the program tells about its own working, beside its result: warnings, and details that a user
has to ask for. A note carries the name of the part that made it.
-/

namespace FrameLens

inductive Urgency where
  | detail
  | warning
deriving DecidableEq, Repr

structure Note where
  urgency : Urgency
  origin : String
  message : LooseText
deriving DecidableEq, Repr

/-- A result with the notes that were made on the way to it. -/
structure Noted (α : Type) where
  notes : List Note
  result : α
deriving Repr

namespace Noted

protected def pure (result : α) : Noted α :=
  ⟨[], result⟩

protected def bind (first : Noted α) (next : α → Noted β) : Noted β :=
  let second := next first.result
  ⟨first.notes ++ second.notes, second.result⟩

instance : Monad Noted where
  pure := Noted.pure
  bind := Noted.bind

end Noted

namespace Note

def detail (origin : String) (message : LooseText) : Note := ⟨.detail, origin, message⟩

def warning (origin : String) (message : LooseText) : Note := ⟨.warning, origin, message⟩

/-- A note on one line, with its urgency and origin. -/
def full (note : Note) : LooseText :=
  let urgency :=
    match note.urgency with
    | .detail => "DEBUG"
    | .warning => "WARNING"
  urgency ++ " " ++ note.origin ++ ": " ++ note.message

end Note

end FrameLens
