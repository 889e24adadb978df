import FrameLens.Proofs.Settings.Loading

/-!
# Settings that are refused

A field whose value is no integer keeps its default.  Settings are refused for an infinity in an
integer field, which is neither an integer nor passed over, and for a remap with an integer of too
many digits, which no file can hold.  Loading them fails besides where the machine refuses to tell
whether there is anything at a path.
-/

namespace FrameLens

/-! ## Refusals -/

namespace Machine

variable {machine : Machine} {path : LooseText} {fault : FileFault}

end Machine

/-! ## Values that are refused -/

namespace Settings

variable {fields : Json.Fields} {value : Json} {key : String} {default minimum : Int}
  {failure : Failure} {settings : Settings}

/-- A result that is refused, if at all, for an infinity. -/
def RefusesInfinity {α : Type} (result : Except Failure α) : Prop :=
  ∀ failure, result = .error failure → failure = .infiniteNumber

theorem RefusesInfinity.bind {α β : Type} {first : Except Failure α}
    {next : α → Except Failure β} (hfirst : RefusesInfinity first)
    (hnext : ∀ value, RefusesInfinity (next value)) : RefusesInfinity (first >>= next) := by
  cases first with
  | error failure =>
      rintro other hother
      obtain rfl : failure = other := Except.error.inj hother
      exact hfirst failure rfl
  | ok value => exact hnext value

end Settings

/-! ## Loading -/

namespace Config

open Machine Settings

variable {machine : Machine} {settings : Settings} {failure : Failure}

end Config

end FrameLens
