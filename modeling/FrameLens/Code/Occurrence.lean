import FrameLens.Text.Offset
import FrameLens.Text.CharClass

/-!
# Occurrences of a name

The places near a target where a name stands in a text: those up to the target from the nearest to
the farthest, then those after it.
-/

namespace FrameLens.Occurrence

open FrameLens.Text (isWordChar)

/-- Those of the `count` positions from `first` on where the name stands, the last one first. -/
def descending (s : Text) (name : List Char) (first : Nat) : Nat → List Nat
  | 0 => []
  | count + 1 =>
    if s.occursAt name (first + count) then (first + count) :: descending s name first count
    else descending s name first count

/-- Those of the `count` positions from `i` on where the name stands and no earlier occurrence
reaches; the next `covered` positions belong to one. -/
def ascending (s : Text) (name : List Char) : Nat → Nat → Nat → List Nat
  | 0, _, _ => []
  | count + 1, covered + 1, i => ascending s name count covered (i + 1)
  | count + 1, 0, i =>
    if s.occursAt name i then i :: ascending s name count (name.length - 1) (i + 1)
    else ascending s name count 0 (i + 1)

def clampTarget (s : Text) (target : Int) : Int :=
  max 0 (min target (s.length - 1))

/-- The occurrences of a name within `window` of the target and no farther from it than `cutoff`,
in the order in which they are tried. -/
def near (s : Text) (name : List Char) (target window cutoff : Int) : List Nat :=
  if name.isEmpty || s.isEmpty then []
  else
    let target := clampTarget s target
    let lowest := max (max 0 (target - window)) (target - cutoff)
    let highest := min (min s.length (target + window) - name.length) (target + cutoff)
    descending s name lowest.toNat (target + 1 - lowest).toNat ++
      ascending s name (highest - target).toNat 0 (target + 1).toNat

/-- The character at an offset that must be there. -/
def charAt (s : Text) (i : Int) : Except OutOfRange Char :=
  match s.at? i with
  | some c => .ok c
  | none => .error .character

/-- Whether a word character stands at an offset that must be there. -/
def wordAt (s : Text) (i : Int) : Except OutOfRange Bool :=
  (charAt s i).map isWordChar

/-- Whether an occurrence of a name is no part of a longer identifier. -/
def isWhole (s : Text) (hit : Int) (name : List Char) : Except OutOfRange Bool :=
  match name.head?, name.getLast? with
  | some first, some last => do
    let after := hit + name.length
    let joinsBefore ← if isWordChar first ∧ 0 < hit then wordAt s (hit - 1) else pure false
    if joinsBefore then return false
    let joinsAfter ← if isWordChar last ∧ after < s.length then wordAt s after else pure false
    return !joinsAfter
  | _, _ => .error .character

end FrameLens.Occurrence
