import FrameLens.Text.Loose

/-!
# Control sequences

A terminal takes an escape character and an opening bracket, then digits, semicolons and question
marks, and then a letter, for a command. What is printed anywhere else has no use for such commands
and leaves them out.
-/

namespace FrameLens.LooseText

/-- The character that opens a control sequence. -/
def escape : Char := '\x1b'

/-- The characters between the opening of a control sequence and its letter. -/
def isParameter (c : Char) : Bool :=
  ('0' ≤ c && c ≤ '9') || c == ';' || c == '?'

/-- The letters that end a control sequence. -/
def isCommand (c : Char) : Bool :=
  ('a' ≤ c && c ≤ 'z') || ('A' ≤ c && c ≤ 'Z')

/-- What follows the control sequence at the start of a text, if there is one. -/
def afterControl? : LooseText → Option LooseText
  | .char first :: .char second :: rest =>
    if first == escape && second == '[' then
      match rest.dropWhile (CodePoint.isChar isParameter) with
      | [] => none
      | last :: rest => if last.isChar isCommand then some rest else none
    else none
  | _ => none

/-- Leaving out a control sequence makes a text shorter. -/
theorem length_of_afterControl? {text rest : LooseText} (h : afterControl? text = some rest) :
    rest.length < text.length := by
  unfold afterControl? at h
  split at h
  · rename_i tail
    split at h
    · split at h
      · simp at h
      · rename_i last left hleft
        split at h
        · obtain rfl := Option.some.inj h
          have hle : (tail.dropWhile (CodePoint.isChar isParameter)).length ≤ tail.length :=
            (List.dropWhile_suffix _).length_le
          rw [hleft] at hle
          simp only [List.length_cons] at hle ⊢
          omega
        · simp at h
    · simp at h
  · simp at h

def withoutControls : LooseText → LooseText
  | [] => []
  | point :: rest =>
    match _ : afterControl? (point :: rest) with
    | some left => withoutControls left
    | none => point :: withoutControls rest
termination_by text => text.length
decreasing_by
  · exact length_of_afterControl? ‹_›
  · exact Nat.lt_succ_self rest.length

end FrameLens.LooseText
