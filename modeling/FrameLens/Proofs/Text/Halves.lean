import FrameLens.Text.ControlSequence
import Mathlib.Data.List.TakeWhile

/-!
# Texts that hold halves

A text is plain unless it holds a half of a character, with or without its control sequences.
-/

namespace FrameLens

namespace LooseText

variable {text : LooseText}

/-- A text holds a half of a character. -/
def HoldsHalf (text : LooseText) : Prop :=
  ∃ place, CodePoint.half place ∈ text

instance : Decidable text.HoldsHalf :=
  decidable_of_iff (text.any CodePoint.isHalf = true) (by
    rw [List.any_eq_true]
    refine ⟨fun ⟨point, hmem, hhalf⟩ => ?_, fun ⟨place, hmem⟩ => ⟨_, hmem, rfl⟩⟩
    cases point with
    | char c => cases hhalf
    | half place => exact ⟨place, hmem⟩)

theorem half_mem_of_afterControl? {rest : LooseText} {place : Fin 0x800}
    (hcontrol : afterControl? text = some rest) :
    CodePoint.half place ∈ rest ↔ CodePoint.half place ∈ text := by
  unfold afterControl? at hcontrol
  split at hcontrol
  · rename_i first second tail
    split at hcontrol
    · have hparameters : CodePoint.half place ∉ tail.takeWhile (CodePoint.isChar isParameter) :=
        fun hmem => Bool.false_ne_true (List.mem_takeWhile_imp hmem)
      have htail := List.takeWhile_append_dropWhile (p := CodePoint.isChar isParameter) (l := tail)
      split at hcontrol
      · cases hcontrol
      · rename_i last left hleft
        split at hcontrol
        · rename_i hlast
          cases hcontrol
          have hne : CodePoint.half place ≠ last := by
            rintro rfl
            cases hlast
          rw [hleft] at htail
          rw [← htail]
          simp [hparameters, hne]
        · cases hcontrol
    · cases hcontrol
  · cases hcontrol

/-- No control sequence holds a half. -/
theorem half_mem_withoutControls (place : Fin 0x800) (text : LooseText) :
    CodePoint.half place ∈ text.withoutControls ↔ CodePoint.half place ∈ text := by
  induction text using withoutControls.induct with
  | case1 => rw [withoutControls]
  | case2 point rest left hcontrol ih =>
      rw [withoutControls]
      split
      · next other hother =>
          obtain rfl : left = other := Option.some.inj (hcontrol.symm.trans hother)
          exact ih.trans (half_mem_of_afterControl? hcontrol)
      · next hnone => cases hcontrol.symm.trans hnone
  | case3 point rest hcontrol ih =>
      rw [withoutControls]
      split
      · next other hother => cases hcontrol.symm.trans hother
      · rw [List.mem_cons, List.mem_cons, ih]

/-- Leaving out control sequences leaves every half. -/
theorem holdsHalf_withoutControls : text.withoutControls.HoldsHalf ↔ text.HoldsHalf :=
  exists_congr fun place => half_mem_withoutControls place text

theorem plain_cons_char (c : Char) (rest : LooseText) :
    plain (.char c :: rest) =
      match plain rest with
      | .ok chars => .ok (c :: chars)
      | .error halves => .error { halves with position := halves.position + 1 } := by
  simp only [plain, List.takeWhile_cons, CodePoint.isHalf, Bool.not_false, if_true,
    List.length_cons, List.drop_succ_cons]
  split
  · rfl
  · rfl

/-- A text is plain unless it holds a half. -/
theorem plain_cases (text : LooseText) :
    (¬ text.HoldsHalf ∧ ∃ chars, text.plain = .ok chars) ∨
      (text.HoldsHalf ∧ ∃ halves, text.plain = .error halves) := by
  induction text with
  | nil => exact .inl ⟨by simp [HoldsHalf], [], rfl⟩
  | cons point rest ih =>
      cases point with
      | half place => exact .inr ⟨⟨place, List.mem_cons_self⟩, _, rfl⟩
      | char c =>
          have hholds : HoldsHalf (.char c :: rest) ↔ HoldsHalf rest := by simp [HoldsHalf]
          rw [plain_cons_char, hholds]
          obtain ⟨hnone, chars, hplain⟩ | ⟨hsome, halves, hplain⟩ := ih
          · exact .inl ⟨hnone, c :: chars, by rw [hplain]⟩
          · exact .inr ⟨hsome, _, by rw [hplain]⟩

end LooseText

end FrameLens
