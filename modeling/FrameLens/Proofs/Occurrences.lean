import FrameLens.Code.Occurrence
import FrameLens.Proofs.Offsets

/-!
# Occurrences near a target

Every place that is tried holds the name and is no farther from the target than
the cutoff, whatever the window and the cutoff are.  Whether an occurrence is a
whole identifier can be told at each of them.
-/

namespace FrameLens.Occurrence

open FrameLens.Text (isWordChar)

variable {s : Text} {name : List Char} {hit : Nat}

/-! ## The places that are tried -/

/-- An occurrence that is listed downwards stands where the name does. -/
theorem mem_descending {first count : Nat} (hhit : hit ∈ descending s name first count) :
    first ≤ hit ∧ hit < first + count ∧ Text.occursAt s name hit = true := by
  induction count with
  | zero => simp [descending] at hhit
  | succ count ih =>
      have hrest (h : hit ∈ descending s name first count) :
          first ≤ hit ∧ hit < first + (count + 1) ∧ Text.occursAt s name hit = true := by
        obtain ⟨hle, hlt, hoccurs⟩ := ih h
        exact ⟨hle, by omega, hoccurs⟩
      rw [descending] at hhit
      split at hhit
      · rename_i hoccurs
        rcases List.mem_cons.1 hhit with rfl | hhit
        · exact ⟨by omega, by omega, hoccurs⟩
        · exact hrest hhit
      · exact hrest hhit

/-- An occurrence that is listed upwards stands where the name does. -/
theorem mem_ascending {count covered i : Nat}
    (hhit : hit ∈ ascending s name count covered i) :
    i ≤ hit ∧ hit < i + count ∧ Text.occursAt s name hit = true := by
  induction count generalizing covered i with
  | zero => simp [ascending] at hhit
  | succ count ih =>
      have hrest {covered : Nat} (h : hit ∈ ascending s name count covered (i + 1)) :
          i ≤ hit ∧ hit < i + (count + 1) ∧ Text.occursAt s name hit = true := by
        obtain ⟨hle, hlt, hoccurs⟩ := ih h
        exact ⟨by omega, by omega, hoccurs⟩
      cases covered with
      | succ covered =>
          rw [ascending] at hhit
          exact hrest hhit
      | zero =>
          rw [ascending] at hhit
          split at hhit
          · rename_i hoccurs
            rcases List.mem_cons.1 hhit with rfl | hhit
            · exact ⟨le_refl _, by omega, hoccurs⟩
            · exact hrest hhit
          · exact hrest hhit

/-- An occurrence that is tried is no farther from the target than the cutoff. -/
theorem mem_near {target window cutoff : Int} (hhit : hit ∈ near s name target window cutoff) :
    name ≠ [] ∧ Text.occursAt s name hit = true ∧
      (((hit : Int) - clampTarget s target).natAbs : Int) ≤ cutoff := by
  have htarget : 0 ≤ clampTarget s target := le_max_left _ _
  rw [near] at hhit
  split at hhit
  · simp at hhit
  rename_i hnonempty
  have hname : name ≠ [] := by
    rintro rfl
    simp at hnonempty
  rcases List.mem_append.1 hhit with hbefore | hafter
  · obtain ⟨hle, hlt, hoccurs⟩ := mem_descending hbefore
    exact ⟨hname, hoccurs, by omega⟩
  · obtain ⟨hle, hlt, hoccurs⟩ := mem_ascending hafter
    exact ⟨hname, hoccurs, by omega⟩

/-- Going down, every occurrence is met after those above it. -/
theorem exists_descending_eq {first count : Nat} (hoccurs : Text.occursAt s name hit = true)
    (hfirst : first ≤ hit) (hlast : hit < first + count) :
    ∃ above below, descending s name first count = above ++ hit :: below ∧
      ∀ other ∈ above, hit < other := by
  induction count with
  | zero => omega
  | succ count ih =>
      rw [descending]
      by_cases htop : hit = first + count
      · rw [← htop, if_pos hoccurs]
        exact ⟨[], _, rfl, fun other hother => by cases hother⟩
      · obtain ⟨above, below, heq, habove⟩ := ih (by omega)
        rw [heq]
        split
        · refine ⟨(first + count) :: above, below, rfl, ?_⟩
          exact List.forall_mem_cons.2 ⟨by omega, habove⟩
        · exact ⟨above, below, rfl, habove⟩

/-- An occurrence up to the target that the window and the cutoff reach is tried, and
only those between it and the target are tried before. -/
theorem exists_near_eq {target window cutoff : Int} (hname : name ≠ [])
    (hoccurs : Text.occursAt s name hit = true) (hle : (hit : Int) ≤ target)
    (hlt : target < s.length) (hwindow : target - hit ≤ window)
    (hcutoff : target - hit ≤ cutoff) :
    ∃ closer farther, near s name target window cutoff = closer ++ hit :: farther ∧
      ∀ other ∈ closer, hit < other ∧ (other : Int) ≤ target ∧
        Text.occursAt s name other = true := by
  have hclamp : clampTarget s target = target := by
    rw [clampTarget]
    omega
  have hempty : ¬(name.isEmpty || s.isEmpty) = true := by
    rw [Text.length] at hlt
    simp only [Bool.or_eq_true, List.isEmpty_iff, Array.isEmpty_iff, hname, false_or]
    rintro rfl
    simp at hlt
    omega
  obtain ⟨lowest, count, after, hnear, hlowest, hcount⟩ :
      ∃ (lowest count : Nat) (after : List Nat),
        near s name target window cutoff = descending s name lowest count ++ after ∧
          lowest ≤ hit ∧ ((lowest + count : Nat) : Int) = target + 1 := by
    rw [near, if_neg hempty]
    dsimp only
    rw [hclamp]
    exact ⟨_, _, _, rfl, by omega, by omega⟩
  obtain ⟨closer, farther, heq, hcloser⟩ := exists_descending_eq hoccurs hlowest
    (by omega : hit < lowest + count)
  refine ⟨closer, farther ++ after, ?_, ?_⟩
  · rw [hnear, heq, List.append_assoc]
    rfl
  · intro other hother
    obtain ⟨-, hother_lt, hother_occurs⟩ :=
      mem_descending (heq ▸ List.mem_append_left _ hother)
    exact ⟨hcloser other hother, by omega, hother_occurs⟩

/-! ## Whole identifiers -/

/-- A name stands at a place and is no part of a longer identifier. -/
structure WholeAt (s : Text) (name : List Char) (hit : Nat) : Prop where
  occurs : Text.occursAt s name hit = true
  ends_before : ∀ first ∈ name.head?, isWordChar first = true → 0 < hit →
    ∀ c ∈ s[hit - 1]?, isWordChar c = false
  ends_after : ∀ last ∈ name.getLast?, isWordChar last = true →
    ∀ c ∈ s[hit + name.length]?, isWordChar c = false

/-- A word is a whole identifier exactly if the text around it neither ends nor begins
with a word character. -/
theorem wholeAt_iff_of_toList_eq {before after : List Char}
    (htext : s.toList = before ++ name ++ after) (hname : name ≠ [])
    (hword : ∀ c ∈ name, isWordChar c = true) :
    WholeAt s name before.length ↔
      (∀ c ∈ before.getLast?, isWordChar c = false) ∧
        ∀ c ∈ after.head?, isWordChar c = false := by
  have hfirst := hword _ (List.head_mem hname)
  have hlast := hword _ (List.getLast_mem hname)
  have hbefore (hpos : 0 < before.length) : s[before.length - 1]? = before.getLast? := by
    rw [← Array.getElem?_toList, htext, List.append_assoc,
      List.getElem?_append_left (by omega), List.getLast?_eq_getElem?]
  have hafter : s[before.length + name.length]? = after.head? := by
    rw [← Array.getElem?_toList, htext, ← List.length_append,
      List.getElem?_append_right (le_refl _), Nat.sub_self, List.head?_eq_getElem?]
  constructor
  · rintro ⟨-, hends_before, hends_after⟩
    constructor
    · intro c hc
      have hpos : 0 < before.length := List.length_pos_iff.2 (by rintro rfl; cases hc)
      rw [← hbefore hpos] at hc
      exact hends_before _ (List.head?_eq_some_head hname) hfirst hpos c hc
    · rw [← hafter]
      exact hends_after _ (List.getLast?_eq_some_getLast hname) hlast
  · rintro ⟨hends_before, hends_after⟩
    refine ⟨?_, fun _ _ _ hpos => ?_, fun _ _ _ => ?_⟩
    · rw [Text.occursAt_iff, htext, List.append_assoc, List.drop_left]
      exact List.prefix_append name after
    · rw [hbefore hpos]
      exact hends_before
    · rw [hafter]
      exact hends_after

/-- Whether a word character stands at a place is only asked where there is one. -/
theorem wordAt_ok (test : Prop) [Decidable test] {i : Int} {place : Nat}
    (hplace : test → i = place ∧ place < s.size) :
    ∃ joins : Bool, (joins = false ↔ (test → ∀ c ∈ s[place]?, isWordChar c = false)) ∧
      ∀ f : Bool → Except OutOfRange Bool,
        (if test then wordAt s i >>= f else pure false >>= f) = f joins := by
  by_cases htest : test
  · obtain ⟨rfl, hlt⟩ := hplace htest
    refine ⟨isWordChar s[place], by simp [htest, hlt], ?_⟩
    intro f
    rw [if_pos htest, wordAt, charAt, Text.at?_natCast, Array.getElem?_eq_getElem hlt]
    rfl
  · exact ⟨false, by simp [htest], fun f => if_neg htest⟩

/-- The test for a whole word never fails on an occurrence. -/
theorem isWhole_ok (hname : name ≠ []) (hoccurs : Text.occursAt s name hit = true) :
    ∃ whole, isWhole s hit name = .ok whole ∧ (whole = true ↔ WholeAt s name hit) := by
  have hlength := Text.add_length_le_of_occursAt hname hoccurs
  have hpositive := List.length_pos_iff.2 hname
  have hfirst := List.head?_eq_some_head hname
  have hlast := List.getLast?_eq_some_getLast hname
  have hplace_before (htest : isWordChar (name.head hname) = true ∧ 0 < (hit : Int)) :
      (hit : Int) - 1 = ((hit - 1 : Nat) : Int) ∧ hit - 1 < s.size := by omega
  have hplace_after (htest : isWordChar (name.getLast hname) = true ∧
        (hit : Int) + name.length < s.length) :
      (hit : Int) + name.length = ((hit + name.length : Nat) : Int) ∧
        hit + name.length < s.size := by
    rw [Text.length] at htest
    omega
  obtain ⟨before, hbefore_iff, hbefore⟩ := wordAt_ok _ hplace_before
  obtain ⟨after, hafter_iff, hafter⟩ := wordAt_ok _ hplace_after
  refine ⟨!before && !after, ?_, ?_⟩
  · rw [isWhole, hfirst, hlast]
    dsimp only
    rw [hbefore, hafter]
    cases before <;> rfl
  · rw [Bool.and_eq_true, Bool.not_eq_true', Bool.not_eq_true', hbefore_iff, hafter_iff]
    constructor
    · rintro ⟨hends_before, hends_after⟩
      refine ⟨hoccurs, fun first hmem hword hpos => ?_, fun last hmem hword c hc => ?_⟩
      · obtain rfl : name.head hname = first := by simpa [hfirst] using hmem
        exact hends_before ⟨hword, by omega⟩
      · obtain rfl : name.getLast hname = last := by simpa [hlast] using hmem
        obtain ⟨hlt, -⟩ := Array.getElem?_eq_some_iff.1 hc
        refine hends_after ⟨hword, ?_⟩ c hc
        rw [Text.length]
        omega
    · rintro ⟨-, hends_before, hends_after⟩
      constructor
      · intro htest
        exact hends_before _ hfirst htest.1 (by omega)
      · intro htest
        exact hends_after _ hlast htest.1

theorem isWhole_eq_true_iff (hname : name ≠ []) (hoccurs : Text.occursAt s name hit = true) :
    isWhole s hit name = .ok true ↔ WholeAt s name hit := by
  obtain ⟨whole, hok, hwhole⟩ := isWhole_ok hname hoccurs
  rw [hok, Except.ok.injEq, hwhole]

theorem wholeAt_of_isWhole (hname : name ≠ [])
    (hoccurs : Text.occursAt s name hit = true) (hwhole : isWhole s hit name = .ok true) :
    WholeAt s name hit :=
  (isWhole_eq_true_iff hname hoccurs).1 hwhole

end FrameLens.Occurrence
