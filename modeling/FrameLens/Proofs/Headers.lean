import FrameLens.Code.Header
import FrameLens.Proofs.Nesting.Partners

/-!
# Headers can always be read

The walk back from a brace and the look at what stands before a group stay
inside the text, so that every brace of a text has a header and a place where
that header begins.
-/

namespace FrameLens

namespace Header

variable {s : Text}

theorem lastOther?_lt {p : Char → Bool} {count : Nat} {last : Nat × Char}
    (hlast : lastOther? s p count = some last) : last.1 < count := by
  induction count with
  | zero => simp [lastOther?] at hlast
  | succ count ih =>
      rw [lastOther?] at hlast
      split at hlast
      · simp at hlast
      split at hlast
      · have := ih hlast
        omega
      · obtain rfl : (count, _) = last := by simpa using hlast
        exact Nat.lt_succ_self count

theorem lastBefore?_of_le {i : Int} (hi : i ≤ s.length) (p : Char → Bool) :
    lastBefore? s p i = .ok (lastOther? s p i.toNat) := by
  rw [lastBefore?, if_neg (by omega)]

/-- The test for the value of a member never fails. -/
theorem isBraceInitializer_ok {first : Int} (hfirst : first ≤ s.length) (last : Int) :
    ∃ answer, isBraceInitializer s first last = .ok answer := by
  rw [isBraceInitializer]
  dsimp only
  split
  · exact ⟨false, rfl⟩
  · rw [lastBefore?_of_le hfirst]
    exact ⟨_, rfl⟩

/-- The walk back to a boundary never fails. -/
theorem boundaryWithin_ok (braceInitializers : Bool) {floor : Int} (hfloor : 0 ≤ floor)
    (count : Nat) {i : Int} (hi : i < s.length) :
    ∃ boundary, boundaryWithin s braceInitializers floor count i = .ok boundary := by
  induction count generalizing i with
  | zero => exact ⟨i, rfl⟩
  | succ count ih =>
      rw [boundaryWithin]
      split
      · exact ⟨i, rfl⟩
      obtain ⟨c, hc⟩ := Text.exists_at? (s := s) (by omega : 0 ≤ i) hi
      rw [hc]
      dsimp only
      split
      · exact ⟨i, rfl⟩
      split
      · obtain ⟨first, hback, hbounds⟩ := Text.matchingBraceBack_ok hi floor
        rw [hback, OutOfRange.ok_bind]
        cases first with
        | none => exact ⟨i, rfl⟩
        | some first =>
            have hfirst := hbounds first rfl
            cases braceInitializers with
            | false => exact ⟨i, rfl⟩
            | true =>
                have hfirst_le : first ≤ s.length := by omega
                obtain ⟨answer, hanswer⟩ := isBraceInitializer_ok hfirst_le i
                simp only [if_true, hanswer, OutOfRange.ok_bind]
                split
                · exact ih (by omega)
                · exact ⟨i, rfl⟩
      · exact ih (by omega)

/-- Every brace has a header. -/
theorem before_ok {brace : Int} (hbrace : brace ≤ s.length)
    (maxChars maxLines : Int) (braceInitializers : Bool) :
    ∃ header, before s brace maxChars maxLines braceInitializers = .ok header := by
  obtain ⟨boundary, hboundary⟩ := boundaryWithin_ok (s := s) braceInitializers
    (le_max_left 0 (brace - maxChars)) (brace - max 0 (brace - maxChars)).toNat
    (i := brace - 1) (by omega)
  rw [before, Header.boundary, hboundary]
  exact ⟨_, rfl⟩

/-- A header is looked for from a place at its brace or before it. -/
theorem anchor_ok {brace : Int} (hbrace : 0 ≤ brace) (hle : brace ≤ s.length) :
    ∃ place, anchor s brace = .ok place ∧ 0 ≤ place ∧ place ≤ brace := by
  rw [anchor, lastBefore?_of_le hle]
  cases hlast : lastOther? s Text.isBlank brace.toNat with
  | none => exact ⟨brace, rfl, hbrace, le_refl _⟩
  | some last =>
      obtain ⟨i, c⟩ := last
      have hlt : i < brace.toNat := lastOther?_lt hlast
      refine ⟨_, rfl, ?_⟩
      dsimp only
      split <;> omega

end Header

end FrameLens
