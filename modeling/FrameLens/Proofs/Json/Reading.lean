import FrameLens.Proofs.Json.Values
import FrameLens.Proofs.Number.Magnitude

/-!
# What is read can be kept

A value that was read from a text has no key twice, no integer of too many digits, and
no text whose halves would join: it can be written to a file and read again.
-/

namespace FrameLens.Json

variable {digits text rest : List Char} {value : Json} {depth : Nat}

/-! ## Numbers -/

theorem isDigit_of_spanDigits (hspan : spanDigits text = (digits, rest)) :
    ∀ c ∈ digits, isDigit c = true := by
  rw [spanDigits, List.span_eq_takeWhile_dropWhile] at hspan
  obtain rfl := congrArg Prod.fst hspan
  exact fun c hc => List.mem_takeWhile_imp hc

theorem isDigit_of_readWhole? (hread : readWhole? text = some (digits, rest)) :
    ∀ c ∈ digits, isDigit c = true := by
  unfold readWhole? at hread
  split at hread
  · cases hread
    simp; rfl
  · split at hread
    · cases hread
    · rename_i hspan
      cases hread
      exact isDigit_of_spanDigits hspan

/-- Digits stand for a number below the power of ten of their number. -/
theorem digitsValue_lt (hdigits : ∀ c ∈ digits, isDigit c = true) :
    digitsValue digits < 10 ^ digits.length := by
  have hfrom (start : Nat) :
      digits.foldl (fun value c => 10 * value + (c.toNat - 0x30)) start <
        (start + 1) * 10 ^ digits.length := by
    induction digits generalizing start with
    | nil => simp
    | cons c digits ih =>
        rw [List.forall_mem_cons] at hdigits
        have hc : c.toNat ≤ 0x39 := by
          have hdigit := hdigits.1
          rw [isDigit, Bool.and_eq_true, decide_eq_true_eq, decide_eq_true_eq] at hdigit
          exact hdigit.2
        exact Nat.lt_of_lt_of_le (ih hdigits.2 _) (Text.succ_mul_pow_le (by omega) start _)
  have hzero := hfrom 0
  rwa [Nat.zero_add, Nat.one_mul] at hzero

/-- A number that is read has no more digits than can be written. -/
theorem isStorable_of_readMagnitude {negative : Bool}
    (hread : readMagnitude negative text = some (value, rest)) : IsStorable value := by
  unfold readMagnitude at hread
  obtain ⟨⟨whole, afterWhole⟩, hwhole, hread⟩ := Option.bind_eq_some_iff.1 hread
  dsimp only at hread
  split at hread
  · split at hread
    · cases hread
    · rename_i hlength
      cases hread
      have hvalue := Nat.lt_of_lt_of_le (digitsValue_lt (isDigit_of_readWhole? hwhole))
        (Nat.pow_le_pow_right (by decide) (Nat.not_lt.1 hlength))
      refine .int ?_
      split
      · rwa [Int.natAbs_neg]
      · exact hvalue
  · cases hread
    exact .real (Binary64.truncate?_ofDecimal_lt _ _ _)

/-- A value without parts that is read can be written again. -/
theorem isStorable_of_readAtom (hread : readAtom text = some (value, rest)) : IsStorable value := by
  unfold readAtom at hread
  split at hread
  · cases hread
    exact .null
  · cases hread
    exact .bool true
  · cases hread
    exact .bool false
  · cases hread
    exact .real nofun
  · cases hread
    exact .real nofun
  · cases hread
    exact .real nofun
  · exact isStorable_of_readMagnitude hread
  · exact isStorable_of_readMagnitude hread

/-! ## Values -/

/-- A string that is read holds no halves that would be one character. -/
theorem isWhole_of_readString {string : LooseText} (hread : readString text = some (string, rest)) :
    string.IsWhole := by
  obtain ⟨⟨units, after⟩, -, hstring⟩ := Option.map_eq_some_iff.1 hread
  cases hstring
  exact isWhole_joinUnits units

/-- What the readers with `depth` parts allowed give can be kept in a file. -/
structure ReadsStorable (depth : Nat) : Prop where
  value : ∀ {text value rest}, readValue depth text = some (value, rest) → IsStorable value
  items : ∀ {text items rest}, readItems depth text = some (items, rest) →
    ∀ item ∈ items, IsStorable item
  fields : ∀ {done text fields rest}, IsStorable (object done) →
    readFields depth done text = some (fields, rest) → IsStorable (object fields)

/-- A value that is read can be written again if its parts can. -/
theorem ReadsStorable.value_succ (hdepth : ReadsStorable depth)
    (hread : readValue (depth + 1) text = some (value, rest)) : IsStorable value := by
  unfold readValue at hread
  split at hread
  · cases ‹depth + 1 = 0›
  · obtain ⟨⟨string, after⟩, hstring, hvalue⟩ := Option.map_eq_some_iff.1 hread
    cases hvalue
    exact .string (isWhole_of_readString hstring)
  · cases ‹depth + 1 = _›
    split at hread
    · cases hread
      exact .array nofun
    · obtain ⟨⟨items, after⟩, hitems, hvalue⟩ := Option.map_eq_some_iff.1 hread
      cases hvalue
      exact .array (hdepth.items hitems)
  · cases ‹depth + 1 = _›
    split at hread
    · cases hread
      exact isStorable_noFields
    · obtain ⟨⟨fields, after⟩, hfields, hvalue⟩ := Option.map_eq_some_iff.1 hread
      cases hvalue
      exact hdepth.fields isStorable_noFields hfields
  · exact isStorable_of_readAtom hread

theorem ReadsStorable.items_succ (hdepth : ReadsStorable depth) {items : List Json}
    (hread : readItems (depth + 1) text = some (items, rest)) :
    ∀ item ∈ items, IsStorable item := by
  unfold readItems at hread
  obtain ⟨⟨item, after⟩, hitem, hread⟩ := Option.bind_eq_some_iff.1 hread
  have hstorable := hdepth.value hitem
  dsimp only at hread
  split at hread
  · cases hread
    exact List.forall_mem_singleton.2 hstorable
  · obtain ⟨⟨others, afterOthers⟩, hothers, hread⟩ := Option.bind_eq_some_iff.1 hread
    cases hread
    exact List.forall_mem_cons.2 ⟨hstorable, hdepth.items hothers⟩
  · cases hread

theorem ReadsStorable.fields_succ (hdepth : ReadsStorable depth) {done fields : Fields}
    (hdone : IsStorable (object done))
    (hread : readFields (depth + 1) done text = some (fields, rest)) :
    IsStorable (object fields) := by
  unfold readFields at hread
  split at hread
  · cases ‹depth + 1 = 0›
  · cases ‹depth + 1 = _›
    obtain ⟨⟨key, after⟩, hkey, hread⟩ := Option.bind_eq_some_iff.1 hread
    dsimp only at hread
    split at hread
    · obtain ⟨⟨value, afterValue⟩, hvalue, hread⟩ := Option.bind_eq_some_iff.1 hread
      have hstorable := hdone.insert (isWhole_of_readString hkey) (hdepth.value hvalue)
      dsimp only at hread
      split at hread
      · cases hread
        exact hstorable
      · exact hdepth.fields hstorable hread
      · cases hread
    · cases hread
  · cases hread

/-- Whatever is read can be written again. -/
theorem readsStorable (depth : Nat) : ReadsStorable depth := by
  induction depth with
  | zero =>
      refine ⟨fun hread => ?_, fun hread => ?_, fun _ hread => ?_⟩
      · cases hread
      · cases hread
      · cases hread
  | succ depth ih => exact ⟨ih.value_succ, ih.items_succ, ih.fields_succ⟩

/-- A value that is read from a text can be kept in a file. -/
theorem isStorable_of_read? (hread : read? text = some value) : IsStorable value := by
  unfold read? at hread
  split at hread
  · rename_i hvalue
    split at hread
    · cases hread
      exact (readsStorable _).value hvalue
    · cases hread
  · cases hread

end FrameLens.Json
