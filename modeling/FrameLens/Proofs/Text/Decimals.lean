import FrameLens.Proofs.Pieces
import FrameLens.Proofs.Text.Trimming
import FrameLens.Text.Integer
import Mathlib.Algebra.Group.Nat.Defs

/-!
# Decimal numbers

A run of decimal digits of any script is read as the number that it stands for, as long
as it has no more digits than a number may have, and the digits that are written for a
number are read back as that number.
-/

namespace FrameLens.Text

variable {c : Char} {digits : List Char}

/-! ## Digits -/

theorem decimal_within_numeric : ∀ start ∈ decimalZeros, ∃ range ∈ numericRanges,
    range.1 ≤ start ∧ start + 9 ≤ range.2 := by
  decide +kernel

theorem isWordChar_of_isDecimal (hc : isDecimal c = true) : isWordChar c = true := by
  have hnumeric : isNumeric c = true := by
    rw [isDecimal, decimalValue?] at hc
    rw [isNumeric]
    by_cases hascii : c.toNat < 0x80
    · rw [if_pos hascii] at hc ⊢
      by_contra hno
      simp [hno] at hc
    · rw [if_neg hascii, Option.isSome_map, List.find?_isSome] at hc
      obtain ⟨start, hstart, hbounds⟩ := hc
      obtain ⟨range, hrange, hlower, hupper⟩ := decimal_within_numeric start hstart
      simp only [Bool.and_eq_true, decide_eq_true_eq] at hbounds
      simp only [if_neg hascii, inRanges, List.any_eq_true, Bool.and_eq_true, decide_eq_true_eq]
      exact ⟨range, hrange, hlower.trans hbounds.1, hbounds.2.trans hupper⟩
  rw [isWordChar, isAlphanumeric, hnumeric, Bool.or_true, Bool.true_or]

theorem isBlank_of_isDecimal (hc : isDecimal c = true) : isBlank c = false :=
  isBlank_of_isWordChar (isWordChar_of_isDecimal hc)

theorem ne_of_isDecimal {other : Char} (hc : isDecimal c = true)
    (hother : isDecimal other = false) : c ≠ other := by
  rintro rfl
  rw [hc] at hother
  cases hother

/-- The value of an ASCII digit. -/
theorem decimalValue?_of_isDigit (hc : c.isDigit = true) :
    decimalValue? c = some (c.toNat - 0x30) := by
  simp only [Char.isDigit, Bool.and_eq_true, decide_eq_true_eq] at hc
  have hlower : '0' ≤ c := hc.1
  have hupper : c ≤ '9' := hc.2
  have hascii : c.toNat < 0x80 := lt_of_le_of_lt (UInt32.le_iff_toNat_le.1 hc.2) (by decide)
  rw [decimalValue?, if_pos hascii, if_pos (by simp [hlower, hupper])]

/-! ## Reading -/

/-- The number that decimal digits stand for. -/
def decimalNumber (digits : List Char) : Nat :=
  digits.foldl (fun value c => 10 * value + (decimalValue? c).getD 0) 0

/-- Zeros in front of a number do not count. -/
theorem decimalNumber_zeros_append (n : Nat) (digits : List Char) :
    decimalNumber (List.replicate n '0' ++ digits) = decimalNumber digits := by
  induction n with
  | zero => rfl
  | succ n ih =>
      rw [← ih, List.replicate_succ, List.cons_append]
      rfl

/-- Digits are read as the number that they stand for. -/
theorem readDigits_of_decimal {value : Nat} {afterDigit : Bool}
    (hdigits : ∀ c ∈ digits, isDecimal c = true) (hstart : digits ≠ [] ∨ afterDigit = true) :
    readDigits value afterDigit digits =
      some (digits.foldl (fun value c => 10 * value + (decimalValue? c).getD 0) value) := by
  induction digits generalizing value afterDigit with
  | nil =>
      obtain hne | rfl := hstart
      · exact absurd rfl hne
      · rfl
  | cons c digits ih =>
      obtain ⟨hc, hdigits⟩ := List.forall_mem_cons.1 hdigits
      obtain ⟨digit, hdigit⟩ := Option.isSome_iff_exists.1 hc
      rw [readDigits, if_neg (ne_of_isDecimal hc (by decide)), hdigit]
      dsimp only
      rw [ih hdigits (.inr rfl), List.foldl_cons, hdigit, Option.getD_some]

/-- Digits are read as their number, unless there are too many. -/
theorem parseInt?_of_decimal (hne : digits ≠ []) (hdigits : ∀ c ∈ digits, isDecimal c = true) :
    parseInt? digits =
      if digits.length ≤ maxIntegerDigits then some (decimalNumber digits : Int) else none := by
  have hpadding : ∀ c ∈ digits, isNumberPadding c = false := fun c hc => by
    rw [isNumberPadding, isBlank_of_isDecimal (hdigits c hc), Bool.false_and]
  have hleft : digits.dropWhile isNumberPadding = digits :=
    dropWhile_eq_iff.2 ⟨[], rfl, nofun, fun c hc => hpadding c (List.mem_of_mem_head? hc)⟩
  have hright : List.rdropWhile isNumberPadding digits = digits :=
    rdropWhile_eq_self fun c hc => hpadding c (List.mem_of_getLast? hc)
  have hfilter : digits.filter (· != '_') = digits :=
    List.filter_eq_self.2 fun c hc => by
      simpa using ne_of_isDecimal (hdigits c hc) (by decide)
  have hparse : parseNat? digits =
      if digits.length ≤ maxIntegerDigits then some (decimalNumber digits) else none := by
    rw [parseNat?, hfilter, readDigits_of_decimal hdigits (.inl hne), decimalNumber]
  rw [parseInt?, hleft]
  rw [List.rdropWhile] at hright
  rw [hright]
  obtain ⟨first, rest, rfl⟩ := List.exists_cons_of_ne_nil hne
  have hfirst := hdigits first List.mem_cons_self
  have hminus : first ≠ '-' := ne_of_isDecimal hfirst (by decide)
  have hplus : first ≠ '+' := ne_of_isDecimal hfirst (by decide)
  split
  · rename_i heq
    exact absurd (List.cons.inj heq).1 hminus
  · rename_i heq
    exact absurd (List.cons.inj heq).1 hplus
  · rw [hparse]
    split
    · rfl
    · rfl

theorem decimalValue?_le {digit : Nat} (hdigit : decimalValue? c = some digit) : digit ≤ 9 := by
  unfold decimalValue? at hdigit
  split at hdigit
  · split at hdigit
    · rename_i hbounds
      rw [Bool.and_eq_true, decide_eq_true_eq, decide_eq_true_eq] at hbounds
      have hupper : c.toNat ≤ 0x39 := hbounds.2
      cases hdigit
      omega
    · cases hdigit
  · obtain ⟨start, hstart, rfl⟩ := Option.map_eq_some_iff.1 hdigit
    have hbounds := List.find?_some hstart
    rw [Bool.and_eq_true, decide_eq_true_eq, decide_eq_true_eq] at hbounds
    omega

/-- One more digit is one more power of ten. -/
theorem succ_mul_pow_le {digit : Nat} (hdigit : digit ≤ 9) (value count : Nat) :
    (10 * value + digit + 1) * 10 ^ count ≤ (value + 1) * 10 ^ (count + 1) := by
  calc
    (10 * value + digit + 1) * 10 ^ count ≤ (value + 1) * 10 * 10 ^ count :=
      Nat.mul_le_mul_right _ (by omega)
    _ = (value + 1) * 10 ^ (count + 1) := by rw [Nat.mul_assoc, Nat.pow_succ, Nat.mul_comm 10]

/-- A number is below the power of ten of its digits. -/
theorem readDigits_lt {value n : Nat} {afterDigit : Bool} {text : List Char}
    (hread : readDigits value afterDigit text = some n) :
    n < (value + 1) * 10 ^ (text.filter (· != '_')).length := by
  induction text generalizing value afterDigit with
  | nil =>
      rw [readDigits] at hread
      split at hread
      · cases hread
        simp
      · cases hread
  | cons c text ih =>
      rw [readDigits] at hread
      by_cases hc : c = '_'
      · rw [if_pos hc] at hread
        split at hread
        · rw [List.filter_cons_of_neg (by simp [hc])]
          exact ih hread
        · cases hread
      · rw [if_neg hc] at hread
        rw [List.filter_cons_of_pos (by simpa using hc), List.length_cons]
        cases hdigit : decimalValue? c with
        | none =>
            rw [hdigit] at hread
            cases hread
        | some digit =>
            rw [hdigit] at hread
            exact Nat.lt_of_lt_of_le (ih hread) (succ_mul_pow_le (decimalValue?_le hdigit) value _)

/-- No number of too many digits is read. -/
theorem parseInt?_natAbs_lt {text : List Char} {value : Int} (hread : parseInt? text = some value) :
    value.natAbs < 10 ^ maxIntegerDigits := by
  have hnat {digits : List Char} {n : Nat} (hdigits : parseNat? digits = some n) :
      n < 10 ^ maxIntegerDigits := by
    unfold parseNat? at hdigits
    split at hdigits
    · rename_i hlength
      have hlt := readDigits_lt hdigits
      rw [Nat.zero_add, Nat.one_mul] at hlt
      exact Nat.lt_of_lt_of_le hlt (Nat.pow_le_pow_right (by decide) hlength)
    · cases hdigits
  unfold parseInt? at hread
  dsimp only at hread
  split at hread
  · obtain ⟨n, hdigits, rfl⟩ := Option.map_eq_some_iff.1 hread
    rw [Int.natAbs_neg]
    exact hnat hdigits
  · obtain ⟨n, hdigits, rfl⟩ := Option.map_eq_some_iff.1 hread
    exact hnat hdigits
  · obtain ⟨n, hdigits, rfl⟩ := Option.map_eq_some_iff.1 hread
    exact hnat hdigits

/-! ## Writing -/

theorem isDigit_of_mem_natDigits {n : Nat} (hc : c ∈ natDigits n) : c.isDigit = true :=
  Nat.isDigit_of_mem_toDigits (by decide) (by decide) hc

theorem isDecimal_of_mem_natDigits {n : Nat} (hc : c ∈ natDigits n) : isDecimal c = true := by
  rw [isDecimal, decimalValue?_of_isDigit (isDigit_of_mem_natDigits hc)]
  rfl

theorem newline_not_mem_natDigits (n : Nat) : '\n' ∉ natDigits n := by
  intro hmem
  cases isDigit_of_mem_natDigits hmem

theorem natDigits_ne_nil (n : Nat) : natDigits n ≠ [] :=
  Nat.toDigits_ne_nil

/-- The digits of a number stand for it. -/
theorem decimalNumber_natDigits (n : Nat) : decimalNumber (natDigits n) = n := by
  have hdigits : decimalNumber (natDigits n) = Nat.ofDigitChars 10 (natDigits n) 0 := by
    rw [decimalNumber, Nat.ofDigitChars_eq_foldl]
    refine List.foldl_ext _ _ _ fun value c hc => ?_
    rw [decimalValue?_of_isDigit (isDigit_of_mem_natDigits hc)]
    rfl
  rw [hdigits]
  exact Nat.ofDigitChars_ten_toDigits

/-- The bound on the number of digits as a bound on the number. -/
theorem length_natDigits_le_iff {n : Nat} :
    (natDigits n).length ≤ maxIntegerDigits ↔ n < 10 ^ maxIntegerDigits :=
  Nat.length_toDigits_le_iff (by decide) (by decide)

/-- What is written for a number is read as that number, unless it is too long. -/
theorem parseInt?_natDigits {n : Nat} (hn : n < 10 ^ maxIntegerDigits) :
    parseInt? (natDigits n) = some (n : Int) := by
  rw [parseInt?_of_decimal (natDigits_ne_nil n) fun _ => isDecimal_of_mem_natDigits,
    if_pos (length_natDigits_le_iff.2 hn), decimalNumber_natDigits]

end FrameLens.Text
