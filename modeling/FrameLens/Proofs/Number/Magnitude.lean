import FrameLens.Number.Binary64
import FrameLens.Text.Integer
import Mathlib.Algebra.Group.Nat.Defs
import Mathlib.Order.Basic

/-!
# The magnitude of a number that was read

The nearest number to a quotient is at most one unit of its grid away, so that the
integer part of a decimal has no more digits than a written integer may have.
-/

namespace FrameLens.Binary64

variable {num den bound mantissa : Nat} {exponent : Int} {negative : Bool}

/-! ## Rounding -/

/-- Rounding adds one at most. -/
theorem roundQuotient_le (num den : Nat) : roundQuotient num den ≤ num / den + 1 := by
  unfold roundQuotient
  dsimp only
  split
  · exact Nat.le_succ _
  split
  · exact Nat.le_refl _
  split
  · exact Nat.le_succ _
  · exact Nat.le_refl _

theorem powerOfTen_eq_pow (n : Nat) : powerOfTen n = 10 ^ n :=
  rfl

theorem powerOfTwo_pos (n : Nat) : 0 < powerOfTwo n :=
  Nat.pow_pos (by decide)

theorem powerOfTwo_le {m n : Nat} (hle : m ≤ n) : powerOfTwo m ≤ powerOfTwo n :=
  Nat.pow_le_pow_right (by decide) hle

/-- The magnitude of a finite number without its fraction. -/
def wholeMagnitude (mantissa : Nat) (exponent : Int) : Nat :=
  mantissa * powerOfTwo exponent.toNat / powerOfTwo (-exponent).toNat

/-- On a coarse grid a quotient grows by at most one unit, and on a fine one its integer
part by at most one. -/
theorem wholeMagnitude_scaledQuotient_le (hnum : num < bound * den) (exponent : Int) :
    wholeMagnitude (scaledQuotient num den exponent) exponent ≤
      bound + powerOfTwo exponent.toNat := by
  unfold wholeMagnitude scaledQuotient
  rcases Int.le_total 0 exponent with hcoarse | hfine
  · have hunit : powerOfTwo (-exponent).toNat = 1 := by
      rw [Int.toNat_of_nonpos (by omega)]
      rfl
    have hquotient : num / den < bound := Nat.div_lt_of_lt_mul (by rwa [Nat.mul_comm])
    rw [hunit, Nat.mul_one, Nat.div_one]
    generalize powerOfTwo exponent.toNat = unit
    calc
      roundQuotient num (den * unit) * unit
        ≤ (num / (den * unit) + 1) * unit :=
          Nat.mul_le_mul_right unit (roundQuotient_le num (den * unit))
      _ = num / den / unit * unit + unit := by
          rw [Nat.add_mul, Nat.one_mul, Nat.div_div_eq_div_mul]
      _ ≤ num / den + unit := Nat.add_le_add_right (Nat.div_mul_le_self (num / den) unit) unit
      _ ≤ bound + unit := Nat.add_le_add_right (Nat.le_of_lt hquotient) unit
  · have hunit : powerOfTwo exponent.toNat = 1 := by
      rw [Int.toNat_of_nonpos hfine]
      rfl
    have hpos := powerOfTwo_pos (-exponent).toNat
    rw [hunit, Nat.mul_one, Nat.mul_one]
    generalize powerOfTwo (-exponent).toNat = steps at hpos
    have hscaled : num * steps < den * (bound * steps) := by
      calc
        num * steps < bound * den * steps := Nat.mul_lt_mul_of_pos_right hnum hpos
        _ = den * (bound * steps) := by rw [Nat.mul_comm bound den, Nat.mul_assoc]
    have hround : roundQuotient (num * steps) den ≤ steps * bound := by
      rw [Nat.mul_comm steps]
      exact Nat.le_trans (roundQuotient_le (num * steps) den) (Nat.div_lt_of_lt_mul hscaled)
    exact Nat.le_trans (Nat.div_le_of_le_mul hround) (Nat.le_succ bound)

/-! ## Numbers that were read -/

theorem truncate?_finite (negative : Bool) (mantissa : Nat) (exponent : Int) :
    ∀ whole ∈ (finite negative mantissa exponent).truncate?,
      whole.natAbs = wholeMagnitude mantissa exponent := by
  rintro whole ⟨⟩
  cases negative with
  | true => exact Int.natAbs_neg _
  | false => rfl

theorem wholeMagnitude_zero (exponent : Int) : wholeMagnitude 0 exponent = 0 := by
  rw [wholeMagnitude, Nat.zero_mul, Nat.zero_div]

theorem wholeMagnitude_le (mantissa : Nat) (exponent : Int) :
    wholeMagnitude mantissa exponent ≤ mantissa * powerOfTwo exponent.toNat :=
  Nat.div_le_self _ _

/-- The greatest number of full length. -/
def maxMagnitude : Nat :=
  powerOfTwo (mantissaBits - 1) * powerOfTwo maxExponent.toNat

theorem truncate?_unless_infinite_le {limit : Nat}
    (hlimit : exponent ≤ maxExponent → wholeMagnitude mantissa exponent ≤ limit) :
    ∀ whole ∈ (if maxExponent < exponent then infinite negative
        else finite negative mantissa exponent).truncate?,
      whole.natAbs ≤ limit := by
  intro whole hwhole
  split at hwhole
  · cases hwhole
  · rename_i hmax
    rw [truncate?_finite negative mantissa exponent whole hwhole]
    exact hlimit (Int.not_lt.1 hmax)

/-- The integer part of a rounded quotient is bounded if the quotient is. -/
theorem truncate?_ofQuotient_le (hnum : num < bound * den) :
    ∀ whole ∈ (ofQuotient negative num den).truncate?,
      whole.natAbs ≤ bound + maxMagnitude := by
  have hunit {exponent : Int} (hmax : exponent ≤ maxExponent) :
      powerOfTwo exponent.toNat ≤ powerOfTwo maxExponent.toNat :=
    powerOfTwo_le (Int.toNat_le_toNat hmax)
  by_cases hzero : num = 0
  · intro whole hwhole
    rw [ofQuotient, if_pos hzero] at hwhole
    rw [truncate?_finite negative 0 minExponent whole hwhole, wholeMagnitude_zero]
    exact Nat.zero_le _
  rw [ofQuotient, if_neg hzero]
  dsimp only
  by_cases hfull : scaledQuotient num den (exponentOf num den) = powerOfTwo mantissaBits
  · rw [if_pos hfull]
    refine truncate?_unless_infinite_le fun hmax => ?_
    calc
      wholeMagnitude (powerOfTwo (mantissaBits - 1)) (exponentOf num den + 1)
        ≤ powerOfTwo (mantissaBits - 1) * powerOfTwo (exponentOf num den + 1).toNat :=
          wholeMagnitude_le _ _
      _ ≤ maxMagnitude := Nat.mul_le_mul_left _ (hunit hmax)
      _ ≤ bound + maxMagnitude := Nat.le_add_left _ _
  · rw [if_neg hfull]
    refine truncate?_unless_infinite_le fun hmax => ?_
    calc
      wholeMagnitude (scaledQuotient num den (exponentOf num den)) (exponentOf num den)
        ≤ bound + powerOfTwo (exponentOf num den).toNat :=
          wholeMagnitude_scaledQuotient_le hnum _
      _ ≤ bound + powerOfTwo maxExponent.toNat := Nat.add_le_add_left (hunit hmax) bound
      _ ≤ bound + maxMagnitude :=
          Nat.add_le_add_left (Nat.le_mul_of_pos_left _ (powerOfTwo_pos _)) bound

/-- A decimal is no greater than the power of ten that its digits stay below. -/
theorem num_lt_of_place_le {digits : Nat} {place : Nat} {exponent : Int}
    (hplace : (Nat.toDigits 10 digits).length + exponent ≤ place) :
    digits * powerOfTen exponent.toNat <
      powerOfTen place * powerOfTen (-exponent).toNat := by
  have hdigits : digits < 10 ^ (Nat.toDigits 10 digits).length :=
    (Nat.length_toDigits_le_iff (by decide) (List.length_pos_iff.2 Nat.toDigits_ne_nil)).1
      (Nat.le_refl _)
  calc
    digits * powerOfTen exponent.toNat
      < 10 ^ (Nat.toDigits 10 digits).length * powerOfTen exponent.toNat :=
        Nat.mul_lt_mul_of_pos_right hdigits (Nat.pow_pos (by decide))
    _ = 10 ^ ((Nat.toDigits 10 digits).length + exponent.toNat) := (Nat.pow_add ..).symm
    _ ≤ 10 ^ (place + (-exponent).toNat) := Nat.pow_le_pow_right (by decide) (by omega)
    _ = powerOfTen place * powerOfTen (-exponent).toNat := Nat.pow_add ..

/-- No finite number has an integer part of too many digits. -/
theorem bound_lt :
    powerOfTen maxDecimalPlace.toNat + maxMagnitude < 10 ^ Text.maxIntegerDigits := by
  decide +kernel

/-- The integer part of a decimal has no more digits than a written integer may have. -/
theorem truncate?_ofDecimal_lt (negative : Bool) (digits : Nat) (exponent : Int) :
    ∀ whole ∈ (ofDecimal negative digits exponent).truncate?,
      whole.natAbs < 10 ^ Text.maxIntegerDigits := by
  intro whole hwhole
  unfold ofDecimal at hwhole
  dsimp only at hwhole
  split at hwhole
  · rw [truncate?_finite negative 0 minExponent whole hwhole, wholeMagnitude_zero]
    exact Nat.pow_pos (by decide)
  split at hwhole
  · cases hwhole
  · rename_i hmax
    have hplace : ((Nat.toDigits 10 digits).length : Int) + exponent ≤ maxDecimalPlace.toNat :=
      Int.not_lt.1 hmax
    exact Nat.lt_of_le_of_lt (truncate?_ofQuotient_le (num_lt_of_place_le hplace) whole hwhole)
      bound_lt

end FrameLens.Binary64
