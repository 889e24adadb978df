/-!
# Binary floating-point numbers

A number is an integer of at most 53 bits times a power of two, an infinity, or no number. A
decimal is read as the nearest number, a tie going to the even neighbour.
-/

namespace FrameLens

/-- A double-precision number: `mantissa * 2 ^ exponent` with a sign of its own, so that zero has
two signs. -/
inductive Binary64 where
  | finite (negative : Bool) (mantissa : Nat) (exponent : Int)
  | infinite (negative : Bool)
  | nan
deriving DecidableEq, Repr, Inhabited

namespace Binary64

def mantissaBits : Nat := 53

/-- The least exponent; numbers too small for a full mantissa have it. -/
def minExponent : Int := -1074

def maxExponent : Int := 971

def powerOfTwo (n : Nat) : Nat :=
  Nat.pow 2 n

def powerOfTen (n : Nat) : Nat :=
  Nat.pow 10 n

/-- A quotient rounded to the nearest integer, a tie to the even one. -/
def roundQuotient (num den : Nat) : Nat :=
  let floor := num / den
  let rest := 2 * (num % den)
  if rest < den then floor
  else if den < rest then floor + 1
  else if floor % 2 = 0 then floor
  else floor + 1

def scaledQuotient (num den : Nat) (exponent : Int) : Nat :=
  roundQuotient (num * powerOfTwo (-exponent).toNat) (den * powerOfTwo exponent.toNat)

/-- The exponent at which a positive quotient has a mantissa of full length, if it is not below
the least one. -/
def exponentOf (num den : Nat) : Int :=
  let guess : Int := (Nat.log2 num : Int) - Nat.log2 den - (mantissaBits - 1)
  let scaled := den * powerOfTwo guess.toNat
  let short := num * powerOfTwo (-guess).toNat < powerOfTwo (mantissaBits - 1) * scaled
  max minExponent (if short then guess - 1 else guess)

/-- The number nearest to a quotient. -/
def ofQuotient (negative : Bool) (num den : Nat) : Binary64 :=
  if num = 0 then finite negative 0 minExponent
  else
    let exponent := exponentOf num den
    let mantissa := scaledQuotient num den exponent
    let (mantissa, exponent) :=
      if mantissa = powerOfTwo mantissaBits then (powerOfTwo (mantissaBits - 1), exponent + 1)
      else (mantissa, exponent)
    if maxExponent < exponent then infinite negative else finite negative mantissa exponent

/-- No decimal with its first digit at a higher place is finite. -/
def maxDecimalPlace : Int := 310

/-- A decimal with its first digit at a lower place is zero. -/
def minDecimalPlace : Int := -330

/-- The number nearest to `digits * 10 ^ exponent`. -/
def ofDecimal (negative : Bool) (digits : Nat) (exponent : Int) : Binary64 :=
  let place : Int := (Nat.toDigits 10 digits).length + exponent
  if digits = 0 || place < minDecimalPlace then finite negative 0 minExponent
  else if maxDecimalPlace < place then infinite negative
  else ofQuotient negative (digits * powerOfTen exponent.toNat) (powerOfTen (-exponent).toNat)

/-- The integer part; infinities and what is no number have none. -/
def truncate? : Binary64 → Option Int
  | finite negative mantissa exponent =>
    let magnitude : Nat := mantissa * powerOfTwo exponent.toNat / powerOfTwo (-exponent).toNat
    some (if negative then -Int.ofNat magnitude else Int.ofNat magnitude)
  | infinite _ => none
  | nan => none

/-- Whether the number is a zero of either sign. -/
def isZero : Binary64 → Bool
  | finite _ mantissa _ => mantissa == 0
  | infinite _ => false
  | nan => false

end Binary64

end FrameLens
