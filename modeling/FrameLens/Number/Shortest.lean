import FrameLens.Number.Binary64
import FrameLens.Text.Integer

/-!
# Shortest decimals

A number is shown with the fewest digits that read back as that number; of several such decimals
the nearest one is taken, and of two equally near ones the even one. It is shown positionally while
its decimal point stands from four places before the first digit to sixteen places after it.
-/

namespace FrameLens.Binary64

open FrameLens.Text (natDigits)

/-- A decimal `digits * 10 ^ exponent`. -/
structure Decimal where
  digits : Nat
  exponent : Int
deriving DecidableEq, Repr

/-- The decimals of unit `10 ^ place` that read back as `mantissa * 2 ^ exponent` are those whose
distance stays within half a step of the binary grid; the step below a power of two is a half. Of
the neighbours of the number on the decimal grid, gives the nearest one that does. -/
def onGrid? (mantissa : Nat) (exponent : Int) (place : Int) : Option Decimal :=
  let wide := powerOfTwo (exponent - 2).toNat * powerOfTen (-place).toNat
  let unit := powerOfTwo (2 - exponent).toNat * powerOfTen place.toNat
  let value := 4 * mantissa * wide
  let isShort := mantissa = powerOfTwo (mantissaBits - 1) ∧ minExponent < exponent
  let halfBelow := if isShort then 1 else 2
  let low := (4 * mantissa - halfBelow) * wide
  let high := (4 * mantissa + 2) * wide
  let readsBack (digits : Nat) : Bool :=
    if mantissa % 2 = 0 then low ≤ digits * unit && digits * unit ≤ high
    else low < digits * unit && digits * unit < high
  let below := value / unit
  let above := below + 1
  let preferBelow : Bool :=
    let down := value - below * unit
    let up := above * unit - value
    down < up || (down == up && below % 2 == 0)
  match 0 < below && readsBack below, readsBack above with
  | true, true => some ⟨if preferBelow then below else above, place⟩
  | true, false => some ⟨below, place⟩
  | false, true => some ⟨above, place⟩
  | false, false => none

/-- The decimal on the first of the grids `place`, `place - 1`, … that reads back. -/
def firstOnGrids (mantissa : Nat) (exponent : Int) : Nat → Int → Decimal
  | 0, place => ⟨1, place⟩
  | tries + 1, place =>
    match onGrid? mantissa exponent place with
    | some decimal => decimal
    | none => firstOnGrids mantissa exponent tries (place - 1)

/-- More grids than any number needs: seventeen digits always suffice. -/
def gridTries : Nat := 24

/-- The shortest decimal of a positive number. The first grid is coarser than the number. -/
def shortest (mantissa : Nat) (exponent : Int) : Decimal :=
  let place := Int.fdiv (((Nat.log2 mantissa : Int) + exponent) * 30103) 100000 + 2
  firstOnGrids mantissa exponent gridTries place

/-- The digits without the zeros at their end. -/
def significant (digits : Nat) : List Char :=
  Text.natDigits digits |>.reverse |>.dropWhile (· == '0') |>.reverse

/-- Digits with a decimal point before the place `point`, counted from the first digit. -/
def positional (digits : List Char) (point : Int) : List Char :=
  if point ≤ 0 then
    ['0', '.'] ++ List.replicate (-point).toNat '0' ++ digits
  else if digits.length ≤ point.toNat then
    digits ++ List.replicate (point.toNat - digits.length) '0' ++ ['.', '0']
  else digits.take point.toNat ++ '.' :: digits.drop point.toNat

/-- Digits with a decimal point after the first one and a power of ten. -/
def scientific (digits : List Char) (point : Int) : List Char :=
  let power := point - 1
  let fraction :=
    match digits with
    | first :: second :: rest => first :: '.' :: second :: rest
    | _ => digits
  let powerDigits := Text.padStart 2 '0' (natDigits power.natAbs)
  fraction ++ 'e' :: (if power < 0 then '-' else '+') :: powerDigits

def magnitudeText (mantissa : Nat) (exponent : Int) : List Char :=
  if mantissa = 0 then ['0', '.', '0']
  else
    let decimal := shortest mantissa exponent
    let point : Int := (natDigits decimal.digits).length + decimal.exponent
    let digits := significant decimal.digits
    if -4 < point ∧ point ≤ 16 then positional digits point else scientific digits point

/-- A number as text; an infinity is written as `infinity` says and what is no number as `nan`. -/
def text (infinity nanText : String) : Binary64 → List Char
  | finite negative mantissa exponent =>
    (if negative then ['-'] else []) ++ magnitudeText mantissa exponent
  | infinite negative => (if negative then ['-'] else []) ++ infinity.toList
  | nan => nanText.toList

end FrameLens.Binary64
