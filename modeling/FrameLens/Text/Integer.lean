import FrameLens.Text.CharClass

/-!
# Decimal integers

Reading accepts decimal digits of any script, a sign, blanks around the number and single
underscores between digits, up to a bound on the number of digits. Writing uses ASCII digits.
-/

namespace FrameLens.Text

/-- A longer number is not read. -/
def maxIntegerDigits : Nat := 4300

/-- The blanks that may stand around a number; the information separators may not. -/
def isNumberPadding (c : Char) : Bool :=
  isBlank c && !(0x1C ≤ c.toNat && c.toNat ≤ 0x1F)

/-- Reads digits and single underscores between digits. -/
def readDigits (value : Nat) (afterDigit : Bool) : List Char → Option Nat
  | [] => if afterDigit then some value else none
  | c :: rest =>
    if c = '_' then
      if afterDigit then readDigits value false rest else none
    else
      match decimalValue? c with
      | some digit => readDigits (10 * value + digit) true rest
      | none => none

/-- The natural number that a text of digits and underscores stands for. -/
def parseNat? (text : List Char) : Option Nat :=
  if (text.filter (· != '_')).length ≤ maxIntegerDigits then readDigits 0 false text else none

def parseInt? (text : List Char) : Option Int :=
  let body := ((text.dropWhile isNumberPadding).reverse.dropWhile isNumberPadding).reverse
  match body with
  | '-' :: digits => (parseNat? digits).map fun n => -Int.ofNat n
  | '+' :: digits => (parseNat? digits).map fun n => Int.ofNat n
  | digits => (parseNat? digits).map fun n => Int.ofNat n

def natDigits (n : Nat) : List Char :=
  Nat.toDigits 10 n

/-- An integer in decimal, with a minus sign if it is negative. -/
def intDigits (n : Int) : List Char :=
  if n < 0 then '-' :: natDigits n.natAbs else natDigits n.natAbs

/-- The text with `fill` before it up to `width` characters. -/
def padStart (width : Nat) (fill : α) (text : List α) : List α :=
  List.replicate (width - text.length) fill ++ text

/-- The text with `fill` after it up to `width` characters. -/
def padEnd (width : Nat) (fill : α) (text : List α) : List α :=
  text ++ List.replicate (width - text.length) fill

/-- An integer with zeros after its sign up to `width` characters in all. -/
def zeroPadded (width : Nat) (n : Int) : List Char :=
  if n < 0 then '-' :: padStart (width - 1) '0' (natDigits n.natAbs)
  else padStart width '0' (natDigits n.natAbs)

end FrameLens.Text
