import FrameLens.Json.Value
import FrameLens.Text.Integer

/-!
# Reading JSON

A text is one value with blanks around it and between its parts. Beyond the standard, the names of
an infinity and of what is no number are values. A control character inside a string, a comma
before a closing bracket, and an integer of too many digits make a text unreadable.

Every reader returns the value together with the text after it.
-/

namespace FrameLens.Json

def isSpace (c : Char) : Bool :=
  c == ' ' || c == '\t' || c == '\n' || c == '\r'

/-- The text from the next part on. -/
def skipSpace (text : List Char) : List Char :=
  text.dropWhile isSpace

def hexValue? (c : Char) : Option Nat :=
  if '0' ≤ c && c ≤ '9' then some (c.toNat - 0x30)
  else if 'a' ≤ c && c ≤ 'f' then some (c.toNat - 0x57)
  else if 'A' ≤ c && c ≤ 'F' then some (c.toNat - 0x37)
  else none

/-- The number that four hexadecimal digits stand for. -/
def hexUnit? (a b c d : Char) : Option Nat := do
  let a ← hexValue? a
  let b ← hexValue? b
  let c ← hexValue? c
  let d ← hexValue? d
  return ((a * 16 + b) * 16 + c) * 16 + d

/-- The character that a letter after a backslash stands for. -/
def simpleEscape? : Char → Option Char
  | '"' => some '"'
  | '\\' => some '\\'
  | '/' => some '/'
  | 'b' => some '\x08'
  | 'f' => some '\x0c'
  | 'n' => some '\n'
  | 'r' => some '\r'
  | 't' => some '\t'
  | _ => none

/-- Reads the inside of a string through its closing quote, as units: a character is one unit, an
escape may be half of one. -/
def readUnits : List Char → Option (List Nat × List Char)
  | [] => none
  | '"' :: rest => some ([], rest)
  | '\\' :: 'u' :: a :: b :: c :: d :: rest => do
    let unit ← hexUnit? a b c d
    let (units, rest) ← readUnits rest
    return (unit :: units, rest)
  | '\\' :: c :: rest => do
    let escaped ← simpleEscape? c
    let (units, rest) ← readUnits rest
    return (escaped.toNat :: units, rest)
  | c :: rest =>
    if c.toNat < 0x20 || c == '\\' then none
    else do
      let (units, rest) ← readUnits rest
      return (c.toNat :: units, rest)

/-- Whether a unit is the first half of a character. -/
def isHighHalf (unit : Nat) : Bool :=
  0xD800 ≤ unit && unit < 0xDC00

/-- Whether a unit is the second half of a character. -/
def isLowHalf (unit : Nat) : Bool :=
  0xDC00 ≤ unit && unit < 0xE000

def joinHalves (high low : Nat) : Char :=
  Char.ofNat (0x10000 + (high - 0xD800) * 0x400 + (low - 0xDC00))

/-- Joins a first half to the second half after it; a half without its other half stands alone. -/
def joinUnits : List Nat → LooseText
  | high :: low :: rest =>
    if isHighHalf high && isLowHalf low then .char (joinHalves high low) :: joinUnits rest
    else .ofNat high :: joinUnits (low :: rest)
  | [unit] => [.ofNat unit]
  | [] => []

def readString (text : List Char) : Option (LooseText × List Char) :=
  (readUnits text).map fun (units, rest) => (joinUnits units, rest)

def isDigit (c : Char) : Bool :=
  '0' ≤ c && c ≤ '9'

/-- The number that ASCII digits stand for. -/
def digitsValue (digits : List Char) : Nat :=
  digits.foldl (fun value c => 10 * value + (c.toNat - 0x30)) 0

/-- Splits off the digits at the start. -/
def spanDigits (text : List Char) : List Char × List Char :=
  text.span isDigit

/-- Splits off the digits of an integer: a zero alone, or digits that do not begin with one. -/
def readWhole? : List Char → Option (List Char × List Char)
  | '0' :: rest => some (['0'], rest)
  | text =>
    match spanDigits text with
    | ([], _) => none
    | (digits, rest) => some (digits, rest)

/-- Splits off a point and digits; without digits after it a point is left alone. -/
def readFraction (text : List Char) : List Char × List Char :=
  match text with
  | '.' :: rest =>
    match spanDigits rest with
    | ([], _) => ([], text)
    | (digits, rest) => (digits, rest)
  | _ => ([], text)

/-- Splits off a power of ten; without digits a power mark is left alone. -/
def readPower (text : List Char) : Option Int × List Char :=
  match text with
  | mark :: rest =>
    if mark == 'e' || mark == 'E' then
      let (negative, digits) :=
        match rest with
        | '-' :: digits => (true, digits)
        | '+' :: digits => (false, digits)
        | digits => (false, digits)
      match spanDigits digits with
      | ([], _) => (none, text)
      | (digits, rest) =>
        let power := Int.ofNat (digitsValue digits)
        (some (if negative then -power else power), rest)
    else (none, text)
  | [] => (none, text)

def readMagnitude (negative : Bool) (text : List Char) : Option (Json × List Char) := do
  let (whole, rest) ← readWhole? text
  let (fraction, rest) := readFraction rest
  let (power, rest) := readPower rest
  if fraction.isEmpty && power.isNone then
    if Text.maxIntegerDigits < whole.length then none
    else
      let value := Int.ofNat (digitsValue whole)
      return (int (if negative then -value else value), rest)
  else
    let digits := digitsValue (whole ++ fraction)
    return (real (.ofDecimal negative digits (power.getD 0 - fraction.length)), rest)

/-- Reads a value that is neither a string, an array nor an object. -/
def readAtom (text : List Char) : Option (Json × List Char) :=
  match text with
  | 'n' :: 'u' :: 'l' :: 'l' :: rest => some (null, rest)
  | 't' :: 'r' :: 'u' :: 'e' :: rest => some (bool true, rest)
  | 'f' :: 'a' :: 'l' :: 's' :: 'e' :: rest => some (bool false, rest)
  | 'N' :: 'a' :: 'N' :: rest => some (real .nan, rest)
  | 'I' :: 'n' :: 'f' :: 'i' :: 'n' :: 'i' :: 't' :: 'y' :: rest =>
    some (real (.infinite false), rest)
  | '-' :: 'I' :: 'n' :: 'f' :: 'i' :: 'n' :: 'i' :: 't' :: 'y' :: rest =>
    some (real (.infinite true), rest)
  | '-' :: rest => readMagnitude true rest
  | _ => readMagnitude false text

mutual

/-- Reads a value that begins here; `depth` bounds the parts that are still to be read. -/
def readValue : Nat → List Char → Option (Json × List Char)
  | 0, _ => none
  | _ + 1, '"' :: rest => (readString rest).map fun (value, rest) => (string value, rest)
  | depth + 1, '[' :: rest =>
    match skipSpace rest with
    | ']' :: rest => some (array [], rest)
    | rest => (readItems depth rest).map fun (items, rest) => (array items, rest)
  | depth + 1, '\x7b' :: rest =>
    match skipSpace rest with
    | '\x7d' :: rest => some (object [], rest)
    | rest => (readFields depth [] rest).map fun (fields, rest) => (object fields, rest)
  | _ + 1, text => readAtom text

/-- Reads the items of an array from the first one through the closing bracket. -/
def readItems : Nat → List Char → Option (List Json × List Char)
  | 0, _ => none
  | depth + 1, text => do
    let (item, rest) ← readValue depth text
    match skipSpace rest with
    | ']' :: rest => return ([item], rest)
    | ',' :: rest =>
      let (items, rest) ← readItems depth (skipSpace rest)
      return (item :: items, rest)
    | _ => none

/-- Reads the fields of an object from the first key through the closing brace, and adds them to
the fields `done`. -/
def readFields : Nat → Fields → List Char → Option (Fields × List Char)
  | 0, _, _ => none
  | depth + 1, done, '"' :: text => do
    let (key, rest) ← readString text
    match skipSpace rest with
    | ':' :: rest =>
      let (value, rest) ← readValue depth (skipSpace rest)
      let done := insert key value done
      match skipSpace rest with
      | '\x7d' :: rest => return (done, rest)
      | ',' :: rest => readFields depth done (skipSpace rest)
      | _ => none
    | _ => none
  | _ + 1, _, _ => none

end

def read? (text : List Char) : Option Json :=
  match readValue (text.length + 1) (skipSpace text) with
  | some (value, rest) => if (skipSpace rest).isEmpty then some value else none
  | none => none

end FrameLens.Json
