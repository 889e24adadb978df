import FrameLens.Json.Value
import FrameLens.Number.Shortest

/-!
# Writing JSON

A value is written in ASCII with one item or field to a line, two blanks of indentation for each
level, and an empty array or object without a break. What is outside ASCII is escaped, a character
in two halves where one escape cannot hold it.
-/

namespace FrameLens.Json

def unitEscape (unit : Nat) : List Char :=
  '\\' :: 'u' :: Text.hexPadded 4 unit

def escapeChar (c : Char) : List Char :=
  if c = '"' then ['\\', '"']
  else if c = '\\' then ['\\', '\\']
  else if c = '\n' then ['\\', 'n']
  else if c = '\r' then ['\\', 'r']
  else if c = '\t' then ['\\', 't']
  else if c = '\x0c' then ['\\', 'f']
  else if c = '\x08' then ['\\', 'b']
  else if 0x20 ≤ c.toNat && c.toNat ≤ 0x7E then [c]
  else if c.toNat < 0x10000 then unitEscape c.toNat
  else
    unitEscape (0xD800 + (c.toNat - 0x10000) / 0x400) ++
      unitEscape (0xDC00 + (c.toNat - 0x10000) % 0x400)

/-- The form of one code point inside a string. -/
def escapePoint : CodePoint → List Char
  | .char c => escapeChar c
  | .half place => unitEscape (CodePoint.half place).value

def writeString (value : LooseText) : List Char :=
  '"' :: value.flatMap escapePoint ++ ['"']

/-- A value that is neither an array nor an object. -/
def writeAtom : Json → List Char
  | null => "null".toList
  | bool true => "true".toList
  | bool false => "false".toList
  | int value => Text.intDigits value
  | real value => value.text "Infinity" "NaN"
  | string value => writeString value
  | array _ => []
  | object _ => []

/-- A line feed and the indentation of a level. -/
def newLine (level : Nat) : List Char :=
  '\n' :: List.replicate (2 * level) ' '

mutual

/-- A value whose lines after the first are indented from `level` on. -/
def writeAt (level : Nat) : Json → List Char
  | array [] => "[]".toList
  | array (item :: items) =>
    '[' :: newLine (level + 1) ++ writeAt (level + 1) item ++ writeItems (level + 1) items ++
      newLine level ++ [']']
  | object [] => ['\x7b', '\x7d']
  | object ((key, value) :: fields) =>
    '\x7b' :: newLine (level + 1) ++ writeString key ++ ':' :: ' ' :: writeAt (level + 1) value ++
      writeFields (level + 1) fields ++ newLine level ++ ['\x7d']
  | value => writeAtom value

/-- The items after the first one. -/
def writeItems (level : Nat) : List Json → List Char
  | [] => []
  | item :: items => ',' :: newLine level ++ writeAt level item ++ writeItems level items

/-- The fields after the first one. -/
def writeFields (level : Nat) : Fields → List Char
  | [] => []
  | (key, value) :: fields =>
    ',' :: newLine level ++ writeString key ++ ':' :: ' ' :: writeAt level value ++
      writeFields level fields

end

def write (value : Json) : List Char :=
  writeAt 0 value

mutual

/-- The value with the fields of every object in the order of their keys. -/
def sorted : Json → Json
  | array items => array (sortedItems items)
  | object fields => object ((sortedFields fields).mergeSort fun a b => a.1.comesBefore b.1)
  | value => value

def sortedItems : List Json → List Json
  | [] => []
  | item :: items => sorted item :: sortedItems items

def sortedFields : Fields → Fields
  | [] => []
  | (key, value) :: fields => (key, sorted value) :: sortedFields fields

end

end FrameLens.Json
