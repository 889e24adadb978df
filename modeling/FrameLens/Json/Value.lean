import FrameLens.Number.Binary64
import FrameLens.Number.Shortest
import FrameLens.Text.Loose

/-!
# JSON values

Values, the fields of objects, and the form in which a value is shown to a reader.
-/

namespace FrameLens

/-! ## JSON values

Integers are of any size and kept apart from floating-point numbers. Strings and keys are loose
texts, since escapes can spell half of a character. The fields of an object keep the order in which
their keys first came; a key that comes again replaces the value in its place. -/

inductive Json where
  | null
  | bool (value : Bool)
  | int (value : Int)
  | real (value : Binary64)
  | string (value : LooseText)
  | array (items : List Json)
  | object (fields : List (LooseText × Json))
deriving Inhabited, Repr

namespace Json

abbrev Fields := List (LooseText × Json)

/-- Sets a field: in its place if there is one of that key, at the end otherwise. -/
def insert (key : LooseText) (value : Json) : Fields → Fields
  | [] => [(key, value)]
  | (other, old) :: rest =>
    if other = key then (key, value) :: rest else (other, old) :: insert key value rest

/-- Sets each of the fields `updates` in turn. -/
def update (fields updates : Fields) : Fields :=
  updates.foldl (fun done field => insert field.1 field.2 done) fields

def get? (fields : Fields) (key : LooseText) : Option Json :=
  fields.lookup key

/-- Whether a value counts as present where one is asked for: nothing, false, zeros and what is
empty do not. -/
def isPresent : Json → Bool
  | null => false
  | bool value => value
  | int value => value != 0
  | real value => !value.isZero
  | string value => !value.isEmpty
  | array items => !items.isEmpty
  | object fields => !fields.isEmpty

end Json

end FrameLens

namespace FrameLens.Json

/-! ## Showing values

The form in which a value is shown to a reader, in a table or where a value of another kind stands
in for a text: a text alone is shown as it is, and inside another value between quotes. -/

/-- Pieces with a comma and a blank between neighbours. -/
def commaJoined (pieces : List (List Char)) : List Char :=
  [',', ' '].intercalate pieces

mutual

def displayInner : Json → List Char
  | null => "None".toList
  | bool true => "True".toList
  | bool false => "False".toList
  | int value => Text.intDigits value
  | real value => value.text "inf" "nan"
  | string value => value.quoted
  | array items => '[' :: commaJoined (displayItems items) ++ [']']
  | object fields => '\x7b' :: commaJoined (displayFields fields) ++ ['\x7d']

def displayItems : List Json → List (List Char)
  | [] => []
  | item :: items => displayInner item :: displayItems items

def displayFields : Fields → List (List Char)
  | [] => []
  | (key, value) :: fields =>
    (key.quoted ++ ':' :: ' ' :: displayInner value) :: displayFields fields

end

def display : Json → LooseText
  | string value => value
  | value => .ofChars (displayInner value)

mutual

/-- Whether no integer in a value has more digits than are turned into text. -/
def isBounded : Json → Bool
  | int value => value.natAbs < Binary64.powerOfTen Text.maxIntegerDigits
  | array items => areBounded items
  | object fields => areFieldsBounded fields
  | _ => true

def areBounded : List Json → Bool
  | [] => true
  | item :: items => isBounded item && areBounded items

def areFieldsBounded : Fields → Bool
  | [] => true
  | (_, value) :: fields => isBounded value && areFieldsBounded fields

end

end FrameLens.Json
