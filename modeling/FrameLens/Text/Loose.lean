import FrameLens.Text.Case
import FrameLens.Text.Quoted
import FrameLens.Text.Words

/-!
# Loose texts

A character beyond the first 65536 can be written as two halves. A loose text may hold halves that
stand alone, as a text that comes out of a JSON file may, and whatever is made from such a text is
loose too: paths, prompts, reports. A loose text without halves is a plain text.
-/

namespace FrameLens

/-- A character, or half of one by its place among the halves. -/
inductive CodePoint where
  | char (c : Char)
  | half (place : Fin 0x800)
deriving DecidableEq, Repr

namespace CodePoint

def value : CodePoint → Nat
  | char c => c.toNat
  | half place => 0xD800 + place

def ofNat (n : Nat) : CodePoint :=
  if h : 0xD800 ≤ n ∧ n < 0xE000 then half ⟨n - 0xD800, by omega⟩ else char (Char.ofNat n)

/-- Whether a code point is a character that satisfies `p`. -/
def isChar (p : Char → Bool) : CodePoint → Bool
  | char c => p c
  | half _ => false

def isHalf : CodePoint → Bool
  | char _ => false
  | half _ => true

def char? : CodePoint → Option Char
  | char c => some c
  | half _ => none

/-- A code point as it is shown where halves cannot be: a half is spelled out. -/
def spelled : CodePoint → List Char
  | char c => [c]
  | half place => '\\' :: 'u' :: Text.hexPadded 4 (half place).value

/-- The form of one code point between quotes. -/
def quote (mark : Char) : CodePoint → List Char
  | char c => Text.quoteChar mark c
  | half place => (half place).spelled

/-- The case-folded form of one code point; a half has no case. -/
def fold : CodePoint → List CodePoint
  | char c => (Text.foldChar c).map char
  | half place => [half place]

end CodePoint

/-- A text that may hold halves. -/
abbrev LooseText := List CodePoint

/-- A run of halves, and the number of code points before it. -/
structure LoneHalves where
  position : Nat
  first : Fin 0x800
  count : Nat
deriving DecidableEq, Repr

namespace LooseText

def ofChars (text : List Char) : LooseText :=
  text.map .char

def ofString (text : String) : LooseText :=
  ofChars text.toList

instance : Coe String LooseText := ⟨ofString⟩

/-- The characters of a text, or else its first run of halves. -/
def plain (text : LooseText) : Except LoneHalves (List Char) :=
  let before := text.takeWhile (!·.isHalf)
  match text.drop before.length with
  | .half first :: rest =>
    .error ⟨before.length, first, 1 + (rest.takeWhile CodePoint.isHalf).length⟩
  | _ => .ok (before.filterMap CodePoint.char?)

/-- The string that a text is, if it holds no half. -/
def toString? (text : LooseText) : Option String :=
  text.plain.toOption.map String.ofList

/-- The characters of a text, with the replacement character for each half. -/
def lenient (text : LooseText) : List Char :=
  text.map fun point => point.char?.getD '\uFFFD'

/-- The text with its halves spelled out. -/
def spelled (text : LooseText) : String :=
  String.ofList (text.flatMap CodePoint.spelled)

def isBlank (text : LooseText) : Bool :=
  text.all (CodePoint.isChar Text.isBlank)

def trimRight (text : LooseText) : LooseText :=
  Text.dropEnd (CodePoint.isChar Text.isBlank) text

def trim (text : LooseText) : LooseText :=
  trimRight (text.dropWhile (CodePoint.isChar Text.isBlank))

/-- A text between quotes, with its halves spelled out. -/
def quoted (text : LooseText) : List Char :=
  let mark := Text.quoteFor text.lenient
  mark :: text.flatMap (CodePoint.quote mark) ++ [mark]

def foldCase (text : LooseText) : LooseText :=
  text.flatMap CodePoint.fold

/-- Whether a text comes no later than another one in the order of their code points. -/
def comesBefore : LooseText → LooseText → Bool
  | [], _ => true
  | _ :: _, [] => false
  | first :: left, second :: right =>
    if first = second then comesBefore left right else first.value < second.value

def joinLines (rows : List LooseText) : LooseText :=
  [.char '\n'].intercalate rows

end LooseText

end FrameLens
