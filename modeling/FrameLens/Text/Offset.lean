/-!
# Offsets into a text

A source text is an array of characters, so that an offset counts code points. Offsets are
integers: a negative one counts from the end of the text, down to the first character, and any
other reaches outside. Cuts never reach outside: they stop at the ends of the text.
-/

namespace FrameLens

/-- A text addressed by offset. -/
abbrev Text := Array Char

/-- What a look-up outside its range was after: a character of a text or an item of a list. -/
inductive OutOfRange where
  | character
  | item
deriving DecidableEq, Repr

namespace OutOfRange

def message : OutOfRange → String
  | character => "string index out of range"
  | item => "list index out of range"

end OutOfRange

namespace Text

/-- The number of characters, as an offset. -/
def length (s : Text) : Int :=
  s.size

def at? (s : Text) (i : Int) : Option Char :=
  if i < 0 then
    if i + s.size < 0 then none else s[(i + s.size).toNat]?
  else s[i.toNat]?

/-- Whether the character at an offset exists and satisfies `p`. -/
def holdsAt (s : Text) (p : Char → Bool) (i : Int) : Bool :=
  (s.at? i).any p

/-- Fails if a scan that starts at `i` would look before the first character. -/
def checkScan (s : Text) (i : Int) : Except OutOfRange Unit :=
  if i + s.size < 0 then .error .character else .ok ()

/-- The place among `0 … size` where a cut at a signed offset falls. -/
def cutPlace (size : Nat) (i : Int) : Nat :=
  if i < 0 then (i + size).toNat else min i.toNat size

def slice (s : Text) (start stop : Int) : List Char :=
  (s.extract (cutPlace s.size start) (cutPlace s.size stop)).toList

/-- Whether `pattern` stands at position `i`. -/
def occursAt (s : Text) : List Char → Nat → Bool
  | [], _ => true
  | c :: pattern, i => s[i]? == some c && occursAt s pattern (i + 1)

/-- Whether `pattern` stands at a signed offset; it must not run over the end of the text. -/
def startsWithAt (s : Text) (pattern : List Char) (i : Int) : Bool :=
  occursAt s pattern (cutPlace s.size i)

/-- The first of `count` positions from `i` on where `pattern` stands. -/
def firstWithin? (s : Text) (pattern : List Char) : Nat → Nat → Option Nat
  | 0, _ => none
  | count + 1, i =>
    if occursAt s pattern i then some i else firstWithin? s pattern count (i + 1)

/-- The first occurrence of `pattern` that lies between two cuts. -/
def find? (s : Text) (pattern : List Char) (start stop : Int) : Option Int :=
  let first := cutPlace s.size start
  let last := cutPlace s.size stop
  (firstWithin? s pattern (last + 1 - (first + pattern.length)) first).map (Int.ofNat ·)

/-- The first occurrence of `pattern` from `start` to the end of the text. -/
def findFrom? (s : Text) (pattern : List Char) (start : Int) : Option Int :=
  s.find? pattern start s.length

/-- Passes over at most `count` characters that satisfy `p`. -/
def skipWithin (s : Text) (p : Char → Bool) : Nat → Int → Int
  | 0, i => i
  | count + 1, i => if s.holdsAt p i then skipWithin s p count (i + 1) else i

/-- Passes from `i` over the characters that satisfy `p`, to the end of the text at most. -/
def skipWhile (s : Text) (p : Char → Bool) (i : Int) : Int :=
  skipWithin s p (s.length - i).toNat i

end Text

end FrameLens
