import FrameLens.Text.CharClass
import FrameLens.Text.Offset

/-!
# Nesting

A delimiter is paired with the one of the other kind at which as many have been closed as opened.
The pairing means what it should on cleaned text, where no comment or literal holds a delimiter.
-/

namespace FrameLens

namespace Text

/-- Looks through at most `count` characters for the delimiter that closes the last of `depth` open
ones. -/
def closeWithin? (s : Text) (opener closer : Char) : Nat → Nat → Nat → Option Nat
  | 0, _, _ => none
  | count + 1, depth, i =>
    match s[i]? with
    | none => none
    | some c =>
      if c = opener then closeWithin? s opener closer count (depth + 1) (i + 1)
      else if c = closer then
        if depth = 1 then some i else closeWithin? s opener closer count (depth - 1) (i + 1)
      else closeWithin? s opener closer count depth (i + 1)

/-- Looks backward through the `count` characters from `floor` on for the brace that opens what
`depth` braces closed. -/
def openWithin? (s : Text) (floor : Nat) : Nat → Int → Option Nat
  | 0, _ => none
  | count + 1, depth =>
    match s[floor + count]? with
    | none => none
    | some c =>
      if c = '\x7d' then openWithin? s floor count (depth + 1)
      else if c = '\x7b' then
        if depth = 1 then some (floor + count) else openWithin? s floor count (depth - 1)
      else openWithin? s floor count depth

/-- The partner of the delimiter at an offset that is not negative. -/
def matching? (s : Text) (opener closer : Char) (i : Int) : Option Int :=
  if 0 ≤ i ∧ s.at? i = some opener then
    (s.closeWithin? opener closer (s.size - i.toNat) 0 i.toNat).map Int.ofNat
  else none

def matchingBrace? (s : Text) (i : Int) : Option Int :=
  s.matching? '\x7b' '\x7d' i

def matchingParen? (s : Text) (i : Int) : Option Int :=
  s.matching? '(' ')' i

def matchingBracket? (s : Text) (i : Int) : Option Int :=
  s.matching? '[' ']' i

/-- No argument list goes on over these. -/
def isAngleStop (c : Char) : Bool :=
  c == ';' || c == '\x7b' || c == '\x7d'

def isArrowHead (s : Text) (i : Int) : Bool :=
  0 < i && s.at? (i - 1) == some '-'

/-- Looks through at most `count` characters for the sign that closes the last of `depth` open
argument lists. -/
def angleCloseWithin? (s : Text) : Nat → Int → Int → Option Int
  | 0, _, _ => none
  | count + 1, depth, i =>
    match s.at? i with
    | none => none
    | some c =>
      if c = '<' then angleCloseWithin? s count (depth + 1) (i + 1)
      else if c = '>' then
        if s.isArrowHead i then angleCloseWithin? s count depth (i + 1)
        else if depth = 1 then some i
        else angleCloseWithin? s count (depth - 1) (i + 1)
      else if c = '(' then
        match s.matchingParen? i with
        | none => none
        | some close => angleCloseWithin? s count depth (close + 1)
      else if isAngleStop c then none
      else angleCloseWithin? s count depth (i + 1)

/-- The close of the argument list that opens at an offset. A group in parentheses is passed over
as a whole, and a statement or block boundary means that there was no list. -/
def angleClose? (s : Text) (i : Int) : Option Int :=
  s.angleCloseWithin? (s.length - i).toNat 0 i

/-- The close of an argument list, where the offset must not be before the text. -/
def matchingAngle (s : Text) (i : Int) : Except OutOfRange (Option Int) := do
  s.checkScan i
  return s.angleClose? i

/-- The brace that pairs with the closing brace at an offset, looked for backward no further than
`floor`. -/
def matchingBraceBack (s : Text) (close floor : Int) : Except OutOfRange (Option Int) :=
  let floor := max floor 0
  if close < floor then .ok none
  else if s.length ≤ close then .error .character
  else .ok ((s.openWithin? floor.toNat (close + 1 - floor).toNat 0).map Int.ofNat)

/-- The first offset from `i` on that holds no blank. -/
def pastBlanks (s : Text) (i : Int) : Int :=
  s.skipWhile isBlank i

/-- Passes over blanks, where the offset must not be before the text. -/
def skipBlanks (s : Text) (i : Int) : Except OutOfRange Int := do
  s.checkScan i
  return s.pastBlanks i

end Text

end FrameLens
