import FrameLens.Code.Nesting
import FrameLens.Text.CharClass

/-!
# Decorations between a parameter list and a body

After the parameters of a definition come qualifiers, attributes, a trailing return type,
constraints, member initializers and macros, and then a body in braces or an arrow with an
expression. Anything else means that the name stood in a declaration or an expression.
-/

namespace FrameLens.Decoration

open FrameLens.Text (isWordChar isBlank)

/-- A run of decorations is given up after this many characters. -/
def maxLength : Int := 4096

def isOperatorChar (c : Char) : Bool :=
  "+-*/%^&|~!=<>,".toList.contains c

/-- The constraint clauses, which end an initializer list. -/
def constraintWords : List String := ["requires", "where"]

/-- Punctuation that may stand among decorations. -/
def isPassing (c : Char) : Bool :=
  c == '&' || c == '*' || c == '.' || c == ','

def isReturnPunctuation (c : Char) : Bool :=
  "*&:.[]".toList.contains c

/-- The offset after a group that closes at `close`, or the end of the text if it does not. -/
def afterGroup (s : Text) (close : Option Int) : Int :=
  match close with
  | some close => if 0 ≤ close then close + 1 else s.length
  | none => s.length

/-- The longest name of an operator that is not symbolic. -/
def maxOperatorName : Int := 256

def isOperatorName (c : Char) : Bool :=
  !(c == '(' || c == ';' || c == '\x7b' || c == '\x7d')

/-- Passes over the token after the word `operator`: the call and index signs, a symbol, or what
stands before the parameter list. -/
def skipOperator (s : Text) (i : Int) : Except OutOfRange Int := do
  let i ← s.skipBlanks i
  match s.at? i with
  | none => return i
  | some '(' =>
    let inner := s.pastBlanks (i + 1)
    return if s.at? inner = some ')' then inner + 1 else i
  | some '[' =>
    return match s.matchingBracket? i with
      | some close => close + 1
      | none => i
  | some _ =>
    let symbol := s.skipWhile isOperatorChar i
    if i < symbol then return symbol
    return s.skipWithin isOperatorName (min (s.length - i) maxOperatorName).toNat i

/-- Passes over at most `count` pieces of a trailing return type. -/
def skipReturnWithin (s : Text) : Nat → Int → Int
  | 0, i => i
  | count + 1, i =>
    match s.at? i with
    | none => i
    | some c =>
      if c = '<' then skipReturnWithin s count (afterGroup s (s.angleClose? i))
      else if c = '(' then skipReturnWithin s count (afterGroup s (s.matchingParen? i))
      else if isReturnPunctuation c || isWordChar c || isBlank c then
        skipReturnWithin s count (i + 1)
      else i

/-- Passes over a trailing return type: words, groups, pointer and reference punctuation. -/
def pastReturn (s : Text) (i : Int) : Int :=
  skipReturnWithin s (s.length - i).toNat i

structure Shapes where
  arrows : Bool := true
  braceInitializers : Bool := false
deriving DecidableEq, Repr

/-- Where a run of decorations has got to: the offset, whether an initializer list is open, and
the last character that is no blank. -/
structure Progress where
  offset : Int
  inInitializer : Bool
  last : Char
deriving DecidableEq, Repr

/-- The outcome of one step: the body or arrow, no definition, or the progress made. -/
inductive Step where
  | body (offset : Int)
  | reject
  | next (progress : Progress)
deriving DecidableEq, Repr

/-- The character before an offset, or `default` at the start of the text. -/
def charBefore (s : Text) (i : Int) (default : Char) : Char :=
  if 0 < i then (s.at? (i - 1)).getD default else default

/-- A word, along with the parentheses of a macro. -/
def stepWord (s : Text) (p : Progress) (i : Int) : Step :=
  let stop := s.skipWhile isWordChar i
  let word := String.ofList (s.slice i stop)
  let inInitializer := p.inInitializer && !constraintWords.contains word
  let call := s.pastBlanks stop
  if s.at? call = some '(' then
    .next ⟨afterGroup s (s.matchingParen? call), inInitializer, ')'⟩
  else .next ⟨stop, inInitializer, (s.at? (stop - 1)).getD '_'⟩

/-- One piece of the run, which begins with the character `c` at offset `i`. -/
def stepAt (s : Text) (shapes : Shapes) (p : Progress) (i : Int) (c : Char) : Step :=
  if c = '\x7b' then
    if p.inInitializer && shapes.braceInitializers && (isWordChar p.last || p.last == '>') then
      match s.matchingBrace? i with
      | some close => .next ⟨close + 1, p.inInitializer, '\x7d'⟩
      | none => .reject
    else .body i
  else if c = '=' then
    if shapes.arrows && s.startsWithAt ['=', '>'] i then .body i else .reject
  else if c = ';' then .reject
  else if s.startsWithAt [':', ':'] i then .next ⟨i + 2, p.inInitializer, ':'⟩
  else if c = ':' then .next ⟨i + 1, true, ':'⟩
  else if s.startsWithAt ['-', '>'] i then
    let stop := pastReturn s (i + 2)
    .next ⟨stop, p.inInitializer, charBefore s stop c⟩
  else if s.startsWithAt ['[', '['] i then
    let stop := (s.findFrom? [']', ']'] (i + 2)).map (· + 1)
    .next ⟨afterGroup s stop, p.inInitializer, ']'⟩
  else if c = '[' then .next ⟨afterGroup s (s.matchingBracket? i), p.inInitializer, ']'⟩
  else if isWordChar c then stepWord s p i
  else if c = '<' then .next ⟨afterGroup s (s.angleClose? i), p.inInitializer, '>'⟩
  else if c = '(' then .next ⟨afterGroup s (s.matchingParen? i), p.inInitializer, ')'⟩
  else if isPassing c then .next ⟨i + 1, p.inInitializer, c⟩
  else .reject

/-- Takes at most `count` pieces before `limit`. -/
def skipWithin (s : Text) (shapes : Shapes) (limit : Int) : Nat → Progress → Option Int
  | 0, _ => none
  | count + 1, p =>
    let i := s.pastBlanks p.offset
    if limit ≤ i then none
    else
      match s.at? i with
      | none => none
      | some c =>
        match stepAt s shapes p i c with
        | .body offset => some offset
        | .reject => none
        | .next progress => skipWithin s shapes limit count progress

/-- The offset of the body or arrow that the decorations from an offset on lead to. -/
def skip (s : Text) (shapes : Shapes) (i : Int) : Except OutOfRange (Option Int) := do
  s.checkScan i
  let limit := min s.length (i + maxLength)
  return skipWithin s shapes limit (limit - i).toNat ⟨i, false, ')'⟩

end FrameLens.Decoration
