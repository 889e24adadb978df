/-!
# Searching and cutting texts

Occurrences of a pattern, pieces between separators, and the lines of a text.
-/

namespace FrameLens.Text

/-! ## Searching a text

First and last occurrences of a pattern, cuts at a character, and replacement of characters. -/

def indexOf? (pattern : List Char) : List Char → Option Nat
  | [] => if pattern.isEmpty then some 0 else none
  | c :: rest =>
    if pattern.isPrefixOf (c :: rest) then some 0 else (indexOf? pattern rest).map (· + 1)

def lastIndexOf? (pattern : List Char) : List Char → Option Nat
  | [] => if pattern.isEmpty then some 0 else none
  | c :: rest =>
    match lastIndexOf? pattern rest with
    | some k => some (k + 1)
    | none => if pattern.isPrefixOf (c :: rest) then some 0 else none

def contains (pattern text : List Char) : Bool :=
  (indexOf? pattern text).isSome

/-- The pieces of a text between the occurrences of one sign. -/
def splitOn [DecidableEq α] (separator : α) : List α → List (List α)
  | [] => [[]]
  | c :: rest =>
    if c = separator then [] :: splitOn separator rest
    else
      match splitOn separator rest with
      | [] => [[c]]
      | piece :: pieces => (c :: piece) :: pieces

/-- The text before the first occurrence of a character, or the whole text. -/
def before (stop : Char) (text : List Char) : List Char :=
  text.takeWhile (· != stop)

/-- The text after the last occurrence of a character, or the whole text. -/
def afterLast (stop : Char) (text : List Char) : List Char :=
  (text.reverse.takeWhile (· != stop)).reverse

/-- The text with every `old` replaced by `new`. -/
def replaceChar (old new : Char) (text : List Char) : List Char :=
  text.map fun c => if c = old then new else c

/-! ## Lines

Only a line feed separates lines. A carriage return before a line feed belongs to the line ending
where text is shown; text that was read as text has lost its carriage returns altogether. -/

/-- The text with each carriage return and line feed pair replaced by a line feed. -/
def foldLineEndings : List Char → List Char
  | '\r' :: '\n' :: rest => '\n' :: foldLineEndings rest
  | c :: rest => c :: foldLineEndings rest
  | [] => []

/-- The text with every line ending, a lone carriage return included, replaced by a line feed. -/
def unifyLineEndings : List Char → List Char
  | '\r' :: '\n' :: rest => '\n' :: unifyLineEndings rest
  | '\r' :: rest => '\n' :: unifyLineEndings rest
  | c :: rest => c :: unifyLineEndings rest
  | [] => []

/-- The lines of a text; a text that ends in a line feed has an empty last line. -/
def lines (text : List Char) : List (List Char) :=
  splitOn '\n' (foldLineEndings text)

def joinLines (rows : List (List Char)) : List Char :=
  ['\n'].intercalate rows

end FrameLens.Text
