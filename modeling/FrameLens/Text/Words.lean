import FrameLens.Text.CharClass

/-!
# Words

Blanks around a text, the words between blanks, and keywords inside a line.
-/

namespace FrameLens.Text

/-! ## Trimming and words

Blank characters at the ends of a text are trimmed; a text falls into words at its blanks. -/

def trimLeft (text : List Char) : List Char :=
  text.dropWhile isBlank

/-- The text without those of its last signs that satisfy `drop`. -/
def dropEnd (drop : α → Bool) (text : List α) : List α :=
  (text.reverse.dropWhile drop).reverse

def trimRight (text : List Char) : List Char :=
  dropEnd isBlank text

def trim (text : List Char) : List Char :=
  trimRight (trimLeft text)

/-- Splits off words; `word` holds the word under way in reverse. -/
def wordsFrom (word : List Char) : List Char → List (List Char)
  | [] => if word.isEmpty then [] else [word.reverse]
  | c :: rest =>
    if isBlank c then
      if word.isEmpty then wordsFrom [] rest else word.reverse :: wordsFrom [] rest
    else wordsFrom (c :: word) rest

/-- The maximal runs of characters that are not blank. -/
def words (text : List Char) : List (List Char) :=
  wordsFrom [] text

/-! ## Keywords in a line of code

Tests for a keyword at the start of a word, given what must follow it. -/

/-- Whether some position of a text satisfies `p`, which sees the character before the position
and the text from it on; `previous` is the character before the text. -/
def anyPosition (p : Option Char → List Char → Bool) : Option Char → List Char → Bool
  | previous, [] => p previous []
  | previous, c :: rest => p previous (c :: rest) || anyPosition p (some c) rest

/-- Whether a word may start after a character, or after nothing. -/
def mayStartWord (previous : Option Char) : Bool :=
  !previous.any isWordChar

/-- Whether no word goes on at the start of a text. -/
def endsWord (rest : List Char) : Bool :=
  !rest.head?.any isWordChar

/-- Whether a text holds blanks and then the character `c`. -/
def blanksThen (c : Char) (rest : List Char) : Bool :=
  (trimLeft rest).head? == some c

/-- Whether one of the keywords stands at the start of a word and `follows` holds of the text
after it. -/
def hasKeyword (keywords : List String) (follows : List Char → Bool) (text : List Char) : Bool :=
  anyPosition
    (fun previous rest =>
      mayStartWord previous &&
        keywords.any fun keyword =>
          keyword.toList.isPrefixOf rest && follows (rest.drop keyword.length))
    none text

end FrameLens.Text
