import FrameLens.Code.Cleaning

/-!
# The lexical grammar of source texts

A text falls from left to right into code characters and regions.  This module
states that grammar on its own, as what a reader of a source file would write
down: where each form of comment or literal opens, which text it covers, and
which of several forms wins.  Nothing here scans; a text is only ever split
into a region and what follows it.
-/

namespace FrameLens.Lexis

open FrameLens.Text (isWordChar isAlphanumeric isDigit)

/-- The forms of comment and literal, in the order in which they are tried. -/
inductive Form where
  | lineComment
  | blockComment
  | verbatim
  | tripleQuoted
  | delimited
  | string
  | character
deriving DecidableEq, Repr

/-- The place of a form in the order of priority. -/
def Form.rank : Form → Nat
  | lineComment => 1
  | blockComment => 2
  | verbatim => 3
  | tripleQuoted => 4
  | delimited => 5
  | string => 6
  | character => 7

/-! ## Where a form opens

The text before the place is `before`, in reading order, and the text from it
on is `text`.
-/

def verbatimOpeners : List (List Char) :=
  [['@', '"'], ['$', '@', '"'], ['@', '$', '"']]

/-- The text does not end in the middle of an identifier. -/
def EndsOutsideWord (before : List Char) : Prop :=
  ∀ c, before.getLast? = some c → isWordChar c = false

/-- An `R` here is no tail of an identifier, or follows an encoding mark that
is an identifier of its own. -/
def MarksRaw (before : List Char) : Prop :=
  EndsOutsideWord before ∨
    ∃ mark ∈ [['u', '8'], ['u'], ['U'], ['L']],
      ∃ earlier, before = earlier ++ mark ∧ EndsOutsideWord earlier

structure IsDelimiter (delimiter : List Char) : Prop where
  length_le : delimiter.length ≤ 16
  allowed : ∀ c ∈ delimiter,
    c ∉ [' ', '(', ')', '\\', '\t', '\x0b', '\x0c', '\r', '\n', '"']

def delimitedOpener (delimiter : List Char) : List Char :=
  ['R', '"'] ++ delimiter ++ ['(']

def delimitedCloser (delimiter : List Char) : List Char :=
  [')'] ++ delimiter ++ ['"']

/-- A single quote here separates digits: it stands between an identifier
character and an alphanumeric one, and the maximal run of number characters
before it begins with a digit. -/
def SeparatesDigits (before after : List Char) : Prop :=
  (∃ c, before.getLast? = some c ∧ isWordChar c) ∧
  (∃ c, after.head? = some c ∧ isAlphanumeric c) ∧
  ∃ earlier digit run, before = earlier ++ digit :: run ∧
    isDigit digit ∧
    (∀ c ∈ digit :: run, isAlphanumeric c ∨ c ∈ ['_', '\'', '.']) ∧
    ∀ c, earlier.getLast? = some c → ¬(isAlphanumeric c ∨ c ∈ ['_', '\'', '.'])

/-- The text from here on begins like the given form. -/
def Opens (dialect : Dialect) : Form → (before text : List Char) → Prop
  | .lineComment, _, text => ['/', '/'] <+: text
  | .blockComment, _, text => ['/', '*'] <+: text
  | .verbatim, _, text =>
      dialect.verbatimStrings ∧ ∃ opener ∈ verbatimOpeners, opener <+: text
  | .tripleQuoted, _, text => dialect.tripleQuotes ∧ ['"', '"', '"'] <+: text
  | .delimited, before, text =>
      dialect.delimitedRaw ∧ MarksRaw before ∧
        ∃ delimiter, IsDelimiter delimiter ∧ delimitedOpener delimiter <+: text
  | .string, _, text => ['"'] <+: text
  | .character, before, text =>
      ['\''] <+: text ∧ ¬SeparatesDigits before text.tail

/-- A form opens here and none of higher priority does. -/
def Begins (dialect : Dialect) (form : Form) (before text : List Char) : Prop :=
  Opens dialect form before text ∧
    ∀ other : Form, other.rank < form.rank → ¬Opens dialect other before text

/-! ## Which text a form covers

The text after the opener falls into the `body` of the region, its closer
included, and `rest`.  A region that is never closed leaves no rest.
-/

/-- Through the first occurrence of `closer`. -/
def ThroughFirst (closer body rest : List Char) : Prop :=
  (closer <:+ body ∧ ¬closer <:+: body.dropLast) ∨
    (rest = [] ∧ ¬closer <:+: body)

/-- Characters other than quotes, and quotes that are written twice. -/
inductive Doubled : List Char → Prop where
  | nil : Doubled []
  | char {c : Char} {body : List Char} :
      c ≠ '"' → Doubled body → Doubled (c :: body)
  | pair {body : List Char} : Doubled body → Doubled ('"' :: '"' :: body)

/-- Through the first quote that is not written twice. -/
def ThroughUndoubled (body rest : List Char) : Prop :=
  (∃ inner, Doubled inner ∧ body = inner ++ ['"'] ∧ ¬['"'] <+: rest) ∨
    (rest = [] ∧ Doubled body)

/-- Characters other than the quote, and characters after a backslash. -/
inductive Escaped (quote : Char) : List Char → Prop where
  | nil : Escaped quote []
  | char {c : Char} {body : List Char} :
      c ≠ '\\' → c ≠ quote → Escaped quote body → Escaped quote (c :: body)
  | escape {c : Char} {body : List Char} :
      Escaped quote body → Escaped quote ('\\' :: c :: body)

/-- Through the first quote without a backslash.  The last character of an
unclosed body may be a backslash that escapes nothing. -/
def ThroughUnescaped (quote : Char) (body rest : List Char) : Prop :=
  (∃ inner, Escaped quote inner ∧ body = inner ++ [quote]) ∨
    (rest = [] ∧ ∃ inner, Escaped quote inner ∧ (body = inner ∨ body = inner ++ ['\\']))

def quotes (width : Nat) : List Char :=
  List.replicate width '"'

/-- Through the end of the first maximal run of at least `width` quotes. -/
def ThroughRun (width : Nat) (body rest : List Char) : Prop :=
  (∃ inner run, body = inner ++ quotes run ∧ width ≤ run ∧
      ¬quotes width <:+: inner ∧ ¬['"'] <:+ inner ∧ ¬['"'] <+: rest) ∨
    (rest = [] ∧ ¬quotes width <:+: body)

/-- `region` is all that the form covers of the text `region ++ rest`. -/
def Covers : Form → (region rest : List Char) → Prop
  | .lineComment, region, rest => '\n' ∉ region ∧ (rest = [] ∨ ['\n'] <+: rest)
  | .blockComment, region, rest =>
      ∃ body, region = ['/', '*'] ++ body ∧ ThroughFirst ['*', '/'] body rest
  | .verbatim, region, rest =>
      ∃ opener ∈ verbatimOpeners, ∃ body,
        region = opener ++ body ∧ ThroughUndoubled body rest
  | .tripleQuoted, region, rest =>
      ∃ width body, region = quotes width ++ body ∧ 3 ≤ width ∧
        ¬['"'] <+: body ++ rest ∧ ThroughRun width body rest
  | .delimited, region, rest =>
      ∃ delimiter body, IsDelimiter delimiter ∧
        region = delimitedOpener delimiter ++ body ∧
        ThroughFirst (delimitedCloser delimiter) body rest
  | .string, region, rest =>
      ∃ body, region = ['"'] ++ body ∧ ThroughUnescaped '"' body rest
  | .character, region, rest =>
      ∃ body, region = ['\''] ++ body ∧ ThroughUnescaped '\'' body rest

/-! ## Splitting a text -/

/-- One character of code, or the text of a region. -/
inductive Piece where
  | code (c : Char)
  | region (text : List Char)
deriving DecidableEq, Repr

def Piece.text : Piece → List Char
  | code c => [c]
  | region text => text

/-- What is left of a piece: code as it is, a region blanked. -/
def Piece.cleaned : Piece → List Char
  | code c => [c]
  | region text => text.map fun c => if c = '\n' then '\n' else ' '

/-- The text from a place on falls into these pieces. -/
inductive Splits (dialect : Dialect) : List Char → List Char → List Piece → Prop where
  | done {before : List Char} : Splits dialect before [] []
  | code {before : List Char} {c : Char} {rest : List Char} {pieces : List Piece} :
      (∀ form, ¬Opens dialect form before (c :: rest)) →
      Splits dialect (before ++ [c]) rest pieces →
      Splits dialect before (c :: rest) (.code c :: pieces)
  | region {form : Form} {before region rest : List Char} {pieces : List Piece} :
      Begins dialect form before (region ++ rest) →
      Covers form region rest →
      Splits dialect (before ++ region) rest pieces →
      Splits dialect before (region ++ rest) (.region region :: pieces)

end FrameLens.Lexis
