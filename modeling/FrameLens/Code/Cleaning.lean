import FrameLens.Code.Dialect
import FrameLens.Text.CharClass
import FrameLens.Text.Search

/-!
# Cleaned text

The comments and literals of a text, and the text in which they are blanked.
-/

namespace FrameLens.Region

/-! ## Regions of a source text

A source text falls from left to right into code characters and regions: comments and literals.
This module says where a region begins and how long it is. A region that is never closed reaches
to the end of the text.

A function on `rest` reads the text from the region's first character on; `before` is the text
before it, nearest character first. -/

open FrameLens.Text (isWordChar isAlphanumeric isDigit indexOf?)

/-- A line comment runs up to the line feed that ends its line. -/
def lineComment (rest : List Char) : Nat :=
  (rest.takeWhile (· != '\n')).length

/-- The length through the first comment closer. -/
def throughCloser : List Char → Nat
  | [] => 0
  | '*' :: '/' :: _ => 2
  | _ :: rest => throughCloser rest + 1

/-- A block comment runs through the first closer after its opener. -/
def blockComment (rest : List Char) : Nat :=
  2 + throughCloser (rest.drop 2)

/-- The length through the first `quote` that no backslash escapes. -/
def throughQuote (quote : Char) : List Char → Nat
  | [] => 0
  | ['\\'] => 1
  | '\\' :: _ :: rest => throughQuote quote rest + 2
  | c :: rest => if c = quote then 1 else throughQuote quote rest + 1

/-- An ordinary literal runs from its quote through the next one that is not escaped. -/
def quotedLiteral (quote : Char) (rest : List Char) : Nat :=
  1 + throughQuote quote (rest.drop 1)

/-- The length through the first quote that is not written twice. -/
def throughUndoubled : List Char → Nat
  | [] => 0
  | '"' :: '"' :: rest => throughUndoubled rest + 2
  | '"' :: _ => 1
  | _ :: rest => throughUndoubled rest + 1

/-- The length of the opener of a verbatim literal: a quote after an at sign, which a dollar sign
may accompany on either side. -/
def verbatimOpener? : List Char → Option Nat
  | '@' :: '"' :: _ => some 2
  | '$' :: '@' :: '"' :: _ => some 3
  | '@' :: '$' :: '"' :: _ => some 3
  | _ => none

def quoteRun (rest : List Char) : Nat :=
  (rest.takeWhile (· == '"')).length

/-- The length through the first maximal run of at least `width` quotes; `run` counts the quotes
just read. -/
def throughRun (width run : Nat) : List Char → Nat
  | [] => 0
  | c :: rest =>
    if c = '"' then throughRun width (run + 1) rest + 1
    else if width ≤ run then 0
    else throughRun width 0 rest + 1

/-- A literal between runs of quotes: the closing run is at least as long as the opening one. -/
def tripleQuoted (rest : List Char) : Nat :=
  let width := quoteRun rest
  width + throughRun width 0 (rest.drop width)

def maxDelimiter : Nat := 16

def isBadDelimiterChar (c : Char) : Bool :=
  [' ', '(', ')', '\\', '\t', '\x0b', '\x0c', '\r', '\n', '"'].contains c

/-- The delimiter between the quote and the parenthesis of an opener, read from after the quote. -/
def delimiter? (body : List Char) : Option (List Char) :=
  match indexOf? ['('] (body.take (maxDelimiter + 1)) with
  | none => none
  | some length =>
    let delimiter := body.take length
    if delimiter.any isBadDelimiterChar then none else some delimiter

/-- A delimited literal, whose `R` is the first character of `rest`, runs through the first
closing parenthesis that the delimiter and a quote follow. -/
def delimitedLiteral? (rest : List Char) : Option Nat :=
  match delimiter? (rest.drop 2) with
  | none => none
  | some delimiter =>
    let body := rest.drop (delimiter.length + 3)
    let closer := ')' :: delimiter ++ ['"']
    match indexOf? closer body with
    | some k => some (delimiter.length + 3 + k + closer.length)
    | none => some rest.length

/-- Whether no identifier goes on here. -/
def startsWord (before : List Char) : Bool :=
  match before with
  | [] => true
  | c :: _ => !isWordChar c

/-- The encoding marks that may stand before the `R` of a delimited literal, in reverse. -/
def encodingMarks : List (List Char) := [['8', 'u'], ['u'], ['U'], ['L']]

/-- Whether an `R` after `before` opens a literal and is not the tail of an identifier. -/
def mayOpenRaw (before : List Char) : Bool :=
  startsWord before ||
    encodingMarks.any fun mark => mark.isPrefixOf before && startsWord (before.drop mark.length)

/-- The characters that a number with separators is made of. -/
def isNumberChar (c : Char) : Bool :=
  isAlphanumeric c || c == '_' || c == '\'' || c == '.'

/-- Whether a single quote between `before` and `after` separates digits of a number. -/
def separatesDigits (before after : List Char) : Bool :=
  match before, after with
  | c :: _, next :: _ =>
    isWordChar c && isAlphanumeric next &&
      ((before.takeWhile isNumberChar).getLast?.any isDigit)
  | _, _ => false

/-- The length of the literal that begins here if only quotes are left to decide. -/
def quoted? (before rest : List Char) : Option Nat :=
  match rest with
  | '"' :: _ => some (quotedLiteral '"' rest)
  | '\'' :: after => if separatesDigits before after then none else some (quotedLiteral '\'' rest)
  | _ => none

def delimited? (dialect : Dialect) (before rest : List Char) : Option Nat :=
  match rest with
  | 'R' :: '"' :: _ =>
    if dialect.delimitedRaw && mayOpenRaw before then delimitedLiteral? rest else none
  | _ => none

def tripleQuoted? (dialect : Dialect) (rest : List Char) : Option Nat :=
  match rest with
  | '"' :: '"' :: '"' :: _ => if dialect.tripleQuotes then some (tripleQuoted rest) else none
  | _ => none

def verbatim? (dialect : Dialect) (rest : List Char) : Option Nat :=
  if dialect.verbatimStrings then
    (verbatimOpener? rest).map fun opener => opener + throughUndoubled (rest.drop opener)
  else none

def comment? (rest : List Char) : Option Nat :=
  match rest with
  | '/' :: '/' :: _ => some (lineComment rest)
  | '/' :: '*' :: _ => some (blockComment rest)
  | _ => none

/-- The length of the region that begins here, or none where a code character stands. The first
form that applies decides. -/
def length? (dialect : Dialect) (before rest : List Char) : Option Nat :=
  comment? rest <|> verbatim? dialect rest <|> tripleQuoted? dialect rest <|>
    delimited? dialect before rest <|> quoted? before rest

end FrameLens.Region

namespace FrameLens

/-! ## Cleaned text

Cleaning replaces every character of a comment or literal by a space. Line feeds survive, so that
offsets and line numbers mean the same in a text and in its cleaned form. What is left is code,
in which braces, parentheses and names can be searched for. -/

def blanked (c : Char) : Char :=
  if c = '\n' then '\n' else ' '

/-- Cleans the rest of a text, of which the next `open` characters still belong to a region. -/
def cleanFrom (dialect : Dialect) : List Char → Nat → List Char → List Char
  | _, _, [] => []
  | before, remaining + 1, c :: rest =>
    blanked c :: cleanFrom dialect (c :: before) remaining rest
  | before, 0, c :: rest =>
    match Region.length? dialect before (c :: rest) with
    | some length => blanked c :: cleanFrom dialect (c :: before) (length - 1) rest
    | none => c :: cleanFrom dialect (c :: before) 0 rest

/-- The text with its comments and literals blanked. -/
def clean (dialect : Dialect) (text : List Char) : List Char :=
  cleanFrom dialect [] 0 text

end FrameLens
