import FrameLens.Note
import FrameLens.Stack.Frame
import FrameLens.Text.Search

/-!
# Call stack listings

The text that a debugger's call stack window copies. A frame is a line with a module, an
exclamation mark and a symbol, which the word `Line` and a number may follow; a line after it that
names a file and a line number gives the place in the source. All other lines are passed over.
-/

namespace FrameLens.Listing

open FrameLens.Text (trim trimLeft trimRight isBlank isDecimal)

/-- What a frame line says. -/
structure FrameLine where
  isInline : Bool
  moduleName : List Char
  symbol : List Char
  line : Option (List Char)
deriving DecidableEq, Repr

def inlineMark : List Char := "[Inline Frame]".toList

/-- The word before a reported line number. -/
def lineWord : List Char := ['L', 'i', 'n', 'e']

def splitDigits (text : List Char) : List Char × List Char :=
  let digits := (text.reverse.takeWhile isDecimal).reverse
  (text.take (text.length - digits.length), digits)

/-- Splits the word `Line` and a number off the end of a text, with the blanks between them. What
is left ends in a blank. -/
def splitReported? (text : List Char) : Option (List Char × List Char) :=
  let (head, digits) := splitDigits (trimRight text)
  let word := trimRight head
  if digits.isEmpty || word.length == head.length || !lineWord.isSuffixOf word then none
  else
    let rest := word.take (word.length - lineWord.length)
    if (trimRight rest).length < rest.length then some (rest, digits) else none

/-- Splits the text after the exclamation mark into a symbol of at least one character and the
digits of a reported line. The symbol is as short as it can be. -/
def splitSymbol? (text : List Char) : Option (List Char × Option (List Char)) :=
  if text.isEmpty then none
  else
    let shortest (rest : List Char) : List Char := rest.take (max 1 (trimRight rest).length)
    match splitReported? text with
    | some (rest, digits) =>
      if (shortest rest).length < rest.length then some (shortest rest, some digits)
      else some (shortest text, none)
    | none => some (shortest text, none)

def readModule? (isInline : Bool) (text : List Char) : Option FrameLine :=
  let moduleName := text.takeWhile fun c => c != '!' && !isBlank c
  match moduleName, text.drop moduleName.length with
  | _ :: _, '!' :: rest =>
    (splitSymbol? rest).map fun (symbol, line) => ⟨isInline, moduleName, trim symbol, line⟩
  | _, _ => none

def readFrame? (line : List Char) : Option FrameLine :=
  let text := trimLeft line
  if inlineMark.isPrefixOf text then readModule? true (trimLeft (text.drop inlineMark.length))
  else readModule? false text

/-- Reads the place in the source from the line after a frame: the path and the digits of the line
number. -/
def readPlace? (line : List Char) : Option (List Char × List Char) :=
  match trimLeft line with
  | 'a' :: 't' :: text =>
    match (trimRight text).reverse with
    | ')' :: reversed =>
      let (head, digits) := splitDigits reversed.reverse
      match digits, head.reverse with
      | _ :: _, '(' :: reversed =>
        let path := reversed.reverse
        let blanks := path.takeWhile isBlank
        if blanks.isEmpty || path.length < 2 then none else some (trim path, digits)
      | _, _ => none
    | _ => none
  | _ => none

def frameOf (index : Nat) (line : FrameLine) (place : Option (List Char × List Char)) : Frame where
  index := index
  moduleName := String.ofList line.moduleName
  symbol := String.ofList line.symbol
  isInline := line.isInline
  reportedLine := line.line.bind Text.parseInt?
  sourcePath := place.map fun p => String.ofList p.1
  sourceLine := place.bind fun p => Text.parseInt? p.2

def framesFrom (index : Nat) : List (List Char) → List Frame
  | [] => []
  | line :: rest =>
    match readFrame? line with
    | none => framesFrom index rest
    | some frame =>
      match rest with
      | [] => [frameOf index frame none]
      | next :: after =>
        match readPlace? next with
        | some place => frameOf index frame (some place) :: framesFrom (index + 1) after
        | none => frameOf index frame none :: framesFrom (index + 1) (next :: after)

def frames (text : String) : List Frame :=
  framesFrom 0 (Text.lines text.toList)

def readNote (text : String) (frames : List Frame) : Note :=
  .detail "stackdigest.callstack.parser"
    ("Parsed " ++ String.ofList (Text.natDigits frames.length) ++ " frame(s) from " ++
      String.ofList (Text.natDigits (Text.lines text.toList).length) ++ " line(s)")

/-- Reads a listing. There is nothing to tell of a blank one. -/
def read (text : String) : Noted (List Frame) :=
  let frames := frames text
  ⟨if Text.allBlank text.toList then [] else [readNote text frames], frames⟩

end FrameLens.Listing
