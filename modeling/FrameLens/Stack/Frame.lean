import FrameLens.Files.Path
import FrameLens.Text.Integer
import FrameLens.Text.Search
import FrameLens.Text.Words

/-!
# Frames

Frames of a call stack, and the name of the function that a symbol spells.
-/

namespace FrameLens.FunctionName

/-! ## Function names

The short name of a function inside the symbol that a debugger prints: without scopes, template
arguments, parameters, and the offset of an address. -/

open FrameLens.Text (trim trimLeft trimRight words isWordChar isBlank isLetter isDecimal indexOf?
  lastIndexOf? mayStartWord endsWord afterLast)

/-- Drops argument lists in angle brackets; `depth` of them are open. -/
def stripFrom : Nat → List Char → List Char
  | _, [] => []
  | depth, c :: rest =>
    if c = '<' then stripFrom (depth + 1) rest
    else if c = '>' then stripFrom (depth - 1) rest
    else if depth = 0 then c :: stripFrom 0 rest
    else stripFrom depth rest

/-- The text without its argument lists in angle brackets, and without a stray closing one. -/
def stripTemplates (text : List Char) : List Char :=
  stripFrom 0 text

def isHexDigit (c : Char) : Bool :=
  ('0' ≤ c && c ≤ '9') || ('a' ≤ c && c ≤ 'f') || ('A' ≤ c && c ≤ 'F')

/-- The text, in reverse, without the offset it begins with: hexadecimal digits, their mark, and a
plus sign, with blanks around them. -/
def withoutOffset? (reversed : List Char) : Option (List Char) :=
  let body := reversed.dropWhile isBlank
  match body.span isHexDigit with
  | (_ :: _, 'x' :: '0' :: rest) =>
    match rest.dropWhile isBlank with
    | '+' :: rest => some (rest.dropWhile isBlank)
    | _ => none
  | _ => none

def withoutOffset (symbol : List Char) : List Char :=
  match withoutOffset? symbol.reverse with
  | some rest => rest.reverse
  | none => symbol

/-- The word that the name of an operator begins with. -/
def operatorWord : List Char := ['o', 'p', 'e', 'r', 'a', 't', 'o', 'r']

/-- The text after the word at the start, if it is a word of its own. -/
def afterOperatorWord? (previous : Option Char) (text : List Char) : Option (List Char) :=
  let rest := text.drop operatorWord.length
  if operatorWord.isPrefixOf text && mayStartWord previous && endsWord rest then some rest else none

def operatorTail? : Option Char → List Char → Option (List Char)
  | _, [] => none
  | previous, c :: rest =>
    match afterOperatorWord? previous (c :: rest) with
    | some tail => some tail
    | none => operatorTail? (some c) rest

/-- A pair of delimiters with blanks between them at the start. -/
def emptyPair? (opener closer : Char) (text : List Char) : Option (List Char) :=
  match text with
  | c :: rest =>
    if c = opener then
      let blanks := rest.takeWhile isBlank
      if (rest.drop blanks.length).head? = some closer then some (opener :: blanks ++ [closer])
      else none
    else none
  | [] => none

def isOperatorChar (c : Char) : Bool :=
  "-+*/%^&|~!=<>,".toList.contains c

/-- The name of an operator that allocates or frees, with the brackets of its array form. -/
def allocation? (text : List Char) : Option (List Char) :=
  let named (name : List Char) : Option (List Char) :=
    if name.isPrefixOf text then
      let rest := text.drop name.length
      let blanks := rest.takeWhile isBlank
      some (name ++ ((emptyPair? '[' ']' (rest.drop blanks.length)).map (blanks ++ ·)).getD [])
    else none
  named ['n', 'e', 'w'] <|> named ['d', 'e', 'l', 'e', 't', 'e']

/-- The token after the operator word and blanks: the call sign, the index sign, a symbol, an
allocation, or what stands before the parameters. -/
def operatorToken (text : List Char) : List Char :=
  let symbol := text.takeWhile isOperatorChar
  (emptyPair? '(' ')' text <|> emptyPair? '[' ']' text <|>
    (if symbol.isEmpty then none else some symbol) <|> allocation? text).getD (Text.before '(' text)

/-- The name of an operator whose token is `token`. -/
def operatorNamed (token : List Char) : List Char :=
  let token := [' '].intercalate (words token)
  match token with
  | [] => operatorWord
  | c :: _ =>
    if isLetter c || c == '_' then operatorWord ++ ' ' :: trim (stripTemplates token)
    else operatorWord ++ token.filter (· != ' ')

def operatorName? (symbol : List Char) : Option (List Char) :=
  (operatorTail? none symbol).map fun tail => operatorNamed (operatorToken (trimLeft tail))

/-- Drops the marks of generic arity; `inMark` says that one is under way. -/
def withoutArityFrom (inMark : Bool) : List Char → List Char
  | [] => []
  | c :: rest =>
    if inMark && isDecimal c then withoutArityFrom true rest
    else if c = '\x60' && rest.head?.any isDecimal then withoutArityFrom true rest
    else c :: withoutArityFrom false rest

/-- The text without marks of generic arity: a backquote and decimal digits. -/
def withoutArity (text : List Char) : List Char :=
  withoutArityFrom false text

/-- The endings by which constructors of types and of their static parts are named. -/
def constructorEndings : List (List Char) :=
  [['.', '.', 'c', 't', 'o', 'r'], ['.', '.', 'c', 'c', 't', 'o', 'r']]

/-- The name of the type whose constructor a dotted name is. -/
def constructedType? (name : List Char) : Option (List Char) :=
  (constructorEndings.find? fun ending => ending.isSuffixOf name).map fun ending =>
    trim (afterLast '.' (name.take (name.length - ending.length)))

/-- The last component of a dotted name, or the whole name if there is nothing in it. -/
def lastDotted (name : List Char) : List Char :=
  match constructedType? name with
  | some type => type
  | none =>
    let tail := trim (afterLast '.' name)
    if tail.isEmpty then name else tail

/-- The last component of a name with scopes. -/
def lastScoped (name : List Char) : List Char :=
  match lastIndexOf? [':', ':'] name with
  | some scope => if scope + 2 < name.length then trim (name.drop (scope + 2)) else name
  | none => if name.contains '.' then lastDotted name else name

/-- The short name in a symbol that is not blank. -/
def ofChars (symbol : List Char) : List Char :=
  let symbol := withoutOffset symbol
  match operatorName? symbol with
  | some name => name
  | none => lastScoped (trim (withoutArity (stripTemplates (Text.before '(' symbol))))

/-- The short name of the function that a symbol stands for. A blank symbol is its own name. -/
def ofSymbol (symbol : String) : String :=
  if Text.allBlank symbol.toList then symbol else String.ofList (ofChars symbol.toList)

/-- The name to look for in a source file: every operator is found under one word. -/
def anchor (name : String) : String :=
  let name := trim name.toList
  if (afterOperatorWord? none name).isSome then String.ofList operatorWord else String.ofList name

end FrameLens.FunctionName

namespace FrameLens

/-! ## Frames

One frame of a call stack: the module and symbol that were running, and the place in the source if
the debugger knew it. -/

structure Frame where
  index : Int
  moduleName : String
  symbol : String
  isInline : Bool := false
  reportedLine : Option Int := none
  sourcePath : Option String := none
  sourceLine : Option Int := none
deriving DecidableEq, Repr, Inhabited

namespace Frame

def functionName (frame : Frame) : String :=
  FunctionName.ofSymbol frame.symbol

/-- The path and line of the frame's source, if both are known. -/
def place? (frame : Frame) : Option (String × Int) := do
  let path ← frame.sourcePath
  let line ← frame.sourceLine
  if path.isEmpty then none else some (path, line)

def hasLocation (frame : Frame) : Bool :=
  frame.place?.isSome

def location (frame : Frame) : String :=
  match frame.place? with
  | some (path, line) =>
    String.ofList (PathName.lastComponent path.toList ++ ':' :: Text.intDigits line)
  | none => "(no file)"

/-- The frame on one line. -/
def describe (frame : Frame) : String :=
  String.ofList (Text.zeroPadded 2 frame.index) ++ "  " ++
    (if frame.isInline then "[Inline] " else "") ++ frame.moduleName ++ "!" ++
    frame.functionName ++ "  " ++ frame.location

end Frame

end FrameLens
