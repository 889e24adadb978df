import FrameLens.Code.Nesting
import FrameLens.Text.Words
import FrameLens.Text.Search

/-!
# Headers of blocks

The header of a block is the text before its opening brace, back to the end of the statement or
block before it. Small tests on the header tell functions and property accessors from control
statements, types and lambdas.

A name hint is the name that the stack gives; a blank hint says nothing.
-/

namespace FrameLens.Header

open FrameLens.Text (contains trim hasKeyword endsWord blanksThen anyPosition isWordChar isBlank
  isAlphanumeric)

/-! ## What a header reads like -/

/-- Keywords that a condition in parentheses follows. -/
def controlKeywords : List String :=
  ["if", "for", "foreach", "while", "switch", "catch", "else", "do", "try", "using", "lock",
    "fixed"]

def typeKeywords : List String := ["class", "struct", "namespace", "enum", "union"]

/-- The header holds a control keyword with an opening parenthesis after it. -/
def isControl (header : List Char) : Bool :=
  hasKeyword controlKeywords (blanksThen '(') header

/-- The header holds a type keyword ahead of any parameter list. -/
def isType (header : List Char) : Bool :=
  hasKeyword typeKeywords endsWord (Text.before '(' header)

/-- The header holds a capture list with a parameter list after it. -/
def isLambda (header : List Char) : Bool :=
  anyPosition
    (fun _ rest => rest.head? == some ']' && blanksThen '(' (rest.drop 1))
    none header

/-- Whether the header may be that of the function hinted at. -/
def matchesHint (header hint : List Char) : Bool :=
  let hint := trim hint
  if hint.isEmpty then true
  else if "operator".toList.isPrefixOf hint then contains "operator".toList header
  else contains hint header

def isFunction (header hint : List Char) : Bool :=
  header.contains '(' && !isControl header && !isType header && !isLambda header &&
    matchesHint header hint

/-- The keywords of accessors without a body of their own. -/
def accessorKeywords : List String := ["get", "set", "init", "add", "remove"]

/-- The accessors that a name beginning in a certain way is compiled from. -/
def accessorsOf : List (String × List String) :=
  [("get_", ["get"]), ("set_", ["set", "init"]), ("add_", ["add"]), ("remove_", ["remove"])]

def wantedAccessors (hint : List Char) : List String :=
  let hint := trim hint
  if accessorKeywords.contains (String.ofList hint) then [String.ofList hint]
  else
    match accessorsOf.find? fun entry => entry.1.toList.isPrefixOf hint with
    | some entry => entry.2
    | none => []

def lastWord (text : List Char) : List Char :=
  ((Text.trimRight text).reverse.takeWhile isWordChar).reverse

/-- The header ends with an accessor keyword that the hint asks for. -/
def isAccessor (header hint : List Char) : Bool :=
  !header.contains '(' && (wantedAccessors hint).contains (String.ofList (lastWord header))

def accepts (header hint : List Char) : Bool :=
  isFunction header hint || isAccessor header hint

/-! ## Where a header begins -/

/-- The last of the first `count` positions whose character does not satisfy `p`. -/
def lastOther? (s : Text) (p : Char → Bool) : Nat → Option (Nat × Char)
  | 0 => none
  | count + 1 =>
    match s[count]? with
    | none => none
    | some c => if p c then lastOther? s p count else some (count, c)

/-- The last character before an offset that does not satisfy `p`; the offset must not be past the
end of the text. -/
def lastBefore? (s : Text) (p : Char → Bool) (i : Int) : Except OutOfRange (Option (Nat × Char)) :=
  if s.length < i then .error .character else .ok (lastOther? s p i.toNat)

/-- Whether a group in braces initializes a member: it stands on one line, holds no statement, and
follows a name or an argument list. -/
def isBraceInitializer (s : Text) (first last : Int) : Except OutOfRange Bool :=
  let inner := s.slice (first + 1) last
  if inner.contains '\n' || inner.contains ';' then .ok false
  else
    (lastBefore? s (fun c => c == ' ' || c == '\t') first).map fun found =>
      found.any fun (_, c) => isAlphanumeric c || c == '_' || c == '>'

/-- Walks back from an offset over at most `count` characters to the boundary before a header. -/
def boundaryWithin (s : Text) (braceInitializers : Bool) (floor : Int) :
    Nat → Int → Except OutOfRange Int
  | 0, i => .ok i
  | count + 1, i =>
    if i < floor then .ok i
    else
      match s.at? i with
      | none => .error .character
      | some c =>
        if c = ';' || c = '\x7b' then .ok i
        else if c = '\x7d' then do
          match ← s.matchingBraceBack i floor with
          | none => return i
          | some first =>
            let skips ← if braceInitializers then isBraceInitializer s first i else pure false
            if skips then boundaryWithin s braceInitializers floor count (first - 1) else return i
        else boundaryWithin s braceInitializers floor count (i - 1)

/-- The boundary before the header of the block whose brace is at `brace`, no more than
`maxChars` characters back. -/
def boundary (s : Text) (brace maxChars : Int) (braceInitializers : Bool) :
    Except OutOfRange Int :=
  let floor := max 0 (brace - maxChars)
  boundaryWithin s braceInitializers floor (brace - floor).toNat (brace - 1)

/-- The last `count` rows; all but the first ones if `count` is negative, and all if it is zero. -/
def lastRows (count : Int) (rows : List (List Char)) : List (List Char) :=
  if 0 < count then rows.drop (rows.length - count.toNat) else rows.drop (-count).toNat

/-- The header of the block whose brace is at `brace`: its last `maxLines` lines. -/
def before (s : Text) (brace maxChars maxLines : Int) (braceInitializers : Bool) :
    Except OutOfRange (List Char) := do
  let boundary ← boundary s brace maxChars braceInitializers
  let rows := Text.splitOn '\n' (Text.trimRight (s.slice (boundary + 1) brace))
  return trim (Text.joinLines (lastRows maxLines rows))

/-- An offset on the last line of the header above a brace; the brace itself if there is no
header. -/
def anchor (s : Text) (brace : Int) : Except OutOfRange Int :=
  (lastBefore? s isBlank brace).map fun found =>
    match found with
    | none => brace
    | some (i, c) => if c = ';' || c = '\x7b' || c = '\x7d' then brace else i

end FrameLens.Header
