import FrameLens.Code.Cleaning
import FrameLens.Text.Offset
import FrameLens.Text.Search
import FrameLens.Text.Words

/-!
# Views and spans

A source text with its cleaned form and its lines, and the parts of it that are located.
-/

namespace FrameLens

/-! ## Views of a source file

A view holds the text of a file, its cleaned form, and the offset at which each line starts. Lines
are numbered from one; a line number out of range stands for the nearest line of the file. -/

/-- The offsets after the line feeds of a text that begins at `offset`. -/
def lineStartsFrom (offset : Nat) : List Char → List Nat
  | [] => []
  | c :: rest =>
    if c = '\n' then (offset + 1) :: lineStartsFrom (offset + 1) rest
    else lineStartsFrom (offset + 1) rest

/-- The offsets at which the lines of a text start. -/
def lineStarts (text : List Char) : List Nat :=
  0 :: lineStartsFrom 0 text

/-- One source file as the locators see it. -/
structure View where
  path : LooseText
  dialect : Dialect
  raw : Text
  cleaned : Text
  starts : Array Nat
  cleaned_eq : cleaned = (clean dialect raw.toList).toArray
  starts_eq : starts = (lineStarts raw.toList).toArray

namespace View

def ofText (path : LooseText) (dialect : Dialect) (text : List Char) : View where
  path := path
  dialect := dialect
  raw := text.toArray
  cleaned := (clean dialect text).toArray
  starts := (lineStarts text).toArray
  cleaned_eq := rfl
  starts_eq := rfl

def ofFile (path : LooseText) (text : List Char) : View :=
  ofText path (Dialect.ofPath path) text

def lineCount (v : View) : Int :=
  v.starts.size

def lineOf (v : View) (offset : Int) : Int :=
  max 1 (v.starts.countP fun (start : Nat) => decide ((start : Int) ≤ offset))

/-- Where a line starts, if there is a line of that number. -/
def start? (v : View) (line : Int) : Option Int :=
  if 1 ≤ line then v.starts[(line - 1).toNat]?.map (Int.ofNat ·) else none

/-- Where a line starts that must be there. -/
def startOf (v : View) (line : Int) : Except OutOfRange Int :=
  match v.start? line with
  | some start => .ok start
  | none => .error .item

/-- Where a line starts; a line past the end stands for the last character. -/
def offsetOfLine (v : View) (line : Int) : Int :=
  (v.start? (max 1 line)).getD (max 0 (v.raw.length - 1))

/-- The text of a line without its line ending; empty if there is no such line. -/
def lineText (v : View) (line : Int) : List Char :=
  match v.start? line with
  | none => []
  | some start =>
    let stop := ((v.start? (line + 1)).map (· - 1)).getD v.raw.length
    Text.dropEnd (· == '\r') (v.raw.slice start stop)

def lines (v : View) : List (List Char) :=
  Text.lines v.raw.toList

/-- The offset of the first character of a line that is neither a space nor a tab. -/
def targetOffset (v : View) (line : Int) : Int :=
  let offset := v.offsetOfLine line
  if v.lineCount < line then offset
  else v.raw.skipWhile (fun c => c == ' ' || c == '\t') offset

end View

/-! ## Spans

A located function: the offsets of its text, the lines on which that text begins and ends, and the
way in which it was found. -/

/-- How a span was found. -/
inductive Strategy where
  | named
  | enclosing
  | arrow
  | other (label : String)
deriving DecidableEq, Repr

namespace Strategy

def label : Strategy → String
  | named => "name-anchor"
  | enclosing => "enclosing-block"
  | arrow => "expression-bodied"
  | other label => label

end Strategy

/-- The text from `start` up to `stop`, which begins on `firstLine` and ends on `lastLine`. -/
structure Span where
  start : Int
  stop : Int
  firstLine : Int
  lastLine : Int
  strategy : Strategy
deriving DecidableEq, Repr

namespace Span

/-- The span between two offsets; its end is moved to the end of the text at most, and not before
its start. -/
def ofOffsets (v : View) (start stop : Int) (strategy : Strategy) : Span :=
  let stop := max start (min v.raw.length stop)
  { start := start
    stop := stop
    firstLine := v.lineOf start
    lastLine := v.lineOf (max start (stop - 1))
    strategy := strategy }

def lineCount (span : Span) : Int :=
  span.lastLine - span.firstLine + 1

def covers (span : Span) (line : Int) : Bool :=
  span.firstLine ≤ line && line ≤ span.lastLine

end Span

end FrameLens
