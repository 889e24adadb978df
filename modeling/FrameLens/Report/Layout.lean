import FrameLens.Code.Extraction
import FrameLens.Json.Value
import FrameLens.Stack.Frame
import FrameLens.Text.Integer
import FrameLens.Text.Loose
import FrameLens.Text.Offset

/-!
# Reports

The parts of a plain report, and frames and outcomes as the fields of a report in an envelope.
-/

namespace FrameLens.Report

/-! ## Plain reports

Sections, fenced blocks and tables. A report with a budget shows that many rows and counts the
others; a negative budget counts from the end, and zero shows everything. -/

/-- The rows before a cut that is counted from the end if it is negative. -/
def takeSigned (count : Int) (rows : List α) : List α :=
  rows.take (Text.cutPlace rows.length count)

/-- Whether a budget leaves rows out. -/
def exceeds (budget : Int) (rows : List α) : Bool :=
  budget != 0 && budget < rows.length

/-- Tells how many rows are left out. -/
def moreNote (budget : Int) (rows : List α) : String :=
  "(+" ++ String.ofList (Text.intDigits (rows.length - budget)) ++ " more)"

/-- A title with lines below it. -/
def titled (title : LooseText) (rows : List LooseText) (budget : Int) : LooseText :=
  if exceeds budget rows then
    LooseText.joinLines
      (title :: takeSigned budget rows ++ [LooseText.ofString ("  " ++ moreNote budget rows)])
  else LooseText.joinLines (title :: rows)

def fenced (text language : LooseText) : LooseText :=
  "\x60\x60\x60" ++ language ++ "\n" ++ text.trimRight ++ "\n\x60\x60\x60"

/-- Widens columns to the cells of a row; further cells have no column. -/
def widen : List Nat → List LooseText → List Nat
  | [], _ => []
  | widths, [] => widths
  | width :: widths, cell :: cells => max width cell.length :: widen widths cells

/-- The widths of the columns: of the headers and of all rows, shown or not. -/
def columnWidths (headers : List LooseText) (rows : List (List LooseText)) : List Nat :=
  rows.foldl widen (headers.map List.length)

def blank : CodePoint := .char ' '

/-- The cells of a row, each as wide as its column. A cell without a column has no place. -/
def padCells : List Nat → List LooseText → Except OutOfRange (List LooseText)
  | _, [] => .ok []
  | [], _ :: _ => .error .item
  | width :: widths, cell :: cells =>
    (padCells widths cells).map fun padded => Text.padEnd width blank cell :: padded

/-- Cells with two blanks between neighbours. -/
def joinCells (cells : List LooseText) : LooseText :=
  [blank, blank].intercalate cells

def tableRow (widths : List Nat) (row : List LooseText) : Except OutOfRange LooseText :=
  (padCells widths row).map fun cells => (joinCells cells).trimRight

def table (headers : List LooseText) (rows : List (List LooseText)) (budget : Int) :
    Except OutOfRange LooseText := do
  if rows.isEmpty then return "(none)"
  let widths := columnWidths headers rows
  let header := (headers.zip widths).map fun (header, width) => Text.padEnd width blank header
  let rule := widths.map fun width => List.replicate width (.char '-')
  let shown ← (if exceeds budget rows then takeSigned budget rows else rows).mapM (tableRow widths)
  let more := if exceeds budget rows then [LooseText.ofString (moreNote budget rows)] else []
  return LooseText.joinLines (joinCells header :: joinCells rule :: shown ++ more)

end FrameLens.Report

namespace FrameLens

/-! ## Records

Frames and outcomes as the fields that a report shows. -/

/-- A value that may be absent. -/
def Json.ofOption (encode : α → Json) : Option α → Json
  | some value => encode value
  | none => .null

def Frame.toFields (frame : Frame) : Json.Fields := [
  ("index", .int frame.index),
  ("inline", .bool frame.isInline),
  ("module", .string frame.moduleName),
  ("symbol", .string frame.symbol),
  ("function", .string frame.functionName),
  ("reported_line", Json.ofOption Json.int frame.reportedLine),
  ("source_path", Json.ofOption (fun path => .string (LooseText.ofString path)) frame.sourcePath),
  ("source_line", Json.ofOption Json.int frame.sourceLine)]

def Span.toFields (span : Span) : Json.Fields := [
  ("start", .int span.start),
  ("end", .int span.stop),
  ("start_line", .int span.firstLine),
  ("end_line", .int span.lastLine),
  ("strategy", .string span.strategy.label)]

def Outcome.toFields (outcome : Outcome) : Json.Fields := [
  ("ok", .bool outcome.isLocated),
  ("status", .string outcome.status),
  ("message", .string outcome.message),
  ("path", Json.ofOption Json.string outcome.path?),
  ("range", Json.ofOption (fun span => .object span.toFields) outcome.span?),
  ("code", .string outcome.code)]

end FrameLens
