import FrameLens.Code.View
import FrameLens.Text.Integer

/-!
# Snippets

A located function is shown as its lines with a marker before the target line, cropped to a window
around that line. Where no function was located, numbered lines around the target are shown.
-/

namespace FrameLens.Snippet

/-- Stands for the lines cropped above the window. -/
def omittedAbove : String := "// ... source omitted (above)"

/-- Stands for the lines cropped below the window. -/
def omittedBelow : String := "// ... source omitted (below)"

/-- The rows from the first number up to the second one that a window of `maxLines` rows around the
row `focus` shows of `total` rows. A window that would pass an edge is moved inward; without a
positive size everything is shown. -/
def window (total focus maxLines : Int) : Int × Int :=
  if maxLines ≤ 0 ∨ total ≤ maxLines then (0, total)
  else
    let first := max 0 (focus - Int.fdiv maxLines 2)
    let last := min total (first + maxLines)
    (max 0 (last - maxLines), last)

def marked (marker row : LooseText) : LooseText :=
  marker ++ .char ' ' :: row

/-- The row of a span's `total` rows that a target line falls on, or the nearest one. -/
def focusRow (span : Span) (total : Nat) (line : Int) : Int :=
  max 0 (min (line - span.firstLine) (total - 1))

def markedRows (v : View) (span : Span) (line : Int) (marker : LooseText) :
    Except OutOfRange (List LooseText × Int) :=
  let rows := (Text.lines (v.raw.slice span.start span.stop)).map LooseText.ofChars
  let focus := focusRow span rows.length line
  match rows[focus.toNat]? with
  | some row => .ok (rows.set focus.toNat (marked marker row), focus)
  | none => .error .item

def render (v : View) (span : Span) (line maxLines : Int) (marker : LooseText) :
    Except OutOfRange LooseText := do
  let (rows, focus) ← markedRows v span line marker
  let (first, last) := window rows.length focus maxLines
  let shown := (rows.take last.toNat).drop first.toNat
  let above := if 0 < first then [LooseText.ofString omittedAbove] else []
  let below := if last < rows.length then [LooseText.ofString omittedBelow] else []
  return LooseText.joinLines (above ++ shown ++ below)

def numberedRow (marker : LooseText) (isTarget : Bool) (number : Nat) (row : List Char) :
    LooseText :=
  let mark := if isTarget then marker else List.replicate marker.length (.char ' ')
  mark ++ LooseText.ofChars
    (' ' :: Text.padStart 6 ' ' (Text.natDigits number) ++ ':' :: ' ' :: row)

def numberedRows (marker : LooseText) (target : Int) : Nat → List (List Char) → List LooseText
  | _, [] => []
  | number, row :: rows =>
    numberedRow marker ((number : Int) == target) number row ::
      numberedRows marker target (number + 1) rows

/-- The lines around a target, at most `radius` of them on each side. -/
def nearby (v : View) (line radius : Int) (marker : LooseText) : LooseText :=
  if v.raw.isEmpty then []
  else
    let rows := v.lines
    let target := max 1 (min line rows.length)
    let first := max 1 (target - radius)
    let last := min (rows.length : Int) (target + max 0 radius)
    let shown := (rows.take last.toNat).drop (first - 1).toNat
    LooseText.joinLines (numberedRows marker target first.toNat shown)

end FrameLens.Snippet
