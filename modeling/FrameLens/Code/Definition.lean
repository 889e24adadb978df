import FrameLens.Code.Decoration
import FrameLens.Code.Occurrence
import FrameLens.Code.Signature
import FrameLens.Code.View
import FrameLens.Settings

/-!
# Definitions found by name

The occurrences of a name near the target are tried in turn. One is a definition if the name, an
optional argument list in angle brackets and a parameter list are followed by decorations and a
body. It is taken if its lines cover the target line, or if the name is close enough to the target.
-/

namespace FrameLens.Definition

/-- The name under which every overloaded operator is looked for. -/
def operatorName : List Char := ['o', 'p', 'e', 'r', 'a', 't', 'o', 'r']

/-- The offset after the name at `hit` and an argument list, where parameters have to begin. -/
def parameters? (s : Text) (name : List Char) (hit : Int) : Except OutOfRange (Option Int) := do
  let i := hit + name.length
  let i ← if name = operatorName then Decoration.skipOperator s i else pure i
  let i ← s.skipBlanks i
  if s.at? i = some '<' then
    match ← s.matchingAngle i with
    | none => return none
    | some close => return some (← s.skipBlanks (close + 1))
  else return some i

/-- The offset of the body or arrow of the definition whose name is at `hit`. -/
def body? (v : View) (name : List Char) (hit : Int) : Except OutOfRange (Option Int) := do
  let s := v.cleaned
  match ← parameters? s name hit with
  | none => return none
  | some i =>
    match s.matchingParen? i with
    | none => return none
    | some close =>
      let shapes : Decoration.Shapes :=
        { arrows := v.dialect.arrowBodies, braceInitializers := v.dialect.braceInitializers }
      Decoration.skip s shapes (close + 1)

/-- The span from the signature around `hit` up to `stop`. -/
def spanTo (v : View) (hit stop : Int) (settings : Settings) : Except OutOfRange Span := do
  let start ← Signature.start v hit settings.headerMaxLines
  return Span.ofOffsets v start stop .named

/-- The definition whose name is at `hit`, if it is one and the target belongs to it. -/
def at? (v : View) (name : List Char) (hit target : Int) (settings : Settings) :
    Except OutOfRange (Option Span) := do
  let s := v.cleaned
  let line := v.lineOf target
  match ← body? v name hit with
  | none => return none
  | some body =>
    if s.startsWithAt ['=', '>'] body then
      match s.findFrom? [';'] (body + 2) with
      | none => return none
      | some stop =>
        let span ← spanTo v hit (stop + 1) settings
        return if span.firstLine - 1 ≤ line ∧ line ≤ span.lastLine + 1 then some span else none
    else
      match s.matchingBrace? body with
      | none => return none
      | some close =>
        let span ← spanTo v hit (close + 1) settings
        if span.covers line then return some span
        return if (target - hit).natAbs < settings.nearMiss then some span else none

/-- What a search by name found, and how many occurrences it tried. -/
structure Search where
  tried : Nat
  found : Option (Nat × Span)
deriving DecidableEq, Repr

def tryHits (v : View) (name : List Char) (target : Int) (settings : Settings) :
    Nat → List Nat → Except OutOfRange Search
  | tried, [] => .ok ⟨tried, none⟩
  | tried, hit :: hits => do
    if !(← Occurrence.isWhole v.cleaned hit name) then tryHits v name target settings tried hits
    else
      match ← at? v name hit target settings with
      | some span => return ⟨tried + 1, some (hit, span)⟩
      | none => tryHits v name target settings (tried + 1) hits

def searchTrimmed (v : View) (name : List Char) (target : Int) (settings : Settings) :
    Except OutOfRange Search :=
  tryHits v name target settings 0
    (Occurrence.near v.cleaned name target settings.anchorWindow settings.candidateCutoff)

/-- The search for the definition of a name near an offset. There is none to be made for a blank
name or in an empty text. -/
def search? (v : View) (name : String) (target : Int) (settings : Settings) :
    Except OutOfRange (Option Search) :=
  let name := Text.trim name.toList
  if name.isEmpty || v.cleaned.isEmpty then .ok none
  else (searchTrimmed v name target settings).map some

def locate (v : View) (name : String) (target : Int) (settings : Settings) :
    Except OutOfRange (Option Span) :=
  (search? v name target settings).map fun search => do
    let search ← search
    let (_, span) ← search.found
    return span

end FrameLens.Definition
