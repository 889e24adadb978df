import FrameLens.Failure
import FrameLens.Json.Value
import FrameLens.Settings
import FrameLens.Text.Integer

/-!
# Settings as fields

Settings are kept as the fields of a JSON object. A field that is missing or cannot be used leaves
the default; a number below its minimum is raised to it.
-/

namespace FrameLens.Settings

/-- The integer that a value stands for, if it stands for one; a fraction is cut off. An infinity
has no integer and is no value that could be passed over either. -/
def integerOf? : Json → Except Failure (Option Int)
  | .int value => .ok (some value)
  | .bool value => .ok (some (if value then 1 else 0))
  | .string value => .ok (value.plain.toOption.bind Text.parseInt?)
  | .real (.infinite _) => .error .infiniteNumber
  | .real value => .ok value.truncate?
  | .null => .ok none
  | .array _ => .ok none
  | .object _ => .ok none

/-- The integer in a field, no less than `minimum`. -/
def readInteger (fields : Json.Fields) (key : String) (default minimum : Int) :
    Except Failure Int :=
  match Json.get? fields key with
  | none => .ok default
  | some value =>
    (integerOf? value).map fun number =>
      match number with
      | some number => max minimum number
      | none => default

def readMarker (fields : Json.Fields) (default : LooseText) : LooseText :=
  match Json.get? fields "current_line_marker" with
  | some (.string marker) => if marker.isBlank then default else marker.trim
  | _ => default

/-- A value as a text. An integer of too many digits has none, and neither has what it is in. -/
def shown (value : Json) : Except Failure LooseText :=
  if value.isBounded then .ok value.display else .error .longInteger

/-- The remap that a value stands for: an object with a source. -/
def remapOf? : Json → Except Failure (Option Remap)
  | .object fields =>
    match Json.get? fields "from" with
    | some source =>
      if source.isPresent then do
        let source ← shown source
        let target ← shown ((Json.get? fields "to").getD (.string []))
        return some ⟨source, target⟩
      else .ok none
    | none => .ok none
  | _ => .ok none

def readRemaps (fields : Json.Fields) : Except Failure (List Remap) :=
  match Json.get? fields "path_remaps" with
  | some (.array items) => (items.mapM remapOf?).map List.reduceOption
  | _ => .ok []

/-- The integers and the marker in the fields of an object. -/
def ofPlainFields (fields : Json.Fields) : Except Failure Settings := do
  let base : Settings := {}
  return {
    framesToAnnotate := ← readInteger fields "frames_to_annotate" base.framesToAnnotate 0
    maxSourceLines := ← readInteger fields "max_source_lines" base.maxSourceLines 1
    marker := readMarker fields base.marker
    anchorWindow := ← readInteger fields "anchor_window_chars" base.anchorWindow 256
    candidateCutoff := ← readInteger fields "candidate_cutoff_chars" base.candidateCutoff 0
    nearMiss := ← readInteger fields "near_miss_chars" base.nearMiss 0
    headerBacktrack := ← readInteger fields "header_backtrack_chars" base.headerBacktrack 64
    headerMaxLines := ← readInteger fields "header_max_lines" base.headerMaxLines 1
    fallbackRadius := ← readInteger fields "fallback_radius" base.fallbackRadius 0 }

/-- The settings in the fields of an object. The remaps are read last. -/
def ofFields (fields : Json.Fields) : Except Failure Settings := do
  let settings ← ofPlainFields fields
  return { settings with remaps := ← readRemaps fields }

/-- The settings in a value; one that is no object gives the defaults. -/
def ofJson : Json → Except Failure Settings
  | .object fields => ofFields fields
  | _ => .ok {}

def remapJson (remap : Remap) : Json :=
  .object [("from", .string remap.source), ("to", .string remap.target)]

def toFields (settings : Settings) : Json.Fields := [
  ("frames_to_annotate", .int settings.framesToAnnotate),
  ("max_source_lines", .int settings.maxSourceLines),
  ("current_line_marker", .string settings.marker),
  ("anchor_window_chars", .int settings.anchorWindow),
  ("candidate_cutoff_chars", .int settings.candidateCutoff),
  ("near_miss_chars", .int settings.nearMiss),
  ("header_backtrack_chars", .int settings.headerBacktrack),
  ("header_max_lines", .int settings.headerMaxLines),
  ("fallback_radius", .int settings.fallbackRadius),
  ("path_remaps", .array (settings.remaps.map remapJson))]

end FrameLens.Settings
