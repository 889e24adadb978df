import FrameLens.CommandLine.Invocation
import FrameLens.CommandLine.StackCommands

/-!
# Commands that keep

Showing and changing what is kept between runs: the templates and the settings.
-/

namespace FrameLens

variable {m : Type → Type} [Monad m] [Host m]

/-- Changes a template as asked. Gives the store and the word for what was done. -/
def changeTemplate (store : TemplateStore) (mode : Mode) (change : TemplateChange) :
    Run m (TemplateStore × String) := do
  match change with
  | .keep => return (store, "shown")
  | .reset =>
    let (store, ()) ← onStore (store.withMode mode.name store.reset)
    return (store, "reset")
  | .replace text =>
    let template ← Run.valid (← Run.host text.read)
    let (store, ()) ← onStore (store.withMode mode.name fun mode => store.set mode template)
    return (store, "saved")

def runTemplate (form : ReportForm) (mode : Mode) (change : TemplateChange) : Run m Unit := do
  let store ← currentStore
  let (store, verdict) ← changeTemplate store mode change
  let (store, template) ← onStore (store.withMode mode.name store.get)
  let (store, isDefault) ← onStore (store.withMode mode.name store.isDefault)
  let path := store.path.toText
  let plain : LooseText :=
    if change = .keep then template
    else "Template '" ++ mode.name ++ "' " ++ verdict ++ " (" ++ path ++ ")"
  form.print .template
    [("verdict", .string verdict), ("mode", .string mode.name), ("is_default", .bool isDefault)]
    [("mode", .string mode.name), ("template", .string template), ("path", .string path)]
    [lineOf plain]

namespace ConfigChanges

def isRemap (remap : Remap) : Json → Bool
  | .object fields =>
    match fields.length, Json.get? fields "from", Json.get? fields "to" with
    | 2, some (.string source), some (.string target) => remap == ⟨source, target⟩
    | _, _, _ => false
  | _ => false

/-- The stored remaps; what is no list counts as none. -/
def storedRemaps (current : Json.Fields) : List Json :=
  match Json.get? current "path_remaps" with
  | some (.array items) => items
  | _ => []

/-- The remaps after the change: those that stay, and then the new ones that are not among them. -/
def remapsAfter (changes : ConfigChanges) (current : Json.Fields) : List Json :=
  let kept := if changes.clearsRemaps then [] else storedRemaps current
  let added := changes.remaps.filter fun remap => !kept.any (isRemap remap)
  kept ++ added.map Settings.remapJson

/-- The field of a value that was asked for. -/
def optionField (key : LooseText) (encode : α → Json) (value : Option α) : Json.Fields :=
  (value.map fun value => (key, encode value)).toList

def updates (changes : ConfigChanges) (current : Json.Fields) : Json.Fields :=
  let remaps : Json.Fields :=
    if changes.clearsRemaps || !changes.remaps.isEmpty then
      [("path_remaps", .array (changes.remapsAfter current))]
    else []
  optionField "frames_to_annotate" Json.int changes.frames ++
    optionField "max_source_lines" Json.int changes.maxLines ++
    optionField "current_line_marker"
      (fun marker => .string (LooseText.ofString marker).trim) changes.marker ++
    optionField "near_miss_chars" Json.int changes.nearMiss ++
    remaps

def hasBlankMarker (changes : ConfigChanges) : Bool :=
  changes.marker.any fun marker => Text.allBlank marker.toList

end ConfigChanges

def shownField (field : LooseText × Json) : LooseText :=
  "  " ++ field.1 ++ " = " ++ String.ofList field.2.displayInner

def saveSettings (form : ReportForm) (directory : Path) (updates : Json.Fields) : Run m Unit := do
  let path ← Run.perform (do
    let written ← Config.write directory updates
    return ⟨written.notes, written.result.mapError Failure.file⟩)
  let keys := (updates.map Prod.fst).mergeSort LooseText.comesBefore
  form.print .config
    [("verdict", .string "saved"), ("keys", .array (keys.map Json.string))]
    (("config_path", .string path) :: updates)
    ((LooseText.ofString "Saved settings:" :: updates.map shownField ++
      ["Config written to " ++ path]).map lineOf)

def settingsTable (settings : Settings) : Except OutOfRange LooseText :=
  let fields := settings.toFields.filter fun field =>
    field.1 != LooseText.ofString "path_remaps"
  let rows := fields.map fun field => [field.1, LooseText.ofChars field.2.displayInner]
  Report.table ["setting", "value"] rows 0

def remapList (settings : Settings) : LooseText :=
  let rows : List LooseText :=
    settings.remaps.map fun remap => "  " ++ remap.source ++ " -> " ++ remap.target
  Report.titled "Path remaps:" (if rows.isEmpty then ["  (none)"] else rows) 0

def showSettings (form : ReportForm) (directory : Path) : Run m Unit := do
  let settings ← Run.perform (Config.loadSettings directory)
  let path := Config.filePath directory
  let isThere ← Run.valid ((← Run.host (Host.pathExists path)).mapError Failure.file)
  let table ← Run.valid ((settingsTable settings).mapError Failure.outOfRange)
  form.print .config
    [("verdict", .string "current"), ("exists", .bool isThere)]
    [("config_path", .string path), ("settings", .object settings.toFields)]
    (["Config: " ++ path, table, remapList settings].map lineOf)

/-- Shows or changes the settings. After a change they are shown only if that was asked for, and
never in a second envelope. -/
def runConfig (form : ReportForm) (changes : ConfigChanges) : Run m Unit := do
  let directory ← configDirectory
  let current ← Run.valid
    ((← Run.noted (← Run.host (Config.load directory))).mapError Failure.file)
  if changes.hasBlankMarker then Run.misuse .blankMarker
  let updates := changes.updates current
  if updates.isEmpty then showSettings form directory
  else
    saveSettings form directory updates
    if changes.showsSettings && !form.inEnvelope then showSettings form directory

end FrameLens
