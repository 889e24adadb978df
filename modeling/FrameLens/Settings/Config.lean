import FrameLens.Files.Host
import FrameLens.Json.Reader
import FrameLens.Json.Writer
import FrameLens.Note
import FrameLens.Settings.Fields
import FrameLens.Text.Search

/-!
# The configuration file

Settings are kept in a file of a configuration directory. The directory is named by a variable, or
stands at the root of the project around the working directory. A file that is missing or cannot be
read counts as empty; whether there is one must be known, though. Three variables override the file.
-/

namespace FrameLens.Config

variable {m : Type → Type} [Monad m] [Host m]

/-- The name of the configuration directory in a project. -/
def directoryName : String := ".stackdigest"

def fileName : String := "config.json"

def directoryVariable : String := "STACKDIGEST_CONFIG_DIR"

/-- The first of a directory and those above it that a version store marks as a project. The root
itself is none. -/
def projectAbove (root : PathRoot) : List LooseText → m (Except FileFault (Option Path))
  | [] => return .ok none
  | part :: above => do
    let path : Path := ⟨root, (part :: above).reverse⟩
    match ← Host.pathExists (path.child ".git").toText with
    | .ok true => return .ok (some path)
    | .ok false => projectAbove root above
    | .error fault => return .error fault

/-- The root of the project around a directory, or the directory itself. -/
def projectRoot (start : LooseText) : m (Except FileFault Path) := do
  match PathOctets.encode start with
  | .error fault => return .error (.malformed fault)
  | .ok _ =>
    let path := Path.absolute (← Host.workingDirectory) start
    return (← projectAbove path.root path.parts.reverse).map (·.getD path)

def directory : m (Except FileFault Path) := do
  match ← Host.environment? directoryVariable with
  | some name => if name.isEmpty then ofProject else return .ok (Path.ofText name)
  | none => ofProject
where
  /-- The configuration directory of the project around the working directory. -/
  ofProject : m (Except FileFault Path) := do
    return (← projectRoot Path.here).map (·.child directoryName)

/-- Why a file does not hold fields. -/
inductive Unusable where
  | unreadable (reason : LooseText)
  | noObject
deriving DecidableEq, Repr

def fieldsOf (octets : Octets) : Except Unusable Json.Fields :=
  match Utf8.decodeStrict octets with
  | .error part => .error (.unreadable (Failure.malformedText part).message)
  | .ok text =>
    match Json.read? (Text.unifyLineEndings text) with
    | none => .error (.unreadable "malformed JSON")
    | some (.object fields) => .ok fields
    | some _ => .error .noObject

/-- The fields in a file that is there. -/
def readFields (path : LooseText) : m (Except Unusable Json.Fields) := do
  match ← Host.readFile path with
  | .error fault => return .error (.unreadable fault.message)
  | .ok octets => return fieldsOf octets

def ignoredMessage (what : String) (path : LooseText) : Unusable → LooseText
  | .unreadable reason => "Ignoring unreadable " ++ what ++ " " ++ path ++ ": " ++ reason
  | .noObject => "Ignoring " ++ what ++ " " ++ path ++ ": expected a JSON object"

/-- The fields in a file that may be missing. One that cannot be used has none, with a warning. -/
def readOrWarn (origin what : String) (path : LooseText) :
    m (Noted (Except FileFault Json.Fields)) := do
  match ← Host.pathExists path with
  | .error fault => return pure (.error fault)
  | .ok false => return pure (.ok [])
  | .ok true =>
    match ← readFields path with
    | .ok fields => return pure (.ok fields)
    | .error unusable => return ⟨[.warning origin (ignoredMessage what path unusable)], .ok []⟩

def octetsOf (fields : Json.Fields) : Octets :=
  Utf8.encode ((Json.object fields).write ++ ['\n'])

def filePath (directory : Path) : LooseText :=
  (directory.child fileName).toText

def load (directory : Path) : m (Noted (Except FileFault Json.Fields)) :=
  readOrWarn "stackdigest.config" "config" (filePath directory)

/-- Sets fields of the configuration file, and makes its directory if need be. Gives the path. -/
def write (directory : Path) (updates : Json.Fields) :
    m (Noted (Except FileFault LooseText)) := do
  match ← Directories.make directory with
  | .error fault => return pure (.error fault)
  | .ok () =>
    let existing ← load directory
    match existing.result with
    | .error fault => return ⟨existing.notes, .error fault⟩
    | .ok fields =>
      let path := filePath directory
      let written ← Host.writeFile path (octetsOf (Json.update fields updates))
      return ⟨existing.notes, written.map fun () => path⟩

/-- The integer in a variable, no less than `minimum`; without one the value stays. -/
def override (name : String) (value minimum : Int) : m Int := do
  match ← Host.environment? name with
  | none => return value
  | some text =>
    return match text.plain.toOption.bind Text.parseInt? with
      | some number => max minimum number
      | none => value

def overrideAll (settings : Settings) : m Settings := do
  let frames ← override "STACKDIGEST_FRAMES" settings.framesToAnnotate 0
  let lines ← override "STACKDIGEST_MAX_LINES" settings.maxSourceLines 1
  let nearMiss ← override "STACKDIGEST_NEAR_MISS_CHARS" settings.nearMiss 0
  return { settings with framesToAnnotate := frames, maxSourceLines := lines, nearMiss := nearMiss }

/-- The settings of the configuration file with the variables put in. -/
def loadSettings (directory : Path) : m (Noted (Except Failure Settings)) := do
  let fields ← load directory
  match (fields.result.mapError Failure.file).bind Settings.ofFields with
  | .error failure => return ⟨fields.notes, .error failure⟩
  | .ok settings => return ⟨fields.notes, .ok (← overrideAll settings)⟩

def loadCurrent : m (Noted (Except Failure Settings)) := do
  match ← directory with
  | .error fault => return pure (.error (.file fault))
  | .ok directory => loadSettings directory

end FrameLens.Config
