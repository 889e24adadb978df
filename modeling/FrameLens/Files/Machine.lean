import FrameLens.Files.Host
import FrameLens.Text.Search

/-!
# Machines

A computer as a value: its files by absolute path, the directory where relative paths begin, its
variables, and the input that has not been read. Programs that run on a host run on a machine
without any effect outside it.
-/

namespace FrameLens

inductive FileEntry where
  | file (octets : Octets)
  | directory
deriving DecidableEq, Repr

def FileEntry.kind : FileEntry → FileKind
  | file _ => .file
  | directory => .directory

/-- The names from the root to a file or directory. -/
abbrev Place := List Octets

/-- A computer. An entry is found by its place. -/
structure Machine where
  entries : List (Place × FileEntry) := []
  workingDirectory : Place := []
  environment : List (String × LooseText) := []
  input : InputText := .plain []
  /-- Whether reading a file is refused. -/
  readingDenied : Bool := false
  /-- The directories in which nothing may be looked up. -/
  locked : List Place := []
deriving DecidableEq, Repr

namespace Machine

/-- The number of octets that a name may have. -/
def maxNameLength : Nat := 255

/-- The number of octets that a path may have. -/
def maxPathLength : Nat := 4095

/-- The name of the directory itself. -/
def here : Octets := [0x2E]

/-- The name of the directory above. -/
def up : Octets := [0x2E, 0x2E]

/-- The octet between the names of a path. -/
def separator : UInt8 := 0x2F

/-- The entry at a place; the root is a directory. -/
def entry? (machine : Machine) (place : Place) : Option FileEntry :=
  if place.isEmpty then some .directory else machine.entries.lookup place

def put (machine : Machine) (place : Place) (entry : FileEntry) : Machine :=
  { machine with
    entries := (place, entry) :: machine.entries.filter fun other => other.1 != place }

def remove (machine : Machine) (place : Place) : Machine :=
  { machine with entries := machine.entries.filter fun other => other.1 != place }

/-- Goes from a place along names. Each of them needs a directory in which it may be looked up. -/
def walk (machine : Machine) (place : Place) : List Octets → Except FileCause Place
  | [] => .ok place
  | name :: rest =>
    match machine.entry? place with
    | none => .error .missing
    | some (.file _) => .error .notDirectory
    | some .directory =>
      if name.isEmpty then walk machine place rest
      else if machine.locked.contains place then .error .denied
      else if name = here then walk machine place rest
      else if name = up then walk machine place.dropLast rest
      else if maxNameLength < name.length then .error .nameTooLong
      else walk machine (place ++ [name]) rest

/-- The place that the octets of a path stand for, whether or not there is anything. -/
def locate (machine : Machine) (octets : Octets) : Except FileCause Place :=
  if octets.isEmpty then .error .missing
  else if maxPathLength < octets.length then .error .nameTooLong
  else
    let start := if octets.head? = some separator then [] else machine.workingDirectory
    machine.walk start (Text.splitOn separator octets)

def find (machine : Machine) (octets : Octets) : Except FileCause (Place × FileEntry) := do
  let place ← machine.locate octets
  match machine.entry? place with
  | some entry => return (place, entry)
  | none => .error .missing

/-- The place where a file or directory may be put: below a directory. -/
def placeFor (machine : Machine) (octets : Octets) : Except FileCause Place := do
  let place ← machine.locate octets
  match machine.entry? place.dropLast with
  | none => .error .missing
  | some (.file _) => .error .notDirectory
  | some .directory => return place

/-- Does something with the octets of a path. What is refused names the path. -/
def onPath (path : LooseText) (action : Octets → Except FileCause α) : Except FileFault α :=
  match PathOctets.encode path with
  | .error fault => .error (.malformed fault)
  | .ok octets => (action octets).mapError fun cause => .refused cause path

def kind (machine : Machine) (path : LooseText) : Except FileFault FileKind :=
  onPath path fun octets => (machine.find octets).map fun found => found.2.kind

def readFile (machine : Machine) (path : LooseText) : Except FileFault Octets :=
  if machine.readingDenied then .error (.refused .denied path)
  else
    onPath path fun octets => do
      match ← machine.find octets with
      | (_, .file contents) => return contents
      | (_, .directory) => throw .isDirectory

def writeFile (machine : Machine) (path : LooseText) (contents : Octets) :
    Except FileFault Machine :=
  onPath path fun octets => do
    let place ← machine.placeFor octets
    if machine.entry? place = some .directory then throw .isDirectory
    return machine.put place (.file contents)

def makeDirectory (machine : Machine) (path : LooseText) : Except FileFault Machine :=
  onPath path fun octets => do
    let place ← machine.placeFor octets
    if (machine.entry? place).isSome then throw .alreadyThere
    return machine.put place .directory

def removeFile (machine : Machine) (path : LooseText) : Except FileFault Machine :=
  onPath path fun octets => do
    match ← machine.find octets with
    | (place, .file _) => return machine.remove place
    | (_, .directory) => throw .isDirectory

/-- Runs a change that may fail. -/
def attempt (change : Machine → Except FileFault Machine) :
    StateM Machine (Except FileFault Unit) := do
  match change (← get) with
  | .ok machine => set machine; return .ok ()
  | .error fault => return .error fault

instance : Host (StateM Machine) where
  kind path := do return (← get).kind path
  readFile path := do return (← get).readFile path
  writeFile path contents := attempt fun machine => machine.writeFile path contents
  makeDirectory path := attempt fun machine => machine.makeDirectory path
  readInput := do
    let machine ← get
    set { machine with input := .plain [] }
    return machine.input
  workingDirectory := do
    return .char '/' :: [.char '/'].intercalate ((← get).workingDirectory.map PathOctets.decode)
  environment? name := do return (← get).environment.lookup name

end Machine

end FrameLens
