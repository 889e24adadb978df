import FrameLens.Code.Extraction
import FrameLens.Failure
import FrameLens.Settings
import FrameLens.Source.ViewCache
import FrameLens.Stack.Frame

/-!
# The source of frames

The function behind a place that a stack names. The path is moved to this machine first; a place
that is unknown, a file that is missing, and one that cannot be read are outcomes, not failures.
-/

namespace FrameLens.FrameSource

variable {m : Type → Type} [Monad m] [Host m]

def unreadableNote (path : LooseText) (cause : FileCause) (refused : LooseText) : Note :=
  .warning "stackdigest.source.extractor"
    ("Could not read " ++ path ++ ": " ++ FileFault.refusal cause refused)

/-- Extracts the function of a symbol around a line of a file on this machine. -/
def extractAt (cache : ViewCache) (settings : Settings) (path : LooseText) (line : Int)
    (symbol : String) : m (ViewCache × Noted (Except Failure Outcome)) := do
  if !(← Host.isFile path) then return (cache, pure (.ok (.fileMissing path)))
  else
    let (cache, built) ← cache.getOrBuild path
    match built.result with
    | .error (.malformed fault) => return (cache, ⟨built.notes, .error (.file (.malformed fault))⟩)
    | .error (.refused cause refused) =>
      let outcome := Outcome.unreadable path cause.reason
      return (cache, ⟨built.notes ++ [unreadableNote path cause refused], .ok outcome⟩)
    | .ok view =>
      match Extraction.run view (FunctionName.ofSymbol symbol) line settings with
      | .error lookup => return (cache, ⟨built.notes, .error (.outOfRange lookup)⟩)
      | .ok found => return (cache, ⟨built.notes ++ found.notes, .ok found.result⟩)

/-- The path and line of a place, if both are known. -/
def place? (path : Option String) (line : Option Int) : Option (String × Int) := do
  let path ← path
  let line ← line
  if Text.allBlank path.toList then none else some (String.ofList (Text.trim path.toList), line)

def extract (cache : ViewCache) (settings : Settings) (path : Option String) (line : Option Int)
    (symbol : String) : m (ViewCache × Noted (Except Failure Outcome)) :=
  match place? path line with
  | none => return (cache, pure (.ok .noLocation))
  | some (path, line) => extractAt cache settings (settings.remapPath path) line symbol

def ofFrame (cache : ViewCache) (settings : Settings) (frame : Frame) :
    m (ViewCache × Noted (Except Failure Outcome)) :=
  extract cache settings frame.sourcePath frame.sourceLine frame.symbol

/-- Frames with what their extraction came to. -/
abbrev Collected := List (Frame × Outcome)

def ofFrames (cache : ViewCache) (settings : Settings) :
    List Frame → m (ViewCache × Noted (Except Failure Collected))
  | [] => return (cache, pure (.ok []))
  | frame :: frames => do
    let (cache, first) ← ofFrame cache settings frame
    match first.result with
    | .error failure => return (cache, ⟨first.notes, .error failure⟩)
    | .ok outcome =>
      let (cache, others) ← ofFrames cache settings frames
      let result := others.result.map fun collected => (frame, outcome) :: collected
      return (cache, ⟨first.notes ++ others.notes, result⟩)

/-- The frames from the top of the stack whose source is asked for. -/
def selected (settings : Settings) (limit : Option Int) (frames : List Frame) : List Frame :=
  frames.take (max 0 (limit.getD settings.framesToAnnotate)).toNat

/-- The number of frames whose function was found. -/
def locatedCount (collected : Collected) : Nat :=
  collected.countP fun entry => entry.2.isLocated

def collectedNote (collected : Collected) : Note :=
  .detail "stackdigest.prompt.builder"
    ("Extracted " ++ String.ofList (Text.natDigits (locatedCount collected)) ++ "/" ++
      String.ofList (Text.natDigits collected.length) ++ " frame source(s)")

/-- Extracts the functions of the frames from the top of the stack, as many as `limit` or the
settings say. -/
def collect (cache : ViewCache) (settings : Settings) (limit : Option Int) (frames : List Frame) :
    m (ViewCache × Noted (Except Failure Collected)) := do
  let frames := selected settings limit frames
  if frames.isEmpty then return (cache, pure (.ok []))
  else
    let (cache, collected) ← ofFrames cache settings frames
    match collected.result with
    | .error failure => return (cache, ⟨collected.notes, .error failure⟩)
    | .ok entries =>
      return (cache, ⟨collected.notes ++ [collectedNote entries], .ok entries⟩)

end FrameLens.FrameSource
