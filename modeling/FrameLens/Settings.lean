import FrameLens.Failure
import FrameLens.Text.Case
import FrameLens.Text.Loose
import FrameLens.Text.Search
import FrameLens.Text.Words

/-!
# Settings

What a user can tune, and the remapping of paths.
-/

namespace FrameLens

/-! ## Settings

What a user can tune: how far the locators look, and how much of a function is shown. Numbers are
integers without a bound here; those that are read from a file are kept above their minimum. -/

/-- Paths that start with `source` are moved to start with `target`. -/
structure Remap where
  source : LooseText
  target : LooseText
deriving DecidableEq, Repr, Inhabited

/-- The settings of extraction, rendering and prompts. -/
structure Settings where
  /-- The number of frames from the top of the stack whose source a prompt shows. -/
  framesToAnnotate : Int := 10
  /-- The number of lines to which a function is cropped. -/
  maxSourceLines : Int := 120
  /-- What is put before the line that the stack names. -/
  marker : LooseText := "==>"
  /-- How far from the target a name is looked for. -/
  anchorWindow : Int := 20000
  /-- How far from the target a name may be found. -/
  candidateCutoff : Int := 6144
  /-- How close a name must be to stand for a body that misses the target. -/
  nearMiss : Int := 4096
  /-- How far back from its brace a header may begin. -/
  headerBacktrack : Int := 8000
  /-- The number of lines of a header, and of lines above an anchor that a signature takes in. -/
  headerMaxLines : Int := 30
  /-- The number of lines shown above and below a target without a function. -/
  fallbackRadius : Int := 24
  /-- Where the paths of other machines lead on this one. -/
  remaps : List Remap := []
deriving DecidableEq, Repr, Inhabited

/-! ## Remapping paths

A stack names the paths of the machine that built the program. The first remap whose source a path
begins with, in either case and with separators of either kind, moves it to where the file is
here. -/

namespace Remap

/-- The path with slashes only. -/
def withSlashes (path : List Char) : List Char :=
  Text.replaceChar '\\' '/' path

/-- The form in which a path is compared. -/
def comparable (path : List Char) : List Char :=
  Text.foldCase (withSlashes path)

/-- Whether a path begins with the remap's source. A source with halves in it begins no path. -/
def moves (remap : Remap) (path : List Char) : Bool :=
  match remap.source.plain with
  | .ok source => !source.isEmpty && comparable (path.take source.length) == comparable source
  | .error _ => false

/-- The path after the move. What is left of it takes slashes, unless the target has backslashes. -/
def move (remap : Remap) (path : List Char) : LooseText :=
  let rest := path.drop remap.source.length
  remap.target ++
    LooseText.ofChars (if remap.target.contains (.char '\\') then rest else withSlashes rest)

/-- Reads a remap in the form `FROM=TO`; only `TO` may be blank. -/
def parse (spec : Option String) : Except Failure Remap :=
  let text := (spec.getD "").toList
  let source := Text.trim (Text.before '=' text)
  if !text.contains '=' || source.isEmpty then .error (.malformedRemap spec)
  else
    .ok ⟨.ofChars source, .ofChars (Text.trim (text.drop ((Text.before '=' text).length + 1)))⟩

end Remap

/-- The path on this machine. -/
def Settings.remapPath (settings : Settings) (path : String) : LooseText :=
  match settings.remaps.find? fun remap => remap.moves path.toList with
  | some remap => remap.move path.toList
  | none => path

end FrameLens
