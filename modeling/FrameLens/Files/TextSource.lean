import FrameLens.Failure
import FrameLens.Files.Host
import FrameLens.Text.Search

/-!
# Sources of text

A text that the user points to: the input, or a file. Its line endings become line feeds.
-/

namespace FrameLens

/-- The text of an input in UTF-8. -/
def InputText.ofUtf8 (octets : Octets) : InputText :=
  match Utf8.decodeStrict octets with
  | .ok text => plain text
  | .error part => malformed (Failure.malformedText part).message

/-- Where a text comes from. -/
inductive TextSource where
  | input
  | file (path : LooseText)
deriving DecidableEq, Repr

namespace TextSource

/-- The source that an argument stands for; a dash is the input. -/
def ofString (argument : String) : TextSource :=
  if argument = "-" then input else file argument

/-- The text in octets that must be well formed. -/
def textOf (octets : Octets) : Except Failure String :=
  match Utf8.decodeStrict octets with
  | .ok text => .ok (String.ofList (Text.unifyLineEndings text))
  | .error part => .error (.malformedText part)

/-- The text in octets; malformed parts are replaced. -/
def lenientTextOf (octets : Octets) : String :=
  String.ofList (Text.unifyLineEndings (Utf8.decode octets))

/-- The text that was read from the input. -/
def textOfInput : InputText → Except Failure String
  | .plain text => .ok (String.ofList (Text.unifyLineEndings text))
  | .malformed reason => .error (.malformedInput reason)

variable {m : Type → Type} [Monad m] [Host m]

def read (source : TextSource) : m (Except Failure String) := do
  match source with
  | input => return textOfInput (← Host.readInput)
  | file path =>
    match ← Host.readFile path with
    | .error fault => return .error (.file fault)
    | .ok octets => return textOf octets

/-- Reads a text; malformed parts of a file are replaced. -/
def readLenient (source : TextSource) : m (Except Failure String) := do
  match source with
  | input => return textOfInput (← Host.readInput)
  | file path =>
    match ← Host.readFile path with
    | .error fault => return .error (.file fault)
    | .ok octets => return .ok (lenientTextOf octets)

end TextSource

end FrameLens
