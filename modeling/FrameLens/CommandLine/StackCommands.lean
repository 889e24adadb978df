import FrameLens.CommandLine.Run
import FrameLens.Files.TextSource
import FrameLens.Prompt.Composition
import FrameLens.Prompt.TemplateStore
import FrameLens.Report.Layout
import FrameLens.Stack.Listing

/-!
# Commands that read

Listing the frames of a call stack, showing the function behind one of them or around a line of a
file, and composing a prompt. None of them writes a file.
-/

namespace FrameLens

variable {m : Type → Type} [Monad m] [Host m]

def shownCount (n : Nat) : String :=
  String.ofList (Text.natDigits n)

def unreadableStack (stack : TextSource) (failure : Failure) : Failure :=
  match stack, failure with
  | .file path, .file (.refused cause refused) => .reported (.unreadableStack path cause refused)
  | _, _ => failure

/-- Reads a call stack. One without frames ends the run. -/
def readStack (stack : TextSource) : Run m (String × List Frame) := do
  let text ← Run.valid ((← Run.host stack.readLenient).mapError (unreadableStack stack))
  let frames ← Run.noted (Listing.read text)
  if frames.isEmpty then Run.problem .noFrames
  return (text, frames)

def configDirectory : Run m Path := do
  Run.valid ((← Run.host Config.directory).mapError Failure.file)

def currentSettings : Run m Settings :=
  Run.perform Config.loadCurrent

def currentStore : Run m TemplateStore := do
  Run.valid ((← Run.host (TemplateStore.create none)).mapError Failure.file)

/-- Does something with a store that may fail. Gives the store that is left as well. -/
def onStore (operation : m (Noted (TemplateStore × Except Failure α))) :
    Run m (TemplateStore × α) := do
  let (store, result) ← Run.noted (← Run.host operation)
  return (store, ← Run.valid result)

/-- The settings with another number of lines, if one was asked for. -/
def withMaxLines (settings : Settings) (maxLines : Option Int) : Settings :=
  { settings with maxSourceLines := maxLines.getD settings.maxSourceLines }

def runFrames (form : ReportForm) (stack : TextSource) : Run m Unit := do
  let (_, frames) ← readStack stack
  let located := frames.countP Frame.hasLocation
  let verdict :=
    shownCount frames.length ++ " frame(s), " ++ shownCount located ++ " with source location"
  form.print .frames
    [("verdict", .string verdict), ("frames", .int frames.length), ("with_location", .int located)]
    [("frames", .array (frames.map fun frame => .object frame.toFields))]
    [lineOf (Report.titled (verdict ++ ":")
      (frames.map fun frame => LooseText.ofString frame.describe) 0)]

def outcomeSummary (outcome : Outcome) : Json.Fields := [
  ("verdict", .string outcome.message),
  ("status", .string outcome.status),
  ("ok", .bool outcome.isLocated)]

/-- Ends the run if no function was found. -/
def finishOutcome (outcome : Outcome) : Run m Unit :=
  if outcome.isLocated then pure () else Run.finish .partialResult

def pickFrame (frames : List Frame) (index : Int) : Run m Frame :=
  match if index < 0 then none else frames[index.toNat]? with
  | some frame => return frame
  | none => Run.misuse (.frameOutOfRange index frames.length)

def runSource (form : ReportForm) (stack : TextSource) (index : Int) (maxLines : Option Int) :
    Run m Unit := do
  let (_, frames) ← readStack stack
  let frame ← pickFrame frames index
  let settings := withMaxLines (← currentSettings) maxLines
  let outcome ← Run.withViews fun cache => FrameSource.ofFrame cache settings frame
  if !outcome.showsCode then
    Run.problem (.sourceMissing (some (frame.describe ++ ": " ++ outcome.message)))
  form.print .source (outcomeSummary outcome)
    (("frame", .object frame.toFields) :: outcome.toFields)
    ([LooseText.ofString frame.describe, outcome.message,
      Report.fenced outcome.code "cpp"].map lineOf)
  finishOutcome outcome

def runExtract (form : ReportForm) (file : String) (line : Int) (symbol : String)
    (maxLines : Option Int) : Run m Unit := do
  let settings := withMaxLines (← currentSettings) maxLines
  let outcome ← Run.withViews fun cache =>
    FrameSource.extract cache settings (some file) (some line) symbol
  if !outcome.showsCode then Run.problem (.sourceMissing (some outcome.message))
  form.print .extract (outcomeSummary outcome) outcome.toFields
    ([outcome.path?.getD [] ++ ": " ++ outcome.message, outcome.code].map lineOf)
  finishOutcome outcome

/-- The template that a prompt starts with: that of a file, or the stored one of the mode. -/
def promptTemplate (mode : Mode) (templateFile : Option String) : Run m LooseText := do
  match templateFile with
  | some path => return (← Run.valid (← Run.host (TextSource.file path).read) : String)
  | none =>
    let store ← currentStore
    let (_, template) ← onStore (store.withMode mode.name store.get)
    return template

def promptFrame (frame : Frame) (outcome : Outcome) : Json :=
  let state : Json.Fields := [
    ("status", .string outcome.status),
    ("message", .string outcome.message)]
  .object (frame.toFields ++ state)

def runPrompt (form : ReportForm) (stack : TextSource) (mode : Mode) (count : Option Int)
    (templateFile : Option String) : Run m Unit := do
  let (text, frames) ← readStack stack
  let settings ← currentSettings
  let template ← promptTemplate mode templateFile
  let (prompt, collected) ← Run.withViews fun cache =>
    Prompt.assemble cache settings template text frames count
  let found := FrameSource.locatedCount collected
  let verdict :=
    shownCount found ++ "/" ++ shownCount collected.length ++ " frame source(s) located"
  form.print .prompt
    [("verdict", .string verdict), ("mode", .string mode.name),
      ("frames_total", .int frames.length), ("frames_annotated", .int collected.length),
      ("sources_found", .int found)]
    [("prompt", .string prompt),
      ("frames", .array (collected.map fun (frame, outcome) => promptFrame frame outcome))]
    [prompt]

end FrameLens
