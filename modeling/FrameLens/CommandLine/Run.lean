import FrameLens.CommandLine.Arguments
import FrameLens.Failure
import FrameLens.Files.Host
import FrameLens.Note
import FrameLens.Report.Envelope
import FrameLens.Source.ViewCache
import FrameLens.Text.ControlSequence

/-!
# Runs and reports

Runs of the program, what they leave behind, and the two forms in which a command reports.
-/

namespace FrameLens

/-! ## Runs

A run of the program prints to a stream, makes notes, and keeps the views of the files that it
reads. It ends with a code, or earlier with a fault of the arguments or a failure; what was printed
and noted until then stays. What a stream can print is its own matter; what is told beside the
output spells halves out. -/

inductive Ending where
  | finished (code : ExitCode)
  | misused (misuse : Misuse)
  | failed (failure : Failure)
deriving DecidableEq, Repr

def Ending.exitCode : Ending → ExitCode
  | finished code => code
  | misused _ => .usage
  | failed (.reported problem) => problem.exitCode
  | failed _ => .error

/-- Where a run prints: what a text adds to the output, or the reason why it cannot be printed. -/
structure Stream where
  put : LooseText → Except String String

namespace Stream

def Takes (stream : Stream) (text : LooseText) : Prop :=
  (stream.put text).isOk = true

instance (stream : Stream) (text : LooseText) : Decidable (stream.Takes text) :=
  inferInstanceAs (Decidable (_ = _))

/-- A stream of UTF-8 that is not a terminal. Texts lose their control sequences, and cannot hold
halves. -/
def utf8 : Stream where
  put text :=
    match text.withoutControls.plain with
    | .ok chars => .ok (String.ofList chars)
    | .error halves => .error halves.message

end Stream

structure Progress where
  cache : ViewCache
  output : String := ""
  notes : List Note := []

/-- A run that gives a value unless it ends before. -/
abbrev Run (m : Type → Type) := ExceptT Ending (StateT Progress m)

namespace Run

variable {m : Type → Type} [Monad m]

def host (action : m α) : Run m α :=
  ExceptT.lift (StateT.lift action)

def note (note : Note) : Run m Unit :=
  modify fun progress => { progress with notes := progress.notes ++ [note] }

/-- Makes the notes that came with a result. -/
def noted (result : Noted α) : Run m α := do
  result.notes.forM note
  return result.result

/-- Ends with a failure unless there is a result. -/
def valid (result : Except Failure α) : Run m α :=
  match result with
  | .ok value => return value
  | .error failure => throw (.failed failure)

def misuse (misuse : Misuse) : Run m α :=
  throw (.misused misuse)

def problem (problem : Problem) : Run m α :=
  throw (.failed (.reported problem))

def perform (action : m (Noted (Except Failure α))) : Run m α := do
  valid (← noted (← host action))

def withViews (action : ViewCache → m (ViewCache × Noted (Except Failure α))) : Run m α := do
  let (cache, result) ← host (action (← get).cache)
  modify fun progress => { progress with cache := cache }
  valid (← noted result)

/-- Prints a text. One that the stream does not take ends the run. -/
def print (stream : Stream) (text : LooseText) : Run m Unit := do
  match stream.put text with
  | .ok printed =>
    modify fun progress => { progress with output := progress.output ++ printed }
  | .error reason => throw (.failed (.unprintable reason))

def finish (code : ExitCode) : Run m α :=
  throw (.finished code)

end Run

structure Transcript where
  output : String
  notes : List Note
  ending : Ending
  /-- Whether details are shown. -/
  showsDetails : Bool := false

namespace Transcript

/-- The notes on lines of their own: all of them in full where details are shown, otherwise the
warnings alone. -/
def noteText (transcript : Transcript) : String :=
  let rows :=
    if transcript.showsDetails then transcript.notes.map Note.full
    else (transcript.notes.filter fun note => note.urgency == .warning).map (·.message)
  String.join (rows.map fun row => row.spelled ++ "\n")

def faultLine (message : LooseText) : String :=
  (LooseText.withoutControls ("Error: " ++ message)).spelled ++ "\n"

def faultText (transcript : Transcript) : String :=
  match transcript.ending with
  | .finished _ => ""
  | .misused misuse => faultLine misuse.message
  | .failed failure => faultLine failure.message

/-- What is told beside the output. -/
def errorText (transcript : Transcript) : String :=
  transcript.noteText ++ transcript.faultText

end Transcript

namespace Run

variable {m : Type → Type} [Monad m]

/-- Runs to the end. A run that does not end before is a success. -/
def transcript (run : Run m Unit) (cache : ViewCache) (showsDetails : Bool) :
    m (ViewCache × Transcript) := do
  let (result, progress) ← (ExceptT.run run).run { cache := cache }
  let ending :=
    match result with
    | .ok () => .finished .success
    | .error ending => ending
  return (progress.cache, ⟨progress.output, progress.notes, ending, showsDetails⟩)

end Run

/-! ## Reporting

Each command reports in plain text or, if that was asked for, in an envelope. -/

/-- The form of reports, the time that an envelope names, and where both are printed. -/
structure ReportForm where
  inEnvelope : Bool
  timestamp : String
  stream : Stream

def lineOf (text : LooseText) : LooseText :=
  text ++ "\n"

namespace ReportForm

variable {m : Type → Type} [Monad m]

/-- The texts of a report in a form: one envelope if that was asked for, or else the plain texts. -/
def texts (form : ReportForm) (command : Command) (summary payload : Json.Fields)
    (plain : List LooseText) : List LooseText :=
  if form.inEnvelope then
    [lineOf (Envelope.text (.object
      (Envelope.fields (.string command.name) (.object summary) payload form.timestamp)))]
  else plain

def print (form : ReportForm) (command : Command) (summary payload : Json.Fields)
    (plain : List LooseText) : Run m Unit :=
  (form.texts command summary payload plain).forM (Run.print form.stream)

end ReportForm

end FrameLens
