import FrameLens.CommandLine.Help
import FrameLens.CommandLine.StackCommands
import FrameLens.CommandLine.StoreCommands
import FrameLens.Text.CharClass

/-!
# The program

From a list of arguments to what the program prints and how it ends. The options before the command
say how it reports; all others belong to the command.
-/

namespace FrameLens.Program

variable {m : Type → Type} [Monad m] [Host m]

def switches : List Switch := [.version, .json, .verbose, .help]

def runInvocation (form : ReportForm) : Invocation → Run m Unit
  | .config changes => runConfig form changes
  | .extract file line symbol maxLines => runExtract form file line symbol maxLines
  | .frames stack => runFrames form stack
  | .prompt stack mode count templateFile => runPrompt form stack mode count templateFile
  | .source stack index maxLines => runSource form stack index maxLines
  | .template mode change => runTemplate form mode change

def runCommand (form : ReportForm) (command : Command) (arguments : List String) :
    Run m Unit := do
  match Arguments.split command.switches false arguments with
  | .error misuse => Run.misuse misuse
  | .ok arguments =>
    if arguments.has .help then Run.print form.stream (Help.commandText command)
    else runInvocation form (← Invocation.ofArguments command arguments)

/-- Whether a name that is no command asks for help: it begins as no name does. -/
def asksForHelp (name : String) : Bool :=
  match name.toList with
  | [] => false
  | first :: _ => !Text.isAlphanumeric first

/-- The first option that is answered at once. -/
def eager? (arguments : Arguments) : Option Switch :=
  arguments.mentioned.find? fun switch => switch == .version || switch == .help

def runNamed (form : ReportForm) : List String → Run m Unit
  | [] => Run.misuse .missingCommand
  | name :: rest =>
    match Command.named? name with
    | some command => runCommand form command rest
    | none =>
      if asksForHelp name then Run.print form.stream Help.text
      else Run.misuse (.unknownCommand name)

def runArguments (stream : Stream) (timestamp : String) (arguments : Arguments) : Run m Unit :=
  match eager? arguments with
  | some .version => Run.print stream Help.versionText
  | some _ => Run.print stream Help.text
  | none => runNamed ⟨arguments.has .json, timestamp, stream⟩ arguments.positional

/-- Runs the program. Without arguments it shows the help. The views of files that were read before
are used again. -/
def run (stream : Stream) (arguments : List String) (timestamp : String) (cache : ViewCache) :
    m (ViewCache × Transcript) :=
  if arguments.isEmpty then Run.transcript (Run.print stream Help.text) cache false
  else
    match Arguments.split switches true arguments with
    | .error misuse => Run.transcript (Run.misuse misuse) cache false
    | .ok arguments =>
      Run.transcript (runArguments stream timestamp arguments) cache (arguments.has .verbose)

end FrameLens.Program
