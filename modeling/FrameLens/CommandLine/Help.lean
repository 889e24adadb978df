import FrameLens.CommandLine.Arguments
import FrameLens.Failure
import FrameLens.Report.Envelope
import FrameLens.Text.Integer

/-!
# Help

What the program tells about itself. Summaries are cut to the width of the terminal, so each list
of commands has its own wording of them.
-/

namespace FrameLens.Help

def programName : String := "stackdigest"

def versionText : String :=
  programName ++ ", version " ++ Envelope.programVersion ++ "\n"

def padded (width : Nat) (text : String) : String :=
  String.ofList (Text.padEnd width ' ' text.toList)

def listed : Command → String
  | .prompt => "Assemble a prompt: template, the raw call stack, and frame..."
  | command => command.summary

def grouped : Command → String
  | .prompt => "Assemble a prompt: template, the raw call stack, and..."
  | .template => "Manage the prompt template for MODE (empty, explain,..."
  | command => command.summary

/-- The commands by what they are about. -/
def groups : List (String × List Command) := [
  ("Call Stacks", [.frames, .source, .prompt]),
  ("Source Files", [.extract]),
  ("Settings", [.template, .config])]

def programOptions : List (String × String) := [
  ("--version", "Show the version and exit."),
  ("--json", "Output in JSON format"),
  ("-v, --verbose", "Log extraction details to stderr"),
  ("--help", "Show this message and exit.")]

def groupLines (group : String × List Command) : List String :=
  ("  " ++ group.1 ++ ":") ::
    group.2.map (fun command => "    " ++ padded 12 command.name ++ " " ++ grouped command) ++ [""]

def codeLines : List String :=
  "  Exit codes:" :: ExitCode.all.map fun code =>
    "    " ++ String.ofList (Text.natDigits code.number) ++ "  " ++ code.description

def lines : List String :=
  ["Usage: " ++ programName ++ " [OPTIONS] COMMAND [ARGS]...", "",
    programName ++ ": call stacks in, function sources and LLM prompts out.", "", "",
    "Options:"] ++
  programOptions.map (fun (option, text) => "  " ++ padded 13 option ++ "  " ++ text) ++
  ["", "Commands:"] ++
  Command.all.map (fun command => "  " ++ padded 8 command.name ++ "  " ++ listed command) ++
  [""] ++
  groups.flatMap groupLines ++
  codeLines ++
  ["", "  Run \x60" ++ programName ++ " <command> --help\x60 for details on any command."]

def text : String :=
  String.join (lines.map (· ++ "\n"))

def optionLines (command : Command) : List String :=
  command.switches.map fun switch =>
    let letter := (switch.letter?.map fun c => String.ofList ['-', c, ',', ' ']).getD ""
    "  " ++ letter ++ switch.long ++ (if switch.isFlag then "" else " VALUE")

def commandText (command : Command) : String :=
  String.join ((["Usage: " ++ programName ++ " " ++ command.name ++ " [OPTIONS]" ++
    command.positionals, "", "  " ++ command.summary, "", "Options:"] ++
    optionLines command).map (· ++ "\n"))

end FrameLens.Help
