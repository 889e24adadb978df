import FrameLens.Text.Integer
import FrameLens.Text.Loose
import FrameLens.Text.Search

/-!
# Arguments

The options and commands of the program, how a list of arguments falls into them, and why it is
refused.
-/

namespace FrameLens

/-! ## Misuse

Why arguments are refused. Most are refused for their form. A few can be read well enough, and are
refused for what they say. -/

/-- A fault of the arguments. -/
inductive Misuse where
  | unknownCommand (name : String)
  | missingCommand
  | unknownOption (name : String)
  | missingValue (option : String)
  | surplusValue (option : String)
  | missingArgument (name : String)
  | surplusArguments (first : String)
  | unreadableValue (name text : String)
  | unusablePath (path : LooseText)
  | malformedRemap (spec : String)
  | frameOutOfRange (index : Int) (count : Nat)
  | blankMarker
deriving DecidableEq, Repr

namespace Misuse

def named (text : String) : String :=
  String.ofList (Text.quoted text.toList)

def shown (n : Int) : String :=
  String.ofList (Text.intDigits n)

def message : Misuse → String
  | unknownCommand name => "there is no command " ++ named name
  | missingCommand => "a command is missing"
  | unknownOption name => "there is no option " ++ named name
  | missingValue option => "option " ++ named option ++ " needs a value"
  | surplusValue option => "option " ++ named option ++ " takes no value"
  | missingArgument name => "argument " ++ named name ++ " is missing"
  | surplusArguments first => "argument " ++ named first ++ " is not expected"
  | unreadableValue name text => named text ++ " will not do for " ++ named name
  | unusablePath path =>
    "there is no file " ++ String.ofList path.quoted ++ " that can be read"
  | malformedRemap spec => "remap must look like FROM=TO, got " ++ named spec
  | frameOutOfRange index count =>
    "frame " ++ shown index ++ " out of range (stack has " ++ shown count ++ " frame(s), 0-" ++
      shown (count - 1) ++ ")"
  | blankMarker => "marker must not be blank"

end Misuse

/-! ## Arguments

How a list of arguments falls into options, their values, and what is left. A long option has its
value in the same argument after an equals sign, or in the next one. Short options may share an
argument, and the last of them may be followed by its value. Two dashes alone end the options. -/

inductive Switch where
  | help
  | version
  | json
  | verbose
  | frame
  | frames
  | jobs
  | maxLines
  | mode
  | symbol
  | templateFile
  | showing
  | reset
  | setFile
  | setFrames
  | setMaxLines
  | setMarker
  | setNearMiss
  | addRemap
  | clearRemaps
deriving DecidableEq, Repr

namespace Switch

def long : Switch → String
  | help => "--help"
  | version => "--version"
  | json => "--json"
  | verbose => "--verbose"
  | frame => "--frame"
  | frames => "--frames"
  | jobs => "--jobs"
  | maxLines => "--max-lines"
  | mode => "--mode"
  | symbol => "--symbol"
  | templateFile => "--template-file"
  | showing => "--show"
  | reset => "--reset"
  | setFile => "--set-file"
  | setFrames => "--set-frames"
  | setMaxLines => "--set-max-lines"
  | setMarker => "--set-marker"
  | setNearMiss => "--set-near-miss"
  | addRemap => "--add-remap"
  | clearRemaps => "--clear-remaps"

/-- The letter of an option, if it has one. -/
def letter? : Switch → Option Char
  | verbose => some 'v'
  | frame => some 'f'
  | frames => some 'n'
  | jobs => some 'j'
  | mode => some 'm'
  | symbol => some 's'
  | _ => none

/-- Whether an option stands alone. -/
def isFlag : Switch → Bool
  | help => true
  | version => true
  | json => true
  | verbose => true
  | showing => true
  | reset => true
  | clearRemaps => true
  | _ => false

end Switch

/-- The options that were given, in order, and the other arguments. A flag has an empty value. -/
structure Arguments where
  given : List (Switch × String) := []
  positional : List String := []
deriving DecidableEq, Repr

namespace Arguments

/-- What one argument gives: options with their values, and an option whose value is the next
argument. -/
structure Piece where
  given : List (Switch × String) := []
  pending : Option Switch := none
deriving DecidableEq, Repr

def Piece.cons (switch : Switch) (value : String) (piece : Piece) : Piece :=
  { piece with given := (switch, value) :: piece.given }

/-- Whether an argument holds options. A dash alone does not. -/
def isOption (argument : List Char) : Bool :=
  argument.head? == some '-' && argument.length > 1

/-- What a long option gives that may have a value in the same argument. -/
def takeLong (switch : Switch) (value : Option String) : Except Misuse Piece :=
  match switch.isFlag, value with
  | true, none => .ok { given := [(switch, "")] }
  | true, some _ => .error (.surplusValue switch.long)
  | false, some value => .ok { given := [(switch, value)] }
  | false, none => .ok { pending := some switch }

def readLong (allowed : List Switch) (argument : List Char) : Except Misuse Piece :=
  let name := String.ofList (Text.before '=' argument)
  let value :=
    if argument.contains '=' then some (String.ofList (argument.drop (name.length + 1))) else none
  match allowed.find? fun switch => switch.long == name with
  | none => .error (.unknownOption name)
  | some switch => takeLong switch value

/-- Reads short options that share an argument. -/
def readLetters (allowed : List Switch) : List Char → Except Misuse Piece
  | [] => .ok {}
  | letter :: rest =>
    match allowed.find? fun switch => switch.letter? == some letter with
    | none => .error (.unknownOption (String.ofList ['-', letter]))
    | some switch =>
      if switch.isFlag then (readLetters allowed rest).map (Piece.cons switch "")
      else if rest.isEmpty then .ok { pending := some switch }
      else .ok { given := [(switch, String.ofList rest)] }

def readOption (allowed : List Switch) (argument : List Char) : Except Misuse Piece :=
  match argument with
  | '-' :: '-' :: _ => readLong allowed argument
  | _ => readLetters allowed (argument.drop 1)

def prepend (given : List (Switch × String)) (arguments : Arguments) : Arguments :=
  { arguments with given := given ++ arguments.given }

def consPositional (argument : String) (arguments : Arguments) : Arguments :=
  { arguments with positional := argument :: arguments.positional }

/-- Splits arguments. With `stops` the first one that is no option ends the options; otherwise
options may stand anywhere. -/
def split (allowed : List Switch) (stops : Bool) : List String → Except Misuse Arguments
  | [] => .ok {}
  | argument :: rest =>
    if argument = "--" then .ok { positional := rest }
    else if isOption argument.toList then
      match readOption allowed argument.toList, rest with
      | .error misuse, _ => .error misuse
      | .ok ⟨given, none⟩, rest => (split allowed stops rest).map (prepend given)
      | .ok ⟨_, some switch⟩, [] => .error (.missingValue switch.long)
      | .ok ⟨given, some switch⟩, value :: rest =>
        (split allowed stops rest).map (prepend (given ++ [(switch, value)]))
    else if stops then .ok { positional := argument :: rest }
    else (split allowed stops rest).map (consPositional argument)

def has (arguments : Arguments) (switch : Switch) : Bool :=
  arguments.given.any fun entry => entry.1 == switch

def values (arguments : Arguments) (switch : Switch) : List String :=
  (arguments.given.filter fun entry => entry.1 == switch).map Prod.snd

/-- The value that was given last for an option. -/
def value? (arguments : Arguments) (switch : Switch) : Option String :=
  (arguments.values switch).getLast?

/-- The options that were given, each where it was given first. -/
def mentioned (arguments : Arguments) : List Switch :=
  (arguments.given.map Prod.fst).eraseDups

end Arguments

/-! ## Commands

The commands of the program, with the options that each of them takes. -/

inductive Command where
  | config
  | extract
  | frames
  | prompt
  | source
  | template
deriving DecidableEq, Repr

namespace Command

def all : List Command := [config, extract, frames, prompt, source, template]

def name : Command → String
  | config => "config"
  | extract => "extract"
  | frames => "frames"
  | prompt => "prompt"
  | source => "source"
  | template => "template"

def named? (name : String) : Option Command :=
  all.find? fun command => command.name == name

def summary : Command → String
  | config => "Manage stackdigest settings (.stackdigest/config.json)."
  | extract => "Show the function containing LINE of FILE."
  | frames => "Parse a call stack and list its frames."
  | prompt => "Assemble a prompt: template, the raw call stack, and frame sources."
  | source => "Extract the function behind one frame of STACK."
  | template => "Manage the prompt template for MODE (empty, explain, optimize)."

def positionals : Command → String
  | config => ""
  | extract => " FILE LINE"
  | frames => " [STACK]"
  | prompt => " [STACK]"
  | source => " [STACK]"
  | template => " MODE"

def switches : Command → List Switch
  | config =>
    [.showing, .setFrames, .setMaxLines, .setMarker, .setNearMiss, .addRemap, .clearRemaps, .help]
  | extract => [.symbol, .maxLines, .help]
  | frames => [.help]
  | prompt => [.mode, .frames, .jobs, .templateFile, .help]
  | source => [.frame, .maxLines, .help]
  | template => [.showing, .setFile, .reset, .help]

end Command

end FrameLens
