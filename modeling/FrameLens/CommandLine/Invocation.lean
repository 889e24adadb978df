import FrameLens.CommandLine.Arguments
import FrameLens.CommandLine.Run
import FrameLens.Files.TextSource
import FrameLens.Prompt.TemplateStore
import FrameLens.Settings
import FrameLens.Text.Case

/-!
# Invocations

What a command is asked to do, read from its arguments: first the options, in the order in which
they were given first, and then the other arguments. A file that is to be read must be there
already.
-/

namespace FrameLens

/-- What is to become of a template. -/
inductive TemplateChange where
  | keep
  | reset
  | replace (text : TextSource)
deriving DecidableEq, Repr

/-- What is to become of the settings. -/
structure ConfigChanges where
  frames : Option Int := none
  maxLines : Option Int := none
  marker : Option String := none
  nearMiss : Option Int := none
  remaps : List Remap := []
  clearsRemaps : Bool := false
  showsSettings : Bool := false
deriving DecidableEq, Repr

/-- A command with all that it is asked. -/
inductive Invocation where
  | config (changes : ConfigChanges)
  | extract (file : String) (line : Int) (symbol : String) (maxLines : Option Int)
  | frames (stack : TextSource)
  | prompt (stack : TextSource) (mode : Mode) (count : Option Int) (templateFile : Option String)
  | source (stack : TextSource) (index : Int) (maxLines : Option Int)
  | template (mode : Mode) (change : TemplateChange)
deriving DecidableEq, Repr

namespace Invocation

def integer (name text : String) : Except Misuse Int :=
  match Text.parseInt? text.toList with
  | some number => .ok number
  | none => .error (.unreadableValue name text)

/-- The integer in a text, which must not be less than `minimum`. -/
def integerFrom (minimum : Int) (name text : String) : Except Misuse Int := do
  let number ← integer name text
  if number < minimum then throw (.unreadableValue name text) else return number

def mode (name text : String) : Except Misuse Mode :=
  match Mode.all.find? fun mode => Text.foldCase mode.name.toList == Text.foldCase text.toList with
  | some mode => .ok mode
  | none => .error (.unreadableValue name text)

variable {m : Type → Type} [Monad m] [Host m]

def checked (result : Except Misuse α) : Run m α :=
  match result with
  | .ok value => return value
  | .error misuse => Run.misuse misuse

/-- Ends the run unless a path leads to a file that may be read. -/
def needFile (path : LooseText) : Run m Unit := do
  match ← Run.host (Host.kind path) with
  | .ok .file =>
    match ← Run.host (Host.readFile path) with
    | .error (.refused .denied _) => Run.misuse (.unusablePath path)
    | _ => return ()
  | .error (.malformed fault) => throw (.failed (.file (.malformed fault)))
  | _ => Run.misuse (.unusablePath path)

/-- Ends the run unless there is a text at a source. -/
def needSource : TextSource → Run m Unit
  | .input => return ()
  | .file path => needFile path

/-- The value of an option, read if the option was given. -/
def option? (arguments : Arguments) (switch : Switch) (read : String → String → Except Misuse α) :
    Run m (Option α) := do
  match arguments.value? switch with
  | some text => return some (← checked (read switch.long text))
  | none => return none

/-- An invocation that takes no further arguments. -/
def done (surplus : List String) (invocation : Invocation) : Run m Invocation :=
  match surplus with
  | [] => return invocation
  | first :: _ => Run.misuse (.surplusArguments first)

/-- The call stack that is asked about, the input if none is named, and the arguments after it. -/
def stackOf (arguments : List String) : Run m (TextSource × List String) := do
  match arguments with
  | [] => return (.input, [])
  | argument :: rest =>
    let stack := TextSource.ofString argument
    needSource stack
    return (stack, rest)

def ofFrames (arguments : Arguments) : Run m Invocation := do
  let (stack, surplus) ← stackOf arguments.positional
  done surplus (.frames stack)

def ofSource (arguments : Arguments) : Run m Invocation := do
  let index ← option? arguments .frame integer
  let maxLines ← option? arguments .maxLines integer
  let (stack, surplus) ← stackOf arguments.positional
  done surplus (.source stack (index.getD 0) maxLines)

structure PromptChoices where
  mode : Option Mode := none
  count : Option Int := none
  templateFile : Option String := none
deriving DecidableEq, Repr

/-- Adds what one option of `prompt` says. How many frames are worked on at a time has no effect on
the prompt. -/
def addChoice (arguments : Arguments) (choices : PromptChoices) (switch : Switch) :
    Run m PromptChoices := do
  match switch with
  | .mode => return { choices with mode := ← option? arguments switch mode }
  | .frames => return { choices with count := ← option? arguments switch (integerFrom 0) }
  | .jobs =>
    let _ ← option? arguments switch (integerFrom 1)
    return choices
  | .templateFile =>
    let path := arguments.value? switch
    path.forM fun path => needFile path
    return { choices with templateFile := path }
  | _ => return choices

def ofPrompt (arguments : Arguments) : Run m Invocation := do
  let choices ← arguments.mentioned.foldlM (addChoice arguments) {}
  let (stack, surplus) ← stackOf arguments.positional
  done surplus
    (.prompt stack (choices.mode.getD .explain) choices.count choices.templateFile)

def ofExtract (arguments : Arguments) : Run m Invocation := do
  let maxLines ← option? arguments .maxLines integer
  match arguments.positional with
  | [] => Run.misuse (.missingArgument "FILE")
  | [_] => Run.misuse (.missingArgument "LINE")
  | file :: line :: surplus =>
    let line ← checked (integerFrom 1 "LINE" line)
    done surplus (.extract file line ((arguments.value? .symbol).getD "") maxLines)

/-- What is to become of a template: a new text comes first, then what was asked last. -/
def templateChange (arguments : Arguments) : TemplateChange :=
  match arguments.value? .setFile with
  | some argument => .replace (TextSource.ofString argument)
  | none =>
    let asked := (arguments.given.map Prod.fst).filter fun switch =>
      switch == .showing || switch == .reset
    if asked.getLast? = some .reset then .reset else .keep

def ofTemplate (arguments : Arguments) : Run m Invocation := do
  let change := templateChange arguments
  if let .replace text := change then needSource text
  match arguments.positional with
  | [] => Run.misuse (.missingArgument "MODE")
  | name :: surplus =>
    let mode ← checked (mode "MODE" name)
    done surplus (.template mode change)

def remap (spec : String) : Except Misuse Remap :=
  match Remap.parse (some spec) with
  | .ok remap => .ok remap
  | .error _ => .error (.malformedRemap spec)

/-- Reads the remaps that are asked for, unless one of them is malformed. -/
def remaps (specs : List String) : Except Misuse (List Remap) :=
  specs.mapM remap

/-- Changes of the settings with those that one option stands for. -/
def addChange (arguments : Arguments) (changes : ConfigChanges) (switch : Switch) :
    Run m ConfigChanges := do
  match switch with
  | .setFrames => return { changes with frames := ← option? arguments switch (integerFrom 0) }
  | .setMaxLines => return { changes with maxLines := ← option? arguments switch (integerFrom 1) }
  | .setNearMiss => return { changes with nearMiss := ← option? arguments switch (integerFrom 0) }
  | .setMarker => return { changes with marker := arguments.value? switch }
  | .addRemap =>
    return { changes with remaps := ← checked (remaps (arguments.values switch)) }
  | .clearRemaps => return { changes with clearsRemaps := true }
  | .showing => return { changes with showsSettings := true }
  | _ => return changes

def ofConfig (arguments : Arguments) : Run m Invocation := do
  let changes ← arguments.mentioned.foldlM (addChange arguments) {}
  done arguments.positional (.config changes)

def ofArguments (command : Command) (arguments : Arguments) : Run m Invocation :=
  match command with
  | .config => ofConfig arguments
  | .extract => ofExtract arguments
  | .frames => ofFrames arguments
  | .prompt => ofPrompt arguments
  | .source => ofSource arguments
  | .template => ofTemplate arguments

end Invocation

end FrameLens
