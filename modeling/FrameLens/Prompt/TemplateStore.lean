import FrameLens.Failure
import FrameLens.Settings.Config
import FrameLens.Text.Case
import FrameLens.Text.Words

/-!
# Templates

The modes of a prompt with their default templates, and the store that keeps templates in a file.
-/

namespace FrameLens

/-! ## Modes

What a prompt asks for. Each mode has a template that it starts with. -/

inductive Mode where
  | empty
  | explain
  | optimize
deriving DecidableEq, Repr

namespace Mode

def all : List Mode := [empty, explain, optimize]

def name : Mode → String
  | empty => "empty"
  | explain => "explain"
  | optimize => "optimize"

def named? (name : String) : Option Mode :=
  all.find? fun mode => mode.name == name

/-- The mode of a name in either case, with blanks around it. -/
def check (name : Option String) : Except Failure Mode :=
  let name := String.ofList (Text.lower (Text.trim (name.getD "").toList))
  match named? name with
  | some mode => .ok mode
  | none => .error (.unknownMode name)

/-- Tells the model what it is. -/
def systemLine : String :=
  "System: You are a senior engineer expert in Unreal Engine networking " ++
    "(Iris, NetworkPrediction), C++, and performance.\n"

/-- The template that a mode starts with. -/
def defaultTemplate : Mode → String
  | empty => ""
  | explain =>
    systemLine ++ "\n" ++
      "Task: Explain what is going on in this callstack.\n" ++
      "For each frame: briefly explain the key points of the algorithm (1–3 bullets).\n" ++
      "Then provide one concise paragraph summarizing the overall behavior."
  | optimize =>
    systemLine ++ "\n" ++
      "Task: Analyze this callstack for performance and reliability risks.\n" ++
      "Identify hotspots (esp. serialization/replication), redundant work, and contention " ++
      "points.\n" ++
      "Propose concrete improvements (quick wins and deeper changes) with trade-offs."

end Mode

/-! ## The template store

The templates of the modes are kept in a file beside the configuration. A store reads the file when
it is first asked for a template, keeps the templates from then on, and writes all of them back at
every change. A mode that the file has no text for has its default template. -/

structure Templates where
  empty : LooseText
  explain : LooseText
  optimize : LooseText
deriving DecidableEq, Repr

namespace Templates

def get (templates : Templates) : Mode → LooseText
  | .empty => templates.empty
  | .explain => templates.explain
  | .optimize => templates.optimize

def set (templates : Templates) (mode : Mode) (template : LooseText) : Templates :=
  match mode with
  | .empty => { templates with empty := template }
  | .explain => { templates with explain := template }
  | .optimize => { templates with optimize := template }

def readMode (fields : Json.Fields) (mode : Mode) : LooseText :=
  match Json.get? fields mode.name with
  | some (.string template) => template
  | _ => mode.defaultTemplate

def ofFields (fields : Json.Fields) : Templates where
  empty := readMode fields .empty
  explain := readMode fields .explain
  optimize := readMode fields .optimize

def toFields (templates : Templates) : Json.Fields :=
  Mode.all.map fun mode => (mode.name, .string (templates.get mode))

end Templates

/-- A store: the path of its file, and the templates once they have been read. -/
structure TemplateStore where
  path : Path
  loaded : Option Templates := none
deriving DecidableEq, Repr

namespace TemplateStore

variable {m : Type → Type} [Monad m] [Host m]

def fileName : String := "templates.json"

/-- A store on a file, which is the one beside the configuration if no path is given. -/
def create (path : Option String) : m (Except FileFault TemplateStore) := do
  match path with
  | some path => return .ok { path := Path.ofText path }
  | none => return (← Config.directory).map fun directory => { path := directory.child fileName }

/-- The templates of a store, which are read from the file if they have not been yet. -/
def load (store : TemplateStore) : m (Noted (TemplateStore × Except Failure Templates)) := do
  match store.loaded with
  | some templates => return pure (store, .ok templates)
  | none =>
    let found ← Config.readOrWarn "stackdigest.prompt.templates" "templates" store.path.toText
    match found.result with
    | .error fault => return ⟨found.notes, (store, .error (.file fault))⟩
    | .ok fields =>
      let templates := Templates.ofFields fields
      return ⟨found.notes, ({ store with loaded := some templates }, .ok templates)⟩

def unsaved (path : LooseText) : FileFault → Failure
  | .refused cause refused => .reported (.unsavedTemplates path cause refused)
  | .malformed fault => .file (.malformed fault)

/-- Writes templates to the store's file, in a directory that is made if need be. -/
def save (store : TemplateStore) (templates : Templates) : m (Except Failure Unit) := do
  let path := store.path.toText
  match ← Directories.make store.path.parent with
  | .error fault => return .error (unsaved path fault)
  | .ok () =>
    let written ← Host.writeFile path (Config.octetsOf templates.toFields)
    return written.mapError (unsaved path)

/-- Goes on with the mode of a name. A name without a mode is refused before any file is read. -/
def withMode (store : TemplateStore) (name : Option String)
    (operation : Mode → m (Noted (TemplateStore × Except Failure α))) :
    m (Noted (TemplateStore × Except Failure α)) :=
  match Mode.check name with
  | .ok mode => operation mode
  | .error failure => return pure (store, .error failure)

def get (store : TemplateStore) (mode : Mode) :
    m (Noted (TemplateStore × Except Failure LooseText)) := do
  let loaded ← store.load
  let (store, templates) := loaded.result
  return ⟨loaded.notes, (store, templates.map fun templates => templates.get mode)⟩

def all (store : TemplateStore) :
    m (Noted (TemplateStore × Except Failure (List (Mode × LooseText)))) := do
  let loaded ← store.load
  let (store, templates) := loaded.result
  return ⟨loaded.notes, (store, templates.map fun templates =>
    Mode.all.map fun mode => (mode, templates.get mode))⟩

/-- The template that a text sets: a blank text restores the default. -/
def effective (mode : Mode) (template : LooseText) : LooseText :=
  if template.isBlank then mode.defaultTemplate else template

/-- Sets the template of a mode, and writes the file. A store that could not write keeps the
template all the same. -/
def set (store : TemplateStore) (mode : Mode) (template : LooseText) :
    m (Noted (TemplateStore × Except Failure Unit)) := do
  let loaded ← store.load
  match loaded.result with
  | (store, .error failure) => return ⟨loaded.notes, (store, .error failure)⟩
  | (store, .ok templates) =>
    let templates := templates.set mode (effective mode template)
    let store := { store with loaded := some templates }
    return ⟨loaded.notes, (store, ← store.save templates)⟩

def reset (store : TemplateStore) (mode : Mode) :
    m (Noted (TemplateStore × Except Failure Unit)) :=
  store.set mode mode.defaultTemplate

def isDefault (store : TemplateStore) (mode : Mode) :
    m (Noted (TemplateStore × Except Failure Bool)) := do
  let found ← store.get mode
  let (store, template) := found.result
  return ⟨found.notes, (store, template.map (· == LooseText.ofString mode.defaultTemplate))⟩

end TemplateStore

end FrameLens
