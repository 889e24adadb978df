import FrameLens.Files.Machine
import FrameLens.Files.TextSource
import FrameLens.Prompt.Composition
import FrameLens.Prompt.TemplateStore

/-!
# Programs that only read

The programs that look for files, load settings and templates, and extract functions leave a machine
as it was.  So do those that read texts, but for the input that they took.
-/

namespace FrameLens

namespace Machine

/-- A program changes nothing on a machine. -/
def LeavesAlone {α : Type} (program : StateM Machine α) : Prop :=
  ∀ machine, (program.run machine).2 = machine

namespace LeavesAlone

variable {α β : Type}

theorem pure (value : α) : LeavesAlone (Pure.pure value : StateM Machine α) :=
  fun _ => rfl

theorem bind {first : StateM Machine α} {next : α → StateM Machine β} (hfirst : LeavesAlone first)
    (hnext : ∀ value, LeavesAlone (next value)) : LeavesAlone (first >>= next) := by
  intro machine
  rw [StateT.run_bind]
  exact (hnext _ _).trans (hfirst machine)

/-! ## Files -/

theorem kind (path : LooseText) : LeavesAlone (Host.kind path) :=
  fun _ => rfl

theorem readFile (path : LooseText) : LeavesAlone (Host.readFile path) :=
  fun _ => rfl

theorem workingDirectory : LeavesAlone Host.workingDirectory :=
  fun _ => rfl

theorem environment? (name : String) : LeavesAlone (Host.environment? name) :=
  fun _ => rfl

theorem isFile (path : LooseText) : LeavesAlone (Host.isFile path) := by
  refine (kind path).bind fun found => ?_
  cases found with
  | ok found => exact pure _
  | error fault => exact pure _

theorem pathExists (path : LooseText) : LeavesAlone (Host.pathExists path) := by
  refine (kind path).bind fun found => ?_
  cases found with
  | ok found => exact pure _
  | error fault => exact pure _

/-! ## Settings and templates -/

/-- The search for a project looks at the directories above and changes none. -/
theorem projectAbove (root : PathRoot) (parts : List LooseText) :
    LeavesAlone (Config.projectAbove root parts) := by
  induction parts with
  | nil => exact pure _
  | cons part above ih =>
      refine (pathExists _).bind fun found => ?_
      split
      · exact pure _
      · exact ih
      · exact pure _

theorem projectRoot (start : LooseText) : LeavesAlone (Config.projectRoot start) := by
  rw [Config.projectRoot]
  split
  · exact pure _
  · exact workingDirectory.bind fun _ => (projectAbove _ _).bind fun _ => pure _

theorem directory : LeavesAlone Config.directory := by
  have hproject : LeavesAlone Config.directory.ofProject :=
    (projectRoot _).bind fun _ => pure _
  refine (environment? _).bind fun name => ?_
  split
  · split
    · exact hproject
    · exact pure _
  · exact hproject

theorem readFields (path : LooseText) : LeavesAlone (Config.readFields path) := by
  refine (readFile path).bind fun found => ?_
  cases found with
  | ok octets => exact pure _
  | error fault => exact pure _

theorem readOrWarn (origin what : String) (path : LooseText) :
    LeavesAlone (Config.readOrWarn origin what path) := by
  refine (pathExists path).bind fun found => ?_
  split
  · exact pure _
  · exact pure _
  · refine (readFields path).bind fun fields => ?_
    cases fields with
    | ok fields => exact pure _
    | error unusable => exact pure _

theorem override (name : String) (value minimum : Int) :
    LeavesAlone (Config.override name value minimum) := by
  refine (environment? name).bind fun text => ?_
  cases text with
  | none => exact pure _
  | some text => exact pure _

theorem overrideAll (settings : Settings) : LeavesAlone (Config.overrideAll settings) :=
  (override _ _ _).bind fun _ => (override _ _ _).bind fun _ => (override _ _ _).bind fun _ =>
    pure _

theorem load (directory : Path) : LeavesAlone (Config.load directory) :=
  readOrWarn _ _ _

theorem loadSettings (directory : Path) : LeavesAlone (Config.loadSettings directory) := by
  refine (load directory).bind fun fields => ?_
  split
  · exact pure _
  · exact (overrideAll _).bind fun _ => pure _

/-- Loading settings changes nothing on the machine. -/
theorem loadCurrent : LeavesAlone Config.loadCurrent := by
  refine directory.bind fun found => ?_
  cases found with
  | ok place => exact loadSettings place
  | error fault => exact pure _

theorem createStore (path : Option String) : LeavesAlone (TemplateStore.create path) := by
  cases path with
  | some path => exact pure _
  | none => exact directory.bind fun _ => pure _

/-- A store reads its file and leaves it as it is. -/
theorem loadTemplates (store : TemplateStore) : LeavesAlone store.load := by
  rw [TemplateStore.load]
  split
  · exact pure _
  · refine (readOrWarn _ _ _).bind fun found => ?_
    split
    · exact pure _
    · exact pure _

theorem getTemplate (store : TemplateStore) (mode : Mode) : LeavesAlone (store.get mode) :=
  (loadTemplates store).bind fun _ => pure _

theorem isDefaultTemplate (store : TemplateStore) (mode : Mode) :
    LeavesAlone (store.isDefault mode) :=
  (getTemplate store mode).bind fun _ => pure _

/-! ## Functions and prompts -/

theorem readView (path : LooseText) : LeavesAlone (ViewCache.readView path) :=
  (readFile path).bind fun _ => pure _

/-- A view is kept in the cache alone. -/
theorem getOrBuild (cache : ViewCache) (path : LooseText) :
    LeavesAlone (cache.getOrBuild path) := by
  refine workingDirectory.bind fun _ => ?_
  dsimp only
  split
  · exact pure _
  · refine (readView path).bind fun built => ?_
    cases built with
    | ok view => exact pure _
    | error fault => exact pure _

theorem extractAt (cache : ViewCache) (settings : Settings) (path : LooseText) (line : Int)
    (symbol : String) : LeavesAlone (FrameSource.extractAt cache settings path line symbol) := by
  refine (isFile path).bind fun found => ?_
  cases found with
  | false => exact pure _
  | true =>
      refine (getOrBuild cache path).bind fun built => ?_
      dsimp only
      split
      · exact pure _
      · exact pure _
      · split
        · exact pure _
        · exact pure _

theorem extract (cache : ViewCache) (settings : Settings) (path : Option String)
    (line : Option Int) (symbol : String) :
    LeavesAlone (FrameSource.extract cache settings path line symbol) := by
  rw [FrameSource.extract]
  split
  · exact pure _
  · exact extractAt _ _ _ _ _

theorem ofFrames (cache : ViewCache) (settings : Settings) (frames : List Frame) :
    LeavesAlone (FrameSource.ofFrames cache settings frames) := by
  induction frames generalizing cache with
  | nil => exact pure _
  | cons frame frames ih =>
      refine (extract _ _ _ _ _).bind fun first => ?_
      dsimp only
      split
      · exact pure _
      · exact (ih _).bind fun _ => pure _

theorem collect (cache : ViewCache) (settings : Settings) (limit : Option Int)
    (frames : List Frame) : LeavesAlone (FrameSource.collect cache settings limit frames) := by
  rw [FrameSource.collect]
  split
  · exact pure _
  · refine (ofFrames _ _ _).bind fun collected => ?_
    dsimp only
    split
    · exact pure _
    · exact pure _

/-- A prompt is composed without changing anything. -/
theorem assemble (cache : ViewCache) (settings : Settings) (template : LooseText) (stack : String)
    (frames : List Frame) (limit : Option Int) :
    LeavesAlone (Prompt.assemble cache settings template stack frames limit) :=
  (collect _ _ _ _).bind fun _ => pure _

end LeavesAlone

/-! ## Reading the input -/

/-- A program changes nothing on a machine but the input that is left. -/
def OnlyReads {α : Type} (program : StateM Machine α) : Prop :=
  ∀ machine, ∃ rest, (program.run machine).2 = { machine with input := rest }

variable {α β : Type}

/-- What changes nothing only reads. -/
theorem LeavesAlone.onlyReads {program : StateM Machine α} (hprogram : LeavesAlone program) :
    OnlyReads program :=
  fun machine => ⟨machine.input, hprogram machine⟩

namespace OnlyReads

theorem pure (value : α) : OnlyReads (Pure.pure value : StateM Machine α) :=
  (LeavesAlone.pure value).onlyReads

theorem bind {first : StateM Machine α} {next : α → StateM Machine β} (hfirst : OnlyReads first)
    (hnext : ∀ value, OnlyReads (next value)) : OnlyReads (first >>= next) := by
  intro machine
  obtain ⟨rest, hrest⟩ := hfirst machine
  obtain ⟨left, hleft⟩ := hnext (first.run machine).1 (first.run machine).2
  refine ⟨left, ?_⟩
  rw [StateT.run_bind]
  exact hleft.trans (by rw [hrest])

theorem readInput : OnlyReads Host.readInput :=
  fun _ => ⟨.plain [], rfl⟩

theorem read (source : TextSource) : OnlyReads source.read := by
  cases source with
  | input => exact readInput.bind fun _ => pure _
  | file path =>
      refine ((LeavesAlone.readFile path).bind fun found => ?_).onlyReads
      cases found with
      | ok octets => exact .pure _
      | error fault => exact .pure _

theorem readLenient (source : TextSource) : OnlyReads source.readLenient := by
  cases source with
  | input => exact readInput.bind fun _ => pure _
  | file path =>
      refine ((LeavesAlone.readFile path).bind fun found => ?_).onlyReads
      cases found with
      | ok octets => exact .pure _
      | error fault => exact .pure _

end OnlyReads

end Machine

end FrameLens
