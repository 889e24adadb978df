import FrameLens.Proofs.Settings.Ranges

/-!
# Loading settings

A setting is decided by its variable, else by the configuration file, else by its
default, and is raised to its minimum.  Settings that were loaded are in range, and when
they are written to a configuration file the same settings are loaded from there.
-/

namespace FrameLens

open Json (IsStorable)
open Machine (run_bind_of run_environment?)

namespace Settings

variable {machine : Machine} {fields : Json.Fields} {settings base : Settings}

/-! ## Where settings come from -/

/-- The number in a variable of a machine. -/
def numberIn (machine : Machine) (name : String) : Option Int :=
  (machine.environment.lookup name).bind fun text => text.plain.toOption.bind Text.parseInt?

/-- The number in the variable that overrides an integer field. -/
def IntegerField.inVariable (field : IntegerField) (machine : Machine) : Option Int :=
  field.override.bind (numberIn machine)

/-- Settings that come from the variables of a machine, else from the fields of a file, else
from the defaults. -/
structure ComesFrom (machine : Machine) (fields : Json.Fields) (settings : Settings) : Prop where
  integers : ∀ field ∈ integerFields,
    field.value settings =
      raised ((field.inVariable machine).or (numberAt fields field.key)) field.minimum
        (field.value {})
  marker : settings.marker = readMarker fields ({} : Settings).marker
  remaps : readRemaps fields = .ok settings.remaps

/-! ## Variables -/

/-- The settings with the variables of a machine put in. -/
def overridden (machine : Machine) (base : Settings) : Settings :=
  { base with
    framesToAnnotate := raised (numberIn machine "STACKDIGEST_FRAMES") 0 base.framesToAnnotate
    maxSourceLines := raised (numberIn machine "STACKDIGEST_MAX_LINES") 1 base.maxSourceLines
    nearMiss := raised (numberIn machine "STACKDIGEST_NEAR_MISS_CHARS") 0 base.nearMiss }

/-- A variable that holds a number decides its field. -/
theorem value_overridden {field : IntegerField} (hfield : field ∈ integerFields) :
    field.value (overridden machine base) =
      raised (field.inVariable machine) field.minimum (field.value base) := by
  revert field
  simp [integerFields, IntegerField.inVariable, overridden, raised]

/-- Without variables settings stay as they are. -/
theorem overridden_of_unset (hunset : ∀ field ∈ integerFields, field.inVariable machine = none) :
    overridden machine base = base := by
  simp only [integerFields, List.forall_mem_cons] at hunset
  obtain ⟨hframes, hlines, -, -, hnear, -⟩ := hunset
  dsimp only [IntegerField.inVariable, Option.bind_some] at hframes hlines hnear
  rw [overridden, hframes, hlines, hnear]
  rfl

theorem comesFrom_overridden (hread : ofFields fields = .ok base) :
    ComesFrom machine fields (overridden machine base) := by
  obtain ⟨hintegers, hmarker, hremaps⟩ := ofFields_eq_ok_iff.1 hread
  refine ⟨fun field hfield => ?_, hmarker, hremaps⟩
  rw [value_overridden hfield, readInteger_eq (hintegers field hfield), raised_or]

/-- A variable brings no field below its minimum. -/
theorem InRange.overridden (hrange : InRange base) : InRange (overridden machine base) where
  integers field hfield := by
    rw [value_overridden hfield]
    exact le_raised _ (hrange.integers field hfield)
  marker_solid := hrange.marker_solid
  marker_trimmed := hrange.marker_trimmed
  sources := hrange.sources

/-- Settings that are kept in the file stay so with variables put in. -/
theorem IsKept.overridden (hkept : IsKept base) : IsKept (overridden machine base) where
  integers field hfield := by
    rw [value_overridden hfield]
    refine natAbs_raised_lt (fun number hnumber => ?_) (natAbs_minimum_lt field hfield)
      (hkept.integers field hfield)
    obtain ⟨name, -, hvariable⟩ := Option.bind_eq_some_iff.1 hnumber
    obtain ⟨text, -, hplain⟩ := Option.bind_eq_some_iff.1 hvariable
    obtain ⟨chars, -, hparse⟩ := Option.bind_eq_some_iff.1 hplain
    exact Text.parseInt?_natAbs_lt hparse
  marker := hkept.marker
  remaps := hkept.remaps

end Settings

/-! ## Loading -/

namespace Config

open Settings

variable {machine : Machine} {directory : Path} {fields : Json.Fields} {settings : Settings}

theorem run_override (machine : Machine) (name : String) (value minimum : Int) :
    (override name value minimum : StateM Machine _).run machine =
      (raised (numberIn machine name) minimum value, machine) := by
  rw [override, run_bind_of (run_environment? machine name), numberIn]
  cases machine.environment.lookup name with
  | none => rfl
  | some text =>
      rw [Option.bind_some]
      cases hparse : text.plain.toOption.bind Text.parseInt? with
      | none =>
          dsimp only
          rw [hparse]
          rfl
      | some number =>
          dsimp only
          rw [hparse]
          rfl

/-- The variables are put in without a change to the machine. -/
theorem run_overrideAll (machine : Machine) (base : Settings) :
    (overrideAll base : StateM Machine _).run machine = (overridden machine base, machine) := by
  rw [overrideAll, run_bind_of (run_override machine _ _ _),
    run_bind_of (run_override machine _ _ _), run_bind_of (run_override machine _ _ _)]
  rfl

/-- What is loaded can be written again. -/
theorem isStorable_of_load
    (hload : ((load directory : StateM Machine _).run machine).1.result = .ok fields) :
    IsStorable (.object fields) := by
  obtain ⟨-, rfl⟩ := load_eq_ok_iff.1 hload
  exact isStorable_stored machine directory

/-- What loading settings comes to. -/
theorem result_loadSettings (machine : Machine) (directory : Path) :
    ((loadSettings directory : StateM Machine _).run machine).1.result =
      match machine.refusal? (filePath directory) with
      | some fault => .error (.file fault)
      | none => (ofFields (stored machine directory)).map (overridden machine) := by
  obtain ⟨notes, hload⟩ := run_load machine directory
  rw [loadSettings, run_bind_of hload]
  cases machine.refusal? (filePath directory) with
  | some fault => rfl
  | none =>
      have hfields : ((Except.ok (stored machine directory) : Except FileFault Json.Fields).mapError
          Failure.file).bind ofFields = ofFields (stored machine directory) := rfl
      dsimp only
      rw [hfields]
      cases ofFields (stored machine directory) with
      | error failure => rfl
      | ok base =>
          dsimp only
          rw [run_bind_of (run_overrideAll machine base)]
          rfl

/-- Settings are loaded if the fields are and settings can be read from them. -/
theorem loadSettings_eq_ok_iff :
    ((loadSettings directory : StateM Machine _).run machine).1.result = .ok settings ↔
      ∃ fields base, ((load directory : StateM Machine _).run machine).1.result = .ok fields ∧
        ofFields fields = .ok base ∧ overridden machine base = settings := by
  rw [result_loadSettings]
  simp only [load_eq_ok_iff]
  cases machine.refusal? (filePath directory) with
  | some fault => simp
  | none =>
      cases hread : ofFields (stored machine directory) with
      | error failure => simp [Except.map, hread]
      | ok base => simp [Except.map, hread]

/-- Settings that were written are loaded again. -/
theorem loadSettings_after_write (hrange : InRange settings) (hkept : IsKept settings)
    (hroom : HasRoom machine directory)
    (hunset : ∀ field ∈ integerFields, field.inVariable machine = none) :
    ∃ notes after, (write directory settings.toFields : StateM Machine _).run machine =
        (⟨notes, .ok (filePath directory)⟩, after) ∧
      ((loadSettings directory : StateM Machine _).run after).1.result = .ok settings := by
  obtain ⟨notes, after, loadNotes, final, hwrite, hsame, hload, hfinal⟩ :=
    load_after_write hroom (isStorable_toFields hkept) (isExact_toFields settings)
  have hread : ofFields final = .ok settings := ofFields_of_toFields hrange hfinal
  have hafter : ∀ field ∈ integerFields, field.inVariable after = none := by
    intro field hfield
    rw [← hunset field hfield, IntegerField.inVariable, IntegerField.inVariable]
    congr 1
    funext name
    rw [numberIn, numberIn, hsame.environment]
  refine ⟨notes, after, hwrite, loadSettings_eq_ok_iff.2 ⟨final, settings, ?_, hread, ?_⟩⟩
  · rw [hload]
  · exact overridden_of_unset hafter

/-- Settings that were loaded are in range, and each of them comes from its variable, else
from the file, else from the defaults. They are the settings in their own fields, and where
no variable holds a number they are loaded from any configuration file they are written to. -/
theorem loaded_settings_kept
    (hload : ((loadSettings directory : StateM Machine _).run machine).1.result = .ok settings) :
    InRange settings ∧
      (∃ fields, ((load directory : StateM Machine _).run machine).1.result = .ok fields ∧
        ComesFrom machine fields settings) ∧
      ofFields settings.toFields = .ok settings ∧
      ∀ (other : Machine) (place : Path), HasRoom other place →
        (∀ field ∈ integerFields, field.inVariable other = none) →
        ∃ notes after, (write place settings.toFields : StateM Machine _).run other =
            (⟨notes, .ok (filePath place)⟩, after) ∧
          ((loadSettings place : StateM Machine _).run after).1.result = .ok settings := by
  obtain ⟨fields, base, hfields, hread, rfl⟩ := loadSettings_eq_ok_iff.1 hload
  have hrange : InRange (overridden machine base) := (inRange_of_ofFields hread).overridden
  have hkept : IsKept (overridden machine base) :=
    (isKept_of_ofFields (isStorable_of_load hfields) hread).overridden
  refine ⟨hrange, ⟨fields, hfields, comesFrom_overridden hread⟩, ?_, fun other place => ?_⟩
  · exact ofFields_of_toFields hrange fun field hfield =>
      Json.get?_of_mem (nodup_keys _) hfield
  · exact loadSettings_after_write hrange hkept

def tunedFields : Json.Fields := [
  ("frames_to_annotate", .int (-3)),
  ("max_source_lines", .string [.char '8', .char '0']),
  ("current_line_marker", .string [.char ' ', .char '>'])]

/-- A machine whose file sets three fields, one of which a variable overrides. -/
def tunedMachine : Machine where
  entries := [
    ([[0x63], Utf8.encode "config.json".toList], .file (octetsOf tunedFields)),
    ([[0x63]], .directory)]
  environment := [("STACKDIGEST_FRAMES", "7")]

def tunedSettings : Settings :=
  { framesToAnnotate := 7, maxSourceLines := 80, marker := [.char '>'] }

theorem isStorable_tunedFields : IsStorable (.object tunedFields) := by
  have hthree : IsStorable (.int (-3)) := .int (Nat.lt_of_lt_of_le (by decide) small_le_bound)
  refine .object (by decide) ?_ ?_
  · simp [tunedFields, LooseText.ofString, LooseText.isWhole_ofChars]
  · simp only [tunedFields, List.forall_mem_cons]
    exact ⟨hthree, .string (LooseText.isWhole_ofChars ['8', '0']),
      .string (LooseText.isWhole_ofChars [' ', '>']), List.forall_mem_nil _⟩

theorem loadSettings_tunedMachine :
    ((loadSettings keptDirectory : StateM Machine _).run tunedMachine).1.result =
      .ok tunedSettings := by
  have hread : tunedMachine.readFile (filePath keptDirectory) = .ok (octetsOf tunedFields) := by
    decide +kernel
  have hexact : Json.IsExact (.object tunedFields) := by
    refine .object ?_
    simp [tunedFields, Json.IsExact.int, Json.IsExact.string]
  have hkeep : tunedMachine.CanKeep (filePath keptDirectory) := by
    refine ⟨rfl, octetsOf tunedFields, tunedMachine, ?_⟩
    decide +kernel
  obtain ⟨notes, hload⟩ := run_load_of_canKeep hkeep
  rw [stored_of_readFile hread isStorable_tunedFields hexact] at hload
  refine loadSettings_eq_ok_iff.2
    ⟨tunedFields, { tunedSettings with framesToAnnotate := 0 }, ?_, ?_, ?_⟩
  · rw [hload]
  · rfl
  · decide +kernel

theorem hasRoom_empty : HasRoom {} keptDirectory := by
  have hmake : (Directories.make keptDirectory : StateM Machine _).run {} =
      (.ok (), { entries := [([[0x63]], .directory)] }) :=
    Prod.ext (by decide +kernel) (by decide +kernel)
  have hwritten : Machine.writeFile { entries := [([[0x63]], .directory)] }
      (filePath keptDirectory) [] = .ok { entries := [
        ([[0x63], Utf8.encode "config.json".toList], .file []), ([[0x63]], .directory)] } := by
    decide +kernel
  exact ⟨_, hmake, rfl, [], _, hwritten⟩

/-- Settings of one machine are written to another one that has no files, and loaded there. -/
theorem tuned_settings_kept :
    ((loadSettings keptDirectory : StateM Machine _).run tunedMachine).1.result =
        .ok tunedSettings ∧
      ∃ notes after, (write keptDirectory tunedSettings.toFields : StateM Machine _).run {} =
          (⟨notes, .ok (filePath keptDirectory)⟩, after) ∧
        ((loadSettings keptDirectory : StateM Machine _).run after).1.result =
          .ok tunedSettings := by
  obtain ⟨-, -, -, hkept⟩ := loaded_settings_kept loadSettings_tunedMachine
  exact ⟨loadSettings_tunedMachine, hkept {} keptDirectory hasRoom_empty (by decide)⟩

end Config

end FrameLens
