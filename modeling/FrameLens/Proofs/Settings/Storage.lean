import FrameLens.Proofs.Files.Writing
import FrameLens.Proofs.Json.Ascii
import FrameLens.Proofs.Json.Reading
import FrameLens.Proofs.Lines
import FrameLens.Settings.Config

/-!
# Fields kept in the configuration file

Updates of the configuration file accumulate: whatever the file held, a key that is set
has its last value from then on, and every other key keeps the one it had.  Halves of one
character that stand side by side come back as that character.
-/

namespace FrameLens

open Json (IsStorable IsExact)

/-! ## The contents of a file -/

namespace Config

variable {fields : Json.Fields}

/-- Bounded fields are read back from the contents that are written for them. -/
theorem fieldsOf_octetsOf (hfields : (Json.object fields).isBounded = true) :
    fieldsOf (octetsOf fields) = .ok (Json.readBack fields) := by
  have hascii : Json.IsAscii ((Json.object fields).write ++ ['\n']) :=
    Json.isAscii_append_iff.2 ⟨Json.isAscii_writeAt 0 (.object fields), by simp⟩
  have hfree : '\r' ∉ (Json.object fields).write ++ ['\n'] := fun hmem => by
    rcases hascii '\r' hmem with heq | hbounds
    · cases heq
    · exact absurd hbounds.1 (by decide)
  rw [fieldsOf, octetsOf, Utf8.decodeStrict_encode]
  dsimp only
  rw [Text.unifyLineEndings_of_free hfree, Json.read?_write hfields, Json.asRead_object]

/-- Fields that are read from a file can be written again. -/
theorem isStorable_of_fieldsOf {octets : Octets} (hread : fieldsOf octets = .ok fields) :
    IsStorable (.object fields) := by
  unfold fieldsOf at hread
  split at hread
  · cases hread
  · split at hread
    · cases hread
    · rename_i hvalue
      cases hread
      exact Json.isStorable_of_read? hvalue
    · cases hread

end Config

/-! ## Files of fields -/

namespace Machine

variable {machine after : Machine} {path : LooseText} {contents : Octets}

/-- Whether or not there is a file at the path, one can be written and then read there. -/
structure CanKeep (machine : Machine) (path : LooseText) : Prop where
  readable : machine.readingDenied = false
  writable : ∃ contents after, machine.writeFile path contents = .ok after

/-- The fields of the file at a path; one that is missing or cannot be used has none. -/
def fieldsAt (machine : Machine) (path : LooseText) : Json.Fields :=
  match machine.readFile path with
  | .ok octets => (Config.fieldsOf octets).toOption.getD []
  | .error _ => []

theorem isStorable_fieldsAt (machine : Machine) (path : LooseText) :
    IsStorable (.object (machine.fieldsAt path)) := by
  unfold fieldsAt
  split
  · rename_i octets _
    cases hread : Config.fieldsOf octets with
    | ok fields => exact Config.isStorable_of_fieldsOf hread
    | error unusable => exact Json.isStorable_noFields
  · exact Json.isStorable_noFields

/-- The fault with which a machine refuses to tell whether a path leads to anything. -/
def refusal? (machine : Machine) (path : LooseText) : Option FileFault :=
  match machine.kind path with
  | .ok _ => none
  | .error fault => if fault.isAbsence then none else some fault

theorem kind_of_readFile (hread : machine.readFile path = .ok contents) :
    machine.kind path = .ok .file := by
  obtain ⟨-, octets, place, hencode, hlocate, hentry⟩ := readFile_eq_ok_iff.1 hread
  exact kind_eq_ok_iff.2 ⟨octets, place, .file contents, hencode, hlocate, hentry, rfl⟩

theorem fieldsAt_of_kind_error {fault : FileFault} (hkind : machine.kind path = .error fault) :
    machine.fieldsAt path = [] := by
  unfold fieldsAt
  split
  · rename_i hread
    rw [kind_of_readFile hread] at hkind
    cases hkind
  · rfl

/-- Whether a path leads to anything can be told where a file can be kept. -/
theorem CanKeep.refusal?_eq_none (hkeep : machine.CanKeep path) : machine.refusal? path = none := by
  obtain ⟨contents, after, hwritten⟩ := hkeep.writable
  obtain ⟨octets, place, hencode, htakes, -⟩ := writeFile_eq_ok_iff.1 hwritten
  unfold refusal?
  cases hentry : machine.entry? place with
  | none =>
      have hfind : machine.find octets = .error .missing := by
        rw [find, htakes.locate_eq]
        dsimp only [bind, Except.bind]
        rw [hentry]
      have hkind : machine.kind path = .error (.refused .missing path) := by
        rw [kind, onPath, hencode]
        dsimp only
        rw [hfind]
        rfl
      rw [hkind]
      rfl
  | some entry =>
      rw [kind_eq_ok_iff.2 ⟨octets, place, entry, hencode, htakes.locate_eq, hentry, rfl⟩]

/-- A path that keeps a file goes on to keep one. -/
theorem CanKeep.of_writeFile (hkeep : machine.CanKeep path)
    (hwritten : machine.writeFile path contents = .ok after) : after.CanKeep path where
  readable := by rw [readingDenied_of_writeFile hwritten, hkeep.readable]
  writable := by
    obtain ⟨again, hagain⟩ := exists_writeFile_again hwritten []
    exact ⟨[], again, hagain⟩

/-- A path that keeps files takes any contents. -/
theorem CanKeep.exists_writeFile (hkeep : machine.CanKeep path) (contents : Octets) :
    ∃ after, machine.writeFile path contents = .ok after := by
  obtain ⟨others, after, hwritten⟩ := hkeep.writable
  obtain ⟨octets, place, hencode, htakes, -⟩ := writeFile_eq_ok_iff.1 hwritten
  exact ⟨_, writeFile_eq_ok_iff.2 ⟨octets, place, hencode, htakes, rfl⟩⟩

theorem run_pathExists (machine : Machine) (path : LooseText) :
    (Host.pathExists path : StateM Machine _).run machine =
      (match machine.kind path with
        | .ok _ => .ok true
        | .error fault => if fault.isAbsence then .ok false else .error fault, machine) := by
  rw [Host.pathExists, run_bind_of (run_kind machine path)]
  cases machine.kind path with
  | ok found => rfl
  | error fault => rfl

/-- Reading fields changes nothing on the machine. -/
theorem run_readFields (machine : Machine) (path : LooseText) :
    (Config.readFields path : StateM Machine _).run machine =
      (match machine.readFile path with
        | .ok octets => Config.fieldsOf octets
        | .error fault => .error (.unreadable fault.message), machine) := by
  rw [Config.readFields, run_bind_of (run_readFile machine path)]
  cases machine.readFile path with
  | ok octets => rfl
  | error fault => rfl

/-- The fields of a file are read, whatever is at its path, unless the machine refuses to tell
whether there is anything. Nothing is changed. -/
theorem run_readOrWarn (machine : Machine) (origin what : String) (path : LooseText) :
    ∃ notes, (Config.readOrWarn origin what path : StateM Machine _).run machine =
      (⟨notes, match machine.refusal? path with
        | some fault => .error fault
        | none => .ok (machine.fieldsAt path)⟩, machine) := by
  rw [Config.readOrWarn, run_bind_of (run_pathExists machine path), refusal?]
  cases hkind : machine.kind path with
  | error fault =>
      dsimp only
      cases fault.isAbsence with
      | true =>
          rw [if_pos rfl, if_pos rfl, fieldsAt_of_kind_error hkind]
          exact ⟨[], rfl⟩
      | false => exact ⟨[], rfl⟩
  | ok found =>
      dsimp only
      rw [run_bind_of (run_readFields machine path), fieldsAt]
      cases machine.readFile path with
      | error fault => exact ⟨_, rfl⟩
      | ok octets =>
          dsimp only
          cases Config.fieldsOf octets with
          | ok fields => exact ⟨[], rfl⟩
          | error unusable => exact ⟨_, rfl⟩

/-- Written fields are there as they are read back. -/
theorem fieldsAt_of_writeFile {fields : Json.Fields} (hreadable : machine.readingDenied = false)
    (hfields : (Json.object fields).isBounded = true)
    (hwritten : machine.writeFile path (Config.octetsOf fields) = .ok after) :
    after.fieldsAt path = Json.readBack fields := by
  rw [fieldsAt, readFile_of_writeFile hreadable hwritten]
  dsimp only
  rw [Config.fieldsOf_octetsOf hfields]
  rfl

end Machine

/-! ## The configuration file -/

namespace Config

open Machine

variable {machine after : Machine} {directory : Path} {fields updates : Json.Fields}

/-- The configuration directory is there, and the file in it can be written and read. -/
structure IsWritable (machine : Machine) (directory : Path) : Prop where
  isDirectory : machine.kind directory.toText = .ok .directory
  keeps : machine.CanKeep (filePath directory)

/-- The fields that the configuration file has. -/
def stored (machine : Machine) (directory : Path) : Json.Fields :=
  machine.fieldsAt (filePath directory)

theorem isStorable_stored (machine : Machine) (directory : Path) :
    IsStorable (.object (stored machine directory)) :=
  isStorable_fieldsAt machine (filePath directory)

theorem stored_of_readFile (hread : machine.readFile (filePath directory) = .ok (octetsOf fields))
    (hstorable : IsStorable (.object fields)) (hexact : IsExact (.object fields)) :
    stored machine directory = fields := by
  rw [stored, fieldsAt, hread]
  dsimp only
  rw [fieldsOf_octetsOf hstorable.isBounded, hstorable.readBack_eq hexact]
  rfl

/-- A directory stays writable after a file of it was written. -/
theorem IsWritable.of_writeFile (hready : IsWritable machine directory) {contents : Octets}
    (hwritten : machine.writeFile (filePath directory) contents = .ok after) :
    IsWritable after directory where
  isDirectory := directory_of_writeFile hwritten hready.isDirectory
  keeps := hready.keeps.of_writeFile hwritten

/-- Loading gives the stored fields, unless the file may not be looked for. -/
theorem run_load (machine : Machine) (directory : Path) :
    ∃ notes, (load directory : StateM Machine _).run machine =
      (⟨notes, match machine.refusal? (filePath directory) with
        | some fault => .error fault
        | none => .ok (stored machine directory)⟩, machine) :=
  run_readOrWarn machine _ _ _

theorem run_load_of_canKeep (hkeep : machine.CanKeep (filePath directory)) :
    ∃ notes, (load directory : StateM Machine _).run machine =
      (⟨notes, .ok (stored machine directory)⟩, machine) := by
  obtain ⟨notes, hload⟩ := run_load machine directory
  rw [hkeep.refusal?_eq_none] at hload
  exact ⟨notes, hload⟩

/-- Writing goes well in a directory that is made or there. -/
theorem run_write_of_make {before : Machine}
    (hmake : (Directories.make directory : StateM Machine _).run machine = (.ok (), before))
    (hkeep : before.CanKeep (filePath directory)) (updates : Json.Fields) :
    ∃ notes after, (write directory updates : StateM Machine _).run machine =
        (⟨notes, .ok (filePath directory)⟩, after) ∧
      before.writeFile (filePath directory)
        (octetsOf (Json.update (stored before directory) updates)) = .ok after := by
  obtain ⟨notes, hload⟩ := run_load_of_canKeep hkeep
  obtain ⟨after, hwritten⟩ := hkeep.exists_writeFile
    (octetsOf (Json.update (stored before directory) updates))
  refine ⟨notes, after, ?_, hwritten⟩
  rw [write, run_bind_of hmake]
  dsimp only
  rw [run_bind_of hload]
  dsimp only
  rw [run_bind_of (run_writeFile hwritten)]
  rfl

theorem stored_of_writeFile (hkeep : machine.CanKeep (filePath directory))
    (hupdates : (Json.object updates).isBounded = true)
    (hwritten : machine.writeFile (filePath directory)
      (octetsOf (Json.update (stored machine directory) updates)) = .ok after) :
    stored after directory = Json.readBack (Json.update (stored machine directory) updates) :=
  fieldsAt_of_writeFile hkeep.readable
    (Json.isBounded_update (isStorable_stored machine directory).isBounded hupdates) hwritten

/-- What is loaded is what is stored. -/
theorem load_eq_ok_iff :
    ((load directory : StateM Machine _).run machine).1.result = .ok fields ↔
      machine.refusal? (filePath directory) = none ∧ stored machine directory = fields := by
  obtain ⟨notes, hload⟩ := run_load machine directory
  rw [hload]
  dsimp only
  cases machine.refusal? (filePath directory) with
  | some fault => simp
  | none => simp

/-- The configuration directory is there or can be made, and a file can be kept in it. -/
def HasRoom (machine : Machine) (directory : Path) : Prop :=
  ∃ before, (Directories.make directory : StateM Machine _).run machine = (.ok (), before) ∧
    before.CanKeep (filePath directory)

/-- Where a configuration file can be kept, what an update set is loaded after it. -/
theorem load_after_write (hroom : HasRoom machine directory)
    (hstorable : IsStorable (.object updates)) (hexact : IsExact (.object updates)) :
    ∃ notes after loadNotes final, (write directory updates : StateM Machine _).run machine =
        (⟨notes, .ok (filePath directory)⟩, after) ∧
      SameSurroundings machine after ∧
      (load directory : StateM Machine _).run after = (⟨loadNotes, .ok final⟩, after) ∧
      ∀ field ∈ updates, Json.get? final field.1 = some field.2 := by
  obtain ⟨before, hmake, hkeep⟩ := hroom
  have hbefore : SameSurroundings machine before := by
    have hkeeps := keepsSurroundings_make directory machine
    rwa [hmake] at hkeeps
  obtain ⟨notes, after, hwrite, hwritten⟩ := run_write_of_make hmake hkeep updates
  obtain ⟨loadNotes, hload⟩ := run_load_of_canKeep (hkeep.of_writeFile hwritten)
  refine ⟨notes, after, loadNotes, _, hwrite,
    hbefore.trans ⟨environment_of_writeFile hwritten, readingDenied_of_writeFile hwritten⟩, hload,
    fun field hfield => ?_⟩
  rw [stored_of_writeFile hkeep hstorable.isBounded hwritten,
    Json.get?_readBack_update (isStorable_stored before directory)
      (hstorable.countP_joined_le_one field.1),
    hstorable.readBack_eq hexact, Json.get?_of_mem hstorable.nodup_keys hfield, Option.some_or]

/-- Where a configuration file was written, it can be written again. -/
theorem HasRoom.of_write (hroom : HasRoom machine directory)
    {noted : Noted (Except FileFault LooseText)}
    (hwrite : (write directory updates : StateM Machine _).run machine = (noted, after)) :
    HasRoom after directory := by
  obtain ⟨before, hmake, hkeep⟩ := hroom
  obtain ⟨notes, last, hrun, hwritten⟩ := run_write_of_make hmake hkeep updates
  obtain rfl : last = after := congrArg Prod.snd (hrun.symm.trans hwrite)
  exact ⟨last, run_make (directory_of_writeFile hwritten (kind_of_make hmake)),
    hkeep.of_writeFile hwritten⟩

/-- The fields that the file has once an update was merged into them. -/
def merged (fields update : Json.Fields) : Json.Fields :=
  Json.readBack (Json.update fields update)

def keptDirectory : Path := ⟨.absolute, [[.char 'c']]⟩

end Config

end FrameLens
