import FrameLens.Prompt.TemplateStore
import FrameLens.Proofs.Settings.Storage

/-!
# Template stores

A store holds what was set last, and so does its file once something was set.  A call that
cannot write the file leaves the store with the new template all the same, and the next call
that can write persists it.
-/

namespace FrameLens

open Json (IsStorable)
open Machine (run_bind_of)

theorem Mode.mem_all (mode : Mode) : mode ∈ Mode.all := by
  cases mode <;> decide

/-! ## Templates as fields -/

namespace Templates

variable {templates : Templates} {mode other : Mode} {template : LooseText} {fields : Json.Fields}

theorem ext_get {left right : Templates} (hget : ∀ mode, left.get mode = right.get mode) :
    left = right := by
  obtain ⟨empty, explain, optimize⟩ := left
  obtain ⟨empty', explain', optimize'⟩ := right
  obtain rfl : empty = empty' := hget .empty
  obtain rfl : explain = explain' := hget .explain
  obtain rfl : optimize = optimize' := hget .optimize
  rfl

/-- A template that is set is the one of its mode, and the others stay. -/
theorem get_set (templates : Templates) (mode other : Mode) (template : LooseText) :
    (templates.set mode template).get other =
      if mode = other then template else templates.get other := by
  cases mode with
  | empty => cases other <;> rfl
  | explain => cases other <;> rfl
  | optimize => cases other <;> rfl

theorem get_ofFields (fields : Json.Fields) (mode : Mode) :
    (ofFields fields).get mode = readMode fields mode := by
  cases mode <;> rfl

/-- Templates come back from their fields. -/
theorem ofFields_toFields (templates : Templates) : ofFields templates.toFields = templates := by
  refine ext_get fun mode => ?_
  rw [get_ofFields]
  cases mode <;> rfl

/-- The text that fields have for a mode. -/
def kept? (fields : Json.Fields) (mode : Mode) : Option LooseText :=
  match Json.get? fields mode.name with
  | some (.string template) => some template
  | _ => none

/-- A mode without a string in the file has its default. -/
theorem readMode_eq (fields : Json.Fields) (mode : Mode) :
    readMode fields mode = (kept? fields mode).getD mode.defaultTemplate := by
  rw [readMode, kept?]
  cases Json.get? fields mode.name with
  | none => rfl
  | some value => cases value <;> rfl

/-- A template that is read holds no halves that would be one character. -/
theorem isWhole_kept? (hfields : IsStorable (.object fields))
    (hkept : kept? fields mode = some template) : template.IsWhole := by
  unfold kept? at hkept
  split at hkept
  · rename_i hget
    cases hkept
    cases hfields.of_get? hget with
    | string hwhole => exact hwhole
  · cases hkept

/-- The templates with the halves in them joined. -/
def joined (templates : Templates) : Templates where
  empty := templates.empty.joined
  explain := templates.explain.joined
  optimize := templates.optimize.joined

theorem get_joined (templates : Templates) (mode : Mode) :
    templates.joined.get mode = (templates.get mode).joined := by
  cases mode <;> rfl

theorem isBounded_toFields (templates : Templates) :
    (Json.object templates.toFields).isBounded = true := by
  refine Json.isBounded_object_iff.2 fun field hfield => ?_
  obtain ⟨mode, -, rfl⟩ := List.mem_map.1 hfield
  rfl

/-- Templates are read back with their halves joined. -/
theorem readBack_toFields (templates : Templates) :
    Json.readBack templates.toFields = templates.joined.toFields := by
  have hkeys : (Mode.all.map fun mode => (mode.name : LooseText)).Nodup := by decide
  have hname (mode : Mode) : (mode.name : LooseText).joined = mode.name :=
    (LooseText.isWhole_ofChars _).joined_eq
  have hfields : Json.fieldsAsRead templates.toFields = templates.joined.toFields := by
    rw [Json.fieldsAsRead_eq, toFields, toFields, List.map_map]
    refine List.map_congr_left fun mode _ => ?_
    rw [Function.comp_apply, hname, Json.asRead, get_joined]
  rw [Json.readBack, hfields, Json.update_eq_append, List.nil_append]
  rwa [List.nil_append, Json.keys, toFields, List.map_map]

end Templates

/-! ## Single calls -/

namespace TemplateStore

variable {machine after : Machine} {store : TemplateStore} {templates : Templates} {mode : Mode}
  {template : LooseText} {failure : Failure}

/-- The templates of a store on a machine: those in memory, or else those of the file. -/
def contents (store : TemplateStore) (machine : Machine) : Except Failure Templates :=
  match store.loaded with
  | some templates => .ok templates
  | none =>
    match machine.refusal? store.path.toText with
    | some fault => .error (.file fault)
    | none => .ok (Templates.ofFields (machine.fieldsAt store.path.toText))

/-- The store once its templates have been asked for. -/
def filled (store : TemplateStore) (machine : Machine) : TemplateStore :=
  { store with loaded := (store.contents machine).toOption }

/-- Loading fills the store and changes nothing on the machine. -/
theorem run_load (store : TemplateStore) (machine : Machine) :
    ∃ notes, (store.load : StateM Machine _).run machine =
      (⟨notes, (store.filled machine, store.contents machine)⟩, machine) := by
  obtain ⟨path, loaded⟩ := store
  cases loaded with
  | some templates => exact ⟨[], rfl⟩
  | none =>
      obtain ⟨notes, hread⟩ := Machine.run_readOrWarn machine "stackdigest.prompt.templates"
        "templates" path.toText
      refine ⟨notes, ?_⟩
      rw [load, filled, contents]
      dsimp only
      rw [run_bind_of hread]
      cases machine.refusal? path.toText with
      | some fault => rfl
      | none => rfl

/-- A store that was filled holds what it held before. -/
theorem contents_filled (store : TemplateStore) (machine : Machine) :
    (store.filled machine).contents machine = store.contents machine := by
  cases hcontents : store.contents machine with
  | ok templates =>
      rw [filled, hcontents]
      rfl
  | error failure =>
      rw [filled, hcontents]
      unfold contents at hcontents
      split at hcontents
      · cases hcontents
      · rename_i hloaded
        rw [contents]
        exact hcontents

/-- A call for a template fills the store. -/
theorem run_get (store : TemplateStore) (mode : Mode) (machine : Machine) :
    ∃ notes, (store.get mode : StateM Machine _).run machine =
      (⟨notes, (store.filled machine,
        (store.contents machine).map fun templates => templates.get mode)⟩, machine) := by
  obtain ⟨notes, hload⟩ := store.run_load machine
  exact ⟨notes, by rw [get, run_bind_of hload]; rfl⟩

theorem run_all (store : TemplateStore) (machine : Machine) :
    ∃ notes, (store.all : StateM Machine _).run machine =
      (⟨notes, (store.filled machine, (store.contents machine).map fun templates =>
        Mode.all.map fun mode => (mode, templates.get mode))⟩, machine) := by
  obtain ⟨notes, hload⟩ := store.run_load machine
  exact ⟨notes, by rw [all, run_bind_of hload]; rfl⟩

theorem run_isDefault (store : TemplateStore) (mode : Mode) (machine : Machine) :
    ∃ notes, (store.isDefault mode : StateM Machine _).run machine =
      (⟨notes, (store.filled machine, (store.contents machine).map fun templates =>
        templates.get mode == LooseText.ofString mode.defaultTemplate)⟩, machine) := by
  obtain ⟨notes, hget⟩ := store.run_get mode machine
  refine ⟨notes, ?_⟩
  rw [isDefault, run_bind_of hget]
  cases store.contents machine with
  | ok templates => rfl
  | error failure => rfl

/-- A store that has no templates changes nothing. -/
theorem run_set_of_error (hcontents : store.contents machine = .error failure) (mode : Mode)
    (template : LooseText) :
    ∃ notes, (store.set mode template : StateM Machine _).run machine =
      (⟨notes, (store.filled machine, .error failure)⟩, machine) := by
  obtain ⟨notes, hload⟩ := store.run_load machine
  rw [hcontents] at hload
  exact ⟨notes, by rw [set, run_bind_of hload]; rfl⟩

/-- The store keeps the new templates, however saving them ends. -/
theorem run_set_of_ok (hcontents : store.contents machine = .ok templates) (mode : Mode)
    (template : LooseText) :
    ∃ notes result after, (store.set mode template : StateM Machine _).run machine =
        (⟨notes, ({ store with loaded := some (templates.set mode (effective mode template)) },
          result)⟩, after) ∧
      (store.save (templates.set mode (effective mode template)) : StateM Machine _).run machine =
        (result, after) := by
  obtain ⟨notes, hload⟩ := store.run_load machine
  rw [hcontents] at hload
  exact ⟨notes, _, _, by rw [set, run_bind_of hload]; rfl, rfl⟩

/-- Templates that were saved are the contents of the file. -/
theorem writeFile_of_save
    (hsaved : (store.save templates : StateM Machine _).run machine = (.ok (), after)) :
    ∃ before, Machine.SameSurroundings machine before ∧
      before.writeFile store.path.toText (Config.octetsOf templates.toFields) = .ok after := by
  have hkeeps := Machine.keepsSurroundings_make store.path.parent machine
  obtain ⟨⟨made, before⟩, hmake⟩ :
    ∃ pair, (Directories.make store.path.parent : StateM Machine _).run machine = pair := ⟨_, rfl⟩
  rw [hmake] at hkeeps
  rw [save, run_bind_of hmake] at hsaved
  cases made with
  | error fault => cases hsaved
  | ok _ =>
      refine ⟨before, hkeeps, ?_⟩
      cases hwrite : before.writeFile store.path.toText (Config.octetsOf templates.toFields) with
      | ok last =>
          dsimp only at hsaved
          rw [run_bind_of (Machine.run_writeFile hwrite)] at hsaved
          cases hsaved
          rfl
      | error fault =>
          have hrun : (Host.writeFile store.path.toText (Config.octetsOf templates.toFields) :
              StateM Machine _).run before = (.error fault, before) :=
            Machine.run_attempt_of_error hwrite
          dsimp only at hsaved
          rw [run_bind_of hrun] at hsaved
          cases hsaved

/-- A file holds the templates that were saved, where files can be read. -/
theorem readFile_of_save (hreadable : machine.readingDenied = false)
    (hsaved : (store.save templates : StateM Machine _).run machine = (.ok (), after)) :
    after.readingDenied = false ∧
      after.readFile store.path.toText = .ok (Config.octetsOf templates.toFields) := by
  obtain ⟨before, hsame, hwrite⟩ := writeFile_of_save hsaved
  have hbefore : before.readingDenied = false := hsame.readingDenied.trans hreadable
  exact ⟨(Machine.readingDenied_of_writeFile hwrite).trans hbefore,
    Machine.readFile_of_writeFile hbefore hwrite⟩

/-- A fresh store on a file of templates holds them with their halves joined. -/
theorem contents_of_readFile {path : Path}
    (hread : machine.readFile path.toText = .ok (Config.octetsOf templates.toFields)) :
    contents { path := path } machine = .ok templates.joined := by
  have hrefusal : machine.refusal? path.toText = none := by
    rw [Machine.refusal?, Machine.kind_of_readFile hread]
  have hfields : machine.fieldsAt path.toText = templates.joined.toFields := by
    rw [Machine.fieldsAt, hread]
    dsimp only
    rw [Config.fieldsOf_octetsOf templates.isBounded_toFields, templates.readBack_toFields]
    rfl
  rw [contents]
  dsimp only
  rw [hrefusal, hfields, Templates.ofFields_toFields]

end TemplateStore

end FrameLens
