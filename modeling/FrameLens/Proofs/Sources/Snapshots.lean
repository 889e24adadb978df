import FrameLens.Files.Machine
import FrameLens.Source.ViewCache

/-!
# Snapshots

A snapshot is all that can be read of a computer while nothing on it changes.
Programs that only look at files run on a snapshot, and on the machine that it was
taken of they come to the same result and leave the machine as it is.
-/

namespace FrameLens

/-- The files of a computer at one moment.  A text that is no path of a file to be read
is no path of anything. -/
structure Snapshot where
  workingDirectory : LooseText
  kind : LooseText → Except FileFault FileKind
  readFile : LooseText → Except FileFault Octets
  kind_of_malformed : ∀ path fault, readFile path = .error (.malformed fault) →
    kind path = .error (.malformed fault)

namespace Snapshot

/-- A snapshot is read-only, and nobody types or has set variables. -/
instance : Host (ReaderM Snapshot) where
  kind path := do return (← read).kind path
  readFile path := do return (← read).readFile path
  writeFile path _ := pure (.error (.refused .denied path))
  makeDirectory path := pure (.error (.refused .denied path))
  readInput := pure (.plain [])
  workingDirectory := do return (← read).workingDirectory
  environment? _ := pure none

variable (files : Snapshot)

def hasFile (path : LooseText) : Bool :=
  (Host.isFile path : ReaderM Snapshot Bool).run files

/-- The view of the file at a path, when it is read. -/
def view (path : LooseText) : Except FileFault View :=
  (ViewCache.readView path : ReaderM Snapshot _).run files

def key (path : LooseText) : LooseText :=
  ViewCache.key files.workingDirectory path

variable (path : LooseText)

@[simp] theorem run_kind :
    (Host.kind path : ReaderM Snapshot _).run files = pure (files.kind path) :=
  rfl

@[simp] theorem run_workingDirectory :
    (Host.workingDirectory : ReaderM Snapshot _).run files = pure files.workingDirectory :=
  rfl

@[simp] theorem run_isFile :
    (Host.isFile path : ReaderM Snapshot _).run files = pure (files.hasFile path) :=
  rfl

@[simp] theorem run_readView :
    (ViewCache.readView path : ReaderM Snapshot _).run files = pure (files.view path) :=
  rfl

theorem view_eq :
    files.view path =
      (files.readFile path).map fun octets => View.ofFile path (decodeSource octets) :=
  rfl

theorem hasFile_eq :
    files.hasFile path = (files.kind path).toOption.any (· == .file) := by
  rw [hasFile, Host.isFile, ReaderT.run_bind, run_kind]
  cases files.kind path with
  | ok found => rfl
  | error fault => rfl

variable {files path}

/-- A view bears the path that it was read by. -/
theorem path_of_view {view : View} (hview : files.view path = .ok view) :
    view.path = path := by
  rw [view_eq] at hview
  cases hread : files.readFile path with
  | error fault =>
      rw [hread] at hview
      cases hview
  | ok octets =>
      rw [hread] at hview
      cases hview
      rfl

theorem toOption_view_eq_some_iff {view : View} :
    (files.view path).toOption = some view ↔ files.view path = .ok view := by
  cases files.view path with
  | ok other => simp [Except.toOption]
  | error fault => simp [Except.toOption]

/-- What leads to a file is a path. -/
theorem view_ne_malformed (hfile : files.hasFile path = true) (fault : PathFault) :
    files.view path ≠ .error (.malformed fault) := by
  intro hview
  have hread : files.readFile path = .error (.malformed fault) := by
    rw [view_eq] at hview
    cases hread : files.readFile path with
    | ok octets =>
        rw [hread] at hview
        cases hview
    | error other =>
        rw [hread] at hview
        cases hview
        rfl
  rw [hasFile_eq, files.kind_of_malformed path fault hread] at hfile
  cases hfile

end Snapshot

@[simp] theorem Noted.result_pure {α : Type} (result : α) :
    (pure result : Noted α).result = result :=
  rfl

/-! ## Asking for a view

A view is held already, or its file is read now, which may be refused.
-/

namespace ViewCache

variable {cache : ViewCache} {files : Snapshot} {path : LooseText}

/-- A view that is held is given without reading the file. -/
theorem getOrBuild_of_held {view : View} (hheld : cache.get? (files.key path) = some view) :
    (cache.getOrBuild path : ReaderM Snapshot _).run files = (cache, pure (.ok view)) := by
  rw [getOrBuild, ReaderT.run_bind, Snapshot.run_workingDirectory, pure_bind]
  rw [Snapshot.key] at hheld
  dsimp only
  rw [hheld]
  rfl

theorem get?_cons (key other : LooseText) (view : View) :
    get? ⟨(key, view) :: cache.views⟩ other =
      if other = key then some view else cache.get? other := by
  rw [get?, List.lookup_cons]
  by_cases hkey : other = key
  · rw [if_pos hkey, beq_iff_eq.2 hkey]
  · rw [if_neg hkey, beq_eq_false_iff_ne.2 hkey, get?]

/-- The first view of a key stays. -/
theorem adopt_of_held {key : LooseText} {view first : View}
    (hheld : cache.get? key = some first) : cache.adopt key view = (cache, first) := by
  unfold adopt
  rw [hheld]

theorem adopt_of_not_held {key : LooseText} {view : View} (hheld : cache.get? key = none) :
    cache.adopt key view = (⟨(key, view) :: cache.views⟩, view) := by
  unfold adopt
  rw [hheld]

/-- A view that is not held is read, and held from then on if that goes well. -/
theorem getOrBuild_of_not_held (hheld : cache.get? (files.key path) = none) :
    (cache.getOrBuild path : ReaderM Snapshot _).run files =
      match files.view path with
      | .error fault => (cache, pure (.error fault))
      | .ok view => (⟨(files.key path, view) :: cache.views⟩, ⟨[builtNote view], .ok view⟩) := by
  rw [getOrBuild, ReaderT.run_bind, Snapshot.run_workingDirectory, pure_bind]
  rw [Snapshot.key] at hheld
  dsimp only
  rw [hheld]
  dsimp only
  rw [ReaderT.run_bind, Snapshot.run_readView, pure_bind]
  cases files.view path with
  | error fault => rfl
  | ok view =>
      dsimp only
      rw [adopt_of_not_held hheld]
      rfl

end ViewCache

/-! ## Snapshots of machines -/

namespace Machine

/-- Nothing but the path itself decides whether it is malformed. -/
theorem onPath_eq_malformed_iff {α : Type} {path : LooseText} {fault : PathFault}
    {action : Octets → Except FileCause α} :
    onPath path action = .error (.malformed fault) ↔ PathOctets.encode path = .error fault := by
  unfold onPath
  cases PathOctets.encode path with
  | error other => simp
  | ok octets =>
      dsimp only
      cases action octets with
      | error cause => exact ⟨nofun, nofun⟩
      | ok value => exact ⟨nofun, nofun⟩

/-- What can be read of a machine. -/
def snapshot (machine : Machine) : Snapshot where
  workingDirectory := ((Host.workingDirectory : StateM Machine LooseText).run machine).1
  kind := machine.kind
  readFile := machine.readFile
  kind_of_malformed path fault hread := by
    rw [readFile] at hread
    split at hread
    · cases hread
    · rw [kind, onPath_eq_malformed_iff]
      exact onPath_eq_malformed_iff.1 hread

/-- A program on a snapshot as a program on machines that it leaves as they are. -/
def looking {α : Type} (program : ReaderM Snapshot α) : StateM Machine α := fun machine =>
  (program.run machine.snapshot, machine)

theorem looking_bind {α β : Type} (first : ReaderM Snapshot α) (next : α → ReaderM Snapshot β) :
    looking (first >>= next) = looking first >>= fun value => looking (next value) :=
  rfl

theorem looking_getOrBuild (cache : ViewCache) (path : LooseText) :
    looking (cache.getOrBuild path) = cache.getOrBuild path := by
  rw [ViewCache.getOrBuild, looking_bind, ViewCache.getOrBuild]
  refine bind_congr fun directory => ?_
  dsimp only
  cases cache.get? (ViewCache.key directory path) with
  | some view => rfl
  | none =>
      dsimp only
      rw [looking_bind]
      refine bind_congr fun read => ?_
      cases read with
      | ok view => rfl
      | error fault => rfl

end Machine

end FrameLens
