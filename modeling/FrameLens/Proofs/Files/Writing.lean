import FrameLens.Files.Host
import FrameLens.Files.Machine

/-!
# Writing files

A file that was written is read back, and nothing else about the machine changes that
a program can ask for: directories stay where they are, and so do the variables.
-/

namespace FrameLens.Machine

variable {machine after : Machine} {place target found : Place} {entry : FileEntry}
  {path other : LooseText} {contents : Octets}

/-! ## Entries -/

theorem lookup_filter_ne (hplace : place ≠ target) (entries : List (Place × FileEntry)) :
    (entries.filter fun other => other.1 != target).lookup place = entries.lookup place := by
  induction entries with
  | nil => rfl
  | cons first entries ih =>
      obtain ⟨name, entry⟩ := first
      by_cases hname : name = target
      · rw [List.filter_cons_of_neg (by simpa using hname), ih, List.lookup_cons,
          beq_eq_false_iff_ne.2 (hname ▸ hplace)]
      · rw [List.filter_cons_of_pos (by simpa using hname), List.lookup_cons, List.lookup_cons, ih]

/-- What is put at a place is found there. -/
theorem entry?_put_self (htarget : target ≠ []) :
    entry? (machine.put target entry) target = some entry := by
  rw [ entry?, if_neg (by simpa using htarget), put, List.lookup_cons_self]

/-- What is put at a place changes nothing at another one. -/
theorem entry?_put_of_ne (hplace : place ≠ target) :
    entry? (machine.put target entry) place = machine.entry? place := by
  rw [ entry?, entry?, put, List.lookup_cons, beq_eq_false_iff_ne.2 hplace]
  dsimp only
  rw [lookup_filter_ne hplace]

theorem ne_nil_of_notDirectory (hentry : machine.entry? target ≠ some .directory) :
    target ≠ [] := by
  rintro rfl
  exact hentry rfl

/-- What was a directory is one after a file was put somewhere else. -/
theorem entry?_put_of_directory (htarget : machine.entry? target ≠ some .directory)
    (hplace : machine.entry? place = some .directory) :
    entry? (machine.put target entry) place = some .directory := by
  rw [entry?_put_of_ne, hplace]
  rintro rfl
  exact htarget hplace

/-! ## Places -/

/-- A way stays open when something is put at a place where no directory is. -/
theorem walk_put (htarget : machine.entry? target ≠ some .directory) {names : List Octets}
    (hwalk : machine.walk place names = .ok found) :
    (machine.put target entry).walk place names = .ok found := by
  induction names generalizing place with
  | nil => exact hwalk
  | cons name names ih =>
      rw [walk] at hwalk ⊢
      cases hentry : machine.entry? place with
      | none =>
          rw [hentry] at hwalk
          cases hwalk
      | some start =>
          rw [hentry] at hwalk
          cases start with
          | file octets => cases hwalk
          | directory =>
              have hlocked : (machine.put target entry).locked = machine.locked := rfl
              rw [entry?_put_of_directory htarget hentry, hlocked]
              dsimp only at hwalk ⊢
              split at hwalk
              · rw [if_pos ‹_›]
                exact ih hwalk
              split at hwalk
              · cases hwalk
              split at hwalk
              · rw [if_neg ‹_›, if_neg ‹_›, if_pos ‹_›]
                exact ih hwalk
              split at hwalk
              · rw [if_neg ‹_›, if_neg ‹_›, if_neg ‹_›, if_pos ‹_›]
                exact ih hwalk
              split at hwalk
              · cases hwalk
              · rw [if_neg ‹_›, if_neg ‹_›, if_neg ‹_›, if_neg ‹_›, if_neg ‹_›]
                exact ih hwalk

/-- A path leads where it led before something was put at a place where no directory is. -/
theorem locate_put (htarget : machine.entry? target ≠ some .directory) {octets : Octets}
    (hlocate : machine.locate octets = .ok found) :
    (machine.put target entry).locate octets = .ok found := by
  unfold locate at hlocate ⊢
  split at hlocate
  · cases hlocate
  split at hlocate
  · cases hlocate
  · rw [if_neg ‹_›, if_neg ‹_›]
    exact walk_put htarget hlocate

/-! ## Written files -/

theorem mapError_eq_ok_iff {α ε δ : Type} {result : Except ε α} {f : ε → δ} {value : α} :
    result.mapError f = .ok value ↔ result = .ok value := by
  cases result with
  | error fault => exact ⟨nofun, nofun⟩
  | ok found =>
      refine ⟨fun hvalue => ?_, fun hvalue => ?_⟩
      · cases hvalue
        rfl
      · cases hvalue
        rfl

/-- An operation on a path goes well if and only if the path can be encoded and the
operation on its octets goes well. -/
theorem onPath_eq_ok_iff {α : Type} {value : α} {action : Octets → Except FileCause α} :
    onPath path action = .ok value ↔
      ∃ octets, PathOctets.encode path = .ok octets ∧ action octets = .ok value := by
  unfold onPath
  cases PathOctets.encode path with
  | error fault => simp
  | ok octets => simp [mapError_eq_ok_iff]

/-- The octets of a path lead to a place where a file can be put. -/
structure TakesFile (machine : Machine) (octets : Octets) (place : Place) : Prop where
  locate_eq : machine.locate octets = .ok place
  below : machine.entry? place.dropLast = some .directory
  notDirectory : machine.entry? place ≠ some .directory

theorem placeFor_eq_ok_iff {octets : Octets} :
    machine.placeFor octets = .ok place ↔
      machine.locate octets = .ok place ∧ machine.entry? place.dropLast = some .directory := by
  unfold placeFor
  cases hlocate : machine.locate octets with
  | error cause => exact ⟨nofun, nofun⟩
  | ok found =>
      dsimp only [bind, Except.bind]
      constructor
      · intro hplace
        cases hentry : machine.entry? found.dropLast with
        | none =>
            rw [hentry] at hplace
            cases hplace
        | some entry =>
            rw [hentry] at hplace
            cases entry with
            | file contents => cases hplace
            | directory =>
                cases hplace
                exact ⟨rfl, hentry⟩
      · rintro ⟨hfound, hbelow⟩
        cases hfound
        rw [hbelow]
        rfl

/-- A file is written if and only if its place takes a file, and then it is there. -/
theorem writeFile_eq_ok_iff :
    machine.writeFile path contents = .ok after ↔
      ∃ octets place, PathOctets.encode path = .ok octets ∧ machine.TakesFile octets place ∧
        after = machine.put place (.file contents) := by
  rw [writeFile, onPath_eq_ok_iff]
  refine exists_congr fun octets => ?_
  cases hplace : machine.placeFor octets with
  | error cause =>
      constructor
      · rintro ⟨-, hafter⟩
        cases hafter
      · rintro ⟨place, -, htakes, -⟩
        rw [placeFor_eq_ok_iff.2 ⟨htakes.locate_eq, htakes.below⟩] at hplace
        cases hplace
  | ok place =>
      obtain ⟨hlocate, hbelow⟩ := placeFor_eq_ok_iff.1 hplace
      dsimp only [bind, Except.bind]
      constructor
      · rintro ⟨hencode, hafter⟩
        split at hafter
        · cases hafter
        · rename_i hentry
          cases hafter
          exact ⟨place, hencode, ⟨hlocate, hbelow, hentry⟩, rfl⟩
      · rintro ⟨other, hencode, htakes, rfl⟩
        have hother : other = place := by
          rw [htakes.locate_eq] at hlocate
          cases hlocate
          rfl
        subst hother
        rw [if_neg htakes.notDirectory]
        exact ⟨hencode, rfl⟩

theorem TakesFile.entry?_put {octets : Octets} (htakes : machine.TakesFile octets place) :
    entry? (machine.put place entry) place = some entry :=
  entry?_put_self (ne_nil_of_notDirectory htakes.notDirectory)

/-- A place that took a file takes another one. -/
theorem TakesFile.put {octets : Octets} (htakes : machine.TakesFile octets place) :
    (machine.put place (.file contents)).TakesFile octets place where
  locate_eq := locate_put htakes.notDirectory htakes.locate_eq
  below := entry?_put_of_directory htakes.notDirectory htakes.below
  notDirectory := by
    rw [htakes.entry?_put]
    nofun

theorem find_eq_ok_iff {octets : Octets} :
    machine.find octets = .ok (place, entry) ↔
      machine.locate octets = .ok place ∧ machine.entry? place = some entry := by
  unfold find
  cases machine.locate octets with
  | error cause => exact ⟨nofun, nofun⟩
  | ok found =>
      dsimp only [bind, Except.bind]
      constructor
      · intro hfind
        cases hentry : machine.entry? found with
        | none =>
            rw [hentry] at hfind
            cases hfind
        | some other =>
            rw [hentry] at hfind
            cases hfind
            exact ⟨rfl, hentry⟩
      · rintro ⟨hfound, hentry⟩
        cases hfound
        rw [hentry]
        rfl

/-- A path leads to something if and only if there is an entry where it leads. -/
theorem kind_eq_ok_iff {found : FileKind} :
    machine.kind path = .ok found ↔
      ∃ octets place entry, PathOctets.encode path = .ok octets ∧
        machine.locate octets = .ok place ∧ machine.entry? place = some entry ∧
        entry.kind = found := by
  rw [kind, onPath_eq_ok_iff]
  refine exists_congr fun octets => ?_
  constructor
  · rintro ⟨hencode, hfound⟩
    cases hfind : machine.find octets with
    | error cause =>
        rw [hfind] at hfound
        cases hfound
    | ok pair =>
        rw [hfind] at hfound
        cases hfound
        obtain ⟨hlocate, hentry⟩ := find_eq_ok_iff.1 hfind
        exact ⟨pair.1, pair.2, hencode, hlocate, hentry, rfl⟩
  · rintro ⟨place, entry, hencode, hlocate, hentry, rfl⟩
    rw [find_eq_ok_iff.2 ⟨hlocate, hentry⟩]
    exact ⟨hencode, rfl⟩

/-- A file is read if and only if reading is not refused and the path leads to a file. -/
theorem readFile_eq_ok_iff :
    machine.readFile path = .ok contents ↔
      machine.readingDenied = false ∧
        ∃ octets place, PathOctets.encode path = .ok octets ∧ machine.locate octets = .ok place ∧
          machine.entry? place = some (.file contents) := by
  unfold readFile
  by_cases hdenied : machine.readingDenied = true
  · rw [if_pos hdenied, hdenied]
    exact ⟨nofun, nofun⟩
  rw [if_neg hdenied, onPath_eq_ok_iff, and_iff_right (Bool.eq_false_iff.2 hdenied)]
  refine exists_congr fun octets => ?_
  constructor
  · rintro ⟨hencode, hcontents⟩
    cases hfind : machine.find octets with
    | error cause =>
        rw [hfind] at hcontents
        cases hcontents
    | ok pair =>
        obtain ⟨place, entry⟩ := pair
        rw [hfind] at hcontents
        obtain ⟨hlocate, hentry⟩ := find_eq_ok_iff.1 hfind
        cases entry with
        | file found =>
            cases hcontents
            exact ⟨place, hencode, hlocate, hentry⟩
        | directory => cases hcontents
  · rintro ⟨place, hencode, hlocate, hentry⟩
    rw [find_eq_ok_iff.2 ⟨hlocate, hentry⟩]
    exact ⟨hencode, rfl⟩

/-! ## After a file was written -/

/-- What has been written is read again. -/
theorem readFile_of_writeFile (hreadable : machine.readingDenied = false)
    (hwritten : machine.writeFile path contents = .ok after) :
    after.readFile path = .ok contents := by
  obtain ⟨octets, place, hencode, htakes, rfl⟩ := writeFile_eq_ok_iff.1 hwritten
  exact readFile_eq_ok_iff.2
    ⟨hreadable, octets, place, hencode, htakes.put.locate_eq, htakes.entry?_put⟩

/-- A file that was written once can be written again. -/
theorem exists_writeFile_again (hwritten : machine.writeFile path contents = .ok after)
    (others : Octets) : ∃ again, after.writeFile path others = .ok again := by
  obtain ⟨octets, place, hencode, htakes, rfl⟩ := writeFile_eq_ok_iff.1 hwritten
  exact ⟨_, writeFile_eq_ok_iff.2 ⟨octets, place, hencode, htakes.put, rfl⟩⟩

/-- Writing a file leaves every directory where it was. -/
theorem directory_of_writeFile (hwritten : machine.writeFile path contents = .ok after)
    (hdirectory : machine.kind other = .ok .directory) : after.kind other = .ok .directory := by
  obtain ⟨octets, place, hencode, htakes, rfl⟩ := writeFile_eq_ok_iff.1 hwritten
  obtain ⟨octets', found, entry, hencode', hlocate, hentry, hkind⟩ := kind_eq_ok_iff.1 hdirectory
  cases entry with
  | file contents => cases hkind
  | directory =>
      exact kind_eq_ok_iff.2 ⟨octets', found, .directory, hencode',
        locate_put htakes.notDirectory hlocate,
        entry?_put_of_directory htakes.notDirectory hentry, rfl⟩

theorem readingDenied_of_writeFile (hwritten : machine.writeFile path contents = .ok after) :
    after.readingDenied = machine.readingDenied := by
  obtain ⟨octets, place, -, -, rfl⟩ := writeFile_eq_ok_iff.1 hwritten
  rfl

theorem environment_of_writeFile (hwritten : machine.writeFile path contents = .ok after) :
    after.environment = machine.environment := by
  obtain ⟨octets, place, -, -, rfl⟩ := writeFile_eq_ok_iff.1 hwritten
  rfl

/-! ## Programs on machines -/

theorem run_bind_of {α β : Type} {first : StateM Machine α} {next : α → StateM Machine β}
    {value : α} (hfirst : first.run machine = (value, after)) :
    (first >>= next).run machine = (next value).run after := by
  rw [StateT.run_bind, hfirst]
  rfl

theorem run_kind (machine : Machine) (path : LooseText) :
    (Host.kind path : StateM Machine _).run machine = (machine.kind path, machine) :=
  rfl

theorem run_readFile (machine : Machine) (path : LooseText) :
    (Host.readFile path : StateM Machine _).run machine = (machine.readFile path, machine) :=
  rfl

theorem run_environment? (machine : Machine) (name : String) :
    (Host.environment? name : StateM Machine _).run machine =
      (machine.environment.lookup name, machine) :=
  rfl

theorem run_attempt_of_ok {change : Machine → Except FileFault Machine}
    (hchange : change machine = .ok after) :
    (attempt change).run machine = (.ok (), after) := by
  rw [attempt, StateT.run_bind, StateT.run_get, pure_bind, hchange]
  rfl

theorem run_attempt_of_error {change : Machine → Except FileFault Machine} {fault : FileFault}
    (hchange : change machine = .error fault) :
    (attempt change).run machine = (.error fault, machine) := by
  rw [attempt, StateT.run_bind, StateT.run_get, pure_bind, hchange]
  rfl

theorem run_writeFile (hwritten : machine.writeFile path contents = .ok after) :
    (Host.writeFile path contents : StateM Machine _).run machine = (.ok (), after) :=
  run_attempt_of_ok hwritten

/-- A directory that is there already cannot be made. -/
theorem exists_makeDirectory_error (hdirectory : machine.kind path = .ok .directory) :
    ∃ fault, machine.makeDirectory path = .error fault := by
  cases hmade : machine.makeDirectory path with
  | error fault => exact ⟨fault, rfl⟩
  | ok after =>
      rw [makeDirectory, onPath_eq_ok_iff] at hmade
      obtain ⟨octets, hencode, hafter⟩ := hmade
      obtain ⟨octets', place, entry, hencode', hlocate, hentry, -⟩ := kind_eq_ok_iff.1 hdirectory
      rw [hencode] at hencode'
      cases hencode'
      cases hplace : machine.placeFor octets with
      | error cause =>
          rw [hplace] at hafter
          cases hafter
      | ok found =>
          obtain ⟨hfound, -⟩ := placeFor_eq_ok_iff.1 hplace
          rw [hlocate] at hfound
          cases hfound
          rw [hplace] at hafter
          dsimp only [bind, Except.bind] at hafter
          rw [hentry, Option.isSome_some, if_pos rfl] at hafter
          cases hafter

/-- A directory that is there already will do. -/
theorem run_makeOne (hdirectory : machine.kind path = .ok .directory) :
    (Directories.makeOne path : StateM Machine _).run machine = (.ok (), machine) := by
  obtain ⟨fault, hfault⟩ := exists_makeDirectory_error hdirectory
  have hmade : (Host.makeDirectory path : StateM Machine _).run machine = (.error fault, machine) :=
    run_attempt_of_error hfault
  have hfound : (Host.isDirectory path : StateM Machine _).run machine = (true, machine) := by
    rw [Host.isDirectory, run_bind_of (run_kind machine path), hdirectory]
    rfl
  rw [Directories.makeOne, run_bind_of hmade]
  dsimp only
  rw [run_bind_of hfound]
  rfl

/-- Where there is a directory already, none is made. -/
theorem run_make {directory : Path} (hdirectory : machine.kind directory.toText = .ok .directory) :
    (Directories.make directory : StateM Machine _).run machine = (.ok (), machine) := by
  obtain ⟨root, parts⟩ := directory
  have hone := run_makeOne hdirectory
  rw [Directories.make]
  dsimp only
  cases hparts : parts.reverse with
  | nil =>
      rw [List.reverse_eq_nil_iff.1 hparts] at hone
      exact hone
  | cons part above =>
      have hpath : (part :: above).reverse = parts := by rw [← hparts, List.reverse_reverse]
      rw [Directories.makeFrom, hpath, run_bind_of hone]
      rfl

/-! ## Directories that were made -/

/-- A directory that was made is there. -/
theorem kind_of_makeDirectory (hmade : machine.makeDirectory path = .ok after) :
    after.kind path = .ok .directory := by
  rw [makeDirectory, onPath_eq_ok_iff] at hmade
  obtain ⟨octets, hencode, hafter⟩ := hmade
  cases hplace : machine.placeFor octets with
  | error cause =>
      rw [hplace] at hafter
      cases hafter
  | ok place =>
      rw [hplace] at hafter
      dsimp only [bind, Except.bind] at hafter
      split at hafter
      · cases hafter
      · rename_i hentry
        cases hafter
        have hfree : machine.entry? place ≠ some .directory := fun hdirectory =>
          hentry (by rw [hdirectory]; rfl)
        exact kind_eq_ok_iff.2 ⟨octets, place, .directory, hencode,
          locate_put hfree (placeFor_eq_ok_iff.1 hplace).1,
          entry?_put_self (ne_nil_of_notDirectory hfree), rfl⟩

/-- Where a directory was made or will do, there is one. -/
theorem kind_of_makeOne
    (hmade : (Directories.makeOne path : StateM Machine _).run machine = (.ok (), after)) :
    after.kind path = .ok .directory := by
  cases hmake : machine.makeDirectory path with
  | ok made =>
      have hrun : (Host.makeDirectory path : StateM Machine _).run machine = (.ok (), made) :=
        run_attempt_of_ok hmake
      rw [Directories.makeOne, run_bind_of hrun] at hmade
      cases hmade
      exact kind_of_makeDirectory hmake
  | error fault =>
      have hrun : (Host.makeDirectory path : StateM Machine _).run machine =
          (.error fault, machine) := run_attempt_of_error hmake
      rw [Directories.makeOne, run_bind_of hrun] at hmade
      dsimp only at hmade
      rw [Host.isDirectory, bind_assoc, run_bind_of (run_kind machine path)] at hmade
      cases hkind : machine.kind path with
      | error cause =>
          rw [hkind] at hmade
          cases hmade
      | ok found =>
          rw [hkind] at hmade
          cases found with
          | file => cases hmade
          | directory =>
              cases hmade
              exact hkind

/-- A directory that was made is there. -/
theorem kind_of_make {directory : Path}
    (hmade : (Directories.make directory : StateM Machine _).run machine = (.ok (), after)) :
    after.kind directory.toText = .ok .directory := by
  obtain ⟨root, parts⟩ := directory
  rw [Directories.make] at hmade
  dsimp only at hmade
  cases hparts : parts.reverse with
  | nil =>
      rw [hparts] at hmade
      rw [List.reverse_eq_nil_iff.1 hparts]
      exact kind_of_makeOne hmade
  | cons part above =>
      have hpath : (part :: above).reverse = parts := by rw [← hparts, List.reverse_reverse]
      rw [hparts, Directories.makeFrom, hpath] at hmade
      rcases hone : (Directories.makeOne (Path.toText ⟨root, parts⟩) : StateM Machine _).run machine
        with ⟨result, between⟩
      rw [run_bind_of hone] at hmade
      split at hmade
      · rcases habove : (Directories.makeFrom root above : StateM Machine _).run between with
          ⟨made, ready⟩
        rw [run_bind_of habove] at hmade
        cases made with
        | ok _ => exact kind_of_makeOne hmade
        | error fault => cases hmade
      · cases hmade
        exact kind_of_makeOne hone

/-! ## What stays the same -/

/-- The variables are the same as before, and reading is refused if it was. -/
structure SameSurroundings (machine after : Machine) : Prop where
  environment : after.environment = machine.environment
  readingDenied : after.readingDenied = machine.readingDenied

theorem SameSurroundings.trans {last : Machine} (hfirst : SameSurroundings machine after)
    (hnext : SameSurroundings after last) : SameSurroundings machine last where
  environment := hnext.environment.trans hfirst.environment
  readingDenied := hnext.readingDenied.trans hfirst.readingDenied

/-- Making a directory changes no variable. -/
theorem sameSurroundings_of_makeDirectory (hmade : machine.makeDirectory path = .ok after) :
    SameSurroundings machine after := by
  rw [makeDirectory, onPath_eq_ok_iff] at hmade
  obtain ⟨octets, -, hafter⟩ := hmade
  cases hplace : machine.placeFor octets with
  | error cause =>
      rw [hplace] at hafter
      cases hafter
  | ok place =>
      rw [hplace] at hafter
      dsimp only [bind, Except.bind] at hafter
      split at hafter
      · cases hafter
      · cases hafter
        exact ⟨rfl, rfl⟩

/-- A program that changes nothing but files. -/
def KeepsSurroundings {α : Type} (program : StateM Machine α) : Prop :=
  ∀ machine, SameSurroundings machine (program.run machine).2

theorem keepsSurroundings_pure {α : Type} (value : α) :
    KeepsSurroundings (pure value : StateM Machine α) :=
  fun _ => ⟨rfl, rfl⟩

theorem KeepsSurroundings.bind {α β : Type} {first : StateM Machine α} {next : α → StateM Machine β}
    (hfirst : KeepsSurroundings first) (hnext : ∀ value, KeepsSurroundings (next value)) :
    KeepsSurroundings (first >>= next) := by
  intro machine
  rw [StateT.run_bind]
  exact (hfirst machine).trans (hnext _ _)

theorem keepsSurroundings_isDirectory (path : LooseText) :
    KeepsSurroundings (Host.isDirectory path) := by
  refine KeepsSurroundings.bind (fun machine => ⟨rfl, rfl⟩) fun found => ?_
  cases found with
  | ok found => exact keepsSurroundings_pure _
  | error fault => exact keepsSurroundings_pure _

theorem keepsSurroundings_makeDirectory (path : LooseText) :
    KeepsSurroundings (Host.makeDirectory path) := by
  intro machine
  cases hmade : machine.makeDirectory path with
  | ok after =>
      have hrun : (Host.makeDirectory path : StateM Machine _).run machine = (.ok (), after) :=
        run_attempt_of_ok hmade
      rw [hrun]
      exact sameSurroundings_of_makeDirectory hmade
  | error fault =>
      have hrun : (Host.makeDirectory path : StateM Machine _).run machine =
          (.error fault, machine) := run_attempt_of_error hmade
      rw [hrun]
      exact ⟨rfl, rfl⟩

theorem keepsSurroundings_makeOne (path : LooseText) :
    KeepsSurroundings (Directories.makeOne path) := by
  refine (keepsSurroundings_makeDirectory path).bind fun made => ?_
  cases made with
  | ok _ => exact keepsSurroundings_pure _
  | error fault =>
      refine (keepsSurroundings_isDirectory path).bind fun found => ?_
      cases found with
      | true => exact keepsSurroundings_pure _
      | false => exact keepsSurroundings_pure _

theorem keepsSurroundings_makeFrom (root : PathRoot) (parts : List LooseText) :
    KeepsSurroundings (Directories.makeFrom root parts) := by
  induction parts with
  | nil => exact keepsSurroundings_makeOne _
  | cons part above ih =>
      refine (keepsSurroundings_makeOne _).bind fun made => ?_
      split
      · refine ih.bind fun below => ?_
        cases below with
        | ok _ => exact keepsSurroundings_makeOne _
        | error fault => exact keepsSurroundings_pure _
      · exact keepsSurroundings_pure _

/-- Making directories changes no variable. -/
theorem keepsSurroundings_make (directory : Path) :
    KeepsSurroundings (Directories.make directory) :=
  keepsSurroundings_makeFrom directory.root directory.parts.reverse

end FrameLens.Machine
