import FrameLens.Proofs.Sources.Snapshots
import Mathlib.Data.List.Induction
import Mathlib.Data.Set.Card

/-!
# The view cache over a session

A session is any series of calls to one view cache, mixed with changes to the files of
its machine.  What the cache holds afterwards depends on nothing but the calls that were
given a view since it was last cleared: of those with one key, the first decides.
-/

namespace FrameLens

/-- What happens to a cache, or to the files below it. -/
inductive CacheEvent where
  | build (path : LooseText)
  | look (path : LooseText)
  | clear
  | write (path : LooseText) (contents : Octets)
  | remove (path : LooseText)
  /-- From now on the machine refuses, or no longer refuses, to read files. -/
  | deny (denied : Bool)

/-- A machine and the views that were built on it. -/
structure CacheSession where
  machine : Machine
  cache : ViewCache := .empty

namespace CacheSession

/-- The view that the cache has for a path. -/
def held? (session : CacheSession) (path : LooseText) : Option View :=
  session.cache.get? (session.machine.snapshot.key path)

/-- What a call for the view of a path comes to. -/
def answer (session : CacheSession) (path : LooseText) : Except FileFault View :=
  ((session.cache.getOrBuild path : StateM Machine _).run session.machine).1.2.result

/-- The session after an event; a change to the files that is refused changes nothing. -/
def after (session : CacheSession) : CacheEvent → CacheSession
  | .build path =>
    let asked := (session.cache.getOrBuild path : StateM Machine _).run session.machine
    ⟨asked.2, asked.1.1⟩
  | .look _ => session
  | .clear => { session with cache := .empty }
  | .write path contents =>
    { session with
      machine := ((Host.writeFile path contents : StateM Machine _).run session.machine).2 }
  | .remove path =>
    { session with
      machine := ((Machine.attempt fun machine => machine.removeFile path).run
        session.machine).2 }
  | .deny denied => { session with machine := { session.machine with readingDenied := denied } }

/-- The session on a machine after a series of events, with no view at first. -/
def run (machine : Machine) (events : List CacheEvent) : CacheSession :=
  events.foldl after ⟨machine, .empty⟩

theorem run_concat (machine : Machine) (events : List CacheEvent) (event : CacheEvent) :
    run machine (events ++ [event]) = (run machine events).after event := by
  rw [run, List.foldl_append]
  rfl

/-! ## Single events -/

/-- Asking for a view reads the machine and leaves it as it is. -/
theorem run_getOrBuild (session : CacheSession) (path : LooseText) :
    (session.cache.getOrBuild path : StateM Machine _).run session.machine =
      ((session.cache.getOrBuild path : ReaderM Snapshot _).run session.machine.snapshot,
        session.machine) := by
  rw [← Machine.looking_getOrBuild]
  rfl

/-- A call for a view is given the one that is held, or is refused, or reads the file. -/
theorem build_cases (session : CacheSession) (path : LooseText) :
    (∃ view, session.held? path = some view ∧ session.answer path = .ok view ∧
      session.after (.build path) = session) ∨
    (∃ fault, session.answer path = .error fault ∧ session.after (.build path) = session) ∨
    ∃ view, session.held? path = none ∧ session.machine.snapshot.view path = .ok view ∧
      session.answer path = .ok view ∧
      session.after (.build path) =
        { session with
          cache := ⟨(session.machine.snapshot.key path, view) :: session.cache.views⟩ } := by
  rw [answer, after, run_getOrBuild]
  cases hheld : session.held? path with
  | some view =>
      rw [ViewCache.getOrBuild_of_held hheld]
      exact .inl ⟨view, rfl, rfl, rfl⟩
  | none =>
      rw [ViewCache.getOrBuild_of_not_held hheld]
      cases session.machine.snapshot.view path with
      | error fault => exact .inr (.inl ⟨fault, rfl, rfl⟩)
      | ok view => exact .inr (.inr ⟨view, rfl, rfl, rfl, rfl⟩)

/-! ## Keys

Changes to files leave the working directory alone, and with it the keys of all paths.
-/

theorem exists_of_onPath {α : Type} {path : LooseText} {value : α}
    {action : Octets → Except FileCause α} (hok : Machine.onPath path action = .ok value) :
    ∃ octets, action octets = .ok value := by
  rw [Machine.onPath] at hok
  split at hok
  · cases hok
  · rename_i octets _
    cases haction : action octets with
    | error cause =>
        rw [haction] at hok
        cases hok
    | ok other =>
        rw [haction] at hok
        cases hok
        exact ⟨octets, haction⟩

theorem workingDirectory_of_writeFile {machine changed : Machine} {path : LooseText}
    {contents : Octets} (hok : machine.writeFile path contents = .ok changed) :
    changed.workingDirectory = machine.workingDirectory := by
  obtain ⟨octets, haction⟩ := exists_of_onPath hok
  cases hplace : machine.placeFor octets with
  | error cause =>
      rw [hplace] at haction
      cases haction
  | ok place =>
      rw [hplace] at haction
      by_cases hdirectory : machine.entry? place = some .directory
      · simp [hdirectory, bind, Except.bind, throw, throwThe, MonadExceptOf.throw] at haction
      · simp [hdirectory, bind, Except.bind, pure, Except.pure] at haction
        rw [← haction]
        rfl

theorem workingDirectory_of_removeFile {machine changed : Machine} {path : LooseText}
    (hok : machine.removeFile path = .ok changed) :
    changed.workingDirectory = machine.workingDirectory := by
  obtain ⟨octets, haction⟩ := exists_of_onPath hok
  cases hfind : machine.find octets with
  | error cause =>
      rw [hfind] at haction
      cases haction
  | ok found =>
      rw [hfind] at haction
      obtain ⟨place, entry⟩ := found
      cases entry with
      | directory => cases haction
      | file contents =>
          cases haction
          rfl

theorem workingDirectory_attempt (machine : Machine)
    {change : Machine → Except FileFault Machine}
    (hchange : ∀ changed, change machine = .ok changed →
      changed.workingDirectory = machine.workingDirectory) :
    ((Machine.attempt change).run machine).2.workingDirectory = machine.workingDirectory := by
  rw [Machine.attempt, StateT.run_bind, StateT.run_get, pure_bind]
  cases hresult : change machine with
  | error fault => rfl
  | ok changed => exact hchange changed hresult

/-- No event moves the working directory. -/
theorem workingDirectory_after (session : CacheSession) (event : CacheEvent) :
    (session.after event).machine.workingDirectory = session.machine.workingDirectory := by
  cases event with
  | build path => rw [after, run_getOrBuild]
  | look path => rfl
  | clear => rfl
  | write path contents =>
      exact workingDirectory_attempt _ fun _ => workingDirectory_of_writeFile
  | remove path => exact workingDirectory_attempt _ fun _ => workingDirectory_of_removeFile
  | deny denied => rfl

/-- Keys stay the same in a whole session. -/
theorem key_run (machine : Machine) (events : List CacheEvent) :
    (run machine events).machine.snapshot.key = machine.snapshot.key := by
  have hdirectory : (run machine events).machine.workingDirectory =
      machine.workingDirectory := by
    induction events using List.reverseRecOn with
    | nil => rfl
    | append_singleton events event ih => rw [run_concat, workingDirectory_after, ih]
  have hname (machine : Machine) : machine.snapshot.workingDirectory =
      .char '/' :: [.char '/'].intercalate (machine.workingDirectory.map PathOctets.decode) := rfl
  funext path
  rw [Snapshot.key, hname, hdirectory, ← hname, Snapshot.key]

/-! ## Calls that were given a view -/

/-- After the events `before` a call for a path was given a view, and the cache was not
cleared later. -/
structure Supplied (machine : Machine) (events before : List CacheEvent) (path : LooseText)
    (view : View) : Prop where
  later : ∃ later, events = before ++ .build path :: later ∧ .clear ∉ later
  given : (run machine before).answer path = .ok view

/-- Of the calls with its key, the one for a path after the events `before` was the first
that was given a view, and the view was read from the file then. -/
structure BuiltFirst (machine : Machine) (events before : List CacheEvent) (path : LooseText)
    (view : View) : Prop where
  supplied : Supplied machine events before path view
  read : (run machine before).machine.snapshot.view path = .ok view
  first : ∀ before' path' view', machine.snapshot.key path' = machine.snapshot.key path →
    Supplied machine events before' path' view' → before.length ≤ before'.length

variable {machine : Machine} {events before : List CacheEvent} {event : CacheEvent}
variable {path : LooseText} {view : View}

/-- What one more event adds to the calls that were given a view. -/
theorem supplied_concat_iff :
    Supplied machine (events ++ [event]) before path view ↔
      (event ≠ .clear ∧ Supplied machine events before path view) ∨
        (before = events ∧ event = .build path ∧
          (run machine events).answer path = .ok view) := by
  constructor
  · rintro ⟨⟨later, heq, hclear⟩, hgiven⟩
    rcases List.eq_nil_or_concat' later with rfl | ⟨later, last, rfl⟩
    · obtain ⟨rfl, hevent⟩ := List.append_inj' heq rfl
      cases hevent
      exact .inr ⟨rfl, rfl, hgiven⟩
    · rw [← List.cons_append, ← List.append_assoc] at heq
      obtain ⟨rfl, hevent⟩ := List.append_inj' heq rfl
      cases hevent
      rw [List.mem_append, not_or] at hclear
      refine .inl ⟨fun h => hclear.2 (by simp [h]), ⟨later, rfl, hclear.1⟩, hgiven⟩
  · rintro (⟨hevent, ⟨later, rfl, hclear⟩, hgiven⟩ | ⟨rfl, rfl, hgiven⟩)
    · refine ⟨⟨later ++ [event], by simp, ?_⟩, hgiven⟩
      simpa [hclear] using hevent.symm
    · exact ⟨⟨[], rfl, by simp⟩, hgiven⟩

theorem Supplied.length_le (hsupplied : Supplied machine events before path view) :
    before.length ≤ events.length := by
  obtain ⟨later, rfl, -⟩ := hsupplied.later
  simp

/-- A view that was built first stays the first one until the cache is cleared. -/
theorem BuiltFirst.concat (hbuilt : BuiltFirst machine events before path view)
    (hevent : event ≠ .clear) : BuiltFirst machine (events ++ [event]) before path view where
  supplied := supplied_concat_iff.2 (.inl ⟨hevent, hbuilt.supplied⟩)
  read := hbuilt.read
  first before' path' view' hkey hsupplied := by
    rcases supplied_concat_iff.1 hsupplied with ⟨-, hearlier⟩ | ⟨rfl, -, -⟩
    · exact hbuilt.first before' path' view' hkey hearlier
    · exact hbuilt.supplied.length_le

/-! ## What the cache holds -/

/-- The cache accounts for the calls that were given a view: under each key it holds the
view that was built first, and none if there is none. -/
structure Accounts (machine : Machine) (events : List CacheEvent) (cache : ViewCache) :
    Prop where
  absent : ∀ key, cache.get? key = none → ∀ before path view,
    machine.snapshot.key path = key → ¬Supplied machine events before path view
  present : ∀ key view, cache.get? key = some view → ∃ before path,
    machine.snapshot.key path = key ∧ BuiltFirst machine events before path view

variable {cache : ViewCache}

theorem accounts_nil (machine : Machine) : Accounts machine [] .empty where
  absent := by
    rintro key - before path view - ⟨⟨later, heq, -⟩, -⟩
    simp at heq
  present key view hget := by
    cases hget

/-- After a clear the cache holds nothing. -/
theorem accounts_clear (machine : Machine) (events : List CacheEvent) :
    Accounts machine (events ++ [.clear]) .empty where
  absent key _ before path view _ hsupplied := by
    rcases supplied_concat_iff.1 hsupplied with ⟨hevent, -⟩ | ⟨-, hevent, -⟩
    · exact hevent rfl
    · cases hevent
  present key view hget := by
    cases hget

/-- An event that gives a view to no call but one whose key holds a view. -/
theorem Accounts.keep (haccounts : Accounts machine events cache) (hevent : event ≠ .clear)
    (hkeep : ∀ path view, event = .build path → (run machine events).answer path = .ok view →
      cache.get? (machine.snapshot.key path) ≠ none) :
    Accounts machine (events ++ [event]) cache where
  absent key hget before path view hkey hsupplied := by
    rcases supplied_concat_iff.1 hsupplied with ⟨-, hearlier⟩ | ⟨-, hbuild, hgiven⟩
    · exact haccounts.absent key hget before path view hkey hearlier
    · exact hkeep path view hbuild hgiven (hkey ▸ hget)
  present key view hget := by
    obtain ⟨before, path, hkey, hbuilt⟩ := haccounts.present key view hget
    exact ⟨before, path, hkey, hbuilt.concat hevent⟩

/-- A call that reads the file puts its view under a key that held none. -/
theorem Accounts.put (haccounts : Accounts machine events cache)
    (hget : cache.get? (machine.snapshot.key path) = none)
    (hread : (run machine events).machine.snapshot.view path = .ok view)
    (hgiven : (run machine events).answer path = .ok view) :
    Accounts machine (events ++ [.build path])
      ⟨(machine.snapshot.key path, view) :: cache.views⟩ where
  absent key hother before other third hkey hsupplied := by
    rw [ViewCache.get?_cons] at hother
    by_cases hsame : key = machine.snapshot.key path
    · rw [if_pos hsame] at hother
      cases hother
    · rw [if_neg hsame] at hother
      rcases supplied_concat_iff.1 hsupplied with ⟨-, hearlier⟩ | ⟨-, hbuild, -⟩
      · exact haccounts.absent key hother before other third hkey hearlier
      · cases hbuild
        exact hsame hkey.symm
  present key third hother := by
    rw [ViewCache.get?_cons] at hother
    by_cases hkey : key = machine.snapshot.key path
    · rw [if_pos hkey, Option.some.injEq] at hother
      obtain rfl := hother
      refine ⟨events, path, hkey.symm, ⟨?_, hread, ?_⟩⟩
      · exact supplied_concat_iff.2 (.inr ⟨rfl, rfl, hgiven⟩)
      · intro before other view' hsame hsupplied
        rcases supplied_concat_iff.1 hsupplied with ⟨-, hearlier⟩ | ⟨rfl, -, -⟩
        · exact absurd hearlier (haccounts.absent _ hget before other view' hsame)
        · exact le_refl _
    · rw [if_neg hkey] at hother
      obtain ⟨before, other, hsame, hbuilt⟩ := haccounts.present key third hother
      exact ⟨before, other, hsame, hbuilt.concat (by simp)⟩

/-- What the cache holds is accounted for by the events. -/
theorem accounts_run (machine : Machine) (events : List CacheEvent) :
    Accounts machine events (run machine events).cache := by
  induction events using List.reverseRecOn with
  | nil => exact accounts_nil machine
  | append_singleton events event ih =>
      rw [run_concat]
      cases event with
      | build path =>
          have hkey : (run machine events).machine.snapshot.key path =
              machine.snapshot.key path := by rw [key_run]
          obtain ⟨view, hheld, -, hsame⟩ | ⟨fault, hrefused, hsame⟩ |
            ⟨view, hheld, hread, hgiven, hnew⟩ := build_cases (run machine events) path
          · rw [hsame]
            rw [held?, hkey] at hheld
            refine ih.keep (by simp) fun other _ hbuild _ => ?_
            cases hbuild
            simp [hheld]
          · rw [hsame]
            refine ih.keep (by simp) fun other _ hbuild hgiven => ?_
            cases hbuild
            rw [hrefused] at hgiven
            cases hgiven
          · rw [hnew, hkey]
            rw [held?, hkey] at hheld
            exact ih.put hheld hread hgiven
      | look path => exact ih.keep (by simp) (by simp)
      | clear => exact accounts_clear machine events
      | write path contents => exact ih.keep (by simp) (by simp)
      | remove path => exact ih.keep (by simp) (by simp)
      | deny denied => exact ih.keep (by simp) (by simp)

/-- No two calls with one key were both the first. -/
theorem BuiltFirst.unique {before' : List CacheEvent} {path' : LooseText} {view' : View}
    (hbuilt : BuiltFirst machine events before path view)
    (hbuilt' : BuiltFirst machine events before' path' view')
    (hkey : machine.snapshot.key path' = machine.snapshot.key path) : view = view' := by
  have hlength : before.length = before'.length := by
    apply le_antisymm
    · exact hbuilt.first before' path' view' hkey hbuilt'.supplied
    · exact hbuilt'.first before path view hkey.symm hbuilt.supplied
  obtain ⟨later, hevents, -⟩ := hbuilt.supplied.later
  obtain ⟨later', hevents', -⟩ := hbuilt'.supplied.later
  obtain ⟨rfl, hrest⟩ := List.append_inj (hevents.symm.trans hevents') hlength
  cases hrest
  exact Except.ok.inj (hbuilt.read.symm.trans hbuilt'.read)

/-! ## The number of views -/

theorem get?_eq_none_iff {key : LooseText} :
    cache.get? key = none ↔ key ∉ cache.views.map Prod.fst := by
  rw [ViewCache.get?, List.lookup_eq_none_iff, List.mem_map, not_exists]
  refine forall_congr' fun entry => ?_
  rw [not_and, bne_iff_ne, ne_comm]

/-- No key has two views. -/
theorem nodup_keys_run (machine : Machine) (events : List CacheEvent) :
    ((run machine events).cache.views.map Prod.fst).Nodup := by
  induction events using List.reverseRecOn with
  | nil => exact List.nodup_nil
  | append_singleton events event ih =>
      rw [run_concat]
      cases event with
      | build path =>
          obtain ⟨view, -, -, hsame⟩ | ⟨fault, -, hsame⟩ | ⟨view, hheld, -, -, hnew⟩ :=
            build_cases (run machine events) path
          · rwa [hsame]
          · rwa [hsame]
          · rw [hnew]
            exact List.nodup_cons.2 ⟨get?_eq_none_iff.1 hheld, ih⟩
      | look path => exact ih
      | clear => exact List.nodup_nil
      | write path contents => exact ih
      | remove path => exact ih
      | deny denied => exact ih

/-- The size of a cache without repeated keys is the number of its keys. -/
theorem size_eq_ncard (hnodup : (cache.views.map Prod.fst).Nodup) :
    cache.size = {key | cache.get? key ≠ none}.ncard := by
  have hset : {key | cache.get? key ≠ none} =
      ((cache.views.map Prod.fst).toFinset : Set LooseText) := by
    ext key
    simp [get?_eq_none_iff]
  rw [hset, Set.ncard_coe_finset, List.toFinset_card_of_nodup hnodup, List.length_map,
    ViewCache.size]

/-- What the cache holds after a session is told by the session: the view of a path is the
one that was built by the first call with its key that was given a view since the cache
was cleared, there are as many views as such keys, and a call that cannot read its file
changes none of them. -/
theorem cache_after_session (machine : Machine) (events : List CacheEvent) :
    (∀ path, (run machine events).held? path = none ↔
      ∀ before other view, machine.snapshot.key other = machine.snapshot.key path →
        ¬Supplied machine events before other view) ∧
    (∀ path view, (run machine events).held? path = some view ↔
      ∃ before other, machine.snapshot.key other = machine.snapshot.key path ∧
        BuiltFirst machine events before other view) ∧
    (∀ path fault, (run machine events).answer path = .error fault →
      (run machine (events ++ [.build path])).cache = (run machine events).cache) ∧
    (run machine events).cache.size =
      {key | ∃ before path view, machine.snapshot.key path = key ∧
        Supplied machine events before path view}.ncard := by
  have haccounts := accounts_run machine events
  have habsent (key : LooseText) : (run machine events).cache.get? key = none ↔
      ∀ before path view, machine.snapshot.key path = key →
        ¬Supplied machine events before path view := by
    refine ⟨haccounts.absent key, fun hnone => ?_⟩
    cases hget : (run machine events).cache.get? key with
    | none => rfl
    | some view =>
        obtain ⟨before, path, hkey, hbuilt⟩ := haccounts.present key view hget
        exact absurd hbuilt.supplied (hnone before path view hkey)
  refine ⟨fun path => ?_, fun path view => ?_, fun path fault hrefused => ?_, ?_⟩
  · rw [held?, key_run]
    exact habsent _
  · rw [held?, key_run]
    refine ⟨haccounts.present _ view, fun ⟨before, other, hkey, hbuilt⟩ => ?_⟩
    cases hget : (run machine events).cache.get? (machine.snapshot.key path) with
    | none =>
        exact absurd hbuilt.supplied ((habsent _).1 hget before other view hkey)
    | some view' =>
        obtain ⟨before', other', hkey', hbuilt'⟩ := haccounts.present _ view' hget
        rw [hbuilt.unique hbuilt' (hkey'.trans hkey.symm)]
  · rw [run_concat]
    obtain ⟨view, -, -, hsame⟩ | ⟨other, -, hsame⟩ | ⟨view, -, -, hgiven, -⟩ :=
      build_cases (run machine events) path
    · rw [hsame]
    · rw [hsame]
    · rw [hgiven] at hrefused
      cases hrefused
  · rw [size_eq_ncard (nodup_keys_run machine events)]
    congr 1
    ext key
    simp only [Set.mem_ofPred_eq, ne_eq, habsent, not_forall, not_not, exists_prop]

example : ((run {} [.write "/a" [0x61], .build "/a", .write "/a" [0x62]]).held? "/A").map
    (fun view => (view.path, view.raw)) = some (LooseText.ofString "/a", #['a']) := by
  decide +kernel

end CacheSession

end FrameLens
