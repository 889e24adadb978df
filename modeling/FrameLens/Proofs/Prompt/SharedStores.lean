import FrameLens.Proofs.Prompt.Histories
import Mathlib.Logic.Function.Basic

/-!
# Two template stores on one file

Two stores on one path are called in turn.  A store reads the file when it is called for the first
time and never again, and every change writes all that the store has.  So the file has the templates
of the store that saved last: after its own calls, and after those that the other store had made
when this one was called for the first time.  What the other one saved later is lost.
-/

namespace FrameLens

open TemplateCall

namespace TemplateCall

variable {call : TemplateCall} {calls later : List TemplateCall} {mode : Mode}
  {template : LooseText}

/-- The last set of two series is that of the later one, if it has any. -/
theorem setLast?_append (calls later : List TemplateCall) (mode : Mode) :
    setLast? (calls ++ later) mode = (setLast? later mode).or (setLast? calls mode) := by
  rw [setLast?, setLast?, setLast?, List.filterMap_append, List.getLast?_append]

theorem setLast?_eq_none (hnone : ∀ call ∈ calls, call.setFor? mode = none) :
    setLast? calls mode = none := by
  rw [setLast?, List.filterMap_eq_nil_iff.2 hnone, List.getLast?_nil]

theorem setLast?_of_last (hset : call.setFor? mode = some template)
    (hlater : ∀ call ∈ later, call.setFor? mode = none) :
    setLast? (calls ++ call :: later) mode = some template := by
  rw [setLast?_append, setLast?_cons, setLast?_eq_none hlater, hset]
  rfl

theorem setFor?_eq_none (hchanges : call.changes = false) (mode : Mode) :
    call.setFor? mode = none := by
  rw [setFor?, Option.not_isSome_iff_eq_none.1 (ne_true_of_eq_false hchanges), Option.bind_none]

end TemplateCall

namespace TemplateSession

variable {session : TemplateSession} {call : TemplateCall} {templates : Templates} {mode : Mode}
  {template : LooseText} {path : Path}

/-- One more call changes the template of its own mode at most. -/
theorem templateAfter_append_singleton (machine : Machine) (path : Path)
    (calls : List TemplateCall) (call : TemplateCall) (mode : Mode) :
    templateAfter machine path (calls ++ [call]) mode =
      (call.setFor? mode).getD (templateAfter machine path calls mode) := by
  have hsingle : setLast? [call] mode = call.setFor? mode := setLast?_cons call [] mode
  rw [templateAfter, templateAfter, setLast?_append, hsingle]
  cases call.setFor? mode with
  | some template => rfl
  | none => rfl

/-- A call leaves the store with what it had and what the call sets. The machine changes only if
the call does, and then its file has all that the store has. -/
theorem after_of_saved (hreadable : session.machine.readingDenied = false)
    (hcontents : session.contents = .ok templates)
    (hsaved : call.changes → session.outcome call = .ok ()) :
    ∃ kept : Templates, (session.after call).store = { session.store with loaded := some kept } ∧
      (∀ mode, kept.get mode = (call.setFor? mode).getD (templates.get mode)) ∧
      (call.changes = false → (session.after call).machine = session.machine) ∧
      (call.changes → (session.after call).machine.readingDenied = false ∧
        (session.after call).machine.readFile session.store.path.toText =
          .ok (Config.octetsOf kept.toFields)) := by
  cases hchange : call.change? with
  | none =>
      have hchanges : call.changes = false := by rw [changes, hchange]; rfl
      have hfilled : session.store.filled session.machine =
          { session.store with loaded := some templates } := by
        have hstored : session.store.contents session.machine = .ok templates := hcontents
        rw [TemplateStore.filled, hstored]
        rfl
      rw [after, call_of_no_change hchange hcontents, hfilled]
      refine ⟨templates, rfl, fun mode => ?_, fun _ => rfl, fun hsome => ?_⟩
      · rw [setFor?_eq_none hchanges]
        rfl
      · rw [hchanges] at hsome
        cases hsome
  | some change =>
      obtain ⟨mode, template⟩ := change
      have hchanges : call.changes = true := by rw [changes, hchange]; rfl
      refine ⟨templates.set mode template, store_after hchange hcontents, fun other => ?_,
        fun hnone => ?_,
        fun _ => machine_after hreadable hchange hcontents (hsaved hchanges)⟩
      · rw [Templates.get_set, setFor?, hchange, Option.bind_some]
        dsimp only
        split
        · rfl
        · rfl
      · rw [hchanges] at hnone
        cases hnone

end TemplateSession

open TemplateSession (templateAfter)

/-- One of two stores. -/
inductive Holder where
  | first
  | second
deriving DecidableEq

/-- Two template stores on one machine. -/
structure SharedStores where
  machine : Machine
  stores : Holder → TemplateStore

namespace SharedStores

/-- One of the stores by itself. -/
def session (shared : SharedStores) (holder : Holder) : TemplateSession :=
  ⟨shared.machine, shared.stores holder⟩

/-- What a call to one of the stores leaves. -/
def after (shared : SharedStores) (asked : Holder × TemplateCall) : SharedStores :=
  let next := (shared.session asked.1).after asked.2
  ⟨next.machine, Function.update shared.stores asked.1 next.store⟩

/-- What a series of calls leaves, each to one of the stores. -/
def run (shared : SharedStores) (calls : List (Holder × TemplateCall)) : SharedStores :=
  calls.foldl after shared

/-- Each call of a series that changes a template saves it. -/
def Saves (shared : SharedStores) : List (Holder × TemplateCall) → Prop
  | [] => True
  | asked :: calls =>
    (asked.2.changes → (shared.session asked.1).outcome asked.2 = .ok ()) ∧
      Saves (shared.after asked) calls

instance decidableSaves (shared : SharedStores) (calls : List (Holder × TemplateCall)) :
    Decidable (shared.Saves calls) :=
  match calls with
  | [] => .isTrue trivial
  | asked :: calls =>
    have := decidableSaves (shared.after asked) calls
    inferInstanceAs (Decidable (_ ∧ _))

/-- Two stores that have not been called yet. -/
def start (machine : Machine) (path : Path) : SharedStores :=
  ⟨machine, fun _ => { path := path }⟩

/-! ## What a store knows -/

/-- The calls that a store knows of: those before its first one, and its own. -/
def known (holder : Holder) (calls : List (Holder × TemplateCall)) : List TemplateCall :=
  (calls.takeWhile (·.1 ≠ holder) ++ calls.filter (·.1 = holder)).map Prod.snd

/-- A store has been called. -/
def Called (holder : Holder) (calls : List (Holder × TemplateCall)) : Prop :=
  ∃ asked ∈ calls, asked.1 = holder

/-- The store that changed a template last. -/
def lastSaver? (calls : List (Holder × TemplateCall)) : Option Holder :=
  (calls.filter (·.2.changes)).getLast?.map Prod.fst

/-- The calls that the file comes from: those that the store knows of that saved last. -/
def persisted (calls : List (Holder × TemplateCall)) : List TemplateCall :=
  match lastSaver? calls with
  | some saver => known saver calls
  | none => []

variable {shared : SharedStores} {machine : Machine} {path : Path} {holder other : Holder}
  {asked : Holder × TemplateCall} {calls done before later : List (Holder × TemplateCall)}
  {mode : Mode} {template : LooseText} {call : TemplateCall}

theorem ne_of_not_called (hcalled : ¬Called holder calls) :
    ∀ asked ∈ calls, decide (asked.1 ≠ holder) = true :=
  fun asked hasked => decide_eq_true fun hown => hcalled ⟨asked, hasked, hown⟩

theorem takeWhile_of_not_called (hcalled : ¬Called holder calls) :
    calls.takeWhile (·.1 ≠ holder) = calls :=
  List.takeWhile_eq_self_iff.2 (ne_of_not_called hcalled)

/-- What comes after the first call of a store does not change what came before it. -/
theorem takeWhile_append_of_called (hcalled : Called holder calls) :
    (calls ++ later).takeWhile (·.1 ≠ holder) = calls.takeWhile (·.1 ≠ holder) := by
  induction calls with
  | nil => simp [Called] at hcalled
  | cons asked calls ih =>
      by_cases hown : asked.1 = holder
      · simp [hown]
      · have hrest : Called holder calls := by simpa [Called, hown] using hcalled
        rw [List.cons_append, List.takeWhile_cons_of_pos (by simpa using hown),
          List.takeWhile_cons_of_pos (by simpa using hown), ih hrest]

theorem known_of_not_called (hcalled : ¬Called holder calls) :
    known holder calls = calls.map Prod.snd := by
  have hown : calls.filter (·.1 = holder) = [] :=
    List.filter_eq_nil_iff.2 (by simpa using ne_of_not_called hcalled)
  rw [known, takeWhile_of_not_called hcalled, hown, List.append_nil]

theorem known_of_own (hown : ∀ asked ∈ calls, asked.1 = holder) :
    known holder calls = calls.map Prod.snd := by
  have hfilter : calls.filter (·.1 = holder) = calls :=
    List.filter_eq_self.2 (by simpa using hown)
  rw [known, hfilter]
  cases calls with
  | nil => rfl
  | cons asked calls =>
      rw [List.takeWhile_cons_of_neg (by simpa using hown asked List.mem_cons_self)]
      rfl

/-- A store knows its own calls. -/
theorem known_append_own (hown : asked.1 = holder) :
    known holder (calls ++ [asked]) = known holder calls ++ [asked.2] := by
  have hbefore : (calls ++ [asked]).takeWhile (·.1 ≠ holder) =
      calls.takeWhile (·.1 ≠ holder) := by
    by_cases hcalled : Called holder calls
    · exact takeWhile_append_of_called hcalled
    · rw [List.takeWhile_append_of_pos (ne_of_not_called hcalled),
        List.takeWhile_cons_of_neg (by simpa using hown), List.append_nil,
        takeWhile_of_not_called hcalled]
  rw [known, known, hbefore, List.filter_append, List.filter_cons_of_pos (by simpa using hown),
    List.filter_nil, ← List.append_assoc, List.map_append]
  rfl

/-- A store that has been called does not know of the other store's calls from then on. -/
theorem known_append_other (hcalled : Called holder calls) (hother : asked.1 ≠ holder) :
    known holder (calls ++ [asked]) = known holder calls := by
  rw [known, known, takeWhile_append_of_called hcalled, List.filter_append,
    List.filter_cons_of_neg (by simpa using hother), List.filter_nil, List.append_nil]

/-- The last call that changes something decides who saved last. -/
theorem lastSaver?_append_singleton (calls : List (Holder × TemplateCall))
    (asked : Holder × TemplateCall) :
    lastSaver? (calls ++ [asked]) = if asked.2.changes then some asked.1 else lastSaver? calls := by
  rw [lastSaver?, lastSaver?, List.filter_append, List.filter_singleton]
  cases asked.2.changes with
  | true => exact congrArg (Option.map Prod.fst) List.getLast?_concat
  | false =>
      rw [cond_false, List.append_nil]
      rfl

theorem called_of_lastSaver? (hsaver : lastSaver? calls = some holder) : Called holder calls := by
  obtain ⟨asked, hlast, hholder⟩ := Option.map_eq_some_iff.1 hsaver
  exact ⟨asked, (List.mem_filter.1 (List.mem_of_getLast? hlast)).1, hholder⟩

theorem changes_of_lastSaver?_eq_none (hnone : lastSaver? calls = none) (hasked : asked ∈ calls) :
    asked.2.changes = false := by
  rw [lastSaver?, Option.map_eq_none_iff, List.getLast?_eq_none_iff,
    List.filter_eq_nil_iff] at hnone
  exact eq_false_of_ne_true (hnone asked hasked)

/-- What is in the file is what the store that saved last knows of. -/
theorem persisted_of_lastSaver? (hsaver : lastSaver? calls = some holder) :
    persisted calls = known holder calls := by
  rw [persisted, hsaver]

/-- What a store finds in the file when it is called for the first time: all that was set. -/
theorem setLast?_persisted_of_not_called (hcalled : ¬Called holder calls) (mode : Mode) :
    setLast? (persisted calls) mode = setLast? (known holder calls) mode := by
  rw [known_of_not_called hcalled]
  cases hsaver : lastSaver? calls with
  | none =>
      have hnone : ∀ call ∈ calls.map Prod.snd, call.setFor? mode = none := by
        intro call hcall
        obtain ⟨asked, hasked, rfl⟩ := List.mem_map.1 hcall
        exact setFor?_eq_none (changes_of_lastSaver?_eq_none hsaver hasked) mode
      rw [persisted, hsaver, setLast?_eq_none hnone]
      rfl
  | some saver =>
      -- There are only two stores, so all calls were to the one that saved last.
      obtain ⟨first, hfirst, hsaver_eq⟩ := called_of_lastSaver? hsaver
      have hown : ∀ asked ∈ calls, asked.1 = saver := by
        intro asked hasked
        have hne : asked.1 ≠ holder := fun hown => hcalled ⟨asked, hasked, hown⟩
        have hsaver_ne : saver ≠ holder := fun hown => hcalled ⟨first, hfirst, hsaver_eq.trans hown⟩
        generalize asked.1 = asker at hne ⊢
        cases holder <;> cases asker <;> cases saver <;> first | rfl | contradiction
      rw [persisted_of_lastSaver? hsaver, known_of_own hown]

/-- A call that changes nothing changes nothing in the file either. -/
theorem setLast?_persisted_append_singleton (hchanges : asked.2.changes = false) (mode : Mode) :
    setLast? (persisted (calls ++ [asked])) mode = setLast? (persisted calls) mode := by
  have hlast : lastSaver? (calls ++ [asked]) = lastSaver? calls := by
    rw [lastSaver?_append_singleton, if_neg (ne_true_of_eq_false hchanges)]
  cases hsaver : lastSaver? calls with
  | none => rw [persisted, persisted, hlast, hsaver]
  | some saver =>
      rw [persisted_of_lastSaver? (hlast.trans hsaver), persisted_of_lastSaver? hsaver]
      by_cases hown : asked.1 = saver
      · rw [known_append_own hown, setLast?_append, setLast?_cons, setFor?_eq_none hchanges]
        rfl
      · rw [known_append_other (called_of_lastSaver? hsaver) hown]

/-! ## Series of calls -/

/-- What the stores and their file have after a series of calls, up to joined halves. -/
structure Holds (shared : SharedStores) (machine : Machine) (path : Path)
    (done : List (Holder × TemplateCall)) : Prop where
  path_eq : ∀ holder, (shared.stores holder).path = path
  readable : shared.machine.readingDenied = false
  file : ∃ templates, TemplateStore.contents { path := path } shared.machine = .ok templates ∧
    ∀ mode, templates.get mode = (templateAfter machine path (persisted done) mode).joined
  unread : ∀ holder, ¬Called holder done → (shared.stores holder).loaded = none
  read : ∀ holder, Called holder done →
    ∃ templates, (shared.stores holder).loaded = some templates ∧
      ∀ mode, (templates.get mode).joined =
        (templateAfter machine path (known holder done) mode).joined

/-- Templates depend on the last set of each mode alone. -/
theorem templateAfter_congr {calls later : List TemplateCall}
    (hset : setLast? calls mode = setLast? later mode) :
    templateAfter machine path calls mode = templateAfter machine path later mode := by
  rw [templateAfter, templateAfter, hset]

/-- Before a call, a store has what comes of the calls that it knows of. -/
theorem Holds.contents (hholds : shared.Holds machine path done) (holder : Holder) :
    ∃ templates, (shared.session holder).contents = .ok templates ∧
      ∀ mode, (templates.get mode).joined =
        (templateAfter machine path (known holder done) mode).joined := by
  by_cases hcalled : Called holder done
  · obtain ⟨templates, hloaded, hget⟩ := hholds.read holder hcalled
    refine ⟨templates, ?_, hget⟩
    rw [TemplateSession.contents, session, TemplateStore.contents]
    dsimp only
    rw [hloaded]
  · obtain ⟨templates, hfile, hget⟩ := hholds.file
    have hstore : shared.stores holder = { path := path } := by
      rw [← hholds.path_eq holder, ← hholds.unread holder hcalled]
    refine ⟨templates, ?_, fun mode => ?_⟩
    · rw [TemplateSession.contents, session, hstore]
      exact hfile
    · rw [hget, (LooseText.isWhole_joined _).joined_eq,
        templateAfter_congr (setLast?_persisted_of_not_called hcalled mode)]

theorem called_append_singleton :
    Called holder (calls ++ [asked]) ↔ Called holder calls ∨ asked.1 = holder := by
  simp only [Called, List.mem_append, List.mem_singleton, or_and_right, exists_or, exists_eq_left]

/-- One call of either store keeps what is known of both. -/
theorem Holds.after (hholds : shared.Holds machine path done)
    (hsaved : asked.2.changes → (shared.session asked.1).outcome asked.2 = .ok ()) :
    (shared.after asked).Holds machine path (done ++ [asked]) := by
  obtain ⟨templates, hcontents, hget⟩ := hholds.contents asked.1
  obtain ⟨kept, hstore, hkept, hsame, hwritten⟩ :=
    TemplateSession.after_of_saved hholds.readable hcontents hsaved
  have hjoined (mode : Mode) : (kept.get mode).joined =
      (templateAfter machine path (known asked.1 (done ++ [asked])) mode).joined := by
    rw [known_append_own rfl, TemplateSession.templateAfter_append_singleton, hkept]
    cases asked.2.setFor? mode with
    | some template => rfl
    | none => exact hget mode
  have hown : (shared.after asked).stores asked.1 =
      { shared.stores asked.1 with loaded := some kept } := by
    rw [SharedStores.after]
    exact (Function.update_self asked.1 _ shared.stores).trans hstore
  have hother {holder : Holder} (hne : asked.1 ≠ holder) :
      (shared.after asked).stores holder = shared.stores holder :=
    Function.update_of_ne hne.symm _ _
  refine ⟨fun holder => ?_, ?_, ?_, fun holder hcalled => ?_, fun holder hcalled => ?_⟩
  · by_cases hholder : asked.1 = holder
    · rw [← hholder, hown]
      exact hholds.path_eq asked.1
    · rw [hother hholder]
      exact hholds.path_eq holder
  · cases hchanges : asked.2.changes with
    | false => exact (congrArg Machine.readingDenied (hsame hchanges)).trans hholds.readable
    | true => exact (hwritten hchanges).1
  · cases hchanges : asked.2.changes with
    | false =>
        obtain ⟨filed, hfile, hfiled⟩ := hholds.file
        refine ⟨filed, ?_, fun mode => ?_⟩
        · rw [← hfile]
          exact congrArg _ (hsame hchanges)
        · rw [hfiled, templateAfter_congr (setLast?_persisted_append_singleton hchanges mode)]
    | true =>
        have hread := (hwritten hchanges).2
        have hpath : (shared.session asked.1).store.path = path := hholds.path_eq asked.1
        rw [hpath] at hread
        refine ⟨kept.joined, TemplateStore.contents_of_readFile hread, fun mode => ?_⟩
        rw [Templates.get_joined, hjoined, persisted_of_lastSaver?]
        rw [lastSaver?_append_singleton, if_pos hchanges]
  · rw [called_append_singleton, not_or] at hcalled
    rw [hother hcalled.2]
    exact hholds.unread holder hcalled.1
  · by_cases hholder : asked.1 = holder
    · rw [← hholder]
      exact ⟨kept, by rw [hown], hjoined⟩
    · have hbefore := (called_append_singleton.1 hcalled).resolve_right hholder
      obtain ⟨loaded, hloaded, hget⟩ := hholds.read holder hbefore
      refine ⟨loaded, by rw [hother hholder, hloaded], fun mode => ?_⟩
      rw [known_append_other hbefore hholder]
      exact hget mode

/-- A series of calls keeps what is known of both stores. -/
theorem Holds.run (hholds : shared.Holds machine path done) (hsaves : shared.Saves calls) :
    (shared.run calls).Holds machine path (done ++ calls) := by
  induction calls generalizing shared done with
  | nil => rwa [List.append_nil]
  | cons asked calls ih =>
      obtain ⟨hsaved, hsaves⟩ := hsaves
      have hrun := ih (hholds.after hsaved) hsaves
      rwa [List.append_assoc] at hrun

/-- Templates that no call has set have no halves of characters. -/
theorem isWhole_templateAfter_nil (machine : Machine) (path : Path) (mode : Mode) :
    (templateAfter machine path [] mode).IsWhole :=
  TemplateSession.isWhole_templateAfter machine path
    (fun _ _ hmem => absurd hmem List.not_mem_nil) mode

theorem holds_start (hreadable : machine.readingDenied = false)
    (htold : machine.refusal? path.toText = none) :
    (start machine path).Holds machine path [] := by
  obtain ⟨-, -, templates, hcontents, hget, -⟩ := TemplateSession.holds_start hreadable htold
  refine ⟨fun _ => rfl, hreadable, ⟨templates, hcontents, fun mode => ?_⟩, fun _ _ => rfl,
    fun holder hcalled => ?_⟩
  · rw [hget]
    exact (isWhole_templateAfter_nil machine path mode).joined_eq.symm
  · obtain ⟨asked, hasked, -⟩ := hcalled
    cases hasked

/-- The last template for a mode is known to the store that saved last if this store set it, or was
called for the first time after it was set. -/
theorem setLast?_persisted (hset : call.setFor? mode = some template)
    (hlater : ∀ asked ∈ later, asked.2.setFor? mode = none)
    (hsaver : ∀ saver ∈ lastSaver? (before ++ (holder, call) :: later),
      saver = holder ∨ ¬Called saver before) :
    setLast? (persisted (before ++ (holder, call) :: later)) mode = some template := by
  have hchanges : call.changes = true := by
    by_contra hchanges
    rw [setFor?_eq_none (eq_false_of_ne_true hchanges)] at hset
    cases hset
  have hpart {part : List (Holder × TemplateCall)} (hpart : part ⊆ later) :
      ∀ call ∈ part.map Prod.snd, call.setFor? mode = none := by
    intro call hcall
    obtain ⟨asked, hasked, rfl⟩ := List.mem_map.1 hcall
    exact hlater asked (hpart hasked)
  cases hlast : lastSaver? (before ++ (holder, call) :: later) with
  | none =>
      have hnone := changes_of_lastSaver?_eq_none hlast
        (List.mem_append_right before List.mem_cons_self)
      cases hchanges.symm.trans hnone
  | some saver =>
      rw [persisted_of_lastSaver? hlast, known]
      have hfiltered := hpart (List.filter_sublist (p := (·.1 = saver)) (l := later)).subset
      by_cases hown : holder = saver
      · rw [List.filter_append, List.filter_cons_of_pos (by simpa using hown), ← List.append_assoc,
          List.map_append, List.map_cons]
        exact setLast?_of_last hset hfiltered
      · have hcalled := (hsaver saver hlast).resolve_left (Ne.symm hown)
        have hfilter : before.filter (·.1 = saver) = [] :=
          List.filter_eq_nil_iff.2 (by simpa using ne_of_not_called hcalled)
        rw [List.takeWhile_append_of_pos (ne_of_not_called hcalled),
          List.takeWhile_cons_of_pos (by simpa using hown), List.filter_append, hfilter,
          List.filter_cons_of_neg (by simpa using hown), List.nil_append, List.append_assoc,
          List.map_append, List.cons_append, List.map_cons, List.map_append]
        refine setLast?_of_last hset fun call hcall => ?_
        rcases List.mem_append.1 hcall with hcall | hcall
        · exact hpart (List.takeWhile_subset _) call hcall
        · exact hfiltered call hcall

/-- Nothing is in the file but what was called. -/
theorem mem_of_mem_persisted (hcall : call ∈ persisted calls) : call ∈ calls.map Prod.snd := by
  rw [persisted] at hcall
  split at hcall
  · obtain ⟨asked, hasked, rfl⟩ := List.mem_map.1 hcall
    refine List.mem_map_of_mem ?_
    rcases List.mem_append.1 hasked with hasked | hasked
    · exact List.takeWhile_subset _ hasked
    · exact List.mem_of_mem_filter hasked
  · cases hcall

/-- A fresh store has what comes of the calls that the store knows of that saved last. -/
theorem get_after_calls (hreadable : machine.readingDenied = false)
    (htold : machine.refusal? path.toText = none) (hsaves : (start machine path).Saves calls)
    (mode : Mode) :
    (TemplateSession.start ((start machine path).run calls).machine path).get mode =
      .ok (templateAfter machine path (persisted calls) mode).joined := by
  have hholds := (holds_start hreadable htold).run hsaves
  rw [List.nil_append] at hholds
  obtain ⟨templates, hfile, hget⟩ := hholds.file
  have hcontents : (TemplateSession.start ((start machine path).run calls).machine path).contents =
      .ok templates := hfile
  rw [TemplateSession.get_eq, hcontents, ← hget]
  rfl

/-- Where all changes were saved, a fresh store on the file of two stores has for each mode the
template that was set last among the calls that the store knows of that saved last. This is the last
one of all if that store set it, or was called for the first time after it was set. -/
theorem templates_of_last_saver (hreadable : machine.readingDenied = false)
    (htold : machine.refusal? path.toText = none) (hsaves : (start machine path).Saves calls) :
    let fresh := TemplateSession.start ((start machine path).run calls).machine path
    (∀ mode, fresh.get mode = .ok (templateAfter machine path (persisted calls) mode).joined) ∧
      (∀ mode holder call template before later, calls = before ++ (holder, call) :: later →
        call.setFor? mode = some template → (∀ asked ∈ later, asked.2.setFor? mode = none) →
        (∀ saver ∈ lastSaver? calls, saver = holder ∨ ¬Called saver before) →
        fresh.get mode = .ok template.joined) ∧
      ∀ mode, (∀ asked ∈ calls, asked.2.setFor? mode = none) →
        fresh.get mode = .ok (templateAfter machine path [] mode) := by
  intro fresh
  have hfresh (mode : Mode) : fresh.get mode =
      .ok (templateAfter machine path (persisted calls) mode).joined :=
    get_after_calls hreadable htold hsaves mode
  refine ⟨hfresh, ?_, fun mode hnone => ?_⟩
  · rintro mode holder call template before later rfl hset hlater hsaver
    rw [hfresh, templateAfter, setLast?_persisted hset hlater hsaver]
    rfl
  · have hset : setLast? (persisted calls) mode = setLast? [] mode :=
      setLast?_eq_none fun call hcall => by
        obtain ⟨asked, hasked, rfl⟩ := List.mem_map.1 (mem_of_mem_persisted hcall)
        exact hnone asked hasked
    rw [hfresh, templateAfter_congr hset, (isWhole_templateAfter_nil machine path mode).joined_eq]

/-- One store sets a template before the other is called, which then saves another one. -/
theorem templates_of_second_saver :
    let calls : List (Holder × TemplateCall) := [(.first, .set .explain "one"),
      (.second, .get .optimize), (.second, .set .empty "two"), (.first, .get .empty)]
    let shared := (start TemplateSession.halfKept (Path.ofText "t.json")).run calls
    let fresh := TemplateSession.start shared.machine (Path.ofText "t.json")
    (start TemplateSession.halfKept (Path.ofText "t.json")).Saves calls ∧
      fresh.get .explain = .ok "one" ∧ fresh.get .empty = .ok "two" ∧
      fresh.get .optimize = .ok "mine" := by
  intro calls shared fresh
  have hsaves : (start TemplateSession.halfKept (Path.ofText "t.json")).Saves calls := by
    decide +kernel
  obtain ⟨hfresh, hlast, hnone⟩ := templates_of_last_saver rfl (by decide +kernel) hsaves
  refine ⟨hsaves, ?_, (hfresh .empty).trans (by decide +kernel),
    (hnone .optimize (by decide +kernel)).trans (by decide +kernel)⟩
  refine (hlast .explain .first (.set .explain "one") "one" [] _ rfl (by decide +kernel)
    (by decide +kernel) fun saver _ => .inr ?_).trans (by decide +kernel)
  rintro ⟨asked, hasked, -⟩
  cases hasked

/-- A template that was set while the other store had read the file is lost once that one saves.
Two halves of a character that were set come back as the character. -/
theorem template_overwritten :
    (let calls : List (Holder × TemplateCall) := [(.first, .get .empty), (.second, .get .empty),
        (.first, .set .empty "x"), (.second, .set .optimize "y")]
      let shared := (start {} (Path.ofText "t.json")).run calls
      (start {} (Path.ofText "t.json")).Saves calls ∧
        setLast? (calls.map Prod.snd) .empty = some "x" ∧
        (TemplateSession.start shared.machine (Path.ofText "t.json")).get .empty = .ok "" ∧
        LooseText.ofString "" ≠ "x") ∧
      let calls : List (Holder × TemplateCall) :=
        [(.first, .set .empty [.half 0x3D, .half 0x600])]
      let shared := (start {} (Path.ofText "t.json")).run calls
      (start {} (Path.ofText "t.json")).Saves calls ∧
        (TemplateSession.start shared.machine (Path.ofText "t.json")).get .empty =
          .ok [.char (Char.ofNat 0x1F600)] := by
  refine ⟨?_, ?_⟩
  · intro calls shared
    have hsaves : (start {} (Path.ofText "t.json")).Saves calls := by decide +kernel
    refine ⟨hsaves, by decide +kernel, ?_, by decide +kernel⟩
    exact (get_after_calls rfl (by decide +kernel) hsaves .empty).trans (by decide +kernel)
  · intro calls shared
    have hsaves : (start {} (Path.ofText "t.json")).Saves calls := by decide +kernel
    refine ⟨hsaves, ?_⟩
    exact (get_after_calls rfl (by decide +kernel) hsaves .empty).trans (by decide +kernel)

end SharedStores

end FrameLens
