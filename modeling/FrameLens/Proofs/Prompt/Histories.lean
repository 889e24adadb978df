import FrameLens.Proofs.Prompt.Stores

/-!
# Histories of template stores

Calls to one store are made one after another on a machine that nobody else changes.  Where all
changes were saved, the store has for each mode the template that was set last, or else the one
that the file had at first, and a fresh store on the file has the same, but for halves of one
character that it joins.  A change that could not be saved stays in the store.
-/

namespace FrameLens

/-- A call to a template store. -/
inductive TemplateCall where
  | get (mode : Mode)
  | set (mode : Mode) (template : LooseText)
  | reset (mode : Mode)
deriving DecidableEq

namespace TemplateCall

/-- The mode that a call changes, with its new template. A blank one restores the default. -/
def change? : TemplateCall → Option (Mode × LooseText)
  | .get _ => none
  | .set mode template => some (mode, if template.isBlank then mode.defaultTemplate else template)
  | .reset mode => some (mode, mode.defaultTemplate)

def changes (call : TemplateCall) : Bool :=
  call.change?.isSome

/-- The template that a call sets for a mode. -/
def setFor? (mode : Mode) (call : TemplateCall) : Option LooseText :=
  call.change?.bind fun change => if change.1 = mode then some change.2 else none

/-- The template that was set last for a mode. -/
def setLast? (calls : List TemplateCall) (mode : Mode) : Option LooseText :=
  (calls.filterMap (setFor? mode)).getLast?

/-- A later call for a mode decides over an earlier one. -/
theorem setLast?_cons (call : TemplateCall) (calls : List TemplateCall) (mode : Mode) :
    setLast? (call :: calls) mode = (setLast? calls mode).or (call.setFor? mode) := by
  rw [setLast?, setLast?, List.filterMap_cons]
  cases call.setFor? mode with
  | none => simp
  | some template =>
      rw [List.getLast?_cons]
      cases (calls.filterMap (setFor? mode)).getLast? with
      | none => rfl
      | some last => rfl

end TemplateCall

open TemplateCall

/-- A template store on a machine. -/
structure TemplateSession where
  machine : Machine
  store : TemplateStore

namespace TemplateSession

/-- What asking for the template of a mode comes to. -/
def get (session : TemplateSession) (mode : Mode) : Except Failure LooseText :=
  ((session.store.get mode : StateM Machine _).run session.machine).1.result.2

/-- What asking for all templates comes to. -/
def all (session : TemplateSession) : Except Failure (List (Mode × LooseText)) :=
  ((session.store.all : StateM Machine _).run session.machine).1.result.2

/-- What asking whether a template is the default comes to. -/
def isDefault (session : TemplateSession) (mode : Mode) : Except Failure Bool :=
  ((session.store.isDefault mode : StateM Machine _).run session.machine).1.result.2

/-- What a call comes to, and the session after it. -/
def call (session : TemplateSession) : TemplateCall → Except Failure Unit × TemplateSession
  | .get mode =>
    let asked := (session.store.get mode : StateM Machine _).run session.machine
    (asked.1.result.2.map fun _ => (), ⟨asked.2, asked.1.result.1⟩)
  | .set mode template =>
    let asked := (session.store.set mode template : StateM Machine _).run session.machine
    (asked.1.result.2, ⟨asked.2, asked.1.result.1⟩)
  | .reset mode =>
    let asked := (session.store.reset mode : StateM Machine _).run session.machine
    (asked.1.result.2, ⟨asked.2, asked.1.result.1⟩)

def outcome (session : TemplateSession) (call : TemplateCall) : Except Failure Unit :=
  (session.call call).1

def after (session : TemplateSession) (call : TemplateCall) : TemplateSession :=
  (session.call call).2

/-- The session after a series of calls. -/
def run (session : TemplateSession) (calls : List TemplateCall) : TemplateSession :=
  calls.foldl after session

/-- Each call of a series that changes a template saves it. -/
def Saves (session : TemplateSession) : List TemplateCall → Prop
  | [] => True
  | call :: calls =>
    (call.changes → session.outcome call = .ok ()) ∧ Saves (session.after call) calls

instance decidableSaves (session : TemplateSession) (calls : List TemplateCall) :
    Decidable (session.Saves calls) :=
  match calls with
  | [] => .isTrue trivial
  | call :: calls =>
    have := decidableSaves (session.after call) calls
    inferInstanceAs (Decidable (_ ∧ _))

variable {session : TemplateSession} {asked : TemplateCall} {templates : Templates}
  {mode other : Mode} {template : LooseText} {path : Path}

/-! ## Single calls -/

def contents (session : TemplateSession) : Except Failure Templates :=
  session.store.contents session.machine

/-- A call for a template answers from what the store holds. -/
theorem get_eq (session : TemplateSession) (mode : Mode) :
    session.get mode = session.contents.map fun templates => templates.get mode := by
  obtain ⟨notes, hget⟩ := session.store.run_get mode session.machine
  rw [get, hget]
  rfl

/-- A call for all templates agrees with the calls for each of them. -/
theorem all_eq (session : TemplateSession) :
    session.all = session.contents.map fun templates =>
      Mode.all.map fun mode => (mode, templates.get mode) := by
  obtain ⟨notes, hall⟩ := session.store.run_all session.machine
  rw [all, hall]
  rfl

theorem isDefault_eq (session : TemplateSession) (mode : Mode) :
    session.isDefault mode = session.contents.map fun templates =>
      templates.get mode == LooseText.ofString mode.defaultTemplate := by
  obtain ⟨notes, hdefault⟩ := session.store.run_isDefault mode session.machine
  rw [isDefault, hdefault]
  rfl

/-- A call that changes no template leaves the machine alone, and the store with what it has. -/
theorem call_of_no_change (hchange : asked.change? = none)
    (hcontents : session.contents = .ok templates) :
    session.call asked = (.ok (), ⟨session.machine, session.store.filled session.machine⟩) := by
  cases asked with
  | get mode =>
      obtain ⟨notes, hget⟩ := session.store.run_get mode session.machine
      have hresult : session.store.contents session.machine = .ok templates := hcontents
      rw [hresult] at hget
      rw [call, hget]
      rfl
  | set mode template => cases hchange
  | reset mode => cases hchange

/-- Every call that changes a template is a set. -/
theorem call_eq_set (session : TemplateSession) (hchange : asked.change? = some (mode, template)) :
    ∃ text, TemplateStore.effective mode text = template ∧
      session.call asked = session.call (.set mode text) := by
  cases asked with
  | get mode => cases hchange
  | set mode text =>
      cases hchange
      exact ⟨text, rfl, rfl⟩
  | reset mode =>
      cases hchange
      refine ⟨mode.defaultTemplate, ?_, rfl⟩
      rw [TemplateStore.effective]
      split
      · rfl
      · rfl

/-- A call that changes a template leaves it in the store, and ends as saving it ends. -/
theorem call_of_change (hchange : asked.change? = some (mode, template))
    (hcontents : session.contents = .ok templates) :
    ∃ result after, session.call asked =
        (result, ⟨after, { session.store with loaded := some (templates.set mode template) }⟩) ∧
      (session.store.save (templates.set mode template) : StateM Machine _).run session.machine =
        (result, after) := by
  obtain ⟨text, rfl, hcall⟩ := session.call_eq_set hchange
  obtain ⟨notes, result, after, hset, hsave⟩ := TemplateStore.run_set_of_ok hcontents mode text
  refine ⟨result, after, ?_, hsave⟩
  rw [hcall, call, hset]

theorem outcome_of_error {failure : Failure} (hchange : asked.change? = some (mode, template))
    (hcontents : session.contents = .error failure) : session.outcome asked = .error failure := by
  obtain ⟨text, rfl, hcall⟩ := session.call_eq_set hchange
  obtain ⟨notes, hset⟩ := TemplateStore.run_set_of_error hcontents mode text
  rw [outcome, hcall, call, hset]

/-- A change is kept in the store, saved or not. -/
theorem store_after (hchange : asked.change? = some (mode, template))
    (hcontents : session.contents = .ok templates) :
    (session.after asked).store =
      { session.store with loaded := some (templates.set mode template) } := by
  obtain ⟨result, last, hcall, -⟩ := call_of_change hchange hcontents
  rw [after, hcall]

/-- A change that was saved is in the file. -/
theorem machine_after (hreadable : session.machine.readingDenied = false)
    (hchange : asked.change? = some (mode, template))
    (hcontents : session.contents = .ok templates) (hsaved : session.outcome asked = .ok ()) :
    (session.after asked).machine.readingDenied = false ∧
      (session.after asked).machine.readFile session.store.path.toText =
        .ok (Config.octetsOf (templates.set mode template).toFields) := by
  obtain ⟨result, last, hcall, hsave⟩ := call_of_change hchange hcontents
  have hresult : result = .ok () := by rw [← hsaved, outcome, hcall]
  rw [hresult] at hsave
  rw [after, hcall]
  exact TemplateStore.readFile_of_save hreadable hsave

/-! ## Series of calls -/

/-- A store on a path has the templates `expected`, and so has its file if they were written. -/
structure Holds (session : TemplateSession) (path : Path) (expected : Mode → LooseText)
    (written : Prop) : Prop where
  path_eq : session.store.path = path
  readable : session.machine.readingDenied = false
  has : ∃ templates, session.contents = .ok templates ∧
    (∀ mode, templates.get mode = expected mode) ∧
    (written → session.machine.readFile path.toText = .ok (Config.octetsOf templates.toFields))

theorem Holds.after {expected : Mode → LooseText} {written : Prop}
    (hholds : session.Holds path expected written)
    (hsaved : asked.changes → session.outcome asked = .ok ()) :
    (session.after asked).Holds path (fun mode => (asked.setFor? mode).getD (expected mode))
      (written ∨ asked.changes) := by
  obtain ⟨rfl, hreadable, templates, hcontents, hexpected, hwritten⟩ := hholds
  cases hchange : asked.change? with
  | none =>
      rw [after, call_of_no_change hchange hcontents]
      refine ⟨rfl, hreadable, templates, ?_, fun mode => ?_, fun hdone => ?_⟩
      · exact (session.store.contents_filled session.machine).trans hcontents
      · rw [setFor?, hchange]
        exact hexpected mode
      · rw [changes, hchange] at hdone
        exact hwritten (hdone.resolve_right Bool.false_ne_true)
  | some change =>
      obtain ⟨mode, template⟩ := change
      have hstore := store_after hchange hcontents
      obtain ⟨hlast, hread⟩ := machine_after hreadable hchange hcontents
        (hsaved (by rw [changes, hchange]; rfl))
      refine ⟨by rw [hstore], hlast, _, by rw [contents, hstore]; rfl, fun other => ?_,
        fun _ => hread⟩
      rw [Templates.get_set, setFor?, hchange, Option.bind_some, hexpected]
      dsimp only
      split
      · rfl
      · rfl

/-- What a series of calls that save leaves in the store and in its file. -/
theorem Holds.run {expected : Mode → LooseText} {written : Prop} {calls : List TemplateCall}
    (hholds : session.Holds path expected written) (hsaves : session.Saves calls) :
    (session.run calls).Holds path (fun mode => (setLast? calls mode).getD (expected mode))
      (written ∨ calls.any changes) := by
  induction calls generalizing session expected written with
  | nil => simpa [TemplateSession.run, setLast?] using hholds
  | cons call calls ih =>
      -- The first call leaves another store to the others, with its own templates as expected ones.
      obtain ⟨hsaved, hsaves⟩ := hsaves
      have hrun := ih (hholds.after hsaved) hsaves
      have hexpected : (fun mode => (setLast? calls mode).getD
          ((call.setFor? mode).getD (expected mode))) =
          fun mode => (setLast? (call :: calls) mode).getD (expected mode) := by
        funext mode
        rw [setLast?_cons, Option.getD_or]
      rw [List.any_cons, Bool.or_eq_true, ← or_assoc, ← hexpected]
      exact hrun

/-- A store on a file that it has not been asked about yet. -/
def start (machine : Machine) (path : Path) : TemplateSession :=
  ⟨machine, { path := path }⟩

/-- The template that a mode has after a series of calls: the one that was set last, else the one
that the file had at first, else the default. -/
def templateAfter (machine : Machine) (path : Path) (calls : List TemplateCall) (mode : Mode) :
    LooseText :=
  ((setLast? calls mode).or (Templates.kept? (machine.fieldsAt path.toText) mode)).getD
    mode.defaultTemplate

/-- A fresh store holds what its file does. -/
theorem holds_start {machine : Machine} (hreadable : machine.readingDenied = false)
    (htold : machine.refusal? path.toText = none) :
    (start machine path).Holds path (templateAfter machine path []) False := by
  refine ⟨rfl, hreadable, Templates.ofFields (machine.fieldsAt path.toText), ?_, fun mode => ?_,
    False.elim⟩
  · rw [contents, start, TemplateStore.contents]
    dsimp only
    rw [htold]
  · rw [Templates.get_ofFields, Templates.readMode_eq]
    rfl

/-- Templates without joining halves stay so in a whole history. -/
theorem isWhole_templateAfter (machine : Machine) (path : Path) {calls : List TemplateCall}
    (hwhole : ∀ mode text, .set mode text ∈ calls → text.IsWhole) (mode : Mode) :
    (templateAfter machine path calls mode).IsWhole := by
  have hdefault (mode : Mode) : (LooseText.ofString mode.defaultTemplate).IsWhole :=
    LooseText.isWhole_ofChars _
  unfold templateAfter
  cases hset : setLast? calls mode with
  | some template =>
      obtain ⟨call, hcall, hfor⟩ := List.mem_filterMap.1 (List.mem_of_getLast? hset)
      obtain ⟨⟨other, text⟩, hchange, hfor⟩ := Option.bind_eq_some_iff.1 hfor
      obtain ⟨-, rfl⟩ : other = mode ∧ text = template := by simpa using hfor
      cases call with
      | get mode => cases hchange
      | set mode text =>
          cases hchange
          show LooseText.IsWhole (if text.isBlank then _ else _)
          split
          · exact hdefault _
          · exact hwhole _ _ hcall
      | reset mode =>
          cases hchange
          exact hdefault _
  | none =>
      cases hkept : Templates.kept? (machine.fieldsAt path.toText) mode with
      | some template =>
          exact Templates.isWhole_kept? (machine.isStorable_fieldsAt path.toText) hkept
      | none => exact hdefault mode

/-- Where all changes were saved, a store has for each mode the template that was set last, else
the one that its file had at first, else the default. Once there was a change, a fresh store on the
file has the same templates with their halves joined: just the same ones, if no text that was set
has halves that would join. -/
theorem templates_after_calls {machine : Machine} {calls : List TemplateCall}
    (hreadable : machine.readingDenied = false) (htold : machine.refusal? path.toText = none)
    (hsaves : (start machine path).Saves calls) :
    (∀ mode, ((start machine path).run calls).get mode =
        .ok (templateAfter machine path calls mode)) ∧
      ((start machine path).run calls).all =
        .ok (Mode.all.map fun mode => (mode, templateAfter machine path calls mode)) ∧
      (calls.any changes →
        ∀ mode, (start ((start machine path).run calls).machine path).get mode =
          .ok (templateAfter machine path calls mode).joined) ∧
      (calls.any changes → (∀ mode text, .set mode text ∈ calls → text.IsWhole) →
        ∀ mode, (start ((start machine path).run calls).machine path).get mode =
          .ok (templateAfter machine path calls mode)) := by
  obtain ⟨-, -, templates, hcontents, hexpected, hwritten⟩ :=
    (holds_start hreadable htold).run hsaves
  have hget (mode : Mode) : templates.get mode = templateAfter machine path calls mode := by
    rw [hexpected, templateAfter, templateAfter, Option.getD_or, Option.getD_or]
    rfl
  have hfresh (hchanged : calls.any changes) (mode : Mode) :
      (start ((start machine path).run calls).machine path).get mode =
        .ok (templateAfter machine path calls mode).joined := by
    have hcontents : (start ((start machine path).run calls).machine path).contents =
        .ok templates.joined := TemplateStore.contents_of_readFile (hwritten (.inr hchanged))
    rw [get_eq, hcontents, ← hget, ← Templates.get_joined]
    rfl
  refine ⟨fun mode => ?_, ?_, hfresh, fun hchanged hwhole mode => ?_⟩
  · rw [get_eq, hcontents, ← hget]
    rfl
  · rw [all_eq, hcontents, ← funext hget]
    rfl
  · rw [hfresh hchanged, (isWhole_templateAfter machine path hwhole mode).joined_eq]

/-- A machine whose file has a template for one mode, and for another one what is no text. -/
def halfKept : Machine where
  entries := [([Utf8.encode "t.json".toList],
    .file (Utf8.encode "\x7b\"optimize\": \"mine\", \"explain\": 3, \"extra\": []\x7d".toList))]

/-- A template of the file, one that was set twice, and one that a blank text restored. -/
theorem templates_after_four_calls :
    let calls : List TemplateCall := [.get .optimize, .set .explain "first", .set .empty " \n",
      .set .explain "second"]
    let session := (start halfKept (Path.ofText "t.json")).run calls
    (start halfKept (Path.ofText "t.json")).Saves calls ∧
      session.get .optimize = .ok "mine" ∧ session.get .explain = .ok "second" ∧
      session.get .empty = .ok "" ∧
      (start session.machine (Path.ofText "t.json")).get .explain = .ok "second" := by
  intro calls session
  have hsaves : (start halfKept (Path.ofText "t.json")).Saves calls := by decide +kernel
  obtain ⟨hget, -, -, hfresh⟩ := templates_after_calls rfl (by decide +kernel) hsaves
  have hwhole : ∀ mode text, TemplateCall.set mode text ∈ calls → text.IsWhole := by
    simp only [calls, List.mem_cons, List.not_mem_nil, TemplateCall.set.injEq, reduceCtorEq,
      or_false, false_or]
    rintro _ _ (⟨rfl, rfl⟩ | ⟨rfl, rfl⟩ | ⟨rfl, rfl⟩) <;> exact LooseText.isWhole_ofChars _
  exact ⟨hsaves, (hget .optimize).trans (by decide +kernel),
    (hget .explain).trans (by decide +kernel), (hget .empty).trans (by decide +kernel),
    (hfresh rfl hwhole .explain).trans (by decide +kernel)⟩

/-- A template of two halves is another one for a fresh store. -/
theorem halves_joined_in_file :
    let calls : List TemplateCall := [.set .empty [.half 0x3D, .half 0x600]]
    let session := (start halfKept (Path.ofText "t.json")).run calls
    (start halfKept (Path.ofText "t.json")).Saves calls ∧
      session.get .empty = .ok [.half 0x3D, .half 0x600] ∧
      (start session.machine (Path.ofText "t.json")).get .empty = .ok [.char (.ofNat 0x1F600)] ∧
      (start session.machine (Path.ofText "t.json")).get .empty ≠ session.get .empty := by
  decide +kernel

/-! ## Changes that were not saved -/

theorem contents_of_reported {problem : Problem} (hchange : asked.change? = some (mode, template))
    (hfailed : session.outcome asked = .error (.reported problem)) :
    ∃ templates, session.contents = .ok templates := by
  cases hcontents : session.contents with
  | ok templates => exact ⟨templates, rfl⟩
  | error failure =>
      obtain rfl : failure = .reported problem := by
        rw [outcome_of_error hchange hcontents] at hfailed
        exact Except.error.inj hfailed
      rw [contents, TemplateStore.contents] at hcontents
      split at hcontents
      · cases hcontents
      · split at hcontents
        · cases hcontents
        · cases hcontents

/-- A change that could not be saved stays in the store, and a later change of another mode that can
be saved writes it to the file. So the store has the templates that it had before just where the
failed change was none. -/
theorem unsaved_template_kept {problem : Problem} (hchange : asked.change? = some (mode, template))
    (hfailed : session.outcome asked = .error (.reported problem)) :
    (∀ other, (session.after asked).get other =
        if mode = other then .ok template else session.get other) ∧
      (∀ other, (session.after asked).isDefault other =
        if mode = other then .ok (template == LooseText.ofString mode.defaultTemplate)
        else session.isDefault other) ∧
      ((session.after asked).all = session.all ↔ session.get mode = .ok template) ∧
      ∀ machine next other text, machine.readingDenied = false →
        next.change? = some (other, text) → mode ≠ other →
        (⟨machine, (session.after asked).store⟩ : TemplateSession).outcome next = .ok () →
        ∃ written : Templates, written.get mode = template ∧
          ((⟨machine, (session.after asked).store⟩ : TemplateSession).after next).machine.readFile
            session.store.path.toText = .ok (Config.octetsOf written.toFields) := by
  obtain ⟨templates, hcontents⟩ := contents_of_reported hchange hfailed
  have hstore := store_after hchange hcontents
  have hafter : (session.after asked).contents = .ok (templates.set mode template) := by
    rw [contents, hstore]
    rfl
  refine ⟨fun other => ?_, fun other => ?_, ?_, ?_⟩
  · rw [get_eq, get_eq, hafter, hcontents]
    simp only [Except.map, Templates.get_set]
    split
    · rfl
    · rfl
  · rw [isDefault_eq, isDefault_eq, hafter, hcontents]
    simp only [Except.map, Templates.get_set]
    split
    · next heq => rw [heq]
    · rfl
  · rw [all_eq, all_eq, get_eq, hafter, hcontents]
    simp only [Except.map, Except.ok.injEq, List.map_inj_left, Prod.mk.injEq, true_and,
      Templates.get_set]
    refine ⟨fun hsame => ?_, fun hsame other _ => ?_⟩
    · rw [← hsame mode (Mode.mem_all mode), if_pos rfl]
    · split
      · next heq => rw [← heq, hsame]
      · rfl
  · intro machine next other text hreadable hnext hother hsaved
    rw [hstore] at hsaved ⊢
    obtain ⟨-, hread⟩ := machine_after hreadable hnext rfl hsaved
    refine ⟨_, ?_, hread⟩
    rw [Templates.get_set, if_neg hother.symm, Templates.get_set, if_pos rfl]

/-- A store on a file in a directory that cannot be made, since there is a file in its place. -/
def blocked : TemplateSession :=
  start { entries := [([Utf8.encode "blocker".toList], .file [])] } (Path.ofText "blocker/t.json")

theorem blocked_set :
    blocked.outcome (.set .empty "x") = .error (.reported
      (.unsavedTemplates "blocker/t.json" .alreadyThere "blocker")) := by
  decide +kernel

/-- Once there is nothing in the way, a change of one mode writes the other one, which failed. -/
theorem blocked_template_written :
    let kept : TemplateSession := ⟨{}, (blocked.after (.set .empty "x")).store⟩
    (blocked.after (.set .empty "x")).get .empty = .ok "x" ∧
      ∃ written : Templates, written.get .empty = "x" ∧
        (kept.after (.set .explain "y")).machine.readFile "blocker/t.json" =
          .ok (Config.octetsOf written.toFields) := by
  have hpath : blocked.store.path.toText = "blocker/t.json" := by decide +kernel
  have hchange : (TemplateCall.set .empty "x").change? =
      some (Mode.empty, LooseText.ofString "x") := by
    decide +kernel
  obtain ⟨hget, -, -, hlater⟩ := unsaved_template_kept hchange blocked_set
  rw [hpath] at hlater
  refine ⟨hget .empty, ?_⟩
  exact hlater {} (.set .explain "y") .explain "y" rfl (by decide +kernel) (by decide)
    (by decide +kernel)

/-- The templates before and after a change that failed. -/
theorem blocked_template_changed :
    blocked.get .empty = .ok "" ∧
      blocked.outcome (.set .empty "x") = .error (.reported
        (.unsavedTemplates "blocker/t.json" .alreadyThere "blocker")) ∧
      (blocked.after (.set .empty "x")).get .empty = .ok "x" ∧
      (blocked.after (.set .empty "x")).isDefault .empty = .ok false :=
  ⟨by decide +kernel, blocked_set, by decide +kernel, by decide +kernel⟩

end TemplateSession

end FrameLens
