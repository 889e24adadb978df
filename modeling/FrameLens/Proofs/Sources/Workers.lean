import FrameLens.Proofs.Sources.Requests
import Mathlib.Logic.Relation

/-!
# Workers that share the view cache

A pool of workers extracts frames from one cache.  Whatever a worker does comes in
steps that nothing interrupts, and between two of them any other worker may take as
many of its own.  However the steps fall, the frames come to what they come to one by
one.
-/

namespace FrameLens.Workers

/-- How far a frame has come. -/
inductive Stage where
  /-- No worker has it yet. -/
  | queued
  | taken
  /-- There is a file at the path. -/
  | checked (path : LooseText) (line : Int)
  /-- The cache has no view of the file. -/
  | missed (path : LooseText) (line : Int)
  /-- The worker has a view of its own. -/
  | built (path : LooseText) (line : Int) (view : View)
  /-- The worker has the view that it goes on with. -/
  | viewing (path : LooseText) (line : Int) (view : View)
  | finished (answer : Except Failure Outcome)

/-- Whether a worker is at it. -/
def Stage.isRunning : Stage → Bool
  | queued => false
  | finished _ => false
  | _ => true

variable (files : Snapshot)

/-- One step of a worker for a request: the path is moved to this machine and looked at,
the cache is asked, the file is read, the view is left in the cache unless another one is
there, or the function is extracted. -/
def advance (request : Request) : ViewCache × Stage → ViewCache × Stage
  | (cache, .taken) =>
    match request.place? with
    | none => (cache, .finished (.ok .noLocation))
    | some (path, line) =>
      if files.hasFile path then (cache, .checked path line)
      else (cache, .finished (.ok (.fileMissing path)))
  | (cache, .checked path line) =>
    match cache.get? (files.key path) with
    | some view => (cache, .viewing path line view)
    | none => (cache, .missed path line)
  | (cache, .missed path line) =>
    match files.view path with
    | .ok view => (cache, .built path line view)
    | .error fault => (cache, .finished (request.shown path line (.error fault)))
  | (cache, .built path line view) =>
    let (cache, kept) := cache.adopt (files.key path) view
    (cache, .viewing path line kept)
  | (cache, .viewing path line view) =>
    (cache, .finished (request.shown path line (.ok view)))
  | (cache, stage) => (cache, stage)

/-- The frames in their order, each with its stage, and the cache of all workers. -/
structure Pool where
  cache : ViewCache
  tasks : List (Frame × Stage)

def start (cache : ViewCache) (frames : List Frame) : Pool :=
  ⟨cache, frames.map fun frame => (frame, .queued)⟩

/-- The number of workers for a number of jobs and frames.  With one of either the frames
are extracted one by one, as a single worker does. -/
def workerCount (jobs : Int) (frames : Nat) : Nat :=
  if jobs ≤ 1 ∨ frames ≤ 1 then 1 else (min jobs frames).toNat

variable (settings : Settings) (jobs : Int)

/-- A worker that is free takes the first frame that none has taken, or a worker goes on
with its frame. -/
inductive Step : Pool → Pool → Prop where
  | take {cache : ViewCache} {begun waiting : List (Frame × Stage)} {frame : Frame} :
      (∀ task ∈ begun, task.2 ≠ .queued) →
      begun.countP (·.2.isRunning) <
        workerCount jobs (begun ++ (frame, .queued) :: waiting).length →
      Step ⟨cache, begun ++ (frame, .queued) :: waiting⟩
        ⟨cache, begun ++ (frame, .taken) :: waiting⟩
  | work {cache kept : ViewCache} {before later : List (Frame × Stage)} {frame : Frame}
      {stage next : Stage} :
      stage.isRunning = true →
      advance files (.ofFrame settings frame) (cache, stage) = (kept, next) →
      Step ⟨cache, before ++ (frame, stage) :: later⟩
        ⟨kept, before ++ (frame, next) :: later⟩

/-- What a pool returns when all its frames are finished: them with their outcomes, or the
failure of the first one that failed. -/
def gather : List (Frame × Stage) → Option (Except Failure FrameSource.Collected)
  | [] => some (.ok [])
  | (frame, .finished answer) :: tasks =>
    (gather tasks).map fun others => do
      let outcome ← answer
      let entries ← others
      return (frame, outcome) :: entries
  | _ => none

variable {files settings} {jobs : Int}

/-! ## A worker that is left alone -/

/-- Without others between its steps a worker does what the extraction of the frame
does. -/
theorem advance_alone (files : Snapshot) (request : Request) (cache : ViewCache) :
    (advance files request)^[5] (cache, .taken) =
      (((request.run cache : ReaderM Snapshot _).run files).1,
        .finished ((request.run cache : ReaderM Snapshot _).run files).2.result) := by
  cases hplace : request.place? with
  | none =>
      rw [Request.run_of_no_place hplace]
      simp [advance, hplace]
  | some place =>
      obtain ⟨path, line⟩ := place
      cases hfile : files.hasFile path with
      | false =>
          rw [Request.run_of_no_file hplace hfile]
          simp [advance, hplace, hfile]
      | true =>
          obtain ⟨hcache, hanswer⟩ := Request.run_of_file cache hplace hfile
          rw [hcache, hanswer]
          cases hheld : cache.get? (files.key path) with
          | some view =>
              rw [ViewCache.getOrBuild_of_held hheld]
              simp [advance, hplace, hfile, hheld]
          | none =>
              rw [ViewCache.getOrBuild_of_not_held hheld]
              cases hview : files.view path with
              | error fault => simp [advance, hplace, hfile, hheld, hview]
              | ok view =>
                  simp [advance, hplace, hfile, hheld, hview, ViewCache.adopt_of_not_held]

/-! ## What a step keeps

The paths that the frames are read by are `known`.  Whatever the cache holds under the
key of one of them is the view that reading that path gives, and so is whatever a worker
has in hand.
-/

variable {known : List LooseText} {cache : ViewCache} {request : Request} {stage : Stage}

def KeysApart (files : Snapshot) (known : List LooseText) : Prop :=
  ∀ path ∈ known, ∀ other ∈ known, files.key path = files.key other → path = other

def Faithful (files : Snapshot) (known : List LooseText) (cache : ViewCache) : Prop :=
  ∀ path ∈ known, ∀ view, cache.get? (files.key path) = some view → files.view path = .ok view

/-- The request is for a line of the file at the path. -/
structure LeadsTo (files : Snapshot) (request : Request) (path : LooseText) (line : Int) :
    Prop where
  place : request.place? = some (path, line)
  file : files.hasFile path = true

/-- The stage tells the truth about the files. -/
def Stage.Right (files : Snapshot) (request : Request) : Stage → Prop
  | queued => True
  | taken => True
  | checked path line => LeadsTo files request path line
  | missed path line => LeadsTo files request path line
  | built path line view => LeadsTo files request path line ∧ files.view path = .ok view
  | viewing path line view => LeadsTo files request path line ∧ files.view path = .ok view
  | finished answer => answer = request.answerWith files files.view

/-- Where a request leads to a file, the view of the file decides its answer. -/
theorem LeadsTo.answer {path : LooseText} {line : Int}
    (hleads : LeadsTo files request path line) :
    request.shown path line (files.view path) = request.answerWith files files.view := by
  rw [Request.answerWith, hleads.place]
  dsimp only
  rw [if_pos hleads.file]

/-- A cache of what is on the machine stays one with the view of a known path. -/
theorem Faithful.adopt (hfaithful : Faithful files known cache)
    (hapart : KeysApart files known) {path : LooseText} {view : View} (hpath : path ∈ known)
    (hview : files.view path = .ok view) :
    Faithful files known (cache.adopt (files.key path) view).1 ∧
      files.view path = .ok (cache.adopt (files.key path) view).2 := by
  cases hheld : cache.get? (files.key path) with
  | some first =>
      rw [ViewCache.adopt_of_held hheld]
      exact ⟨hfaithful, hfaithful path hpath first hheld⟩
  | none =>
      rw [ViewCache.adopt_of_not_held hheld]
      -- Under another key nothing is new, and the path itself is the only one with its key.
      refine ⟨fun other hother third hget => ?_, hview⟩
      rw [ViewCache.get?_cons] at hget
      by_cases hkey : files.key other = files.key path
      · rw [if_pos hkey] at hget
        cases hget
        rwa [hapart other hother path hpath hkey]
      · rw [if_neg hkey] at hget
        exact hfaithful other hother third hget

/-- One step of a task keeps the cache faithful and its own stage right. -/
theorem advance_keeps (request : Request) (hapart : KeysApart files known)
    (hknown : ∀ path line, request.place? = some (path, line) → path ∈ known)
    (hfaithful : Faithful files known cache) (hright : stage.Right files request) :
    Faithful files known (advance files request (cache, stage)).1 ∧
      (advance files request (cache, stage)).2.Right files request := by
  cases stage with
  | queued => exact ⟨hfaithful, trivial⟩
  | taken =>
      rw [advance]
      cases hplace : request.place? with
      | none => exact ⟨hfaithful, by simp [Stage.Right, Request.answerWith, hplace]⟩
      | some place =>
          obtain ⟨path, line⟩ := place
          dsimp only
          split
          · exact ⟨hfaithful, ⟨hplace, ‹_›⟩⟩
          · rename_i hfile
            exact ⟨hfaithful, by simp [Stage.Right, Request.answerWith, hplace, hfile]⟩
  | checked path line =>
      rw [advance]
      split
      · rename_i view hheld
        exact ⟨hfaithful, hright, hfaithful path (hknown path line hright.place) view hheld⟩
      · exact ⟨hfaithful, hright⟩
  | missed path line =>
      rw [advance]
      split
      · exact ⟨hfaithful, hright, ‹_›⟩
      · rename_i fault hview
        refine ⟨hfaithful, ?_⟩
        rw [Stage.Right, ← hview, hright.answer]
  | built path line view =>
      obtain ⟨hkept, hview⟩ := hfaithful.adopt hapart (hknown path line hright.1.place) hright.2
      exact ⟨hkept, hright.1, hview⟩
  | viewing path line view =>
      refine ⟨hfaithful, ?_⟩
      rw [advance, Stage.Right, ← hright.2, hright.1.answer]
  | finished answer => exact ⟨hfaithful, hright⟩

/-- Any number of steps keeps them. -/
theorem iterate_advance_keeps (hapart : KeysApart files known)
    (hknown : ∀ path line, request.place? = some (path, line) → path ∈ known)
    (hfaithful : Faithful files known cache) (hright : stage.Right files request) (steps : Nat) :
    Faithful files known ((advance files request)^[steps] (cache, stage)).1 ∧
      ((advance files request)^[steps] (cache, stage)).2.Right files request := by
  induction steps generalizing cache stage with
  | zero => exact ⟨hfaithful, hright⟩
  | succ steps ih =>
      obtain ⟨hkept, hnext⟩ := advance_keeps request hapart hknown hfaithful hright
      exact ih hkept hnext

/-- The extraction of a frame is a worker that is left alone. -/
theorem Faithful.run (request : Request) (hapart : KeysApart files known)
    (hknown : ∀ path line, request.place? = some (path, line) → path ∈ known)
    (hfaithful : Faithful files known cache) :
    Faithful files known ((request.run cache : ReaderM Snapshot _).run files).1 ∧
      ((request.run cache : ReaderM Snapshot _).run files).2.result =
        request.answerWith files files.view := by
  have htaken : Stage.taken.Right files request := trivial
  have halone := iterate_advance_keeps hapart hknown hfaithful htaken 5
  rw [advance_alone] at halone
  exact halone

/-! ## Frames one by one -/

/-- The paths that frames are read by. -/
def paths (settings : Settings) (frames : List Frame) : List LooseText :=
  frames.filterMap fun frame => (Request.ofFrame settings frame).place?.map Prod.fst

/-- Frames with what each of them comes to by itself. -/
def answers (files : Snapshot) (settings : Settings) (frames : List Frame) :
    Except Failure FrameSource.Collected :=
  frames.mapM fun frame => do
    let outcome ← (Request.ofFrame settings frame).answerWith files files.view
    return (frame, outcome)

theorem mem_paths {frames : List Frame} {frame : Frame} (hframe : frame ∈ frames)
    {path : LooseText} {line : Int}
    (hplace : (Request.ofFrame settings frame).place? = some (path, line)) :
    path ∈ paths settings frames :=
  List.mem_filterMap.2 ⟨frame, hframe, by rw [hplace]; rfl⟩

theorem paths_cons_subset {frame : Frame} {frames : List Frame} :
    paths settings frames ⊆ paths settings (frame :: frames) :=
  ((List.sublist_cons_self frame frames).filterMap _).subset

theorem answers_cons (frame : Frame) (frames : List Frame) :
    answers files settings (frame :: frames) =
      (do
        let outcome ← (Request.ofFrame settings frame).answerWith files files.view
        let entries ← answers files settings frames
        return (frame, outcome) :: entries) := by
  rw [answers, List.mapM_cons, bind_assoc]
  refine bind_congr fun outcome => ?_
  rw [pure_bind]
  rfl

/-- Each frame has an answer. -/
theorem exists_answers (files : Snapshot) (settings : Settings) (frames : List Frame) :
    ∃ collected, answers files settings frames = .ok collected ∧
      collected.map Prod.fst = frames := by
  induction frames with
  | nil => exact ⟨[], rfl, rfl⟩
  | cons frame frames ih =>
      obtain ⟨outcome, houtcome⟩ :=
        Request.exists_answer files (Request.ofFrame settings frame)
      obtain ⟨entries, hentries, hframes⟩ := ih
      refine ⟨(frame, outcome) :: entries, ?_, by rw [List.map_cons, hframes]⟩
      rw [answers_cons, houtcome, hentries]
      rfl

theorem ofFrame_eq (cache : ViewCache) (frame : Frame) :
    (FrameSource.ofFrame cache settings frame : ReaderM Snapshot _) =
      (Request.ofFrame settings frame).run cache :=
  rfl

/-- Frames that are taken in turn have the answers that each of them has alone. -/
theorem result_ofFrames (hapart : KeysApart files known) {frames : List Frame}
    (hknown : paths settings frames ⊆ known) (hfaithful : Faithful files known cache) :
    ((FrameSource.ofFrames cache settings frames : ReaderM Snapshot _).run files).2.result =
      answers files settings frames := by
  induction frames generalizing cache with
  | nil => rfl
  | cons frame frames ih =>
      obtain ⟨hkept, hanswer⟩ := hfaithful.run (.ofFrame settings frame) hapart
        fun path line hplace => hknown (mem_paths List.mem_cons_self hplace)
      have hothers := ih (fun path hpath => hknown (paths_cons_subset hpath)) hkept
      rw [FrameSource.ofFrames, ReaderT.run_bind, ofFrame_eq]
      generalize ((Request.ofFrame settings frame).run cache : ReaderM Snapshot _).run files =
        first at *
      obtain ⟨kept, notes, read⟩ := first
      rw [answers_cons, ← hanswer]
      cases read with
      | error failure => rfl
      | ok outcome =>
          change Except.map (fun collected => (frame, outcome) :: collected)
            ((FrameSource.ofFrames kept settings frames : ReaderM Snapshot _).run
              files).2.result = _
          rw [hothers]
          rfl

/-- One by one the frames come to what each of them comes to by itself. -/
theorem result_collect (hapart : KeysApart files known) {frames : List Frame}
    {limit : Option Int}
    (hknown : paths settings (FrameSource.selected settings limit frames) ⊆ known)
    (hfaithful : Faithful files known cache) :
    ((FrameSource.collect cache settings limit frames : ReaderM Snapshot _).run files).2.result =
      answers files settings (FrameSource.selected settings limit frames) := by
  rw [FrameSource.collect]
  generalize FrameSource.selected settings limit frames = frames at *
  have hframes := result_ofFrames hapart hknown hfaithful
  cases frames with
  | nil => rfl
  | cons frame frames =>
      dsimp only
      rw [if_neg (by simp), ReaderT.run_bind, ← hframes]
      generalize (FrameSource.ofFrames _ _ _ : ReaderM Snapshot _).run files = collected
      obtain ⟨kept, notes, read⟩ := collected
      cases read with
      | error failure => rfl
      | ok entries => rfl

/-! ## Pools

Every step is closer to the end, and until all frames are finished there is a next one.
-/

/-- The waiting tasks are taken from the front. -/
theorem exists_first_queued {tasks : List (Frame × Stage)}
    (hqueued : ∃ task ∈ tasks, task.2 = .queued) :
    ∃ begun frame waiting, tasks = begun ++ (frame, .queued) :: waiting ∧
      ∀ task ∈ begun, task.2 ≠ .queued := by
  induction tasks with
  | nil => simp at hqueued
  | cons task tasks ih =>
      by_cases hfirst : task.2 = .queued
      · exact ⟨[], task.1, tasks, by rw [← hfirst]; rfl, by simp⟩
      · obtain ⟨begun, frame, waiting, rfl, hbegun⟩ := ih (by simpa [hfirst] using hqueued)
        exact ⟨task :: begun, frame, waiting, rfl, List.forall_mem_cons.2 ⟨hfirst, hbegun⟩⟩

theorem workerCount_pos (jobs : Int) (frames : Nat) : 0 < workerCount jobs frames := by
  rw [workerCount]
  split <;> omega

/-- While a frame is not finished there is a step. -/
theorem exists_step {pool : Pool}
    (hopen : ∃ task ∈ pool.tasks, ∀ answer, task.2 ≠ .finished answer) :
    ∃ next, Step files settings jobs pool next := by
  obtain ⟨cache, tasks⟩ := pool
  by_cases hrunning : ∃ task ∈ tasks, task.2.isRunning = true
  · obtain ⟨⟨frame, stage⟩, htask, hstage⟩ := hrunning
    obtain ⟨before, later, rfl⟩ := List.append_of_mem htask
    exact ⟨_, .work hstage rfl⟩
  · -- Nobody is at work, so there is a worker for the first frame that waits.
    have hidle : ∀ task ∈ tasks, ¬ task.2.isRunning = true := by simpa using hrunning
    have hqueued : ∃ task ∈ tasks, task.2 = .queued := by
      obtain ⟨task, htask, hstage⟩ := hopen
      refine ⟨task, htask, ?_⟩
      have hidle := hidle task htask
      cases hcase : task.2 <;> simp_all [Stage.isRunning]
    obtain ⟨begun, frame, waiting, rfl, hbegun⟩ := exists_first_queued hqueued
    refine ⟨_, .take hbegun ?_⟩
    rw [List.countP_eq_zero.2 fun task htask => hidle task (List.mem_append_left _ htask)]
    exact workerCount_pos _ _

/-- The number of steps that a frame has before it at most. -/
def Stage.rest : Stage → Nat
  | queued => 6
  | taken => 5
  | checked .. => 4
  | missed .. => 3
  | built .. => 2
  | viewing .. => 1
  | finished _ => 0

def rest : List (Frame × Stage) → Nat
  | [] => 0
  | task :: tasks => task.2.rest + rest tasks

theorem rest_append (tasks others : List (Frame × Stage)) :
    rest (tasks ++ others) = rest tasks + rest others := by
  induction tasks with
  | nil => rw [List.nil_append, rest, Nat.zero_add]
  | cons task tasks ih => rw [List.cons_append, rest, rest, ih, Nat.add_assoc]

/-- A step of a task that runs leaves less to do. -/
theorem rest_advance (files : Snapshot) (request : Request) (cache : ViewCache)
    (hrunning : stage.isRunning = true) :
    (advance files request (cache, stage)).2.rest < stage.rest := by
  cases stage with
  | queued => cases hrunning
  | finished answer => cases hrunning
  | taken =>
      rw [advance]
      split
      · simp [Stage.rest]
      · split <;> simp [Stage.rest]
  | checked path line =>
      rw [advance]
      split <;> simp [Stage.rest]
  | missed path line =>
      rw [advance]
      split <;> simp [Stage.rest]
  | built path line view => simp [advance, Stage.rest]
  | viewing path line view => simp [advance, Stage.rest]

/-- Every step of the pool leaves less to do. -/
theorem Step.rest_lt {pool next : Pool} (hstep : Step files settings jobs pool next) :
    rest next.tasks < rest pool.tasks := by
  cases hstep with
  | take => simp [rest_append, rest, Stage.rest]
  | @work cache _ _ _ frame stage _ hrunning hadvance =>
      have hrest := rest_advance files (.ofFrame settings frame) cache hrunning
      rw [hadvance] at hrest
      simpa [rest_append, rest] using hrest

/-- However the steps fall, they come to an end. -/
theorem wellFounded_step :
    WellFounded fun next pool => Step files settings jobs pool next :=
  Subrelation.wf Step.rest_lt (measure fun pool : Pool => rest pool.tasks).wf

/-! ## What every pool on the way has -/

/-- The pool extracts the frames, and neither the cache nor a worker is wrong about
them. -/
structure Pool.Sound (files : Snapshot) (settings : Settings) (frames : List Frame)
    (pool : Pool) : Prop where
  frames_eq : pool.tasks.map Prod.fst = frames
  faithful : Faithful files (paths settings frames) pool.cache
  right : ∀ task ∈ pool.tasks, task.2.Right files (.ofFrame settings task.1)

variable {frames : List Frame}

theorem sound_start (hfaithful : Faithful files (paths settings frames) cache) :
    (start cache frames).Sound files settings frames where
  frames_eq := by simp [start, Function.comp_def]
  faithful := hfaithful
  right := by simp [start, Stage.Right]

/-- One step of the pool keeps it sound. -/
theorem Pool.Sound.step (hapart : KeysApart files (paths settings frames)) {pool next : Pool}
    (hsound : pool.Sound files settings frames)
    (hstep : Step files settings jobs pool next) : next.Sound files settings frames := by
  obtain ⟨hframes, hfaithful, hright⟩ := hsound
  cases hstep with
  | @take cache begun waiting frame hbegun hfree =>
      rw [List.forall_mem_append, List.forall_mem_cons] at hright
      refine ⟨by simpa using hframes, hfaithful, ?_⟩
      rw [List.forall_mem_append, List.forall_mem_cons]
      exact ⟨hright.1, trivial, hright.2.2⟩
  | @work cache kept before later frame stage next hrunning hadvance =>
      rw [List.forall_mem_append, List.forall_mem_cons] at hright
      obtain ⟨hbefore, hstage, hlater⟩ := hright
      have hframe : frame ∈ frames := by simp [← hframes]
      obtain ⟨hkept, hnext⟩ := advance_keeps (.ofFrame settings frame) hapart
        (fun path line hplace => mem_paths hframe hplace) hfaithful hstage
      rw [hadvance] at hkept hnext
      refine ⟨by simpa using hframes, hkept, ?_⟩
      rw [List.forall_mem_append, List.forall_mem_cons]
      exact ⟨hbefore, hnext, hlater⟩

/-- Any schedule keeps the pool sound. -/
theorem Pool.Sound.of_steps (hapart : KeysApart files (paths settings frames)) {pool last : Pool}
    (hsound : pool.Sound files settings frames)
    (hsteps : Relation.ReflTransGen (Step files settings jobs) pool last) :
    last.Sound files settings frames := by
  induction hsteps with
  | refl => exact hsound
  | tail _ hstep ih => exact ih.step hapart hstep

/-- The answers of finished tasks are gathered in the order of the frames. -/
theorem gather_of_finished {tasks : List (Frame × Stage)}
    (hfinished : ∀ task ∈ tasks, ∃ answer, task.2 = .finished answer)
    (hright : ∀ task ∈ tasks, task.2.Right files (.ofFrame settings task.1)) :
    gather tasks = some (answers files settings (tasks.map Prod.fst)) := by
  induction tasks with
  | nil => rfl
  | cons task tasks ih =>
      rw [List.forall_mem_cons] at hfinished hright
      obtain ⟨frame, stage⟩ := task
      obtain ⟨⟨answer, rfl⟩, hothers⟩ := hfinished
      obtain ⟨hanswer, hright⟩ := hright
      rw [gather, ih hothers hright, List.map_cons, answers_cons, ← hanswer]
      rfl

/-- A pool on its way goes on, or returns what the frames come to by themselves. -/
theorem Pool.Sound.exists_step_or_gather {pool : Pool}
    (hsound : pool.Sound files settings frames) :
    (∃ next, Step files settings jobs pool next) ∨
      gather pool.tasks = some (answers files settings frames) := by
  by_cases hopen : ∃ task ∈ pool.tasks, ∀ answer, task.2 ≠ .finished answer
  · exact .inl (exists_step hopen)
  · push Not at hopen
    rw [gather_of_finished hopen hsound.right, hsound.frames_eq]
    exact .inr rfl

theorem faithful_of_stored
    (hstored : ∀ key view, cache.get? key = some view → files.view view.path = .ok view)
    (hnamed : ∀ path ∈ known, ∀ view, cache.get? (files.key path) = some view →
      view.path = path) :
    Faithful files known cache := by
  intro path hpath view hheld
  have hview := hstored _ view hheld
  rwa [hnamed path hpath view hheld] at hview

/-- The frames from the top of the stack as many as there are of those asked for. -/
theorem selected_eq (settings : Settings) (limit : Option Int) (frames : List Frame) :
    FrameSource.selected settings limit frames =
      frames.take (min (max 0 (limit.getD settings.framesToAnnotate)) frames.length).toNat := by
  rw [FrameSource.selected, List.take_eq_take_iff]
  omega

/-- Let no file change, let the cache hold views of the files as they are, and let no two
paths of the frames, and no path of the frames and of a view that is held, share a key
unless they are one path.  Then the frames from the top of the stack come one by one to a
list, in their order, and however any number of workers take turns they come to an end,
with the same list. -/
theorem every_schedule_collects (files : Snapshot) (settings : Settings) (limit : Option Int)
    (jobs : Int) (frames : List Frame) (cache : ViewCache)
    (hstored : ∀ key view, cache.get? key = some view → files.view view.path = .ok view)
    (hapart : KeysApart files (paths settings (FrameSource.selected settings limit frames)))
    (hnamed : ∀ path ∈ paths settings (FrameSource.selected settings limit frames), ∀ view,
      cache.get? (files.key path) = some view → view.path = path) :
    ∃ collected,
      ((FrameSource.collect cache settings limit frames : ReaderM Snapshot _).run
          files).2.result = .ok collected ∧
      collected.map Prod.fst =
        frames.take (min (max 0 (limit.getD settings.framesToAnnotate)) frames.length).toNat ∧
      (WellFounded fun next pool => Step files settings jobs pool next) ∧
      ∀ pool, Relation.ReflTransGen (Step files settings jobs)
          (start cache (FrameSource.selected settings limit frames)) pool →
        (∃ next, Step files settings jobs pool next) ∨
          gather pool.tasks = some (.ok collected) := by
  have hfaithful := faithful_of_stored hstored hnamed
  obtain ⟨collected, hcollected, hframes⟩ :=
    exists_answers files settings (FrameSource.selected settings limit frames)
  refine ⟨collected, ?_, ?_, wellFounded_step, fun pool hsteps => ?_⟩
  · rw [result_collect hapart (List.Subset.refl _) hfaithful, hcollected]
  · rw [hframes, selected_eq]
  · rw [← hcollected]
    exact ((sound_start hfaithful).of_steps hapart hsteps).exists_step_or_gather

def functionB : Octets :=
  Utf8.encode "f() { b }".toList

/-- Two files that each define a function. -/
def twoFiles : Snapshot :=
  Machine.snapshot { entries := [([[0x61]], .file (Utf8.encode "f() { a }".toList)),
    ([[0x62]], .file functionB)] }

def frameAt (path : String) : Frame where
  index := 0
  moduleName := ""
  symbol := "f"
  sourcePath := some path
  sourceLine := some 1

/-- One file is asked for twice, and of the other one there is a view already. -/
def threeFrames : List Frame :=
  [frameAt "/a", frameAt "/b", frameAt "/a"]

def heldView : ViewCache :=
  ⟨[(twoFiles.key "/b", View.ofFile "/b" (decodeSource functionB))]⟩

theorem every_schedule_of_two_workers :
    ∃ collected,
      ((FrameSource.collect heldView {} none threeFrames : ReaderM Snapshot _).run
          twoFiles).2.result = .ok collected ∧
      collected.map Prod.fst = threeFrames ∧
      ∀ pool, Relation.ReflTransGen (Step twoFiles {} 2) (start heldView threeFrames) pool →
        (∃ next, Step twoFiles {} 2 pool next) ∨ gather pool.tasks = some (.ok collected) := by
  have hread : twoFiles.readFile "/b" = .ok functionB := by decide +kernel
  have hstored : ∀ key view, heldView.get? key = some view →
      twoFiles.view view.path = .ok view := by
    intro key view hheld
    rw [heldView, ViewCache.get?_cons] at hheld
    split at hheld
    · cases hheld
      change twoFiles.view "/b" = _
      rw [Snapshot.view_eq, hread]
      rfl
    · cases hheld
  have hapart : KeysApart twoFiles (paths {} threeFrames) := by
    unfold KeysApart
    decide +kernel
  have hkey : ∀ path ∈ paths {} threeFrames,
      twoFiles.key path = twoFiles.key "/b" → path = "/b" := by
    decide +kernel
  have hnamed : ∀ path ∈ paths {} threeFrames, ∀ view,
      heldView.get? (twoFiles.key path) = some view → view.path = path := by
    intro path hpath view hheld
    rw [heldView, ViewCache.get?_cons] at hheld
    split at hheld
    · cases hheld
      exact (hkey path hpath ‹_›).symm
    · cases hheld
  obtain ⟨collected, hcollected, hframes, -, hschedules⟩ :=
    every_schedule_collects twoFiles {} none 2 threeFrames heldView hstored hapart hnamed
  exact ⟨collected, hcollected, hframes, hschedules⟩

end FrameLens.Workers
