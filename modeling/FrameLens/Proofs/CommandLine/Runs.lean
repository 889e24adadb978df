import FrameLens.CommandLine.Run
import FrameLens.Proofs.CommandLine.Reading
import FrameLens.Proofs.Json.Ascii
import FrameLens.Proofs.Text.Halves

/-!
# Runs on a machine

A run takes what it has done so far and a machine, and gives both back.  Printing adds to the output
and looks at nothing else, and fails just on a text that the stream does not take.
-/

namespace FrameLens

/-! ## Streams -/

namespace Stream

/-- A stream takes all texts of printable ASCII and line feeds, whatever else it takes. -/
def TakesAscii (stream : Stream) : Prop :=
  ∀ chars, Json.IsAscii chars → stream.Takes (LooseText.ofChars chars)

/-- UTF-8 can hold any text but one that holds a half. -/
theorem takes_utf8_iff {text : LooseText} : utf8.Takes text ↔ ¬ text.HoldsHalf := by
  rw [Takes, utf8]
  dsimp only
  rw [← LooseText.holdsHalf_withoutControls]
  obtain ⟨hnone, chars, hplain⟩ | ⟨hsome, halves, hplain⟩ :=
    LooseText.plain_cases text.withoutControls
  · rw [hplain]
    exact iff_of_true rfl hnone
  · rw [hplain]
    exact iff_of_false Bool.false_ne_true (not_not.2 hsome)

/-- Characters alone can always be encoded. -/
theorem takesAscii_utf8 : utf8.TakesAscii := by
  intro chars _
  rw [takes_utf8_iff]
  rintro ⟨place, hplace⟩
  obtain ⟨c, -, hc⟩ := List.mem_map.1 hplace
  cases hc

end Stream

namespace Run

variable {α β : Type} {progress reached : Progress} {machine after : Machine} {ending : Ending}

/-- What a run comes to, with its progress and the machine after it. -/
def on (run : Run (StateM Machine) α) (progress : Progress) (machine : Machine) :
    (Except Ending α × Progress) × Machine :=
  ((ExceptT.run run).run progress).run machine

theorem on_pure (value : α) (progress : Progress) (machine : Machine) :
    on (pure value) progress machine = ((.ok value, progress), machine) := rfl

theorem on_bind (first : Run (StateM Machine) α) (next : α → Run (StateM Machine) β)
    (progress : Progress) (machine : Machine) :
    on (first >>= next) progress machine =
      match on first progress machine with
      | ((.ok value, reached), after) => on (next value) reached after
      | ((.error ending, reached), after) => ((.error ending, reached), after) := by
  rw [on, ExceptT.run_bind, StateT.run_bind, StateT.run_bind, ← on]
  obtain ⟨⟨result, reached⟩, after⟩ := on first progress machine
  cases result with
  | ok value => rfl
  | error ending => rfl

theorem on_bind_of_ok {first : Run (StateM Machine) α} {next : α → Run (StateM Machine) β}
    {value : α} (hfirst : on first progress machine = ((.ok value, reached), after)) :
    on (first >>= next) progress machine = on (next value) reached after := by
  rw [on_bind, hfirst]

theorem on_bind_of_error {first : Run (StateM Machine) α} {next : α → Run (StateM Machine) β}
    (hfirst : on first progress machine = ((.error ending, reached), after)) :
    on (first >>= next) progress machine = ((.error ending, reached), after) := by
  rw [on_bind, hfirst]

/-- How a run ends that came to a result: one that did not end before is a success. -/
def endingOf : Except Ending Unit → Ending
  | .ok () => .finished .success
  | .error ending => ending

/-- A transcript tells what the run did and how it ended. -/
theorem run_transcript (run : Run (StateM Machine) Unit) (cache : ViewCache) (showsDetails : Bool)
    (machine : Machine) :
    (transcript run cache showsDetails).run machine =
      let done := on run { cache := cache } machine
      ((done.1.2.cache, ⟨done.1.2.output, done.1.2.notes, endingOf done.1.1, showsDetails⟩),
        done.2) := by
  rw [transcript, StateT.run_bind, on]
  obtain ⟨⟨result, reached⟩, after⟩ :=
    ((ExceptT.run run).run { cache := cache } : StateM Machine _).run machine
  cases result with
  | ok value => rfl
  | error ending => rfl

/-! ## Values of runs -/

/-- All values that a run may give satisfy `post`. -/
def Gives (run : Run (StateM Machine) α) (post : α → Prop) : Prop :=
  ∀ ⦃progress machine value reached after⦄,
    on run progress machine = ((.ok value, reached), after) → post value

namespace Gives

variable {first : Run (StateM Machine) α} {next : α → Run (StateM Machine) β} {pre : α → Prop}
  {post : β → Prop}

theorem pure {value : β} (hvalue : post value) : Gives (Pure.pure value) post := by
  intro progress machine given reached after hrun
  rw [on_pure] at hrun
  cases hrun
  exact hvalue

theorem bind (hfirst : Gives first pre) (hnext : ∀ value, pre value → Gives (next value) post) :
    Gives (first >>= next) post := by
  intro progress machine given reached after hrun
  rw [on_bind] at hrun
  rcases hdone : on first progress machine with ⟨⟨result, between⟩, changed⟩
  rw [hdone] at hrun
  cases result with
  | ok value => exact hnext value (hfirst hdone) hrun
  | error ending => cases hrun

theorem of_next (hnext : ∀ value, Gives (next value) post) : Gives (first >>= next) post := by
  have hfirst : Gives first fun _ => True := fun _ _ _ _ _ _ => trivial
  exact hfirst.bind fun value _ => hnext value

end Gives

/-! ## Printing -/

/-- A text that the stream takes is printed without a change to the machine or the views. -/
theorem on_print_of_takes {stream : Stream} {text : LooseText} (htakes : stream.Takes text)
    (progress : Progress) (machine : Machine) :
    ∃ reached, on (print stream text) progress machine = ((.ok (), reached), machine) ∧
      reached.cache = progress.cache := by
  unfold Stream.Takes at htakes
  rw [print]
  cases hput : stream.put text with
  | ok printed => exact ⟨_, rfl, rfl⟩
  | error reason =>
      rw [hput] at htakes
      cases htakes

/-- A text that the stream does not take ends the run as a failure. -/
theorem on_print_of_not_takes {stream : Stream} {text : LooseText} (hrefuses : ¬ stream.Takes text)
    (progress : Progress) (machine : Machine) :
    ∃ reason, on (print stream text) progress machine =
      ((.error (.failed (.unprintable reason)), progress), machine) := by
  unfold Stream.Takes at hrefuses
  rw [print]
  cases hput : stream.put text with
  | ok printed =>
      rw [hput] at hrefuses
      exact absurd rfl hrefuses
  | error reason => exact ⟨reason, rfl⟩

/-- Printing texts leaves the machine and the views alone, and succeeds if the stream takes all of
them. -/
theorem on_printAll (stream : Stream) (texts : List LooseText) (progress : Progress)
    (machine : Machine) :
    ∃ result reached,
      on (texts.forM (print stream)) progress machine = ((result, reached), machine) ∧
      reached.cache = progress.cache ∧
      ((∀ text ∈ texts, stream.Takes text) ∧ result = .ok () ∨
        (∃ text ∈ texts, ¬ stream.Takes text) ∧
          ∃ reason, result = .error (.failed (.unprintable reason))) := by
  induction texts generalizing progress with
  | nil => exact ⟨_, _, rfl, rfl, .inl ⟨by simp, rfl⟩⟩
  | cons text texts ih =>
      have hcons : (text :: texts).forM (print stream) =
          (print stream text >>= fun _ => texts.forM (print stream) :
            Run (StateM Machine) Unit) := rfl
      rw [hcons]
      by_cases htakes : stream.Takes text
      · obtain ⟨between, hprint, hbetween⟩ := on_print_of_takes htakes progress machine
        obtain ⟨result, reached, hrest, hcache, hresult⟩ := ih between
        refine ⟨result, reached, ?_, hcache.trans hbetween, ?_⟩
        · rw [on_bind_of_ok hprint, hrest]
        · simpa [htakes] using hresult
      · obtain ⟨reason, hprint⟩ := on_print_of_not_takes htakes progress machine
        refine ⟨_, progress, ?_, rfl, .inr ⟨⟨text, List.mem_cons_self, htakes⟩, reason, rfl⟩⟩
        rw [on_bind_of_error hprint]

/-! ## Where runs lead -/

/-- A run gives a value and takes one machine to another, whatever was done before. -/
def Takes (run : Run (StateM Machine) α) (machine : Machine) (value : α) (after : Machine) : Prop :=
  ∀ progress, ∃ reached, on run progress machine = ((.ok value, reached), after)

/-- A run takes one machine to another, whatever was done before and however it ends. -/
def Leaves (run : Run (StateM Machine) α) (machine after : Machine) : Prop :=
  ∀ progress, (on run progress machine).2 = after

namespace Takes

variable {between : Machine} {value : α} {result : β} {first : Run (StateM Machine) α}
  {next : α → Run (StateM Machine) β}

theorem pure (value : α) (machine : Machine) : Takes (Pure.pure value) machine value machine :=
  fun progress => ⟨progress, rfl⟩

theorem bind (hfirst : Takes first machine value between)
    (hnext : Takes (next value) between result after) :
    Takes (first >>= next) machine result after := by
  intro progress
  obtain ⟨reached, hfirst⟩ := hfirst progress
  rw [on_bind_of_ok hfirst]
  exact hnext reached

theorem bind_leaves (hfirst : Takes first machine value between)
    (hnext : Leaves (next value) between after) : Leaves (first >>= next) machine after := by
  intro progress
  obtain ⟨reached, hfirst⟩ := hfirst progress
  rw [on_bind_of_ok hfirst]
  exact hnext reached

theorem host {action : StateM Machine α} (haction : action.run machine = (value, after)) :
    Takes (Run.host action) machine value after := by
  intro progress
  refine ⟨progress, ?_⟩
  have hrun : on (Run.host action) progress machine =
      ((.ok (action.run machine).1, progress), (action.run machine).2) := rfl
  rw [hrun, haction]

theorem notes (notes : List Note) (machine : Machine) :
    Takes (notes.forM Run.note) machine () machine := by
  induction notes with
  | nil => exact pure _ _
  | cons note notes ih => exact bind (fun _ => ⟨_, rfl⟩) ih

theorem noted (result : Noted α) (machine : Machine) :
    Takes (Run.noted result) machine result.result machine :=
  (notes result.notes machine).bind (pure _ _)

theorem perform {action : StateM Machine (Noted (Except Failure α))} {notes : List Note}
    (haction : action.run machine = (⟨notes, .ok value⟩, after)) :
    Takes (Run.perform action) machine value after :=
  (host haction).bind ((noted _ _).bind (pure value after))

end Takes

/-! ## Runs that change nothing -/

/-- A run changes nothing on a machine. -/
def LeavesAlone (run : Run (StateM Machine) α) : Prop :=
  ∀ progress, Machine.LeavesAlone ((ExceptT.run run).run progress)

namespace LeavesAlone

theorem pure (value : α) : LeavesAlone (Pure.pure value) :=
  fun _ => Machine.LeavesAlone.pure _

theorem throw (ending : Ending) :
    LeavesAlone (MonadExcept.throw ending : Run (StateM Machine) α) :=
  fun _ => Machine.LeavesAlone.pure _

theorem modify (change : Progress → Progress) :
    LeavesAlone (modify change : Run (StateM Machine) Unit) :=
  fun _ => Machine.LeavesAlone.pure _

theorem bind {first : Run (StateM Machine) α} {next : α → Run (StateM Machine) β}
    (hfirst : LeavesAlone first) (hnext : ∀ value, LeavesAlone (next value)) :
    LeavesAlone (first >>= next) := by
  intro progress
  rw [ExceptT.run_bind, StateT.run_bind]
  refine (hfirst progress).bind fun done => ?_
  obtain ⟨result, reached⟩ := done
  cases result with
  | ok value => exact hnext value reached
  | error ending => exact Machine.LeavesAlone.pure _

theorem host {action : StateM Machine α} (haction : Machine.LeavesAlone action) :
    LeavesAlone (Run.host action) :=
  fun _ machine => haction machine

theorem valid (result : Except Failure α) : LeavesAlone (Run.valid result) := by
  cases result with
  | ok value => exact pure value
  | error failure => exact throw _

theorem notes (notes : List Note) : LeavesAlone (notes.forM Run.note) := by
  induction notes with
  | nil => exact pure _
  | cons note notes ih => exact (modify _).bind fun _ => ih

theorem noted (result : Noted α) : LeavesAlone (Run.noted result) :=
  (notes result.notes).bind fun _ => pure _

theorem perform {action : StateM Machine (Noted (Except Failure α))}
    (haction : Machine.LeavesAlone action) : LeavesAlone (Run.perform action) :=
  (host haction).bind fun result => (noted result).bind fun value => valid value

theorem withViews {action : ViewCache → StateM Machine (ViewCache × Noted (Except Failure α))}
    (haction : ∀ cache, Machine.LeavesAlone (action cache)) :
    LeavesAlone (Run.withViews action) := by
  refine bind (fun _ => Machine.LeavesAlone.pure _) fun progress => ?_
  refine (host (haction progress.cache)).bind fun done => ?_
  exact (modify _).bind fun _ => (noted _).bind fun value => valid value

end LeavesAlone

/-! ## Runs that only read -/

/-- A run changes nothing on a machine but the input that is left. -/
def OnlyReads (run : Run (StateM Machine) α) : Prop :=
  ∀ progress, Machine.OnlyReads ((ExceptT.run run).run progress)

theorem LeavesAlone.onlyReads {run : Run (StateM Machine) α} (hrun : LeavesAlone run) :
    OnlyReads run :=
  fun progress => (hrun progress).onlyReads

namespace OnlyReads

theorem pure (value : α) : OnlyReads (Pure.pure value) :=
  fun _ => Machine.OnlyReads.pure _

theorem bind {first : Run (StateM Machine) α} {next : α → Run (StateM Machine) β}
    (hfirst : OnlyReads first) (hnext : ∀ value, OnlyReads (next value)) :
    OnlyReads (first >>= next) := by
  intro progress
  rw [ExceptT.run_bind, StateT.run_bind]
  refine (hfirst progress).bind fun done => ?_
  obtain ⟨result, reached⟩ := done
  cases result with
  | ok value => exact hnext value reached
  | error ending => exact Machine.OnlyReads.pure _

theorem host {action : StateM Machine α} (haction : Machine.OnlyReads action) :
    OnlyReads (Run.host action) :=
  fun _ machine => haction machine

end OnlyReads

end Run

end FrameLens
