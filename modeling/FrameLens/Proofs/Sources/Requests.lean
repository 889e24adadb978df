import FrameLens.Proofs.Outcomes
import FrameLens.Proofs.Sources.Snapshots
import FrameLens.Source.FrameSource

/-!
# Requests that share their views

Requests for functions that are served one after another share one cache.  While no
file changes, the answer to a request is what the request would be answered alone,
unless an earlier one has opened a file by another path with the same key: then it is
that file, by that path, which answers.
-/

namespace FrameLens

/-- What is asked for: the function of a symbol around a line of a file. -/
structure Request where
  settings : Settings := {}
  path : Option String
  line : Option Int
  symbol : String := ""

namespace Request

/-- What is asked for a frame. -/
def ofFrame (settings : Settings) (frame : Frame) : Request where
  settings := settings
  path := frame.sourcePath
  line := frame.sourceLine
  symbol := frame.symbol

section

variable {m : Type → Type} [Monad m] [Host m]

def run (request : Request) (cache : ViewCache) :
    m (ViewCache × Noted (Except Failure Outcome)) :=
  FrameSource.extract cache request.settings request.path request.line request.symbol

/-- Requests are served in turn, each with the views that are left by those before. -/
def serve (cache : ViewCache) : List Request → m (ViewCache × List (Except Failure Outcome))
  | [] => return (cache, [])
  | request :: requests => do
    let (cache, answer) ← request.run cache
    let (cache, answers) ← serve cache requests
    return (cache, answer.result :: answers)

end

/-- The path on this machine and the line, if both are known. -/
def place? (request : Request) : Option (LooseText × Int) :=
  (FrameSource.place? request.path request.line).map fun place =>
    (request.settings.remapPath place.1, place.2)

/-- What is shown for a path and line once the file has been read, or could not be. -/
def shown (request : Request) (path : LooseText) (line : Int) :
    Except FileFault View → Except Failure Outcome
  | .error (.malformed fault) => .error (.file (.malformed fault))
  | .error (.refused cause _) => .ok (.unreadable path cause.reason)
  | .ok view =>
    (Extraction.ofView view (FunctionName.ofSymbol request.symbol) line
      request.settings).mapError .outOfRange

/-- The answer to a request where `views` gives the view of each path. -/
def answerWith (request : Request) (files : Snapshot)
    (views : LooseText → Except FileFault View) : Except Failure Outcome :=
  match request.place? with
  | none => .ok .noLocation
  | some (path, line) =>
    if files.hasFile path then request.shown path line (views path)
    else .ok (.fileMissing path)

variable {files : Snapshot} {cache : ViewCache} {request : Request}

/-! ## One request -/

/-- A request without a place is answered without a look at any file. -/
theorem run_of_no_place (hplace : request.place? = none) :
    (request.run cache : ReaderM Snapshot _).run files = (cache, pure (.ok .noLocation)) := by
  rw [place?, Option.map_eq_none_iff] at hplace
  rw [run, FrameSource.extract, hplace]
  rfl

theorem run_of_place {path : LooseText} {line : Int} (hplace : request.place? = some (path, line)) :
    (request.run cache : ReaderM Snapshot _) =
      FrameSource.extractAt cache request.settings path line request.symbol := by
  obtain ⟨place, hknown, heq⟩ := Option.map_eq_some_iff.1 hplace
  cases heq
  rw [run, FrameSource.extract, hknown]

/-- A request for a file that is not there leaves the cache as it is. -/
theorem run_of_no_file {path : LooseText} {line : Int}
    (hplace : request.place? = some (path, line)) (hfile : files.hasFile path = false) :
    (request.run cache : ReaderM Snapshot _).run files =
      (cache, pure (.ok (.fileMissing path))) := by
  rw [run_of_place hplace, FrameSource.extractAt, ReaderT.run_bind, Snapshot.run_isFile,
    pure_bind, hfile]
  rfl

/-- A request for a file that is there asks for its view and shows what that comes to. -/
theorem run_of_file (cache : ViewCache) {path : LooseText} {line : Int}
    (hplace : request.place? = some (path, line)) (hfile : files.hasFile path = true) :
    ((request.run cache : ReaderM Snapshot _).run files).1 =
        ((cache.getOrBuild path : ReaderM Snapshot _).run files).1 ∧
      ((request.run cache : ReaderM Snapshot _).run files).2.result =
        request.shown path line
          ((cache.getOrBuild path : ReaderM Snapshot _).run files).2.result := by
  rw [run_of_place hplace, FrameSource.extractAt, ReaderT.run_bind, Snapshot.run_isFile,
    pure_bind, hfile]
  rw [if_neg (by decide), ReaderT.run_bind]
  generalize (cache.getOrBuild path : ReaderM Snapshot _).run files = asked
  obtain ⟨kept, notes, read⟩ := asked
  cases read with
  | error fault =>
      cases fault with
      | malformed fault => exact ⟨rfl, rfl⟩
      | refused cause refused => exact ⟨rfl, rfl⟩
  | ok view =>
      rw [shown, Extraction.ofView]
      dsimp only [bind, Id.instMonad]
      cases hrun : Extraction.run view (FunctionName.ofSymbol request.symbol) line
          request.settings with
      | error lookup => exact ⟨rfl, rfl⟩
      | ok found => exact ⟨rfl, rfl⟩

/-! ## Requests in turn -/

/-- The path of the file that a request opens. -/
def opened? (files : Snapshot) (request : Request) : Option LooseText :=
  (request.place?.map Prod.fst).filter fun path =>
    files.hasFile path && (files.view path).toOption.isSome

/-- The first of the paths that requests open with a key. -/
def firstOpened? (files : Snapshot) (requests : List Request) (key : LooseText) :
    Option LooseText :=
  (requests.filterMap (opened? files)).find? fun path => files.key path == key

/-- The path by which a path is read after some requests: its own, unless one of them
opened a file by another path with the same key first. -/
def readAs (files : Snapshot) (earlier : List Request) (path : LooseText) : LooseText :=
  (firstOpened? files earlier (files.key path)).getD path

/-- The cache holds, under each key, the view of the path that was opened first. -/
def HoldsFirst (files : Snapshot) (earlier : List Request) (cache : ViewCache) : Prop :=
  ∀ key, cache.get? key =
    (firstOpened? files earlier key).bind fun path => (files.view path).toOption

/-- A path that was opened first has the key and a view. -/
theorem exists_view_of_firstOpened? {requests : List Request} {key path : LooseText}
    (hfirst : firstOpened? files requests key = some path) :
    files.key path = key ∧ ∃ view, files.view path = .ok view := by
  refine ⟨by simpa using List.find?_some hfirst, ?_⟩
  obtain ⟨request, -, hopened⟩ := List.mem_filterMap.1 (List.mem_of_find?_eq_some hfirst)
  have hread := (Option.filter_eq_some_iff.1 hopened).2
  rw [Bool.and_eq_true, Option.isSome_iff_exists] at hread
  obtain ⟨-, view, hview⟩ := hread
  exact ⟨view, Snapshot.toOption_view_eq_some_iff.1 hview⟩

/-- A later request opens a key only if none before it did. -/
theorem firstOpened?_concat (earlier : List Request) (request : Request) (key : LooseText) :
    firstOpened? files (earlier ++ [request]) key =
      (firstOpened? files earlier key).or
        ((request.opened? files).filter fun path => files.key path == key) := by
  rw [firstOpened?, List.filterMap_append, List.find?_append]
  congr 1
  cases hopened : request.opened? files with
  | none => simp [hopened]
  | some path => simp [hopened, Option.filter]

/-- A key without a view was not opened yet. -/
theorem HoldsFirst.firstOpened?_eq_none {earlier : List Request} {key : LooseText}
    (hholds : HoldsFirst files earlier cache) (hheld : cache.get? key = none) :
    firstOpened? files earlier key = none := by
  cases hfirst : firstOpened? files earlier key with
  | none => rfl
  | some path =>
      obtain ⟨-, view, hview⟩ := exists_view_of_firstOpened? hfirst
      rw [hholds, hfirst, Option.bind_some, hview] at hheld
      cases hheld

theorem opened?_of_no_place (hplace : request.place? = none) :
    request.opened? files = none := by
  rw [opened?, hplace]
  rfl

theorem opened?_of_place (files : Snapshot) {path : LooseText} {line : Int}
    (hplace : request.place? = some (path, line)) :
    request.opened? files =
      if files.hasFile path && (files.view path).toOption.isSome then some path else none := by
  rw [opened?, hplace]
  rfl

/-- A request that opens no file, or one whose key holds a view, changes nothing. -/
theorem HoldsFirst.keep {earlier : List Request} (hholds : HoldsFirst files earlier cache)
    (hkeep : ∀ path, request.opened? files = some path → cache.get? (files.key path) ≠ none) :
    HoldsFirst files (earlier ++ [request]) cache := by
  intro key
  rw [firstOpened?_concat, hholds key]
  cases hopened : request.opened? files with
  | none => rw [Option.filter_none, Option.or_none]
  | some path =>
      by_cases hkey : files.key path = key
      · subst hkey
        have hheld := hkeep path hopened
        rw [hholds] at hheld
        cases hfirst : firstOpened? files earlier (files.key path) with
        | none =>
            rw [hfirst] at hheld
            exact absurd rfl hheld
        | some first => rw [Option.some_or]
      · rw [Option.filter_some, beq_eq_false_iff_ne.2 hkey, if_neg (by decide), Option.or_none]

/-- A request that opens a file whose key holds no view puts its view there. -/
theorem HoldsFirst.put {earlier : List Request} (hholds : HoldsFirst files earlier cache)
    {path : LooseText} {view : View} (hopened : request.opened? files = some path)
    (hview : files.view path = .ok view) (hheld : cache.get? (files.key path) = none) :
    HoldsFirst files (earlier ++ [request]) ⟨(files.key path, view) :: cache.views⟩ := by
  intro key
  rw [firstOpened?_concat, ViewCache.get?_cons, hopened, Option.filter_some]
  by_cases hkey : key = files.key path
  · subst hkey
    rw [if_pos rfl, if_pos (beq_self_eq_true _), hholds.firstOpened?_eq_none hheld,
      Option.none_or, Option.bind_some, hview]
    rfl
  · rw [if_neg hkey, beq_eq_false_iff_ne.2 (Ne.symm hkey), if_neg (by decide), Option.or_none]
    exact hholds key

/-- One request leaves the cache with the first view of each key. -/
theorem HoldsFirst.run {earlier : List Request} (hholds : HoldsFirst files earlier cache)
    (request : Request) :
    HoldsFirst files (earlier ++ [request])
      ((request.run cache : ReaderM Snapshot _).run files).1 := by
  cases hplace : request.place? with
  | none =>
      rw [run_of_no_place hplace]
      exact hholds.keep (by simp [opened?_of_no_place hplace])
  | some place =>
      obtain ⟨path, line⟩ := place
      have hopened := opened?_of_place files hplace
      cases hfile : files.hasFile path with
      | false =>
          rw [run_of_no_file hplace hfile]
          exact hholds.keep (by simp [hopened, hfile])
      | true =>
          rw [(run_of_file cache hplace hfile).1]
          cases hheld : cache.get? (files.key path) with
          | some view =>
              rw [ViewCache.getOrBuild_of_held hheld]
              exact hholds.keep (by simp [hopened, hheld])
          | none =>
              rw [ViewCache.getOrBuild_of_not_held hheld]
              cases hview : files.view path with
              | error fault => exact hholds.keep (by simp [hopened, hview, Except.toOption])
              | ok view =>
                  refine hholds.put ?_ hview hheld
                  rw [hopened, hfile, hview]
                  rfl

/-- A request is answered by the first view of its key. -/
theorem HoldsFirst.answer {earlier : List Request} (hholds : HoldsFirst files earlier cache)
    (request : Request) :
    ((request.run cache : ReaderM Snapshot _).run files).2.result =
      request.answerWith files fun path => files.view (readAs files earlier path) := by
  rw [answerWith]
  cases hplace : request.place? with
  | none =>
      rw [run_of_no_place hplace]
      rfl
  | some place =>
      obtain ⟨path, line⟩ := place
      dsimp only
      cases hfile : files.hasFile path with
      | false =>
          rw [run_of_no_file hplace hfile]
          rfl
      | true =>
          rw [(run_of_file cache hplace hfile).2, if_pos rfl, readAs]
          congr 1
          cases hheld : cache.get? (files.key path) with
          | none =>
              rw [hholds.firstOpened?_eq_none hheld, ViewCache.getOrBuild_of_not_held hheld,
                Option.getD_none]
              cases files.view path with
              | ok view => rfl
              | error fault => rfl
          | some view =>
              rw [ViewCache.getOrBuild_of_held hheld]
              rw [hholds, Option.bind_eq_some_iff] at hheld
              obtain ⟨first, hfirst, hview⟩ := hheld
              rw [hfirst, Option.getD_some, Snapshot.toOption_view_eq_some_iff.1 hview]
              rfl

/-- All requests leave the cache with the first view of each key. -/
theorem holdsFirst_serve {earlier : List Request} (hholds : HoldsFirst files earlier cache)
    (requests : List Request) :
    HoldsFirst files (earlier ++ requests)
      ((serve cache requests : ReaderM Snapshot _).run files).1 := by
  induction requests generalizing earlier cache with
  | nil =>
      rw [List.append_nil]
      exact hholds
  | cons request requests ih =>
      have hlater := ih (hholds.run request)
      rw [List.append_assoc] at hlater
      exact hlater

/-- Each request of a series is answered with what those before it have left. -/
theorem getElem?_serve (files : Snapshot) (cache : ViewCache) (earlier later : List Request)
    (request : Request) :
    ((serve cache (earlier ++ request :: later) : ReaderM Snapshot _).run files).2[
        earlier.length]? =
      some ((request.run ((serve cache earlier : ReaderM Snapshot _).run files).1
        : ReaderM Snapshot _).run files).2.result := by
  induction earlier generalizing cache with
  | nil => rfl
  | cons first earlier ih => exact ih _

/-! ## The path that is reported -/

/-- What is shown of a view names its path. -/
theorem path?_of_show? {v : View} {span : Option Span} {line : Int} {settings : Settings}
    {outcome : Outcome} (hshow : Extraction.show? v span line settings = .ok outcome) :
    outcome.path? = some v.path := by
  cases span with
  | none =>
      cases hshow
      rfl
  | some span =>
      obtain ⟨code, -, rfl⟩ := OutOfRange.map_eq_ok_iff.1 hshow
      rfl

/-- What is shown of a view is reported by the path of the view. -/
theorem exists_shown (request : Request) (path : LooseText) (line : Int) (view : View) :
    ∃ outcome, request.shown path line (.ok view) = .ok outcome ∧
      outcome.path? = some view.path := by
  obtain ⟨-, outcome, -, hview, -⟩ :=
    Extraction.ofView_reports view (FunctionName.ofSymbol request.symbol) line request.settings
  refine ⟨outcome, by rw [shown, hview]; rfl, ?_⟩
  obtain ⟨⟨notes, _⟩, hrun, rfl⟩ := OutOfRange.map_eq_ok_iff.1 hview
  rw [Extraction.run] at hrun
  obtain ⟨found, -, hrun⟩ := OutOfRange.bind_eq_ok_iff.1 hrun
  obtain ⟨outcome, hshow, hrun⟩ := OutOfRange.bind_eq_ok_iff.1 hrun
  cases hrun
  exact path?_of_show? hshow

/-- A path that is read by itself is what the outcome reports. -/
theorem path?_of_shown {path : LooseText} {line : Int} {outcome : Outcome}
    (hshown : request.shown path line (files.view path) = .ok outcome) :
    outcome.path? = some path := by
  cases hview : files.view path with
  | ok view =>
      obtain ⟨other, hother, hpath⟩ := exists_shown request path line view
      rw [hview, hother] at hshown
      cases hshown
      rw [hpath, Snapshot.path_of_view hview]
  | error fault =>
      rw [hview] at hshown
      cases fault with
      | malformed fault => cases hshown
      | refused cause refused =>
          cases hshown
          rfl

/-- Another path does not answer as the path itself does. -/
theorem shown_ne {path other : LooseText} {line : Int} {view : View}
    (hview : files.view other = .ok view) (hne : other ≠ path) :
    request.shown path line (files.view other) ≠ request.shown path line (files.view path) := by
  intro heq
  obtain ⟨outcome, hother, hpath⟩ := exists_shown request path line view
  rw [← hview, heq] at hother
  rw [path?_of_shown hother, Snapshot.path_of_view hview] at hpath
  exact hne (Option.some.inj hpath).symm

/-- Where each path is read by itself, no answer is a failure. -/
theorem exists_answer (files : Snapshot) (request : Request) :
    ∃ outcome, request.answerWith files files.view = .ok outcome := by
  rw [answerWith]
  cases request.place? with
  | none => exact ⟨_, rfl⟩
  | some place =>
      obtain ⟨path, line⟩ := place
      dsimp only
      split
      · rename_i hfile
        cases hview : files.view path with
        | ok view =>
            obtain ⟨outcome, hshown, -⟩ := exists_shown request path line view
            exact ⟨outcome, hshown⟩
        | error fault =>
            cases fault with
            | malformed fault => exact absurd hview (Snapshot.view_ne_malformed hfile fault)
            | refused cause refused => exact ⟨_, rfl⟩
      · exact ⟨_, rfl⟩

/-- While the files stay as they are, a request after others is answered with the view of
the path that it is read as, and so as it would be answered alone if and only if that is
its own path or its own path leads to no file. -/
theorem serve_answers (files : Snapshot) (earlier later : List Request) (request : Request) :
    ((serve .empty (earlier ++ request :: later) : ReaderM Snapshot _).run files).2[
        earlier.length]? =
      some (request.answerWith files fun path => files.view (readAs files earlier path)) ∧
    (((serve .empty (earlier ++ request :: later) : ReaderM Snapshot _).run files).2[
        earlier.length]? =
      ((serve .empty [request] : ReaderM Snapshot _).run files).2[0]? ↔
        ∀ path line, request.place? = some (path, line) → files.hasFile path = true →
          readAs files earlier path = path) := by
  have hempty : HoldsFirst files [] .empty := fun _ => rfl
  have hshared := getElem?_serve files .empty earlier later request
  have hholds : HoldsFirst files earlier _ := holdsFirst_serve hempty earlier
  rw [hholds.answer] at hshared
  have halone : ((serve .empty [request] : ReaderM Snapshot _).run files).2[0]? =
      some (request.answerWith files files.view) :=
    congrArg some (hempty.answer request)
  refine ⟨hshared, ?_⟩
  rw [hshared, halone, Option.some.injEq, answerWith, answerWith]
  cases hplace : request.place? with
  | none => simp
  | some place =>
      obtain ⟨path, line⟩ := place
      cases hfile : files.hasFile path with
      | false => simp [hfile]
      | true =>
          dsimp only
          rw [if_pos hfile, if_pos hfile]
          constructor
          · rintro heq _ _ ⟨rfl, rfl⟩ -
            rw [readAs] at heq ⊢
            cases hfirst : firstOpened? files earlier (files.key path) with
            | none => rfl
            | some first =>
                obtain ⟨-, view, hview⟩ := exists_view_of_firstOpened? hfirst
                rw [hfirst, Option.getD_some] at heq
                by_contra hne
                exact shown_ne hview hne heq
          · intro hown
            rw [hown path line rfl hfile]

/-- Two files whose names differ in case alone. -/
def twoCases : Machine where
  entries := [([[0x61]], .file (Utf8.encode "f() { a }".toList)),
    ([[0x41]], .file (Utf8.encode "f() { b }".toList))]

def firstLineOf (path : String) : Request where
  path := some path
  line := some 1
  symbol := "f"

/-- After a request for the first of two files, one for the second is answered with the
text and the path of the first, and not as it would be answered alone. -/
theorem answer_of_other_case :
    ((serve (m := StateM Machine) .empty [firstLineOf "/a", firstLineOf "/A"]).run
        twoCases).1.2[1]? =
      some (.ok (.located "/a" ⟨0, 9, 1, 1, .named⟩ "==> f() { a }")) ∧
    ((serve (m := StateM Machine) .empty [firstLineOf "/a", firstLineOf "/A"]).run
        twoCases).1.2[1]? ≠
      ((serve (m := StateM Machine) .empty [firstLineOf "/A"]).run twoCases).1.2[0]? := by
  decide +kernel

end Request

end FrameLens
