import FrameLens.Prompt.Composition
import FrameLens.Proofs.Lines

/-!
# Cutting a prompt at its fences

Behind its template a prompt holds the call stack and the source of each frame between fences.
These texts are taken over as they are, and so are the names in the titles of the frames.  The
prompt can be cut back into them at the lines that begin with a fence if and only if none of the
lines that were taken over begins with one.  Otherwise there are fences too many, and too many texts
between them.
-/

namespace FrameLens

namespace Text

variable {α : Type*} [DecidableEq α]

theorem splitOn_append_cons (separator : α) (left right : List α) :
    splitOn separator (left ++ separator :: right) =
      splitOn separator left ++ splitOn separator right := by
  rw [splitOn_eq, splitOn_eq, splitOn_eq]
  exact List.splitOnP_append_cons left right (beq_self_eq_true separator)

end Text

namespace Prompt

variable {stack : String} {frames : List (Frame × Option LooseText)} {text : LooseText}

/-! ## Lines and fences -/

/-- The lines of a text. -/
def linesOf (text : LooseText) : List LooseText :=
  Text.splitOn (.char '\n') text

/-- Whether a line begins with a fence. -/
def opensFence (line : LooseText) : Bool :=
  fence.isPrefixOf line

/-- The lines of a text that begin with a fence. -/
def fencesIn (text : LooseText) : List LooseText :=
  (linesOf text).filter opensFence

theorem joinLines_linesOf (text : LooseText) : LooseText.joinLines (linesOf text) = text := by
  rw [LooseText.joinLines, linesOf, Text.splitOn_eq]
  exact List.intercalate_splitOn (CodePoint.char '\n')

/-- Each row of a text is read back as its own lines. -/
theorem linesOf_joinLines_append {rows : List LooseText} (hrows : rows ≠ []) (rest : LooseText) :
    linesOf (LooseText.joinLines rows ++ .char '\n' :: rest) =
      rows.flatMap linesOf ++ linesOf rest := by
  induction rows with
  | nil => exact absurd rfl hrows
  | cons row rows ih =>
      cases rows with
      | nil =>
          rw [LooseText.joinLines, List.intercalate_singleton, linesOf, Text.splitOn_append_cons,
            List.flatMap_singleton]
          rfl
      | cons next rows =>
          rw [LooseText.joinLines, List.intercalate_cons_cons, List.append_assoc, List.append_assoc,
            List.singleton_append, linesOf, Text.splitOn_append_cons, List.flatMap_cons,
            List.append_assoc, ← ih (List.cons_ne_nil next rows)]
          rfl

/-! ## The parts of a prompt -/

/-- What a prompt begins with: its template and an empty line, or nothing for a blank template. -/
def templatePart (template : LooseText) : LooseText :=
  if template.isBlank then [] else template.trimRight ++ [.char '\n', .char '\n']

/-- The rows behind the template. -/
def bodyRows (stack : String) (frames : List (Frame × Option LooseText)) : List LooseText :=
  stackLines stack ++ LooseText.ofString "Input: Per-frame source code (best effort)" ::
    frames.flatMap fun entry => frameLines entry.1 entry.2

/-- The text behind the template. -/
def body (stack : String) (frames : List (Frame × Option LooseText)) : LooseText :=
  LooseText.joinLines (bodyRows stack frames) ++ [.char '\n']

/-- A prompt is the template in front of a body that does not depend on it. -/
theorem compose_eq (template : LooseText) (stack : String)
    (frames : List (Frame × Option LooseText)) :
    compose template stack frames = templatePart template ++ body stack frames := by
  have hcompose : compose template stack frames =
      LooseText.joinLines (templateLines template ++ bodyRows stack frames) ++ [.char '\n'] := by
    rw [bodyRows, ← List.append_assoc]
    rfl
  rw [hcompose, templateLines, templatePart, body]
  split
  case isTrue => rfl
  case isFalse =>
    obtain ⟨row, rows, hrows⟩ : ∃ row rows, bodyRows stack frames = row :: rows := ⟨_, _, rfl⟩
    rw [hrows, LooseText.joinLines, LooseText.joinLines, List.cons_append, List.cons_append,
      List.nil_append, List.intercalate_cons_cons, List.intercalate_cons_cons]
    simp only [List.append_assoc, List.cons_append, List.nil_append]

/-- The call stack as a prompt shows it. -/
def shownStack (stack : String) : LooseText :=
  LooseText.ofChars (Text.trimRight stack.toList)

/-- What stands above the source of a frame. -/
def captions (frame : Frame) : List LooseText :=
  LooseText.ofString (frameTitle frame) :: placeLines frame

/-- The texts that are taken over into a prompt. -/
def embedded (stack : String) (frames : List (Frame × Option LooseText)) : List LooseText :=
  shownStack stack :: frames.flatMap fun entry => captions entry.1 ++ [sourceText entry.2]

/-- No line of a text that is taken over begins with a fence. -/
def Unfenced (stack : String) (frames : List (Frame × Option LooseText)) : Prop :=
  ∀ text ∈ embedded stack frames, fencesIn text = []

/-- The fences that a prompt sets itself. -/
def ownFences (frames : List (Frame × Option LooseText)) : List LooseText :=
  fence :: fence :: frames.flatMap fun _ => [sourceFence, fence]

/-! ## The lines of a prompt -/

/-- The lines of the frames, and the empty one behind the last line feed. -/
def linesOfFrames (frames : List (Frame × Option LooseText)) : List LooseText :=
  (frames.flatMap fun entry => frameLines entry.1 entry.2).flatMap linesOf ++ [[]]

theorem linesOfFrames_cons (entry : Frame × Option LooseText)
    (frames : List (Frame × Option LooseText)) :
    linesOfFrames (entry :: frames) =
      ([] :: (captions entry.1).flatMap linesOf) ++ sourceFence ::
        (linesOf (sourceText entry.2) ++ fence :: linesOfFrames frames) := by
  have hlines : frameLines entry.1 entry.2 =
      [] :: (captions entry.1 ++ [sourceFence, sourceText entry.2, fence]) := rfl
  have hempty : linesOf [] = [[]] := rfl
  have hopening : linesOf sourceFence = [sourceFence] := by decide
  have hclosing : linesOf fence = [fence] := by decide
  rw [linesOfFrames, List.flatMap_cons, List.flatMap_append, hlines, List.flatMap_cons,
    List.flatMap_append, List.flatMap_cons, List.flatMap_cons, List.flatMap_singleton, hempty,
    hopening, hclosing, linesOfFrames]
  simp only [List.append_assoc, List.cons_append, List.nil_append]

/-- The lines of a body: captions, fences and what stands between them. -/
theorem linesOf_body (stack : String) (frames : List (Frame × Option LooseText)) :
    linesOf (body stack frames) =
      [[], LooseText.ofString "Input: Callstack"] ++ fence :: (linesOf (shownStack stack) ++
        fence :: ([[], LooseText.ofString "Input: Per-frame source code (best effort)"] ++
          linesOfFrames frames)) := by
  have hstack : stackLines stack =
      [[], "Input: Callstack", fence, shownStack stack, fence, []] := rfl
  have hempty : linesOf [] = [[]] := rfl
  have htitle : linesOf "Input: Callstack" = [LooseText.ofString "Input: Callstack"] := by decide
  have hsources : linesOf "Input: Per-frame source code (best effort)" =
      [LooseText.ofString "Input: Per-frame source code (best effort)"] := by decide
  have hfence : linesOf fence = [fence] := by decide
  have hrows : bodyRows stack frames ≠ [] := List.cons_ne_nil _ _
  rw [body, linesOf_joinLines_append hrows, bodyRows, hstack, linesOfFrames]
  simp only [List.flatMap_cons, hempty, htitle, hsources, hfence, List.append_assoc,
    List.cons_append, List.nil_append]

/-! ## Counting fences -/

/-- The fences among the frames are those of the program and those in the texts. -/
theorem filter_linesOfFrames (frames : List (Frame × Option LooseText)) :
    (linesOfFrames frames).filter opensFence = frames.flatMap fun entry =>
      (captions entry.1).flatMap fencesIn ++ sourceFence :: fencesIn (sourceText entry.2) ++
        [fence] := by
  induction frames with
  | nil => rfl
  | cons entry frames ih =>
      have hempty : opensFence [] = false := rfl
      have hopening : opensFence sourceFence = true := by decide
      have hclosing : opensFence fence = true := by decide
      have hcaptions : ((captions entry.1).flatMap linesOf).filter opensFence =
          (captions entry.1).flatMap fencesIn :=
        List.filter_flatMap
      rw [linesOfFrames_cons, List.filter_append, List.filter_cons_of_neg (by simp [hempty]),
        hcaptions, List.filter_cons_of_pos hopening, List.filter_append,
        List.filter_cons_of_pos hclosing, ih, List.flatMap_cons, ← fencesIn]
      simp only [List.append_assoc, List.cons_append, List.nil_append]

/-- The fences of a prompt are its own and those in the texts that are taken over. -/
theorem fencesIn_body (stack : String) (frames : List (Frame × Option LooseText)) :
    fencesIn (body stack frames) =
      fence :: fencesIn (shownStack stack) ++ fence :: frames.flatMap fun entry =>
        (captions entry.1).flatMap fencesIn ++ sourceFence :: fencesIn (sourceText entry.2) ++
          [fence] := by
  have hfence : opensFence fence = true := by decide
  have hheading :
      [[], LooseText.ofString "Input: Callstack"].filter opensFence = [] := by decide
  have hsources : [[], LooseText.ofString "Input: Per-frame source code (best effort)"].filter
      opensFence = [] := by decide
  rw [fencesIn, linesOf_body, List.filter_append, hheading, List.nil_append,
    List.filter_cons_of_pos hfence, List.filter_append, List.filter_cons_of_pos hfence,
    List.filter_append, hsources, List.nil_append, filter_linesOfFrames, ← fencesIn]
  rfl

/-- A body has the fences of the program and those in the texts that are embedded. -/
theorem length_fencesIn_body (stack : String) (frames : List (Frame × Option LooseText)) :
    (fencesIn (body stack frames)).length =
      2 + 2 * frames.length + ((embedded stack frames).flatMap fencesIn).length := by
  have hframes : (frames.flatMap fun entry =>
      (captions entry.1).flatMap fencesIn ++ sourceFence :: fencesIn (sourceText entry.2) ++
        [fence]).length = 2 * frames.length +
          ((frames.flatMap fun entry => captions entry.1 ++ [sourceText entry.2]).flatMap
            fencesIn).length := by
    induction frames with
    | nil => rfl
    | cons entry frames ih =>
        rw [List.flatMap_cons, List.length_append, ih]
        simp only [List.flatMap_cons, List.flatMap_append, List.flatMap_nil, List.length_append,
          List.length_cons, List.length_nil]
        omega
  rw [fencesIn_body, embedded, List.flatMap_cons, List.length_append, List.length_append,
    List.length_cons, List.length_cons, hframes]
  omega

/-- A prompt has the fences that it sets itself, and no more just in case nothing else begins with
one. -/
theorem unfenced_iff :
    Unfenced stack frames ↔ (fencesIn (body stack frames)).length = 2 + 2 * frames.length := by
  rw [length_fencesIn_body, Nat.add_eq_left, List.length_eq_zero_iff, List.flatMap_eq_nil_iff]
  rfl

theorem Unfenced.fencesIn_stack (hunfenced : Unfenced stack frames) :
    fencesIn (shownStack stack) = [] :=
  hunfenced _ List.mem_cons_self

theorem Unfenced.fencesIn_captions (hunfenced : Unfenced stack frames)
    {entry : Frame × Option LooseText} (hentry : entry ∈ frames) :
    (captions entry.1).flatMap fencesIn = [] := by
  rw [List.flatMap_eq_nil_iff]
  intro caption hcaption
  apply hunfenced
  apply List.mem_cons_of_mem
  exact List.mem_flatMap.2 ⟨entry, hentry, List.mem_append_left _ hcaption⟩

/-- Without fences in the texts there are none in a source. -/
theorem Unfenced.fencesIn_source (hunfenced : Unfenced stack frames)
    {entry : Frame × Option LooseText} (hentry : entry ∈ frames) :
    fencesIn (sourceText entry.2) = [] := by
  apply hunfenced
  apply List.mem_cons_of_mem
  exact List.mem_flatMap.2 ⟨entry, hentry, List.mem_append_right _ List.mem_cons_self⟩

/-- Where nothing else begins with a fence a prompt has those that it sets itself. -/
theorem Unfenced.fencesIn_body (hunfenced : Unfenced stack frames) :
    fencesIn (body stack frames) = ownFences frames := by
  rw [Prompt.fencesIn_body, hunfenced.fencesIn_stack, ownFences, List.singleton_append]
  apply congrArg (fence :: fence :: ·)
  apply List.flatMap_congr
  intro entry hentry
  rw [hunfenced.fencesIn_captions hentry, hunfenced.fencesIn_source hentry]
  rfl

/-- The program sets two fences around the stack and two around each source. -/
theorem length_ownFences (frames : List (Frame × Option LooseText)) :
    (ownFences frames).length = 2 + 2 * frames.length := by
  have hframes : (frames.flatMap fun _ => [sourceFence, fence]).length = 2 * frames.length := by
    induction frames with
    | nil => rfl
    | cons entry frames ih =>
        rw [List.flatMap_cons, List.length_append, ih, List.length_cons]
        exact Nat.add_comm 2 (2 * frames.length)
  rw [ownFences, List.length_cons, List.length_cons, hframes, Nat.add_comm 2]

/-! ## Cutting -/

/-- Every other piece: those that stand between an opening and a closing cut. -/
def enclosed {α : Type*} : List α → List α
  | _ :: inside :: rest => inside :: enclosed rest
  | [_] => []
  | [] => []

/-- The texts between the fences of a text. -/
def cutOut (text : LooseText) : List LooseText :=
  (enclosed ((linesOf text).splitOnP opensFence)).map LooseText.joinLines

theorem length_enclosed {α : Type*} (pieces : List α) :
    (enclosed pieces).length = pieces.length / 2 := by
  induction pieces using enclosed.induct with
  | case1 first inside rest ih =>
      rw [enclosed, List.length_cons, ih, List.length_cons, List.length_cons]
      omega
  | case2 first => simp [enclosed]
  | case3 => simp [enclosed]

theorem length_splitOnP {α : Type*} (p : α → Bool) (items : List α) :
    (items.splitOnP p).length = (items.filter p).length + 1 := by
  induction items with
  | nil => rfl
  | cons item items ih =>
      rw [List.splitOnP_cons_eq_if_modifyHead, List.filter_cons]
      split
      · rw [List.length_cons, List.length_cons, ih]
      · rw [List.length_modifyHead, ih]

/-- A text is cut into one part for every other fence. -/
theorem length_cutOut (text : LooseText) :
    (cutOut text).length = ((fencesIn text).length + 1) / 2 := by
  rw [cutOut, List.length_map, length_enclosed, length_splitOnP, fencesIn]

theorem opensFence_eq_false (hfences : fencesIn text = []) :
    ∀ line ∈ linesOf text, opensFence line = false := by
  intro line hline
  rw [← Bool.not_eq_true]
  exact List.filter_eq_nil_iff.1 hfences line hline

/-- A text between two fences is the first that is cut out. -/
theorem enclosed_splitOnP {before inside rest : List LooseText} {opening closing : LooseText}
    (hbefore : ∀ line ∈ before, opensFence line = false) (hopening : opensFence opening = true)
    (hinside : ∀ line ∈ inside, opensFence line = false) (hclosing : opensFence closing = true) :
    enclosed ((before ++ opening :: (inside ++ closing :: rest)).splitOnP opensFence) =
      inside :: enclosed (rest.splitOnP opensFence) := by
  rw [List.splitOnP_append_cons_of_forall_mem hbefore opening hopening,
    List.splitOnP_append_cons_of_forall_mem hinside closing hclosing, enclosed]

/-- The sources of frames are cut out one after another. -/
theorem enclosed_linesOfFrames {before : List LooseText}
    (hbefore : ∀ line ∈ before, opensFence line = false)
    (hcaptions : ∀ entry ∈ frames, (captions entry.1).flatMap fencesIn = [])
    (hsources : ∀ entry ∈ frames, fencesIn (sourceText entry.2) = []) :
    enclosed ((before ++ linesOfFrames frames).splitOnP opensFence) =
      frames.map fun entry => linesOf (sourceText entry.2) := by
  induction frames generalizing before with
  | nil =>
      have hfree : ∀ line ∈ before ++ linesOfFrames [], opensFence line = false := by
        rw [List.forall_mem_append]
        exact ⟨hbefore, by decide⟩
      rw [List.splitOnP_eq_singleton hfree, enclosed, List.map_nil]
  | cons entry frames ih =>
      obtain ⟨hcaption, hcaptions⟩ := List.forall_mem_cons.1 hcaptions
      obtain ⟨hsource, hsources⟩ := List.forall_mem_cons.1 hsources
      rw [linesOfFrames_cons, ← List.append_assoc,
        enclosed_splitOnP ?_ (by decide) (opensFence_eq_false hsource) (by decide), List.map_cons]
      · apply congrArg (linesOf (sourceText entry.2) :: ·)
        have hnone : ∀ line ∈ ([] : List LooseText), opensFence line = false := nofun
        exact ih hnone hcaptions hsources
      · rw [List.forall_mem_append, List.forall_mem_cons]
        refine ⟨hbefore, by decide, ?_⟩
        intro line hline
        obtain ⟨caption, hmem, hline⟩ := List.mem_flatMap.1 hline
        exact opensFence_eq_false (List.flatMap_eq_nil_iff.1 hcaption caption hmem) line hline

/-- A prompt in which nothing else begins with a fence is cut back into its texts. -/
theorem Unfenced.cutOut_body (hunfenced : Unfenced stack frames) :
    cutOut (body stack frames) =
      shownStack stack :: frames.map fun entry => sourceText entry.2 := by
  rw [cutOut, linesOf_body, enclosed_splitOnP (by decide) (by decide)
    (opensFence_eq_false hunfenced.fencesIn_stack) (by decide), List.map_cons, joinLines_linesOf,
    enclosed_linesOfFrames (by decide) (fun _ => hunfenced.fencesIn_captions)
      (fun _ => hunfenced.fencesIn_source), List.map_map]
  apply congrArg (shownStack stack :: ·)
  apply List.map_congr_left
  intro entry _
  exact joinLines_linesOf (sourceText entry.2)

/-- Behind its template a prompt has no other fences than its own, and is cut at them back into the
call stack and the sources, if and only if no line that was taken over begins with a fence. -/
theorem cut_at_fences_iff (template : LooseText) (stack : String)
    (frames : List (Frame × Option LooseText)) :
    ∃ rest, compose template stack frames = templatePart template ++ rest ∧
      (fencesIn rest = ownFences frames ↔ Unfenced stack frames) ∧
      (cutOut rest = shownStack stack :: frames.map (fun entry => sourceText entry.2) ↔
        Unfenced stack frames) := by
  refine ⟨body stack frames, compose_eq template stack frames, ?_, ?_⟩
  · constructor
    · intro hfences
      rw [unfenced_iff, hfences, length_ownFences]
    · exact Unfenced.fencesIn_body
  · constructor
    · -- With fences too many there are texts too many between them.
      intro hcut
      have hlength := congrArg List.length hcut
      rw [length_cutOut, length_fencesIn_body, List.length_cons, List.length_map] at hlength
      rw [unfenced_iff, length_fencesIn_body]
      omega
    · exact Unfenced.cutOut_body

/-- A call stack that is itself a fence stands between three fences, and what is cut out is nothing
and the heading of the sources. -/
theorem fence_in_stack_cut_apart :
    ∃ rest, compose [] "\x60\x60\x60" [] = templatePart [] ++ rest ∧
      fencesIn rest ≠ ownFences [] ∧
      cutOut rest = [[], "\nInput: Per-frame source code (best effort)\n"] ∧
      shownStack "\x60\x60\x60" = fence := by
  refine ⟨body "\x60\x60\x60" [], compose_eq [] _ [], ?_, ?_, ?_⟩
  · rw [fencesIn_body]
    decide
  · rw [cutOut, linesOf_body]
    rfl
  · decide

end Prompt

end FrameLens
