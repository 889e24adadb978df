import FrameLens.Proofs.Lines
import FrameLens.Proofs.Stack.Patterns

/-!
# Frames and lines of a call stack listing

Reading passes over the line of a place together with the frame line before it.  Since
no line is of both kinds, that comes to the same as looking at every line by itself and
at the one after it: each frame line gives one frame, and the line right after it
decides the place of that frame.
-/

namespace FrameLens.Listing

open FrameLens.Text

/-- The number of a line, where it has no more digits than a number may have. -/
def lineNumber? (digits : List Char) : Option Int :=
  if digits.length ≤ maxIntegerDigits then some (decimalNumber digits) else none

/-- A frame stands for a frame line.  The line after it names the place, if it is the line
of one. -/
structure StandsFor (frame : Frame) (index : Nat) (line : List Char)
    (next : Option (List Char)) : Prop where
  index_eq : frame.index = index
  shows : ∃ number,
    ShowsFrame line ⟨frame.isInline, frame.moduleName.toList, frame.symbol.toList, number⟩ ∧
      frame.reportedLine = number.bind lineNumber?
  place_iff : frame.sourcePath.isSome ↔ ∃ place ∈ next, IsPlaceLine place
  place_eq : ∀ place ∈ next, ∀ path digits, ShowsPlace place path digits →
    frame.sourcePath = some (String.ofList path) ∧ frame.sourceLine = lineNumber? digits
  line_eq_none : frame.sourcePath = none → frame.sourceLine = none

/-! ## One frame -/

/-- The line number of a frame line is read as a number of decimal digits. -/
theorem ShowsFrame.parseInt?_eq {line : List Char} {said : FrameLine}
    (hshows : ShowsFrame line said) :
    said.line.bind parseInt? = said.line.bind lineNumber? := by
  obtain ⟨-, -, -, htext⟩ := hshows
  obtain ⟨tail, -, htail⟩ := htext.exists_tail
  cases htail with
  | bare => rfl
  | numbered _ _ _ _ hdigits hdecimal => exact parseInt?_of_decimal hdigits hdecimal

theorem ShowsPlace.parseInt?_eq {line path digits : List Char}
    (hshows : ShowsPlace line path digits) : parseInt? digits = lineNumber? digits := by
  obtain ⟨-, -, -, -, hdigits, hdecimal, -⟩ := hshows
  exact parseInt?_of_decimal hdigits hdecimal

/-- A frame that is read stands for its line and the place on the next one. -/
theorem standsFor_frameOf {line : List Char} {said : FrameLine} (index : Nat)
    (hshows : ShowsFrame line said) (next : Option (List Char)) :
    StandsFor (frameOf index said (next.bind readPlace?)) index line next where
  index_eq := rfl
  shows := ⟨said.line, by simpa [frameOf] using hshows, hshows.parseInt?_eq⟩
  place_iff := by
    simp only [frameOf, Option.isSome_map, isPlaceLine_iff]
    cases next with
    | none => simp
    | some place => simp
  place_eq := by
    rintro place hplace path digits hpath
    rw [Option.mem_def.1 hplace, Option.bind_some, readPlace?_eq_some_iff.2 hpath]
    exact ⟨rfl, hpath.parseInt?_eq⟩
  line_eq_none := by
    intro hnone
    rw [frameOf, Option.map_eq_none_iff] at hnone
    rw [frameOf, hnone]
    rfl

/-! ## All frames -/

/-- The line of a place is no frame line, so nothing is lost by passing over it. -/
theorem framesFrom_cons (index : Nat) (line : List Char) (rest : List (List Char)) :
    framesFrom index (line :: rest) =
      match readFrame? line with
      | none => framesFrom index rest
      | some said =>
        frameOf index said (rest.head?.bind readPlace?) :: framesFrom (index + 1) rest := by
  rw [framesFrom]
  cases readFrame? line with
  | none => rfl
  | some said =>
      cases rest with
      | nil => rfl
      | cons next after =>
          dsimp only [List.head?_cons, Option.bind_some]
          cases hplace : readPlace? next with
          | none => rfl
          | some place =>
              have hnext : readFrame? next = none := by
                rw [← Option.not_isSome_iff_eq_none, ← isFrameLine_iff]
                exact not_isFrameLine_of_isPlaceLine (isPlaceLine_iff.2 (by simp [hplace]))
              dsimp only
              conv_rhs => rw [framesFrom, hnext]

/-- The rows of the frame lines. -/
def frameRows : List (List Char) → List Nat
  | [] => []
  | line :: rest =>
    let rows := (frameRows rest).map (· + 1)
    if (readFrame? line).isSome then 0 :: rows else rows

/-- The rows of frames are those that hold frame lines. -/
theorem mem_frameRows_iff {lines : List (List Char)} {row : Nat} :
    row ∈ frameRows lines ↔ ∃ line, lines[row]? = some line ∧ IsFrameLine line := by
  induction lines generalizing row with
  | nil => simp [frameRows]
  | cons line rest ih =>
      rw [frameRows]
      cases row with
      | zero =>
          rw [List.getElem?_cons_zero]
          simp only [Option.some.injEq, exists_eq_left', isFrameLine_iff]
          split
          · rename_i hframe
            simp [hframe]
          · rename_i hframe
            simp [hframe]
      | succ row =>
          rw [List.getElem?_cons_succ, ← ih]
          split
          · simp
          · simp

theorem pairwise_frameRows (lines : List (List Char)) :
    (frameRows lines).Pairwise (· < ·) := by
  induction lines with
  | nil => exact List.Pairwise.nil
  | cons line rest ih =>
      have hrows : ((frameRows rest).map (· + 1)).Pairwise (· < ·) :=
        List.pairwise_map.2 (ih.imp (Nat.add_lt_add_right · 1))
      rw [frameRows]
      split
      · exact List.pairwise_cons.2 ⟨by simp, hrows⟩
      · exact hrows

/-- One frame for each frame line, in order. -/
theorem forall₂_framesFrom (base : Nat) (lines : List (List Char)) :
    (framesFrom base lines).length = (frameRows lines).length ∧
      ∀ index row, (frameRows lines)[index]? = some row →
        ∃ line frame, lines[row]? = some line ∧
          (framesFrom base lines)[index]? = some frame ∧
          StandsFor frame (base + index) line lines[row + 1]? := by
  induction lines generalizing base with
  | nil => exact ⟨rfl, nofun⟩
  | cons line rest ih =>
      rw [framesFrom_cons, frameRows]
      cases hread : readFrame? line with
      | none =>
          obtain ⟨hlength, hrows⟩ := ih base
          refine ⟨by simpa using hlength, fun index row hrow => ?_⟩
          simp only [Option.isSome_none, Bool.false_eq_true, if_false, List.getElem?_map,
            Option.map_eq_some_iff] at hrow
          obtain ⟨row, hrow, rfl⟩ := hrow
          exact hrows index row hrow
      | some said =>
          obtain ⟨hlength, hrows⟩ := ih (base + 1)
          refine ⟨by simpa using hlength, fun index row hrow => ?_⟩
          cases index with
          | zero =>
              obtain rfl : 0 = row := by simpa using hrow
              refine ⟨line, _, rfl, rfl, ?_⟩
              rw [List.getElem?_cons_succ, ← List.head?_eq_getElem?]
              exact standsFor_frameOf base (readFrame?_eq_some_iff.1 hread) rest.head?
          | succ index =>
              simp only [Option.isSome_some, if_true, List.getElem?_cons_succ,
                List.getElem?_map, Option.map_eq_some_iff] at hrow
              obtain ⟨row, hrow, rfl⟩ := hrow
              rw [← Nat.add_assoc, Nat.add_right_comm base index 1]
              exact hrows index row hrow

/-- No line is a frame line and the line of a place as well.  A listing has one frame for
each of its frame lines, in order and numbered from zero, and the line right after a frame
line decides the place of its frame. -/
theorem frames_of_lines (text : String) :
    (∀ line, ¬(IsFrameLine line ∧ IsPlaceLine line)) ∧
      ∃ rows : List Nat, rows.Pairwise (· < ·) ∧
        (∀ row, row ∈ rows ↔
          ∃ line, (lines text.toList)[row]? = some line ∧ IsFrameLine line) ∧
        (frames text).length = rows.length ∧
        ∀ index row, rows[index]? = some row →
          ∃ line frame, (lines text.toList)[row]? = some line ∧
            (frames text)[index]? = some frame ∧
            StandsFor frame index line (lines text.toList)[row + 1]? := by
  refine ⟨fun line hboth => not_isFrameLine_of_isPlaceLine hboth.2 hboth.1,
    frameRows (lines text.toList), pairwise_frameRows _, fun _ => mem_frameRows_iff, ?_⟩
  have hframes := forall₂_framesFrom 0 (lines text.toList)
  simp only [Nat.zero_add] at hframes
  exact hframes

/-- The line of a place whose number is written with `zeros` zeros in front of it. -/
def zerosBeforeSeven (zeros : Nat) : List Char :=
  [' ', 'a', 't', ' ', 'a', '('] ++ (List.replicate zeros '0' ++ ['7']) ++ [')']

theorem showsPlace_zerosBeforeSeven (zeros : Nat) :
    ShowsPlace (zerosBeforeSeven zeros) ['a'] (List.replicate zeros '0' ++ ['7']) := by
  have hdecimal : ∀ c ∈ List.replicate zeros '0' ++ ['7'], isDecimal c = true := by
    intro c hc
    rcases List.mem_append.1 hc with hzero | hseven
    · rw [(List.mem_replicate.1 hzero).2]
      decide
    · rw [List.mem_singleton.1 hseven]
      decide
  exact @ShowsPlace.intro [' '] [' '] ['a'] _ [] rfl (List.cons_ne_nil _ _) rfl
    (List.cons_ne_nil _ _) (by simp) hdecimal rfl

theorem frames_zerosBeforeSeven {zeros : Nat} (hlong : maxIntegerDigits ≤ zeros) :
    frames (String.ofList (['m', '!', 'f', '\n'] ++ zerosBeforeSeven zeros)) =
      [⟨0, "m", "f", false, none, some "a", none⟩] := by
  have hplace := showsPlace_zerosBeforeSeven zeros
  have hnumber : lineNumber? (List.replicate zeros '0' ++ ['7']) = none := by
    rw [lineNumber?, if_neg]
    rw [List.length_append, List.length_replicate, List.length_singleton]
    omega
  have hrows : lines (['m', '!', 'f', '\n'] ++ zerosBeforeSeven zeros) =
      [['m', '!', 'f'], zerosBeforeSeven zeros] := by
    have hlast : (zerosBeforeSeven zeros).getLast? = some ')' := List.getLast?_concat
    rw [← @lines_intercalate [['m', '!', 'f'], zerosBeforeSeven zeros] (List.cons_ne_nil _ _)
      (by simp [zerosBeforeSeven]) (by simp [hlast]) _ (.inl rfl),
      List.intercalate_cons_cons, List.intercalate_singleton]
    rfl
  have hread : readFrame? ['m', '!', 'f'] = some ⟨false, ['m'], ['f'], none⟩ := by decide
  have hnone : readFrame? (zerosBeforeSeven zeros) = none := by
    rw [← Option.not_isSome_iff_eq_none, ← isFrameLine_iff]
    exact not_isFrameLine_of_isPlaceLine ⟨_, _, hplace⟩
  rw [frames, String.toList_ofList, hrows, framesFrom_cons, hread, framesFrom_cons, hnone]
  dsimp only [List.head?_cons, Option.bind_some]
  rw [readPlace?_eq_some_iff.2 hplace, frameOf, Option.bind_some, hplace.parseInt?_eq, hnumber]
  rfl

/-- The line after a frame line can name a place whose number the frame does not carry:
it is a seven, written with more digits than a number may have. -/
theorem long_line_number_lost :
    ShowsPlace (zerosBeforeSeven 4300) ['a'] (List.replicate 4300 '0' ++ ['7']) ∧
      decimalNumber (List.replicate 4300 '0' ++ ['7']) = 7 ∧
      frames (String.ofList (['m', '!', 'f', '\n'] ++ zerosBeforeSeven 4300)) =
        [⟨0, "m", "f", false, none, some "a", none⟩] :=
  ⟨showsPlace_zerosBeforeSeven 4300, (decimalNumber_zeros_append 4300 ['7']).trans rfl,
    frames_zerosBeforeSeven (le_refl 4300)⟩

end FrameLens.Listing
