import FrameLens.Proofs.Layout

/-!
# Counting lines

Lines are counted in two ways: the line table counts the starts of lines up to
an offset, and a cut of the text is split into rows.  Both come to the number of
line feeds, so the rows of a cut are numbered by the lines of its ends.  The table takes
every offset to a line that holds it and every line back to offsets on it, and cleaning
leaves it as it is.
-/

namespace FrameLens

namespace Text

variable {α : Type*} [DecidableEq α]

/-! ## Rows of a text -/

/-- The pieces are those of the library's split. -/
theorem splitOn_eq (separator : α) (text : List α) :
    splitOn separator text = text.splitOn separator := by
  induction text with
  | nil => rfl
  | cons c rest ih =>
      rw [splitOn, List.splitOn_cons_eq_if_modifyHead, ih]
      by_cases hc : c = separator
      · simp [hc]
      · cases hrest : rest.splitOn separator with
        | nil => exact absurd hrest (List.splitOn_ne_nil _ _)
        | cons piece pieces => simp [hc]

theorem splitOn_ne_nil (separator : α) (text : List α) : splitOn separator text ≠ [] := by
  rw [splitOn_eq]
  exact List.splitOn_ne_nil separator text

/-- There is one piece more than there are separators. -/
theorem length_splitOn (separator : α) (text : List α) :
    (splitOn separator text).length = text.count separator + 1 := by
  induction text with
  | nil => rfl
  | cons c rest ih =>
      rw [splitOn]
      by_cases hc : c = separator
      · simp [hc, ih]
      · cases hrest : splitOn separator rest with
        | nil => exact absurd hrest (splitOn_ne_nil separator rest)
        | cons piece pieces => simp [hc, ← ih, hrest]

theorem not_mem_of_mem_splitOn {separator : α} {text piece : List α}
    (hpiece : piece ∈ splitOn separator text) : separator ∉ piece := by
  induction text generalizing piece with
  | nil => simp_all [splitOn]
  | cons c rest ih =>
      rw [splitOn] at hpiece
      split at hpiece
      · rcases List.mem_cons.1 hpiece with rfl | hmem
        · simp
        · exact ih hmem
      · rename_i hc
        cases hrest : splitOn separator rest with
        | nil => exact absurd hrest (splitOn_ne_nil separator rest)
        | cons first pieces =>
            rw [hrest] at hpiece
            rcases List.mem_cons.1 hpiece with rfl | hmem
            · have hfirst : separator ∉ first := ih (by simp [hrest])
              simp [Ne.symm hc, hfirst]
            · exact ih (by simp [hrest, hmem])

/-- The rows joined make up the text again. -/
theorem joinLines_splitOn (text : List Char) : joinLines (splitOn '\n' text) = text := by
  rw [joinLines, splitOn_eq]
  exact List.intercalate_splitOn '\n'

/-- Rows without a line feed are read back from their joined text. -/
theorem splitOn_joinLines {rows : List LooseText} (hrows : rows ≠ [])
    (hfree : ∀ row ∈ rows, .char '\n' ∉ row) :
    splitOn (.char '\n') (LooseText.joinLines rows) = rows := by
  rw [splitOn_eq, LooseText.joinLines, List.splitOn_intercalate _ hfree hrows]

theorem count_foldLineEndings (text : List Char) :
    (foldLineEndings text).count '\n' = text.count '\n' := by
  fun_induction foldLineEndings text with
  | case1 rest ih => simp [ih]
  | case2 c rest _ ih => simp [List.count_cons, ih]
  | case3 => rfl

/-- A text has one line more than it has line feeds. -/
theorem length_lines (text : List Char) : (lines text).length = text.count '\n' + 1 := by
  rw [lines, length_splitOn, count_foldLineEndings]

/-! ## Rows put together -/

theorem foldLineEndings_cons {c : Char} {rest : List Char}
    (hpair : c = '\r' → ∀ d ∈ rest.head?, d ≠ '\n') :
    foldLineEndings (c :: rest) = c :: foldLineEndings rest := by
  rw [foldLineEndings.eq_def]
  split
  · rename_i heq
    cases heq
    exact absurd rfl (hpair rfl '\n' rfl)
  · rename_i heq
    cases heq
    rfl
  · rename_i heq
    cases heq

/-- How a line may end. -/
def IsLineEnding (newline : List Char) : Prop :=
  newline = ['\n'] ∨ newline = ['\r', '\n']

/-- A row and its line ending fold to the row and a line feed. -/
theorem foldLineEndings_append {row : List Char} (hfree : '\n' ∉ row)
    (hlast : ∀ c ∈ row.getLast?, c ≠ '\r') {newline : List Char}
    (hnewline : IsLineEnding newline) (rest : List Char) :
    foldLineEndings (row ++ newline ++ rest) = row ++ '\n' :: foldLineEndings rest := by
  rw [List.append_assoc]
  induction row with
  | nil =>
      obtain rfl | rfl := hnewline
      · rfl
      · rfl
  | cons c row ih =>
      have hfree := List.not_mem_of_not_mem_cons hfree
      cases row with
      | nil =>
          rw [List.singleton_append, foldLineEndings_cons fun hc => absurd hc (hlast c rfl)]
          exact congrArg (c :: ·) (ih hfree nofun)
      | cons d row =>
          have hd : d ≠ '\n' := fun heq => hfree (heq ▸ List.mem_cons_self)
          rw [List.cons_append, foldLineEndings_cons fun _ _ hhead => by cases hhead; exact hd,
            ih hfree hlast]
          rfl

theorem foldLineEndings_of_free {row : List Char} (hfree : '\n' ∉ row) :
    foldLineEndings row = row := by
  induction row with
  | nil => rfl
  | cons c row ih =>
      have hfree := List.not_mem_of_not_mem_cons hfree
      rw [foldLineEndings_cons, ih hfree]
      rintro - d hd rfl
      exact hfree (List.mem_of_mem_head? hd)

theorem unifyLineEndings_of_free {text : List Char} (hfree : '\r' ∉ text) :
    unifyLineEndings text = text := by
  induction text with
  | nil => rfl
  | cons c text ih =>
      have hc : c ≠ '\r' := fun heq => hfree (heq ▸ List.mem_cons_self)
      rw [unifyLineEndings, ih (List.not_mem_of_not_mem_cons hfree)]
      · exact fun _ heq => absurd heq hc
      · exact hc

/-- Rows are read back from their text, whichever way its lines end. -/
theorem lines_intercalate {rows : List (List Char)} (hrows : rows ≠ [])
    (hfree : ∀ row ∈ rows, '\n' ∉ row) (hlast : ∀ row ∈ rows, ∀ c ∈ row.getLast?, c ≠ '\r')
    {newline : List Char} (hnewline : IsLineEnding newline) :
    lines (newline.intercalate rows) = rows := by
  have hfold : foldLineEndings (newline.intercalate rows) = ['\n'].intercalate rows := by
    induction rows with
    | nil => exact absurd rfl hrows
    | cons row rest ih =>
        obtain ⟨hrow, hfree⟩ := List.forall_mem_cons.1 hfree
        obtain ⟨hend, hlast⟩ := List.forall_mem_cons.1 hlast
        cases rest with
        | nil =>
            rw [List.intercalate_singleton, List.intercalate_singleton]
            exact foldLineEndings_of_free hrow
        | cons next rest =>
            rw [List.intercalate_cons_cons, List.intercalate_cons_cons,
              foldLineEndings_append hrow hend hnewline, ih (List.cons_ne_nil _ _) hfree hlast,
              ← List.append_cons]
  rw [lines, hfold, splitOn_eq, List.splitOn_intercalate _ hfree hrows]

/-! ## Cuts -/

/-- A cut between offsets that are not negative, as a cut of the list. -/
theorem slice_eq (s : Text) {start stop : Int} (hstart : 0 ≤ start) (hstop : 0 ≤ stop) :
    s.slice start stop = (s.toList.take stop.toNat).drop start.toNat := by
  have htake (i : Nat) : s.toList.take (min i s.size) = s.toList.take i := by
    simp
  rw [slice, cutPlace_of_nonneg hstart, cutPlace_of_nonneg hstop, Array.toList_extract,
    List.extract_eq_take_drop, ← List.drop_take, htake]
  rcases le_total start.toNat s.size with hle | hge
  · rw [min_eq_left hle]
  · have hlength : (s.toList.take stop.toNat).length ≤ s.size := by
      rw [List.length_take, Array.length_toList]
      exact min_le_right _ _
    rw [min_eq_right hge, List.drop_eq_nil_of_le hlength,
      List.drop_eq_nil_of_le (hlength.trans hge)]

/-- The characters of a cut are those of the text at the same places. -/
theorem getElem?_slice (s : Text) {start stop : Int} (hstart : 0 ≤ start) (hstop : 0 ≤ stop)
    {k : Nat} {c : Char} :
    (s.slice start stop)[k]? = some c ↔
      start + k < stop ∧ s[start.toNat + k]? = some c := by
  rw [slice_eq s hstart hstop, List.getElem?_drop, List.getElem?_take, ← Array.getElem?_toList]
  split
  · rename_i hlt
    simp only [iff_and_self]
    omega
  · rename_i hge
    simp only [reduceCtorEq, false_iff]
    omega

theorem mem_slice_iff (s : Text) {start stop : Int} (hstart : 0 ≤ start) (hstop : 0 ≤ stop)
    {c : Char} :
    c ∈ s.slice start stop ↔
      ∃ place : Nat, start ≤ place ∧ (place : Int) < stop ∧ s[place]? = some c := by
  rw [List.mem_iff_getElem?]
  constructor
  · rintro ⟨k, hk⟩
    obtain ⟨hlt, hc⟩ := (getElem?_slice s hstart hstop).1 hk
    exact ⟨start.toNat + k, by omega, by omega, hc⟩
  · rintro ⟨place, hle, hlt, hc⟩
    refine ⟨place - start.toNat, (getElem?_slice s hstart hstop).2 ⟨by omega, ?_⟩⟩
    rwa [Nat.add_sub_cancel' (by omega)]

theorem take_append_slice (s : Text) {start stop : Int} (hstart : 0 ≤ start)
    (hle : start ≤ stop) :
    s.toList.take stop.toNat = s.toList.take start.toNat ++ s.slice start stop := by
  have hmin (i : Nat) : s.toList.take i = s.toList.take (min i s.size) := by
    simp
  have hcuts : min start.toNat s.size ≤ min stop.toNat s.size := by omega
  rw [slice, cutPlace_of_nonneg hstart, cutPlace_of_nonneg (le_trans hstart hle),
    Array.toList_extract, List.extract_eq_take_drop, hmin stop.toNat, hmin start.toNat,
    ← List.take_add, Nat.add_sub_cancel' hcuts]

end Text

namespace View

/-! ## The line table -/

/-- As many lines start up to an offset as line feeds stand before it. -/
theorem countP_lineStartsFrom (base offset : Nat) (text : List Char) :
    (lineStartsFrom base text).countP (fun start : Nat => decide ((start : Int) ≤ offset)) =
      (text.take (offset - base)).count '\n' := by
  induction text generalizing base with
  | nil => simp [lineStartsFrom]
  | cons c rest ih =>
      rw [lineStartsFrom]
      by_cases hlt : base < offset
      · obtain ⟨room, hroom⟩ : ∃ room, offset - base = room + 1 := ⟨offset - base - 1, by omega⟩
        have hnext : offset - (base + 1) = room := by omega
        rw [hroom, List.take_succ_cons]
        split
        · rename_i hc
          rw [List.countP_cons_of_pos (by simp; omega), ih, hnext, hc, List.count_cons_self]
        · rename_i hc
          rw [ih, hnext, List.count_cons_of_ne hc]
      · have hnone : offset - base = 0 := by omega
        have hnext : offset - (base + 1) = 0 := by omega
        split
        · rw [List.countP_cons_of_neg (by simp; omega), ih, hnext, hnone, List.take_zero]
          rfl
        · rw [ih, hnext, hnone, List.take_zero, List.take_zero]

/-- The line of an offset is one more than the number of line feeds before it. -/
theorem lineOf_eq_count (v : View) (offset : Nat) :
    v.lineOf offset = (v.raw.toList.take offset).count '\n' + 1 := by
  have hcount := countP_lineStartsFrom 0 offset v.raw.toList
  rw [lineOf, ← Array.countP_toList, toList_starts, lineStarts,
    List.countP_cons_of_pos (by simp), hcount, Nat.sub_zero]
  push_cast
  omega

/-- The lines of the cleaned text are those of the text. -/
theorem lineOf_eq_count_cleaned (v : View) (offset : Nat) :
    v.lineOf offset = (v.cleaned.toList.take offset).count '\n' + 1 := by
  rw [lineOf_eq_count, v.cleaned_eq, List.toList_toArray, clean, count_take_cleanFrom]

/-! ## From lines to offsets and back -/

/-- A stretch without line feeds lies on one line. -/
theorem lineOf_eq_of_no_lineFeed (v : View) {first last : Nat} (hle : first ≤ last)
    (hfree : ∀ place, first ≤ place → place < last → v.raw[place]? ≠ some '\n') :
    v.lineOf last = v.lineOf first := by
  have htake := Text.take_append_slice v.raw (Int.natCast_nonneg first)
    (Int.ofNat_le.2 hle)
  rw [Int.toNat_natCast, Int.toNat_natCast] at htake
  have hnone : (v.raw.slice first last).count '\n' = 0 := by
    rw [List.count_eq_zero]
    intro hmem
    obtain ⟨place, hfirst, hlast, hc⟩ := (Text.mem_slice_iff v.raw (Int.natCast_nonneg first)
      (Int.natCast_nonneg last)).1 hmem
    exact hfree place (by omega) (by omega) hc
  rw [lineOf_eq_count, lineOf_eq_count, htake, List.count_append, hnone, Nat.add_zero]

/-- The target on a line is on that line: no line feed is passed over on the way to it. -/
theorem lineOf_targetOffset {v : View} {line : Int} (hfirst : 1 ≤ line)
    (hlast : line ≤ v.lineCount) : v.lineOf (v.targetOffset line) = line := by
  obtain ⟨entry, -, hstart⟩ := exists_start hfirst hlast
  obtain ⟨stop, hstop, hle, hpassed⟩ :=
    Text.exists_skipWhile_eq v.raw (fun c => c == ' ' || c == '\t') entry
  rw [targetOffset, offsetOfLine_of_start hstart, if_neg (by omega), hstop,
    ← lineOf_start hstart]
  apply v.lineOf_eq_of_no_lineFeed hle
  intro place hbehind hbefore hc
  obtain ⟨d, hd, hblank⟩ := Text.holdsAt_eq_true_iff.1 (hpassed place hbehind hbefore)
  obtain rfl : d = '\n' := by simpa [hc] using hd.symm
  exact absurd hblank (by decide)

/-- An offset stands before the next line. -/
theorem lt_start?_next {v : View} {offset next : Int}
    (hnext : v.start? (v.lineOf offset + 1) = some next) : offset < next := by
  by_contra hle
  have hmono := v.lineOf_mono (not_lt.1 hle)
  rw [lineOf_start hnext] at hmono
  omega

/-- The line table is that of both texts and counts line feeds; every line holds the
offsets that stand for it, and every offset stands between the start of its line and that
of the next. -/
theorem lines_hold_offsets (v : View) :
    v.cleaned.length = v.raw.length ∧
    (∀ place : Nat, v.cleaned[place]? = some '\n' ↔ v.raw[place]? = some '\n') ∧
    lineStarts v.cleaned.toList = v.starts.toList ∧
    (∀ offset : Nat, v.lineOf offset = 1 + (v.raw.toList.take offset).count '\n') ∧
    (∀ line : Int, 1 ≤ line → line ≤ v.lineCount →
      v.lineOf (v.offsetOfLine line) = line ∧ v.lineOf (v.targetOffset line) = line) ∧
    ∀ offset : Nat, v.offsetOfLine (v.lineOf offset) ≤ offset ∧
      (v.lineOf offset < v.lineCount → offset < v.offsetOfLine (v.lineOf offset + 1)) := by
  refine ⟨v.length_cleaned, fun place => v.cleaned_lineFeed_iff, v.lineStarts_cleaned,
    fun offset => ?_, fun line hfirst hlast => ⟨?_, lineOf_targetOffset hfirst hlast⟩,
    fun offset => ⟨?_, fun hmore => ?_⟩⟩
  · rw [lineOf_eq_count, Int.add_comm]
  · obtain ⟨entry, -, hstart⟩ := exists_start hfirst hlast
    rw [offsetOfLine_of_start hstart, lineOf_start hstart]
  · obtain ⟨entry, -, hstart⟩ := exists_start (v.one_le_lineOf offset)
      (v.lineOf_le_lineCount offset)
    rw [offsetOfLine_of_start hstart]
    exact start?_le (Int.natCast_nonneg offset) (le_refl _) hstart
  · have hfirst := v.one_le_lineOf offset
    obtain ⟨entry, -, hnext⟩ :=
      exists_start (show 1 ≤ v.lineOf offset + 1 by omega) (Int.add_one_le_of_lt hmore)
    rw [offsetOfLine_of_start hnext]
    exact lt_start?_next hnext

end View

end FrameLens
