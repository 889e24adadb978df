import FrameLens.Code.Snippet
import FrameLens.Proofs.Lines
import FrameLens.Proofs.Strategies

/-!
# What a snippet shows

A snippet is a contiguous window of the rows of a span with the focus row inside
it.  The window is described row by row, and the text that is shown is read back
into its lines.  For a span that was located the rows are numbered by the lines
of the file.
-/

namespace FrameLens.Snippet

variable {v : View} {rows block : List LooseText} {marker : LooseText} {maxLines : Int}
  {total focus first : Nat}

/-! ## Where the window lies -/

/-- How many of `total` rows a window of `maxLines` rows shows. -/
def shownCount (total : Nat) (maxLines : Int) : Nat :=
  if 0 < maxLines then min total maxLines.toNat else total

/-- A window from `first` on holds the focus and lies inside the rows.  If it leaves
rows out it begins half its size above the focus, as far as it stays inside. -/
structure Fits (total focus : Nat) (maxLines : Int) (first : Nat) : Prop where
  inside : first + shownCount total maxLines ≤ total
  first_le : first ≤ focus
  lt_last : focus < first + shownCount total maxLines
  first_eq : shownCount total maxLines < total →
    (first : Int) = max 0 (min (focus - maxLines / 2) (total - maxLines))

/-- The window around a row has the size that it is to have and holds the row. -/
theorem window_fits (hfocus : focus < total) (maxLines : Int) :
    ∃ first : Nat, Fits total focus maxLines first ∧
      window total focus maxLines =
        ((first : Int), ((first + shownCount total maxLines : Nat) : Int)) := by
  by_cases hall : maxLines ≤ 0 ∨ (total : Int) ≤ maxLines
  · have hcount : shownCount total maxLines = total := by
      rw [shownCount]
      split <;> omega
    refine ⟨0, ⟨?_, ?_, ?_, ?_⟩, ?_⟩
    · rw [hcount, Nat.zero_add]
    · exact Nat.zero_le focus
    · rwa [hcount, Nat.zero_add]
    · rw [hcount]
      exact fun hlt => absurd hlt (lt_irrefl total)
    · rw [window, if_pos hall, hcount, Nat.zero_add]
      rfl
  · have hcount : shownCount total maxLines = maxLines.toNat := by
      rw [shownCount, if_pos (by omega)]
      omega
    have hhalf : Int.fdiv maxLines 2 = maxLines / 2 :=
      Int.fdiv_eq_ediv_of_nonneg maxLines (by decide)
    obtain ⟨first, hfirst⟩ : ∃ first : Nat,
        (first : Int) = max 0 (min (focus - maxLines / 2) (total - maxLines)) :=
      Int.eq_ofNat_of_zero_le (le_max_left _ _) |>.imp fun _ h => h.symm
    refine ⟨first, ⟨?_, ?_, ?_, fun _ => hfirst⟩, ?_⟩
    · omega
    · omega
    · omega
    · rw [window, if_neg hall, hhalf, hcount, Prod.mk.injEq]
      constructor
      · omega
      · omega

/-! ## What it shows -/

/-- The rows of `block` are those of `rows` in the window from `first` on, with the
marker before the focus row. -/
structure IsWindow (rows : List LooseText) (focus : Nat) (maxLines : Int)
    (marker : LooseText) (first : Nat) (block : List LooseText) : Prop extends
    Fits rows.length focus maxLines first where
  length_eq : block.length = shownCount rows.length maxLines
  unchanged : ∀ i < block.length, first + i ≠ focus → block[i]? = rows[first + i]?
  marked : ∃ row, rows[focus]? = some row ∧
    block[focus - first]? = some (marker ++ .char ' ' :: row)

theorem length_cut {α : Type*} (items : List α) {count : Nat}
    (hinside : first + count ≤ items.length) :
    ((items.take (first + count)).drop first).length = count := by
  rw [List.length_drop, List.length_take, Nat.min_eq_left hinside, Nat.add_sub_cancel_left]

theorem getElem?_cut {α : Type*} (items : List α) {count i : Nat} (hi : i < count) :
    ((items.take (first + count)).drop first)[i]? = items[first + i]? := by
  rw [List.getElem?_drop, List.getElem?_take_of_lt (Nat.add_lt_add_left hi first)]

/-- Cutting the marked rows where the window lies gives what it has to show. -/
theorem isWindow_cut {row : LooseText} (hrow : rows[focus]? = some row)
    (hfits : Fits rows.length focus maxLines first) :
    IsWindow rows focus maxLines marker first
      (((rows.set focus (Snippet.marked marker row)).take
        (first + shownCount rows.length maxLines)).drop first) := by
  have hlength := length_cut (rows.set focus (Snippet.marked marker row))
    (by rw [List.length_set]; exact hfits.inside)
  refine ⟨hfits, hlength, fun i hi hne => ?_, row, hrow, ?_⟩
  · rw [hlength] at hi
    rw [getElem?_cut _ hi, List.getElem?_set_ne hne.symm]
  · have hfirst := hfits.first_le
    have hlast := hfits.lt_last
    rw [getElem?_cut _ (by omega), Nat.add_sub_cancel' hfirst,
      List.getElem?_set_self (List.getElem?_eq_some_iff.1 hrow).1]
    rfl

/-- The window with a line for the rows left out above it, and one for those below. -/
def framed (total first : Nat) (block : List LooseText) : List LooseText :=
  (if 0 < first then [LooseText.ofString omittedAbove] else []) ++ block ++
    (if first + block.length < total then [LooseText.ofString omittedBelow] else [])

/-- The rows of the text between two offsets. -/
def rowsBetween (v : View) (start stop : Int) : List LooseText :=
  (Text.lines (v.raw.slice start stop)).map LooseText.ofChars

theorem rowsBetween_ne_nil (v : View) (start stop : Int) : rowsBetween v start stop ≠ [] := by
  rw [rowsBetween, Ne, List.map_eq_nil_iff]
  exact Text.splitOn_ne_nil '\n' _

theorem newline_not_mem_rowsBetween {start stop : Int} {row : LooseText}
    (hrow : row ∈ rowsBetween v start stop) : .char '\n' ∉ row := by
  obtain ⟨line, hline, rfl⟩ := List.mem_map.1 hrow
  have hfree : '\n' ∉ line := Text.not_mem_of_mem_splitOn hline
  simpa [LooseText.ofChars] using hfree

/-- The text of a snippet is its framed window, whatever the span and the line are. -/
theorem render_eq (v : View) (span : Span) (line maxLines : Int) (marker : LooseText) :
    ∃ (focus first : Nat) (block : List LooseText),
      (focus : Int) = max 0 (min (line - span.firstLine)
        ((rowsBetween v span.start span.stop).length - 1)) ∧
      IsWindow (rowsBetween v span.start span.stop) focus maxLines marker first block ∧
      render v span line maxLines marker = .ok (LooseText.joinLines
        (framed (rowsBetween v span.start span.stop).length first block)) := by
  have hpos := List.length_pos_iff.2 (rowsBetween_ne_nil v span.start span.stop)
  generalize hrows : rowsBetween v span.start span.stop = rows at hpos ⊢
  obtain ⟨focus, hfocus⟩ : ∃ focus : Nat, focusRow span rows.length line = focus :=
    Int.eq_ofNat_of_zero_le (le_max_left _ _)
  have hfocus_eq : (focus : Int) = max 0 (min (line - span.firstLine) (rows.length - 1)) :=
    hfocus.symm
  have hlt : focus < rows.length := by omega
  have hrow : rows[focus]? = some rows[focus] := List.getElem?_eq_getElem hlt
  obtain ⟨first, hfits, hwindow⟩ := window_fits hlt maxLines
  have hmarked : markedRows v span line marker =
      .ok (rows.set focus (marked marker rows[focus]), (focus : Int)) := by
    rw [rowsBetween] at hrows
    simp only [markedRows, hrows, hfocus, Int.toNat_natCast, hrow]
  refine ⟨focus, first, _, hfocus_eq, isWindow_cut hrow hfits, ?_⟩
  rw [render, hmarked, OutOfRange.ok_bind]
  dsimp only
  rw [List.length_set, hwindow, framed, length_cut _ (by rw [List.length_set]; exact hfits.inside)]
  simp only [Int.toNat_natCast, Int.natCast_pos, Int.ofNat_lt]
  rfl

/-! ## Reading it back -/

theorem IsWindow.newline_not_mem (hwindow : IsWindow rows focus maxLines marker first block)
    (hrows : ∀ row ∈ rows, .char '\n' ∉ row) (hmarker : .char '\n' ∉ marker) :
    ∀ row ∈ block, .char '\n' ∉ row := by
  intro row hrow
  obtain ⟨i, hi, hget⟩ := List.getElem_of_mem hrow
  have hget? : block[i]? = some row := List.getElem?_eq_some_iff.2 ⟨hi, hget⟩
  by_cases hfocus : first + i = focus
  · obtain ⟨target, htarget, hmarked⟩ := hwindow.marked
    rw [show focus - first = i by omega, hget?] at hmarked
    obtain rfl : row = marker ++ .char ' ' :: target := by simpa using hmarked
    have hfree := hrows target (List.mem_of_getElem? htarget)
    simp [hmarker, hfree]
  · rw [hwindow.unchanged i hi hfocus] at hget?
    exact hrows row (List.mem_of_getElem? hget?)

/-- A block and the notes around it are the lines of what is shown. -/
theorem splitOn_framed (hwindow : IsWindow rows focus maxLines marker first block)
    (hrows : ∀ row ∈ rows, .char '\n' ∉ row) (hmarker : .char '\n' ∉ marker) :
    Text.splitOn (.char '\n') (LooseText.joinLines (framed rows.length first block)) =
      framed rows.length first block := by
  apply Text.splitOn_joinLines
  · have hlast := hwindow.lt_last
    have hfirst := hwindow.first_le
    have hblock : block ≠ [] := by
      rintro rfl
      rw [← hwindow.length_eq, List.length_nil] at hlast
      omega
    simp [framed, hblock]
  · intro row hrow
    rcases List.mem_append.1 hrow with hrow | hbelow
    · rcases List.mem_append.1 hrow with habove | hinside
      · obtain rfl : row = LooseText.ofString omittedAbove := by
          split at habove <;> simp_all
        decide
      · exact hwindow.newline_not_mem hrows hmarker row hinside
    · obtain rfl : row = LooseText.ofString omittedBelow := by
        split at hbelow <;> simp_all
      decide

/-! ## Rows and lines -/

/-- A span that ends with a character other than a line feed has a row for each line. -/
theorem length_rowsBetween {span : Span} (hplaced : Extraction.Placed v span) :
    ((rowsBetween v span.start span.stop).length : Int) = span.lineCount := by
  have hstart := hplaced.start_nonneg
  have hlt := hplaced.start_lt
  obtain ⟨c, hc, hnewline⟩ : ∃ c, v.raw.at? (span.stop - 1) = some c ∧ c ≠ '\n' := by
    rcases hplaced.ends with hbrace | hsemicolon
    · exact ⟨_, View.at?_raw_of_cleaned (by omega) hbrace (by decide) (by decide), by decide⟩
    · exact ⟨_, View.at?_raw_of_cleaned (by omega) hsemicolon (by decide) (by decide),
        by decide⟩
  obtain ⟨last, hlast⟩ : ∃ last : Nat, span.stop - 1 = last :=
    Int.eq_ofNat_of_zero_le (by omega)
  obtain ⟨first, hfirst⟩ : ∃ first : Nat, span.start = first :=
    Int.eq_ofNat_of_zero_le hstart
  have hstop : span.stop.toNat = last + 1 := by omega
  rw [hlast, Text.at?_natCast, ← Array.getElem?_toList] at hc
  -- The line feeds up to the end are those before the start and those of the rows.
  have hcount := congrArg (List.count '\n')
    (Text.take_append_slice v.raw hstart (le_of_lt hlt))
  rw [hstop, List.take_add_one, hc, hfirst, Int.toNat_natCast, List.count_append,
    List.count_append, Option.toList_some, List.count_singleton, if_neg (by simpa using hnewline)]
    at hcount
  rw [rowsBetween, List.length_map, Text.length_lines, Span.lineCount, hplaced.firstLine_eq,
    hplaced.lastLine_eq, hlast, hfirst, View.lineOf_eq_count, View.lineOf_eq_count]
  push_cast
  omega

/-- The span is what one of the locators came to: the search by name, the search for the
block around an offset, or that for an arrow member near a line. -/
inductive Located (v : View) (span : Span) : Prop where
  | named {name : String} {target : Int} {settings : Settings} :
      Definition.locate v name target settings = .ok (some span) → Located v span
  | around {target : Int} {hint : String} {settings : Settings} :
      Block.locate v target hint settings = .ok (some span) → Located v span
  | arrow {line : Int} {settings : Settings} {found : Block.Search} :
      Block.arrowNear v line settings = .ok found → found.span? = some span → Located v span

/-- An arrow that is found is placed. -/
theorem placed_of_arrowNear {line : Int} {settings : Settings} {found : Block.Search}
    {span : Span} (hfound : Block.arrowNear v line settings = .ok found)
    (hspan : found.span? = some span) : Extraction.Placed v span := by
  rw [Block.arrowNear] at hfound
  rcases Block.arrowAbove_sound hfound with rfl | ⟨arrow, semicolon, span', rfl, -, -, hshows⟩
  · cases hspan
  · cases hspan
    exact Extraction.placed_of_showsArrow hshows

/-- A function that was located is placed, in whichever way it was found. -/
theorem Located.placed {span : Span} (hlocated : Located v span) :
    Extraction.Placed v span := by
  cases hlocated with
  | named hlocate =>
      obtain ⟨hit, -, -, htakes⟩ := Definition.exists_takes_of_locate hlocate
      exact Extraction.placed_of_takes htakes
  | @around target hint settings hlocate =>
      obtain ⟨found, hfound, hspan⟩ := OutOfRange.map_eq_ok_iff.1 hlocate
      rcases Block.search_cases v target hint settings with
        hnothing | harrow | ⟨brace, close, span', hblock, hreaches, hshows⟩
      · rw [hfound] at hnothing
        cases hnothing
        cases hspan
      · rw [hfound] at harrow
        exact placed_of_arrowNear harrow.symm hspan
      · rw [hfound] at hblock
        cases hblock
        cases hspan
        exact Extraction.placed_of_shows hshows hreaches.closes
  | arrow hfound hspan => exact placed_of_arrowNear hfound hspan

/-! ## Snippets of spans -/

/-- The lines of the snippet are a window of the rows between two offsets, around the row
of the target line, and a line for the rows left out on either side. -/
def ShowsWindow (v : View) (start stop : Int) (strategy : Strategy) (line maxLines : Int)
    (marker : LooseText) : Prop :=
  ∃ (focus first : Nat) (block : List LooseText) (shown : LooseText),
    (focus : Int) = max 0 (min (line - v.lineOf start)
      ((rowsBetween v start stop).length - 1)) ∧
    IsWindow (rowsBetween v start stop) focus maxLines marker first block ∧
    render v (Span.ofOffsets v start stop strategy) line maxLines marker = .ok shown ∧
    Text.splitOn (.char '\n') shown = framed (rowsBetween v start stop).length first block

/-- A snippet faithfully shows a window of its span, and the rows of a span that was
located are as many as its lines. -/
theorem render_shows_window (v : View) (start stop : Int) (strategy : Strategy)
    (line maxLines : Int) (marker : LooseText) (hle : start ≤ stop)
    (hstop : stop ≤ v.raw.length) (hmarker : .char '\n' ∉ marker) :
    ShowsWindow v start stop strategy line maxLines marker ∧
      ∀ span, Located v span →
        ((rowsBetween v span.start span.stop).length : Int) = span.lineCount := by
  refine ⟨?_, fun span hlocated => length_rowsBetween hlocated.placed⟩
  have hspan : (Span.ofOffsets v start stop strategy).stop = stop := by
    rw [Span.ofOffsets, min_eq_right hstop, max_eq_right hle]
  obtain ⟨focus, first, block, hfocus, hwindow, hrender⟩ :=
    render_eq v (Span.ofOffsets v start stop strategy) line maxLines marker
  rw [hspan] at hfocus hwindow hrender
  exact ⟨focus, first, block, _, hfocus, hwindow, hrender,
    splitOn_framed hwindow (fun _ => newline_not_mem_rowsBetween) hmarker⟩

/-- Five lines with different endings, and a span from the second one into the fifth. -/
def fiveLines : View :=
  View.ofText [] Dialect.c "a\r\nvoid f()\n\x7b\r\n  g();\n\x7d // end".toList

theorem render_shows_window_cropped :
    ShowsWindow fiveLines 3 26 .named 4 3 "==>" ∧
      ∀ span, Located fiveLines span →
        ((rowsBetween fiveLines span.start span.stop).length : Int) = span.lineCount :=
  render_shows_window fiveLines 3 26 .named 4 3 "==>" (by decide) (by decide) (by decide)

end FrameLens.Snippet
