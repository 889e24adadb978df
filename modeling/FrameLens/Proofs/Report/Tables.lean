import FrameLens.Proofs.Lines
import FrameLens.Proofs.Text.Decimals
import FrameLens.Proofs.Text.Trimming
import FrameLens.Report.Layout
import Mathlib.Algebra.GroupWithZero.Nat
import Mathlib.Data.List.Forall2
import Mathlib.Order.Bounds.Basic

/-!
# Tables

A column is as wide as its widest cell, and a cell starts where the columns before it end, with two
blanks between neighbours.  Rows may be shorter than the headers.  A longer row is passed over when
the widths are taken, but has no place when it is shown, so that a table exists if and only if no
row that is shown is longer than the headers.
-/

namespace FrameLens

namespace Report

open FrameLens.Text (padEnd)

variable {headers row : List LooseText} {rows : List (List LooseText)} {widths : List Nat}
variable {cell line : LooseText} {k : Nat}

/-! ## Widths -/

/-- The lengths of the cells of a column, its header included. -/
def cellLengths (headers : List LooseText) (rows : List (List LooseText)) (k : Nat) : List Nat :=
  ((headers :: rows).filterMap (·[k]?)).map List.length

/-- The greatest length of a cell in a column. -/
def columnWidth (headers : List LooseText) (rows : List (List LooseText)) (k : Nat) : Nat :=
  (cellLengths headers rows k).max?.getD 0

/-- A column is widened to its cell, if the row has one. -/
theorem getElem?_widen (widths : List Nat) (row : List LooseText) (k : Nat) :
    (widen widths row)[k]? =
      widths[k]?.map fun width => (row[k]?.map List.length).elim width (max width) := by
  induction widths, row using widen.induct generalizing k with
  | case1 row => simp [widen]
  | case2 widths hne => simp [widen]
  | case3 width widths cell cells ih =>
      rw [widen]
      cases k with
      | zero => rfl
      | succ k => exact ih k

/-- What the rows make of the width of a column. -/
theorem getElem?_foldl_widen (rows : List (List LooseText)) (widths : List Nat) (k : Nat) :
    (rows.foldl widen widths)[k]? =
      widths[k]?.map fun width => ((rows.filterMap (·[k]?)).map List.length).foldl max width := by
  induction rows generalizing widths with
  | nil => simp
  | cons row rows ih =>
      rw [List.foldl_cons, ih, getElem?_widen, Option.map_map]
      congr 1
      funext width
      cases hcell : row[k]? with
      | none => simp [hcell]
      | some cell => simp [hcell]

/-- Each column is as wide as the widest of its cells. -/
theorem columnWidths_eq (headers : List LooseText) (rows : List (List LooseText)) :
    columnWidths headers rows = (List.range headers.length).map (columnWidth headers rows) := by
  apply List.ext_getElem?
  intro k
  rw [columnWidths, getElem?_foldl_widen, List.getElem?_map, List.getElem?_map]
  by_cases hk : k < headers.length
  · have hlengths : cellLengths headers rows k =
        headers[k].length :: (rows.filterMap (·[k]?)).map List.length := by
      simp [cellLengths, hk]
    rw [List.getElem?_eq_getElem hk, List.getElem?_range hk, Option.map_some, Option.map_some,
      Option.map_some, columnWidth, hlengths, List.max?_cons']
    rfl
  · rw [List.getElem?_eq_none (not_lt.1 hk), List.getElem?_eq_none (by simpa using hk)]
    rfl

theorem length_columnWidths (headers : List LooseText) (rows : List (List LooseText)) :
    (columnWidths headers rows).length = headers.length := by
  rw [columnWidths_eq, List.length_map, List.length_range]

theorem mem_cellLengths_iff {length : Nat} :
    length ∈ cellLengths headers rows k ↔
      ∃ row ∈ headers :: rows, ∃ cell, row[k]? = some cell ∧ cell.length = length := by
  simp only [cellLengths, List.mem_map, List.mem_filterMap]
  constructor
  · rintro ⟨cell, ⟨row, hrow, hcell⟩, hlength⟩
    exact ⟨row, hrow, cell, hcell, hlength⟩
  · rintro ⟨row, hrow, cell, hcell, hlength⟩
    exact ⟨cell, ⟨row, hrow, hcell⟩, hlength⟩

/-- A column is as wide as its widest cell. -/
theorem columnWidth_isGreatest (hk : k < headers.length) :
    IsGreatest
      {length | ∃ row ∈ headers :: rows, ∃ cell, row[k]? = some cell ∧ cell.length = length}
      (columnWidth headers rows k) := by
  have hheader : headers[k].length ∈ cellLengths headers rows k :=
    mem_cellLengths_iff.2
      ⟨headers, List.mem_cons_self, headers[k], List.getElem?_eq_getElem hk, rfl⟩
  obtain ⟨width, hwidth⟩ : ∃ width, (cellLengths headers rows k).max? = some width := by
    cases hmax : (cellLengths headers rows k).max? with
    | none => exact absurd hheader (List.max?_eq_none_iff.1 hmax ▸ List.not_mem_nil)
    | some width => exact ⟨width, rfl⟩
  obtain ⟨hmem, hle⟩ := List.max?_eq_some_iff.1 hwidth
  rw [columnWidth, hwidth, Option.getD_some]
  constructor
  · exact mem_cellLengths_iff.1 hmem
  · intro length hlength
    exact hle length (mem_cellLengths_iff.2 hlength)

/-- No cell is wider than its column. -/
theorem length_le_columnWidth (hrow : row ∈ headers :: rows) (hlength : row.length ≤ headers.length)
    (hcell : row[k]? = some cell) : cell.length ≤ columnWidth headers rows k := by
  have hk : k < row.length := (List.getElem?_eq_some_iff.1 hcell).1
  exact (columnWidth_isGreatest (hk.trans_le hlength)).2 ⟨row, hrow, cell, hcell, rfl⟩

/-! ## Rows -/

/-- Cells, each filled up to its column, with two blanks between neighbours. -/
def laidOut (widths : List Nat) (row : List LooseText) : LooseText :=
  joinCells ((row.zip widths).map fun (cell, width) => padEnd width blank cell)

/-- A row that has no more cells than columns is laid out. -/
theorem padCells_eq_ok (hlength : row.length ≤ widths.length) :
    padCells widths row =
      .ok ((row.zip widths).map fun (cell, width) => padEnd width blank cell) := by
  induction row generalizing widths with
  | nil => rw [padCells, List.zip_nil_left, List.map_nil]
  | cons cell row ih =>
      cases widths with
      | nil => simp at hlength
      | cons width widths =>
          rw [padCells, ih (Nat.le_of_succ_le_succ hlength), List.zip_cons_cons, List.map_cons]
          rfl

/-- A row with more cells than columns has a cell without a place. -/
theorem padCells_eq_error (hlength : widths.length < row.length) :
    padCells widths row = .error .item := by
  induction row generalizing widths with
  | nil => simp at hlength
  | cons cell row ih =>
      cases widths with
      | nil => rfl
      | cons width widths =>
          rw [padCells, ih (Nat.lt_of_succ_lt_succ hlength)]
          rfl

theorem tableRow_eq_ok (hlength : row.length ≤ widths.length) :
    tableRow widths row = .ok (laidOut widths row).trimRight := by
  rw [tableRow, padCells_eq_ok hlength]
  rfl

theorem tableRow_eq_error (hlength : widths.length < row.length) :
    tableRow widths row = .error .item := by
  rw [tableRow, padCells_eq_error hlength]
  rfl

/-- Rows that fit are printed without the blanks at their ends. -/
theorem mapM_tableRow_eq_ok (hrows : ∀ row ∈ rows, row.length ≤ widths.length) :
    rows.mapM (tableRow widths) = .ok (rows.map fun row => (laidOut widths row).trimRight) := by
  induction rows with
  | nil => rfl
  | cons row rows ih =>
      obtain ⟨hrow, hrows⟩ := List.forall_mem_cons.1 hrows
      rw [List.mapM_cons, tableRow_eq_ok hrow, OutOfRange.ok_bind, ih hrows, OutOfRange.ok_bind]
      rfl

/-- One row without a place for its cells is enough for a table to fail. -/
theorem mapM_tableRow_eq_error (hrow : row ∈ rows) (hlength : widths.length < row.length) :
    rows.mapM (tableRow widths) = .error .item := by
  induction rows with
  | nil => exact absurd hrow List.not_mem_nil
  | cons first rows ih =>
      rw [List.mapM_cons]
      rcases Nat.lt_or_ge widths.length first.length with hfirst | hfirst
      · rw [tableRow_eq_error hfirst]
        rfl
      · rw [tableRow_eq_ok hfirst, OutOfRange.ok_bind, ih ?_]
        · rfl
        · rcases List.mem_cons.1 hrow with rfl | hrow
          · exact absurd hlength (not_lt.2 hfirst)
          · exact hrow

/-! ## Places -/

/-- Where a column starts: behind the columns before it and the blanks between them. -/
def columnStart (headers : List LooseText) (rows : List (List LooseText)) (k : Nat) : Nat :=
  ((List.range k).map fun j => columnWidth headers rows j + 2).sum

/-- A cell stands in a line from a column on, if the line is filled up with blanks. -/
def StandsAt (line : LooseText) (column : Nat) (cell : LooseText) : Prop :=
  ∃ blanks : LooseText, blanks.isBlank = true ∧
    ∃ before after, line ++ blanks = before ++ cell ++ after ∧ before.length = column

/-- Each cell of a row stands where its column starts. -/
def IsAligned (headers : List LooseText) (rows : List (List LooseText)) (row : List LooseText)
    (line : LooseText) : Prop :=
  ∀ k cell, row[k]? = some cell → StandsAt line (columnStart headers rows k) cell

theorem laidOut_cons_cons (width width' : Nat) (widths : List Nat) (cell cell' : LooseText)
    (row : List LooseText) :
    laidOut (width :: width' :: widths) (cell :: cell' :: row) =
      padEnd width blank cell ++ [blank, blank] ++ laidOut (width' :: widths) (cell' :: row) := by
  rw [laidOut, joinCells, List.zip_cons_cons, List.zip_cons_cons, List.map_cons, List.map_cons,
    List.intercalate_cons_cons]
  rfl

theorem exists_laidOut_cons_eq (width : Nat) (widths : List Nat) (cell : LooseText)
    (row : List LooseText) :
    ∃ after, laidOut (width :: widths) (cell :: row) = cell ++ after := by
  rw [laidOut, joinCells, List.zip_cons_cons, List.map_cons]
  cases (row.zip widths).map fun (cell, width) => padEnd width blank cell with
  | nil => exact ⟨_, List.intercalate_singleton⟩
  | cons next cells =>
      refine ⟨List.replicate (width - cell.length) blank ++
        ([blank, blank] ++ joinCells (next :: cells)), ?_⟩
      rw [List.intercalate_cons_cons, joinCells, List.append_assoc, ← List.append_assoc cell]
      rfl

theorem length_padEnd {width : Nat} (hfits : cell.length ≤ width) :
    (padEnd width blank cell).length = width := by
  rw [padEnd, List.length_append, List.length_replicate]
  omega

/-- Cells that fit into their columns stand behind the widths of the columns before them. -/
theorem exists_laidOut_eq (hlength : row.length ≤ widths.length)
    (hfits : ∀ (j : Nat) (cell : LooseText) (width : Nat),
      row[j]? = some cell → widths[j]? = some width → cell.length ≤ width)
    (hcell : row[k]? = some cell) :
    ∃ before after, laidOut widths row = before ++ cell ++ after ∧
      before.length = ((widths.take k).map (· + 2)).sum := by
  induction k generalizing widths row with
  | zero =>
      match row, widths, hlength with
      | first :: row, width :: widths, _ =>
          obtain rfl : first = cell := Option.some.inj hcell
          obtain ⟨after, hafter⟩ := exists_laidOut_cons_eq width widths first row
          exact ⟨[], after, hafter, rfl⟩
  | succ k ih =>
      -- A cell further on has a neighbour before it, and so two blanks.
      match row, widths, hlength with
      | [], _, _ => exact absurd hcell nofun
      | [_], _, _ => exact absurd hcell nofun
      | first :: second :: row, width :: width' :: widths, hlength =>
          obtain ⟨before, after, hlaid, hbefore⟩ := ih (Nat.le_of_succ_le_succ hlength)
            (fun j cell width hcell hwidth => hfits (j + 1) cell width hcell hwidth) hcell
          have hfirst : first.length ≤ width := hfits 0 first width rfl rfl
          refine ⟨padEnd width blank first ++ [blank, blank] ++ before, after, ?_, ?_⟩
          · rw [laidOut_cons_cons, hlaid, List.append_assoc, List.append_assoc, List.append_assoc,
              List.append_assoc, List.append_assoc]
          · rw [List.length_append, List.length_append, length_padEnd hfirst, hbefore,
              List.take_succ_cons, List.map_cons, List.sum_cons]
            rfl

/-- A column starts behind those before it. -/
theorem sum_take_columnWidths (hk : k ≤ headers.length) :
    (((columnWidths headers rows).take k).map (· + 2)).sum = columnStart headers rows k := by
  rw [columnWidths_eq, ← List.map_take, List.take_range, min_eq_left hk, List.map_map]
  rfl

/-- A row that is no longer than the headers is aligned when it is laid out. -/
theorem isAligned_laidOut (hrow : row ∈ headers :: rows) (hlength : row.length ≤ headers.length) :
    IsAligned headers rows row (laidOut (columnWidths headers rows) row) := by
  intro k cell hcell
  have hk : k < row.length := (List.getElem?_eq_some_iff.1 hcell).1
  have hfits (j : Nat) (cell : LooseText) (width : Nat) (hcell : row[j]? = some cell)
      (hwidth : (columnWidths headers rows)[j]? = some width) : cell.length ≤ width := by
    have hj : j < headers.length :=
      (List.getElem?_eq_some_iff.1 hcell).1.trans_le hlength
    rw [columnWidths_eq, List.getElem?_map, List.getElem?_range hj] at hwidth
    rw [← Option.some.inj hwidth]
    exact length_le_columnWidth hrow hlength hcell
  obtain ⟨before, after, hlaid, hbefore⟩ := exists_laidOut_eq
    (hlength.trans_eq (length_columnWidths headers rows).symm) hfits hcell
  refine ⟨[], rfl, before, after, ?_, ?_⟩
  · rw [List.append_nil, hlaid]
  · rw [hbefore, sum_take_columnWidths (hk.le.trans hlength)]

/-- Blanks that are cut off at the end of a line move no cell. -/
theorem IsAligned.trimRight (haligned : IsAligned headers rows row line) :
    IsAligned headers rows row line.trimRight := by
  intro k cell hcell
  obtain ⟨blanks, hblanks, before, after, hline, hbefore⟩ := haligned k cell hcell
  obtain ⟨cut, hcut, hblank, -⟩ :=
    Text.exists_eq_rdropWhile_append (CodePoint.isChar Text.isBlank) line
  refine ⟨cut ++ blanks, ?_, before, after, ?_, hbefore⟩
  · rw [LooseText.isBlank, List.all_append, List.all_eq_true.2 hblank]
    exact hblanks
  · rw [← hline, ← List.append_assoc]
    exact congrArg (· ++ blanks) hcut.symm

/-! ## Lines -/

/-- The rows that a budget shows; zero shows all. -/
def shownRows (budget : Nat) (rows : List (List LooseText)) : List (List LooseText) :=
  if budget = 0 then rows else rows.take budget

/-- The line that counts the rows which a budget leaves out. -/
def leftOut (budget : Nat) (rows : List (List LooseText)) : List LooseText :=
  if 0 < budget ∧ budget < rows.length then [LooseText.ofString (moreNote budget rows)] else []

theorem exceeds_eq_true_iff (budget : Nat) (rows : List (List LooseText)) :
    exceeds budget rows = true ↔ 0 < budget ∧ budget < rows.length := by
  rw [exceeds, Bool.and_eq_true, bne_iff_ne, decide_eq_true_iff]
  omega

/-- A budget shows the first rows. -/
theorem shownRows_eq (budget : Nat) (rows : List (List LooseText)) :
    (if exceeds budget rows then takeSigned budget rows else rows) = shownRows budget rows := by
  have htake : takeSigned budget rows = rows.take (min budget rows.length) := by
    rw [takeSigned, Text.cutPlace, if_neg (by omega), Int.toNat_natCast]
  rw [shownRows, htake]
  by_cases hexceeds : exceeds budget rows = true
  · obtain ⟨hpositive, hlt⟩ := (exceeds_eq_true_iff budget rows).1 hexceeds
    rw [if_pos hexceeds, if_neg hpositive.ne', min_eq_left hlt.le]
  · have hle : ¬(0 < budget ∧ budget < rows.length) :=
      fun h => hexceeds ((exceeds_eq_true_iff budget rows).2 h)
    rw [if_neg hexceeds]
    by_cases hzero : budget = 0
    · rw [if_pos hzero]
    · rw [if_neg hzero, List.take_of_length_le (by omega)]

theorem leftOut_eq (budget : Nat) (rows : List (List LooseText)) :
    (if exceeds budget rows then [LooseText.ofString (moreNote budget rows)] else []) =
      leftOut budget rows := by
  rw [leftOut]
  exact if_congr (exceeds_eq_true_iff budget rows) rfl rfl

theorem mem_of_mem_shownRows {budget : Nat} (hrow : row ∈ shownRows budget rows) : row ∈ rows := by
  rw [shownRows] at hrow
  split at hrow
  · exact hrow
  · exact List.mem_of_mem_take hrow

/-- A rule below the headers. -/
def ruleLine (widths : List Nat) : LooseText :=
  joinCells (widths.map fun width => List.replicate width (.char '-'))

/-- A table is its header, a rule and the rows that are shown. -/
theorem table_eq (hrows : rows ≠ []) (headers : List LooseText) (budget : Nat) :
    table headers rows budget =
      ((shownRows budget rows).mapM (tableRow (columnWidths headers rows))).map fun shown =>
        LooseText.joinLines (laidOut (columnWidths headers rows) headers ::
          ruleLine (columnWidths headers rows) :: shown ++ leftOut budget rows) := by
  rw [table, if_neg (by simpa using hrows)]
  dsimp only
  rw [shownRows_eq, leftOut_eq]
  cases (shownRows budget rows).mapM (tableRow (columnWidths headers rows)) with
  | error lookup => rfl
  | ok shown => rfl

/-- The lines of a table whose rows all have a place. -/
def tableLines (headers : List LooseText) (rows : List (List LooseText)) (budget : Nat) :
    List LooseText :=
  laidOut (columnWidths headers rows) headers :: ruleLine (columnWidths headers rows) ::
    (shownRows budget rows).map (fun row => (laidOut (columnWidths headers rows) row).trimRight) ++
      leftOut budget rows

/-- A table whose rows fit is printed. -/
theorem table_eq_ok (hrows : rows ≠ []) {budget : Nat}
    (hshown : ∀ row ∈ shownRows budget rows, row.length ≤ headers.length) :
    table headers rows budget = .ok (LooseText.joinLines (tableLines headers rows budget)) := by
  rw [table_eq hrows, mapM_tableRow_eq_ok]
  · rfl
  · rwa [length_columnWidths]

/-- A row that is shown and too long lets the table fail. -/
theorem table_eq_error {budget : Nat} (hrow : row ∈ shownRows budget rows)
    (hlength : headers.length < row.length) : table headers rows budget = .error .item := by
  have hrows : rows ≠ [] := by
    rintro rfl
    simp [shownRows] at hrow
  rw [table_eq hrows, mapM_tableRow_eq_error hrow]
  · rfl
  · rwa [length_columnWidths]

/-! ## Reading the lines back -/

theorem mem_joinCells {cells : List LooseText} {point : CodePoint}
    (hpoint : point ∈ joinCells cells) : point = blank ∨ ∃ cell ∈ cells, point ∈ cell := by
  induction cells with
  | nil => exact absurd hpoint List.not_mem_nil
  | cons cell cells ih =>
      cases cells with
      | nil =>
          rw [joinCells, List.intercalate_singleton] at hpoint
          exact .inr ⟨cell, List.mem_cons_self, hpoint⟩
      | cons next cells =>
          rw [joinCells, List.intercalate_cons_cons, List.mem_append, List.mem_append] at hpoint
          rcases hpoint with (hcell | hblanks) | hrest
          · exact .inr ⟨cell, List.mem_cons_self, hcell⟩
          · exact .inl (by simpa using hblanks)
          · refine (ih hrest).imp_right fun hlater => ?_
            obtain ⟨later, hmem, hlater⟩ := hlater
            exact ⟨later, List.mem_cons_of_mem cell hmem, hlater⟩

theorem newline_not_mem_laidOut (hfree : ∀ cell ∈ row, .char '\n' ∉ cell) (widths : List Nat) :
    .char '\n' ∉ laidOut widths row := by
  intro hmem
  rcases mem_joinCells hmem with hblank | ⟨padded, hpadded, hmem⟩
  · exact absurd hblank (by decide)
  · obtain ⟨⟨cell, width⟩, hzip, rfl⟩ := List.mem_map.1 hpadded
    rcases List.mem_append.1 hmem with hcell | hfill
    · exact hfree cell (List.of_mem_zip hzip).1 hcell
    · exact absurd (List.eq_of_mem_replicate hfill) (by decide)

theorem newline_not_mem_ruleLine (widths : List Nat) : .char '\n' ∉ ruleLine widths := by
  intro hmem
  rcases mem_joinCells hmem with hblank | ⟨rule, hrule, hmem⟩
  · exact absurd hblank (by decide)
  · obtain ⟨width, -, rfl⟩ := List.mem_map.1 hrule
    exact absurd (List.eq_of_mem_replicate hmem) (by decide)

theorem newline_not_mem_leftOut (budget : Nat) (rows : List (List LooseText)) :
    ∀ line ∈ leftOut budget rows, .char '\n' ∉ line := by
  intro line hline
  rw [leftOut] at hline
  split at hline
  case isFalse => exact absurd hline List.not_mem_nil
  case isTrue hexceeds =>
    obtain rfl := List.mem_singleton.1 hline
    have hdigits : Text.intDigits (rows.length - budget) =
        Text.natDigits ((rows.length : Int) - budget).natAbs := by
      rw [Text.intDigits, if_neg (by omega)]
    intro hmem
    obtain ⟨c, hc, hnewline⟩ := List.mem_map.1 hmem
    obtain rfl : c = '\n' := CodePoint.char.inj hnewline
    rw [moreNote, hdigits, String.toList_append, String.toList_append, List.mem_append,
      List.mem_append] at hc
    rcases hc with (hfirst | hdigit) | hlast
    · exact absurd hfirst (by decide)
    · rw [String.toList_ofList] at hdigit
      exact Text.newline_not_mem_natDigits _ hdigit
    · exact absurd hlast (by decide)

/-- Cells on one line make lines of a table. -/
theorem newline_not_mem_tableLines
    (hfree : ∀ row ∈ headers :: rows, ∀ cell ∈ row, .char '\n' ∉ cell) (budget : Nat) :
    ∀ line ∈ tableLines headers rows budget, .char '\n' ∉ line := by
  intro line hline
  rcases List.mem_append.1 hline with hshown | hleft
  · rcases List.mem_cons.1 hshown with rfl | hshown
    · exact newline_not_mem_laidOut (hfree headers List.mem_cons_self) _
    rcases List.mem_cons.1 hshown with rfl | hshown
    · exact newline_not_mem_ruleLine _
    obtain ⟨row, hrow, rfl⟩ := List.mem_map.1 hshown
    have hlaid := newline_not_mem_laidOut
      (hfree row (List.mem_cons_of_mem headers (mem_of_mem_shownRows hrow)))
      (columnWidths headers rows)
    obtain ⟨cut, hcut, -⟩ := Text.exists_eq_rdropWhile_append (CodePoint.isChar Text.isBlank)
      (laidOut (columnWidths headers rows) row)
    intro hnewline
    apply hlaid
    rw [hcut]
    exact List.mem_append_left cut hnewline
  · exact newline_not_mem_leftOut budget rows line hleft

/-- A table exists if and only if no row that is shown is longer than the headers.  Each cell of
the headers and of the rows that are shown then stands where its column starts. -/
theorem table_unless_long_row (headers : List LooseText) (rows : List (List LooseText))
    (budget : Nat) :
    ((∃ text, table headers rows budget = .ok text) ↔
      ∀ row ∈ shownRows budget rows, row.length ≤ headers.length) ∧
    ((∃ row ∈ shownRows budget rows, headers.length < row.length) →
      table headers rows budget = .error .item) ∧
    (rows ≠ [] → (∀ row ∈ headers :: rows, ∀ cell ∈ row, .char '\n' ∉ cell) →
      ∀ text, table headers rows budget = .ok text →
        ∃ header lines,
          Text.splitOn (.char '\n') text =
            header :: ruleLine (columnWidths headers rows) :: lines ++ leftOut budget rows ∧
          IsAligned headers rows headers header ∧
          List.Forall₂ (IsAligned headers rows) (shownRows budget rows) lines) := by
  have hfails (hlong : ∃ row ∈ shownRows budget rows, headers.length < row.length) :
      table headers rows budget = .error .item := by
    obtain ⟨row, hrow, hlength⟩ := hlong
    exact table_eq_error hrow hlength
  have hshort {text : LooseText} (htext : table headers rows budget = .ok text) :
      ∀ row ∈ shownRows budget rows, row.length ≤ headers.length := by
    by_contra hlong
    push Not at hlong
    rw [hfails hlong] at htext
    exact absurd htext nofun
  refine ⟨⟨fun ⟨text, htext⟩ => hshort htext, fun hshown => ?_⟩, hfails, ?_⟩
  · by_cases hrows : rows = []
    · subst hrows
      exact ⟨_, rfl⟩
    · exact ⟨_, table_eq_ok hrows hshown⟩
  · intro hrows hfree text htext
    have hshown := hshort htext
    rw [table_eq_ok hrows hshown, Except.ok.injEq] at htext
    refine ⟨laidOut (columnWidths headers rows) headers,
      (shownRows budget rows).map fun row => (laidOut (columnWidths headers rows) row).trimRight,
      ?_, isAligned_laidOut List.mem_cons_self le_rfl, ?_⟩
    · rw [← htext]
      exact Text.splitOn_joinLines (by simp [tableLines])
        (newline_not_mem_tableLines hfree budget)
    · rw [List.forall₂_map_right_iff, List.forall₂_same]
      intro row hrow
      exact (isAligned_laidOut (List.mem_cons_of_mem headers (mem_of_mem_shownRows hrow))
        (hshown row hrow)).trimRight

/-- Headers over two columns. -/
def raggedHeaders : List LooseText :=
  ["name", "v"]

/-- Rows with two cells, one cell, none, and three. -/
def raggedRows : List (List LooseText) :=
  [["frames", "10"], ["x"], [], ["a", "b", "c"]]

/-- The row that is too long is left out by the budget; the second cell stands behind the widest
first one. -/
theorem table_unless_long_row_ragged :
    raggedRows ≠ [] ∧ (∀ row ∈ raggedHeaders :: raggedRows, ∀ cell ∈ row, .char '\n' ∉ cell) ∧
      ∃ text header lines, table raggedHeaders raggedRows (3 : Nat) = .ok text ∧
        Text.splitOn (.char '\n') text =
          header :: ruleLine [6, 2] :: lines ++ [LooseText.ofString "(+1 more)"] ∧
        StandsAt header 8 "v" ∧
        List.Forall₂ (IsAligned raggedHeaders raggedRows) (raggedRows.take 3) lines := by
  have hfree : ∀ row ∈ raggedHeaders :: raggedRows, ∀ cell ∈ row, .char '\n' ∉ cell := by decide
  obtain ⟨hexists, -, haligned⟩ := table_unless_long_row raggedHeaders raggedRows 3
  obtain ⟨text, htext⟩ := hexists.2 (by decide)
  obtain ⟨header, lines, hlines, hheader, hshown⟩ := haligned nofun hfree text htext
  exact ⟨nofun, hfree, text, header, lines, htext, hlines, hheader 1 "v" rfl, hshown⟩

/-- A row with a cell more than there are headers has no place for it. -/
theorem table_of_long_row :
    table ["a"] [["x", "y"]] 0 = .error .item ∧
      ¬∃ text, table ["a"] [["x", "y"]] 0 = .ok text := by
  have hfails : table ["a"] [["x", "y"]] 0 = .error .item := rfl
  refine ⟨hfails, ?_⟩
  rw [hfails]
  exact fun h => absurd h.choose_spec nofun

end Report

end FrameLens
