import FrameLens.Proofs.Signatures.Statements
import FrameLens.Proofs.Snippets
import FrameLens.Proofs.Text.Decimals

/-!
# Lines around a target

Where no function is located the lines around the target are shown, each with its
number.  They are cut out of the text at its line feeds, while the line table cuts the
text at the starts of lines and takes carriage returns off.  Both ways give the same
lines but for carriage returns, and number them alike.
-/

namespace FrameLens

namespace Text

variable {α : Type*}

/-! ## Rows without their carriage returns -/

/-- Texts that are cut at their ends to the same are so with one more character in front. -/
theorem rdropWhile_cons_congr {p : α → Bool} {left right : List α}
    (hsame : List.rdropWhile p left = List.rdropWhile p right) (c : α) :
    List.rdropWhile p (c :: left) = List.rdropWhile p (c :: right) := by
  obtain ⟨leftCut, hleft, hleftCut, -⟩ := exists_eq_rdropWhile_append p left
  obtain ⟨rightCut, hright, hrightCut, -⟩ := exists_eq_rdropWhile_append p right
  rw [hleft, hright, hsame, ← List.cons_append, ← List.cons_append,
    rdropWhile_append_of_all hleftCut, rdropWhile_append_of_all hrightCut]

theorem map_rdropWhile_splitOn_cons {p : Char → Bool} {left right : List Char}
    (hsame : (splitOn '\n' left).map (List.rdropWhile p) =
      (splitOn '\n' right).map (List.rdropWhile p)) (c : Char) :
    (splitOn '\n' (c :: left)).map (List.rdropWhile p) =
      (splitOn '\n' (c :: right)).map (List.rdropWhile p) := by
  rw [splitOn, splitOn]
  by_cases hc : c = '\n'
  · rw [if_pos hc, if_pos hc, List.map_cons, List.map_cons, hsame]
  · rw [if_neg hc, if_neg hc]
    cases hleft : splitOn '\n' left with
    | nil => exact absurd hleft (splitOn_ne_nil _ _)
    | cons piece pieces =>
        cases hright : splitOn '\n' right with
        | nil => exact absurd hright (splitOn_ne_nil _ _)
        | cons piece' pieces' =>
            rw [hleft, hright, List.map_cons, List.map_cons, List.cons.injEq] at hsame
            rw [List.map_cons, List.map_cons, rdropWhile_cons_congr hsame.1 c, hsame.2]

/-- A carriage return that belongs to a line ending is one at the end of a row. -/
theorem map_rdropWhile_lines (text : List Char) :
    (lines text).map (List.rdropWhile (· == '\r')) =
      (splitOn '\n' text).map (List.rdropWhile (· == '\r')) := by
  rw [lines]
  fun_induction foldLineEndings text with
  | case1 rest ih =>
      rw [splitOn, if_pos rfl, splitOn, if_neg (by decide), splitOn, if_pos rfl, List.map_cons, ih]
      rfl
  | case2 c rest _ ih => exact map_rdropWhile_splitOn_cons ih c
  | case3 => rfl

end Text

namespace View

open FrameLens.Text (joinLines splitOn)

variable {v : View}

/-! ## Rows in the line table -/

theorem length_lineStartsFrom (base : Nat) (text : List Char) :
    (lineStartsFrom base text).length = text.count '\n' := by
  induction text generalizing base with
  | nil => rfl
  | cons c text ih =>
      rw [lineStartsFrom]
      split
      case isTrue hc => rw [List.length_cons, ih, hc, List.count_cons_self]
      case isFalse hc => rw [ih, List.count_cons_of_ne hc]

theorem lineStartsFrom_of_free {row : List Char} (hfree : '\n' ∉ row) (base : Nat) :
    lineStartsFrom base row = [] := by
  induction row generalizing base with
  | nil => rfl
  | cons c row ih =>
      obtain ⟨hc, hrow⟩ := List.ne_and_not_mem_of_not_mem_cons hfree
      rw [lineStartsFrom, if_neg (Ne.symm hc), ih hrow]

/-- The next line starts behind the first line feed. -/
theorem lineStartsFrom_append {row : List Char} (hfree : '\n' ∉ row) (base : Nat)
    (rest : List Char) :
    lineStartsFrom base (row ++ '\n' :: rest) =
      (base + row.length + 1) :: lineStartsFrom (base + row.length + 1) rest := by
  induction row generalizing base with
  | nil => rfl
  | cons c row ih =>
      obtain ⟨hc, hrow⟩ := List.ne_and_not_mem_of_not_mem_cons hfree
      rw [List.cons_append, lineStartsFrom, if_neg (Ne.symm hc), ih hrow, List.length_cons,
        Nat.add_right_comm base 1, Nat.add_assoc base]

/-- The line table of rows put together: a row starts behind what stands before it, and if
anything stands behind the row, the next one starts behind one more character. -/
theorem exists_row {rows : List (List Char)} (hfree : ∀ row ∈ rows, '\n' ∉ row) {k : Nat}
    {row : List Char} (hrow : rows[k]? = some row) (base : Nat) :
    ∃ before after, joinLines rows = before ++ row ++ after ∧
      (base :: lineStartsFrom base (joinLines rows))[k]? = some (base + before.length) ∧
      (lineStartsFrom base (joinLines rows))[k]? =
        after.head?.map fun _ => base + before.length + row.length + 1 := by
  induction rows generalizing k base with
  | nil => cases hrow
  | cons head rows ih =>
      obtain ⟨hhead, hfree⟩ := List.forall_mem_cons.1 hfree
      cases rows with
      | nil =>
          obtain rfl : k = 0 := Nat.lt_one_iff.1 (List.getElem?_eq_some_iff.1 hrow).1
          cases hrow
          rw [joinLines, List.intercalate_singleton, lineStartsFrom_of_free hhead]
          exact ⟨[], [], (List.append_nil _).symm, rfl, rfl⟩
      | cons next rows =>
          have hjoin : joinLines (head :: next :: rows) =
              head ++ '\n' :: joinLines (next :: rows) := by
            rw [joinLines, List.intercalate_cons_cons, List.append_assoc]
            rfl
          rw [hjoin, lineStartsFrom_append hhead]
          cases k with
          | zero =>
              cases hrow
              exact ⟨[], _, rfl, rfl, rfl⟩
          | succ k =>
              obtain ⟨before, after, htext, hstart, hnext⟩ :=
                ih hfree hrow (base + head.length + 1)
              have hlength : base + (head ++ '\n' :: before).length =
                  base + head.length + 1 + before.length := by
                rw [List.length_append, List.length_cons]
                omega
              refine ⟨head ++ '\n' :: before, after, ?_, ?_, ?_⟩
              · rw [htext, List.append_assoc, List.append_assoc, List.append_assoc]
                rfl
              · rw [List.getElem?_cons_succ, hstart, hlength]
              · rw [List.getElem?_cons_succ, hnext, hlength]

/-- Cut at its line feeds a text has as many lines as the line table. -/
theorem length_lines (v : View) : (v.lines.length : Int) = v.lineCount := by
  rw [lineCount, ← Array.length_toList, toList_starts, lineStarts, List.length_cons,
    length_lineStartsFrom, lines, Text.length_lines]

/-- A row of the text is the text of a line, carriage returns at its end apart. -/
theorem lineText_of_row {k : Nat} {row : List Char}
    (hrow : (splitOn '\n' v.raw.toList)[k]? = some row) :
    v.lineText (k + 1) = List.rdropWhile (· == '\r') row := by
  obtain ⟨before, after, htext, hstart, hnext⟩ :=
    exists_row (fun _ => Text.not_mem_of_mem_splitOn) hrow 0
  rw [Text.joinLines_splitOn, Nat.zero_add] at hstart hnext
  rw [Text.joinLines_splitOn] at htext
  have hline : v.start? (k + 1) = some (before.length : Int) := by
    refine start?_eq_some_iff.2 ⟨k, before.length, rfl, rfl, ?_⟩
    rwa [← Array.getElem?_toList, toList_starts]
  have hstop : v.lineStop (k + 1) = ((before ++ row).length : Nat) := by
    have hnext' : v.starts[k + 1]? = after.head?.map fun _ => (before ++ row).length + 1 := by
      rw [← Array.getElem?_toList, toList_starts, lineStarts, List.getElem?_cons_succ, hnext,
        List.length_append]
    rw [lineStop, start?, if_pos (by omega), show ((k : Int) + 1 + 1 - 1).toNat = k + 1 by omega,
      hnext']
    cases after with
    | nil =>
        rw [List.append_nil] at htext
        rw [Text.length, ← Array.length_toList, htext]
        rfl
    | cons c after =>
        simp only [List.head?_cons, Option.map_some, Option.getD_some, Int.ofNat_eq_natCast]
        omega
  rw [lineText_of_start hline, hstop, Text.slice_eq _ (Int.natCast_nonneg _)
    (Int.natCast_nonneg _), htext, Int.toNat_natCast, Int.toNat_natCast, List.take_left' rfl,
    List.drop_left' rfl]

/-- Both ways to cut a text into lines give the same ones, carriage returns apart. -/
theorem getElem?_lines (v : View) {n : Int} (hfirst : 1 ≤ n) (hlast : n ≤ v.lineCount) :
    ∃ line, v.lines[(n - 1).toNat]? = some line ∧
      List.rdropWhile (· == '\r') line = v.lineText n := by
  obtain ⟨k, rfl⟩ : ∃ k : Nat, n = k + 1 := ⟨(n - 1).toNat, by omega⟩
  rw [show ((k : Int) + 1 - 1).toNat = k by omega]
  have hlength := v.length_lines
  have hline := List.getElem?_eq_getElem (show k < v.lines.length by omega)
  have hsame := congrArg (·[k]?) (Text.map_rdropWhile_lines v.raw.toList)
  simp only [List.getElem?_map] at hsame
  rw [← lines, hline, Option.map_some, eq_comm, Option.map_eq_some_iff] at hsame
  obtain ⟨row, hrow, hdrop⟩ := hsame
  exact ⟨_, hline, by rw [lineText_of_row hrow, hdrop]⟩

end View

namespace Snippet

variable {v : View} {marker : LooseText}

/-! ## Numbered rows -/

theorem length_numberedRows (marker : LooseText) (target : Int) (number : Nat)
    (rows : List (List Char)) : (numberedRows marker target number rows).length = rows.length := by
  induction rows generalizing number with
  | nil => rfl
  | cons row rows ih => rw [numberedRows, List.length_cons, ih, List.length_cons]

/-- A row is numbered by its place, and marked if that is the target. -/
theorem getElem?_numberedRows (marker : LooseText) (target : Int) (number : Nat)
    (rows : List (List Char)) (i : Nat) :
    (numberedRows marker target number rows)[i]? =
      rows[i]?.map (numberedRow marker (((number + i : Nat) : Int) == target) (number + i)) := by
  induction rows generalizing number i with
  | nil => rfl
  | cons row rows ih =>
      rw [numberedRows]
      cases i with
      | zero => rfl
      | succ i =>
          rw [List.getElem?_cons_succ, List.getElem?_cons_succ, ih, Nat.add_right_comm,
            Nat.add_assoc]

/-- The rows show the lines from `first` to `last` in order, one row each: a mark, which
is the marker for the target and blanks of its width for all others, the number at the
right of six characters, and the line. -/
structure NumbersLines (v : View) (target first last : Int) (marker : LooseText)
    (rows : List LooseText) : Prop where
  length_eq : (rows.length : Int) = last - first + 1
  row_eq : ∀ n, first ≤ n → n ≤ last → ∃ line, v.lines[(n - 1).toNat]? = some line ∧
    rows[(n - first).toNat]? = some
      ((if n = target then marker else List.replicate marker.length (.char ' ')) ++
        LooseText.ofChars
          (' ' :: Text.padStart 6 ' ' (Text.natDigits n.toNat) ++ ':' :: ' ' :: line))

theorem NumbersLines.newline_not_mem {target first last : Int} {rows : List LooseText}
    (hrows : NumbersLines v target first last marker rows) (hmarker : .char '\n' ∉ marker) :
    ∀ row ∈ rows, .char '\n' ∉ row := by
  intro row hrow
  obtain ⟨i, hi, hget⟩ := List.getElem_of_mem hrow
  have hlength := hrows.length_eq
  obtain ⟨line, hline, hshown⟩ := hrows.row_eq (first + i) (by omega) (by omega)
  have hfree : '\n' ∉ line := Text.not_mem_of_mem_splitOn (List.mem_of_getElem? hline)
  have hdigits := Text.newline_not_mem_natDigits (first + i).toNat
  rw [show (first + i - first).toNat = i by omega, List.getElem?_eq_getElem hi, hget,
    Option.some_inj] at hshown
  subst hshown
  split <;> simp [LooseText.ofChars, Text.padStart, hmarker, hfree, hdigits]

/-- The rows of a part of the text number its lines. -/
theorem numbersLines_numberedRows {first last : Int} (target : Int) (marker : LooseText)
    (hfirst : 1 ≤ first) (hle : first ≤ last) (hlast : last ≤ v.lineCount) :
    NumbersLines v target first last marker (numberedRows marker target first.toNat
      ((v.lines.take last.toNat).drop (first - 1).toNat)) := by
  obtain ⟨above, rfl⟩ : ∃ above : Nat, first = above + 1 := ⟨(first - 1).toNat, by omega⟩
  obtain ⟨count, rfl⟩ : ∃ count : Nat, last = above + count :=
    ⟨(last - above).toNat, by omega⟩
  have hlength := v.length_lines
  rw [show ((above : Int) + count).toNat = above + count by omega,
    show ((above : Int) + 1 - 1).toNat = above by omega,
    show ((above : Int) + 1).toNat = above + 1 by omega]
  refine ⟨?_, fun n hlower hupper => ?_⟩
  · rw [length_numberedRows, length_cut v.lines (by omega)]
    omega
  · obtain ⟨i, rfl⟩ : ∃ i : Nat, n = (above + 1 + i : Nat) :=
      ⟨(n - above - 1).toNat, by omega⟩
    rw [show (((above + 1 + i : Nat) : Int) - 1).toNat = above + i by omega,
      show (((above + 1 + i : Nat) : Int) - (above + 1)).toNat = i by omega, Int.toNat_natCast]
    have hline := List.getElem?_eq_getElem (show above + i < v.lines.length by omega)
    refine ⟨_, hline, ?_⟩
    rw [getElem?_numberedRows, getElem?_cut v.lines (by omega), hline, Option.map_some,
      numberedRow]
    simp only [beq_iff_eq]

/-- The line of the file that a line number stands for. -/
def nearestLine (v : View) (line : Int) : Int :=
  max 1 (min line v.lineCount)

/-- The text around a target is numbered rows put together, unless there is no text. -/
theorem nearby_eq (hraw : v.raw.isEmpty = false) (line : Int) {radius : Int}
    (hradius : 0 ≤ radius) (marker : LooseText) :
    nearby v line radius marker = LooseText.joinLines
      (numberedRows marker (nearestLine v line) (max 1 (nearestLine v line - radius)).toNat
        ((v.lines.take (min v.lineCount (nearestLine v line + radius)).toNat).drop
          (max 1 (nearestLine v line - radius) - 1).toNat)) := by
  rw [nearby, hraw, if_neg Bool.false_ne_true]
  dsimp only
  rw [v.length_lines, max_eq_right hradius]
  rfl

/-- The line nearest to a number is one of the text. -/
theorem nearestLine_mem (v : View) (line : Int) :
    1 ≤ nearestLine v line ∧ nearestLine v line ≤ v.lineCount := by
  have hpos := v.size_starts_pos
  rw [nearestLine, View.lineCount]
  omega

/-- The lines around a target are numbered as everywhere else: the two cuts of the text
into lines agree but for carriage returns, and what is shown are the lines that lie within
the radius of the target, each with the number that the line table gives it. -/
theorem nearby_numbers_lines (v : View) (line radius : Int) (marker : LooseText)
    (hradius : 0 ≤ radius) (hmarker : .char '\n' ∉ marker) :
    (v.lines.length : Int) = v.lineCount ∧
    (∀ n, 1 ≤ n → n ≤ v.lineCount → ∃ row, v.lines[(n - 1).toNat]? = some row ∧
      List.rdropWhile (· == '\r') row = v.lineText n) ∧
    (v.raw.isEmpty = true → nearby v line radius marker = []) ∧
    (v.raw.isEmpty = false →
      NumbersLines v (nearestLine v line) (max 1 (nearestLine v line - radius))
        (min v.lineCount (nearestLine v line + radius)) marker
        (Text.splitOn (.char '\n') (nearby v line radius marker))) := by
  refine ⟨v.length_lines, fun n => v.getElem?_lines, fun hempty => ?_, fun hraw => ?_⟩
  · rw [nearby, if_pos hempty]
  · obtain ⟨hone, hcount⟩ := nearestLine_mem v line
    have hrows : NumbersLines v _ _ _ marker _ := numbersLines_numberedRows
      (nearestLine v line) marker (le_max_left 1 (nearestLine v line - radius))
      (show _ ≤ min v.lineCount (nearestLine v line + radius) by omega) (min_le_left _ _)
    have hlength := hrows.length_eq
    rw [nearby_eq hraw line hradius, Text.splitOn_joinLines ?_ (hrows.newline_not_mem hmarker)]
    · exact hrows
    · intro hnil
      rw [hnil, List.length_nil] at hlength
      omega

/-- Four lines: one that ends in a carriage return and a line feed, one with a carriage
return more, one that ends in a line feed, and the rest. -/
def mixedEndings : View :=
  View.ofText [] Dialect.c "a\r\nb\r\r\nc\nd\re".toList

theorem nearby_numbers_mixed_endings :
    NumbersLines mixedEndings 4 2 4 "==>"
      (Text.splitOn (.char '\n') (nearby mixedEndings 9 2 "==>")) :=
  (nearby_numbers_lines mixedEndings 9 2 "==>" (by decide) (by decide)).2.2.2 (by decide)

end Snippet

end FrameLens
