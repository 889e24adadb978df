import FrameLens.Proofs.Headers.Groups
import FrameLens.Proofs.Text.Trimming

/-!
# Where a header stands

A header is a stretch of the text with nothing but blanks between it and its brace.  It
lies in what the walk back from the brace went over, and it has no more lines than it
was cut to.
-/

namespace FrameLens

namespace Text

/-! ## Rows put together -/

/-- Rows that hold no line feed are one more than the line feeds between them. -/
theorem count_joinLines {rows : List (List Char)} (hrows : rows ≠ [])
    (hfree : ∀ row ∈ rows, '\n' ∉ row) : (joinLines rows).count '\n' + 1 = rows.length := by
  rw [← length_splitOn, splitOn_eq, joinLines, List.splitOn_intercalate _ hfree hrows]

/-! ## A text from one of its lines on -/

/-- The text without its first `count` lines. -/
def fromLine (count : Nat) (text : List Char) : List Char :=
  joinLines ((splitOn '\n' text).drop count)

@[simp]
theorem fromLine_zero (text : List Char) : fromLine 0 text = text :=
  joinLines_splitOn text

@[simp]
theorem fromLine_nil (count : Nat) : fromLine count [] = [] := by
  cases count with
  | zero => rfl
  | succ count => simp [fromLine, splitOn, joinLines]

theorem fromLine_feed (count : Nat) (rest : List Char) :
    fromLine (count + 1) ('\n' :: rest) = fromLine count rest := by
  rw [fromLine, splitOn, if_pos rfl, List.drop_succ_cons, fromLine]

theorem fromLine_char {c : Char} (hc : c ≠ '\n') (count : Nat) (rest : List Char) :
    fromLine (count + 1) (c :: rest) = fromLine (count + 1) rest := by
  obtain ⟨piece, pieces, hsplit⟩ := List.exists_cons_of_ne_nil (splitOn_ne_nil '\n' rest)
  rw [fromLine, splitOn, if_neg hc, fromLine, hsplit]
  rfl

/-- Unless no line or every line is left out, what is left out ends with a line feed. -/
theorem exists_eq_append_fromLine (count : Nat) (text : List Char) :
    ∃ head, text = head ++ fromLine count text ∧
      (count = 0 ∧ head = [] ∨ head.getLast? = some '\n' ∨ fromLine count text = []) := by
  induction text generalizing count with
  | nil => exact ⟨[], by simp, .inr (.inr (fromLine_nil count))⟩
  | cons c rest ih =>
      cases count with
      | zero => exact ⟨[], by simp, .inl ⟨rfl, rfl⟩⟩
      | succ count =>
          by_cases hc : c = '\n'
          · subst hc
            obtain ⟨head, hrest, hhead⟩ := ih count
            rw [fromLine_feed]
            refine ⟨'\n' :: head, by rw [List.cons_append, ← hrest], .inr ?_⟩
            rcases hhead with ⟨-, rfl⟩ | hlast | hnil
            · exact .inl rfl
            · exact .inl (by rw [List.getLast?_cons, hlast, Option.getD_some])
            · exact .inr hnil
          · obtain ⟨head, hrest, hhead⟩ := ih (count + 1)
            rw [fromLine_char hc]
            refine ⟨c :: head, by rw [List.cons_append, ← hrest], .inr ?_⟩
            rcases hhead with ⟨hzero, -⟩ | hlast | hnil
            · cases hzero
            · exact .inl (by rw [List.getLast?_cons, hlast, Option.getD_some])
            · exact .inr hnil

end Text

namespace Header

open FrameLens.Text (isBlank splitOn joinLines fromLine trim trimRight)

variable {s : Text} {header : List Char}

/-! ## The last rows of a text -/

/-- The last rows are left when some of the first ones are dropped. -/
theorem lastRows_eq_drop (maxLines : Int) (rows : List (List Char)) :
    ∃ count, lastRows maxLines rows = rows.drop count ∧ (maxLines = 0 → count = 0) ∧
      (0 < maxLines → rows ≠ [] →
        count < rows.length ∧ (rows.length : Int) ≤ count + maxLines) := by
  rw [lastRows]
  split
  · rename_i hpositive
    refine ⟨rows.length - maxLines.toNat, rfl, by omega, fun _ hrows => ?_⟩
    have := List.length_pos_iff.2 hrows
    omega
  · exact ⟨(-maxLines).toNat, rfl, by omega, by omega⟩

/-- What is kept of a text as a header: a stretch of it with only blanks behind, of no
more lines than asked for, and with only blanks before if all lines are kept. -/
theorem exists_eq_kept (maxLines : Int) (text : List Char) :
    ∃ lead gap, text =
        lead ++ trim (joinLines (lastRows maxLines (splitOn '\n' (trimRight text)))) ++ gap ∧
      (∀ c ∈ gap, isBlank c = true) ∧
      (0 < maxLines →
        ((trim (joinLines (lastRows maxLines (splitOn '\n' (trimRight text))))).count '\n' : Int)
          < maxLines) ∧
      (maxLines = 0 → ∀ c ∈ lead, isBlank c = true) := by
  have hrows_ne := Text.splitOn_ne_nil '\n' (trimRight text)
  obtain ⟨count, hkept, hall, hfew⟩ := lastRows_eq_drop maxLines (splitOn '\n' (trimRight text))
  have hlines : joinLines (lastRows maxLines (splitOn '\n' (trimRight text))) =
      fromLine count (trimRight text) := by
    rw [hkept, fromLine]
  obtain ⟨dropped, hdropped, -⟩ := Text.exists_eq_append_fromLine count (trimRight text)
  obtain ⟨back, htext, hback, -⟩ := Text.trimRight_eq_iff.1 (rfl : trimRight text = _)
  obtain ⟨front, rest, hjoined, hfront, hrest, -⟩ :=
    Text.exists_eq_append_rdropWhile_dropWhile isBlank (fromLine count (trimRight text))
  rw [hlines]
  refine ⟨dropped ++ front, rest ++ back, ?_, ?_, fun hpositive => ?_, fun hzero => ?_⟩
  · conv_lhs => rw [htext, hdropped, hjoined]
    simp only [List.append_assoc]
    rfl
  · intro c hc
    exact (List.mem_append.1 hc).elim (hrest c) (Text.allBlank_iff.1 hback c)
  · obtain ⟨hcount, hlength⟩ := hfew hpositive hrows_ne
    have hnonempty : (splitOn '\n' (trimRight text)).drop count ≠ [] := by
      simpa using hcount
    have hfeeds : (fromLine count (trimRight text)).count '\n' + 1 =
        ((splitOn '\n' (trimRight text)).drop count).length :=
      Text.count_joinLines hnonempty fun row hrow =>
        Text.not_mem_of_mem_splitOn (List.mem_of_mem_drop hrow)
    have hle : (trim (fromLine count (trimRight text))).count '\n' ≤
        (fromLine count (trimRight text)).count '\n' :=
      (Text.rdropWhile_dropWhile_infix isBlank _).sublist.count_le '\n'
    rw [List.length_drop] at hfeeds
    omega
  · rw [hall hzero, Text.fromLine_zero] at hdropped
    have hnil : dropped = [] := by
      simpa using hdropped
    rw [hnil]
    exact hfront

/-! ## The place of a header -/

variable {groups : Bool} {brace bound first : Nat} {c : Char}

/-- A header stands at `first`, with only blanks between it and the brace. -/
structure StandsBefore (s : Text) (brace first : Nat) (header : List Char) : Prop where
  text : header <+: s.toList.drop first
  le : first + header.length ≤ brace
  visible : ∀ c ∈ header.getLast?, isBlank c = false
  blank : ∀ place, first + header.length ≤ place → place < brace →
    ∃ c, s[place]? = some c ∧ isBlank c = true

/-- What stands at the places of a piece of a cut. -/
theorem exists_mem_of_cut {before piece after : List Char}
    (hcut : (s.toList.take brace).drop bound = before ++ piece ++ after) {place : Nat}
    (hle : bound + before.length ≤ place) (hlt : place < bound + before.length + piece.length) :
    ∃ c ∈ piece, s[place]? = some c := by
  obtain ⟨k, rfl⟩ := Nat.exists_eq_add_of_le hle
  have hk : k < piece.length := by omega
  have hat : ((s.toList.take brace).drop bound)[before.length + k]? = some piece[k] := by
    rw [hcut, List.append_assoc, List.getElem?_append_right (by omega), Nat.add_sub_cancel_left,
      List.getElem?_append_left hk, List.getElem?_eq_getElem hk]
  refine ⟨piece[k], List.getElem_mem hk, ?_⟩
  rw [List.getElem?_drop, ← Nat.add_assoc, List.getElem?_take, Array.getElem?_toList] at hat
  split at hat
  · exact hat
  · cases hat

namespace StandsBefore

/-- What is left of a cut between a boundary and a brace stands before the brace. -/
theorem of_cut {lead gap : List Char} (hbrace : brace ≤ s.size) (hbound : bound ≤ brace)
    (hcut : (s.toList.take brace).drop bound = lead ++ header ++ gap)
    (hvisible : ∀ c ∈ header.getLast?, isBlank c = false)
    (hgap : ∀ c ∈ gap, isBlank c = true) :
    StandsBefore s brace (bound + lead.length) header := by
  have hlength := congrArg List.length hcut
  simp only [List.length_drop, List.length_take, Array.length_toList, List.length_append]
    at hlength
  have hrest : (s.toList.take brace).drop (bound + lead.length) = header ++ gap := by
    rw [← List.drop_drop, hcut, List.append_assoc, List.drop_left]
  refine ⟨?_, by omega, hvisible, fun place hbehind hlt => ?_⟩
  · calc
      header <+: header ++ gap := List.prefix_append header gap
      _ = (s.toList.take brace).drop (bound + lead.length) := hrest.symm
      _ <+: s.toList.drop (bound + lead.length) := (List.take_prefix brace _).drop _
  · rw [← List.append_nil gap, ← List.append_assoc] at hcut
    have hle : bound + (lead ++ header).length ≤ place := by
      rw [List.length_append]
      omega
    obtain ⟨c, hc, hat⟩ := exists_mem_of_cut hcut hle (by rw [List.length_append]; omega)
    exact ⟨c, hat, hgap c hc⟩

theorem getElem?_eq (hstands : StandsBefore s brace first header) {k : Nat}
    (hk : k < header.length) : header[k]? = s[first + k]? := by
  obtain ⟨rest, hrest⟩ := hstands.text
  rw [← Array.getElem?_toList, ← List.getElem?_drop, ← hrest, List.getElem?_append_left hk]

theorem getElem?_last (hstands : StandsBefore s brace first header)
    (hlast : header.getLast? = some c) : s[first + (header.length - 1)]? = some c := by
  have hpos : 0 < header.length := List.length_pos_of_mem (List.mem_of_getLast? hlast)
  rw [← hstands.getElem?_eq (by omega), ← List.getLast?_eq_getElem?, hlast]

/-- The last that can be seen before the brace is in the header. -/
theorem lt_of_visible (hstands : StandsBefore s brace first header) {place : Nat}
    (hc : s[place]? = some c) (hvisible : isBlank c = false) (hlt : place < brace) :
    place < first + header.length := by
  by_contra hbehind
  obtain ⟨d, hd, hblank⟩ := hstands.blank place (by omega) hlt
  rw [hc, Option.some.injEq] at hd
  rw [← hd, hvisible] at hblank
  cases hblank

/-- A header with a character in it stands at one place only. -/
theorem first_eq {first' : Nat} (hlast : header.getLast? = some c)
    (hstands : StandsBefore s brace first header)
    (hstands' : StandsBefore s brace first' header) : first = first' := by
  have hpos : 0 < header.length := List.length_pos_of_mem (List.mem_of_getLast? hlast)
  -- The last of the header can be seen, so it is in the header wherever that stands.
  have hle {a b : Nat} (ha : StandsBefore s brace a header) (hb : StandsBefore s brace b header) :
      b ≤ a := by
    have hc := hb.getElem?_last hlast
    have hend := hb.le
    have := ha.lt_of_visible hc (hb.visible c hlast) (by omega)
    omega
  exact le_antisymm (hle hstands' hstands) (hle hstands hstands')

end StandsBefore

/-- A header is kept of what the walk back from its brace went over.  That begins behind a
character that stops the walk, or where the walk is out of room. -/
theorem exists_bound {maxChars maxLines : Int}
    (hheader : before s brace maxChars maxLines groups = .ok header) :
    ∃ bound : Nat, Walked s groups brace bound ∧
      min (brace : Int) (max 0 (brace - maxChars)) ≤ bound ∧
      ((bound : Int) ≤ max 0 (brace - maxChars) ∨
        StopsAt s groups (max 0 (brace - maxChars)) (bound - 1)) ∧
      header = trim (joinLines (lastRows maxLines (splitOn '\n'
        (trimRight (s.slice bound brace))))) := by
  rw [before, OutOfRange.bind_eq_ok_iff] at hheader
  obtain ⟨bound, hbound, hheader⟩ := hheader
  have hdone : Walked s groups brace ((brace : Int) - 1 + 1).toNat := by
    rw [Int.sub_add_cancel, Int.toNat_natCast]
    exact .done
  obtain ⟨hlower, hupper, hwalked, hends⟩ := boundaryWithin_walked (le_max_left _ _)
    (by omega) (by omega) hdone hbound
  obtain ⟨bound, rfl⟩ : ∃ place : Nat, bound = place - 1 := ⟨(bound + 1).toNat, by omega⟩
  rw [Int.sub_add_cancel, Int.toNat_natCast] at hwalked
  rw [Int.sub_add_cancel] at hheader
  refine ⟨bound, hwalked, by omega, hends.imp_left fun hlow => by omega, ?_⟩
  cases hheader
  rfl

/-- Every header stands in what the walk back from its brace went over, which begins
behind a character that stops the walk, or where the walk is out of room. -/
theorem exists_standsBefore (hbrace : brace ≤ s.size) {maxChars maxLines : Int}
    (hheader : before s brace maxChars maxLines groups = .ok header) :
    ∃ bound first, bound ≤ first ∧ Walked s groups brace bound ∧
      ((bound : Int) ≤ max 0 (brace - maxChars) ∨
        StopsAt s groups (max 0 (brace - maxChars)) (bound - 1)) ∧
      StandsBefore s brace first header ∧
      (0 < maxLines → (header.count '\n' : Int) < maxLines) ∧
      (maxLines = 0 → ∀ place, bound ≤ place → place < first →
        ∃ c, s[place]? = some c ∧ isBlank c = true) := by
  obtain ⟨bound, hwalked, -, hends, hkept⟩ := exists_bound hheader
  rw [Text.slice_eq s (Int.natCast_nonneg _) (Int.natCast_nonneg _),
    Int.toNat_natCast, Int.toNat_natCast] at hkept
  obtain ⟨lead, gap, hcut, hgap, hfew, hlead⟩ :=
    exists_eq_kept maxLines ((s.toList.take brace).drop bound)
  rw [← hkept] at hcut hfew
  have hvisible : ∀ c ∈ header.getLast?, isBlank c = false := by
    intro c hc
    rw [hkept, Text.getLast?_trim] at hc
    obtain ⟨-, -, -, -, hvisible⟩ := Text.exists_eq_of_lastVisible? hc
    exact hvisible
  refine ⟨bound, bound + lead.length, by omega, hwalked, hends,
    .of_cut hbrace hwalked.le hcut hvisible hgap, hfew, fun hzero place hle hlt => ?_⟩
  have hcut_lead : (s.toList.take brace).drop bound = [] ++ lead ++ (header ++ gap) := by
    rw [hcut, List.nil_append, List.append_assoc]
  obtain ⟨c, hc, hat⟩ := exists_mem_of_cut hcut_lead hle (by simpa using hlt)
  exact ⟨c, hat, hlead hzero c hc⟩

/-! ## The last line of a header -/

/-- A header ends neither a statement nor opens a block. -/
theorem last_ne (hwalked : Walked s groups brace bound) (hle : bound ≤ first)
    (hstands : StandsBefore s brace first header) (hlast : header.getLast? = some c) :
    c ≠ ';' ∧ c ≠ '\x7b' := by
  have hpos : 0 < header.length := List.length_pos_of_mem (List.mem_of_getLast? hlast)
  have hend := hstands.le
  have hc := hstands.getElem?_last hlast
  rcases hwalked.plain_or_group (show bound ≤ first + (header.length - 1) by omega)
      (by omega) with
    ⟨d, hd, hsemicolon, hopener, -⟩ | ⟨opener, closer, -, -, hafter, hstop, hgroup⟩
  · rw [hc, Option.some.injEq] at hd
    exact hd ▸ ⟨hsemicolon, hopener⟩
  · have hcloses := hgroup.pairs.closes
    have hinside := hstands.lt_of_visible hcloses (by decide) hstop
    obtain rfl : closer = first + (header.length - 1) := by omega
    rw [hc, Option.some.injEq] at hcloses
    subst hcloses
    exact ⟨by decide, by decide⟩

/-- The walk up from a header begins at its last character, or at the brace if the
header ends with a group. -/
theorem anchor_eq (hbrace : brace ≤ s.size) (hwalked : Walked s groups brace bound)
    (hle : bound ≤ first)
    (hstands : StandsBefore s brace first header) (hlast : header.getLast? = some c) :
    anchor s brace =
      .ok (if c = '\x7d' then (brace : Int) else (first + (header.length - 1) : Nat)) := by
  have hpos : 0 < header.length := List.length_pos_of_mem (List.mem_of_getLast? hlast)
  have hend := hstands.le
  have hfound : lastOther? s isBlank brace = some (first + (header.length - 1), c) := by
    rw [lastOther?_eq_some_iff hbrace]
    exact ⟨by omega, hstands.getElem?_last hlast, hstands.visible c hlast,
      fun later hlater hlt => hstands.blank later (by omega) hlt⟩
  obtain ⟨hsemicolon, hopener⟩ := last_ne hwalked hle hstands hlast
  rw [anchor, lastBefore?_of_le (by rw [Text.length]; omega), Int.toNat_natCast, hfound]
  simp [Except.map, hsemicolon, hopener]

end Header

end FrameLens
