import FrameLens.Code.Signature
import FrameLens.Code.View
import FrameLens.Proofs.Offsets

/-!
# Lines and offsets

Cleaning keeps the length of a text, so one line table serves the text and its
cleaned form.  The starts of lines increase strictly, which makes the count of
starts up to an offset the line of that offset.  A signature begins at the start
of a line no later than the place from which it was looked for.
-/

namespace FrameLens

/-! ## Cleaned text -/

/-- Blanking keeps line feeds and brings no new ones. -/
theorem blanked_eq_lineFeed_iff {c : Char} : blanked c = '\n' ↔ c = '\n' := by
  rw [blanked]
  split <;> simp_all

/-- Cleaning keeps the line feeds where they are. -/
theorem map_lineFeed_cleanFrom (dialect : Dialect) (before : List Char) (remaining : Nat)
    (text : List Char) :
    (cleanFrom dialect before remaining text).map (· == '\n') = text.map (· == '\n') := by
  induction text generalizing before remaining with
  | nil => simp [cleanFrom]
  | cons c text ih =>
      have hblanked : (blanked c == '\n') = (c == '\n') := by
        rw [Bool.eq_iff_iff, beq_iff_eq, beq_iff_eq, blanked_eq_lineFeed_iff]
      cases remaining with
      | zero =>
          rw [cleanFrom]
          split
          · simp only [List.map_cons, ih, hblanked]
          · simp only [List.map_cons, ih]
      | succ remaining => simp only [cleanFrom, List.map_cons, ih, hblanked]

theorem length_cleanFrom (dialect : Dialect) (before : List Char) (remaining : Nat)
    (text : List Char) :
    (cleanFrom dialect before remaining text).length = text.length := by
  simpa using congrArg List.length (map_lineFeed_cleanFrom dialect before remaining text)

/-- Cleaning keeps the length of a text. -/
theorem length_clean (dialect : Dialect) (text : List Char) :
    (clean dialect text).length = text.length :=
  length_cleanFrom dialect [] 0 text

/-- A character stays as it is or is blanked. -/
theorem getElem?_cleanFrom (dialect : Dialect) {before : List Char} {remaining : Nat}
    {text : List Char} {i : Nat} {c : Char}
    (hc : (cleanFrom dialect before remaining text)[i]? = some c) :
    ∃ d, text[i]? = some d ∧ (c = d ∨ c = blanked d) := by
  induction text generalizing before remaining i with
  | nil => simp [cleanFrom] at hc
  | cons d text ih =>
      obtain ⟨e, before', remaining', he, hclean⟩ : ∃ e before' remaining',
          (e = d ∨ e = blanked d) ∧ cleanFrom dialect before remaining (d :: text) =
            e :: cleanFrom dialect before' remaining' text := by
        cases remaining with
        | zero =>
            rw [cleanFrom]
            split
            · exact ⟨_, _, _, .inr rfl, rfl⟩
            · exact ⟨_, _, _, .inl rfl, rfl⟩
        | succ remaining => exact ⟨_, _, _, .inr rfl, rfl⟩
      rw [hclean] at hc
      cases i with
      | zero =>
          obtain rfl : e = c := by simpa using hc
          exact ⟨d, rfl, he⟩
      | succ i => exact ih (by simpa using hc)

/-- Cleaning keeps the number of line feeds before each place. -/
theorem count_take_cleanFrom (dialect : Dialect) (before : List Char) (remaining : Nat)
    (text : List Char) (count : Nat) :
    ((cleanFrom dialect before remaining text).take count).count '\n' =
      (text.take count).count '\n' := by
  have hcount (text : List Char) :
      (text.take count).count '\n' = ((text.map (· == '\n')).take count).count true := by
    rw [← List.map_take, List.count, List.count, List.countP_map]
    simp only [Function.comp_def, beq_true]
  rw [hcount, hcount, map_lineFeed_cleanFrom]

theorem blanked_eq_or (c : Char) : blanked c = ' ' ∨ blanked c = '\n' := by
  rw [blanked]
  split
  · exact .inr rfl
  · exact .inl rfl

namespace View

variable {v : View} {line offset : Int}

/-- Whatever is not blank in the cleaned text stands in the text itself. -/
theorem at?_raw_of_cleaned {c : Char} (hoffset : 0 ≤ offset)
    (hc : v.cleaned.at? offset = some c) (hspace : c ≠ ' ') (hline : c ≠ '\n') :
    v.raw.at? offset = some c := by
  rw [Text.at?_toNat hoffset, ← Array.getElem?_toList] at hc ⊢
  rw [v.cleaned_eq] at hc
  obtain ⟨d, hd, rfl | rfl⟩ := getElem?_cleanFrom v.dialect hc
  · exact hd
  · rcases blanked_eq_or d with hblank | hblank
    · exact absurd hblank hspace
    · exact absurd hblank hline

@[simp]
theorem length_cleaned (v : View) : v.cleaned.length = v.raw.length := by
  rw [Text.length, Text.length, v.cleaned_eq, List.size_toArray, length_clean,
    Array.length_toList]

/-- The cleaned text has its line feeds where the text has them. -/
theorem cleaned_lineFeed_iff (v : View) {place : Nat} :
    v.cleaned[place]? = some '\n' ↔ v.raw[place]? = some '\n' := by
  have hmap := congrArg (·[place]?) (map_lineFeed_cleanFrom v.dialect [] 0 v.raw.toList)
  simp only [List.getElem?_map, Array.getElem?_toList] at hmap
  have hiff {c : Option Char} : c = some '\n' ↔ c.map (· == '\n') = some true := by
    rw [Option.map_eq_some_iff]
    simp
  rw [hiff, hiff, ← hmap, v.cleaned_eq, List.getElem?_toArray, clean]

/-! ## The line table -/

/-- Lines start one after another. -/
theorem lineStartsFrom_pairwise (offset : Nat) (text : List Char) :
    (offset :: lineStartsFrom offset text).Pairwise (· < ·) := by
  induction text generalizing offset with
  | nil => simp [lineStartsFrom]
  | cons c text ih =>
      have htail := List.pairwise_cons.1 (ih (offset + 1))
      rw [lineStartsFrom]
      split
      · exact .cons (fun start hstart => by
          rcases List.mem_cons.1 hstart with rfl | hstart
          · omega
          · have := htail.1 start hstart
            omega) (ih (offset + 1))
      · exact .cons (fun start hstart => by
          have := htail.1 start hstart
          omega) htail.2

theorem toList_starts (v : View) : v.starts.toList = lineStarts v.raw.toList := by
  rw [v.starts_eq]

/-- Texts with their line feeds at the same places have one line table. -/
theorem lineStartsFrom_congr {text text' : List Char}
    (hsame : text.map (· == '\n') = text'.map (· == '\n')) (offset : Nat) :
    lineStartsFrom offset text = lineStartsFrom offset text' := by
  induction text generalizing text' offset with
  | nil =>
      obtain rfl : text' = [] := by simpa using hsame.symm
      rfl
  | cons c text ih =>
      cases text' with
      | nil => simp at hsame
      | cons d text' =>
          rw [List.map_cons, List.map_cons, List.cons.injEq] at hsame
          obtain ⟨hfirst, hrest⟩ := hsame
          have hiff : c = '\n' ↔ d = '\n' := by
            rw [← beq_iff_eq, hfirst, beq_iff_eq]
          rw [lineStartsFrom, lineStartsFrom, ih hrest]
          simp only [hiff]

/-- The cleaned text has the line table of the text. -/
theorem lineStarts_cleaned (v : View) : lineStarts v.cleaned.toList = v.starts.toList := by
  rw [toList_starts, v.cleaned_eq, List.toList_toArray]
  exact congrArg (0 :: ·) (lineStartsFrom_congr (map_lineFeed_cleanFrom v.dialect [] 0 _) 0)

theorem starts_pairwise (v : View) : v.starts.toList.Pairwise (· < ·) := by
  rw [toList_starts]
  exact lineStartsFrom_pairwise 0 _

theorem starts_zero (v : View) : v.starts[0]? = some 0 := by
  rw [← Array.getElem?_toList, toList_starts]
  rfl

theorem size_starts_pos (v : View) : 0 < v.starts.size :=
  (Array.getElem?_eq_some_iff.1 v.starts_zero).1

/-- In an increasing list the entries up to a bound are the first ones. -/
theorem lt_countP_iff {starts : List Nat} (hstarts : starts.Pairwise (· < ·))
    (offset : Int) {index : Nat} (hindex : index < starts.length) :
    index < starts.countP (fun start : Nat => decide ((start : Int) ≤ offset)) ↔
      (starts[index] : Int) ≤ offset := by
  induction starts generalizing index with
  | nil => simp at hindex
  | cons start starts ih =>
      obtain ⟨hfirst, hrest⟩ := List.pairwise_cons.1 hstarts
      by_cases hstart : (start : Int) ≤ offset
      · rw [List.countP_cons_of_pos (by simpa using hstart)]
        cases index with
        | zero => simpa using hstart
        | succ index =>
            rw [List.getElem_cons_succ, ← ih hrest (by simpa using hindex)]
            omega
      · have hlater : ∀ later ∈ start :: starts, ¬((later : Int) ≤ offset) := by
          intro later hmem
          rcases List.mem_cons.1 hmem with rfl | hmem
          · exact hstart
          · have := hfirst later hmem
            omega
        rw [List.countP_eq_zero.2 (by simpa using hlater)]
        simpa using hlater _ (List.getElem_mem hindex)

/-- The lines that start up to an offset are the first ones of the table. -/
theorem lt_count_iff (v : View) (offset : Int) {index start : Nat}
    (hstart : v.starts[index]? = some start) :
    index < v.starts.countP (fun start : Nat => decide ((start : Int) ≤ offset)) ↔
      (start : Int) ≤ offset := by
  obtain ⟨hindex, rfl⟩ := Array.getElem?_eq_some_iff.1 hstart
  rw [← Array.countP_toList, lt_countP_iff v.starts_pairwise offset (by simpa)]
  simp

/-- A line starts where the entry of its number in the table says. -/
theorem start?_eq_some_iff {start : Int} :
    v.start? line = some start ↔
      ∃ index entry : Nat, line = index + 1 ∧ start = entry ∧
        v.starts[index]? = some entry := by
  rw [start?]
  split
  case isTrue hline =>
    rw [Option.map_eq_some_iff]
    constructor
    · rintro ⟨entry, hentry, rfl⟩
      exact ⟨(line - 1).toNat, entry, by omega, rfl, hentry⟩
    · rintro ⟨index, entry, rfl, rfl, hentry⟩
      exact ⟨entry, by simpa using hentry, rfl⟩
  case isFalse hline =>
    simp only [reduceCtorEq, false_iff]
    rintro ⟨index, entry, rfl, -⟩
    omega

theorem start?_nonneg {start : Int} (hstart : v.start? line = some start) :
    0 ≤ start := by
  obtain ⟨index, entry, -, rfl, -⟩ := start?_eq_some_iff.1 hstart
  exact Int.natCast_nonneg _

/-- Each line of the text has an entry. -/
theorem exists_start (hfirst : 1 ≤ line) (hlast : line ≤ v.lineCount) :
    ∃ entry : Nat, entry ∈ v.starts ∧ v.start? line = some (entry : Int) := by
  rw [lineCount] at hlast
  have hindex : (line - 1).toNat < v.starts.size := by omega
  refine ⟨v.starts[(line - 1).toNat], Array.getElem_mem _, ?_⟩
  exact start?_eq_some_iff.2 ⟨(line - 1).toNat, _, by omega, rfl,
    Array.getElem?_eq_getElem hindex⟩

theorem one_le_lineOf (v : View) (offset : Int) : 1 ≤ v.lineOf offset := by
  rw [lineOf]
  omega

theorem lineOf_le_lineCount (v : View) (offset : Int) :
    v.lineOf offset ≤ v.lineCount := by
  have hcount : v.starts.countP (fun start : Nat => decide ((start : Int) ≤ offset)) ≤
      v.starts.size := Array.countP_le_size
  have hpos := v.size_starts_pos
  rw [lineOf, lineCount]
  omega

/-- A later offset is on no earlier line. -/
theorem lineOf_mono {offset offset' : Int} (hle : offset ≤ offset') :
    v.lineOf offset ≤ v.lineOf offset' := by
  have hcount : v.starts.countP (fun start : Nat => decide ((start : Int) ≤ offset)) ≤
      v.starts.countP (fun start : Nat => decide ((start : Int) ≤ offset')) := by
    rw [← Array.countP_toList, ← Array.countP_toList]
    apply List.countP_mono_left
    intro start _ hstart
    simp only [decide_eq_true_eq] at hstart ⊢
    omega
  rw [lineOf, lineOf]
  omega

/-- A line up to that of an offset starts no later than the offset. -/
theorem start?_le {start : Int} (hoffset : 0 ≤ offset) (hline : line ≤ v.lineOf offset)
    (hstart : v.start? line = some start) : start ≤ offset := by
  obtain ⟨index, entry, rfl, rfl, hentry⟩ := start?_eq_some_iff.1 hstart
  have hzero := (v.lt_count_iff offset v.starts_zero).2 (by simpa using hoffset)
  rw [lineOf] at hline
  exact (v.lt_count_iff offset hentry).1 (by omega)

/-- The line of an offset is the one that starts no later and whose successor, if
there is one, starts after it. -/
theorem lineOf_eq {start : Int} (hstart : v.start? line = some start)
    (hle : start ≤ offset)
    (hnext : ∀ next, v.start? (line + 1) = some next → offset < next) :
    v.lineOf offset = line := by
  obtain ⟨index, entry, rfl, rfl, hentry⟩ := start?_eq_some_iff.1 hstart
  have hlower := (v.lt_count_iff offset hentry).2 hle
  have hupper : v.starts.countP (fun start : Nat => decide ((start : Int) ≤ offset)) ≤
      index + 1 := by
    by_contra hlt
    have hsize : v.starts.countP (fun start : Nat => decide ((start : Int) ≤ offset)) ≤
        v.starts.size := Array.countP_le_size
    have hindex : index + 1 < v.starts.size := by omega
    have hsucc := Array.getElem?_eq_getElem hindex
    have hafter := (v.lt_count_iff offset hsucc).1 (by omega)
    have := hnext _ (start?_eq_some_iff.2 ⟨index + 1, _, by omega, rfl, hsucc⟩)
    omega
  rw [lineOf]
  omega

/-- A line starts after the line above it. -/
theorem start?_lt_next {start next : Int} (hstart : v.start? line = some start)
    (hnext : v.start? (line + 1) = some next) : start < next := by
  obtain ⟨index, entry, rfl, rfl, hentry⟩ := start?_eq_some_iff.1 hstart
  obtain ⟨index', entry', hindex, rfl, hentry'⟩ := start?_eq_some_iff.1 hnext
  obtain ⟨hlt, rfl⟩ := Array.getElem?_eq_some_iff.1 hentry
  obtain ⟨hlt', rfl⟩ := Array.getElem?_eq_some_iff.1 hentry'
  have hless := List.pairwise_iff_getElem.1 v.starts_pairwise index index' (by simpa)
    (by simpa) (by omega)
  simpa using hless

/-- The line that starts at an offset is the line of that offset. -/
theorem lineOf_start {start : Int} (hstart : v.start? line = some start) :
    v.lineOf start = line :=
  lineOf_eq hstart (le_refl start) fun _ hnext => start?_lt_next hstart hnext

/-! ## Targets -/

theorem offsetOfLine_of_start {start : Int} (hstart : v.start? line = some start) :
    v.offsetOfLine line = start := by
  obtain ⟨index, entry, rfl, rfl, -⟩ := start?_eq_some_iff.1 hstart
  rw [offsetOfLine, max_eq_right (by omega), hstart]
  rfl

theorem offsetOfLine_nonneg (v : View) (line : Int) : 0 ≤ v.offsetOfLine line := by
  rw [offsetOfLine]
  cases hstart : v.start? (max 1 line) with
  | none => exact le_max_left _ _
  | some start => exact start?_nonneg hstart

theorem targetOffset_nonneg (v : View) (line : Int) : 0 ≤ v.targetOffset line := by
  have hoffset := v.offsetOfLine_nonneg line
  have hskip := Text.le_skipWhile v.raw (fun c => c == ' ' || c == '\t') (v.offsetOfLine line)
  rw [targetOffset]
  split
  · exact hoffset
  · exact le_trans hoffset hskip

/-- Lines before the first stand for the first. -/
theorem targetOffset_max (v : View) (line : Int) :
    v.targetOffset (max 1 line) = v.targetOffset line := by
  have hpos := v.size_starts_pos
  have hcount : v.lineCount < max 1 line ↔ v.lineCount < line := by
    rw [lineCount]
    omega
  have hoffset : v.offsetOfLine (max 1 line) = v.offsetOfLine line := by
    rw [offsetOfLine, offsetOfLine, ← max_assoc, max_self]
  rw [targetOffset, targetOffset]
  simp only [hcount, hoffset]

end View

/-! ## Spans -/

/-- The parts of a span from an offset through a character of the text. -/
theorem Span.ofOffsets_through {v : View} {start last : Int} (hstart : 0 ≤ start)
    (hle : start ≤ last) {c : Char} (hc : v.cleaned.at? last = some c)
    (strategy : Strategy) :
    Span.ofOffsets v start (last + 1) strategy =
      { start := start
        stop := last + 1
        firstLine := v.lineOf start
        lastLine := v.lineOf last
        strategy := strategy } := by
  have hlt := Text.lt_length_of_at? (le_trans hstart hle) hc
  rw [View.length_cleaned] at hlt
  have hstop : max start (min v.raw.length (last + 1)) = last + 1 := by omega
  have hlast : max start (last + 1 - 1) = last := by omega
  rw [Span.ofOffsets, hstop, hlast]

/-! ## Signatures -/

namespace Signature

/-- The walk upwards stays inside the text. -/
theorem climb_bounds (v : View) {line : Nat} (hline : 1 ≤ line) (room : Int) :
    1 ≤ climb v line room ∧ climb v line room ≤ line := by
  fun_induction climb v line room with
  | case1 room line hclimbs ih =>
      have := ih (by omega)
      omega
  | case2 room line hstays => omega
  | case3 line room hfirst => omega

/-- The signature around an offset begins with a line of the file, at the offset
or before it. -/
theorem start_spec (v : View) {anchor : Int} (hanchor : 0 ≤ anchor) (maxLines : Int) :
    ∃ entry : Nat, entry ∈ v.starts ∧ start v anchor maxLines = .ok (entry : Int) ∧
      (entry : Int) ≤ anchor := by
  have hfirst := v.one_le_lineOf anchor
  have hlast := v.lineOf_le_lineCount anchor
  have hline : 1 ≤ (v.lineOf anchor).toNat := by omega
  obtain ⟨hlower, hupper⟩ : 1 ≤ startLine v anchor maxLines ∧
      startLine v anchor maxLines ≤ (v.lineOf anchor).toNat :=
    climb_bounds v hline maxLines
  have hcount : startLine v anchor maxLines ≤ v.lineCount := by omega
  obtain ⟨entry, hentry, hstart⟩ := View.exists_start hlower hcount
  refine ⟨entry, hentry, ?_, ?_⟩
  · rw [start, View.startOf, hstart]
  · exact View.start?_le hanchor (by omega) hstart

end Signature

end FrameLens
