import FrameLens.Proofs.Lines
import FrameLens.Proofs.Signatures.Walks
import FrameLens.Proofs.Text.Trimming

/-!
# Statements that a signature swallows

The walk up a signature reads lines as they are written, while a statement ends where
its last code character says so.  A line that ends a statement is therefore taken into
the signature below it in two cases: the statement ends with a closing brace, or a
comment or literal stands behind its semicolon.  In both the line, or the one below it,
must read like a part of a signature.
-/

namespace FrameLens

namespace View

variable {v : View} {line : Int}

/-! ## The cleaned text of a line -/

/-- Where the text of a line ends. -/
def lineStop (v : View) (line : Int) : Int :=
  ((v.start? (line + 1)).map (· - 1)).getD v.raw.length

/-- The cleaned text of a line; empty if there is no such line. -/
def cleanedLine (v : View) (line : Int) : List Char :=
  match v.start? line with
  | none => []
  | some start => v.cleaned.slice start (v.lineStop line)

theorem lineText_of_start {start : Int} (hstart : v.start? line = some start) :
    v.lineText line = List.rdropWhile (· == '\r') (v.raw.slice start (v.lineStop line)) := by
  rw [lineText, hstart, ← Text.dropEnd_eq_rdropWhile]
  rfl

theorem cleanedLine_of_start {start : Int} (hstart : v.start? line = some start) :
    v.cleanedLine line = v.cleaned.slice start (v.lineStop line) := by
  rw [cleanedLine, hstart]

theorem lineStop_nonneg {start : Int} (hstart : v.start? line = some start) :
    0 ≤ v.lineStop line := by
  rw [lineStop]
  cases hnext : v.start? (line + 1) with
  | none => exact Text.length_nonneg v.raw
  | some next =>
      have hnonneg := start?_nonneg hstart
      have hlt := start?_lt_next hstart hnext
      simp only [Option.map_some, Option.getD_some]
      omega

/-- Whatever stands before the end of a line, from its start on, stands on that line. -/
theorem lineOf_of_lt_lineStop {start offset : Int} (hstart : v.start? line = some start)
    (hle : start ≤ offset) (hlt : offset < v.lineStop line) : v.lineOf offset = line := by
  refine lineOf_eq hstart hle fun next hnext => ?_
  rw [lineStop, hnext] at hlt
  simp only [Option.map_some, Option.getD_some] at hlt
  omega

/-- A character that can be seen in the cleaned text stands in the text itself. -/
theorem raw_of_cleaned {place : Nat} {c : Char} (hc : v.cleaned[place]? = some c)
    (hvisible : Text.isBlank c = false) : v.raw[place]? = some c := by
  have hraw := at?_raw_of_cleaned (v := v) (Int.natCast_nonneg place)
    (by rwa [Text.at?_natCast]) (by rintro rfl; simp [Text.isBlank] at hvisible)
    (by rintro rfl; simp [Text.isBlank] at hvisible)
  rwa [Text.at?_natCast] at hraw

end View

namespace Signature

open FrameLens.Text (isBlank lastVisible?)

variable {v : View} {line : Int}

/-! ## The end of a statement -/

/-- The last code character of a line ends a statement or a block. -/
def EndsStatement (v : View) (line : Int) : Prop :=
  (Text.trimRight (v.cleanedLine line)).getLast? = some ';' ∨
    (Text.trimRight (v.cleanedLine line)).getLast? = some '\x7d'

/-- The semicolon that is the last code character of a line is not the last one that
can be seen on it: a comment or literal stands behind it. -/
def HidesSemicolon (v : View) (line : Int) : Prop :=
  ∃ semicolon place : Nat, semicolon < place ∧ v.lineOf semicolon = line ∧
    v.lineOf place = line ∧ v.cleaned[semicolon]? = some ';' ∧
    (∃ c, v.cleaned[place]? = some c ∧ isBlank c = true) ∧
    ∃ c, v.raw[place]? = some c ∧ isBlank c = false

/-- A line whose text ends with a semicolon is a boundary. -/
theorem isBoundary_of_lastVisible? {start : Int} (hstart : v.start? line = some start)
    (hlast : lastVisible? (v.raw.slice start (v.lineStop line)) = some ';') :
    isBoundary (Text.trim (v.lineText line)) = true := by
  have hreturn : ∀ c : Char, (c == '\r') = true → isBlank c = true := by
    intro c hc
    rw [beq_iff_eq.1 hc]
    decide
  rw [isBoundary, Text.getLast?_trim, View.lineText_of_start hstart,
    Text.lastVisible?_rdropWhile hreturn, hlast]
  simp

/-- A text with something to be seen behind one of its characters. -/
theorem exists_visible_behind {text : List Char} {k : Nat} {c : Char} (hc : text[k]? = some c)
    (hvisible : isBlank c = false) (hlast : lastVisible? text ≠ some c) :
    ∃ j d, k < j ∧ text[j]? = some d ∧ isBlank d = false := by
  have hsplit : text = text.take k ++ [c] ++ text.drop (k + 1) := by
    conv_lhs => rw [← List.take_append_drop (k + 1) text, List.take_add_one, hc]
    rfl
  by_contra hnone
  refine hlast ?_
  have hblank : ∀ d ∈ text.drop (k + 1), isBlank d = true := by
    intro d hd
    obtain ⟨i, hi⟩ := List.mem_iff_getElem?.1 hd
    rw [List.getElem?_drop] at hi
    by_contra hd
    exact hnone ⟨k + 1 + i, d, by omega, hi, by simpa using hd⟩
  rw [hsplit, Text.lastVisible?_append_of_blank _ hblank, Text.lastVisible?_concat _ hvisible]

/-- Behind a semicolon that ends a line for the code alone, something was blanked. -/
theorem hidesSemicolon_of_crossed (hlast : lastVisible? (v.cleanedLine line) = some ';')
    (hcrossed : isBoundary (Text.trim (v.lineText line)) = false) :
    HidesSemicolon v line := by
  obtain ⟨start, hstart⟩ : ∃ start, v.start? line = some start := by
    by_contra hnone
    rw [View.cleanedLine, Option.eq_none_iff_forall_ne_some.2 fun start hstart =>
      hnone ⟨start, hstart⟩] at hlast
    cases hlast
  have hnonneg := View.start?_nonneg hstart
  have hstop := View.lineStop_nonneg hstart
  rw [View.cleanedLine_of_start hstart] at hlast
  obtain ⟨front, back, hcleaned, hback, hvisible⟩ := Text.exists_eq_of_lastVisible? hlast
  have hsemicolon : (v.cleaned.slice start (v.lineStop line))[front.length]? = some ';' := by
    rw [hcleaned]
    simp
  rw [Text.getElem?_slice _ hnonneg hstop] at hsemicolon
  obtain ⟨hlt, hsemicolon⟩ := hsemicolon
  have hraw : (v.raw.slice start (v.lineStop line))[front.length]? = some ';' :=
    (Text.getElem?_slice _ hnonneg hstop).2 ⟨hlt, View.raw_of_cleaned hsemicolon hvisible⟩
  have hnot : lastVisible? (v.raw.slice start (v.lineStop line)) ≠ some ';' := by
    intro hends
    rw [isBoundary_of_lastVisible? hstart hends] at hcrossed
    cases hcrossed
  obtain ⟨k, d, hbehind, hd, hseen⟩ := exists_visible_behind hraw hvisible hnot
  rw [Text.getElem?_slice _ hnonneg hstop] at hd
  obtain ⟨hplace_lt, hd⟩ := hd
  have hsize : start.toNat + k < v.cleaned.size := by
    have hlength := v.length_cleaned
    rw [Text.length, Text.length] at hlength
    have := (Array.getElem?_eq_some_iff.1 hd).1
    omega
  -- The cleaned line goes on there too, behind its last code character.
  obtain ⟨c, hc⟩ : ∃ c, v.cleaned[start.toNat + k]? = some c :=
    ⟨_, Array.getElem?_eq_getElem hsize⟩
  have hblank : isBlank c = true := by
    have hslice := (Text.getElem?_slice v.cleaned hnonneg hstop).2 ⟨hplace_lt, hc⟩
    obtain ⟨j, rfl⟩ : ∃ j, k = front.length + (j + 1) := ⟨k - front.length - 1, by omega⟩
    rw [hcleaned, List.getElem?_append_right (by omega), Nat.add_sub_cancel_left,
      List.getElem?_cons_succ] at hslice
    exact hback c (List.mem_of_getElem? hslice)
  exact ⟨start.toNat + front.length, start.toNat + k, by omega,
    View.lineOf_of_lt_lineStop hstart (by omega) (by omega),
    View.lineOf_of_lt_lineStop hstart (by omega) (by omega),
    hsemicolon, ⟨c, hc, hblank⟩, d, hd, hseen⟩

/-! ## What is swallowed -/

/-- The walk up from an offset takes in a line above that of the offset although the
line ends a statement. -/
def Swallows (v : View) (anchor maxLines line : Int) : Prop :=
  (∃ first, start v anchor maxLines = .ok first ∧ v.lineOf first ≤ line) ∧
    line < v.lineOf anchor ∧ EndsStatement v line

/-- The walk up from an offset takes in exactly the lines that it has room for and from
which on all lines down to that of the offset belong to those below them. -/
theorem exists_start_le_iff {anchor maxLines line : Int} (hlt : line < v.lineOf anchor) :
    (∃ first, start v anchor maxLines = .ok first ∧ v.lineOf first ≤ line) ↔
      1 ≤ line ∧ v.lineOf anchor - line ≤ maxLines ∧
        ∀ above, line ≤ above → above < v.lineOf anchor → Belongs v above := by
  obtain ⟨entry, -, hstart, hline⟩ := start_ends v anchor maxLines
  have hends := ends_startLine v anchor maxLines
  rw [hstart]
  constructor
  · rintro ⟨first, heq, hle⟩
    cases heq
    rw [hline] at hle
    have hone := hends.one_le
    have hnear := hends.near
    exact ⟨by omega, by omega, fun above hlower hupper =>
      hends.belongs above (by omega) hupper⟩
  · rintro ⟨hone, hroom, hbelongs⟩
    exact ⟨entry, rfl, hline.trans_le (hends.le_of_belongs hone (by omega) hbelongs)⟩

/-- A line that ends a statement is swallowed exactly if there is room for it and it and
all lines between belong to those below them.  Then it ends with a closing brace, or
something stands behind its semicolon. -/
theorem swallows_iff (v : View) (anchor maxLines line : Int) :
    Swallows v anchor maxLines line ↔
      1 ≤ line ∧ line < v.lineOf anchor ∧ v.lineOf anchor - line ≤ maxLines ∧
        (∀ above, line ≤ above → above < v.lineOf anchor → Belongs v above) ∧
        ((Text.trimRight (v.cleanedLine line)).getLast? = some '\x7d' ∨
          ((Text.trimRight (v.cleanedLine line)).getLast? = some ';' ∧
            HidesSemicolon v line)) := by
  constructor
  · rintro ⟨htaken, hlt, hends⟩
    obtain ⟨hone, hroom, hbelongs⟩ := (exists_start_le_iff hlt).1 htaken
    refine ⟨hone, hlt, hroom, hbelongs, ?_⟩
    rcases hends with hsemicolon | hbrace
    · have hlast := hsemicolon
      rw [Text.getLast?_trimRight] at hlast
      exact .inr ⟨hsemicolon, hidesSemicolon_of_crossed hlast
        (hbelongs line (le_refl line) hlt).crossed⟩
    · exact .inl hbrace
  · rintro ⟨hone, hlt, hroom, hbelongs, hends⟩
    refine ⟨(exists_start_le_iff hlt).2 ⟨hone, hroom, hbelongs⟩, hlt, ?_⟩
    rcases hends with hbrace | ⟨hsemicolon, -⟩
    · exact .inr hbrace
    · exact .inl hsemicolon

/-- A function on one line with an attribute, and the next one below it. -/
def adjacentFunctions : View :=
  View.ofText [] Dialect.cpp "[[a]] int f() \x7b\x7d\nint g()\n\x7b\n\x7d\n".toList

/-- A whole function is taken into the signature of the next one. -/
theorem finished_function_swallowed :
    ¬∀ (v : View) (anchor maxLines : Int), 0 ≤ anchor → anchor ≤ v.raw.length →
      ∀ line, ¬Swallows v anchor maxLines line := by
  intro hnone_swallowed
  refine hnone_swallowed adjacentFunctions 21 30 (by decide) (by decide) 1 ⟨⟨0, ?_, ?_⟩, ?_, ?_⟩
  · decide
  · decide
  · decide
  · exact .inr (by decide)

end Signature

end FrameLens
