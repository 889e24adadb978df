import FrameLens.Proofs.Headers.Initializers

/-!
# The shape of a header

Wherever the walk back from a brace has to end, and however many lines of what it went
over are kept, no group in braces is cut: the walk goes over a group as a whole, and a
group stands on one line.  So every header is free of semicolons and has its braces
balanced, with every pair of them on one line.
-/

namespace FrameLens

namespace Text

/-! ## The last lines of a text -/

/-- What stands behind a text stays behind its last lines, as far as it is not left out. -/
theorem exists_fromLine_append (count : Nat) (text behind : List Char) :
    ∃ rest, rest <:+ behind ∧ fromLine count (text ++ behind) = fromLine count text ++ rest := by
  induction text generalizing count with
  | nil =>
      obtain ⟨head, hbehind, -⟩ := exists_eq_append_fromLine count behind
      exact ⟨fromLine count behind, ⟨head, hbehind.symm⟩, by simp⟩
  | cons c text ih =>
      cases count with
      | zero => exact ⟨behind, List.suffix_refl behind, by simp⟩
      | succ count =>
          by_cases hc : c = '\n'
          · subst hc
            rw [List.cons_append, fromLine_feed, fromLine_feed]
            exact ih count
          · rw [List.cons_append, fromLine_char hc, fromLine_char hc]
            exact ih (count + 1)

theorem trim_append_blank {blanks : List Char} (hblanks : ∀ c ∈ blanks, isBlank c = true)
    (text : List Char) : trim (text ++ blanks) = trim text := by
  rw [trim, trim, trimLeft, trimLeft, List.dropWhile_append]
  split
  · rename_i hempty
    have hall : blanks.dropWhile isBlank = [] := List.dropWhile_eq_nil_iff.2 hblanks
    rw [hall, List.isEmpty_iff.1 hempty]
  · exact trimRight_append_of_blank (allBlank_iff.2 hblanks) _

/-- Blanks at the end of a text do not show in its last lines. -/
theorem trim_fromLine_trimRight (count : Nat) (text : List Char) :
    trim (fromLine count (trimRight text)) = trim (fromLine count text) := by
  obtain ⟨blanks, htext, hblanks, -⟩ := trimRight_eq_iff.1 (rfl : trimRight text = _)
  obtain ⟨rest, hrest, hlines⟩ := exists_fromLine_append count (trimRight text) blanks
  conv_rhs => rw [htext, hlines]
  exact (trim_append_blank (fun c hc => allBlank_iff.1 hblanks c (hrest.subset hc)) _).symm

end Text

namespace Nesting

variable {opener closer : Char}

/-- A text is balanced if its height is never below zero and zero at its end. -/
theorem balanced_of_height (hne : opener ≠ closer) {text : List Char}
    (hnonneg : ∀ place ≤ text.length, 0 ≤ height text.toArray opener closer place)
    (hend : height text.toArray opener closer text.length = 0) :
    Balanced opener closer text := by
  refine ⟨fun head hhead => ?_, ?_⟩
  · have hcount := hnonneg head.length hhead.length_le
    rw [height_eq hne, List.toList_toArray, ← List.prefix_iff_eq_take.1 hhead] at hcount
    omega
  · rw [height_eq hne, List.toList_toArray, List.take_length] at hend
    omega

end Nesting

namespace Header

open FrameLens.Nesting (Pairs Balanced height rise)
open FrameLens.Text (isBlank trim trimRight splitOn fromLine)

variable {s : Text} {groups : Bool} {brace bound first stop : Nat} {header : List Char}

/-! ## Parts of what the walk back goes over -/

namespace Walked

/-- What is walked over comes back to the height at which it begins, and nowhere goes
below it. -/
theorem height_back (hwalked : Walked s groups stop first) :
    height s '\x7b' '\x7d' stop = height s '\x7b' '\x7d' first ∧
      ∀ place, first ≤ place → place ≤ stop →
        height s '\x7b' '\x7d' first ≤ height s '\x7b' '\x7d' place := by
  induction hwalked with
  | done =>
      refine ⟨rfl, fun place hfirst hstop => ?_⟩
      rw [le_antisymm hstop hfirst]
  | @char first c hc hsemicolon hopener hcloser rest ih =>
      have hlevel : height s '\x7b' '\x7d' (first + 1) = height s '\x7b' '\x7d' first := by
        rw [height, hc, rise, if_neg hopener, if_neg hcloser, Int.add_zero]
      obtain ⟨hback, hinside⟩ := ih
      rw [hlevel] at hback hinside
      refine ⟨hback, fun place hfirst hstop => ?_⟩
      by_cases heq : place = first
      · rw [heq]
      · exact hinside place (by omega) hstop
  | @group first last hgroups hgroup rest ih =>
      obtain ⟨hback, hinside⟩ := ih
      rw [hgroup.pairs.back] at hback hinside
      refine ⟨hback, fun place hfirst hstop => ?_⟩
      by_cases heq : place = first
      · rw [heq]
      by_cases hlast : place ≤ last
      · exact le_of_lt (hgroup.pairs.inside place (by omega) hlast)
      · exact hinside place (by omega) hstop

/-- What is walked over may be cut anywhere but inside a group. -/
theorem behind (hwalked : Walked s groups stop bound) (hbound : bound ≤ first)
    (hstop : first ≤ stop)
    (houtside : ∀ opener closer, bound ≤ opener → opener < first → first ≤ closer →
      ¬Initializes s opener closer) : Walked s groups stop first := by
  induction hwalked with
  | done =>
      rw [le_antisymm hstop hbound]
      exact .done
  | @char bound c hc hsemicolon hopener hcloser rest ih =>
      by_cases heq : first = bound
      · rw [heq]
        exact .char hc hsemicolon hopener hcloser rest
      · exact ih (by omega) fun opener closer hle => houtside opener closer (by omega)
  | @group bound last hgroups hgroup rest ih =>
      have hlt := hgroup.pairs.lt
      by_cases heq : first = bound
      · rw [heq]
        exact .group hgroups hgroup rest
      by_cases hlast : first ≤ last
      · exact absurd hgroup (houtside bound last (le_refl bound) (by omega) hlast)
      · exact ih (by omega) fun opener closer hle => houtside opener closer (by omega)

/-- Blanks at the end of what is walked over may be left out. -/
theorem of_blank {last : Nat} (hwalked : Walked s groups stop first) (hlast : first ≤ last)
    (hstop : last ≤ stop) (hblank : ∀ place, last ≤ place → place < stop →
      ∃ c, s[place]? = some c ∧ isBlank c = true) : Walked s groups last first := by
  induction hwalked with
  | done =>
      rw [le_antisymm hlast hstop]
      exact .done
  | @char first c hc hsemicolon hopener hcloser rest ih =>
      by_cases heq : first = last
      · rw [heq]
        exact .done
      · exact .char hc hsemicolon hopener hcloser (ih (by omega))
  | @group first closer hgroups hgroup rest ih =>
      by_cases heq : first = last
      · rw [heq]
        exact .done
      -- The closer is no blank, so it is not among what is left out.
      have hbefore : closer < last := by
        by_contra hge
        obtain ⟨c, hc, hc_blank⟩ := hblank closer (by omega) rest.le
        obtain rfl : '\x7d' = c := by simpa [hgroup.pairs.closes] using hc
        revert hc_blank
        decide
      exact .group hgroups hgroup (ih (by omega))

/-- Where no groups are stepped over, nothing that is walked over ends anything. -/
theorem plain (hwalked : Walked s false stop first) {place : Nat} (hfirst : first ≤ place)
    (hstop : place < stop) :
    s[place]? ≠ some ';' ∧ s[place]? ≠ some '\x7b' ∧ s[place]? ≠ some '\x7d' := by
  induction hwalked with
  | done => omega
  | @char first c hc hsemicolon hopener hcloser rest ih =>
      by_cases heq : place = first
      · simp [heq, hc, hsemicolon, hopener, hcloser]
      · exact ih (by omega)
  | group hgroups => cases hgroups

end Walked

/-! ## Headers in order -/

/-- A text without semicolons whose braces are balanced, with every pair of them on one
line, and without braces at all unless `groups` are stepped over. -/
structure Orderly (groups : Bool) (header : List Char) : Prop where
  no_semicolon : ';' ∉ header
  balanced : Balanced '\x7b' '\x7d' header
  one_line : ∀ opener closer, Pairs header.toArray '\x7b' '\x7d' opener closer →
    ∀ place, opener < place → place < closer → header[place]? ≠ some '\n'
  no_braces : groups = false → '\x7b' ∉ header ∧ '\x7d' ∉ header

theorem orderly_nil (groups : Bool) : Orderly groups [] where
  no_semicolon := List.not_mem_nil
  balanced := ⟨fun head hhead => by rw [List.prefix_nil.1 hhead]; exact le_refl _, rfl⟩
  one_line := fun opener closer hpairs => absurd hpairs.last_lt (Nat.not_lt_zero closer)
  no_braces := fun _ => ⟨List.not_mem_nil, List.not_mem_nil⟩

/-- What the walk back goes over is in order. -/
theorem orderly_of_walked (hwalked : Walked s groups (first + header.length) first)
    (hsame : ∀ k < header.length, header.toArray[k]? = s[first + k]?) :
    Orderly groups header := by
  have hplace {c : Char} (hc : c ∈ header) :
      ∃ k < header.length, s[first + k]? = some c := by
    obtain ⟨k, hk⟩ := List.mem_iff_getElem?.1 hc
    have hlt : k < header.length := (List.getElem?_eq_some_iff.1 hk).1
    exact ⟨k, hlt, by rw [← hsame k hlt, List.getElem?_toArray, hk]⟩
  obtain ⟨hback, hinside⟩ := hwalked.height_back
  have hheight {place : Nat} (hle : place ≤ header.length) :
      Nesting.height s '\x7b' '\x7d' (first + place) =
        Nesting.height s '\x7b' '\x7d' first +
          Nesting.height header.toArray '\x7b' '\x7d' place :=
    Nesting.height_shift hsame hle
  constructor
  · intro hmem
    obtain ⟨k, hk, hc⟩ := hplace hmem
    exact hwalked.ne_semicolon (Nat.le_add_right first k) (by omega) hc
  · refine Nesting.balanced_of_height (by decide) (fun place hle => ?_) ?_
    · have := hinside (first + place) (by omega) (by omega)
      have := hheight hle
      omega
    · have := hheight (le_refl header.length)
      omega
  · intro opener closer hpairs place hopener hcloser
    have hlast : closer < header.length := by simpa using hpairs.last_lt
    obtain ⟨outer, last, -, hbefore, hafter, -, hgroup⟩ := hwalked.exists_group_of_pairs
      ((Nesting.pairs_shift_iff hsame hlast).1 hpairs) (Nat.le_add_right first opener)
      (by omega)
    rw [← List.getElem?_toArray, hsame place (by omega)]
    exact (hgroup.plain _ (by omega) (by omega)).1
  · rintro rfl
    refine ⟨fun hmem => ?_, fun hmem => ?_⟩
    · obtain ⟨k, hk, hc⟩ := hplace hmem
      exact (hwalked.plain (Nat.le_add_right first k) (by omega)).2.1 hc
    · obtain ⟨k, hk, hc⟩ := hplace hmem
      exact (hwalked.plain (Nat.le_add_right first k) (by omega)).2.2 hc

/-- No group goes on from the lines left out, or from the blanks behind them, into the
rest of a cut. -/
theorem not_initializes_across {dropped front rest : List Char}
    (hcut : (s.toList.take brace).drop bound = dropped ++ front ++ rest)
    (hdropped : dropped = [] ∨ dropped.getLast? = some '\n')
    (hfront : ∀ c ∈ front, isBlank c = true) {opener closer : Nat} (hbound : bound ≤ opener)
    (hopener : opener < bound + (dropped ++ front).length)
    (hcloser : bound + (dropped ++ front).length ≤ closer) : ¬Initializes s opener closer := by
  intro hgroup
  rw [List.length_append] at hopener hcloser
  by_cases hbefore : opener < bound + dropped.length
  · have hne : dropped ≠ [] := by
      rintro rfl
      rw [List.length_nil] at hbefore
      omega
    obtain ⟨lines, rfl⟩ := List.getLast?_eq_some_iff.1 (hdropped.resolve_left hne)
    rw [List.length_append, List.length_singleton] at hbefore hcloser
    -- The line feed is behind the opener, so inside the group.
    have hlines : (s.toList.take brace).drop bound = lines ++ ['\n'] ++ (front ++ rest) := by
      rw [hcut, List.append_assoc _ front]
    obtain ⟨c, hc, hat⟩ := exists_mem_of_cut hlines (le_refl _) (by simp)
    obtain rfl := List.mem_singleton.1 hc
    have hne_opener : opener ≠ bound + lines.length := by
      rintro rfl
      rw [hgroup.pairs.opens] at hat
      cases hat
    exact (hgroup.plain _ (by omega) (by omega)).1 hat
  · obtain ⟨c, hc, hat⟩ := exists_mem_of_cut hcut (Nat.le_of_not_lt hbefore) (by omega)
    obtain rfl : '\x7b' = c := by simpa [hgroup.pairs.opens] using hat
    have hblank := hfront _ hc
    revert hblank
    decide

/-- The last lines of what the walk back goes over are in order once they are trimmed. -/
theorem orderly_fromLine (hbrace : brace ≤ s.size) (hwalked : Walked s groups brace bound)
    (count : Nat) : Orderly groups (trim (fromLine count (s.slice bound brace))) := by
  rw [Text.slice_eq s (Int.natCast_nonneg _) (Int.natCast_nonneg _), Int.toNat_natCast,
    Int.toNat_natCast]
  obtain ⟨dropped, hcut, hdropped⟩ :=
    Text.exists_eq_append_fromLine count ((s.toList.take brace).drop bound)
  obtain ⟨front, back, hlines, hfront, hback, -, hvisible⟩ :=
    Text.exists_eq_append_rdropWhile_dropWhile isBlank
      (fromLine count ((s.toList.take brace).drop bound))
  generalize hheader : trim (fromLine count ((s.toList.take brace).drop bound)) = header
  have htrim : List.rdropWhile isBlank
      ((fromLine count ((s.toList.take brace).drop bound)).dropWhile isBlank) = header := hheader
  rw [htrim] at hlines hvisible
  by_cases hnil : header = []
  · rw [hnil]
    exact orderly_nil groups
  have hlines_ne : fromLine count ((s.toList.take brace).drop bound) ≠ [] := by
    intro hempty
    rw [hempty] at hlines
    simp [hnil] at hlines
  rw [hlines, List.append_assoc front, ← List.append_assoc dropped] at hcut
  have hstands : StandsBefore s brace (bound + (dropped ++ front).length) header :=
    .of_cut hbrace hwalked.le (hcut.trans (List.append_assoc _ _ _).symm) hvisible hback
  have hend := hstands.le
  have hbehind : Walked s groups brace (bound + (dropped ++ front).length) :=
    hwalked.behind (Nat.le_add_right _ _) (by omega) fun opener closer hbound hopener hcloser =>
      not_initializes_across hcut (by tauto) hfront hbound hopener hcloser
  exact orderly_of_walked (hbehind.of_blank (Nat.le_add_right _ _) hend hstands.blank)
    fun k hk => hstands.toArray_getElem? hk

/-! ## Every header -/

/-- Where what is kept of a header begins: no farther back than asked for, and there or
right behind a semicolon or brace.  Unless groups are stepped over, no semicolon or
brace comes after it. -/
structure BeginsAt (s : Text) (groups : Bool) (brace : Nat) (maxChars : Int) (bound : Nat) :
    Prop where
  floor_le : max 0 (brace - maxChars) ≤ bound
  le : bound ≤ brace
  behind : (bound : Int) = max 0 (brace - maxChars) ∨
    ∃ place, bound = place + 1 ∧
      (s[place]? = some ';' ∨ s[place]? = some '\x7b' ∨ s[place]? = some '\x7d')
  largest : groups = false → ∀ place, bound ≤ place → place < brace →
    s[place]? ≠ some ';' ∧ s[place]? ≠ some '\x7b' ∧ s[place]? ≠ some '\x7d'

/-- Every brace has a header, which is in order: the trimmed last lines of the text
between its bound and the brace, of which the limit on lines leaves out the first. -/
theorem before_shape (s : Text) (brace : Nat) (hbrace : brace ≤ s.size) (maxChars maxLines : Int)
    (hchars : 0 ≤ maxChars) (groups : Bool) :
    ∃ (header : List Char) (bound leftOut : Nat),
      before s brace maxChars maxLines groups = .ok header ∧ Orderly groups header ∧
        BeginsAt s groups brace maxChars bound ∧
        header = trim (fromLine leftOut (s.slice bound brace)) ∧
        leftOut = if 0 < maxLines then
            (splitOn '\n' (trimRight (s.slice bound brace))).length - maxLines.toNat
          else (-maxLines).toNat := by
  obtain ⟨header, hheader⟩ := before_ok
    (show (brace : Int) ≤ s.length by rw [Text.length]; omega) maxChars maxLines groups
  obtain ⟨bound, hwalked, hfloor, hends, hkept⟩ := exists_bound hheader
  have hlines : header = trim (fromLine (if 0 < maxLines then
      (splitOn '\n' (trimRight (s.slice bound brace))).length - maxLines.toNat
        else (-maxLines).toNat) (s.slice bound brace)) := by
    rw [hkept, lastRows, ← Text.trim_fromLine_trimRight, fromLine]
    split <;> rfl
  refine ⟨header, bound, _, hheader, ?_, ⟨by omega, hwalked.le, ?_, ?_⟩, hlines, rfl⟩
  · rw [hlines]
    exact orderly_fromLine hbrace hwalked _
  · rcases hends with hroom | ⟨place, hplace, hstops⟩
    · exact .inl (by omega)
    · refine .inr ⟨place, by omega, ?_⟩
      rcases hstops with hsemicolon | hopener | ⟨hcloser, -⟩
      · exact .inl hsemicolon
      · exact .inr (.inl hopener)
      · exact .inr (.inr hcloser)
  · rintro rfl place hfirst hlast
    exact hwalked.plain hfirst hlast

/-- A constructor behind another member, which gives its own members values in braces. -/
def initializedMembers : Text :=
  "int a;\nA::A()\n : x_\x7b1\x7d,\n y_\x7b2\x7d\n\x7b".toList.toArray

/-- Two lines are kept of the constructor's header, without the line of its name. -/
theorem before_shape_two_lines :
    31 ≤ initializedMembers.size ∧ (0 : Int) ≤ 8000 ∧
      before initializedMembers 31 8000 2 true =
        .ok ": x_\x7b1\x7d,\n y_\x7b2\x7d".toList ∧
      Orderly true ": x_\x7b1\x7d,\n y_\x7b2\x7d".toList := by
  have hknown : before initializedMembers 31 8000 2 true =
      .ok ": x_\x7b1\x7d,\n y_\x7b2\x7d".toList := by
    decide +kernel
  obtain ⟨header, -, -, hheader, horderly, -⟩ :=
    before_shape initializedMembers 31 (by decide) 8000 2 (by decide) true
  obtain rfl := Except.ok.inj (hknown.symm.trans hheader)
  exact ⟨by decide, by decide, hknown, horderly⟩

end Header

end FrameLens
