import FrameLens.Proofs.Lexis.Splitting

/-!
# What survives cleaning

A character that is left in a cleaned text and is no blank stands where no form
opens.  So a cleaned text holds nothing that opens a comment or a string, and
where it holds a single quote, that quote separates the digits of a number.
-/

namespace FrameLens.Lexis

open FrameLens.Text (isWordChar isAlphanumeric isDigit)

variable {dialect : Dialect} {before text rest : List Char} {pieces : List Piece}

/-- What survives after a region is none of its characters. -/
theorem Piece.survivor_after_region {region : List Char} {k : Nat} {c : Char}
    (hc : ((.region region :: pieces).flatMap Piece.cleaned)[k]? = some c)
    (hblank : c ≠ '\n' ∧ c ≠ ' ') :
    ∃ j, k = region.length + j ∧ (pieces.flatMap Piece.cleaned)[j]? = some c := by
  rw [List.flatMap_cons, Piece.cleaned, List.getElem?_append, List.length_map] at hc
  split at hc
  · obtain ⟨d, -, rfl⟩ := Option.map_eq_some_iff.1 (List.getElem?_map ▸ hc)
    by_cases hd : d = '\n' <;> simp [hd] at hblank
  · exact ⟨k - region.length, by omega, hc⟩

theorem getElem?_flatMap_region (region : List Char) (pieces : List Piece) (j : Nat) :
    ((.region region :: pieces).flatMap Piece.cleaned)[region.length + j]? =
      (pieces.flatMap Piece.cleaned)[j]? := by
  rw [List.flatMap_cons, List.getElem?_append_right (by simp [Piece.cleaned])]
  simp [Piece.cleaned]

theorem getElem?_length_add_append (region rest : List Char) (j : Nat) :
    (region ++ rest)[region.length + j]? = rest[j]? := by
  rw [List.getElem?_append_right (Nat.le_add_right _ _), Nat.add_sub_cancel_left]

/-- A character that is left of a text and is no blank is the text's own, and no
form opens there. -/
theorem Splits.code_of_survivor (hsplits : Splits dialect before rest pieces)
    {k : Nat} {c : Char} (hc : (pieces.flatMap Piece.cleaned)[k]? = some c)
    (hblank : c ≠ '\n' ∧ c ≠ ' ') :
    rest[k]? = some c ∧
      ∀ form, ¬Opens dialect form (before ++ rest.take k) (rest.drop k) := by
  induction hsplits generalizing k with
  | done => simp at hc
  | code hcode _ ih =>
      cases k with
      | zero => exact ⟨by simpa [Piece.cleaned] using hc, by simpa using hcode⟩
      | succ k =>
          obtain ⟨hrest, hforms⟩ := ih (k := k) (by simpa [Piece.cleaned] using hc)
          exact ⟨by simpa using hrest, by simpa using hforms⟩
  | region _ _ _ ih =>
      obtain ⟨j, rfl, hj⟩ := Piece.survivor_after_region hc hblank
      obtain ⟨hrest, hforms⟩ := ih hj
      rw [getElem?_length_add_append, List.take_length_add_append,
        List.drop_length_add_append, ← List.append_assoc]
      exact ⟨hrest, hforms⟩

/-! ## The end of a region -/

/-- The closer of a region that the text goes on after ends in a mark that is no part of
an identifier.  Only a line comment has no closer: the end of its line ends it. -/
theorem Covers.ends {form : Form} {region : List Char} (hrest : rest ≠ [])
    (hcovers : Covers form region rest) :
    ['\n'] <+: rest ∨ ∃ mark, [mark] <:+ region ∧ isWordChar mark = false := by
  cases form with
  | lineComment => exact .inl (hcovers.2.resolve_left hrest)
  | blockComment =>
      obtain ⟨body, rfl, hbody⟩ := hcovers
      have hcloser := (hbody.resolve_right fun h => hrest h.1).1
      have hmark : ['/'] <:+ ['*', '/'] := List.suffix_append ['*'] ['/']
      exact .inr ⟨'/', (hmark.trans hcloser).trans (List.suffix_append _ _), by decide⟩
  | verbatim =>
      obtain ⟨opener, -, body, rfl, hbody⟩ := hcovers
      obtain ⟨inner, -, rfl, -⟩ := hbody.resolve_right fun h => hrest h.1
      have hmark := List.suffix_append inner ['"']
      exact .inr ⟨'"', hmark.trans (List.suffix_append _ _), by decide⟩
  | tripleQuoted =>
      obtain ⟨width, body, rfl, hwidth, -, hbody⟩ := hcovers
      obtain ⟨inner, run, rfl, hrun, -⟩ := hbody.resolve_right fun h => hrest h.1
      have hquotes : ['"'] <:+ quotes run := by
        rw [quotes, List.suffix_replicate_iff]
        exact ⟨by rw [List.length_singleton]; omega, rfl⟩
      have hmark := hquotes.trans (List.suffix_append inner _)
      exact .inr ⟨'"', hmark.trans (List.suffix_append _ _), by decide⟩
  | delimited =>
      obtain ⟨delimiter, body, -, rfl, hbody⟩ := hcovers
      have hcloser := (hbody.resolve_right fun h => hrest h.1).1
      have hmark : ['"'] <:+ delimitedCloser delimiter := List.suffix_append _ ['"']
      exact .inr ⟨'"', (hmark.trans hcloser).trans (List.suffix_append _ _), by decide⟩
  | string =>
      obtain ⟨body, rfl, hbody⟩ := hcovers
      obtain ⟨inner, -, rfl⟩ := hbody.resolve_right fun h => hrest h.1
      have hmark := List.suffix_append inner ['"']
      exact .inr ⟨'"', hmark.trans (List.suffix_append _ _), by decide⟩
  | character =>
      obtain ⟨body, rfl, hbody⟩ := hcovers
      obtain ⟨inner, -, rfl⟩ := hbody.resolve_right fun h => hrest h.1
      have hmark := List.suffix_append inner ['\'']
      exact .inr ⟨'\'', hmark.trans (List.suffix_append _ _), by decide⟩

/-- An identifier character before a survivor survives too. -/
theorem Splits.word_before_survivor (hsplits : Splits dialect before rest pieces)
    {k : Nat} {c word : Char} (hc : (pieces.flatMap Piece.cleaned)[k + 1]? = some c)
    (hblank : c ≠ '\n' ∧ c ≠ ' ') (hword : rest[k]? = some word)
    (hisWord : isWordChar word) : (pieces.flatMap Piece.cleaned)[k]? = some word := by
  induction hsplits generalizing k with
  | done => simp at hc
  | code _ _ ih =>
      cases k with
      | zero => simpa [Piece.cleaned] using hword
      | succ k =>
          have hearlier := ih (k := k) (by simpa [Piece.cleaned] using hc) (by simpa using hword)
          simpa [Piece.cleaned] using hearlier
  | @region form before region rest pieces _ hcovers hsplits ih =>
      obtain ⟨j, hj, hlater⟩ := Piece.survivor_after_region hc hblank
      cases j with
      | succ j =>
          obtain rfl : k = region.length + j := by omega
          rw [getElem?_length_add_append] at hword
          rw [getElem?_flatMap_region]
          exact ih hlater hword
      | zero =>
          -- The survivor follows the region at once, so the region is closed, and not by
          -- the end of a line: the character before the survivor is its closing mark.
          have hfirst := (hsplits.code_of_survivor hlater hblank).1
          have hrest : rest ≠ [] := by
            rintro rfl
            simp at hfirst
          rcases hcovers.ends hrest with ⟨tail, rfl⟩ | ⟨mark, ⟨inner, rfl⟩, hmark⟩
          · exact absurd (by simpa using hfirst.symm) hblank.1
          · obtain rfl : k = inner.length := by simpa using hj
            obtain rfl : mark = word := by simpa using hword
            simp [hmark] at hisWord

/-! ## The cleaned text -/

/-- What a cleaned text holds between its blanks stands in the text too, and no form
opens where it begins. -/
theorem exists_code_of_infix {pattern : List Char} (hne : pattern ≠ [])
    (hblank : ∀ c ∈ pattern, c ≠ '\n' ∧ c ≠ ' ') (hpattern : pattern <:+: clean dialect text) :
    ∃ k, pattern <+: text.drop k ∧
      ∀ form, ¬Opens dialect form (text.take k) (text.drop k) := by
  obtain ⟨pieces, hpieces⟩ := exists_splits dialect [] text
  have hclean : clean dialect text = pieces.flatMap Piece.cleaned := hpieces.clean_eq
  obtain ⟨k, -, hpattern⟩ := List.infix_iff_getElem?.1 hpattern
  have hcode (j : Nat) (hj : j < pattern.length) :=
    hpieces.code_of_survivor (hclean ▸ hpattern j hj) (hblank _ (List.getElem_mem hj))
  refine ⟨k, List.prefix_iff_getElem?.2 fun j hj => ?_, ?_⟩
  · rw [List.getElem?_drop, Nat.add_comm]
    exact (hcode j hj).1
  · simpa using (hcode 0 (List.length_pos_of_ne_nil hne)).2

/-- A single quote that survives separates digits. -/
theorem separatesDigits_of_survivor {offset : Nat}
    (hquote : (clean dialect text)[offset]? = some '\'') :
    text[offset]? = some '\'' ∧
      SeparatesDigits (text.take offset) (text.drop (offset + 1)) := by
  obtain ⟨pieces, hpieces⟩ := exists_splits dialect [] text
  have hclean : clean dialect text = pieces.flatMap Piece.cleaned := hpieces.clean_eq
  obtain ⟨htext, hcode⟩ := hpieces.code_of_survivor (hclean ▸ hquote) (by decide)
  refine ⟨htext, ?_⟩
  by_contra hseparates
  refine hcode .character ⟨?_, ?_⟩
  · rw [List.prefix_iff_getElem?]
    intro j hj
    obtain rfl : j = 0 := by simpa using hj
    simpa using htext
  · simpa using hseparates

/-- The single quote at an offset of a text separates digits: it comes after an
identifier character that is no more blanked than the quote itself, before an
alphanumeric one, and the maximal run of number characters that it ends begins with
a digit. -/
structure IsSeparator (text cleaned : List Char) (offset : Nat) : Prop where
  quote : text[offset]? = some '\''
  word : 0 < offset ∧ ∃ c, isWordChar c ∧
    text[offset - 1]? = some c ∧ cleaned[offset - 1]? = some c
  alphanumeric : ∃ c, isAlphanumeric c ∧ text[offset + 1]? = some c
  number : ∃ start < offset, (∃ c, isDigit c ∧ text[start]? = some c) ∧
    (∀ k c, start ≤ k → k < offset → text[k]? = some c →
      isAlphanumeric c ∨ c ∈ ['_', '\'', '.']) ∧
    ∀ c, 0 < start → text[start - 1]? = some c → ¬(isAlphanumeric c ∨ c ∈ ['_', '\'', '.'])

/-- A quote that is left by cleaning separates digits. -/
theorem isSeparator_of_survivor {offset : Nat}
    (hquote : (clean dialect text)[offset]? = some '\'') :
    IsSeparator text (clean dialect text) offset := by
  obtain ⟨htext, ⟨word, hlast, hword⟩, ⟨next, hnext, hisNext⟩, earlier, digit, run, hbefore,
    hdigit, hrun, hearlier⟩ := separatesDigits_of_survivor hquote
  have hlength : (earlier ++ digit :: run).length = offset := by
    have hlt := (List.getElem?_eq_some_iff.1 htext).1
    rw [← hbefore, List.length_take, Nat.min_eq_left hlt.le]
  have hat (k : Nat) (hk : k < offset) : (earlier ++ digit :: run)[k]? = text[k]? := by
    rw [← hbefore, List.getElem?_take_of_lt hk]
  have hcount : earlier.length + (run.length + 1) = offset := by simpa using hlength
  have hpos : 0 < offset := by omega
  have hstart : earlier.length < offset := by omega
  have hlast : text[offset - 1]? = some word := by
    rw [hbefore, List.getLast?_eq_getElem?, hlength, hat _ (by omega)] at hlast
    exact hlast
  refine ⟨htext, ⟨hpos, word, hword, hlast, ?_⟩, ⟨next, hisNext, ?_⟩,
    earlier.length, hstart, ⟨digit, hdigit, ?_⟩, fun k c hk hlt hc => ?_, fun c hne hc => ?_⟩
  · obtain ⟨pieces, hpieces⟩ := exists_splits dialect [] text
    have hclean : clean dialect text = pieces.flatMap Piece.cleaned := hpieces.clean_eq
    have hnext : offset - 1 + 1 = offset := Nat.sub_add_cancel hpos
    rw [← hnext, hclean] at hquote
    rw [hclean]
    exact hpieces.word_before_survivor hquote (by decide) hlast hword
  · rwa [List.head?_drop] at hnext
  · rw [← hat _ hstart, List.getElem?_append_right (le_refl _), Nat.sub_self]
    rfl
  · rw [← hat k hlt, List.getElem?_append_right hk] at hc
    exact hrun c (List.mem_of_getElem? hc)
  · rw [← hat _ (by omega), List.getElem?_append_left (by omega),
      ← List.getLast?_eq_getElem?] at hc
    exact hearlier c hc

/-- Nothing that could open a comment or a literal survives cleaning: no double quote,
no two slashes and no slash before a star, and of the single quotes only those that
separate digits. -/
theorem clean_opens_nothing (dialect : Dialect) (text : List Char) :
    '"' ∉ clean dialect text ∧
      ¬['/', '/'] <:+: clean dialect text ∧
      ¬['/', '*'] <:+: clean dialect text ∧
      ∀ offset, (clean dialect text)[offset]? = some '\'' →
        IsSeparator text (clean dialect text) offset := by
  refine ⟨fun hquote => ?_, fun hslashes => ?_, fun hstar => ?_, fun offset hquote => ?_⟩
  · obtain ⟨k, hopens, hcode⟩ := exists_code_of_infix (by simp) (by simp)
      ((List.singleton_infix_iff _ _).2 hquote)
    exact hcode .string hopens
  · obtain ⟨k, hopens, hcode⟩ := exists_code_of_infix (by simp) (by simp) hslashes
    exact hcode .lineComment hopens
  · obtain ⟨k, hopens, hcode⟩ := exists_code_of_infix (by simp) (by simp) hstar
    exact hcode .blockComment hopens
  · exact isSeparator_of_survivor hquote

/-- A number with two separators, after a quote in a comment and a string that looks like
a raw literal, and before quotes that open literals. -/
def separatedLine : List Char :=
  "/*'*/R\"(x\" a=1'0_0'f;'\"".toList

theorem clean_opens_nothing_separated :
    (clean Dialect.c separatedLine)[18]? = some '\'' ∧
      IsSeparator separatedLine (clean Dialect.c separatedLine) 18 :=
  have hquote : (clean Dialect.c separatedLine)[18]? = some '\'' := by decide
  ⟨hquote, (clean_opens_nothing Dialect.c separatedLine).2.2.2 18 hquote⟩

end FrameLens.Lexis
