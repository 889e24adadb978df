import FrameLens.Proofs.Lexis.Locality
import FrameLens.Proofs.Lexis.Survivors

/-!
# Cleaning a cleaned text

A cleaned text holds neither comments nor strings, so cleaning it again can only blank
what single quotes open in it.  A single quote was left as code because it separates
digits, which was decided by the characters around it as they were written.  If some of
these belong to a region they are gone now, and the quote may open a literal.  That is
the only way in which cleaning again changes anything.
-/

namespace FrameLens.Lexis

open FrameLens.Text (isWordChar isAlphanumeric isDigit)

variable {dialect : Dialect} {before text rest : List Char} {pieces earlier later : List Piece}

/-- A character that a number with separators is made of. -/
def InNumber (c : Char) : Prop :=
  isAlphanumeric c ∨ c ∈ ['_', '\'', '.']

/-- A single quote is left as code on account of characters that are blanked.  The one
after it begins a region, which is then a literal with an `R` in front; or the number
characters before it begin with a digit of a region, and with no digit after that region. -/
inductive RestsOnRegion : List Piece → Prop where
  | ahead (earlier later : List Piece) (region : List Char) :
      RestsOnRegion (earlier ++ .code '\'' :: .region region :: later)
  | behind (earlier later : List Piece) (region : List Char) {first : Char} {run : List Char} :
      (∀ c ∈ first :: run, InNumber c) → ¬isDigit first →
      RestsOnRegion
        (earlier ++ .region region :: (first :: run).map .code ++ .code '\'' :: later)

/-! ## Parts of a splitting -/

/-- The later pieces of a splitting split what is left of the text behind the earlier ones. -/
theorem Splits.exists_later (hsplits : Splits dialect before rest (earlier ++ later)) :
    ∃ tail, Splits dialect (before ++ earlier.flatMap Piece.text) tail later := by
  induction earlier generalizing before rest with
  | nil => exact ⟨rest, by simpa using hsplits⟩
  | cons piece earlier ih =>
      rw [List.flatMap_cons, ← List.append_assoc]
      cases hsplits with
      | code _ hrest => exact ih hrest
      | region _ _ hrest => exact ih hrest

theorem Splits.region_ne_nil {region : List Char}
    (hsplits : Splits dialect before rest (earlier ++ .region region :: later)) :
    region ≠ [] := by
  obtain ⟨tail, htail⟩ := hsplits.exists_later
  cases htail with
  | region hbegins hcovers _ => exact hcovers.ne_nil hbegins.1

/-- A single quote that is code separates digits. -/
theorem Splits.separatesDigits
    (hsplits : Splits dialect before rest (earlier ++ .code '\'' :: later)) :
    SeparatesDigits (before ++ earlier.flatMap Piece.text) (later.flatMap Piece.text) := by
  obtain ⟨tail, htail⟩ := hsplits.exists_later
  cases htail with
  | code hcode hrest =>
      rw [hrest.text_eq]
      by_contra hseparates
      exact hcode .character ⟨List.prefix_append ['\''] _, hseparates⟩

/-- A character that is left of a text and is no blank is a piece of its own. -/
theorem exists_piece_of_survivor {k : Nat} {c : Char}
    (hc : (pieces.flatMap Piece.cleaned)[k]? = some c) (hblank : c ≠ '\n' ∧ c ≠ ' ') :
    ∃ earlier later, pieces = earlier ++ .code c :: later ∧
      (earlier.flatMap Piece.cleaned).length = k := by
  induction pieces generalizing k with
  | nil => simp at hc
  | cons piece pieces ih =>
      cases piece with
      | code d =>
          cases k with
          | zero =>
              obtain rfl : d = c := by simpa [Piece.cleaned] using hc
              exact ⟨[], pieces, rfl, rfl⟩
          | succ k =>
              obtain ⟨earlier, later, rfl, hlength⟩ := ih (by simpa [Piece.cleaned] using hc)
              exact ⟨.code d :: earlier, later, rfl, by simp [Piece.cleaned, ← hlength]⟩
      | region region =>
          obtain ⟨j, rfl, hj⟩ := Piece.survivor_after_region hc hblank
          obtain ⟨earlier, later, rfl, hlength⟩ := ih hj
          exact ⟨.region region :: earlier, later, rfl, by simp [Piece.cleaned, ← hlength]⟩

/-! ## Number characters before a quote -/

/-- If a quote separates digits, the number characters before it begin with one. -/
theorem SeparatesDigits.isDigit_first {head run after : List Char} {first : Char}
    (hseparates : SeparatesDigits (head ++ first :: run) after)
    (hrun : ∀ c ∈ first :: run, InNumber c)
    (hhead : ∀ c, head.getLast? = some c → ¬InNumber c) : isDigit first := by
  obtain ⟨-, -, outside, digit, digits, heq, hdigit, hdigits, houtside⟩ := hseparates
  rcases List.append_eq_append_iff.1 heq with ⟨middle, rfl, hmiddle⟩ | ⟨middle, rfl, hmiddle⟩
  · cases hlast : middle.getLast? with
    | none =>
        obtain rfl := List.getLast?_eq_none_iff.1 hlast
        obtain rfl : first = digit := (List.cons.inj hmiddle).1
        exact hdigit
    | some c =>
        have hmem : c ∈ first :: run :=
          hmiddle ▸ List.mem_append_left _ (List.mem_of_getLast? hlast)
        exact absurd (hrun c hmem) (houtside c (by simp [hlast]))
  · cases hlast : middle.getLast? with
    | none =>
        obtain rfl := List.getLast?_eq_none_iff.1 hlast
        obtain rfl : digit = first := (List.cons.inj hmiddle).1
        exact hdigit
    | some c =>
        have hmem : c ∈ digit :: digits :=
          hmiddle ▸ List.mem_append_left _ (List.mem_of_getLast? hlast)
        exact absurd (hdigits c hmem) (hhead c (by simp [hlast]))

theorem inNumber_of_isWordChar {c : Char} (hword : isWordChar c) : InNumber c := by
  rw [Text.isWordChar, Bool.or_eq_true, beq_iff_eq] at hword
  exact hword.imp_right fun hc => by simp [hc]

/-- What is left of a region is no part of a number. -/
theorem not_inNumber_of_region {region : List Char} {c : Char}
    (hc : c ∈ (Piece.region region).cleaned) : ¬InNumber c := by
  obtain ⟨d, -, rfl⟩ := List.mem_map.1 hc
  rw [InNumber]
  split
  · decide
  · decide

/-- Before a place stands a run of number characters that are code, as long as possible. -/
theorem exists_run (pieces : List Piece) :
    ∃ (front : List Piece) (run : List Char), pieces = front ++ run.map .code ∧
      (∀ c ∈ run, InNumber c) ∧ ∀ c, front.getLast? = some (.code c) → ¬InNumber c := by
  induction pieces using List.reverseRecOn with
  | nil => exact ⟨[], [], rfl, nofun, nofun⟩
  | append_singleton pieces piece ih =>
      by_cases hpiece : ∃ c, piece = .code c ∧ InNumber c
      · obtain ⟨c, rfl, hc⟩ := hpiece
        obtain ⟨front, run, rfl, hrun, hfront⟩ := ih
        refine ⟨front, run ++ [c], by simp, fun d hd => ?_, hfront⟩
        rcases List.mem_append.1 hd with hd | hd
        · exact hrun d hd
        · rwa [List.mem_singleton.1 hd]
      · refine ⟨pieces ++ [piece], [], by simp, nofun, fun c hc hnumber => ?_⟩
        rw [List.getLast?_concat, Option.some.injEq] at hc
        exact hpiece ⟨c, hc, hnumber⟩

theorem flatMap_text_code (run : List Char) : (run.map Piece.code).flatMap Piece.text = run := by
  rw [List.flatMap_map]
  exact List.flatMap_singleton' run

theorem flatMap_cleaned_code (run : List Char) :
    (run.map Piece.code).flatMap Piece.cleaned = run := by
  rw [List.flatMap_map]
  exact List.flatMap_singleton' run

/-- Pieces have the same length before and after cleaning. -/
theorem length_flatMap_cleaned (pieces : List Piece) :
    (pieces.flatMap Piece.cleaned).length = (pieces.flatMap Piece.text).length := by
  induction pieces with
  | nil => rfl
  | cons piece pieces ih =>
      rw [List.flatMap_cons, List.flatMap_cons, List.length_append, List.length_append, ih]
      cases piece with
      | code c => rfl
      | region region => rw [Piece.cleaned, Piece.text, List.length_map]

/-- A number in the cleaned text does not go on to the left of a region, nor of a code
character that is no part of it. -/
theorem Splits.not_inNumber_before {front : List Piece}
    (hsplits : Splits dialect before rest (front ++ later))
    (hfront : ∀ c, front.getLast? = some (.code c) → ¬InNumber c) :
    ∀ c, (front.flatMap Piece.cleaned).getLast? = some c → ¬InNumber c := by
  intro c hc
  rcases List.eq_nil_or_concat front with rfl | ⟨front, piece, rfl⟩
  · simp at hc
  rw [List.concat_eq_append] at hsplits hfront hc
  rw [List.flatMap_append, List.flatMap_singleton] at hc
  cases piece with
  | code d =>
      rw [Piece.cleaned, List.getLast?_concat, Option.some.injEq] at hc
      exact hfront c (by rw [List.getLast?_concat, hc])
  | region region =>
      rw [List.append_assoc, List.singleton_append] at hsplits
      have hne : (Piece.region region).cleaned ≠ [] := by
        simpa [Piece.cleaned] using hsplits.region_ne_nil
      rw [List.getLast?_append_of_ne_nil _ hne] at hc
      exact not_inNumber_of_region (List.mem_of_getLast? hc)

/-- The identifier character before a quote that is code is still there. -/
theorem Splits.exists_word_before
    (hsplits : Splits dialect [] text (earlier ++ .code '\'' :: later)) :
    ∃ c, (earlier.flatMap Piece.cleaned).getLast? = some c ∧ isWordChar c := by
  obtain ⟨⟨c, hlast, hword⟩, -⟩ := hsplits.separatesDigits
  rw [List.nil_append, List.getLast?_eq_getElem?] at hlast
  have hlt := (List.getElem?_eq_some_iff.1 hlast).1
  have hlength := length_flatMap_cleaned earlier
  refine ⟨c, ?_, hword⟩
  have hquote : ((earlier ++ .code '\'' :: later).flatMap Piece.cleaned)[
      (earlier.flatMap Piece.text).length - 1 + 1]? = some '\'' := by
    rw [Nat.sub_add_cancel (by omega), ← hlength, List.flatMap_append,
      List.getElem?_append_right (le_refl _), Nat.sub_self]
    rfl
  have hbefore : text[(earlier.flatMap Piece.text).length - 1]? = some c := by
    rw [← hsplits.text_eq, List.flatMap_append, List.getElem?_append_left hlt, hlast]
  have hleft := hsplits.word_before_survivor hquote (by decide) hbefore hword
  rw [← hlength, List.flatMap_append, List.getElem?_append_left (by omega)] at hleft
  rwa [List.getLast?_eq_getElem?]

/-! ## Quotes in a cleaned text -/

/-- A quote that rests on no region still separates digits. -/
theorem Splits.separatesDigits_cleaned
    (hsplits : Splits dialect [] text (earlier ++ .code '\'' :: later))
    (hfree : ¬RestsOnRegion (earlier ++ .code '\'' :: later)) :
    SeparatesDigits (earlier.flatMap Piece.cleaned) (later.flatMap Piece.cleaned) := by
  obtain ⟨-, ⟨next, hnext, halpha⟩, -⟩ := hsplits.separatesDigits
  refine ⟨hsplits.exists_word_before, ⟨next, ?_, halpha⟩, ?_⟩
  · cases later with
    | nil => simp at hnext
    | cons piece later =>
        cases piece with
        | code c => exact hnext
        | region region => exact absurd (.ahead earlier later region) hfree
  · obtain ⟨last, hlast, hword⟩ := hsplits.exists_word_before
    obtain ⟨front, run, rfl, hrun, hfront⟩ := exists_run earlier
    rw [List.append_assoc] at hsplits
    have hoff := hsplits.not_inNumber_before hfront
    rw [List.flatMap_append, flatMap_cleaned_code] at hlast ⊢
    cases run with
    | nil =>
        rw [List.append_nil] at hlast
        exact absurd (inNumber_of_isWordChar hword) (hoff last hlast)
    | cons first run =>
        refine ⟨_, first, run, rfl, ?_, hrun, hoff⟩
        rw [← List.append_assoc] at hsplits
        have hdigits := hsplits.separatesDigits
        rw [List.nil_append, List.flatMap_append, flatMap_text_code] at hdigits
        rcases List.eq_nil_or_concat front with rfl | ⟨front, piece, rfl⟩
        · exact hdigits.isDigit_first hrun nofun
        rw [List.concat_eq_append] at hfree hfront hdigits
        cases piece with
        | code c =>
            refine hdigits.isDigit_first hrun fun d hd => ?_
            rw [List.flatMap_append, List.flatMap_singleton, Piece.text,
              List.getLast?_concat] at hd
            exact hfront d (by rw [List.getLast?_concat, Option.some.inj hd])
        | region region =>
            by_contra hdigit
            refine hfree ?_
            rw [List.append_assoc front, List.singleton_append]
            exact .behind front later region hrun hdigit

/-- A quote that rests on a region no longer separates digits. -/
theorem Splits.exists_opener (hsplits : Splits dialect [] text pieces)
    (hrests : RestsOnRegion pieces) :
    ∃ earlier later, pieces = earlier ++ .code '\'' :: later ∧
      ¬SeparatesDigits (earlier.flatMap Piece.cleaned) (later.flatMap Piece.cleaned) := by
  cases hrests with
  | ahead earlier later region =>
      refine ⟨earlier, _, rfl, fun hseparates => ?_⟩
      rw [List.append_cons] at hsplits
      obtain ⟨-, ⟨next, hnext, halpha⟩, -⟩ := hseparates
      have hne : (Piece.region region).cleaned ≠ [] := by
        simpa [Piece.cleaned] using hsplits.region_ne_nil
      rw [List.flatMap_cons, List.head?_append_of_ne_nil _ hne] at hnext
      exact not_inNumber_of_region (List.mem_of_head? hnext) (.inl halpha)
  | behind earlier later region hrun hdigit =>
      refine ⟨_, later, rfl, fun hseparates => hdigit ?_⟩
      rw [List.append_cons, List.flatMap_append, flatMap_cleaned_code] at hseparates
      refine hseparates.isDigit_first hrun ?_
      rw [List.append_assoc, List.cons_append, List.append_cons] at hsplits
      refine hsplits.not_inNumber_before fun c hc => ?_
      rw [List.getLast?_concat] at hc
      cases hc

/-! ## Cleaning again -/

/-- A text in which nothing opens is clean. -/
theorem clean_eq_self
    (hcode : ∀ k form, ¬Opens dialect form (text.take k) (text.drop k)) :
    clean dialect text = text := by
  have hsplits (before rest : List Char) (htext : text = before ++ rest) :
      Splits dialect before rest (rest.map .code) := by
    induction rest generalizing before with
    | nil => exact .done
    | cons c rest ih =>
        refine .code (fun form => ?_) (ih (before ++ [c]) (by simpa using htext))
        simpa [htext] using hcode before.length form
  calc clean dialect text
      = (text.map Piece.code).flatMap Piece.cleaned := (hsplits [] text rfl).clean_eq
    _ = text := flatMap_cleaned_code text

/-- No text that a comment or a string opens with is left in a cleaned text. -/
theorem not_infix_of_opens (form : Form) {opener : List Char} (hne : opener ≠ [])
    (hblank : ∀ c ∈ opener, c ≠ '\n' ∧ c ≠ ' ')
    (hopens : ∀ before rest, opener <+: rest → Opens dialect form before rest) (k : Nat) :
    ¬opener <:+: (clean dialect text).drop k := by
  intro hinside
  obtain ⟨j, hbegins, hcode⟩ :=
    exists_code_of_infix hne hblank (hinside.trans (List.drop_suffix k _).isInfix)
  exact hcode form (hopens _ _ hbegins)

/-- In a cleaned text nothing opens but character literals. -/
theorem character_of_opens {form : Form} {k : Nat}
    (hopens : Opens dialect form before ((clean dialect text).drop k)) :
    form = .character := by
  have hquote {opener : List Char} (hmem : '"' ∈ opener) :
      ¬opener <+: (clean dialect text).drop k := by
    intro hbegins
    exact not_infix_of_opens .string (by simp) (by simp) (fun _ _ => id) k
      (((List.singleton_infix_iff _ _).2 hmem).trans hbegins.isInfix)
  cases form with
  | lineComment =>
      exact absurd hopens.isInfix
        (not_infix_of_opens .lineComment (by simp) (by simp) (fun _ _ => id) k)
  | blockComment =>
      exact absurd hopens.isInfix
        (not_infix_of_opens .blockComment (by simp) (by simp) (fun _ _ => id) k)
  | verbatim =>
      obtain ⟨-, opener, hopener, hbegins⟩ := hopens
      have hmem : ∀ opener ∈ verbatimOpeners, '"' ∈ opener := by decide
      exact absurd hbegins (hquote (hmem opener hopener))
  | tripleQuoted => exact absurd hopens.2 (hquote (by simp))
  | delimited =>
      obtain ⟨-, -, delimiter, -, hbegins⟩ := hopens
      exact absurd hbegins (hquote (by simp [delimitedOpener]))
  | string => exact absurd hopens (hquote (by simp))
  | character => rfl

/-- Cleaning a cleaned text changes it if and only if one of the single quotes that were
left as code rests on a region. -/
theorem clean_clean_iff (dialect : Dialect) (text : List Char) :
    ∃ pieces, Splits dialect [] text pieces ∧
      (clean dialect (clean dialect text) = clean dialect text ↔ ¬RestsOnRegion pieces) := by
  obtain ⟨pieces, hpieces⟩ := exists_splits dialect [] text
  have hclean : clean dialect text = pieces.flatMap Piece.cleaned := hpieces.clean_eq
  refine ⟨pieces, hpieces, fun hagain hrests => ?_, fun hfree => clean_eq_self ?_⟩
  · obtain ⟨earlier, later, rfl, hopens⟩ := hpieces.exists_opener hrests
    rw [List.flatMap_append, List.flatMap_cons] at hclean
    have hquote : (clean dialect text)[(earlier.flatMap Piece.cleaned).length]? = some '\'' := by
      rw [hclean, List.getElem?_append_right (le_refl _), Nat.sub_self]
      rfl
    rw [← hagain] at hquote
    have hdigits := (separatesDigits_of_survivor hquote).2
    rw [hclean, List.take_left, ← List.drop_drop, List.drop_left] at hdigits
    exact hopens hdigits
  · intro k form hopens
    obtain rfl := character_of_opens hopens
    obtain ⟨⟨after, hafter⟩, hopens⟩ := hopens
    have hquote : (clean dialect text)[k]? = some '\'' := by
      rw [← List.head?_drop, ← hafter]
      rfl
    obtain ⟨earlier, later, rfl, rfl⟩ := exists_piece_of_survivor (hclean ▸ hquote) (by decide)
    rw [hclean, List.flatMap_append, List.flatMap_cons, List.take_left, List.drop_left] at hopens
    exact hopens (hpieces.separatesDigits_cleaned hfree)

/-- The end of an escape looks like a digit in front of an encoding mark. -/
def markedAfterEscape : List Char :=
  "'\\0'L'x';".toList

/-- An `R` is taken for a digit behind a separator as well as for the mark of a raw literal. -/
def rawAfterSeparator : List Char :=
  "1'R\"(a)\";".toList

theorem cleaning_again_differs :
    clean Dialect.c (clean Dialect.c markedAfterEscape) ≠ clean Dialect.c markedAfterEscape ∧
      clean Dialect.cpp (clean Dialect.cpp rawAfterSeparator) ≠
        clean Dialect.cpp rawAfterSeparator := by
  decide

end FrameLens.Lexis
