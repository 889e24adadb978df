import FrameLens.Proofs.Decorations
import FrameLens.Proofs.Text.Trimming

/-!
# Texts put together from pieces

Where the text of a file is known piece by piece, so are the places at which the
scans stop: a run of characters is passed over as a whole, a balanced group
closes where it says, and a word lies inside one of the pieces between the
delimiters.
-/

namespace FrameLens

namespace Text

variable {s : Text} {before after : List Char}

/-! ## Blanks and words -/

theorem not_inRanges_of_disjoint {ranges ranges' : List (Nat × Nat)}
    (hdisjoint : ∀ range ∈ ranges, ∀ range' ∈ ranges',
      range.2 < range'.1 ∨ range'.2 < range.1)
    {c : Char} (hc : inRanges ranges c = true) : inRanges ranges' c = false := by
  simp only [inRanges, List.any_eq_true, List.any_eq_false, Bool.and_eq_true,
    decide_eq_true_eq] at hc ⊢
  obtain ⟨range, hrange, hlower, hupper⟩ := hc
  rintro range' hrange' ⟨hlower', hupper'⟩
  rcases hdisjoint range hrange range' hrange' with hlt | hlt
  · exact absurd (hlower'.trans hupper) (not_le.2 hlt)
  · exact absurd (hlower.trans hupper') (not_le.2 hlt)

theorem blank_disjoint_letter : ∀ range ∈ blankRanges, ∀ range' ∈ letterRanges,
    range.2 < range'.1 ∨ range'.2 < range.1 := by
  decide +kernel

theorem blank_disjoint_numeric : ∀ range ∈ blankRanges, ∀ range' ∈ numericRanges,
    range.2 < range'.1 ∨ range'.2 < range.1 := by
  decide +kernel

theorem isWordChar_ofNat_of_isBlank : ∀ point < 0x80,
    isBlank (Char.ofNat point) = true → isWordChar (Char.ofNat point) = false := by
  decide +kernel

/-- No blank is part of a word. -/
theorem isWordChar_of_isBlank {c : Char} (hblank : isBlank c = true) :
    isWordChar c = false := by
  by_cases hascii : c.toNat < 0x80
  · have hpoint := isWordChar_ofNat_of_isBlank c.toNat hascii
    rw [Char.ofNat_toNat] at hpoint
    exact hpoint hblank
  · rw [isBlank, if_neg hascii] at hblank
    have hletter := not_inRanges_of_disjoint blank_disjoint_letter hblank
    have hnumeric := not_inRanges_of_disjoint blank_disjoint_numeric hblank
    have hne : c ≠ '_' := by
      rintro rfl
      exact hascii (by decide)
    rw [isWordChar, isAlphanumeric, isLetter, isNumeric, if_neg hascii, if_neg hascii,
      hletter, hnumeric]
    simpa using hne

/-- No blank is a word character. -/
theorem isBlank_of_isWordChar {c : Char} (hword : isWordChar c = true) :
    isBlank c = false := by
  by_contra hblank
  rw [isWordChar_of_isBlank (by simpa using hblank)] at hword
  cases hword

/-- A word has nothing to trim. -/
theorem trim_of_word {word : List Char} (hword : ∀ c ∈ word, isWordChar c = true) :
    trim word = word :=
  trim_eq_self fun c hc => isBlank_of_isWordChar (hword c hc)

/-! ## Places -/

theorem getElem?_of_toList_eq {c : Char} (htext : s.toList = before ++ c :: after) :
    s[before.length]? = some c := by
  rw [← Array.getElem?_toList, htext, List.getElem?_append_right (le_refl _),
    Nat.sub_self]
  rfl

theorem length_of_toList_eq {text : List Char} (htext : s.toList = text) :
    s.length = text.length := by
  rw [length, ← htext, Array.length_toList]

/-- A scan passes over a run up to the first character that stops it. -/
theorem skipWithin_of_run {p : Char → Bool} {run : List Char} {count : Nat}
    (htext : s.toList = before ++ run ++ after) (hrun : ∀ c ∈ run, p c = true)
    (hafter : ∀ c ∈ after.head?, p c = false) (hcount : run.length ≤ count) :
    s.skipWithin p count before.length = ((before ++ run).length : Nat) := by
  induction run generalizing before count with
  | nil =>
      rw [List.append_nil]
      cases count with
      | zero => rfl
      | succ count =>
          have hstop : s.holdsAt p before.length = false := by
            rw [holdsAt, at?_natCast]
            cases after with
            | nil =>
                have hlength := length_of_toList_eq htext
                rw [List.append_nil, List.append_nil, length] at hlength
                rw [Array.getElem?_eq_none (by omega)]
                rfl
            | cons c after =>
                rw [List.append_nil] at htext
                rw [getElem?_of_toList_eq htext]
                exact hafter c rfl
          rw [skipWithin, hstop]
          rfl
  | cons c run ih =>
      obtain ⟨hc, hrun⟩ := List.forall_mem_cons.1 hrun
      cases count with
      | zero => cases hcount
      | succ count =>
          have hnext : s.toList = before ++ [c] ++ run ++ after := by
            rw [htext, List.append_cons before c run]
          have hgo : s.holdsAt p before.length = true := by
            rw [holdsAt, at?_natCast,
              getElem?_of_toList_eq (htext.trans (List.append_assoc before (c :: run) after))]
            exact hc
          have hrest := ih hnext hrun (Nat.le_of_succ_le_succ hcount)
          rw [List.length_append, List.length_singleton, Int.natCast_succ,
            ← List.append_cons] at hrest
          rw [skipWithin, if_pos hgo, hrest]

/-- A scan passes over a run of its kind and stops behind it. -/
theorem skipWhile_of_run {p : Char → Bool} {run : List Char}
    (htext : s.toList = before ++ run ++ after) (hrun : ∀ c ∈ run, p c = true)
    (hafter : ∀ c ∈ after.head?, p c = false) :
    s.skipWhile p before.length = ((before ++ run).length : Nat) := by
  apply skipWithin_of_run htext hrun hafter
  rw [length_of_toList_eq htext, List.length_append, List.length_append]
  omega

/-- Blanks are passed over up to the next character. -/
theorem pastBlanks_of_gap {gap : List Char} {c : Char}
    (htext : s.toList = before ++ gap ++ c :: after) (hgap : ∀ d ∈ gap, isBlank d = true)
    (hc : isBlank c = false) :
    s.pastBlanks before.length = ((before ++ gap).length : Nat) := by
  apply skipWhile_of_run htext hgap
  rintro d ⟨rfl⟩
  exact hc

/-! ## Words between delimiters -/

/-- An occurrence cuts the text in three. -/
theorem exists_toList_eq_of_occursAt {word : List Char} (hword : word ≠ []) {hit : Nat}
    (hoccurs : occursAt s word hit = true) :
    ∃ before after, s.toList = before ++ word ++ after ∧ before.length = hit := by
  have hlength := add_length_le_of_occursAt hword hoccurs
  obtain ⟨after, hafter⟩ := (occursAt_iff s word hit).1 hoccurs
  refine ⟨s.toList.take hit, after, ?_, ?_⟩
  · rw [List.append_assoc, hafter, List.take_append_drop]
  · rw [List.length_take, Array.length_toList]
    omega

/-- A word that stands in two pieces with a delimiter between them stands in one of
the two. -/
theorem word_before_or_after {word left right : List Char} {delimiter : Char}
    (hfree : delimiter ∉ word)
    (htext : left ++ delimiter :: right = before ++ word ++ after) :
    (∃ rest, left = before ++ word ++ rest ∧ after = rest ++ delimiter :: right) ∨
      ∃ rest, before = left ++ delimiter :: rest ∧ right = rest ++ word ++ after := by
  rcases List.append_eq_append_iff.1 htext with
    ⟨rest, hword, hrest⟩ | ⟨rest, hleft, hafter⟩
  · rcases List.append_eq_append_iff.1 hword with
      ⟨tail, hleft, htail⟩ | ⟨tail, hbefore, htail⟩
    · cases rest with
      | nil =>
          refine .inl ⟨[], ?_, ?_⟩
          · rw [hleft, htail, List.append_nil, List.append_nil]
          · exact hrest.symm
      | cons c rest =>
          obtain ⟨rfl, -⟩ := List.cons.inj hrest
          exact absurd (htail ▸ List.mem_append_right tail List.mem_cons_self) hfree
    · rw [htail] at hrest
      cases tail with
      | nil =>
          cases word with
          | nil => exact .inl ⟨[], by simpa using hbefore.symm, hrest.symm⟩
          | cons c word =>
              obtain ⟨rfl, -⟩ := List.cons.inj hrest
              exact absurd List.mem_cons_self hfree
      | cons c tail =>
          obtain ⟨rfl, hright⟩ := List.cons.inj hrest
          exact .inr ⟨tail, hbefore, hright⟩
  · exact .inl ⟨rest, hleft, hafter⟩

end Text

/-! ## Balanced groups -/

namespace Nesting

open FrameLens.Text

variable {s : Text} {opener closer : Char} {before inner after : List Char}

/-- As many delimiters are closed as are opened, and none before it is opened. -/
structure Balanced (opener closer : Char) (text : List Char) : Prop where
  count_le : ∀ head, head <+: text → head.count closer ≤ head.count opener
  count_eq : text.count opener = text.count closer

instance (opener closer : Char) (text : List Char) :
    Decidable (Balanced opener closer text) :=
  decidable_of_iff
    ((∀ head ∈ text.inits, head.count closer ≤ head.count opener) ∧
      text.count opener = text.count closer)
    ⟨fun ⟨hle, heq⟩ => ⟨fun head hhead => hle head ((List.mem_inits _ _).2 hhead), heq⟩,
      fun ⟨hle, heq⟩ => ⟨fun head hhead => hle head ((List.mem_inits _ _).1 hhead), heq⟩⟩

/-- The height before a piece, and what the piece adds to it. -/
theorem height_append (hne : opener ≠ closer) {piece : List Char}
    (htext : s.toList = before ++ piece ++ after) :
    height s opener closer (before ++ piece).length =
      height s opener closer before.length + (piece.count opener - piece.count closer) := by
  have hbefore : s.toList.take before.length = before := by
    rw [htext, List.append_assoc, List.take_left]
  have hpiece : s.toList.take (before ++ piece).length = before ++ piece := by
    rw [htext, List.take_left]
  rw [height_eq hne, height_eq hne, hbefore, hpiece, List.count_append, List.count_append]
  push_cast
  omega

/-- A balanced text between an opener and a closer makes them a pair. -/
theorem pairs_of_balanced (hne : opener ≠ closer)
    (htext : s.toList = before ++ opener :: inner ++ closer :: after)
    (hinner : Balanced opener closer inner) :
    Pairs s opener closer before.length (before ++ opener :: inner).length where
  opens := by
    have hopener : s.toList = before ++ opener :: (inner ++ closer :: after) := by
      rw [htext, List.append_assoc, List.cons_append]
    exact getElem?_of_toList_eq hopener
  lt := by
    rw [List.length_append, List.length_cons]
    omega
  back := by
    have hsplit : s.toList = before ++ (opener :: inner ++ [closer]) ++ after := by
      simp [htext]
    have hgroup := height_append hne hsplit
    have hcount := hinner.count_eq
    rw [List.count_append, List.count_append, List.count_cons_self,
      List.count_cons_of_ne hne, List.count_singleton_self,
      List.count_singleton, if_neg (by simpa using hne.symm), hcount] at hgroup
    rw [← List.append_assoc, List.length_append, List.length_singleton] at hgroup
    rw [hgroup]
    push_cast
    omega
  inside := by
    intro place hfirst hlast
    obtain ⟨count, rfl⟩ : ∃ count, place = before.length + (count + 1) :=
      ⟨place - before.length - 1, by omega⟩
    have hle : count ≤ inner.length := by
      rw [List.length_append, List.length_cons] at hlast
      omega
    have hsplit : s.toList = before ++ (opener :: inner.take count) ++
        (inner.drop count ++ closer :: after) := by
      rw [htext, List.append_assoc, List.append_assoc, List.cons_append, List.cons_append,
        ← List.append_assoc, List.take_append_drop]
    have hpiece := height_append hne hsplit
    have hcount := hinner.count_le _ (List.take_prefix count inner)
    rw [List.count_cons_self, List.count_cons_of_ne hne, List.length_append,
      List.length_cons, List.length_take, Nat.min_eq_left hle] at hpiece
    rw [hpiece]
    push_cast
    omega

/-- The matcher closes a balanced group exactly at its closer. -/
theorem matching?_of_balanced (hne : opener ≠ closer)
    (htext : s.toList = before ++ opener :: inner ++ closer :: after)
    (hinner : Balanced opener closer inner) :
    s.matching? opener closer before.length = some ((before ++ opener :: inner).length : Nat) :=
  (matching?_eq_some_iff hne).2 ⟨_, rfl, pairs_of_balanced hne htext hinner⟩

end Nesting

end FrameLens
