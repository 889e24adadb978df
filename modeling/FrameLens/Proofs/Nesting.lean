import FrameLens.Code.Block
import FrameLens.Proofs.Offsets
import Mathlib.Data.Nat.Find

/-!
# Nesting by height

The height of a place is the number of openers less the number of closers
before it.  A delimiter pairs with the character after which the height is back
for the first time, and a brace is still open at a place if the height has not
been back since.  The forward matcher and the backward walk are both read in
these terms, and so agree on every text.
-/

namespace FrameLens.Nesting

open FrameLens.Text

variable {s : Text} {opener closer : Char}

/-- How much deeper a character leads. -/
def rise (opener closer : Char) : Option Char → Int
  | some c => if c = opener then 1 else if c = closer then -1 else 0
  | none => 0

theorem neg_one_le_rise (opener closer : Char) (c : Option Char) :
    -1 ≤ rise opener closer c := by
  unfold rise
  split
  · split
    · decide
    · split <;> decide
  · decide

/-- The openers less the closers among the first characters. -/
def height (s : Text) (opener closer : Char) : Nat → Int
  | 0 => 0
  | place + 1 => height s opener closer place + rise opener closer s[place]?

/-- The height is what the counts of the two delimiters say. -/
theorem height_eq (hne : opener ≠ closer) (s : Text) (place : Nat) :
    height s opener closer place =
      (s.toList.take place).count opener - (s.toList.take place).count closer := by
  induction place with
  | zero => rfl
  | succ place ih =>
      rw [height, ih, List.take_add_one, List.count_append, List.count_append,
        Array.getElem?_toList]
      cases s[place]? with
      | none => simp [rise]
      | some c =>
          rw [Option.toList_some, List.count_singleton, List.count_singleton, rise]
          by_cases hopener : c = opener
          · subst hopener
            simp [hne]
            omega
          · by_cases hcloser : c = closer
            · subst hcloser
              simp [hopener]
              omega
            · simp [hopener, hcloser]

/-- The closer at `last` pairs with the opener at `first`. -/
structure Pairs (s : Text) (opener closer : Char) (first last : Nat) : Prop where
  opens : s[first]? = some opener
  lt : first < last
  back : height s opener closer (last + 1) = height s opener closer first
  inside : ∀ place, first < place → place ≤ last →
    height s opener closer first < height s opener closer place

theorem Pairs.closes {first last : Nat} (hpairs : Pairs s opener closer first last) :
    s[last]? = some closer := by
  have hback := hpairs.back
  have hinside := hpairs.inside last hpairs.lt (le_refl _)
  rw [height] at hback
  cases hc : s[last]? with
  | none => rw [hc, rise] at hback; omega
  | some c =>
      by_cases hopener : c = opener
      · rw [hc, rise, if_pos hopener] at hback; omega
      by_cases hcloser : c = closer
      · rw [hcloser]
      · rw [hc, rise, if_neg hopener, if_neg hcloser] at hback; omega

theorem Pairs.last_lt {first last : Nat} (hpairs : Pairs s opener closer first last) :
    last < s.size :=
  (Array.getElem?_eq_some_iff.1 hpairs.closes).1

/-! ## The forward matcher -/

/-- Among the `count` characters from `first` on, the one at `last` is the first
that closes `depth` open delimiters. -/
structure ClosesFrom (s : Text) (opener closer : Char) (depth : Int)
    (count first last : Nat) : Prop where
  le : first ≤ last
  lt : last < first + count
  back : height s opener closer (last + 1) + depth = height s opener closer first
  inside : ∀ place, first ≤ place → place ≤ last →
    height s opener closer first < height s opener closer place + depth

/-- As long as something stays open the matcher may go on to the next character. -/
theorem closesFrom_succ_iff {depth next : Int} {count first last : Nat}
    (hdepth : 0 < depth) (hnext : depth + rise opener closer s[first]? = next)
    (hpositive : 0 < next) :
    ClosesFrom s opener closer depth (count + 1) first last ↔
      ClosesFrom s opener closer next count (first + 1) last := by
  have hheight : height s opener closer (first + 1) =
      height s opener closer first + rise opener closer s[first]? := rfl
  constructor
  · rintro ⟨hle, hlt, hback, hinside⟩
    have hne : first ≠ last := by
      rintro rfl
      omega
    refine ⟨by omega, by omega, by omega, ?_⟩
    intro place hfirst hlast
    have := hinside place (by omega) hlast
    omega
  · rintro ⟨hle, hlt, hback, hinside⟩
    refine ⟨by omega, by omega, by omega, ?_⟩
    intro place hfirst hlast
    by_cases heq : place = first
    · subst heq
      omega
    · have := hinside place (by omega) hlast
      omega

/-- The delimiter that closes the last open one closes here. -/
theorem closesFrom_one_iff {count first last : Nat} (hcloser : s[first]? = some closer)
    (hne : opener ≠ closer) :
    ClosesFrom s opener closer 1 (count + 1) first last ↔ first = last := by
  have hheight : height s opener closer (first + 1) = height s opener closer first - 1 := by
    rw [height, hcloser, rise, if_neg hne.symm, if_pos rfl]
    rfl
  constructor
  · rintro ⟨hle, -, -, hinside⟩
    by_contra hlt
    have := hinside (first + 1) (by omega) (by omega)
    omega
  · rintro rfl
    refine ⟨le_refl _, by omega, by omega, ?_⟩
    intro place hfirst hlast
    obtain rfl : place = first := by omega
    omega

/-- The scan finds the place at which the height comes back. -/
theorem closeWithin?_eq_some_iff (hne : opener ≠ closer) {count depth first last : Nat}
    (hdepth : 0 < depth) (hroom : first + count = s.size) :
    s.closeWithin? opener closer count depth first = some last ↔
      ClosesFrom s opener closer depth count first last := by
  induction count generalizing depth first with
  | zero =>
      simp only [closeWithin?, reduceCtorEq, false_iff]
      rintro ⟨hle, hlt, -, -⟩
      omega
  | succ count ih =>
      have hc : s[first]? = some s[first] := Array.getElem?_eq_getElem (by omega)
      rw [closeWithin?, hc]
      dsimp only
      by_cases hopener : s[first] = opener
      · rw [if_pos hopener, ih (by omega) (by omega)]
        refine (closesFrom_succ_iff (by omega) ?_ (by omega)).symm
        rw [hc, rise, if_pos hopener]
        rfl
      by_cases hcloser : s[first] = closer
      · rw [if_neg hopener, if_pos hcloser]
        by_cases hone : depth = 1
        · subst hone
          rw [if_pos rfl, Option.some.injEq]
          exact (closesFrom_one_iff (hc.trans (congrArg some hcloser)) hne).symm
        · rw [if_neg hone, ih (by omega) (by omega)]
          refine (closesFrom_succ_iff (by omega) ?_ (by omega)).symm
          rw [hc, rise, if_neg hopener, if_pos hcloser]
          omega
      · rw [if_neg hopener, if_neg hcloser, ih hdepth (by omega)]
        refine (closesFrom_succ_iff (by omega) ?_ (by omega)).symm
        rw [hc, rise, if_neg hopener, if_neg hcloser]
        omega

/-- The matcher finds the partner of a delimiter, and nothing else. -/
theorem matching?_eq_some_iff (hne : opener ≠ closer) {first : Nat} {close : Int} :
    s.matching? opener closer first = some close ↔
      ∃ last : Nat, close = last ∧ Pairs s opener closer first last := by
  by_cases hopener : s[first]? = some opener
  · have hlt : first < s.size := (Array.getElem?_eq_some_iff.1 hopener).1
    have hheight : height s opener closer (first + 1) = height s opener closer first + 1 := by
      rw [height, hopener, rise, if_pos rfl]
    have hpairs (last : Nat) :
        s.closeWithin? opener closer (s.size - first) 0 first = some last ↔
          Pairs s opener closer first last := by
      obtain ⟨c, hc⟩ : ∃ count, s.size - first = count + 1 := ⟨s.size - first - 1, by omega⟩
      rw [hc, closeWithin?, hopener]
      dsimp only
      rw [if_pos rfl, closeWithin?_eq_some_iff hne (by omega) (by omega)]
      constructor
      · rintro ⟨hle, hlt, hback, hinside⟩
        refine ⟨hopener, by omega, by omega, ?_⟩
        intro place hfirst hlast
        have := hinside place (by omega) hlast
        omega
      · intro hpairs
        have := hpairs.lt
        have := hpairs.last_lt
        have := hpairs.back
        refine ⟨by omega, by omega, by omega, ?_⟩
        intro place hfirst hlast
        have := hpairs.inside place (by omega) hlast
        omega
    rw [matching?, if_pos ⟨by omega, by rwa [at?_natCast]⟩, Int.toNat_natCast,
      Option.map_eq_some_iff]
    constructor
    · rintro ⟨last, hlast, rfl⟩
      exact ⟨last, rfl, (hpairs last).1 hlast⟩
    · rintro ⟨last, rfl, hlast⟩
      exact ⟨last, (hpairs last).2 hlast, rfl⟩
  · rw [matching?, if_neg]
    · simp only [reduceCtorEq, false_iff]
      rintro ⟨last, -, hpairs⟩
      exact hopener hpairs.opens
    · rintro ⟨-, hat⟩
      rw [at?_natCast] at hat
      exact hopener hat

/-- What a match says about the text, for any integer offset. -/
theorem matching?_sound (hne : opener ≠ closer) {i close : Int}
    (hmatch : s.matching? opener closer i = some close) :
    0 ≤ i ∧ i < close ∧ close < s.length ∧ s.at? i = some opener ∧
      s.at? close = some closer := by
  have hi : 0 ≤ i := by
    by_contra hneg
    rw [matching?, if_neg (fun h => hneg h.1)] at hmatch
    simp at hmatch
  obtain ⟨first, rfl⟩ := Int.eq_ofNat_of_zero_le hi
  obtain ⟨last, rfl, hpairs⟩ := (matching?_eq_some_iff hne).1 hmatch
  have hlt := hpairs.lt
  have hlast := hpairs.last_lt
  simp only [at?_natCast, Text.length]
  exact ⟨hi, by omega, by omega, hpairs.opens, hpairs.closes⟩

/-! ## The backward walk -/

/-- A brace is open at a place if the height has not been back since. -/
structure OpenAt (s : Text) (place brace : Nat) : Prop where
  opens : s[brace]? = some '\x7b'
  inside : ∀ between, brace < between → between ≤ place →
    height s '\x7b' '\x7d' brace < height s '\x7b' '\x7d' between

/-- A brace before a place that `depth` closers after it leave open. -/
structure LeftOpen (s : Text) (place : Nat) (depth : Int) (brace : Nat) : Prop where
  lt : brace < place
  openAt : OpenAt s place brace
  deep : height s '\x7b' '\x7d' brace + depth < height s '\x7b' '\x7d' place

theorem OpenAt.succ {place brace : Nat} (hopen : OpenAt s place brace)
    (hheight : height s '\x7b' '\x7d' brace < height s '\x7b' '\x7d' (place + 1)) :
    OpenAt s (place + 1) brace := by
  refine ⟨hopen.opens, ?_⟩
  intro between hlt hle
  by_cases heq : between = place + 1
  · rwa [heq]
  · exact hopen.inside between hlt (by omega)

theorem OpenAt.mono {place place' brace : Nat} (hle : place ≤ place')
    (hopen : OpenAt s place' brace) : OpenAt s place brace :=
  ⟨hopen.opens, fun between hlt hbetween => hopen.inside between hlt (by omega)⟩

/-- As long as closers are pending the walk may go on to the character before. -/
theorem leftOpen_succ_iff {place brace : Nat} {depth next : Int} (hdepth : 0 ≤ depth)
    (hnext : next + rise '\x7b' '\x7d' s[place]? = depth) (hpending : 0 ≤ next) :
    LeftOpen s (place + 1) depth brace ↔ LeftOpen s place next brace := by
  have hheight : height s '\x7b' '\x7d' (place + 1) =
      height s '\x7b' '\x7d' place + rise '\x7b' '\x7d' s[place]? := rfl
  constructor
  · rintro ⟨hlt, hopen, hdeep⟩
    have hne : brace ≠ place := by
      rintro rfl
      omega
    exact ⟨by omega, hopen.mono (by omega), by omega⟩
  · rintro ⟨hlt, hopen, hdeep⟩
    exact ⟨by omega, hopen.succ (by omega), by omega⟩

/-- An opening brace is left open in addition to those before it. -/
theorem leftOpen_opener_iff {place brace : Nat} (hopener : s[place]? = some '\x7b') :
    LeftOpen s (place + 1) 0 brace ↔ brace = place ∨ LeftOpen s place 0 brace := by
  have hheight : height s '\x7b' '\x7d' (place + 1) =
      height s '\x7b' '\x7d' place + 1 := by
    rw [height, hopener, rise, if_pos rfl]
  constructor
  · rintro ⟨hlt, hopen, -⟩
    by_cases heq : brace = place
    · exact .inl heq
    · have hinside := hopen.inside place (by omega) (by omega)
      exact .inr ⟨by omega, hopen.mono (by omega), by omega⟩
  · rintro (rfl | ⟨hlt, hopen, hdeep⟩)
    · exact ⟨by omega, ⟨hopener, fun between hlt hle => by
        obtain rfl : between = brace + 1 := by omega
        omega⟩, by omega⟩
    · exact ⟨by omega, hopen.succ (by omega), by omega⟩

/-- Reading backward with `depth` closers pending, the walk yields the braces
that these closers leave open. -/
theorem mem_openersWithin_iff {place depth brace : Nat} :
    brace ∈ Block.openersWithin s place depth ↔ LeftOpen s place depth brace := by
  induction place generalizing depth with
  | zero =>
      simp only [Block.openersWithin, List.not_mem_nil, false_iff]
      exact fun hleft => absurd hleft.lt (by omega)
  | succ place ih =>
      rw [Block.openersWithin]
      by_cases hcloser : s[place]? = some '\x7d'
      · rw [if_pos hcloser, ih]
        refine (leftOpen_succ_iff (by omega) ?_ (by omega)).symm
        rw [hcloser, show rise '\x7b' '\x7d' (some '\x7d') = -1 by decide]
        omega
      by_cases hopener : s[place]? = some '\x7b'
      · rw [if_neg hcloser, if_pos hopener]
        by_cases hdepth : depth = 0
        · subst hdepth
          rw [if_pos rfl, List.mem_cons, ih]
          exact (leftOpen_opener_iff hopener).symm
        · rw [if_neg hdepth, ih]
          refine (leftOpen_succ_iff (by omega) ?_ (by omega)).symm
          rw [hopener, show rise '\x7b' '\x7d' (some '\x7b') = 1 by decide]
          omega
      · rw [if_neg hcloser, if_neg hopener, ih]
        refine (leftOpen_succ_iff (by omega) ?_ (by omega)).symm
        cases hc : s[place]? with
        | none => rw [rise, Int.add_zero]
        | some c =>
            rw [hc, Option.some.injEq] at hcloser hopener
            rw [rise, if_neg hopener, if_neg hcloser, Int.add_zero]

theorem openersWithin_pairwise (s : Text) (place depth : Nat) :
    (Block.openersWithin s place depth).Pairwise (· > ·) := by
  induction place generalizing depth with
  | zero => exact .nil
  | succ place ih =>
      rw [Block.openersWithin]
      split
      · exact ih _
      split
      · split
        · exact .cons (fun brace hbrace => (mem_openersWithin_iff.1 hbrace).lt) (ih 0)
        · exact ih _
      · exact ih _

/-- A brace is open after the character at `last` exactly if it has no partner
up to there. -/
theorem openAt_iff {last brace : Nat} :
    OpenAt s (last + 1) brace ↔
      s[brace]? = some '\x7b' ∧
        ∀ close, Pairs s '\x7b' '\x7d' brace close → last < close := by
  constructor
  · rintro ⟨hbrace, hinside⟩
    refine ⟨hbrace, ?_⟩
    intro close hpairs
    by_contra hclose
    have := hinside (close + 1) (by have := hpairs.lt; omega) (by omega)
    have := hpairs.back
    omega
  · rintro ⟨hbrace, hpartner⟩
    refine ⟨hbrace, ?_⟩
    by_contra hback
    -- The first place at which the height is back comes right after the partner.
    push Not at hback
    classical
    obtain ⟨hlt, hplace, hheight⟩ := Nat.find_spec hback
    have hmin : ∀ place < Nat.find hback, brace < place → place ≤ last + 1 →
        height s '\x7b' '\x7d' brace < height s '\x7b' '\x7d' place := by
      intro place hearlier hbrace hle
      by_contra hnot
      exact Nat.find_min hback hearlier ⟨hbrace, hle, not_lt.1 hnot⟩
    obtain ⟨close, hclose⟩ : ∃ close, Nat.find hback = close + 1 :=
      ⟨Nat.find hback - 1, by omega⟩
    rw [hclose] at hlt hplace hheight hmin
    have hstep := neg_one_le_rise '\x7b' '\x7d' s[close]?
    have hsucc : height s '\x7b' '\x7d' (close + 1) =
        height s '\x7b' '\x7d' close + rise '\x7b' '\x7d' s[close]? := rfl
    have hne : brace ≠ close := by
      rintro rfl
      rw [hbrace, show rise '\x7b' '\x7d' (some '\x7b') = 1 by decide] at hsucc
      omega
    have hprevious := hmin close (by omega) (by omega) (by omega)
    have hpairs : Pairs s '\x7b' '\x7d' brace close :=
      ⟨hbrace, by omega, by omega, fun place hbrace hle =>
        hmin place (by omega) hbrace (by omega)⟩
    have := hpartner close hpairs
    omega

/-- The braces still open at a target are those whose partner, if there is one,
comes after the target. -/
theorem mem_openers_iff {target : Int} (htarget : 0 ≤ target) {brace : Nat} :
    brace ∈ Block.openers s target ↔
      s[brace]? = some '\x7b' ∧ (brace : Int) ≤ target ∧
        ∀ close, s.matchingBrace? brace = some close →
          min target (s.length - 1) < close := by
  by_cases hempty : s.size = 0
  · have hcount : (min target (s.length - 1) + 1).toNat = 0 := by
      rw [Text.length]
      omega
    rw [Block.openers, hcount, Array.getElem?_eq_none (by omega)]
    simp [Block.openersWithin]
  obtain ⟨last, hlast⟩ : ∃ last : Nat, min target (s.length - 1) = last :=
    ⟨(min target (s.length - 1)).toNat, by rw [Text.length]; omega⟩
  have hpartner : (∀ close, s.matchingBrace? brace = some close → (last : Int) < close) ↔
      ∀ close, Pairs s '\x7b' '\x7d' brace close → last < close := by
    constructor
    · intro h close hpairs
      have := h close ((matching?_eq_some_iff (by decide)).2 ⟨close, rfl, hpairs⟩)
      omega
    · intro h close hmatch
      obtain ⟨close, rfl, hpairs⟩ := (matching?_eq_some_iff (by decide)).1 hmatch
      have := h close hpairs
      omega
  rw [Block.openers, hlast, show ((last : Int) + 1).toNat = last + 1 by omega,
    mem_openersWithin_iff, hpartner]
  rw [Text.length] at hlast
  constructor
  · rintro ⟨hlt, hopen, -⟩
    obtain ⟨hbrace, hclose⟩ := openAt_iff.1 hopen
    exact ⟨hbrace, by omega, hclose⟩
  · rintro ⟨hbrace, hle, hclose⟩
    have hbound := (Array.getElem?_eq_some_iff.1 hbrace).1
    have hopen := openAt_iff.2 ⟨hbrace, hclose⟩
    have hinside := hopen.inside (last + 1) (by omega) (by omega)
    exact ⟨by omega, hopen, by omega⟩

theorem openers_pairwise (s : Text) (target : Int) :
    (Block.openers s target).Pairwise (· > ·) :=
  openersWithin_pairwise s _ 0

end FrameLens.Nesting
