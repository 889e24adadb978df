import FrameLens.Proofs.Lines
import FrameLens.Proofs.Nesting

/-!
# Partners

A delimiter pairs with the first place behind it through which as many are closed as
are opened.  Of two pairs each stands outside the other or one inside the other, so a
closing brace has one partner at most, and the matcher that looks backward finds the
brace from which the forward matcher comes to it.
-/

namespace FrameLens

namespace Text

variable {s : Text}

/-- The brace that is found looking backward stands in the part that is searched. -/
theorem openWithin?_eq_some {floor count : Nat} {depth : Int} {first : Nat}
    (hfound : s.openWithin? floor count depth = some first) :
    floor ≤ first ∧ first < floor + count := by
  induction count generalizing depth with
  | zero => simp [openWithin?] at hfound
  | succ count ih =>
      have hbounds {depth : Int} (h : s.openWithin? floor count depth = some first) :
          floor ≤ first ∧ first < floor + (count + 1) := by
        have := ih h
        omega
      rw [openWithin?] at hfound
      split at hfound
      · simp at hfound
      split at hfound
      · exact hbounds hfound
      split at hfound
      · split at hfound
        · obtain rfl : floor + count = first := by simpa using hfound
          omega
        · exact hbounds hfound
      · exact hbounds hfound

/-- The backward matcher never looks outside the text. -/
theorem matchingBraceBack_ok {close : Int} (hclose : close < s.length) (floor : Int) :
    ∃ first, s.matchingBraceBack close floor = .ok first ∧
      ∀ i ∈ first, 0 ≤ i ∧ i ≤ close := by
  rw [matchingBraceBack]
  split
  · exact ⟨none, rfl, by simp⟩
  rw [if_neg (by omega)]
  refine ⟨_, rfl, ?_⟩
  intro i hi
  obtain ⟨first, hfirst, rfl⟩ := Option.map_eq_some_iff.1 hi
  have := openWithin?_eq_some hfirst
  simp only [Int.ofNat_eq_natCast]
  omega

end Text

namespace Nesting

open FrameLens.Text

variable {s : Text} {opener closer : Char}

/-! ## The backward matcher -/

/-- A brace from `floor` on that leaves `depth` levels open at a place, the last one
to do so. -/
structure OpensTo (s : Text) (floor place : Nat) (depth : Int) (first : Nat) : Prop where
  le : floor ≤ first
  lt : first < place
  openAt : OpenAt s place first
  back : height s '\x7b' '\x7d' first + depth = height s '\x7b' '\x7d' place

/-- As long as something stays open the matcher may go on to the character before. -/
theorem opensTo_succ_iff {floor place first : Nat} {depth next : Int} (hdepth : 0 < depth)
    (hnext : next + rise '\x7b' '\x7d' s[place]? = depth) (hpositive : 0 < next) :
    OpensTo s floor (place + 1) depth first ↔ OpensTo s floor place next first := by
  have hheight : height s '\x7b' '\x7d' (place + 1) =
      height s '\x7b' '\x7d' place + rise '\x7b' '\x7d' s[place]? := rfl
  constructor
  · rintro ⟨hle, hlt, hopen, hback⟩
    have hne : first ≠ place := by
      rintro rfl
      omega
    exact ⟨hle, by omega, hopen.mono (by omega), by omega⟩
  · rintro ⟨hle, hlt, hopen, hback⟩
    exact ⟨hle, by omega, hopen.succ (by omega), by omega⟩

theorem opensTo_one_iff {floor place first : Nat} (hopener : s[place]? = some '\x7b') :
    OpensTo s floor (place + 1) 1 first ↔ floor ≤ place ∧ first = place := by
  have hheight : height s '\x7b' '\x7d' (place + 1) =
      height s '\x7b' '\x7d' place + 1 := by
    rw [height, hopener, rise, if_pos rfl]
  constructor
  · rintro ⟨hle, hlt, hopen, hback⟩
    by_contra hne
    have := hopen.inside place (by omega) (by omega)
    omega
  · rintro ⟨hle, rfl⟩
    refine ⟨hle, by omega, ⟨hopener, fun between hfirst hbetween => ?_⟩, by omega⟩
    obtain rfl : between = first + 1 := by omega
    omega

/-- The scan backward finds the brace that opens the last of the open blocks. -/
theorem openWithin?_eq_some_iff {floor count first : Nat} {depth : Int} (hdepth : 0 < depth)
    (hroom : floor + count ≤ s.size) :
    s.openWithin? floor count depth = some first ↔
      OpensTo s floor (floor + count) depth first := by
  induction count generalizing depth with
  | zero =>
      simp only [openWithin?, reduceCtorEq, false_iff]
      rintro ⟨hle, hlt, -, -⟩
      omega
  | succ count ih =>
      obtain ⟨c, hc⟩ : ∃ c, s[floor + count]? = some c :=
        ⟨_, Array.getElem?_eq_getElem (by omega)⟩
      rw [openWithin?, hc, ← Nat.add_assoc]
      dsimp only
      by_cases hcloser : c = '\x7d'
      · rw [if_pos hcloser, ih (by omega) (by omega)]
        refine (opensTo_succ_iff hdepth ?_ (by omega)).symm
        rw [hc, hcloser, show rise '\x7b' '\x7d' (some '\x7d') = -1 by decide]
        omega
      by_cases hopener : c = '\x7b'
      · rw [if_neg hcloser, if_pos hopener]
        rw [hopener] at hc
        by_cases hone : depth = 1
        · rw [if_pos hone, hone, opensTo_one_iff hc, Option.some.injEq]
          omega
        · rw [if_neg hone, ih (by omega) (by omega)]
          refine (opensTo_succ_iff hdepth ?_ (by omega)).symm
          rw [hc, show rise '\x7b' '\x7d' (some '\x7b') = 1 by decide]
          omega
      · rw [if_neg hcloser, if_neg hopener, ih hdepth (by omega)]
        refine (opensTo_succ_iff hdepth ?_ hdepth).symm
        rw [hc, rise, if_neg hopener, if_neg hcloser, Int.add_zero]

/-- The backward matcher finds the partner of a closing brace, no farther back than
asked for. -/
theorem matchingBraceBack_eq_some_iff {close : Nat} {floor first : Int}
    (hclose : s[close]? = some '\x7d') :
    s.matchingBraceBack close floor = .ok (some first) ↔
      floor ≤ first ∧ ∃ brace : Nat, first = brace ∧ Pairs s '\x7b' '\x7d' brace close := by
  have hlt := (Array.getElem?_eq_some_iff.1 hclose).1
  have hheight : height s '\x7b' '\x7d' (close + 1) = height s '\x7b' '\x7d' close - 1 := by
    rw [height, hclose, show rise '\x7b' '\x7d' (some '\x7d') = -1 by decide]
    rfl
  rw [matchingBraceBack]
  by_cases hfloor : (close : Int) < max floor 0
  · rw [if_pos hfloor]
    simp only [Except.ok.injEq, reduceCtorEq, false_iff]
    rintro ⟨hle, brace, rfl, hpairs⟩
    have := hpairs.lt
    omega
  obtain ⟨low, hlow⟩ : ∃ low : Nat, max floor 0 = low := ⟨(max floor 0).toNat, by omega⟩
  obtain ⟨count, hcount⟩ : ∃ count, ((close : Int) + 1 - low).toNat = count + 1 :=
    ⟨close - low, by omega⟩
  have hlast : low + count = close := by omega
  have hsearch : s.openWithin? low (count + 1) 0 = s.openWithin? low count 1 := by
    rw [openWithin?, hlast, hclose]
    rfl
  rw [if_neg hfloor, if_neg (by rw [Text.length]; omega), hlow, hcount, Int.toNat_natCast,
    hsearch, Except.ok.injEq, Option.map_eq_some_iff]
  simp only [openWithin?_eq_some_iff Int.one_pos (show low + count ≤ s.size by omega), hlast]
  constructor
  · rintro ⟨brace, ⟨hle, hlt, ⟨hopens, hinside⟩, hback⟩, rfl⟩
    exact ⟨by simp only [Int.ofNat_eq_natCast]; omega, brace, rfl, hopens, hlt, by omega,
      hinside⟩
  · rintro ⟨hle, brace, rfl, hopens, hlt, hback, hinside⟩
    exact ⟨brace, ⟨by omega, hlt, ⟨hopens, hinside⟩, by omega⟩, rfl⟩

/-! ## Pairs inside pairs -/

/-- A pair that opens inside another one closes inside it. -/
theorem Pairs.last_le {first last first' last' : Nat} (hpairs : Pairs s opener closer first last)
    (hpairs' : Pairs s opener closer first' last') (hle : first ≤ first')
    (hlt : first' < last) : last' ≤ last := by
  by_contra hafter
  have hinside := hpairs'.inside (last + 1) (by omega) (by omega)
  have hback := hpairs.back
  by_cases heq : first' = first
  · rw [heq] at hinside
    omega
  · have := hpairs.inside first' (by omega) (by omega)
    omega

/-- No place holds both an opener and a closer. -/
theorem Pairs.first_ne_last {first last first' last' : Nat} (hne : opener ≠ closer)
    (hpairs : Pairs s opener closer first last) (hpairs' : Pairs s opener closer first' last') :
    first ≠ last' := by
  rintro rfl
  have hopens := hpairs.opens
  rw [hpairs'.closes, Option.some.injEq] at hopens
  exact hne hopens.symm

/-- A closer has one partner. -/
theorem Pairs.first_eq {first first' last : Nat} (hpairs : Pairs s opener closer first last)
    (hpairs' : Pairs s opener closer first' last) : first = first' := by
  have hback := hpairs.back
  have hback' := hpairs'.back
  have hlt := hpairs.lt
  have hlt' := hpairs'.lt
  by_contra hne
  rcases Nat.lt_or_gt_of_ne hne with hbefore | hbefore
  · have := hpairs.inside first' hbefore (by omega)
    omega
  · have := hpairs'.inside first hbefore (by omega)
    omega

/-- Two pairs never cross. -/
theorem Pairs.lt_or_lt {first last first' last' : Nat} (hne : opener ≠ closer)
    (hpairs : Pairs s opener closer first last) (hpairs' : Pairs s opener closer first' last')
    (hlt : first < first') : last < first' ∨ last' < last := by
  rcases Nat.lt_trichotomy last first' with hbefore | heq | hinside
  · exact .inl hbefore
  · exact absurd heq.symm (hpairs'.first_ne_last hne hpairs)
  · have hle := hpairs.last_le hpairs' hlt.le hinside
    refine .inr (lt_of_le_of_ne hle ?_)
    rintro rfl
    exact absurd (hpairs.first_eq hpairs') hlt.ne

/-! ## Counting delimiters -/

/-- From one place through another as many delimiters are closed as are opened. -/
def EvenThrough (s : Text) (opener closer : Char) (first last : Int) : Prop :=
  (s.slice first (last + 1)).count opener = (s.slice first (last + 1)).count closer

/-- Even counts lead back to the height at which they began. -/
theorem evenThrough_iff (hne : opener ≠ closer) {first last : Nat} (hle : first ≤ last) :
    EvenThrough s opener closer first last ↔
      height s opener closer (last + 1) = height s opener closer first := by
  have htake := take_append_slice s (Int.natCast_nonneg first)
    (show (first : Int) ≤ last + 1 by omega)
  rw [Int.toNat_natCast, show ((last : Int) + 1).toNat = last + 1 by omega] at htake
  rw [EvenThrough, height_eq hne, height_eq hne, htake, List.count_append, List.count_append]
  push_cast
  omega

/-- Behind an opener nothing is closed too often before the counts are even. -/
theorem height_lt_of_not_even {first last : Nat} (hopener : s[first]? = some opener)
    (huneven : ∀ place, first < place → place < last →
      height s opener closer (place + 1) ≠ height s opener closer first) {place : Nat}
    (hfirst : first < place) (hlast : place ≤ last) :
    height s opener closer first < height s opener closer place := by
  -- The height falls by one at most, so it would have to come back before it goes below.
  induction place, hfirst using Nat.le_induction with
  | base =>
      rw [height, hopener, rise, if_pos rfl]
      omega
  | succ place hfirst ih =>
      have hbelow := ih (by omega)
      have hne := huneven place hfirst (by omega)
      have hstep := neg_one_le_rise opener closer s[place]?
      have hheight : height s opener closer (place + 1) =
          height s opener closer place + rise opener closer s[place]? := rfl
      omega

/-- The counts of two delimiters are even through `last`, and through no place between it
and the opener at `first`. -/
structure EvensFirst (s : Text) (opener closer : Char) (first last : Int) : Prop where
  nonneg : 0 ≤ first
  opens : s.at? first = some opener
  lt : first < last
  lt_length : last < s.length
  even : EvenThrough s opener closer first last
  least : ∀ place, first < place → place < last → ¬EvenThrough s opener closer first place

/-- Delimiters pair if and only if the text between them first evens out there. -/
theorem pairs_iff_evensFirst (hne : opener ≠ closer) {first last : Nat} :
    Pairs s opener closer first last ↔ EvensFirst s opener closer first last := by
  constructor
  · intro hpairs
    have hlast := hpairs.last_lt
    have hlt := hpairs.lt
    refine ⟨Int.natCast_nonneg _, (at?_natCast s first).trans hpairs.opens, by omega,
      by rw [Text.length]; omega, (evenThrough_iff hne hlt.le).2 hpairs.back, ?_⟩
    intro place hfirst hbefore heven
    obtain ⟨place, rfl⟩ := Int.eq_ofNat_of_zero_le (show 0 ≤ place by omega)
    have hback := (evenThrough_iff hne (by omega)).1 heven
    have hinside := hpairs.inside (place + 1) (by omega) (by omega)
    omega
  · rintro ⟨-, hopener, hlt, hlength, heven, hleast⟩
    rw [at?_natCast] at hopener
    have hlt : first < last := by omega
    refine ⟨hopener, hlt, (evenThrough_iff hne hlt.le).1 heven, fun place hfirst hlast =>
      height_lt_of_not_even hopener (fun between hbetween hbefore hback => ?_) hfirst hlast⟩
    exact hleast between (by omega) (by omega)
      ((evenThrough_iff hne hbetween.le).2 hback)

/-- Where the counts are ever even behind an opener, there they are for the first time. -/
theorem exists_evensFirst {first last : Int} (hnonneg : 0 ≤ first)
    (hopener : s.at? first = some opener) (hlt : first < last) (hlength : last < s.length)
    (heven : EvenThrough s opener closer first last) :
    ∃ close, EvensFirst s opener closer first close := by
  obtain ⟨last, rfl⟩ := Int.eq_ofNat_of_zero_le (show 0 ≤ last by omega)
  classical
  have hsome : ∃ place : Nat, first < place ∧ EvenThrough s opener closer first place :=
    ⟨last, hlt, heven⟩
  obtain ⟨hbehind, hback⟩ := Nat.find_spec hsome
  have hle : Nat.find hsome ≤ last := Nat.find_min' hsome ⟨hlt, heven⟩
  refine ⟨Nat.find hsome, hnonneg, hopener, hbehind, by omega, hback, ?_⟩
  intro place hfirst hbefore hearlier
  obtain ⟨place, rfl⟩ := Int.eq_ofNat_of_zero_le (show 0 ≤ place by omega)
  exact Nat.find_min hsome (by omega) ⟨hfirst, hearlier⟩

/-! ## Both matchers -/

/-- The matcher finds the partner of a delimiter, wherever it is asked to look. -/
theorem matching?_eq_some_iff_exists (hne : opener ≠ closer) {first last : Int} :
    s.matching? opener closer first = some last ↔
      ∃ place close : Nat, first = place ∧ last = close ∧
        Pairs s opener closer place close := by
  constructor
  · intro hmatch
    have hnonneg := (matching?_sound hne hmatch).1
    obtain ⟨place, rfl⟩ := Int.eq_ofNat_of_zero_le hnonneg
    obtain ⟨close, rfl, hpairs⟩ := (matching?_eq_some_iff hne).1 hmatch
    exact ⟨place, close, rfl, rfl, hpairs⟩
  · rintro ⟨place, close, rfl, rfl, hpairs⟩
    exact (matching?_eq_some_iff hne).2 ⟨close, rfl, hpairs⟩

/-- The partner of a delimiter is where the text from it on first evens out. -/
theorem matching?_eq_some_iff_evensFirst (hne : opener ≠ closer) {first last : Int} :
    s.matching? opener closer first = some last ↔ EvensFirst s opener closer first last := by
  rw [matching?_eq_some_iff_exists hne]
  constructor
  · rintro ⟨place, close, rfl, rfl, hpairs⟩
    exact (pairs_iff_evensFirst hne).1 hpairs
  · intro hevens
    have hnonneg := hevens.nonneg
    have hlt := hevens.lt
    obtain ⟨place, rfl⟩ := Int.eq_ofNat_of_zero_le hnonneg
    obtain ⟨close, rfl⟩ := Int.eq_ofNat_of_zero_le (show 0 ≤ last by omega)
    exact ⟨place, close, rfl, rfl, (pairs_iff_evensFirst hne).2 hevens⟩

/-- Matches never cross. -/
theorem matching?_lt_or_lt (hne : opener ≠ closer) {first last first' last' : Int}
    (hmatch : s.matching? opener closer first = some last)
    (hmatch' : s.matching? opener closer first' = some last') (hlt : first < first') :
    last < first' ∨ last' < last := by
  obtain ⟨place, close, rfl, rfl, hpairs⟩ := (matching?_eq_some_iff_exists hne).1 hmatch
  obtain ⟨place', close', rfl, rfl, hpairs'⟩ := (matching?_eq_some_iff_exists hne).1 hmatch'
  have hcross := hpairs.lt_or_lt hne hpairs' (by omega)
  omega

/-- A closer is the match of one opener. -/
theorem matching?_injective (hne : opener ≠ closer) {first first' last : Int}
    (hmatch : s.matching? opener closer first = some last)
    (hmatch' : s.matching? opener closer first' = some last) : first = first' := by
  obtain ⟨place, close, rfl, rfl, hpairs⟩ := (matching?_eq_some_iff_exists hne).1 hmatch
  obtain ⟨place', close', rfl, hclose, hpairs'⟩ := (matching?_eq_some_iff_exists hne).1 hmatch'
  obtain rfl : close = close' := by omega
  rw [hpairs.first_eq hpairs']

/-- Nothing is found exactly if no opener stands there or the counts are never even. -/
theorem matching?_eq_none_iff (hne : opener ≠ closer) {first : Int} :
    s.matching? opener closer first = none ↔
      ¬(0 ≤ first ∧ s.at? first = some opener) ∨
        ∀ last, first < last → last < s.length → ¬EvenThrough s opener closer first last := by
  rw [Option.eq_none_iff_forall_not_mem]
  constructor
  · intro hnone
    refine or_iff_not_imp_left.2 fun hopener last hlt hlength heven => ?_
    obtain ⟨hnonneg, hopener⟩ := not_not.1 hopener
    obtain ⟨close, hevens⟩ := exists_evensFirst hnonneg hopener hlt hlength heven
    exact hnone close ((matching?_eq_some_iff_evensFirst hne).2 hevens)
  · intro hnever last hmatch
    have hevens := (matching?_eq_some_iff_evensFirst hne).1 hmatch
    rcases hnever with hopener | huneven
    · exact hopener ⟨hevens.nonneg, hevens.opens⟩
    · exact huneven last hevens.lt hevens.lt_length hevens.even

/-- From a closing brace the backward matcher comes to the brace whose partner it is. -/
theorem matchingBraceBack_eq_some_iff_matches {close : Nat} {floor first : Int}
    (hclose : s[close]? = some '\x7d') :
    s.matchingBraceBack close floor = .ok (some first) ↔
      floor ≤ first ∧ s.matchingBrace? first = some (close : Int) := by
  rw [matchingBraceBack_eq_some_iff hclose, matchingBrace?,
    matching?_eq_some_iff_exists (by decide)]
  constructor
  · rintro ⟨hle, brace, rfl, hpairs⟩
    exact ⟨hle, brace, close, rfl, rfl, hpairs⟩
  · rintro ⟨hle, brace, last, rfl, hlast, hpairs⟩
    obtain rfl : close = last := by exact_mod_cast hlast
    exact ⟨hle, brace, rfl, hpairs⟩

/-- With no partner from the floor on the backward matcher finds nothing. -/
theorem matchingBraceBack_eq_none {close : Nat} {floor : Int} (hclose : s[close]? = some '\x7d')
    (hnone : ∀ first, floor ≤ first → s.matchingBrace? first ≠ some (close : Int)) :
    s.matchingBraceBack close floor = .ok none := by
  have hlt := (Array.getElem?_eq_some_iff.1 hclose).1
  obtain ⟨found, hback, -⟩ :=
    matchingBraceBack_ok (s := s) (show (close : Int) < s.length by rw [Text.length]; omega) floor
  cases found with
  | none => exact hback
  | some first =>
      obtain ⟨hle, hmatch⟩ := (matchingBraceBack_eq_some_iff_matches hclose).1 hback
      exact absurd hmatch (hnone first hle)

/-- The matcher finds the first place through which the counts are even, pairs never
cross, and the backward matcher comes from each closing brace to the brace that the
forward one comes from, unless that stands before the floor. -/
theorem matchers_pair (s : Text) (opener closer : Char) (hne : opener ≠ closer) :
    (∀ first last : Int, s.matching? opener closer first = some last ↔
      EvensFirst s opener closer first last) ∧
    (∀ first : Int, s.matching? opener closer first = none ↔
      ¬(0 ≤ first ∧ s.at? first = some opener) ∨
        ∀ last, first < last → last < s.length → ¬EvenThrough s opener closer first last) ∧
    (∀ first last first' last' : Int, s.matching? opener closer first = some last →
      s.matching? opener closer first' = some last' → first < first' →
        last < first' ∨ last' < last) ∧
    ∀ close : Nat, s[close]? = some '\x7d' →
      (∀ first : Int, s.matchingBrace? first = some (close : Int) ↔
        s.matchingBraceBack close 0 = .ok (some first)) ∧
      (∀ first floor : Int, s.matchingBrace? first = some (close : Int) →
        s.matchingBraceBack close floor =
          .ok (if floor ≤ first then some first else none)) ∧
      ((∀ first : Int, s.matchingBrace? first ≠ some (close : Int)) →
        ∀ floor : Int, s.matchingBraceBack close floor = .ok none) := by
  refine ⟨fun first last => matching?_eq_some_iff_evensFirst hne,
    fun first => matching?_eq_none_iff hne, ?_, fun close hclose => ⟨fun first => ?_, ?_, ?_⟩⟩
  · exact fun first last first' last' hmatch hmatch' => matching?_lt_or_lt hne hmatch hmatch'
  · rw [matchingBraceBack_eq_some_iff_matches hclose]
    exact ⟨fun hmatch => ⟨(matching?_sound (by decide) hmatch).1, hmatch⟩, fun h => h.2⟩
  · intro first floor hmatch
    split
    case isTrue hle => exact (matchingBraceBack_eq_some_iff_matches hclose).2 ⟨hle, hmatch⟩
    case isFalse hgt =>
      apply matchingBraceBack_eq_none hclose
      intro other hle hother
      exact hgt (matching?_injective (by decide) hother hmatch ▸ hle)
  · exact fun hnone floor => matchingBraceBack_eq_none hclose fun first _ => hnone first

/-- Two blocks inside one, and a closing brace too many. -/
def nestedBlocks : Text :=
  "\x7b \x7b \x7d x \x7b y \x7d \x7d \x7d".toList.toArray

/-- The outer block closes behind the inner ones and is not found from inside it, and the
last closing brace has no partner. -/
theorem matchers_pair_nested :
    '\x7b' ≠ '\x7d' ∧ EvensFirst nestedBlocks '\x7b' '\x7d' 0 14 ∧
      nestedBlocks.matchingBraceBack 14 0 = .ok (some 0) ∧
      nestedBlocks.matchingBraceBack 14 2 = .ok none ∧
      nestedBlocks.matchingBraceBack 16 (-3) = .ok none := by
  obtain ⟨heven, -, -, hback⟩ := matchers_pair nestedBlocks '\x7b' '\x7d' (by decide)
  obtain ⟨houter, hfloor, -⟩ := hback 14 (by decide)
  obtain ⟨hstray, -, hmissing⟩ := hback 16 (by decide)
  have hmatch : nestedBlocks.matchingBrace? 0 = some (14 : Nat) := by decide
  have halone : nestedBlocks.matchingBraceBack (16 : Nat) 0 = .ok none := by decide
  refine ⟨by decide, (heven 0 14).1 hmatch, (houter 0).1 hmatch, hfloor 0 2 hmatch,
    hmissing (fun first hfirst => ?_) (-3)⟩
  have hfound := (hstray first).1 hfirst
  rw [halone] at hfound
  cases hfound

/-! ## Open blocks -/

/-- Reading backward from a target comes upon the braces whose partner is missing or
stands behind the target, the inner ones first, and inner blocks close first. -/
theorem openers_by_partner (s : Text) (target : Nat) :
    (∀ brace : Nat, brace ∈ Block.openers s target ↔
      (brace : Int) ≤ min (target : Int) (s.length - 1) ∧ s[brace]? = some '\x7b' ∧
        (s.matchingBrace? brace = none ∨
          ∃ close, s.matchingBrace? brace = some close ∧
            min (target : Int) (s.length - 1) < close)) ∧
    (Block.openers s target).Pairwise (fun inner outer : Nat => outer < inner ∧
      ∀ close close', s.matchingBrace? inner = some close →
        s.matchingBrace? outer = some close' → close < close') := by
  constructor
  · intro brace
    rw [mem_openers_iff (Int.natCast_nonneg target)]
    constructor
    · rintro ⟨hopens, hle, hpartner⟩
      have hsize := (Array.getElem?_eq_some_iff.1 hopens).1
      refine ⟨by rw [Text.length]; omega, hopens, ?_⟩
      cases hclose : s.matchingBrace? brace with
      | none => exact .inl rfl
      | some close => exact .inr ⟨close, rfl, hpartner close hclose⟩
    · rintro ⟨hle, hopens, hpartner⟩
      refine ⟨hopens, by omega, fun close hclose => ?_⟩
      rcases hpartner with hnone | ⟨close', hclose', hlt⟩
      · simp [hnone] at hclose
      · obtain rfl : close = close' := by simpa [hclose] using hclose'
        exact hlt
  · refine (openers_pairwise s target).imp_of_mem fun {inner outer} hinner houter hlt =>
      ⟨hlt, fun close close' hclose hclose' => ?_⟩
    obtain ⟨hopens, hle, -⟩ := (mem_openers_iff (Int.natCast_nonneg target)).1 hinner
    obtain ⟨-, -, hafter⟩ := (mem_openers_iff (Int.natCast_nonneg target)).1 houter
    have hsize := (Array.getElem?_eq_some_iff.1 hopens).1
    have hbehind := hafter close' hclose'
    rw [Text.length] at hbehind
    -- The outer block closes behind the target, so the inner one stands inside it.
    have hcross := matching?_lt_or_lt (by decide) hclose' hclose (Int.ofNat_lt.2 hlt)
    omega

end Nesting

end FrameLens
