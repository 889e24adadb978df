import FrameLens.Proofs.Nesting.Partners
import Mathlib.Data.Int.Range
import Mathlib.Tactic.Ring

/-!
# Argument lists

An argument list is read outside the groups in parentheses that stand in it.  Its close is the first
sign there through which as many lists are closed as are opened, the head of an arrow closing none.
A statement or block boundary, and a parenthesis that is never closed, end the search.  The matcher
keeps one number, how many lists are open; it is the difference of the two counts, since a group
that is passed over adds to neither.
-/

namespace FrameLens.Nesting

open FrameLens.Text

variable {s : Text} {first place last depth : Int}

/-! ## What is read -/

/-- A place from `first` on that stands in no group in parentheses that opens from there on. -/
structure Scanned (s : Text) (first place : Int) : Prop where
  le : first ≤ place
  outside : ∀ opening close, first ≤ opening → EvensFirst s '(' ')' opening close →
    opening ≤ place → close < place

/-- Parentheses pair where they first even out. -/
theorem matchingParen?_eq_some_iff {opening close : Int} :
    s.matchingParen? opening = some close ↔ EvensFirst s '(' ')' opening close :=
  matching?_eq_some_iff_evensFirst (by decide)

/-- A place is scanned if all parentheses before it have closed. -/
theorem scanned_iff :
    Scanned s first place ↔ first ≤ place ∧ ∀ opening, first ≤ opening → opening ≤ place →
      ∀ close ∈ s.matchingParen? opening, close < place := by
  simp only [Option.mem_def, matchingParen?_eq_some_iff]
  constructor
  · intro hscanned
    exact ⟨hscanned.le, fun opening hle hplace close hevens =>
      hscanned.outside opening close hle hevens hplace⟩
  · intro hscanned
    exact ⟨hscanned.1, fun opening close hle hevens hplace =>
      hscanned.2 opening hle hplace close hevens⟩

instance (s : Text) (first : Int) : DecidablePred (Scanned s first) :=
  fun _ => decidable_of_iff _ scanned_iff.symm

/-- A sign that closes a list: no `-` stands directly before it. -/
def IsListCloser (s : Text) (place : Int) : Prop :=
  s.at? place = some '>' ∧ ¬(0 < place ∧ s.at? (place - 1) = some '-')

instance (s : Text) : DecidablePred (IsListCloser s) :=
  fun _ => inferInstanceAs (Decidable (_ ∧ _))

/-- Nothing is looked for behind a boundary or a parenthesis that is never closed. -/
def EndsSearch (s : Text) (place : Int) : Prop :=
  (∃ c ∈ [';', '\x7b', '\x7d'], s.at? place = some c) ∨
    s.at? place = some '(' ∧ ∀ close, ¬EvensFirst s '(' ')' place close

/-! ## Counting -/

/-- How many of the places that are read before `stop` satisfy `p`. -/
def tally (s : Text) (first : Int) (p : Int → Prop) [DecidablePred p] (stop : Int) : Nat :=
  (Int.range first stop).countP fun place => Scanned s first place ∧ p place

/-- The argument lists that are opened before a place. -/
def opened (s : Text) (first stop : Int) : Nat :=
  tally s first (fun place => s.at? place = some '<') stop

/-- The argument lists that are closed before a place. -/
def closed (s : Text) (first stop : Int) : Nat :=
  tally s first (IsListCloser s) stop

section Tally

variable {p : Int → Prop} [DecidablePred p]

theorem tally_self : tally s first p first = 0 := by
  rw [tally, Int.range, sub_self]
  rfl

theorem range_append {stop : Int} (hle : first ≤ place) (hstop : place ≤ stop) :
    Int.range first stop = Int.range first place ++ Int.range place stop := by
  have hlength : (stop - first).toNat = (place - first).toNat + (stop - place).toNat := by omega
  rw [Int.range, hlength, List.range_add, List.map_append, List.map_map, Int.range, Int.range]
  congr 2
  funext offset
  rw [Function.comp_apply]
  omega

/-- A count over scanned places falls into two counts. -/
theorem tally_append {stop : Int} (hle : first ≤ place) (hstop : place ≤ stop) :
    tally s first p stop = tally s first p place +
      (Int.range place stop).countP fun place => Scanned s first place ∧ p place := by
  rw [tally, range_append hle hstop, List.countP_append, tally]

/-- One more scanned place adds itself to a count. -/
theorem tally_succ (hscanned : Scanned s first place) :
    tally s first p (place + 1) = tally s first p place + if p place then 1 else 0 := by
  have hlast : Int.range place (place + 1) = [place] := by
    rw [Int.range, add_sub_cancel_left, Int.toNat_one, List.range_one, List.map_singleton,
      Int.natCast_zero, add_zero]
  rw [tally_append hscanned.le (by omega), hlast, List.countP_singleton]
  simp only [hscanned, true_and, decide_eq_true_eq]

/-- Places that are not read do not count. -/
theorem tally_eq_of_unscanned {stop : Int} (hle : first ≤ place) (hstop : place ≤ stop)
    (hunscanned : ∀ between, place ≤ between → between < stop → ¬Scanned s first between) :
    tally s first p stop = tally s first p place := by
  rw [tally_append hle hstop, Nat.add_eq_left, List.countP_eq_zero]
  intro between hbetween
  obtain ⟨hplace, hlt⟩ := Int.mem_range_iff.1 hbetween
  rw [decide_eq_true_iff]
  exact fun h => hunscanned between hplace hlt h.1

end Tally

/-- The close of an argument list: the first closer that is read through which as many lists are
closed as are opened, with nothing before it that ends the search. -/
structure ClosesArguments (s : Text) (first last : Int) : Prop where
  scanned : Scanned s first last
  closes : IsListCloser s last
  even : opened s first (last + 1) = closed s first (last + 1)
  least : ∀ place < last, Scanned s first place → IsListCloser s place →
    opened s first (place + 1) ≠ closed s first (place + 1)
  unended : ∀ place < last, Scanned s first place → ¬EndsSearch s place

/-- A list has one close. -/
theorem ClosesArguments.unique {last' : Int} (hcloses : ClosesArguments s first last)
    (hcloses' : ClosesArguments s first last') : last = last' := by
  rcases lt_trichotomy last last' with hlt | heq | hlt
  · exact absurd hcloses.even (hcloses'.least last hlt hcloses.scanned hcloses.closes)
  · exact heq
  · exact absurd hcloses'.even (hcloses.least last' hlt hcloses'.scanned hcloses'.closes)

/-! ## The search under way -/

/-- The search has come to a place with `depth` lists open and has not been over before. -/
structure Passed (s : Text) (first place depth : Int) : Prop where
  le : first ≤ place
  outside : ∀ opening close, first ≤ opening → EvensFirst s '(' ')' opening close →
    opening < place → close < place
  depth_eq : (opened s first place : Int) - closed s first place = depth
  uneven : ∀ earlier < place, Scanned s first earlier → IsListCloser s earlier →
    opened s first (earlier + 1) ≠ closed s first (earlier + 1)
  unended : ∀ earlier < place, Scanned s first earlier → ¬EndsSearch s earlier

theorem Passed.start (s : Text) (first : Int) : Passed s first first 0 where
  le := le_refl first
  outside _ _ hle _ hlt := absurd hlt (not_lt.2 hle)
  depth_eq := by rw [opened, closed, tally_self, tally_self, sub_self]
  uneven _ hlt hscanned _ := absurd hlt (not_lt.2 hscanned.le)
  unended _ hlt hscanned := absurd hlt (not_lt.2 hscanned.le)

/-- The search is outside all groups, unless one opens where it stands. -/
theorem Passed.scanned (hpassed : Passed s first place depth)
    (hopening : ∀ close, ¬EvensFirst s '(' ')' place close) : Scanned s first place where
  le := hpassed.le
  outside opening close hle hevens hplace := by
    rcases hplace.lt_or_eq with hlt | rfl
    · exact hpassed.outside opening close hle hevens hlt
    · exact absurd hevens (hopening close)

/-- The close has not been passed. -/
theorem Passed.le_of_closes (hpassed : Passed s first place depth)
    (hcloses : ClosesArguments s first last) : place ≤ last := by
  by_contra hlt
  exact hpassed.uneven last (not_le.1 hlt) hcloses.scanned hcloses.closes hcloses.even

/-- The search goes on from a sign that is read to the next one. -/
theorem Passed.next (hpassed : Passed s first place depth) (hscanned : Scanned s first place)
    (hunended : ¬EndsSearch s place) {next : Int}
    (hnext : depth + (if s.at? place = some '<' then 1 else 0) -
      (if IsListCloser s place then 1 else 0) = next)
    (huneven : IsListCloser s place → next ≠ 0) : Passed s first (place + 1) next := by
  have hdepth : (opened s first (place + 1) : Int) - closed s first (place + 1) = next := by
    rw [← hnext, ← hpassed.depth_eq, opened, closed, tally_succ hscanned, tally_succ hscanned]
    push_cast
    rw [opened, closed]
    ring
  refine ⟨hpassed.le.trans (by omega), ?_, hdepth, ?_, ?_⟩
  · -- A group that opens up to here is behind the search, as this sign stands in none.
    intro opening close hle hevens hlt
    have hclose := hscanned.outside opening close hle hevens (Int.lt_add_one_iff.1 hlt)
    exact hclose.trans (by omega)
  · intro earlier hlt hearlier hcloser
    rcases (Int.lt_add_one_iff.1 hlt).lt_or_eq with hbefore | rfl
    · exact hpassed.uneven earlier hbefore hearlier hcloser
    · intro heven
      apply huneven hcloser
      rw [← hdepth, heven, sub_self]
  · intro earlier hlt hearlier
    rcases (Int.lt_add_one_iff.1 hlt).lt_or_eq with hbefore | rfl
    · exact hpassed.unended earlier hbefore hearlier
    · exact hunended

/-- A sign over which no list goes on ends the search. -/
theorem endsSearch_of_isAngleStop {c : Char} (hc : s.at? place = some c)
    (hstop : isAngleStop c = true) : EndsSearch s place := by
  refine .inl ⟨c, ?_, hc⟩
  simpa [isAngleStop, or_assoc] using hstop

/-- Any other sign lets the search go on. -/
theorem not_endsSearch {c : Char} (hc : s.at? place = some c) (hstop : isAngleStop c = false)
    (hparenthesis : c ≠ '(') : ¬EndsSearch s place := by
  intro hends
  rcases hends with hboundary | hopening
  · obtain ⟨d, hd, hat⟩ := hboundary
    rw [hc, Option.some.injEq] at hat
    subst hat
    simp_all [isAngleStop]
  · exact hparenthesis (Option.some.inj (hc.symm.trans hopening.1))

theorem Passed.scanned_of_ne (hpassed : Passed s first place depth) {c : Char}
    (hc : s.at? place = some c) (hparenthesis : c ≠ '(') : Scanned s first place := by
  apply hpassed.scanned
  intro close hevens
  exact hparenthesis (Option.some.inj (hc.symm.trans hevens.opens))

/-- A list is opened. -/
theorem Passed.opens (hpassed : Passed s first place depth) (hopener : s.at? place = some '<') :
    Passed s first (place + 1) (depth + 1) := by
  have hcloser : ¬IsListCloser s place := by
    intro hcloser
    rw [hcloser.1] at hopener
    exact absurd hopener (by decide)
  apply hpassed.next (hpassed.scanned_of_ne hopener (by decide))
    (not_endsSearch hopener (by decide) (by decide))
  · rw [if_pos hopener, if_neg hcloser, sub_zero]
  · exact fun h => absurd h hcloser

/-- A list is closed, and others are still open. -/
theorem Passed.closesInner (hpassed : Passed s first place depth) (hcloser : IsListCloser s place)
    (hdepth : depth ≠ 1) : Passed s first (place + 1) (depth - 1) := by
  have hopener : s.at? place ≠ some '<' := by
    rw [hcloser.1]
    decide
  apply hpassed.next (hpassed.scanned_of_ne hcloser.1 (by decide))
    (not_endsSearch hcloser.1 (by decide) (by decide))
  · rw [if_neg hopener, if_pos hcloser, add_zero]
  · exact fun _ => sub_ne_zero.2 hdepth

/-- Any other sign leaves the lists as they are. -/
theorem Passed.plain (hpassed : Passed s first place depth) {c : Char}
    (hc : s.at? place = some c) (hopener : c ≠ '<') (hcloser : ¬IsListCloser s place)
    (hstop : isAngleStop c = false) (hparenthesis : c ≠ '(') :
    Passed s first (place + 1) depth := by
  have hsign : s.at? place ≠ some '<' := by
    rw [hc]
    exact fun h => hopener (Option.some.inj h)
  apply hpassed.next (hpassed.scanned_of_ne hc hparenthesis) (not_endsSearch hc hstop hparenthesis)
  · rw [if_neg hsign, if_neg hcloser, add_zero, sub_zero]
  · exact fun h => absurd h hcloser

/-- The search goes on behind a group as it came to it. -/
theorem Passed.group (hpassed : Passed s first place depth) {close : Int}
    (hgroup : EvensFirst s '(' ')' place close) : Passed s first (close + 1) depth := by
  -- No sign of the group is read, so that neither count changes over it.
  have hunscanned (between : Int) (hplace : place ≤ between) (hclose : between < close + 1) :
      ¬Scanned s first between := by
    intro hscanned
    have := hscanned.outside place close hpassed.le hgroup hplace
    omega
  have hlt := hgroup.lt
  have hbefore (earlier : Int) (hearlier : earlier < close + 1)
      (hscanned : Scanned s first earlier) : earlier < place := by
    by_contra hge
    exact hunscanned earlier (not_lt.1 hge) hearlier hscanned
  have htally (p : Int → Prop) [DecidablePred p] :
      tally s first p (close + 1) = tally s first p place :=
    tally_eq_of_unscanned hpassed.le (by omega) hunscanned
  refine ⟨hpassed.le.trans (by omega), ?_, ?_, ?_, ?_⟩
  · intro opening close' hle hevens hopening
    rcases lt_trichotomy opening place with hearlier | rfl | hinside
    · have := hpassed.outside opening close' hle hevens hearlier
      omega
    · have hmatch := matchingParen?_eq_some_iff.2 hevens
      rw [matchingParen?_eq_some_iff.2 hgroup, Option.some.injEq] at hmatch
      omega
    · -- A group that opens inside this one closes inside it.
      have hcross := matching?_lt_or_lt (by decide) (matchingParen?_eq_some_iff.2 hgroup)
        (matchingParen?_eq_some_iff.2 hevens) hinside
      have := hevens.lt
      omega
  · rw [opened, closed, htally, htally]
    exact hpassed.depth_eq
  · intro earlier hearlier hscanned
    exact hpassed.uneven earlier (hbefore earlier hearlier hscanned) hscanned
  · intro earlier hearlier hscanned
    exact hpassed.unended earlier (hbefore earlier hearlier hscanned) hscanned

/-- Where the search ends nothing is found. -/
theorem Passed.not_closes (hpassed : Passed s first place depth)
    (hscanned : Scanned s first place) (hends : EndsSearch s place) :
    ¬ClosesArguments s first last := by
  intro hcloses
  rcases (hpassed.le_of_closes hcloses).lt_or_eq with hlt | rfl
  · exact hcloses.unended place hlt hscanned hends
  · have hsign := hcloses.closes.1
    rcases hends with hboundary | hparenthesis
    · obtain ⟨c, hc, hat⟩ := hboundary
      rw [hsign, Option.some.injEq] at hat
      rw [← hat] at hc
      exact absurd hc (by decide)
    · rw [hsign] at hparenthesis
      exact absurd hparenthesis.1 (by decide)

/-- Behind the text nothing is found. -/
theorem Passed.not_closes_of_length_le (hpassed : Passed s first place depth)
    (hlength : s.length ≤ place) : ¬ClosesArguments s first last := by
  intro hcloses
  have hle := hpassed.le_of_closes hcloses
  have hnonneg := s.length_nonneg
  have := lt_length_of_at? (by omega) hcloses.closes.1
  omega

/-- A closer at which one list is open is the close. -/
theorem Passed.closes (hpassed : Passed s first place 1) (hcloser : IsListCloser s place) :
    ClosesArguments s first place where
  scanned := hpassed.scanned_of_ne hcloser.1 (by decide)
  closes := hcloser
  even := by
    have hscanned := hpassed.scanned_of_ne hcloser.1 (by decide)
    have hdepth := hpassed.depth_eq
    have hopener : s.at? place ≠ some '<' := by
      rw [hcloser.1]
      decide
    rw [opened, closed] at hdepth ⊢
    rw [tally_succ hscanned, tally_succ hscanned, if_neg hopener, if_pos hcloser]
    omega
  least := hpassed.uneven
  unended := hpassed.unended

/-- At depth one a closing sign is the close of the list. -/
theorem Passed.eq_iff_closes (hpassed : Passed s first place 1) (hcloser : IsListCloser s place) :
    place = last ↔ ClosesArguments s first last := by
  have hcloses := hpassed.closes hcloser
  constructor
  · intro heq
    exact heq ▸ hcloses
  · exact hcloses.unique

/-- Behind a parenthesis that is never closed nothing is found. -/
theorem Passed.not_closes_of_unclosed (hpassed : Passed s first place depth)
    (hc : s.at? place = some '(') (hmatch : s.matchingParen? place = none) :
    ¬ClosesArguments s first last := by
  have hopen (close : Int) : ¬EvensFirst s '(' ')' place close := by
    intro hevens
    rw [matchingParen?_eq_some_iff.2 hevens] at hmatch
    exact absurd hmatch nofun
  exact hpassed.not_closes (hpassed.scanned hopen) (.inr ⟨hc, hopen⟩)

/-! ## The matcher -/

/-- The head of an arrow stands behind a dash. -/
theorem isArrowHead_eq_true_iff :
    s.isArrowHead place = true ↔ 0 < place ∧ s.at? (place - 1) = some '-' := by
  rw [isArrowHead, Bool.and_eq_true, decide_eq_true_iff, beq_iff_eq]

theorem neg_length_le_of_at? {c : Char} (hc : s.at? place = some c) : -s.length ≤ place := by
  by_contra hlt
  rw [Text.length] at hlt
  rw [at?, if_pos (by omega), if_pos (by omega)] at hc
  exact absurd hc.symm (Option.some_ne_none c)

theorem length_le_of_at?_eq_none (hstart : -s.length ≤ place) (hnone : s.at? place = none) :
    s.length ≤ place := by
  rw [Text.length] at hstart ⊢
  rw [at?] at hnone
  split at hnone
  case isTrue hneg =>
    rw [if_neg (by omega)] at hnone
    have := Array.getElem?_eq_none_iff.1 hnone
    omega
  case isFalse hnonneg =>
    have := Array.getElem?_eq_none_iff.1 hnone
    omega

/-- From wherever the search has come to, the matcher finds the close and nothing else.  One case
for each kind of sign, each of which hands the rest of the search on as `Passed`. -/
theorem angleCloseWithin?_eq_some_iff {count : Nat} (hpassed : Passed s first place depth)
    (hstart : -s.length ≤ place) (hroom : s.length ≤ place + count) :
    s.angleCloseWithin? count depth place = some last ↔ ClosesArguments s first last := by
  induction count generalizing place depth with
  | zero =>
      rw [angleCloseWithin?]
      exact iff_of_false nofun (hpassed.not_closes_of_length_le (by omega))
  | succ count ih =>
      rw [angleCloseWithin?]
      cases hc : s.at? place with
      | none =>
          exact iff_of_false nofun
            (hpassed.not_closes_of_length_le (length_le_of_at?_eq_none hstart hc))
      | some c =>
          dsimp only
          have hstep {next : Int} (hnext : Passed s first (place + 1) next) :
              s.angleCloseWithin? count next (place + 1) = some last ↔
                ClosesArguments s first last :=
            ih hnext (by omega) (by omega)
          by_cases hopener : c = '<'
          · rw [if_pos hopener]
            exact hstep (hpassed.opens (hc.trans (congrArg some hopener)))
          rw [if_neg hopener]
          by_cases hsign : c = '>'
          · rw [if_pos hsign]
            have hat : s.at? place = some '>' := hc.trans (congrArg some hsign)
            by_cases harrow : s.isArrowHead place = true
            · rw [if_pos harrow]
              apply hstep
              apply hpassed.plain hc hopener (fun hcloser => ?_) (hsign ▸ rfl) (hsign ▸ by decide)
              exact hcloser.2 (isArrowHead_eq_true_iff.1 harrow)
            rw [if_neg harrow]
            have hcloser : IsListCloser s place :=
              ⟨hat, fun h => harrow (isArrowHead_eq_true_iff.2 h)⟩
            by_cases hone : depth = 1
            · subst hone
              rw [if_pos rfl, Option.some.injEq]
              exact hpassed.eq_iff_closes hcloser
            · rw [if_neg hone]
              exact hstep (hpassed.closesInner hcloser hone)
          rw [if_neg hsign]
          by_cases hparenthesis : c = '('
          · rw [if_pos hparenthesis]
            cases hmatch : s.matchingParen? place with
            | none =>
                have hat : s.at? place = some '(' := hc.trans (congrArg some hparenthesis)
                exact iff_of_false nofun (hpassed.not_closes_of_unclosed hat hmatch)
            | some close =>
                have hgroup := matchingParen?_eq_some_iff.1 hmatch
                have := hgroup.lt
                exact ih (hpassed.group hgroup) (by omega) (by omega)
          rw [if_neg hparenthesis]
          by_cases hstop : isAngleStop c = true
          · rw [if_pos hstop]
            exact iff_of_false nofun (hpassed.not_closes
              (hpassed.scanned_of_ne hc hparenthesis) (endsSearch_of_isAngleStop hc hstop))
          · rw [if_neg hstop]
            apply hstep
            apply hpassed.plain hc hopener (fun hcloser => ?_) (by simpa using hstop) hparenthesis
            exact hsign (Option.some.inj (hc.symm.trans hcloser.1))

/-- The matcher finds the close of an argument list, and nothing if and only if the list has
none. -/
theorem arguments_close_evenly (s : Text) (first : Int) (hopens : s.at? first = some '<') :
    (∀ last, s.matchingAngle first = .ok (some last) ↔ ClosesArguments s first last) ∧
      (s.matchingAngle first = .ok none ↔ ∀ last, ¬ClosesArguments s first last) := by
  have hstart := neg_length_le_of_at? hopens
  have hsearch : s.matchingAngle first = .ok (s.angleClose? first) := by
    rw [matchingAngle, checkScan, if_neg (by rw [Text.length] at hstart; omega)]
    rfl
  have hfound (last : Int) : s.angleClose? first = some last ↔ ClosesArguments s first last :=
    angleCloseWithin?_eq_some_iff (.start s first) hstart (by omega)
  rw [hsearch]
  constructor
  · intro last
    rw [Except.ok.injEq, hfound]
  · rw [Except.ok.injEq, Option.eq_none_iff_forall_ne_some]
    exact forall_congr' fun last => not_congr (hfound last)

/-- Groups that hold a comparison and a semicolon, an arrow, and a list in a list. -/
def nestedArguments : Text :=
  "m<(a > b; c), p->q, s<t>>(u)".toList.toArray

/-- A comparison in a condition, which a semicolon ends. -/
def comparisons : Text :=
  "(a < b; c > d)".toList.toArray

/-- The outer list closes behind the inner one, and a comparison opens no list. -/
theorem arguments_close_evenly_nested :
    nestedArguments.at? 1 = some '<' ∧ ClosesArguments nestedArguments 1 24 ∧
      comparisons.at? 3 = some '<' ∧ ∀ last, ¬ClosesArguments comparisons 3 last :=
  ⟨by decide, ((arguments_close_evenly nestedArguments 1 (by decide)).1 24).1 (by decide),
    by decide, (arguments_close_evenly comparisons 3 (by decide)).2.1 (by decide)⟩

end FrameLens.Nesting
