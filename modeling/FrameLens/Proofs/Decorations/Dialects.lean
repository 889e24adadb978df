import FrameLens.Proofs.Decorations

/-!
# Decorations in different dialects

Two dialects pass over the same decorations until one of them meets a sign that only it
allows: an arrow, or the value of a member in braces.  So a dialect with arrows finds
what one without them finds, and a dialect with values in braces only looks farther.
-/

namespace FrameLens.Decoration

variable {s : Text} {shapes shapes' : Shapes} {limit start : Int} {arrows braces : Bool}

/-! ## The step at which two runs part -/

/-- What a run comes to after a step, with `count` more pieces to take. -/
def Step.resume (s : Text) (shapes : Shapes) (limit : Int) (count : Nat) : Step → Option Int
  | .body offset => some offset
  | .reject => none
  | .next progress => skipWithin s shapes limit count progress

theorem skipWithin_of_at? {count : Nat} {p : Progress} {c : Char}
    (hbefore : s.pastBlanks p.offset < limit) (hc : s.at? (s.pastBlanks p.offset) = some c) :
    skipWithin s shapes limit (count + 1) p =
      (stepAt s shapes p (s.pastBlanks p.offset) c).resume s shapes limit count := by
  rw [skipWithin, if_neg (not_le.2 hbefore), hc]
  rfl

/-- Two runs come to a place with the same progress, take the character there
differently, and go on to find what they find. -/
structure PartAt (s : Text) (shapes shapes' : Shapes) (limit : Int) (found found' : Option Int)
    (place : Int) (c : Char) : Prop where
  nonneg : 0 ≤ place
  sign : s.at? place = some c
  steps : ∃ (count : Nat) (p : Progress),
    stepAt s shapes p place c ≠ stepAt s shapes' p place c ∧
      found = (stepAt s shapes p place c).resume s shapes limit count ∧
      found' = (stepAt s shapes' p place c).resume s shapes' limit count

/-- Two runs with the same progress find the same, unless they part at some step. -/
theorem skipWithin_eq_or_part (s : Text) (shapes shapes' : Shapes) (limit : Int) (count : Nat)
    {p : Progress} (hp : 0 ≤ p.offset) :
    skipWithin s shapes limit count p = skipWithin s shapes' limit count p ∨
      ∃ place c, PartAt s shapes shapes' limit (skipWithin s shapes limit count p)
        (skipWithin s shapes' limit count p) place c := by
  -- As long as the steps are the same, both runs go on with the same progress.
  induction count generalizing p with
  | zero => exact .inl rfl
  | succ count ih =>
      have hle := Text.le_pastBlanks s p.offset
      by_cases hbefore : s.pastBlanks p.offset < limit
      case neg =>
        rw [skipWithin, skipWithin, if_pos (not_lt.1 hbefore), if_pos (not_lt.1 hbefore)]
        exact .inl rfl
      cases hc : s.at? (s.pastBlanks p.offset) with
      | none =>
          rw [skipWithin, skipWithin, hc]
          exact .inl rfl
      | some c =>
          rw [skipWithin_of_at? hbefore hc, skipWithin_of_at? hbefore hc]
          by_cases hsame : stepAt s shapes p (s.pastBlanks p.offset) c =
            stepAt s shapes' p (s.pastBlanks p.offset) c
          case neg => exact .inr ⟨_, c, by omega, hc, count, p, hsame, rfl, rfl⟩
          have hsound : (stepAt s shapes p (s.pastBlanks p.offset) c).Sound s shapes
              (s.pastBlanks p.offset) := stepAt_sound p (by omega) hc
          rw [← hsame]
          cases hstep : stepAt s shapes p (s.pastBlanks p.offset) c with
          | body offset => exact .inl rfl
          | reject => exact .inl rfl
          | next progress =>
              rw [hstep] at hsound
              exact ih (hp.trans (hle.trans hsound.1))

/-- Two dialects find the same, unless their runs part at some step. -/
theorem skip_eq_or_part (s : Text) (shapes shapes' : Shapes) (hstart : 0 ≤ start) :
    skip s shapes start = skip s shapes' start ∨
      ∃ limit found found' place c, skip s shapes start = .ok found ∧
        skip s shapes' start = .ok found' ∧
        PartAt s shapes shapes' limit found found' place c := by
  rw [skip, skip, Text.checkScan_of_nonneg hstart]
  rcases skipWithin_eq_or_part s shapes shapes' (min s.length (start + maxLength))
      (min s.length (start + maxLength) - start).toNat
      (show 0 ≤ (⟨start, false, ')'⟩ : Progress).offset from hstart) with
    hsame | ⟨place, c, hpart⟩
  · exact .inl (congrArg Except.ok hsame)
  · exact .inr ⟨_, _, _, place, c, rfl, rfl, hpart⟩

/-! ## What the dialect decides -/

/-- Arrows make a difference at an equals sign alone. -/
theorem stepAt_of_ne_equals {arrows' : Bool} (p : Progress) (i : Int) {c : Char}
    (hc : c ≠ '=') :
    stepAt s ⟨arrows, braces⟩ p i c = stepAt s ⟨arrows', braces⟩ p i c := by
  rw [stepAt, stepAt, if_neg hc, if_neg hc]

/-- Values in braces make a difference at a brace alone. -/
theorem stepAt_of_ne_brace {braces' : Bool} (p : Progress) (i : Int) {c : Char}
    (hc : c ≠ '\x7b') :
    stepAt s ⟨arrows, braces⟩ p i c = stepAt s ⟨arrows, braces'⟩ p i c := by
  rw [stepAt, stepAt, if_neg hc, if_neg hc]

/-- Without arrows an equals sign ends the run. -/
theorem stepAt_equals (s : Text) (braces : Bool) (p : Progress) (i : Int) :
    stepAt s ⟨false, braces⟩ p i '=' = .reject := by
  rw [stepAt, if_neg (by decide), if_pos rfl, Bool.false_and, if_neg (by decide)]

/-- With arrows an equals sign opens the body or ends the run. -/
theorem stepAt_arrow (s : Text) (braces : Bool) (p : Progress) (i : Int) :
    stepAt s ⟨true, braces⟩ p i '=' = .body i ∨ stepAt s ⟨true, braces⟩ p i '=' = .reject := by
  rw [stepAt, if_neg (by decide), if_pos rfl]
  split
  · exact .inl rfl
  · exact .inr rfl

/-- Without values in braces every brace opens the body. -/
theorem stepAt_brace (s : Text) (arrows : Bool) (p : Progress) (i : Int) :
    stepAt s ⟨arrows, false⟩ p i '\x7b' = .body i := by
  rw [stepAt, if_pos rfl, Bool.and_false, Bool.false_and, if_neg (by decide)]

/-- What a run finds after a step stands no earlier than that step. -/
theorem Step.Sound.le_of_resume {step : Step} {i body : Int} (hi : 0 ≤ i)
    (hsound : step.Sound s shapes i) {count : Nat}
    (hbody : step.resume s shapes limit count = some body) : i ≤ body := by
  cases step with
  | body offset =>
      obtain rfl : offset = body := by simpa [Step.resume] using hbody
      exact hsound.1.ge
  | reject => simp [Step.resume] at hbody
  | next progress =>
      have hle : i ≤ progress.offset := hsound.1
      exact hle.trans (skipWithin_sound (hi.trans hle) hbody).1

/-- Allowing arrows changes nothing, unless an arrow is found in place of nothing. -/
theorem skip_arrows (s : Text) (braces : Bool) (hstart : 0 ≤ start) :
    skip s ⟨true, braces⟩ start = skip s ⟨false, braces⟩ start ∨
      skip s ⟨false, braces⟩ start = .ok none ∧
        ∃ arrow, skip s ⟨true, braces⟩ start = .ok (some arrow) ∧ s.at? arrow = some '=' := by
  rcases skip_eq_or_part s ⟨true, braces⟩ ⟨false, braces⟩ hstart with
    hsame | ⟨limit, found, found', place, c, hfound, hfound', -, hsign, count, p, hpart⟩
  · exact .inl hsame
  obtain ⟨hdiffers, rfl, rfl⟩ := hpart
  obtain rfl : c = '=' := by
    by_contra hne
    exact hdiffers (stepAt_of_ne_equals p place hne)
  rw [stepAt_equals] at hfound' hdiffers
  obtain harrow := (stepAt_arrow s braces p place).resolve_right hdiffers
  rw [harrow] at hfound
  exact .inr ⟨hfound', place, hfound, hsign⟩

/-- Allowing values in braces changes nothing, unless the brace that would open the body
is one, and then the body is not before it. -/
theorem skip_braces (s : Text) (arrows : Bool) (hstart : 0 ≤ start) :
    skip s ⟨arrows, true⟩ start = skip s ⟨arrows, false⟩ start ∨
      ∃ opener, 0 ≤ opener ∧ s.at? opener = some '\x7b' ∧
        skip s ⟨arrows, false⟩ start = .ok (some opener) ∧
        ∀ body, skip s ⟨arrows, true⟩ start = .ok (some body) → opener ≤ body := by
  rcases skip_eq_or_part s ⟨arrows, true⟩ ⟨arrows, false⟩ hstart with
    hsame | ⟨limit, found, found', place, c, hfound, hfound', hnonneg, hsign, count, p, hpart⟩
  · exact .inl hsame
  obtain ⟨hdiffers, rfl, rfl⟩ := hpart
  obtain rfl : c = '\x7b' := by
    by_contra hne
    exact hdiffers (stepAt_of_ne_brace p place hne)
  rw [stepAt_brace] at hfound'
  refine .inr ⟨place, hnonneg, hsign, hfound', fun body hbody => ?_⟩
  have hsound : (stepAt s ⟨arrows, true⟩ p place '\x7b').Sound s ⟨arrows, true⟩ place :=
    stepAt_sound p hnonneg hsign
  rw [hfound] at hbody
  exact hsound.le_of_resume hnonneg (Except.ok.inj hbody)

/-! ## Refinement -/

/-- A body found without arrows is found with them, and a brace found with them is found
without them.  Values in braces only put the body farther on: they leave an arrow where it is
and find nothing where nothing is found without them. -/
theorem skip_refined (s : Text) (start : Nat) :
    (∀ (braces : Bool) (body : Int), skip s ⟨false, braces⟩ start = .ok (some body) →
      skip s ⟨true, braces⟩ start = .ok (some body)) ∧
    (∀ (braces : Bool) (body : Int), skip s ⟨true, braces⟩ start = .ok (some body) →
      s.at? body = some '\x7b' → skip s ⟨false, braces⟩ start = .ok (some body)) ∧
    (∀ (arrows : Bool) (body : Int), skip s ⟨arrows, true⟩ start = .ok (some body) →
      ∃ body' ≤ body, skip s ⟨arrows, false⟩ start = .ok (some body')) ∧
    (∀ arrows : Bool, skip s ⟨arrows, false⟩ start = .ok none →
      skip s ⟨arrows, true⟩ start = .ok none) ∧
    ∀ (arrows : Bool) (arrow : Int), skip s ⟨arrows, false⟩ start = .ok (some arrow) →
      s.startsWithAt ['=', '>'] arrow = true →
      skip s ⟨arrows, true⟩ start = .ok (some arrow) := by
  have hstart := Int.natCast_nonneg start
  refine ⟨fun braces body hbody => ?_, fun braces body hbody hbrace => ?_,
    fun arrows body hbody => ?_, fun arrows hnone => ?_, fun arrows arrow harrow hsign => ?_⟩
  · rcases skip_arrows s braces hstart with hsame | ⟨hnone, -⟩
    · rw [hsame, hbody]
    · simp [hbody] at hnone
  · rcases skip_arrows s braces hstart with hsame | ⟨-, arrow, harrow, hequals⟩
    · rw [← hsame, hbody]
    · obtain rfl : body = arrow := by simpa [hbody] using harrow
      simp [hbrace] at hequals
  · rcases skip_braces s arrows hstart with hsame | ⟨opener, -, -, hopener, hle⟩
    · exact ⟨body, le_refl body, by rw [← hsame, hbody]⟩
    · exact ⟨opener, hle body hbody, hopener⟩
  · rcases skip_braces s arrows hstart with hsame | ⟨opener, -, -, hopener, -⟩
    · rw [hsame, hnone]
    · simp [hopener] at hnone
  · rcases skip_braces s arrows hstart with hsame | ⟨opener, hnonneg, hbrace, hopener, -⟩
    · rw [hsame, harrow]
    · obtain rfl : arrow = opener := by simpa [harrow] using hopener
      have hequals := Text.at?_of_startsWithAt hnonneg hsign
      simp [hbrace] at hequals

/-- A member with its value in braces, and the body. -/
def valueThenBody : Text :=
  " : a\x7b1\x7d \x7b".toList.toArray

/-- An arrow with its expression. -/
def arrowThenValue : Text :=
  " => 1;".toList.toArray

theorem skip_refined_value_and_arrow :
    skip valueThenBody ⟨true, true⟩ (0 : Nat) = .ok (some 8) ∧
      skip valueThenBody ⟨false, true⟩ (0 : Nat) = .ok (some 8) ∧
      (∃ body ≤ 8, skip valueThenBody ⟨true, false⟩ (0 : Nat) = .ok (some body)) ∧
      skip arrowThenValue ⟨false, true⟩ (0 : Nat) = .ok none ∧
      skip arrowThenValue ⟨true, true⟩ (0 : Nat) = .ok (some 1) := by
  obtain ⟨hadd, hdrop, hnearer, -, -⟩ := skip_refined valueThenBody 0
  obtain ⟨-, -, -, hnothing, harrow⟩ := skip_refined arrowThenValue 0
  have hbody : skip valueThenBody ⟨false, true⟩ (0 : Nat) = .ok (some 8) := by decide +kernel
  have hboth := hadd true 8 hbody
  exact ⟨hboth, hdrop true 8 hboth (by decide), hnearer true 8 hboth,
    hnothing false (by decide +kernel), harrow true 1 (by decide +kernel) (by decide)⟩

end FrameLens.Decoration
