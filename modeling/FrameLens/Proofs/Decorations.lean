import FrameLens.Code.Decoration
import FrameLens.Proofs.Nesting

/-!
# The way from a name to its body

Every scan between the name of a definition and its body moves to the right,
stays inside the text and never fails.  A run of decorations ends at an opening
brace, or, where arrow members are allowed, at an arrow.
-/

namespace FrameLens

namespace Text

variable {s : Text} {i : Int}

@[simp]
theorem skipBlanks_of_nonneg (hi : 0 ≤ i) : s.skipBlanks i = .ok (s.pastBlanks i) := by
  rw [skipBlanks, checkScan_of_nonneg hi]
  rfl

theorem le_pastBlanks (s : Text) (i : Int) : i ≤ s.pastBlanks i :=
  le_skipWhile s isBlank i

@[simp]
theorem matchingAngle_of_nonneg (hi : 0 ≤ i) : s.matchingAngle i = .ok (s.angleClose? i) := by
  rw [matchingAngle, checkScan_of_nonneg hi]
  rfl

theorem le_of_matching? {opener closer : Char} (hne : opener ≠ closer) {close : Int}
    (hclose : s.matching? opener closer i = some close) : i ≤ close := by
  have := Nesting.matching?_sound hne hclose
  omega

/-- The scan over an argument list moves to the right and stops at a closing sign. -/
theorem angleCloseWithin?_sound {count : Nat} {depth : Int} {close : Int} (hi : 0 ≤ i)
    (hclose : s.angleCloseWithin? count depth i = some close) :
    i ≤ close ∧ s.at? close = some '>' := by
  induction count generalizing depth i with
  | zero => simp [angleCloseWithin?] at hclose
  | succ count ih =>
      have hnext {depth : Int} (h : s.angleCloseWithin? count depth (i + 1) = some close) :
          i ≤ close ∧ s.at? close = some '>' := by
        obtain ⟨hle, hsign⟩ := ih (by omega) h
        exact ⟨by omega, hsign⟩
      rw [angleCloseWithin?] at hclose
      split at hclose
      · simp at hclose
      rename_i c hc
      split at hclose
      · exact hnext hclose
      split at hclose
      · rename_i hsign
        split at hclose
        · exact hnext hclose
        split at hclose
        · obtain rfl : i = close := by simpa using hclose
          exact ⟨le_refl i, hsign ▸ hc⟩
        · exact hnext hclose
      split at hclose
      · split at hclose
        · simp at hclose
        · rename_i group hgroup
          have hgroup_le := le_of_matching? (by decide) hgroup
          obtain ⟨hle, hsign⟩ := ih (by omega) hclose
          exact ⟨by omega, hsign⟩
      split at hclose
      · simp at hclose
      · exact hnext hclose

theorem at?_of_angleClose? {close : Int} (hi : 0 ≤ i)
    (hclose : s.angleClose? i = some close) : s.at? close = some '>' :=
  (angleCloseWithin?_sound hi hclose).2

theorem angleClose?_bounds {close : Int} (hi : 0 ≤ i)
    (hclose : s.angleClose? i = some close) : i ≤ close ∧ close < s.length := by
  obtain ⟨hle, hsign⟩ := angleCloseWithin?_sound hi hclose
  exact ⟨hle, lt_length_of_at? (by omega) hsign⟩

end Text

namespace Decoration

open FrameLens.Text (isWordChar isBlank)

variable {s : Text} {shapes : Shapes} {i : Int}

/-- Passing over a group leads to the right and not out of the text. -/
theorem afterGroup_bounds {close : Option Int} (hi : i ≤ s.length)
    (hclose : ∀ c ∈ close, i ≤ c ∧ c < s.length) :
    i ≤ afterGroup s close ∧ afterGroup s close ≤ s.length := by
  cases close with
  | none => exact ⟨hi, le_refl _⟩
  | some close =>
      obtain ⟨hle, hlt⟩ := hclose close rfl
      rw [afterGroup]
      split
      · exact ⟨by omega, by omega⟩
      · exact ⟨hi, le_refl _⟩

theorem afterMatching_bounds {opener closer : Char} (hne : opener ≠ closer)
    (hi : i ≤ s.length) {place : Int} (hle : i ≤ place) :
    i ≤ afterGroup s (s.matching? opener closer place) ∧
      afterGroup s (s.matching? opener closer place) ≤ s.length := by
  apply afterGroup_bounds hi
  intro close hclose
  obtain ⟨-, hlt, hlength, -, -⟩ := Nesting.matching?_sound hne hclose
  exact ⟨by omega, hlength⟩

theorem afterAngle_bounds (hi : 0 ≤ i) (hle : i ≤ s.length) :
    i ≤ afterGroup s (s.angleClose? i) ∧ afterGroup s (s.angleClose? i) ≤ s.length :=
  afterGroup_bounds hle fun _ hclose => Text.angleClose?_bounds hi hclose

theorem skipReturnWithin_bounds (hi : 0 ≤ i) (hle : i ≤ s.length) (count : Nat) :
    i ≤ skipReturnWithin s count i ∧ skipReturnWithin s count i ≤ s.length := by
  induction count generalizing i with
  | zero => exact ⟨le_refl i, hle⟩
  | succ count ih =>
      have hgo {next : Int} (hnext : i ≤ next ∧ next ≤ s.length) :
          i ≤ skipReturnWithin s count next ∧
            skipReturnWithin s count next ≤ s.length := by
        obtain ⟨hlower, hupper⟩ := ih (le_trans hi hnext.1) hnext.2
        exact ⟨le_trans hnext.1 hlower, hupper⟩
      rw [skipReturnWithin]
      split
      · exact ⟨le_refl i, hle⟩
      rename_i c hc
      have hlt := Text.lt_length_of_at? hi hc
      split
      · exact hgo (afterAngle_bounds hi hle)
      split
      · exact hgo (afterMatching_bounds (by decide) hle (le_refl i))
      split
      · exact hgo ⟨by omega, by omega⟩
      · exact ⟨le_refl i, hle⟩

/-- Passing over a return type leads to the right and not out of the text. -/
theorem pastReturn_bounds (hi : 0 ≤ i) (hle : i ≤ s.length) :
    i ≤ pastReturn s i ∧ pastReturn s i ≤ s.length :=
  skipReturnWithin_bounds hi hle _

/-! ## Operators -/

/-- The token after the operator word is passed over without a failure. -/
theorem skipOperator_ok (hi : 0 ≤ i) : ∃ next, skipOperator s i = .ok next ∧ i ≤ next := by
  have hle := Text.le_pastBlanks s i
  rw [skipOperator, Text.skipBlanks_of_nonneg hi, OutOfRange.ok_bind]
  split
  · exact ⟨_, rfl, hle⟩
  · have hinner := Text.le_pastBlanks s (s.pastBlanks i + 1)
    refine ⟨_, rfl, ?_⟩
    split <;> omega
  · refine ⟨_, rfl, ?_⟩
    split
    · rename_i close hclose
      have := Text.le_of_matching? (by decide) hclose
      omega
    · exact hle
  · have hname := Text.le_skipWithin s isOperatorName
      (min (s.length - s.pastBlanks i) maxOperatorName).toNat (s.pastBlanks i)
    have hsymbol := Text.le_skipWhile s isOperatorChar (s.pastBlanks i)
    dsimp only
    split
    · exact ⟨_, rfl, by omega⟩
    · exact ⟨_, rfl, by omega⟩

/-! ## Runs of decorations -/

/-- A body opens at a place: a brace, or an arrow where one is allowed. -/
def BodyAt (s : Text) (shapes : Shapes) (i : Int) : Prop :=
  s.at? i = some '\x7b' ∨ (shapes.arrows = true ∧ s.startsWithAt ['=', '>'] i = true)

/-- What a step from a place may come to: it never leaves the text. -/
def Step.Sound (s : Text) (shapes : Shapes) (i : Int) : Step → Prop
  | .body offset => offset = i ∧ BodyAt s shapes i
  | .reject => True
  | .next progress => i ≤ progress.offset ∧ progress.offset ≤ s.length

/-- A word and the call behind it are passed over within the text. -/
theorem stepWord_sound (p : Progress) (hi : i ≤ s.length) :
    (stepWord s p i).Sound s shapes i := by
  have hword := Text.le_skipWhile s isWordChar i
  have hblanks := Text.le_pastBlanks s (s.skipWhile isWordChar i)
  rw [stepWord]
  split
  · exact afterMatching_bounds (by decide) hi (le_trans hword hblanks)
  · exact ⟨hword, Text.skipWhile_le isWordChar hi⟩

/-- What a step from the character `c` at a place may come to, with the test that led
there. -/
inductive Takes (s : Text) (shapes : Shapes) (p : Progress) (i : Int) (c : Char) : Step → Prop
  | refused : Takes s shapes p i c .reject
  | body (opens : BodyAt s shapes i) : Takes s shapes p i c (.body i)
  | value {close : Int} (inside : p.inInitializer = true)
      (allowed : shapes.braceInitializers = true)
      (behind : (isWordChar p.last || p.last == '>') = true)
      (closes : s.matchingBrace? i = some close) :
      Takes s shapes p i c (.next ⟨close + 1, p.inInitializer, '\x7d'⟩)
  | scope (sign : s.startsWithAt [':', ':'] i = true) :
      Takes s shapes p i c (.next ⟨i + 2, p.inInitializer, ':'⟩)
  | colon (sign : c = ':') (single : ¬s.startsWithAt [':', ':'] i = true) :
      Takes s shapes p i c (.next ⟨i + 1, true, ':'⟩)
  | returns (sign : s.startsWithAt ['-', '>'] i = true) :
      Takes s shapes p i c (.next ⟨pastReturn s (i + 2), p.inInitializer,
        charBefore s (pastReturn s (i + 2)) c⟩)
  | attributes (sign : s.startsWithAt ['[', '['] i = true) :
      Takes s shapes p i c (.next
        ⟨afterGroup s ((s.findFrom? [']', ']'] (i + 2)).map (· + 1)), p.inInitializer, ']'⟩)
  | brackets : Takes s shapes p i c
      (.next ⟨afterGroup s (s.matchingBracket? i), p.inInitializer, ']'⟩)
  | word (sign : isWordChar c = true) : Takes s shapes p i c (stepWord s p i)
  | arguments (sign : c = '<') :
      Takes s shapes p i c (.next ⟨afterGroup s (s.angleClose? i), p.inInitializer, '>'⟩)
  | parentheses : Takes s shapes p i c
      (.next ⟨afterGroup s (s.matchingParen? i), p.inInitializer, ')'⟩)
  | passing (sign : isPassing c = true) :
      Takes s shapes p i c (.next ⟨i + 1, p.inInitializer, c⟩)

variable {p : Progress} {c : Char} {step : Step}

theorem Takes.ite {test : Prop} [Decidable test] {yes no : Step}
    (hyes : test → Takes s shapes p i c yes) (hno : ¬test → Takes s shapes p i c no) :
    Takes s shapes p i c (if test then yes else no) := by
  split
  · exact hyes ‹test›
  · exact hno ‹¬test›

/-- A step takes what the character and the text from it on say. -/
theorem takes_stepAt (p : Progress) (hc : s.at? i = some c) :
    Takes s shapes p i c (stepAt s shapes p i c) := by
  rw [stepAt]
  -- The tests are taken one by one, for the rest of the chain is large.
  apply Takes.ite
  · intro hbrace
    apply Takes.ite
    · intro hvalue
      simp only [Bool.and_eq_true] at hvalue
      obtain ⟨⟨hinside, hallowed⟩, hbehind⟩ := hvalue
      split
      · exact .value hinside hallowed hbehind ‹_›
      · exact .refused
    · intro _
      exact .body (.inl (hbrace ▸ hc))
  intro _
  apply Takes.ite
  · intro _
    apply Takes.ite
    · intro harrow
      exact .body (.inr (Bool.and_eq_true_iff.1 harrow))
    · exact fun _ => .refused
  intro _
  apply Takes.ite
  · exact fun _ => .refused
  intro _
  apply Takes.ite
  · exact .scope
  intro hsingle
  apply Takes.ite
  · exact fun hcolon => .colon hcolon hsingle
  intro _
  apply Takes.ite
  · exact .returns
  intro _
  apply Takes.ite
  · exact .attributes
  intro _
  apply Takes.ite
  · exact fun _ => .brackets
  intro _
  apply Takes.ite
  · exact .word
  intro _
  apply Takes.ite
  · exact .arguments
  intro _
  apply Takes.ite
  · exact fun _ => .parentheses
  intro _
  apply Takes.ite
  · exact .passing
  · exact fun _ => .refused

/-- Whatever a step takes, it goes on inside the text, and a body is where it stands. -/
theorem Takes.sound (htakes : Takes s shapes p i c step) (hi : 0 ≤ i) (hc : s.at? i = some c) :
    step.Sound s shapes i := by
  have hlt := Text.lt_length_of_at? hi hc
  have hle : i ≤ s.length := le_of_lt hlt
  have htwo {c d : Char} (hstarts : s.startsWithAt [c, d] i = true) : i + 2 ≤ s.length :=
    Text.add_length_le_of_startsWithAt (List.cons_ne_nil c [d]) hi hstarts
  cases htakes with
  | refused => trivial
  | body hopens => exact ⟨rfl, hopens⟩
  | value _ _ _ hclose =>
      obtain ⟨-, hclose_lt, hlength, -, -⟩ := Nesting.matching?_sound (by decide) hclose
      exact ⟨by dsimp only; omega, by dsimp only; omega⟩
  | scope hsign => exact ⟨by dsimp only; omega, htwo hsign⟩
  | colon | passing => exact ⟨by dsimp only; omega, by dsimp only; omega⟩
  | returns hsign =>
      obtain ⟨hlower, hupper⟩ := pastReturn_bounds (by omega) (htwo hsign)
      exact ⟨by dsimp only; omega, hupper⟩
  | attributes =>
      apply afterGroup_bounds hle
      intro close hclose
      obtain ⟨found, hfound, rfl⟩ := Option.map_eq_some_iff.1 hclose
      obtain ⟨hfound_le, -, hlength, -, -⟩ := Text.find?_eq_some (by simp) (by omega)
        (Text.length_nonneg s) hfound
      simp only [List.length_cons, List.length_nil] at hlength
      exact ⟨by omega, by omega⟩
  | brackets | parentheses => exact afterMatching_bounds (by decide) hle (le_refl i)
  | word => exact stepWord_sound p hle
  | arguments => exact afterAngle_bounds hi hle

theorem stepAt_sound (p : Progress) (hi : 0 ≤ i) (hc : s.at? i = some c) :
    (stepAt s shapes p i c).Sound s shapes i :=
  (takes_stepAt p hc).sound hi hc

/-- A run that succeeds leads to a body before the limit. -/
theorem skipWithin_sound {limit : Int} {count : Nat} {p : Progress} {body : Int}
    (hp : 0 ≤ p.offset) (hskip : skipWithin s shapes limit count p = some body) :
    p.offset ≤ body ∧ body < limit ∧ BodyAt s shapes body := by
  induction count generalizing p with
  | zero => simp [skipWithin] at hskip
  | succ count ih =>
      have hle := Text.le_pastBlanks s p.offset
      rw [skipWithin] at hskip
      split at hskip
      · simp at hskip
      rename_i hlimit
      split at hskip
      · simp at hskip
      rename_i c hc
      have hstep : (stepAt s shapes p (s.pastBlanks p.offset) c).Sound s shapes
          (s.pastBlanks p.offset) := stepAt_sound p (by omega) hc
      split at hskip
      · rename_i offset hbody
        rw [hbody] at hstep
        obtain rfl : offset = body := by simpa using hskip
        obtain ⟨rfl, hopens⟩ := hstep
        exact ⟨hle, by omega, hopens⟩
      · simp at hskip
      · rename_i progress hnext
        rw [hnext] at hstep
        have hprogress : s.pastBlanks p.offset ≤ progress.offset := hstep.1
        obtain ⟨hbody, hrest⟩ := ih (by omega) hskip
        exact ⟨by omega, hrest⟩

/-- The search for a body never fails, and what it finds is a body inside the text. -/
theorem skip_ok (s : Text) (shapes : Shapes) (hi : 0 ≤ i) :
    ∃ found, skip s shapes i = .ok found ∧
      ∀ body ∈ found, i ≤ body ∧ body < s.length ∧ BodyAt s shapes body := by
  rw [skip, Text.checkScan_of_nonneg hi]
  refine ⟨_, rfl, ?_⟩
  intro body hbody
  obtain ⟨hle, hlt, hopens⟩ := skipWithin_sound hi hbody
  exact ⟨hle, by omega, hopens⟩

end Decoration

end FrameLens
