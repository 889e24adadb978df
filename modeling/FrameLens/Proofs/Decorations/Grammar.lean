import FrameLens.Proofs.Decorations

/-!
# The grammar of decorations

What stands between the parameters of a definition and its body falls into plain
characters, scope signs, colons, return types and groups.  A group is passed over as
a whole, so whatever would end a statement stands inside one.
-/

namespace FrameLens

namespace Text

variable {s : Text}

theorem getElem?_of_occursAt_pair {c d : Char} {place : Nat}
    (hoccurs : s.occursAt [c, d] place = true) :
    s[place]? = some c ∧ s[place + 1]? = some d := by
  simpa [occursAt] using hoccurs

theorem startsWithAt_natCast {place : Nat} (hplace : place < s.size)
    (pattern : List Char) : s.startsWithAt pattern place = s.occursAt pattern place := by
  rw [startsWithAt, cutPlace_of_nonneg (by omega), Int.toNat_natCast,
    Nat.min_eq_left (by omega)]

end Text

namespace Decoration

open FrameLens.Text (isWordChar isBlank)

/-! ## Pieces -/

/-- A group that is passed over as a whole, from its first place to its last: an
attribute up to the first close behind it, or what a matcher closes. -/
inductive Group (s : Text) : Nat → Nat → Prop
  | attributes {first close : Nat} (opens : s.occursAt ['[', '['] first = true)
      (le : first + 2 ≤ close) (closes : s.occursAt [']', ']'] close = true)
      (least : ∀ place, first + 2 ≤ place → place < close →
        s.occursAt [']', ']'] place = false) :
      Group s first (close + 1)
  | brackets {first last : Nat} (closes : s.matchingBracket? first = some (last : Int)) :
      Group s first last
  | parentheses {first last : Nat} (closes : s.matchingParen? first = some (last : Int)) :
      Group s first last
  | arguments {first last : Nat} (opens : s[first]? = some '<')
      (closes : s.angleClose? first = some (last : Int)) :
      Group s first last

/-- The characters that stand for themselves in a return type. -/
def isReturnPlain (c : Char) : Bool :=
  isReturnPunctuation c || isWordChar c || isBlank c

/-- A return type from a place on, with the groups in it: arguments and parentheses,
while a bracket stands for itself. -/
inductive ReturnRun (s : Text) : Nat → List (Nat × Nat) → Nat → Prop
  | done {place : Nat} : ReturnRun s place [] place
  | plain {first stop : Nat} {groups : List (Nat × Nat)}
      (sign : s.holdsAt isReturnPlain first = true)
      (rest : ReturnRun s (first + 1) groups stop) :
      ReturnRun s first groups stop
  | group {first last stop : Nat} {groups : List (Nat × Nat)}
      (opens : s[first]? = some '<' ∨ s[first]? = some '(') (closes : Group s first last)
      (rest : ReturnRun s (last + 1) groups stop) :
      ReturnRun s first ((first, last) :: groups) stop

/-- The characters that stand for themselves among decorations. -/
def isPlain (c : Char) : Bool :=
  isBlank c || isWordChar c || isPassing c

/-- What a brace must stand behind to open the value of a member. -/
def endsName (c : Char) : Bool :=
  isWordChar c || c == '>'

/-- From `start` on, a name or the close of its arguments stands before a place, with
nothing but blanks between. -/
def Follows (s : Text) (start place : Nat) : Prop :=
  ∃ name, start ≤ name ∧ name < place ∧ s.holdsAt endsName name = true ∧
    ∀ between, name < between → between < place → s.holdsAt isBlank between = true

/-- The decorations from `start` to a place, with the groups in them and whether a
colon introduced the members' values. -/
inductive Passed (s : Text) (shapes : Shapes) (start : Nat) :
    Bool → List (Nat × Nat) → Nat → Prop
  | start : Passed s shapes start false [] start
  | plain {introduced : Bool} {groups : List (Nat × Nat)} {place : Nat}
      (before : Passed s shapes start introduced groups place)
      (sign : s.holdsAt isPlain place = true) :
      Passed s shapes start introduced groups (place + 1)
  | scope {introduced : Bool} {groups : List (Nat × Nat)} {place : Nat}
      (before : Passed s shapes start introduced groups place)
      (sign : s.occursAt [':', ':'] place = true) :
      Passed s shapes start introduced groups (place + 2)
  | colon {introduced : Bool} {groups : List (Nat × Nat)} {place : Nat}
      (before : Passed s shapes start introduced groups place)
      (sign : s[place]? = some ':') (single : s.occursAt [':', ':'] place = false) :
      Passed s shapes start true groups (place + 1)
  | returns {introduced : Bool} {groups inner : List (Nat × Nat)} {place stop : Nat}
      (before : Passed s shapes start introduced groups place)
      (sign : s.occursAt ['-', '>'] place = true)
      (run : ReturnRun s (place + 2) inner stop) :
      Passed s shapes start introduced (groups ++ inner) stop
  | group {introduced : Bool} {groups : List (Nat × Nat)} {first last : Nat}
      (before : Passed s shapes start introduced groups first)
      (closes : Group s first last) :
      Passed s shapes start introduced (groups ++ [(first, last)]) (last + 1)
  | value {groups : List (Nat × Nat)} {first last : Nat}
      (before : Passed s shapes start true groups first)
      (allowed : shapes.braceInitializers = true) (follows : Follows s start first)
      (closes : s.matchingBrace? first = some (last : Int)) :
      Passed s shapes start true (groups ++ [(first, last)]) (last + 1)

variable {s : Text} {shapes : Shapes} {start first last stop place : Nat}
  {introduced : Bool} {groups : List (Nat × Nat)}

/-- A group ends no earlier than it begins. -/
theorem Group.le (hgroup : Group s first last) : first ≤ last := by
  cases hgroup with
  | attributes hopens hle hcloses hleast => omega
  | brackets hcloses =>
      have := Nesting.matching?_sound (by decide) hcloses
      omega
  | parentheses hcloses =>
      have := Nesting.matching?_sound (by decide) hcloses
      omega
  | arguments hopens hcloses =>
      have := Text.angleClose?_bounds (by omega) hcloses
      omega

theorem ReturnRun.le (hrun : ReturnRun s first groups stop) : first ≤ stop := by
  induction hrun with
  | done => exact le_refl _
  | plain hsign hrest ih => omega
  | group hopens hcloses hrest ih =>
      have := hcloses.le
      omega

/-- Decorations end no earlier than they begin. -/
theorem Passed.le (hpassed : Passed s shapes start introduced groups place) :
    start ≤ place := by
  induction hpassed with
  | start => exact le_refl _
  | plain hbefore hsign ih => omega
  | scope hbefore hsign ih => omega
  | colon hbefore hsign hsingle ih => omega
  | returns hbefore hsign hrun ih =>
      have := hrun.le
      omega
  | group hbefore hcloses ih =>
      have := hcloses.le
      omega
  | value hbefore hallowed hfollows hcloses ih =>
      have := Nesting.matching?_sound (by decide) hcloses
      omega

/-! ## What is never crossed -/

/-- The characters that end a statement, a value, a block or a parameter list. -/
def isBarrier (c : Char) : Bool :=
  ";=\x7b\x7d)".toList.contains c

/-- Every barrier between two places stands inside one of the groups. -/
def Covered (s : Text) (groups : List (Nat × Nat)) (first stop : Nat) : Prop :=
  ∀ place, first ≤ place → place < stop → s.holdsAt isBarrier place = true →
    ∃ group ∈ groups, group.1 ≤ place ∧ place ≤ group.2

theorem Covered.append {groups' : List (Nat × Nat)} (hcovered : Covered s groups first place)
    (hcovered' : Covered s groups' place stop) : Covered s (groups ++ groups') first stop := by
  intro barrier hfirst hstop hbarrier
  rcases Nat.lt_or_ge barrier place with hlt | hle
  · obtain ⟨group, hgroup, hinside⟩ := hcovered barrier hfirst hlt hbarrier
    exact ⟨group, List.mem_append_left groups' hgroup, hinside⟩
  · obtain ⟨group, hgroup, hinside⟩ := hcovered' barrier hle hstop hbarrier
    exact ⟨group, List.mem_append_right groups hgroup, hinside⟩

theorem Covered.char {c : Char} (hc : s[place]? = some c) (hplain : isBarrier c = false) :
    Covered s [] place (place + 1) := by
  intro barrier hfirst hstop hbarrier
  obtain rfl : barrier = place := by omega
  obtain ⟨d, hd, hbarrier⟩ := Text.holdsAt_eq_true_iff.1 hbarrier
  obtain rfl : c = d := Option.some.inj (hc.symm.trans hd)
  simp [hplain] at hbarrier

theorem Covered.plain {p : Char → Bool} (hp : ";=\x7b\x7d)".toList.any p = false)
    (hsign : s.holdsAt p place = true) : Covered s [] place (place + 1) := by
  obtain ⟨c, hc, hpc⟩ := Text.holdsAt_eq_true_iff.1 hsign
  apply Covered.char hc
  by_contra hbarrier
  rw [Bool.not_eq_false, isBarrier, List.contains_iff_mem] at hbarrier
  exact List.any_eq_false.1 hp c hbarrier hpc

theorem Covered.pair {c d : Char} (hsign : s.occursAt [c, d] place = true)
    (hc : isBarrier c = false) (hd : isBarrier d = false) :
    Covered s [] place (place + 2) := by
  obtain ⟨hfirst, hsecond⟩ := Text.getElem?_of_occursAt_pair hsign
  exact (Covered.char hfirst hc).append (Covered.char hsecond hd)

theorem Covered.group (s : Text) (first last : Nat) :
    Covered s [(first, last)] first (last + 1) := by
  intro barrier hfirst hstop hbarrier
  exact ⟨(first, last), List.mem_singleton_self _, hfirst, by dsimp only; omega⟩

/-- Every barrier in a return type stands in one of its groups. -/
theorem ReturnRun.covered (hrun : ReturnRun s first groups stop) :
    Covered s groups first stop := by
  induction hrun with
  | done => exact fun place hfirst hstop => by omega
  | plain hsign hrest ih => exact (Covered.plain (by decide) hsign).append ih
  | @group first last stop groups hopens hcloses hrest ih =>
      exact (Covered.group s first last).append ih

/-- No barrier is crossed outside the groups. -/
theorem Passed.covered (hpassed : Passed s shapes start introduced groups place) :
    Covered s groups start place := by
  induction hpassed with
  | start => exact fun place hfirst hstop => by omega
  | @plain introduced groups place hbefore hsign ih =>
      simpa using ih.append (Covered.plain (by decide) hsign)
  | scope hbefore hsign ih =>
      simpa using ih.append (Covered.pair hsign (by decide) (by decide))
  | colon hbefore hsign hsingle ih =>
      simpa using ih.append (Covered.char hsign (by decide))
  | returns hbefore hsign hrun ih =>
      have hsigns := Covered.pair hsign (by decide) (by decide)
      exact ih.append (hsigns.append hrun.covered)
  | group hbefore hcloses ih => exact ih.append (Covered.group s _ _)
  | value hbefore hallowed hfollows hcloses ih => exact ih.append (Covered.group s _ _)

/-! ## The scan -/

/-- A sign that may end a name lets a brace open a value right behind it. -/
theorem Follows.of_last {name : Nat} (hstart : start ≤ name) {c : Char}
    (hc : s[name]? = some c) (hends : endsName c = true) : Follows s start (name + 1) :=
  ⟨name, hstart, by omega, Text.holdsAt_eq_true_iff.2 ⟨c, hc, hends⟩,
    fun between hname hlt => by omega⟩

/-- Blanks between a name and a brace make no difference. -/
theorem Follows.blanks (hfollows : Follows s start first)
    (hblanks : ∀ place, first ≤ place → place < stop → s.holdsAt isBlank place = true)
    (hle : first ≤ stop) : Follows s start stop := by
  obtain ⟨name, hstart, hlt, hends, hbetween⟩ := hfollows
  refine ⟨name, hstart, by omega, hends, ?_⟩
  intro between hname hstop
  rcases Nat.lt_or_ge between first with hbefore | hafter
  · exact hbetween between hname hbefore
  · exact hblanks between hafter hstop

/-- A run of plain characters is passed over one after another. -/
theorem Passed.run {p : Char → Bool} (hpassed : Passed s shapes start introduced groups first)
    (hp : ∀ c, p c = true → isPlain c = true) (hle : first ≤ stop)
    (hrun : ∀ place, first ≤ place → place < stop → s.holdsAt p place = true) :
    Passed s shapes start introduced groups stop := by
  induction stop, hle using Nat.le_induction with
  | base => exact hpassed
  | succ stop hle ih =>
      obtain ⟨c, hc, hpc⟩ := Text.holdsAt_eq_true_iff.1 (hrun stop hle (by omega))
      exact (ih fun place hfirst hlt => hrun place hfirst (by omega)).plain
        (Text.holdsAt_eq_true_iff.2 ⟨c, hc, hp c hpc⟩)

theorem isPlain_of_isBlank {c : Char} (hblank : isBlank c = true) : isPlain c = true := by
  simp [isPlain, hblank]

theorem isPlain_of_isWordChar {c : Char} (hword : isWordChar c = true) :
    isPlain c = true := by
  simp [isPlain, hword]

variable {inInitializer : Bool} {behind : Char}

/-- What is known at a place that the scan reaches: a value may open only behind a colon,
and the character it keeps for the last one tells the truth about names. -/
structure Reached (s : Text) (shapes : Shapes) (start place : Nat) (inInitializer : Bool)
    (behind : Char) : Prop where
  passed : ∃ introduced groups, (inInitializer = true → introduced = true) ∧
    Passed s shapes start introduced groups place
  follows : endsName behind = true → Follows s start place

theorem Reached.le (hreached : Reached s shapes start place inInitializer behind) :
    start ≤ place := by
  obtain ⟨introduced, groups, -, hpassed⟩ := hreached.passed
  exact hpassed.le

/-- Blanks change nothing. -/
theorem Reached.blanks (hreached : Reached s shapes start place inInitializer behind) :
    ∃ stop : Nat, s.pastBlanks place = stop ∧ place ≤ stop ∧
      Reached s shapes start stop inInitializer behind := by
  obtain ⟨stop, hstop, hle, hblanks⟩ := Text.exists_skipWhile_eq s isBlank place
  refine ⟨stop, hstop, hle, ?_, fun hends => (hreached.follows hends).blanks hblanks hle⟩
  obtain ⟨introduced, groups, hopen, hpassed⟩ := hreached.passed
  exact ⟨introduced, groups, hopen, hpassed.run (fun _ => isPlain_of_isBlank) hle hblanks⟩

/-- Where a step leads to, unless it runs out of the text. -/
def Step.Reaches (s : Text) (shapes : Shapes) (start : Nat) : Step → Prop
  | .body _ => True
  | .reject => True
  | .next progress => s.length ≤ progress.offset ∨
      ∃ place : Nat, progress.offset = place ∧
        Reached s shapes start place progress.inInitializer progress.last

theorem Step.Reaches.ite {test : Prop} [Decidable test] {yes no : Step}
    (hyes : test → yes.Reaches s shapes start) (hno : ¬test → no.Reaches s shapes start) :
    (if test then yes else no).Reaches s shapes start := by
  split
  · exact hyes ‹test›
  · exact hno ‹¬test›

theorem Reached.next (hreached : Reached s shapes start place inInitializer behind) :
    (Step.next ⟨place, inInitializer, behind⟩).Reaches s shapes start :=
  .inr ⟨place, rfl, hreached⟩

theorem exists_matching {opener closer : Char} (hne : opener ≠ closer) {close : Int}
    (hclose : s.matching? opener closer first = some close) :
    ∃ last : Nat, close = last ∧ s[last]? = some closer := by
  obtain ⟨hfirst, hlt, -, -, hcloser⟩ := Nesting.matching?_sound hne hclose
  obtain ⟨last, rfl⟩ := Int.eq_ofNat_of_zero_le (hfirst.trans hlt.le)
  exact ⟨last, rfl, by simpa using hcloser⟩

/-- A group that closes is passed over; one that does not leads out of the text. -/
theorem Reached.afterGroup (hreached : Reached s shapes start place inInitializer behind)
    {close : Option Int} {sign : Char}
    (hclose : ∀ c ∈ close, ∃ last : Nat, c = last ∧ Group s place last ∧
      s[last]? = some sign) :
    (Step.next ⟨afterGroup s close, inInitializer, sign⟩).Reaches s shapes start := by
  cases close with
  | none => exact .inl (le_refl _)
  | some close =>
      obtain ⟨last, rfl, hgroup, hsign⟩ := hclose close rfl
      rw [Decoration.afterGroup, if_pos (by omega)]
      refine .inr ⟨last + 1, by push_cast; rfl, ?_, ?_⟩
      · obtain ⟨introduced, groups, hopen, hpassed⟩ := hreached.passed
        exact ⟨introduced, _, hopen, hpassed.group hgroup⟩
      · exact Follows.of_last (hreached.le.trans hgroup.le) hsign

/-- What a parenthesis opens is passed over as a group. -/
theorem Reached.parentheses (hreached : Reached s shapes start place inInitializer behind) :
    (Step.next ⟨Decoration.afterGroup s (s.matchingParen? place), inInitializer, ')'⟩).Reaches
      s shapes start := by
  apply hreached.afterGroup
  intro close hclose
  obtain ⟨last, rfl, hsign⟩ := exists_matching (by decide) hclose
  exact ⟨last, rfl, .parentheses hclose, hsign⟩

theorem Reached.brackets (hreached : Reached s shapes start place inInitializer behind) :
    (Step.next ⟨Decoration.afterGroup s (s.matchingBracket? place), inInitializer, ']'⟩).Reaches
      s shapes start := by
  apply hreached.afterGroup
  intro close hclose
  obtain ⟨last, rfl, hsign⟩ := exists_matching (by decide) hclose
  exact ⟨last, rfl, .brackets hclose, hsign⟩

/-- An argument list that closes is a group. -/
theorem exists_angleClose {close : Int} (hopens : s[first]? = some '<')
    (hclose : s.angleClose? first = some close) :
    ∃ last : Nat, close = last ∧ Group s first last ∧ s[last]? = some '>' := by
  have hsign := Text.at?_of_angleClose? (by omega) hclose
  obtain ⟨hle, -⟩ := Text.angleClose?_bounds (by omega) hclose
  obtain ⟨last, rfl⟩ := Int.eq_ofNat_of_zero_le ((Int.natCast_nonneg first).trans hle)
  exact ⟨last, rfl, .arguments hopens hclose, by simpa using hsign⟩

theorem Reached.arguments (hreached : Reached s shapes start place inInitializer behind)
    (hopens : s[place]? = some '<') :
    (Step.next ⟨Decoration.afterGroup s (s.angleClose? place), inInitializer, '>'⟩).Reaches
      s shapes start :=
  hreached.afterGroup fun _ hclose => exists_angleClose hopens hclose

theorem Reached.attributes (hreached : Reached s shapes start place inInitializer behind)
    (hopens : s.occursAt ['[', '['] place = true) :
    (Step.next ⟨Decoration.afterGroup s ((s.findFrom? [']', ']'] (place + 2)).map (· + 1)),
      inInitializer, ']'⟩).Reaches s shapes start := by
  apply hreached.afterGroup
  intro close hclose
  obtain ⟨found, hfound, rfl⟩ := Option.map_eq_some_iff.1 hclose
  obtain ⟨hle, -, -, hcloses, hleast⟩ :=
    Text.find?_eq_some (by simp) (by omega) (Text.length_nonneg s) hfound
  obtain ⟨close, rfl⟩ := Int.eq_ofNat_of_zero_le (show 0 ≤ found by omega)
  rw [Int.toNat_natCast] at hcloses
  refine ⟨close + 1, by push_cast; rfl, ?_, (Text.getElem?_of_occursAt_pair hcloses).2⟩
  exact .attributes hopens (by omega) hcloses fun between hfirst hlt =>
    hleast between (by omega) (by omega)

/-- A scan over a return type passes over nothing else, unless it runs out of the text. -/
theorem skipReturnWithin_run (s : Text) (count first : Nat) :
    s.length ≤ skipReturnWithin s count first ∨
      ∃ (stop : Nat) (groups : List (Nat × Nat)),
        skipReturnWithin s count first = stop ∧ ReturnRun s first groups stop := by
  induction count generalizing first with
  | zero => exact .inr ⟨first, [], rfl, .done⟩
  | succ count ih =>
      -- A group either closes, so that the run goes on behind it, or ends the scan.
      have hgroup {close : Option Int} (hopens : s[first]? = some '<' ∨ s[first]? = some '(')
          (hclose : ∀ c ∈ close, ∃ last : Nat, c = last ∧ Group s first last) :
          s.length ≤ skipReturnWithin s count (afterGroup s close) ∨
            ∃ (stop : Nat) (groups : List (Nat × Nat)),
              skipReturnWithin s count (afterGroup s close) = stop ∧
                ReturnRun s first groups stop := by
        cases close with
        | none => exact .inl (skipReturnWithin_bounds s.length_nonneg (le_refl _) count).1
        | some close =>
            obtain ⟨last, rfl, hgroup⟩ := hclose close rfl
            rw [afterGroup, if_pos (by omega)]
            refine (ih (last + 1)).imp_right ?_
            rintro ⟨stop, groups, hstop, hrun⟩
            exact ⟨stop, (first, last) :: groups, hstop, .group hopens hgroup hrun⟩
      rw [skipReturnWithin, Text.at?_natCast]
      split
      · exact .inr ⟨first, [], rfl, .done⟩
      rename_i c hc
      split
      case isTrue hangle =>
        subst hangle
        apply hgroup (.inl hc)
        intro close hclose
        obtain ⟨last, hlast, hgroup, -⟩ := exists_angleClose hc hclose
        exact ⟨last, hlast, hgroup⟩
      split
      case isTrue hparenthesis =>
        subst hparenthesis
        apply hgroup (.inr hc)
        intro close hclose
        obtain ⟨last, rfl, -⟩ := exists_matching (by decide) hclose
        exact ⟨last, rfl, .parentheses hclose⟩
      split
      case isTrue hplain =>
        refine (ih (first + 1)).imp_right ?_
        rintro ⟨stop, groups, hstop, hrun⟩
        exact ⟨stop, groups, hstop, .plain (Text.holdsAt_eq_true_iff.2 ⟨c, hc, hplain⟩) hrun⟩
      case isFalse => exact .inr ⟨first, [], rfl, .done⟩

/-- A return type is passed over with the groups in it. -/
theorem Reached.returns (hreached : Reached s shapes start place inInitializer behind)
    (hsign : s.occursAt ['-', '>'] place = true) {c : Char} :
    (Step.next ⟨pastReturn s (place + 2), inInitializer,
      charBefore s (pastReturn s (place + 2)) c⟩).Reaches s shapes start := by
  rcases skipReturnWithin_run s (s.length - (place + 2 : Nat)).toNat (place + 2) with
    hout | ⟨stop, inner, hstop, hrun⟩
  · exact .inl hout
  have hstop : pastReturn s (place + 2) = stop := hstop
  have hle := hrun.le
  by_cases hlength : s.length ≤ stop
  · exact .inl (by rwa [hstop])
  obtain ⟨name, rfl⟩ := Nat.exists_eq_succ_of_ne_zero (show stop ≠ 0 by omega)
  obtain ⟨d, hd⟩ : ∃ d, s[name]? = some d :=
    ⟨_, Array.getElem?_eq_getElem (by rw [Text.length] at hlength; omega)⟩
  have hbehind : charBefore s (name + 1 : Nat) c = d := by
    rw [charBefore, if_pos (by omega), show ((name + 1 : Nat) : Int) - 1 = name by omega,
      Text.at?_natCast, hd]
    rfl
  rw [hstop, hbehind]
  refine Reached.next ⟨?_, fun hends => ?_⟩
  · obtain ⟨introduced, groups, hopen, hpassed⟩ := hreached.passed
    exact ⟨introduced, _, hopen, hpassed.returns hsign hrun⟩
  · have := hreached.le
    exact Follows.of_last (by omega) hd hends

/-- A plain character is passed over, and is what stands behind the next place. -/
theorem Reached.plain (hreached : Reached s shapes start place inInitializer behind)
    {c : Char} (hc : s[place]? = some c) (hplain : isPlain c = true) :
    Reached s shapes start (place + 1) inInitializer c := by
  refine ⟨?_, Follows.of_last hreached.le hc⟩
  obtain ⟨introduced, groups, hopen, hpassed⟩ := hreached.passed
  exact ⟨introduced, groups, hopen, hpassed.plain (Text.holdsAt_eq_true_iff.2 ⟨c, hc, hplain⟩)⟩

theorem Reached.scope (hreached : Reached s shapes start place inInitializer behind)
    (hsign : s.occursAt [':', ':'] place = true) :
    Reached s shapes start (place + 2) inInitializer ':' := by
  refine ⟨?_, fun hends => absurd hends (by decide)⟩
  obtain ⟨introduced, groups, hopen, hpassed⟩ := hreached.passed
  exact ⟨introduced, groups, hopen, hpassed.scope hsign⟩

/-- A single colon opens the members' values. -/
theorem Reached.colon (hreached : Reached s shapes start place inInitializer behind)
    (hsign : s[place]? = some ':') (hsingle : s.occursAt [':', ':'] place = false) :
    Reached s shapes start (place + 1) true ':' := by
  refine ⟨?_, fun hends => absurd hends (by decide)⟩
  obtain ⟨introduced, groups, hopen, hpassed⟩ := hreached.passed
  exact ⟨true, groups, fun _ => rfl, hpassed.colon hsign hsingle⟩

/-- A scan that no longer takes braces for values knows no less. -/
theorem Reached.of_imp {open' : Bool}
    (hreached : Reached s shapes start place inInitializer behind)
    (hopen' : open' = true → inInitializer = true) :
    Reached s shapes start place open' behind := by
  refine ⟨?_, hreached.follows⟩
  obtain ⟨introduced, groups, hopen, hpassed⟩ := hreached.passed
  exact ⟨introduced, groups, fun h => hopen (hopen' h), hpassed⟩

/-- A word is passed over, and so are the arguments of a macro. -/
theorem stepWord_reaches {p : Progress}
    (hreached : Reached s shapes start place p.inInitializer p.last) {c : Char}
    (hc : s[place]? = some c) (hword : isWordChar c = true) :
    (stepWord s p place).Reaches s shapes start := by
  obtain ⟨stop, hstop, -, hrun⟩ := Text.exists_skipWhile_eq s isWordChar place
  have hlt : place < stop := by
    have := Text.lt_skipWhile (by omega) (Text.holdsAt_eq_true_iff.2 ⟨c, hc, hword⟩)
    omega
  obtain ⟨name, rfl⟩ := Nat.exists_eq_succ_of_ne_zero (show stop ≠ 0 by omega)
  obtain ⟨d, hd, hname⟩ := Text.holdsAt_eq_true_iff.1 (hrun name (by omega) (by omega))
  have hstart := hreached.le
  have hreached_name : Reached s shapes start (name + 1) p.inInitializer d := by
    refine ⟨?_, Follows.of_last (by omega) hd⟩
    obtain ⟨introduced, groups, hopen, hpassed⟩ := hreached.passed
    exact ⟨introduced, groups, hopen,
      hpassed.run (fun _ => isPlain_of_isWordChar) (by omega) hrun⟩
  have hbehind : s.at? ((name + 1 : Nat) - 1 : Int) = some d := by
    rw [show ((name + 1 : Nat) : Int) - 1 = name by omega, Text.at?_natCast, hd]
  rw [stepWord, hstop]
  -- A constraint clause closes the list of members; any other word leaves it as it is.
  have hclosed {word : List Char} : Reached s shapes start (name + 1)
      (p.inInitializer && !constraintWords.contains (String.ofList word)) d :=
    hreached_name.of_imp fun h => (Bool.and_eq_true_iff.1 h).1
  apply Step.Reaches.ite
  · intro _
    obtain ⟨call, hcall, -, hreached_call⟩ := hclosed.blanks
    rw [hcall]
    exact hreached_call.parentheses
  · intro _
    rw [hbehind]
    exact hclosed.next

/-- Whatever a step takes is a piece of the grammar. -/
theorem Takes.reaches {p : Progress} {c : Char} {step : Step}
    (htakes : Takes s shapes p place c step)
    (hreached : Reached s shapes start place p.inInitializer p.last)
    (hc : s[place]? = some c) : step.Reaches s shapes start := by
  have hlt : place < s.size := (Array.getElem?_eq_some_iff.1 hc).1
  have hpair {pattern : List Char} (hsign : s.startsWithAt pattern place = true) :
      s.occursAt pattern place = true := by
    rwa [Text.startsWithAt_natCast hlt] at hsign
  cases htakes with
  | refused | body => trivial
  | value hinside hallowed hbehind hclose =>
      obtain ⟨introduced, groups, hopen, hpassed⟩ := hreached.passed
      obtain ⟨last, rfl, -⟩ := exists_matching (by decide) hclose
      obtain rfl := hopen hinside
      exact Reached.next ⟨⟨true, _, fun _ => rfl,
        hpassed.value hallowed (hreached.follows hbehind) hclose⟩,
        fun hends => absurd hends (by decide)⟩
  | scope hsign => exact (hreached.scope (hpair hsign)).next
  | colon hsign hsingle =>
      rw [Text.startsWithAt_natCast hlt, Bool.not_eq_true] at hsingle
      exact (hreached.colon (hsign ▸ hc) hsingle).next
  | returns hsign => exact hreached.returns (hpair hsign)
  | attributes hsign => exact hreached.attributes (hpair hsign)
  | brackets => exact hreached.brackets
  | word hsign => exact stepWord_reaches hreached hc hsign
  | arguments hsign => exact hreached.arguments (hsign ▸ hc)
  | parentheses => exact hreached.parentheses
  | passing hsign => exact (hreached.plain hc (by simp [isPlain, hsign])).next

/-- A run that leads to a body has passed over decorations alone: a group that does not
close takes it behind its limit. -/
theorem skipWithin_passed {limit body : Int} (hlimit : limit ≤ s.length) {count : Nat}
    {p : Progress} (hp : (Step.next p).Reaches s shapes start)
    (hskip : skipWithin s shapes limit count p = some body) :
    ∃ (stop : Nat) (introduced : Bool) (groups : List (Nat × Nat)),
      body = stop ∧ Passed s shapes start introduced groups stop := by
  induction count generalizing p with
  | zero => simp [skipWithin] at hskip
  | succ count ih =>
      rw [skipWithin] at hskip
      split at hskip
      · simp at hskip
      rename_i hbefore
      rcases hp with hout | ⟨place, hplace, hreached⟩
      · have := Text.le_pastBlanks s p.offset
        omega
      obtain ⟨next, hnext, -, hreached⟩ := hreached.blanks
      rw [hplace, hnext, Text.at?_natCast] at hskip
      split at hskip
      · simp at hskip
      rename_i c hc
      have hat : s.at? next = some c := (Text.at?_natCast s next).trans hc
      have htakes : Takes s shapes p next c (stepAt s shapes p next c) := takes_stepAt p hat
      have hstep := htakes.reaches hreached hc
      have hsound := htakes.sound (by omega) hat
      split at hskip
      · rename_i offset hbody
        rw [hbody] at hsound
        obtain rfl : offset = body := by simpa using hskip
        obtain ⟨introduced, groups, -, hpassed⟩ := hreached.passed
        exact ⟨next, introduced, groups, hsound.1, hpassed⟩
      · simp at hskip
      · rename_i progress hprogress
        rw [hprogress] at hstep
        exact ih hstep hskip

/-- The body that is found stands before the limit, behind decorations alone, so that
no barrier outside their groups has been crossed. -/
theorem pieces_before_body {stop : Int}
    (hskip : skip s shapes start = .ok (some stop)) :
    ∃ (body : Nat) (introduced : Bool) (groups : List (Nat × Nat)),
      stop = body ∧ start ≤ body ∧ body < min s.size (start + 4096) ∧
      BodyAt s shapes body ∧ Passed s shapes start introduced groups body ∧
      ∀ place, start ≤ place → place < body → s.holdsAt isBarrier place = true →
        ∃ group ∈ groups, group.1 ≤ place ∧ place ≤ group.2 := by
  rw [skip, Text.checkScan_of_nonneg (by omega), OutOfRange.ok_bind] at hskip
  have hrun := Except.ok.inj hskip
  have hstart : (Step.next ⟨start, false, ')'⟩).Reaches s shapes start :=
    Reached.next ⟨⟨false, [], id, .start⟩, fun hends => absurd hends (by decide)⟩
  obtain ⟨hle, hlt, hopens⟩ := skipWithin_sound (by simp) hrun
  obtain ⟨body, introduced, groups, rfl, hpassed⟩ :=
    skipWithin_passed (min_le_left _ _) hstart hrun
  refine ⟨body, introduced, groups, rfl, hpassed.le, ?_, hopens, hpassed, hpassed.covered⟩
  rw [Text.length, maxLength] at hlt
  omega

/-- Two members with their values, in braces and in parentheses, and the body. -/
def memberValues : Text :=
  " : a\x7b1\x7d, b(2)\n\x7b".toList.toArray

/-- The body of a constructor is the brace behind its members' values. -/
theorem pieces_before_body_members :
    skip memberValues ⟨false, true⟩ (0 : Nat) = .ok (some 14) ∧
      memberValues[14]? = some '\x7b' ∧
      ∃ (introduced : Bool) (groups : List (Nat × Nat)),
        Passed memberValues ⟨false, true⟩ 0 introduced groups 14 ∧
        ∃ group ∈ groups, group.1 ≤ 6 ∧ 6 ≤ group.2 := by
  have hskip : skip memberValues ⟨false, true⟩ (0 : Nat) = .ok (some 14) := by
    decide +kernel
  obtain ⟨body, introduced, groups, hbody, -, -, -, hpassed, hcovered⟩ :=
    pieces_before_body hskip
  obtain rfl : 14 = body := by exact_mod_cast hbody
  exact ⟨hskip, by decide, introduced, groups, hpassed,
    hcovered 6 (by decide) (by decide) (by decide)⟩

end Decoration

end FrameLens
