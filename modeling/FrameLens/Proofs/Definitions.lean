import FrameLens.Code.Definition
import FrameLens.Proofs.Decorations
import FrameLens.Proofs.Layout
import FrameLens.Proofs.Occurrences

/-!
# Definitions found by name

The occurrences of a name are tried in a fixed order, and the first definition
that is taken wins.  A definition is taken if its lines cover the target line, or
if it comes close: a body in braces by the distance of the name, an arrow member
by a line.
-/

namespace FrameLens.Definition

open FrameLens.Occurrence (WholeAt)

variable {v : View} {name : List Char} {hit : Nat} {target : Int} {settings : Settings}
  {span : Span}

/-! ## From the name to the body -/

/-- The offset after blanks and an argument list in angle brackets. -/
def pastArguments (s : Text) (i : Int) : Except OutOfRange (Option Int) := do
  let i ← s.skipBlanks i
  if s.at? i = some '<' then
    match ← s.matchingAngle i with
    | none => return none
    | some close => return some (← s.skipBlanks (close + 1))
  else return some i

/-- The search for the end of an argument list never fails and moves to the right. -/
theorem pastArguments_ok (s : Text) {i : Int} (hi : 0 ≤ i) :
    ∃ found, pastArguments s i = .ok found ∧ ∀ place ∈ found, i ≤ place := by
  have hle := Text.le_pastBlanks s i
  rw [pastArguments, Text.skipBlanks_of_nonneg hi, OutOfRange.ok_bind]
  split
  · rw [Text.matchingAngle_of_nonneg (by omega), OutOfRange.ok_bind]
    split
    · exact ⟨none, rfl, by simp⟩
    · rename_i close hclose
      obtain ⟨hclose_ge, -⟩ := Text.angleClose?_bounds (by omega) hclose
      have hrest := Text.le_pastBlanks s (close + 1)
      rw [Text.skipBlanks_of_nonneg (by omega)]
      refine ⟨some (s.pastBlanks (close + 1)), rfl, ?_⟩
      intro place hplace
      obtain rfl : s.pastBlanks (close + 1) = place := by simpa using hplace
      omega
  · refine ⟨some (s.pastBlanks i), rfl, ?_⟩
    intro place hplace
    obtain rfl : s.pastBlanks i = place := by simpa using hplace
    exact hle

/-- The search for the parameters never fails and moves to the right. -/
theorem parameters?_ok (s : Text) (name : List Char) (hit : Nat) :
    ∃ found, parameters? s name hit = .ok found ∧
      ∀ place ∈ found, (hit : Int) + name.length ≤ place := by
  rw [parameters?]
  split
  · obtain ⟨next, hnext, hle⟩ := Decoration.skipOperator_ok (s := s)
      (i := (hit : Int) + name.length) (by omega)
    obtain ⟨found, hfound, hplace⟩ := pastArguments_ok s (i := next) (by omega)
    rw [hnext, OutOfRange.ok_bind]
    exact ⟨found, hfound, fun place hmem => le_trans hle (hplace place hmem)⟩
  · exact pastArguments_ok s (i := (hit : Int) + name.length) (by omega)

/-- The shapes of definition that a dialect has. -/
def shapesOf (dialect : Dialect) : Decoration.Shapes where
  arrows := dialect.arrowBodies
  braceInitializers := dialect.braceInitializers

/-- Whether a body follows a name can always be told, and the body comes after it. -/
theorem body?_ok (v : View) (name : List Char) (hit : Nat) :
    ∃ found, body? v name hit = .ok found ∧
      ∀ body ∈ found, (hit : Int) + name.length < body ∧ body < v.cleaned.length ∧
        Decoration.BodyAt v.cleaned (shapesOf v.dialect) body := by
  obtain ⟨parameters, hparameters, hle⟩ := parameters?_ok v.cleaned name hit
  rw [body?, hparameters, OutOfRange.ok_bind]
  split
  · exact ⟨none, rfl, by simp⟩
  rename_i place
  have hplace := hle place rfl
  split
  · exact ⟨none, rfl, by simp⟩
  rename_i close hclose
  have hclose_ge := Text.le_of_matching? (by decide) hclose
  have hnonneg : 0 ≤ close + 1 := by omega
  obtain ⟨found, hfound, hbody⟩ := Decoration.skip_ok v.cleaned (shapesOf v.dialect) hnonneg
  refine ⟨found, hfound, ?_⟩
  intro body hmem
  obtain ⟨hbody_ge, hrest⟩ := hbody body hmem
  exact ⟨by omega, hrest⟩

/-- The body of a definition stands behind its name and inside the text. -/
theorem body?_sound {body : Int} (hbody : body? v name hit = .ok (some body)) :
    (hit : Int) + name.length < body ∧ body < v.cleaned.length ∧
      Decoration.BodyAt v.cleaned (shapesOf v.dialect) body := by
  obtain ⟨found, hfound, hsound⟩ := body?_ok v name hit
  rw [hbody] at hfound
  cases hfound
  exact hsound body rfl

/-! ## Definitions and their spans -/

/-- The name at `hit` heads a definition with a body in braces, which `span` shows
through its closing brace. -/
def Braced (v : View) (name : List Char) (settings : Settings) (hit : Nat)
    (span : Span) : Prop :=
  ∃ brace close, body? v name hit = .ok (some brace) ∧
    v.cleaned.at? brace = some '\x7b' ∧ v.cleaned.matchingBrace? brace = some close ∧
    spanTo v hit (close + 1) settings = .ok span

/-- The name at `hit` heads a definition with an arrow for a body, which `span` shows
through the next semicolon. -/
def Arrowed (v : View) (name : List Char) (settings : Settings) (hit : Nat)
    (span : Span) : Prop :=
  ∃ arrow stop, body? v name hit = .ok (some arrow) ∧
    v.cleaned.startsWithAt ['=', '>'] arrow = true ∧
    v.cleaned.findFrom? [';'] (arrow + 2) = some stop ∧
    spanTo v hit (stop + 1) settings = .ok span

/-- The body in braces is taken for a target that its lines cover or whose distance
from the name is small. -/
def TakesBraced (v : View) (name : List Char) (target : Int) (settings : Settings)
    (hit : Nat) (span : Span) : Prop :=
  Braced v name settings hit span ∧
    (span.covers (v.lineOf target) = true ∨ ((target - hit).natAbs : Int) < settings.nearMiss)

/-- The arrow member is taken for a target within a line of it. -/
def TakesArrowed (v : View) (name : List Char) (target : Int) (settings : Settings)
    (hit : Nat) (span : Span) : Prop :=
  Arrowed v name settings hit span ∧ span.firstLine - 1 ≤ v.lineOf target ∧
    v.lineOf target ≤ span.lastLine + 1

/-- The definition whose name is at `hit` is taken for the target. -/
def Takes (v : View) (name : List Char) (target : Int) (settings : Settings)
    (hit : Nat) (span : Span) : Prop :=
  TakesBraced v name target settings hit span ∨ TakesArrowed v name target settings hit span

/-- A name without a body behind it is no definition. -/
theorem not_takes_of_no_body (hbody : body? v name hit = .ok none) :
    ¬Takes v name target settings hit span := by
  simp [Takes, TakesBraced, TakesArrowed, Braced, Arrowed, hbody]

/-- A span begins where a line does, no later than the name. -/
theorem spanTo_ok (v : View) (hit : Nat) (stop : Int) (settings : Settings) :
    ∃ entry : Nat, entry ∈ v.starts ∧ (entry : Int) ≤ hit ∧
      spanTo v hit stop settings = .ok (Span.ofOffsets v entry stop .named) := by
  obtain ⟨entry, hentry, hstart, hle⟩ :=
    Signature.start_spec v (Int.natCast_nonneg hit) settings.headerMaxLines
  refine ⟨entry, hentry, hle, ?_⟩
  rw [spanTo, hstart]
  rfl

theorem not_startsWithAt_of_brace {s : Text} {place : Int} (hplace : 0 ≤ place)
    (hbrace : s.at? place = some '\x7b') : s.startsWithAt ['=', '>'] place = false := by
  by_contra harrow
  rw [Text.at?_of_startsWithAt hplace (by simpa using harrow)] at hbrace
  cases hbrace

/-- The span shows a name, from the start of a line at it or above it through the
character `c` after it. -/
def ShowsThrough (v : View) (hit : Nat) (c : Char) (span : Span) : Prop :=
  ∃ (entry : Nat) (last : Int), entry ∈ v.starts ∧ (entry : Int) ≤ hit ∧
    (hit : Int) < last ∧ v.cleaned.at? last = some c ∧
    span = Span.ofOffsets v entry (last + 1) .named

/-- A span to a sign shows the text from a line up to that sign. -/
theorem showsThrough_of_spanTo {last : Int} {c : Char} (hlt : (hit : Int) < last)
    (hc : v.cleaned.at? last = some c)
    (hspan : spanTo v hit (last + 1) settings = .ok span) : ShowsThrough v hit c span := by
  obtain ⟨entry, hentry, hle, hok⟩ := spanTo_ok v hit (last + 1) settings
  rw [hok] at hspan
  cases hspan
  exact ⟨entry, last, hentry, hle, hlt, hc, rfl⟩

theorem Braced.showsThrough (hbraced : Braced v name settings hit span) :
    ShowsThrough v hit '\x7d' span := by
  obtain ⟨brace, close, hbody, -, hclose, hspan⟩ := hbraced
  obtain ⟨hlt, -, -⟩ := body?_sound hbody
  obtain ⟨-, hlt_close, -, -, hc⟩ := Nesting.matching?_sound (by decide) hclose
  exact showsThrough_of_spanTo (by omega) hc hspan

/-- Only a dialect with arrow members has them. -/
theorem Arrowed.showsThrough (harrowed : Arrowed v name settings hit span) :
    v.dialect.arrowBodies = true ∧ ShowsThrough v hit ';' span := by
  obtain ⟨arrow, stop, hbody, harrow, hstop, hspan⟩ := harrowed
  obtain ⟨hlt, -, hopens⟩ := body?_sound hbody
  obtain ⟨hle, -, hc, -⟩ := Text.findFrom?_eq_some (by omega) hstop
  refine ⟨?_, showsThrough_of_spanTo (by omega) hc hspan⟩
  rcases hopens with hbrace | ⟨harrows, -⟩
  · rw [not_startsWithAt_of_brace (by omega) hbrace] at harrow
    cases harrow
  · exact harrows

/-- A definition in braces is taken if it closes and is on or near the target. -/
theorem takes_iff_of_brace {brace : Int} (hbody : body? v name hit = .ok (some brace))
    (hplace : 0 ≤ brace) (hbrace : v.cleaned.at? brace = some '\x7b') :
    Takes v name target settings hit span ↔
      ∃ close, v.cleaned.matchingBrace? brace = some close ∧
        spanTo v hit (close + 1) settings = .ok span ∧
        (span.covers (v.lineOf target) = true ∨
          ((target - hit).natAbs : Int) < settings.nearMiss) := by
  constructor
  · rintro (⟨⟨brace', close, hbody', -, hclose, hspan⟩, htaken⟩ | ⟨⟨arrow, stop, hrest⟩, -⟩)
    · obtain rfl : brace = brace' := by simpa [hbody] using hbody'
      exact ⟨close, hclose, hspan, htaken⟩
    · obtain ⟨hbody', harrow, -⟩ := hrest
      obtain rfl : brace = arrow := by simpa [hbody] using hbody'
      rw [not_startsWithAt_of_brace hplace hbrace] at harrow
      cases harrow
  · rintro ⟨close, hclose, hspan, htaken⟩
    exact .inl ⟨⟨brace, close, hbody, hbrace, hclose, hspan⟩, htaken⟩

/-- A definition with an arrow is taken if it ends and is on or next to the target's
line. -/
theorem takes_iff_of_arrow {arrow : Int} (hbody : body? v name hit = .ok (some arrow))
    (hplace : 0 ≤ arrow) (harrow : v.cleaned.startsWithAt ['=', '>'] arrow = true) :
    Takes v name target settings hit span ↔
      ∃ stop, v.cleaned.findFrom? [';'] (arrow + 2) = some stop ∧
        spanTo v hit (stop + 1) settings = .ok span ∧
        span.firstLine - 1 ≤ v.lineOf target ∧ v.lineOf target ≤ span.lastLine + 1 := by
  constructor
  · rintro (⟨⟨brace, close, hrest⟩, -⟩ | ⟨⟨arrow', stop, hbody', -, hstop, hspan⟩, htaken⟩)
    · obtain ⟨hbody', hbrace, -⟩ := hrest
      obtain rfl : arrow = brace := by simpa [hbody] using hbody'
      rw [not_startsWithAt_of_brace hplace hbrace] at harrow
      cases harrow
    · obtain rfl : arrow = arrow' := by simpa [hbody] using hbody'
      exact ⟨stop, hstop, hspan, htaken⟩
  · rintro ⟨stop, hstop, hspan, htaken⟩
    exact .inr ⟨⟨arrow, stop, hbody, harrow, hstop, hspan⟩, htaken⟩

theorem at?_of_brace {brace : Int} (hbody : body? v name hit = .ok (some brace))
    (hplace : 0 ≤ brace) (hbrace : v.cleaned.at? brace = some '\x7b') :
    ∃ found, at? v name hit target settings = .ok found ∧
      ∀ span, found = some span ↔ Takes v name target settings hit span := by
  simp only [takes_iff_of_brace hbody hplace hbrace]
  rw [at?, hbody, OutOfRange.ok_bind]
  dsimp only
  rw [not_startsWithAt_of_brace hplace hbrace, if_neg (by decide)]
  cases hclose : v.cleaned.matchingBrace? brace with
  | none => exact ⟨none, rfl, by simp⟩
  | some close =>
      obtain ⟨entry, -, -, hspan⟩ := spanTo_ok v hit (close + 1) settings
      dsimp only
      rw [hspan, OutOfRange.ok_bind]
      simp only [Option.some.injEq, exists_eq_left', hspan, Except.ok.injEq]
      by_cases hcovers : (Span.ofOffsets v entry (close + 1) .named).covers
          (v.lineOf target) = true
      · rw [if_pos hcovers]
        refine ⟨_, rfl, ?_⟩
        intro span
        constructor
        · rintro ⟨rfl⟩
          exact ⟨rfl, .inl hcovers⟩
        · rintro ⟨rfl, -⟩
          rfl
      · rw [if_neg hcovers]
        refine ⟨_, rfl, ?_⟩
        intro span
        rw [Option.ite_none_right_eq_some, Option.some.injEq]
        constructor
        · rintro ⟨hnear, rfl⟩
          exact ⟨rfl, .inr hnear⟩
        · rintro ⟨rfl, htaken⟩
          exact ⟨htaken.resolve_left hcovers, rfl⟩

theorem at?_of_arrow {arrow : Int} (hbody : body? v name hit = .ok (some arrow))
    (hplace : 0 ≤ arrow) (harrow : v.cleaned.startsWithAt ['=', '>'] arrow = true) :
    ∃ found, at? v name hit target settings = .ok found ∧
      ∀ span, found = some span ↔ Takes v name target settings hit span := by
  simp only [takes_iff_of_arrow hbody hplace harrow]
  rw [at?, hbody, OutOfRange.ok_bind]
  dsimp only
  rw [if_pos harrow]
  cases hstop : v.cleaned.findFrom? [';'] (arrow + 2) with
  | none => exact ⟨none, rfl, by simp⟩
  | some stop =>
      obtain ⟨entry, -, -, hspan⟩ := spanTo_ok v hit (stop + 1) settings
      dsimp only
      rw [hspan, OutOfRange.ok_bind]
      refine ⟨_, rfl, ?_⟩
      intro span
      simp only [Option.ite_none_right_eq_some, Option.some.injEq, exists_eq_left',
        hspan, Except.ok.injEq]
      constructor
      · rintro ⟨htaken, rfl⟩
        exact ⟨rfl, htaken⟩
      · rintro ⟨rfl, htaken⟩
        exact ⟨htaken, rfl⟩

/-- Trying an occurrence never fails, and shows exactly the definition that is taken. -/
theorem at?_ok (v : View) (name : List Char) (target : Int) (settings : Settings)
    (hit : Nat) :
    ∃ found, at? v name hit target settings = .ok found ∧
      ∀ span, found = some span ↔ Takes v name target settings hit span := by
  obtain ⟨body, hbody, hsound⟩ := body?_ok v name hit
  cases body with
  | none =>
      refine ⟨none, ?_, fun span => ?_⟩
      · rw [at?, hbody]
        rfl
      · simp [not_takes_of_no_body hbody]
  | some place =>
      obtain ⟨hplace, -, hbrace | ⟨-, harrow⟩⟩ := hsound place rfl
      · exact at?_of_brace hbody (by omega) hbrace
      · exact at?_of_arrow hbody (by omega) harrow

/-! ## The search -/

/-- No definition among `hits` is taken. -/
def NoneTaken (v : View) (name : List Char) (target : Int) (settings : Settings)
    (hits : List Nat) : Prop :=
  ∀ hit ∈ hits, WholeAt v.cleaned name hit →
    ∀ span, ¬Takes v name target settings hit span

theorem noneTaken_nil : NoneTaken v name target settings [] :=
  fun _ hmem => by cases hmem

/-- The first definition among `hits` that is taken, with the occurrences passed over
before it and those left after it. -/
structure FirstTaken (v : View) (name : List Char) (target : Int) (settings : Settings)
    (hits earlier : List Nat) (first : Nat) (later : List Nat) (span : Span) : Prop where
  hits_eq : hits = earlier ++ first :: later
  passed : NoneTaken v name target settings earlier
  whole : WholeAt v.cleaned name first
  takes : Takes v name target settings first span

/-- What a search through `hits` has to come to. -/
def Answers (v : View) (name : List Char) (target : Int) (settings : Settings)
    (hits : List Nat) : Option (Nat × Span) → Prop
  | none => NoneTaken v name target settings hits
  | some (first, span) =>
      ∃ earlier later, FirstTaken v name target settings hits earlier first later span

theorem Answers.cons {hits : List Nat} {found : Option (Nat × Span)}
    (hno : WholeAt v.cleaned name hit → ∀ span, ¬Takes v name target settings hit span)
    (hanswers : Answers v name target settings hits found) :
    Answers v name target settings (hit :: hits) found := by
  cases found with
  | none => exact List.forall_mem_cons.2 ⟨hno, hanswers⟩
  | some found =>
      obtain ⟨earlier, later, hfirst⟩ := hanswers
      exact ⟨hit :: earlier, later, by rw [hfirst.hits_eq]; rfl,
        List.forall_mem_cons.2 ⟨hno, hfirst.passed⟩, hfirst.whole, hfirst.takes⟩

/-- Trying occurrences never fails and finds the first one that is taken. -/
theorem tryHits_ok (v : View) (name : List Char) (target : Int) (settings : Settings)
    {hits : List Nat} (tried : Nat)
    (hhits : ∀ hit ∈ hits, name ≠ [] ∧ Text.occursAt v.cleaned name hit = true) :
    ∃ search, tryHits v name target settings tried hits = .ok search ∧
      Answers v name target settings hits search.found := by
  induction hits generalizing tried with
  | nil => exact ⟨⟨tried, none⟩, rfl, noneTaken_nil⟩
  | cons hit hits ih =>
      obtain ⟨⟨hname, hoccurs⟩, hrest⟩ := List.forall_mem_cons.1 hhits
      obtain ⟨whole, hwhole, hwhole_iff⟩ := Occurrence.isWhole_ok hname hoccurs
      rw [tryHits, hwhole, OutOfRange.ok_bind]
      cases whole with
      | false =>
          obtain ⟨search, hsearch, hanswers⟩ := ih tried hrest
          exact ⟨search, hsearch,
            hanswers.cons fun h => absurd (hwhole_iff.2 h) (by decide)⟩
      | true =>
          obtain ⟨found, hat, hfound_iff⟩ := at?_ok v name target settings hit
          rw [if_neg (by decide), hat, OutOfRange.ok_bind]
          cases found with
          | none =>
              obtain ⟨search, hsearch, hanswers⟩ := ih (tried + 1) hrest
              refine ⟨search, hsearch, hanswers.cons fun _ span htakes => ?_⟩
              cases (hfound_iff span).2 htakes
          | some span =>
              exact ⟨_, rfl, [], hits, rfl, noneTaken_nil, hwhole_iff.1 rfl,
                (hfound_iff span).1 rfl⟩

/-- The occurrences that are tried, in their order. -/
def candidates (v : View) (name : String) (target : Int) (settings : Settings) : List Nat :=
  Occurrence.near v.cleaned (Text.trim name.toList) target settings.anchorWindow
    settings.candidateCutoff

/-- The search never fails, and finds the first definition that is taken if there is
one. -/
theorem locate_ok (v : View) (name : String) (target : Int) (settings : Settings) :
    ∃ found, locate v name target settings = .ok (found.map Prod.snd) ∧
      Answers v (Text.trim name.toList) target settings
        (candidates v name target settings) found := by
  rw [locate, search?]
  by_cases hempty : ((Text.trim name.toList).isEmpty || v.cleaned.isEmpty) = true
  · refine ⟨none, by rw [if_pos hempty]; rfl, ?_⟩
    rw [candidates, Occurrence.near, if_pos hempty]
    exact noneTaken_nil
  · have hoccur : ∀ hit ∈ candidates v name target settings,
        Text.trim name.toList ≠ [] ∧
          Text.occursAt v.cleaned (Text.trim name.toList) hit = true := by
      intro hit hmem
      obtain ⟨hname, hoccurs, -⟩ := Occurrence.mem_near hmem
      exact ⟨hname, hoccurs⟩
    obtain ⟨⟨tried, found⟩, hsearch, hanswers⟩ :=
      tryHits_ok v (Text.trim name.toList) target settings 0 hoccur
    refine ⟨found, ?_, hanswers⟩
    rw [if_neg hempty, searchTrimmed, ← candidates, hsearch]
    cases found <;> rfl

/-- What is found by name is an occurrence of the name as a whole word that is taken. -/
theorem exists_takes_of_locate {name : String}
    (hname : locate v name target settings = .ok (some span)) :
    ∃ hit ∈ candidates v name target settings,
      WholeAt v.cleaned (Text.trim name.toList) hit ∧
        Takes v (Text.trim name.toList) target settings hit span := by
  obtain ⟨found, hlocate, hanswers⟩ := locate_ok v name target settings
  rw [hname, Except.ok.injEq] at hlocate
  obtain ⟨⟨first, span'⟩, rfl, rfl⟩ := Option.map_eq_some_iff.1 hlocate.symm
  obtain ⟨earlier, later, hfirst⟩ := hanswers
  refine ⟨first, ?_, hfirst.whole, hfirst.takes⟩
  rw [hfirst.hits_eq]
  exact List.mem_append_right _ List.mem_cons_self

/-! ## Covering definitions -/

/-- An occurrence is shown in one way at most. -/
theorem Takes.unique {span span' : Span} (htakes : Takes v name target settings hit span)
    (htakes' : Takes v name target settings hit span') : span = span' := by
  obtain ⟨found, -, hfound_iff⟩ := at?_ok v name target settings hit
  have hfound := (hfound_iff span).2 htakes
  rw [(hfound_iff span').2 htakes', Option.some.injEq] at hfound
  exact hfound.symm

/-- The first definition that is taken is what the search has to come to. -/
theorem Answers.eq_some {hits earlier later : List Nat} {found : Option (Nat × Span)}
    (hanswers : Answers v name target settings hits found)
    (hfirst : FirstTaken v name target settings hits earlier hit later span) :
    found = some (hit, span) := by
  cases found with
  | none =>
      refine absurd hfirst.takes (hanswers hit ?_ hfirst.whole span)
      rw [hfirst.hits_eq]
      exact List.mem_append_right _ List.mem_cons_self
  | some found =>
      obtain ⟨other, span'⟩ := found
      obtain ⟨earlier', later', hother⟩ := hanswers
      have hsame (heq : hit = other) : some (other, span') = some (hit, span) := by
        subst heq
        rw [hother.takes.unique hfirst.takes]
      rcases List.append_eq_append_iff.1 (hfirst.hits_eq.symm.trans hother.hits_eq) with
        ⟨between, hearlier, hbetween⟩ | ⟨between, hearlier, hbetween⟩
      · cases between with
        | nil => exact hsame (List.cons.inj hbetween).1
        | cons _ between =>
            obtain ⟨rfl, -⟩ := List.cons.inj hbetween
            refine absurd hfirst.takes (hother.passed hit ?_ hfirst.whole span)
            rw [hearlier]
            exact List.mem_append_right _ List.mem_cons_self
      · cases between with
        | nil => exact hsame (List.cons.inj hbetween).1.symm
        | cons _ between =>
            obtain ⟨rfl, -⟩ := List.cons.inj hbetween
            refine absurd hother.takes (hfirst.passed other ?_ hother.whole span')
            rw [hearlier]
            exact List.mem_append_right _ List.mem_cons_self

/-- A definition is taken without covering the target's line only by the distance of
its name, or as an arrow member. -/
theorem Takes.of_not_covers (htakes : Takes v name target settings hit span)
    (hcovers : span.covers (v.lineOf target) = false) :
    (Braced v name settings hit span ∧ ((target - hit).natAbs : Int) < settings.nearMiss) ∨
      TakesArrowed v name target settings hit span := by
  rcases htakes with ⟨hbraced, htaken⟩ | harrowed
  · exact .inl ⟨hbraced, htaken.resolve_left (by simp [hcovers])⟩
  · exact .inr harrowed

/-- Where some occurrence heads a definition with a body in braces that covers the
target's line, a definition is found.  It covers that line too, unless an occurrence
that is tried before heads a definition that is taken for coming close. -/
theorem locate_of_covering (v : View) (name : String) (target : Int) (settings : Settings)
    (hit : Nat) (span : Span)
    (hhit : hit ∈ candidates v name target settings)
    (hwhole : WholeAt v.cleaned (Text.trim name.toList) hit)
    (hbraced : Braced v (Text.trim name.toList) settings hit span)
    (hcovers : span.covers (v.lineOf target) = true) :
    ∃ earlier first later found,
      FirstTaken v (Text.trim name.toList) target settings
        (candidates v name target settings) earlier first later found ∧
      hit ∈ first :: later ∧
      locate v name target settings = .ok (some found) ∧
      (found.covers (v.lineOf target) = true ∨ first ≠ hit ∧
        ((Braced v (Text.trim name.toList) settings first found ∧
            ((target - first).natAbs : Int) < settings.nearMiss) ∨
          TakesArrowed v (Text.trim name.toList) target settings first found)) := by
  have htakes : Takes v (Text.trim name.toList) target settings hit span :=
    .inl ⟨hbraced, .inl hcovers⟩
  obtain ⟨found, hlocate, hanswers⟩ := locate_ok v name target settings
  cases found with
  | none => exact absurd htakes (hanswers hit hhit hwhole span)
  | some found =>
      obtain ⟨earlier, later, hfirst⟩ := hanswers
      have hmem : hit ∈ found.1 :: later := by
        rw [hfirst.hits_eq] at hhit
        rcases List.mem_append.1 hhit with hearlier | hlater
        · exact absurd htakes (hfirst.passed hit hearlier hwhole span)
        · exact hlater
      refine ⟨earlier, found.1, later, found.2, hfirst, hmem, hlocate, ?_⟩
      by_cases hfound : found.2.covers (v.lineOf target) = true
      · exact .inl hfound
      · refine .inr ⟨?_, hfirst.takes.of_not_covers (by simpa using hfound)⟩
        rintro rfl
        rw [← htakes.unique hfirst.takes] at hfound
        exact hfound hcovers

/-- Two functions of one name on adjacent lines, with the names at 5 and 22. -/
def twoOverloads : View :=
  View.ofText [] Dialect.cpp "void f(int a) \x7b\x7d\nvoid f(double b) \x7b\x7d\n".toList

theorem twoOverloads_whole : WholeAt twoOverloads.cleaned (Text.trim "f".toList) 22 := by
  exact Occurrence.wholeAt_of_isWhole (by decide) (by decide) (by decide)

theorem twoOverloads_braced :
    Braced twoOverloads (Text.trim "f".toList) {} 22 ⟨17, 36, 2, 2, .named⟩ :=
  ⟨34, 35, by decide, by decide, by decide, by decide⟩

theorem locate_of_covering_second :
    ∃ first later found, 22 ∈ first :: later ∧
      locate twoOverloads "f" 17 {} = .ok (some found) := by
  obtain ⟨-, first, later, found, -, hmem, hlocate, -⟩ :=
    locate_of_covering twoOverloads "f" 17 {} 22 ⟨17, 36, 2, 2, .named⟩ (by decide)
      twoOverloads_whole twoOverloads_braced (by decide)
  exact ⟨first, later, found, hmem, hlocate⟩

/-- The second function covers the start of its line, and yet the first one is found
there, for its name is near and stands before the target. -/
theorem covering_overload_missed :
    ¬∀ (v : View) (name : String) (target : Int) (settings : Settings) (hit : Nat)
        (span : Span),
      hit ∈ candidates v name target settings →
      WholeAt v.cleaned (Text.trim name.toList) hit →
      Braced v (Text.trim name.toList) settings hit span →
      span.covers (v.lineOf target) = true →
      ∃ found, locate v name target settings = .ok (some found) ∧
        found.covers (v.lineOf target) = true := by
  intro hfound
  obtain ⟨found, hlocate, hcovers⟩ := hfound twoOverloads "f" 17 {} 22 ⟨17, 36, 2, 2, .named⟩
    (by decide) twoOverloads_whole twoOverloads_braced (by decide)
  have hfirst : locate twoOverloads "f" 17 {} = .ok (some ⟨0, 16, 1, 1, .named⟩) := by
    decide
  rw [hfirst] at hlocate
  cases hlocate
  revert hcovers
  decide

end FrameLens.Definition
