import FrameLens.Proofs.Headers
import FrameLens.Proofs.Layout
import FrameLens.Proofs.Nesting

/-!
# The innermost enclosing block

The search goes through the braces that are open at the target, innermost
first, and takes the first one with an accepted header.  It therefore finds the
innermost block around the target that has such a header, for every target but
one: a block is not among those open at its own closing brace.
-/

namespace FrameLens.Block

variable {v : View} {target : Int} {hint : List Char} {settings : Settings}

/-! ## One block -/

/-- The header of the block opened at a brace reads like a function or an
accessor. -/
def HasAcceptedHeader (v : View) (hint : List Char) (settings : Settings)
    (brace : Nat) : Prop :=
  ∃ header, Header.before v.cleaned brace settings.headerBacktrack
      settings.headerMaxLines v.dialect.braceInitializers = .ok header ∧
    Header.accepts header hint = true

/-- The block from `brace` to `close` reaches the target, and its header is
accepted. -/
structure Reaches (v : View) (target : Int) (hint : List Char) (settings : Settings)
    (brace : Nat) (close : Int) : Prop where
  closes : v.cleaned.matchingBrace? brace = some close
  le : target ≤ close
  accepted : HasAcceptedHeader v hint settings brace

/-- What is shown of a block: from the start of a line at its brace or above it
through its closing brace. -/
structure Shows (v : View) (brace : Nat) (close : Int) (span : Span) : Prop where
  start_mem : ∃ entry : Nat, entry ∈ v.starts ∧ span.start = entry
  start_le : span.start ≤ brace
  eq_ofOffsets : span = Span.ofOffsets v span.start (close + 1) .enclosing

/-- A block is found if and only if it reaches the target, and is shown through its
close. -/
theorem at?_spec (v : View) (target : Int) (hint : List Char) (settings : Settings)
    {brace : Nat} (hbrace : brace < v.cleaned.size) :
    (at? v brace target hint settings = .ok none ∧
        ∀ close, ¬Reaches v target hint settings brace close) ∨
      ∃ close span, at? v brace target hint settings = .ok (some span) ∧
        Reaches v target hint settings brace close ∧ Shows v brace close span := by
  have hle : (brace : Int) ≤ v.cleaned.length := by
    rw [Text.length]
    omega
  rw [at?]
  cases hclose : v.cleaned.matchingBrace? brace with
  | none =>
      refine .inl ⟨rfl, fun close hreaches => ?_⟩
      rw [hreaches.closes] at hclose
      simp at hclose
  | some close =>
      have hunique {close' : Int} (h : Reaches v target hint settings brace close') :
          close' = close := by
        simpa [hclose] using h.closes.symm
      dsimp only
      by_cases hshort : close < target
      · rw [if_pos hshort]
        refine .inl ⟨rfl, fun close' hreaches => ?_⟩
        have := hreaches.le
        have := hunique hreaches
        omega
      obtain ⟨header, hheader⟩ := Header.before_ok hle settings.headerBacktrack
        settings.headerMaxLines v.dialect.braceInitializers
      rw [if_neg hshort, hheader, OutOfRange.ok_bind]
      by_cases haccepts : Header.accepts header hint = true
      · obtain ⟨place, hplace, hnonneg, hplace_le⟩ :=
          Header.anchor_ok (s := v.cleaned) (by omega) hle
        obtain ⟨entry, hentry, hstart, hentry_le⟩ :=
          Signature.start_spec v hnonneg settings.headerMaxLines
        rw [if_pos haccepts, hplace, OutOfRange.ok_bind, hstart, OutOfRange.ok_bind]
        exact .inr ⟨close, _, rfl, ⟨hclose, by omega, header, hheader, haccepts⟩,
          ⟨entry, hentry, rfl⟩, le_trans hentry_le hplace_le, rfl⟩
      · rw [if_neg haccepts]
        refine .inl ⟨rfl, fun close' hreaches => ?_⟩
        obtain ⟨header', hheader', haccepts'⟩ := hreaches.accepted
        rw [hheader] at hheader'
        cases hheader'
        exact haccepts haccepts'

/-! ## The search through open braces -/

/-- The search stops at the first brace whose block is accepted. -/
theorem firstAccepted_spec (v : View) (target : Int) (hint : List Char)
    (settings : Settings) {braces : List Nat}
    (hbraces : ∀ brace ∈ braces, brace < v.cleaned.size) :
    (firstAccepted v target hint settings braces = .ok .nothing ∧
        ∀ brace ∈ braces, ∀ close, ¬Reaches v target hint settings brace close) ∨
      ∃ inner brace outer close span, braces = inner ++ brace :: outer ∧
        (∀ other ∈ inner, ∀ close, ¬Reaches v target hint settings other close) ∧
        Reaches v target hint settings brace close ∧ Shows v brace close span ∧
        firstAccepted v target hint settings braces = .ok (.block brace span) := by
  induction braces with
  | nil => exact .inl ⟨rfl, by simp⟩
  | cons first braces ih =>
      obtain ⟨hfirst, hrest⟩ := List.forall_mem_cons.1 hbraces
      rw [firstAccepted]
      rcases at?_spec v target hint settings hfirst with
        ⟨hat, hno⟩ | ⟨close, span, hat, hreaches, hshows⟩
      · rw [hat, OutOfRange.ok_bind]
        rcases ih hrest with
          ⟨hnothing, hall⟩ | ⟨inner, brace, outer, close, span, heq, hinner, hfound⟩
        · exact .inl ⟨hnothing, List.forall_mem_cons.2 ⟨hno, hall⟩⟩
        · exact .inr ⟨first :: inner, brace, outer, close, span, by rw [heq]; rfl,
            List.forall_mem_cons.2 ⟨hno, hinner⟩, hfound⟩
      · rw [hat, OutOfRange.ok_bind]
        exact .inr ⟨[], first, braces, close, span, rfl, by simp, hreaches, hshows, rfl⟩

theorem lt_size_of_mem_openers {brace : Nat} (hbrace : brace ∈ openers v.cleaned target) :
    brace < v.cleaned.size :=
  (Array.getElem?_eq_some_iff.1 (Nesting.mem_openersWithin_iff.1 hbrace).openAt.opens).1

/-! ## Arrow members -/

/-- What is shown of an arrow member: from the start of a line at its arrow or
above it through the first semicolon after the arrow. -/
structure ShowsArrow (v : View) (arrow : Nat) (semicolon : Int) (span : Span) : Prop where
  arrow_occurs : Text.occursAt v.cleaned ['=', '>'] arrow = true
  start_mem : ∃ entry : Nat, entry ∈ v.starts ∧ span.start = entry
  start_le : span.start ≤ arrow
  semicolon_ge : (arrow : Int) + 2 ≤ semicolon
  semicolon_at : v.cleaned.at? semicolon = some ';'
  semicolon_first : ∀ j : Nat, (arrow : Int) + 2 ≤ j → (j : Int) < semicolon →
    v.cleaned[j]? ≠ some ';'
  eq_ofOffsets : span = Span.ofOffsets v span.start (semicolon + 1) .arrow

/-- The arrow member between two offsets. -/
def arrowBetween? (v : View) (settings : Settings) (first last : Int) :
    Except OutOfRange (Option Span) :=
  match v.cleaned.find? ['=', '>'] first last with
  | none => .ok none
  | some arrow =>
      match v.cleaned.findFrom? [';'] (arrow + 2) with
      | none => .ok none
      | some stop =>
          (Signature.start v arrow settings.headerMaxLines).map fun start =>
            some (Span.ofOffsets v start (stop + 1) .arrow)

/-- The line on which an arrow member is looked for ends where the next begins. -/
theorem arrowOn?_eq {line first : Int} (hfirst : v.start? line = some first) :
    arrowOn? v line settings = arrowBetween? v settings first
      ((v.start? (line + 1)).getD v.cleaned.length) := by
  obtain ⟨index, entry, rfl, rfl, hentry⟩ := View.start?_eq_some_iff.1 hfirst
  have hindex := (Array.getElem?_eq_some_iff.1 hentry).1
  rw [arrowOn?, View.startOf, hfirst]
  dsimp only
  by_cases hlast : (index : Int) + 1 < v.lineCount
  · have hfirst_le : 1 ≤ (index : Int) + 1 + 1 := by omega
    have hlast_le : (index : Int) + 1 + 1 ≤ v.lineCount := by omega
    obtain ⟨next, -, hnext⟩ := View.exists_start hfirst_le hlast_le
    rw [OutOfRange.ok_bind, if_pos hlast, View.startOf, hnext]
    rfl
  · have hnone : v.start? ((index : Int) + 1 + 1) = none := by
      rw [View.start?, if_pos (by omega), Array.getElem?_eq_none]
      · rfl
      · rw [View.lineCount] at hlast
        omega
    rw [OutOfRange.ok_bind, if_neg hlast, hnone]
    rfl

/-- An arrow that is found between two places is shown from there through its semicolon. -/
theorem arrowBetween?_sound {first last : Int} {span : Span} (hnonneg : 0 ≤ first)
    (hlast : 0 ≤ last)
    (hfound : arrowBetween? v settings first last = .ok (some span)) :
    ∃ (arrow : Nat) (semicolon : Int), first ≤ arrow ∧ (arrow : Int) < last ∧
      ShowsArrow v arrow semicolon span := by
  rw [arrowBetween?] at hfound
  cases harrow : v.cleaned.find? ['=', '>'] first last with
  | none => simp [harrow] at hfound
  | some arrow =>
      obtain ⟨hle, hend, -, hoccurs, -⟩ := Text.find?_eq_some (by simp) hnonneg hlast harrow
      obtain ⟨arrow, rfl⟩ := Int.eq_ofNat_of_zero_le (le_trans hnonneg hle)
      simp only [harrow] at hfound
      cases hstop : v.cleaned.findFrom? [';'] (arrow + 2) with
      | none => simp [hstop] at hfound
      | some semicolon =>
          simp only [hstop, OutOfRange.map_eq_ok_iff, Option.some.injEq] at hfound
          obtain ⟨start, hstart, hspan⟩ := hfound
          obtain ⟨entry, hentry, hok, hentry_le⟩ :=
            Signature.start_spec v (Int.natCast_nonneg arrow) settings.headerMaxLines
          obtain rfl : start = entry := by
            rw [hok] at hstart
            simpa using hstart.symm
          obtain ⟨hge, -, hat, hno⟩ := Text.findFrom?_eq_some (by omega) hstop
          have hstart_eq : span.start = (entry : Int) := by
            rw [← hspan]
            rfl
          refine ⟨arrow, semicolon, hle, ?_, ?_⟩
          · simp only [List.length_cons, List.length_nil] at hend
            omega
          · exact ⟨by simpa using hoccurs, ⟨entry, hentry, hstart_eq⟩, by omega, hge, hat,
              hno, by rw [hstart_eq, hspan]⟩

/-- An arrow that is found on a line stands on it. -/
theorem arrowOn?_sound {line : Int} {span : Span}
    (hfound : arrowOn? v line settings = .ok (some span)) :
    ∃ (arrow : Nat) (semicolon : Int), v.lineOf arrow = line ∧
      ShowsArrow v arrow semicolon span := by
  cases hfirst : v.start? line with
  | none =>
      rw [arrowOn?, View.startOf, hfirst] at hfound
      cases hfound
  | some first =>
      have hnonneg := View.start?_nonneg hfirst
      rw [arrowOn?_eq hfirst] at hfound
      have hlast : 0 ≤ (v.start? (line + 1)).getD v.cleaned.length := by
        cases hnext : v.start? (line + 1) with
        | none => exact Text.length_nonneg _
        | some next => exact View.start?_nonneg hnext
      obtain ⟨arrow, semicolon, hle, hlt, hshows⟩ :=
        arrowBetween?_sound hnonneg hlast hfound
      refine ⟨arrow, semicolon, View.lineOf_eq hfirst hle fun next hnext => ?_, hshows⟩
      simpa [hnext] using hlt

/-- An arrow member is found whose arrow stands on a line from `first` through
`last`. -/
def FindsArrow (v : View) (first last : Int) (found : Search) : Prop :=
  ∃ (arrow : Nat) (semicolon : Int) (span : Span),
    found = .arrow (v.lineOf arrow) span ∧ first ≤ v.lineOf arrow ∧
      v.lineOf arrow ≤ last ∧ ShowsArrow v arrow semicolon span

theorem FindsArrow.mono {first first' last last' : Int} {found : Search}
    (hfinds : FindsArrow v first last found) (hfirst : first' ≤ first)
    (hlast : last ≤ last') : FindsArrow v first' last' found := by
  obtain ⟨arrow, semicolon, span, heq, hlower, hupper, hshows⟩ := hfinds
  exact ⟨arrow, semicolon, span, heq, by omega, by omega, hshows⟩

theorem findsArrow_of_arrowOn? {line : Int} {span : Span}
    (hfound : arrowOn? v line settings = .ok (some span)) :
    FindsArrow v line line (.arrow line span) := by
  obtain ⟨arrow, semicolon, rfl, hshows⟩ := arrowOn?_sound hfound
  exact ⟨arrow, semicolon, span, rfl, le_refl _, le_refl _, hshows⟩

/-- An arrow member that is found stands on the given line or among the `count`
lines above it. -/
theorem arrowAbove_sound {count : Nat} {line : Int} {found : Search}
    (hfound : arrowAbove v settings count line = .ok found) :
    found = .nothing ∨ FindsArrow v (line - count) line found := by
  induction count generalizing line with
  | zero =>
      rw [arrowAbove] at hfound
      obtain ⟨on, hon, hfound⟩ := OutOfRange.bind_eq_ok_iff.1 hfound
      cases on with
      | none =>
          cases hfound
          exact .inl rfl
      | some span =>
          cases hfound
          exact .inr ((findsArrow_of_arrowOn? hon).mono (by omega) (le_refl _))
  | succ count ih =>
      rw [arrowAbove] at hfound
      obtain ⟨on, hon, hfound⟩ := OutOfRange.bind_eq_ok_iff.1 hfound
      cases on with
      | none =>
          rcases ih hfound with hnothing | hfinds
          · exact .inl hnothing
          · exact .inr (hfinds.mono (by omega) (by omega))
      | some span =>
          cases hfound
          exact .inr ((findsArrow_of_arrowOn? hon).mono (by omega) (le_refl _))

/-! ## The whole search -/

theorem Shows.eq_mk {brace : Nat} {close : Int} {span : Span}
    (hshows : Shows v brace close span)
    (hclose : v.cleaned.matchingBrace? brace = some close) :
    span =
      { start := span.start
        stop := close + 1
        firstLine := v.lineOf span.start
        lastLine := v.lineOf close
        strategy := .enclosing } := by
  obtain ⟨-, hlt, -, -, hc⟩ := Nesting.matching?_sound (by decide) hclose
  obtain ⟨⟨entry, -, hstart⟩, hstart_le, heq⟩ := hshows
  rwa [Span.ofOffsets_through (by omega) (by omega) hc] at heq

/-- Blocks are looked for first, and arrows only where they are allowed and no block was
found. -/
theorem search_eq (v : View) {target : Int} (hempty : v.cleaned.isEmpty = false)
    (hint : String) (settings : Settings) {found : Search}
    (hfound : firstAccepted v target hint.toList settings (openers v.cleaned target) =
      .ok found) :
    search v target hint settings =
      if found = .nothing then
        if v.dialect.arrowBodies then arrowNear v (v.lineOf target) settings
        else .ok .nothing
      else .ok found := by
  rw [search, hempty, hfound]
  cases found <;> rfl

/-- Wherever the target is, the search finds nothing, or goes on to arrow members, or
finds a block. -/
theorem search_cases (v : View) (target : Int) (hint : String) (settings : Settings) :
    search v target hint settings = .ok .nothing ∨
      search v target hint settings = arrowNear v (v.lineOf target) settings ∨
      ∃ (brace : Nat) (close : Int) (span : Span),
        search v target hint settings = .ok (.block brace span) ∧
          Reaches v target hint.toList settings brace close ∧ Shows v brace close span := by
  cases hempty : v.cleaned.isEmpty with
  | true =>
      left
      rw [search, hempty]
      rfl
  | false =>
      rcases firstAccepted_spec v target hint.toList settings
          (fun _ => lt_size_of_mem_openers) with
        ⟨haccepted, -⟩ | ⟨inner, brace, outer, close, span, -, -, hreaches, hshows, haccepted⟩
      · rw [search_eq v hempty hint settings haccepted, if_pos rfl]
        split
        · exact .inr (.inl rfl)
        · exact .inl rfl
      · rw [search_eq v hempty hint settings haccepted, if_neg (by simp)]
        exact .inr (.inr ⟨brace, close, span, rfl, hreaches, hshows⟩)

/-- A brace that is open at the target closes after it, if its block reaches the
target at all. -/
theorem Reaches.lt_of_mem_openers {brace : Nat} {close : Int} (htarget : 0 ≤ target)
    (hreaches : Reaches v target hint settings brace close)
    (hmem : brace ∈ openers v.cleaned target) : (brace : Int) ≤ target ∧ target < close := by
  obtain ⟨-, hle, hpartner⟩ := (Nesting.mem_openers_iff htarget).1 hmem
  obtain ⟨-, -, hlength, -, -⟩ := Nesting.matching?_sound (by decide) hreaches.closes
  have := hpartner close hreaches.closes
  have := hreaches.le
  exact ⟨hle, by omega⟩

/-- A block around the target is one of those that are looked at. -/
theorem Reaches.mem_openers {brace : Nat} {close : Int} (htarget : 0 ≤ target)
    (hreaches : Reaches v target hint settings brace close)
    (hle : (brace : Int) ≤ target) (hlt : target < close) :
    brace ∈ openers v.cleaned target := by
  obtain ⟨-, -, -, hopens, -⟩ := Nesting.matching?_sound (by decide) hreaches.closes
  refine (Nesting.mem_openers_iff htarget).2 ⟨by simpa using hopens, hle, ?_⟩
  intro close' hclose'
  obtain rfl : close = close' := by
    simpa [hreaches.closes] using hclose'
  omega

/-- An arrow is found on the target's line or a few lines above it. -/
theorem arrowNear_sound {found : Search}
    (hfound : arrowNear v (v.lineOf target) settings = .ok found) :
    found = .nothing ∨
      FindsArrow v (v.lineOf target - arrowLookback) (v.lineOf target) found := by
  have hfirst := v.one_le_lineOf target
  have hlast := v.lineOf_le_lineCount target
  have hline : max 1 (min (v.lineOf target) v.lineCount) = v.lineOf target := by omega
  rw [arrowNear, hline] at hfound
  rcases arrowAbove_sound hfound with hnothing | hfinds
  · exact .inl hnothing
  · exact .inr (hfinds.mono (by omega) (le_refl _))

/-- A block is found that is accepted and closes after the target. -/
def FindsBlock (v : View) (target : Int) (hint : List Char) (settings : Settings)
    (found : Search) : Prop :=
  ∃ (brace : Nat) (close : Int) (span : Span), found = .block brace span ∧
    Reaches v target hint settings brace close ∧ (brace : Int) ≤ target ∧
      target < close ∧ Shows v brace close span

/-- The search finds a block that closes after the target, or else an arrow member
on the target's line or a few lines above it. -/
theorem search_sound (htarget : 0 ≤ target) {hint : String} {found : Search}
    (hfound : search v target hint settings = .ok found) :
    found = .nothing ∨ FindsBlock v target hint.toList settings found ∨
      (v.dialect.arrowBodies = true ∧
        FindsArrow v (v.lineOf target - arrowLookback) (v.lineOf target) found) := by
  cases hempty : v.cleaned.isEmpty with
  | true =>
      rw [search, hempty] at hfound
      cases hfound
      exact .inl rfl
  | false =>
      rcases firstAccepted_spec v target hint.toList settings
          (fun _ => lt_size_of_mem_openers) with
        ⟨haccepted, -⟩ | ⟨inner, brace, outer, close, span, hbraces, -, hblock⟩
      · rw [search_eq v hempty hint settings haccepted, if_pos rfl] at hfound
        cases harrows : v.dialect.arrowBodies with
        | true =>
            rw [harrows, if_pos rfl] at hfound
            rcases arrowNear_sound hfound with hnothing | harrow
            · exact .inl hnothing
            · exact .inr (.inr ⟨rfl, harrow⟩)
        | false =>
            rw [harrows, if_neg (by decide)] at hfound
            cases hfound
            exact .inl rfl
      · obtain ⟨hreaches, hshows, haccepted⟩ := hblock
        rw [search_eq v hempty hint settings haccepted, if_neg (by simp)] at hfound
        cases hfound
        have hmem : brace ∈ openers v.cleaned target := by
          rw [hbraces]
          exact List.mem_append_right _ List.mem_cons_self
        obtain ⟨hle, hlt⟩ := hreaches.lt_of_mem_openers htarget hmem
        exact .inr (.inl ⟨brace, close, span, rfl, hreaches, hle, hlt, hshows⟩)

/-- The innermost accepted block that closes after the target is found. -/
theorem search_complete {hint : String} {brace : Nat} {close : Int}
    (hreaches : Reaches v target hint.toList settings brace close)
    (hle : (brace : Int) ≤ target) (hlt : target < close)
    (hinnermost : ∀ other close', Reaches v target hint.toList settings other close' →
      (other : Int) ≤ target → target < close' → other ≤ brace) :
    ∃ span, search v target hint settings = .ok (.block brace span) ∧
      Shows v brace close span := by
  have htarget : 0 ≤ target := by omega
  have hmem := hreaches.mem_openers htarget hle hlt
  have hsize := lt_size_of_mem_openers hmem
  have hempty : v.cleaned.isEmpty = false := by
    rw [Array.isEmpty_eq_false_iff]
    rintro hnil
    simp [hnil] at hsize
  rcases firstAccepted_spec v target hint.toList settings
      (fun _ => lt_size_of_mem_openers) with
    ⟨-, hnone⟩ | ⟨inner, first, outer, close', span, hbraces, hinner, hblock⟩
  · exact absurd hreaches (hnone brace hmem close)
  · obtain ⟨hfirst, hshows, haccepted⟩ := hblock
    have hfirst_mem : first ∈ openers v.cleaned target := by
      rw [hbraces]
      exact List.mem_append_right _ List.mem_cons_self
    -- The braces come in decreasing order, so the innermost one is met first.
    obtain ⟨hfirst_le, hfirst_lt⟩ := hfirst.lt_of_mem_openers htarget hfirst_mem
    have hle_brace := hinnermost first close' hfirst hfirst_le hfirst_lt
    have horder := Nesting.openers_pairwise v.cleaned target
    rw [hbraces] at hmem horder
    obtain rfl : first = brace := by
      rcases List.mem_append.1 hmem with hearlier | hlater
      · exact absurd hreaches (hinner brace hearlier close)
      rcases List.mem_cons.1 hlater with heq | hlater
      · exact heq.symm
      · have := (List.pairwise_cons.1 (List.pairwise_append.1 horder).2.1).1 brace hlater
        omega
    obtain rfl : close' = close := by
      simpa [hreaches.closes] using hfirst.closes.symm
    refine ⟨span, ?_, hshows⟩
    rw [search_eq v hempty hint settings haccepted, if_neg (by simp)]

/-! ## Which targets are served -/

/-- The block from `brace` to `close` holds the target, its own braces included,
and its header is accepted. -/
structure Encloses (v : View) (target : Int) (hint : List Char) (settings : Settings)
    (brace : Nat) (close : Int) : Prop extends
    Reaches v target hint settings brace close where
  brace_le : (brace : Int) ≤ target

/-- The innermost enclosing block with an accepted header is found exactly if the
target is not its closing brace. -/
theorem locate_innermost_iff (v : View) (target : Int) (hint : String)
    (settings : Settings) (brace : Nat) (close : Int)
    (hencloses : Encloses v target hint.toList settings brace close)
    (hinnermost : ∀ other close', Encloses v target hint.toList settings other close' →
      other ≤ brace) :
    (∃ span, locate v target hint settings = .ok (some span) ∧
        span.strategy = .enclosing ∧ span.stop = close + 1) ↔ target ≠ close := by
  constructor
  · rintro ⟨span, hlocate, hstrategy, hstop⟩ rfl
    rw [locate, OutOfRange.map_eq_ok_iff] at hlocate
    obtain ⟨found, hfound, hspan⟩ := hlocate
    have htarget : 0 ≤ target := le_trans (Int.natCast_nonneg _) hencloses.brace_le
    rcases search_sound htarget hfound with rfl | hblock | ⟨-, harrow⟩
    · cases hspan
    · -- A block that is found ends after the target, hence not at `close`.
      obtain ⟨other, close', span, rfl, hreaches, -, hlt, hshows⟩ := hblock
      cases hspan
      rw [hshows.eq_mk hreaches.closes] at hstop
      dsimp only at hstop
      omega
    · obtain ⟨arrow, semicolon, span, rfl, -, -, hshows⟩ := harrow
      cases hspan
      rw [hshows.eq_ofOffsets] at hstrategy
      cases hstrategy
  · intro hne
    have hle := hencloses.le
    obtain ⟨span, hsearch, hshows⟩ := search_complete hencloses.toReaches
      hencloses.brace_le (by omega) fun other close' hreaches hother _ =>
        hinnermost other close' ⟨hreaches, hother⟩
    have heq := hshows.eq_mk hencloses.closes
    refine ⟨span, ?_, by rw [heq], by rw [heq]⟩
    rw [locate, hsearch]
    rfl

/-- One function, with its braces at 9 and 20. -/
def oneFunction : View :=
  View.ofText [] Dialect.cpp "void f()\n\x7b\n    g();\n\x7d\n".toList

theorem oneFunction_encloses {target : Int} (hlower : 9 ≤ target) (hupper : target ≤ 20) :
    Encloses oneFunction target "".toList {} 9 20 where
  closes := by decide
  le := hupper
  accepted := ⟨"void f()".toList, by decide, by decide⟩
  brace_le := hlower

theorem oneFunction_innermost {target : Int} (hupper : target ≤ 20) (other : Nat)
    (close : Int) (hencloses : Encloses oneFunction target "".toList {} other close) :
    other ≤ 9 := by
  obtain ⟨-, -, -, hopens, -⟩ := Nesting.matching?_sound (by decide) hencloses.closes
  have hbrace_le := hencloses.brace_le
  rw [Text.at?_natCast] at hopens
  have honly : ∀ place < 21, oneFunction.cleaned[place]? = some '\x7b' → place ≤ 9 := by
    decide
  exact honly other (by omega) hopens

theorem locate_innermost_inside :
    (∃ span, locate oneFunction 15 "" {} = .ok (some span) ∧
        span.strategy = .enclosing ∧ span.stop = 20 + 1) ↔ (15 : Int) ≠ 20 :=
  locate_innermost_iff oneFunction 15 "" {} 9 20
    (oneFunction_encloses (by decide) (by decide)) (oneFunction_innermost (by decide))

/-- At its closing brace the innermost block is missed. -/
theorem innermost_missed_at_closing_brace :
    ¬∀ (v : View) (target : Int) (hint : String) (settings : Settings) (brace : Nat)
        (close : Int),
      Encloses v target hint.toList settings brace close →
      (∀ other close', Encloses v target hint.toList settings other close' →
        other ≤ brace) →
      ∃ span, locate v target hint settings = .ok (some span) ∧
        span.strategy = .enclosing ∧ span.stop = close + 1 := by
  intro hfound
  obtain ⟨span, hlocate, -⟩ := hfound oneFunction 20 "" {} 9 20
    (oneFunction_encloses (by decide) (by decide)) (oneFunction_innermost (by decide))
  have hnothing : locate oneFunction 20 "" {} = .ok none := by decide
  rw [hnothing] at hlocate
  cases hlocate

end FrameLens.Block
