import FrameLens.Proofs.Headers
import FrameLens.Proofs.Lines
import FrameLens.Proofs.Nesting.Partners

/-!
# Groups in braces inside a header

The walk back from the brace of a block goes over characters that end nothing, and over
groups in braces that are taken for the value of a member.  What it went over is
described from its first character on, one character or one group at a time, so that
every brace in it belongs to a group and no semicolon is in it.
-/

namespace FrameLens

namespace Nesting

open FrameLens.Text

variable {s t : Text} {opener closer : Char}

/-! ## Cuts of a text -/

/-- The height over a part of a text is the rise over that part. -/
theorem height_shift {first length : Nat} (hsame : ∀ k < length, t[k]? = s[first + k]?)
    {place : Nat} (hplace : place ≤ length) :
    height s opener closer (first + place) =
      height s opener closer first + height t opener closer place := by
  induction place with
  | zero => simp [height]
  | succ place ih =>
      rw [← Nat.add_assoc, height, height, ih (by omega), hsame place (by omega), Int.add_assoc]

/-- A cut of a text has the pairs that the text has there. -/
theorem pairs_shift_iff {start length : Nat} (hsame : ∀ k < length, t[k]? = s[start + k]?)
    {first last : Nat} (hlast : last < length) :
    Pairs t opener closer first last ↔ Pairs s opener closer (start + first) (start + last) := by
  have hheight {place : Nat} (hplace : place ≤ length) :
      height s opener closer (start + place) =
        height s opener closer start + height t opener closer place :=
    height_shift hsame hplace
  constructor
  · intro hpairs
    have hlt := hpairs.lt
    refine ⟨?_, by omega, ?_, fun place hfirst hle => ?_⟩
    · rw [← hsame first (by omega)]
      exact hpairs.opens
    · rw [Nat.add_assoc, hheight (by omega), hheight (by omega), hpairs.back]
    · obtain ⟨place, rfl⟩ := Nat.exists_eq_add_of_le (show start ≤ place by omega)
      have := hpairs.inside place (by omega) (by omega)
      rw [hheight (by omega), hheight (by omega)]
      omega
  · intro hpairs
    have hlt := hpairs.lt
    refine ⟨?_, by omega, ?_, fun place hfirst hle => ?_⟩
    · rw [hsame first (by omega)]
      exact hpairs.opens
    · have hback := hpairs.back
      rw [Nat.add_assoc, hheight (by omega), hheight (by omega)] at hback
      omega
    · have hinside := hpairs.inside (start + place) (by omega) (by omega)
      rw [hheight (by omega), hheight (by omega)] at hinside
      omega

end Nesting

namespace Header

open FrameLens.Nesting (Pairs)
open FrameLens.Text (isWordChar)

variable {s : Text}

/-! ## The value of a member -/

/-- The last of the first positions that does not satisfy `p`. -/
theorem lastOther?_eq_some_iff {p : Char → Bool} {count place : Nat} {c : Char}
    (hcount : count ≤ s.size) :
    lastOther? s p count = some (place, c) ↔
      place < count ∧ s[place]? = some c ∧ p c = false ∧
        ∀ later, place < later → later < count → ∃ d, s[later]? = some d ∧ p d = true := by
  induction count with
  | zero => simp [lastOther?]
  | succ count ih =>
      obtain ⟨d, hd⟩ : ∃ d, s[count]? = some d :=
        ⟨_, Array.getElem?_eq_getElem (by omega)⟩
      rw [lastOther?, hd]
      dsimp only
      by_cases hp : p d = true
      · rw [if_pos hp, ih (by omega)]
        constructor
        · rintro ⟨hlt, hc, hnot, hlater⟩
          refine ⟨by omega, hc, hnot, fun later hplace hle => ?_⟩
          by_cases hlast : later = count
          · exact ⟨d, hlast ▸ hd, hp⟩
          · exact hlater later hplace (by omega)
        · rintro ⟨hlt, hc, hnot, hlater⟩
          have hne : place ≠ count := by
            rintro rfl
            rw [hd, Option.some.injEq] at hc
            rw [hc, hnot] at hp
            cases hp
          exact ⟨by omega, hc, hnot, fun later hplace hle => hlater later hplace (by omega)⟩
      · rw [if_neg hp, Option.some.injEq, Prod.mk.injEq]
        constructor
        · rintro ⟨rfl, rfl⟩
          exact ⟨Nat.lt_succ_self _, hd, by simpa using hp, fun later hplace hle => by omega⟩
        · rintro ⟨hlt, hc, -, hlater⟩
          by_cases hlast : place = count
          · subst hlast
            rw [hd] at hc
            exact ⟨rfl, Option.some.inj hc⟩
          · obtain ⟨e, he, hpe⟩ := hlater count (by omega) (by omega)
            rw [hd, Option.some.injEq] at he
            exact absurd (he ▸ hpe) hp

/-- A group in braces on one line, without a statement in it, behind a name or an
argument list. -/
structure Initializes (s : Text) (first last : Nat) : Prop where
  pairs : Pairs s '\x7b' '\x7d' first last
  plain : ∀ place, first < place → place < last →
    s[place]? ≠ some '\n' ∧ s[place]? ≠ some ';'
  follows : ∃ (name : Nat) (c : Char), name < first ∧ s[name]? = some c ∧
    (isWordChar c = true ∨ c = '>') ∧
    ∀ place, name < place → place < first → s[place]? = some ' ' ∨ s[place]? = some '\t'

/-- A group holds no line feed and no statement. -/
theorem plain_iff {first last : Nat} :
    ((s.slice ((first : Int) + 1) last).contains '\n' ||
        (s.slice ((first : Int) + 1) last).contains ';') = false ↔
      ∀ place, first < place → place < last → s[place]? ≠ some '\n' ∧ s[place]? ≠ some ';' := by
  have hmem (c : Char) : c ∈ s.slice ((first : Int) + 1) last ↔
      ∃ place, first < place ∧ place < last ∧ s[place]? = some c := by
    rw [Text.mem_slice_iff s (by omega) (by omega)]
    constructor
    · rintro ⟨place, hfirst, hle, hc⟩
      exact ⟨place, by omega, by omega, hc⟩
    · rintro ⟨place, hfirst, hle, hc⟩
      exact ⟨place, by omega, by omega, hc⟩
  rw [← Bool.not_eq_true, Bool.or_eq_true, List.contains_iff_mem, List.contains_iff_mem, hmem,
    hmem, not_or]
  constructor
  · rintro ⟨hline, hsemicolon⟩ place hfirst hle
    exact ⟨fun hc => hline ⟨place, hfirst, hle, hc⟩, fun hc => hsemicolon ⟨place, hfirst, hle, hc⟩⟩
  · intro hplain
    refine ⟨?_, ?_⟩
    · rintro ⟨place, hfirst, hle, hc⟩
      exact (hplain place hfirst hle).1 hc
    · rintro ⟨place, hfirst, hle, hc⟩
      exact (hplain place hfirst hle).2 hc

/-- A place follows a name or an argument list, with spaces and tabs between. -/
theorem follows_iff {first : Nat} (hfirst : first ≤ s.size) :
    ((lastOther? s (fun c => c == ' ' || c == '\t') first).any fun (_, c) =>
        Text.isAlphanumeric c || c == '_' || c == '>') = true ↔
      ∃ (name : Nat) (c : Char), name < first ∧ s[name]? = some c ∧
        (isWordChar c = true ∨ c = '>') ∧
        ∀ place, name < place → place < first → s[place]? = some ' ' ∨ s[place]? = some '\t' := by
  rw [Option.any_eq_true]
  constructor
  · rintro ⟨⟨name, c⟩, hfound, hword⟩
    rw [lastOther?_eq_some_iff hfirst] at hfound
    obtain ⟨hname, hc, -, hgap⟩ := hfound
    refine ⟨name, c, hname, hc, by simpa [isWordChar] using hword, fun place hlater hlt => ?_⟩
    obtain ⟨d, hd, hblank⟩ := hgap place hlater hlt
    rw [hd]
    simpa using hblank
  · rintro ⟨name, c, hname, hc, hword, hgap⟩
    have hnot : (c == ' ' || c == '\t') = false := by
      rw [Bool.or_eq_false_iff, beq_eq_false_iff_ne, beq_eq_false_iff_ne]
      refine ⟨?_, ?_⟩ <;>
      · rintro rfl
        revert hword
        decide
    refine ⟨(name, c), (lastOther?_eq_some_iff hfirst).2
      ⟨hname, hc, hnot, fun later hlater hlt => ?_⟩, by simpa [isWordChar] using hword⟩
    rcases hgap later hlater hlt with hspace | htab
    · exact ⟨' ', hspace, rfl⟩
    · exact ⟨'\t', htab, rfl⟩

/-- The walk back takes for the value of a member what initializes one. -/
theorem isBraceInitializer_eq_true_iff {first last : Nat}
    (hpairs : Pairs s '\x7b' '\x7d' first last) :
    isBraceInitializer s first last = .ok true ↔ Initializes s first last := by
  have hlast := hpairs.last_lt
  have hlt := hpairs.lt
  rw [isBraceInitializer]
  dsimp only
  rw [lastBefore?_of_le (by rw [Text.length]; omega), Int.toNat_natCast, Except.map]
  constructor
  · intro hinitializer
    split at hinitializer
    · cases hinitializer
    rename_i hplain
    rw [Bool.not_eq_true, plain_iff] at hplain
    rw [Except.ok.injEq, follows_iff (by omega)] at hinitializer
    exact ⟨hpairs, hplain, hinitializer⟩
  · rintro ⟨-, hplain, hfollows⟩
    rw [plain_iff.2 hplain, if_neg Bool.false_ne_true, Except.ok.injEq, follows_iff (by omega)]
    exact hfollows

/-! ## What the walk back goes over -/

/-- The text from an offset up to `stop` falls into characters that end nothing and, if
`groups` are stepped over, groups that initialize a member. -/
inductive Walked (s : Text) (groups : Bool) (stop : Nat) : Nat → Prop where
  | done : Walked s groups stop stop
  | char {first : Nat} {c : Char} (hc : s[first]? = some c) (hsemicolon : c ≠ ';')
      (hopener : c ≠ '\x7b') (hcloser : c ≠ '\x7d') (rest : Walked s groups stop (first + 1)) :
      Walked s groups stop first
  | group {first last : Nat} (hgroups : groups = true) (hgroup : Initializes s first last)
      (rest : Walked s groups stop (last + 1)) : Walked s groups stop first

/-- A character that the walk back does not go over: it ends a statement or opens a
block, or it closes a group that is not stepped over. -/
def StopsAt (s : Text) (groups : Bool) (floor i : Int) : Prop :=
  ∃ place : Nat, i = place ∧
    (s[place]? = some ';' ∨ s[place]? = some '\x7b' ∨
      (s[place]? = some '\x7d' ∧ ∀ first : Nat, floor ≤ first → groups = true →
        ¬Initializes s first place))

/-- The walk back stays where it is, out of room or at a character that stops it, or it
goes over one character or one group. -/
theorem boundaryWithin_step {groups : Bool} {floor : Int} (hfloor : 0 ≤ floor) {count : Nat}
    {i boundary : Int} (hboundary : boundaryWithin s groups floor (count + 1) i = .ok boundary) :
    (boundary = i ∧ (i < floor ∨ StopsAt s groups floor i)) ∨
      ∃ place : Nat, i = place ∧ floor ≤ place ∧
        ((∃ c, s[place]? = some c ∧ c ≠ ';' ∧ c ≠ '\x7b' ∧ c ≠ '\x7d' ∧
            boundaryWithin s groups floor count (place - 1) = .ok boundary) ∨
          ∃ first : Nat, floor ≤ first ∧ groups = true ∧ Initializes s first place ∧
            boundaryWithin s groups floor count (first - 1) = .ok boundary) := by
  have hstay (hstays : (.ok i : Except OutOfRange Int) = .ok boundary) : boundary = i := by
    cases hstays
    rfl
  rw [boundaryWithin] at hboundary
  by_cases hlow : i < floor
  · rw [if_pos hlow] at hboundary
    exact .inl ⟨hstay hboundary, .inl hlow⟩
  obtain ⟨place, rfl⟩ := Int.eq_ofNat_of_zero_le (show 0 ≤ i by omega)
  rw [if_neg hlow, Text.at?_natCast] at hboundary
  cases hc : s[place]? with
  | none =>
      rw [hc] at hboundary
      cases hboundary
  | some c =>
      rw [hc] at hboundary
      dsimp only at hboundary
      by_cases hends : (decide (c = ';') || decide (c = '\x7b')) = true
      · rw [if_pos hends] at hboundary
        rw [Bool.or_eq_true, decide_eq_true_eq, decide_eq_true_eq] at hends
        refine .inl ⟨hstay hboundary, .inr ⟨place, rfl, ?_⟩⟩
        rcases hends with rfl | rfl
        · exact .inl hc
        · exact .inr (.inl hc)
      rw [if_neg hends] at hboundary
      rw [Bool.or_eq_true, decide_eq_true_eq, decide_eq_true_eq, not_or] at hends
      by_cases hcloser : c = '\x7d'
      · subst hcloser
        -- A group is stepped over only if its opener is found and it initializes a member.
        have hstops (hnot : ∀ first : Nat, floor ≤ first → groups = true →
            ¬Initializes s first place) : StopsAt s groups floor place :=
          ⟨place, rfl, .inr (.inr ⟨hc, hnot⟩)⟩
        rw [if_pos rfl, OutOfRange.bind_eq_ok_iff] at hboundary
        obtain ⟨opener, hback, hboundary⟩ := hboundary
        cases opener with
        | none =>
            refine .inl ⟨hstay hboundary, .inr (hstops fun first hfirst _ hgroup => ?_)⟩
            rw [(Nesting.matchingBraceBack_eq_some_iff hc).2
              ⟨hfirst, first, rfl, hgroup.pairs⟩] at hback
            cases hback
        | some opener =>
            obtain ⟨hfloor_le, first, rfl, hpairs⟩ :=
              (Nesting.matchingBraceBack_eq_some_iff hc).1 hback
            dsimp only at hboundary
            cases groups with
            | false =>
                exact .inl ⟨hstay hboundary,
                  .inr (hstops fun _ _ hgroups => absurd hgroups Bool.false_ne_true)⟩
            | true =>
                rw [if_pos rfl, OutOfRange.bind_eq_ok_iff] at hboundary
                obtain ⟨skips, hskips, hboundary⟩ := hboundary
                cases skips with
                | false =>
                    refine .inl ⟨hstay hboundary, .inr (hstops fun first' _ _ hgroup => ?_)⟩
                    rw [hpairs.first_eq hgroup.pairs,
                      (isBraceInitializer_eq_true_iff hgroup.pairs).2 hgroup] at hskips
                    cases hskips
                | true =>
                    exact .inr ⟨place, rfl, by omega, .inr ⟨first, hfloor_le, rfl,
                      (isBraceInitializer_eq_true_iff hpairs).1 hskips, hboundary⟩⟩
      · rw [if_neg hcloser] at hboundary
        exact .inr ⟨place, rfl, by omega,
          .inl ⟨c, hc, hends.1, hends.2, hcloser, hboundary⟩⟩

/-- The walk back goes over all the text behind the place where it ends, and ends out of
room, right before the floor if it began behind that, or at a character that stops it. -/
theorem boundaryWithin_walked {groups : Bool} {floor : Int} (hfloor : 0 ≤ floor) {stop : Nat}
    {count : Nat} {i boundary : Int} (hi : -1 ≤ i) (hcount : i + 1 - floor ≤ count)
    (hwalked : Walked s groups stop (i + 1).toNat)
    (hboundary : boundaryWithin s groups floor count i = .ok boundary) :
    min i (floor - 1) ≤ boundary ∧ boundary ≤ i ∧
      Walked s groups stop (boundary + 1).toNat ∧
      (boundary < floor ∨ StopsAt s groups floor boundary) := by
  induction count generalizing i with
  | zero =>
      cases hboundary
      exact ⟨min_le_left _ _, le_refl _, hwalked, .inl (by omega)⟩
  | succ count ih =>
      have hnext (place : Nat) : ((place : Int) - 1 + 1).toNat = place := by omega
      rcases boundaryWithin_step hfloor hboundary with
        ⟨rfl, hends⟩ |
          ⟨place, rfl, hplace, ⟨c, hc, hsemicolon, hopener, hcloser, hrest⟩ | ⟨first, hgroup⟩⟩
      · exact ⟨min_le_left _ _, le_refl _, hwalked, hends⟩
      · have hfrom : Walked s groups stop ((place : Int) - 1 + 1).toNat := by
          rw [hnext]
          exact .char hc hsemicolon hopener hcloser hwalked
        obtain ⟨hlower, hupper, hwhole⟩ := ih (by omega) (by omega) hfrom hrest
        exact ⟨by omega, by omega, hwhole⟩
      · obtain ⟨hfloor_le, hgroups, hinitializes, hrest⟩ := hgroup
        have hlt := hinitializes.pairs.lt
        have hfrom : Walked s groups stop ((first : Int) - 1 + 1).toNat := by
          rw [hnext]
          exact .group hgroups hinitializes hwalked
        obtain ⟨hlower, hupper, hwhole⟩ := ih (by omega) (by omega) hfrom hrest
        exact ⟨by omega, by omega, hwhole⟩

namespace Walked

variable {groups : Bool} {stop first : Nat}

theorem le (hwalked : Walked s groups stop first) : first ≤ stop := by
  induction hwalked with
  | done => exact le_refl stop
  | char hc hsemicolon hopener hcloser rest ih => omega
  | group hgroups hgroup rest ih =>
      have := hgroup.pairs.lt
      omega

/-- Every character is one that ends nothing, or belongs to a group. -/
theorem plain_or_group (hwalked : Walked s groups stop first) {place : Nat}
    (hfirst : first ≤ place) (hstop : place < stop) :
    (∃ c, s[place]? = some c ∧ c ≠ ';' ∧ c ≠ '\x7b' ∧ c ≠ '\x7d') ∨
      ∃ opener closer, first ≤ opener ∧ opener ≤ place ∧ place ≤ closer ∧ closer < stop ∧
        Initializes s opener closer := by
  induction hwalked with
  | done => omega
  | @char first c hc hsemicolon hopener hcloser rest ih =>
      by_cases heq : place = first
      · exact .inl ⟨c, heq ▸ hc, hsemicolon, hopener, hcloser⟩
      · rcases ih (by omega) with hplain | ⟨opener, closer, hle, hgroup⟩
        · exact .inl hplain
        · exact .inr ⟨opener, closer, by omega, hgroup⟩
  | @group first last hgroups hgroup rest ih =>
      have hlt := hgroup.pairs.lt
      by_cases hinside : place ≤ last
      · have := rest.le
        exact .inr ⟨first, last, le_refl first, hfirst, hinside, by omega, hgroup⟩
      · rcases ih (by omega) with hplain | ⟨opener, closer, hle, hgroup'⟩
        · exact .inl hplain
        · exact .inr ⟨opener, closer, by omega, hgroup'⟩

/-- A pair of braces that opens in the text lies in one of the groups. -/
theorem exists_group_of_pairs (hwalked : Walked s groups stop first) {opener closer : Nat}
    (hpairs : Pairs s '\x7b' '\x7d' opener closer) (hfirst : first ≤ opener)
    (hstop : opener < stop) :
    ∃ outer last, first ≤ outer ∧ outer ≤ opener ∧ closer ≤ last ∧ last < stop ∧
      Initializes s outer last := by
  rcases hwalked.plain_or_group hfirst hstop with
    ⟨c, hc, -, hopener, -⟩ | ⟨outer, last, hle, hbefore, hafter, hlast, hgroup⟩
  · rw [hpairs.opens, Option.some.injEq] at hc
    exact absurd hc.symm hopener
  · have hne := hpairs.first_ne_last (by decide) hgroup.pairs
    exact ⟨outer, last, hle, hbefore, hgroup.pairs.last_le hpairs hbefore (by omega),
      hlast, hgroup⟩

/-- The first opening brace opens a group. -/
theorem exists_group_of_first (hwalked : Walked s groups stop first) {opener : Nat}
    (hopens : s[opener]? = some '\x7b') (hfirst : first ≤ opener) (hstop : opener < stop)
    (hnone : ∀ place, first ≤ place → place < opener → s[place]? ≠ some '\x7b') :
    ∃ last < stop, Initializes s opener last := by
  rcases hwalked.plain_or_group hfirst hstop with
    ⟨c, hc, -, hopener, -⟩ | ⟨outer, last, hle, hbefore, -, hlast, hgroup⟩
  · rw [hopens, Option.some.injEq] at hc
    exact absurd hc.symm hopener
  · obtain rfl : outer = opener := by
      by_contra hne
      exact hnone outer hle (by omega) hgroup.pairs.opens
    exact ⟨last, hlast, hgroup⟩

/-- What is walked over from a character that stops the walk is the longest text to be
walked over. -/
theorem le_of_stopsAt {other : Nat} (hwalked : Walked s groups stop first)
    (hstops : first = 0 ∨ StopsAt s groups 0 (first - 1))
    (hother : Walked s groups stop other) : first ≤ other := by
  induction hother with
  | done => exact hwalked.le
  | @char other c hc hsemicolon hopener hcloser rest ih =>
      by_contra hlt
      obtain rfl : first = other + 1 := by omega
      rcases hstops with hzero | ⟨place, hplace, hends⟩
      · omega
      · obtain rfl : place = other := by omega
        simp [hc, hsemicolon, hopener, hcloser] at hends
  | @group other last hgroups hgroup rest ih =>
      by_contra hlt
      have hcloses := hgroup.pairs.closes
      by_cases hbehind : first = last + 1
      · rcases hstops with hzero | ⟨place, hplace, hends⟩
        · omega
        · obtain rfl : place = last := by omega
          rcases hends with hsemicolon | hopener | ⟨-, hnot⟩
          · rw [hcloses] at hsemicolon
            cases hsemicolon
          · rw [hcloses] at hopener
            cases hopener
          · exact hnot other (by omega) hgroups hgroup
      -- The group would be cut: its closer belongs to a group that opens behind `first`.
      · have hlast : last < stop := rest.le
        rcases hwalked.plain_or_group (show first ≤ last by omega) hlast with
          ⟨c, hc, -, -, hcloser⟩ | ⟨opener, closer, hle, hbefore, hafter, -, hgroup'⟩
        · rw [hcloses, Option.some.injEq] at hc
          exact hcloser hc.symm
        · have hcross := hgroup.pairs.lt_or_lt (by decide) hgroup'.pairs (by omega)
          omega

/-- No semicolon stands in the text. -/
theorem ne_semicolon (hwalked : Walked s groups stop first) {place : Nat}
    (hfirst : first ≤ place) (hstop : place < stop) : s[place]? ≠ some ';' := by
  rcases hwalked.plain_or_group hfirst hstop with
    ⟨c, hc, hsemicolon, -⟩ | ⟨opener, closer, -, hopener, hcloser, -, hgroup⟩
  · rw [hc]
    simpa using hsemicolon
  · intro hplace
    by_cases hleft : place = opener
    · have := hgroup.pairs.opens
      rw [← hleft, hplace] at this
      cases this
    by_cases hright : place = closer
    · have := hgroup.pairs.closes
      rw [← hright, hplace] at this
      cases this
    · exact (hgroup.plain place (by omega) (by omega)).2 hplace

end Walked

end Header

end FrameLens
