import FrameLens.Proofs.Layout

/-!
# How far a signature reaches up

The walk up from a line is told by where it ends: at a line no farther up than there
is room, over lines that all belong to those below them, and at the first line of the
file, at the end of the room, or below a line that does not belong.  Only one line is
such an end, so two walks in sequence come to where one walk with the room of both
comes to.
-/

namespace FrameLens.Signature

variable {v : View} {line room first : Int}

/-- A line that the walk up from the line below it goes to: it is no boundary, and it
belongs to a signature by its own text or by the initializer list below it. -/
structure Belongs (v : View) (line : Int) : Prop where
  crossed : isBoundary (Text.trim (v.lineText line)) = false
  joined : continues (Text.trim (v.lineText line)) = true ∨
    opensInitializerList (Text.trim (v.lineText (line + 1))) = true

/-- The walk goes on upwards if and only if the line above belongs to the signature. -/
theorem climbs_iff : climbs v line = true ↔ Belongs v (line - 1) := by
  rw [climbs, Bool.and_eq_true, Bool.not_eq_true', Bool.or_eq_true]
  constructor
  · rintro ⟨hcrossed, hjoined⟩
    exact ⟨hcrossed, by rwa [Int.sub_add_cancel]⟩
  · rintro ⟨hcrossed, hjoined⟩
    exact ⟨hcrossed, by rwa [Int.sub_add_cancel] at hjoined⟩

theorem not_belongs_iff : ¬Belongs v line ↔
    isBoundary (Text.trim (v.lineText line)) = true ∨
      (continues (Text.trim (v.lineText line)) = false ∧
        opensInitializerList (Text.trim (v.lineText (line + 1))) = false) := by
  constructor
  · intro hnot
    by_contra hfree
    rw [not_or, Bool.not_eq_true, ← Bool.or_eq_false_iff, Bool.not_eq_false,
      Bool.or_eq_true] at hfree
    exact hnot ⟨hfree.1, hfree.2⟩
  · rintro (hboundary | ⟨hcontinues, hopens⟩) ⟨hcrossed, hjoined⟩
    · rw [hcrossed] at hboundary
      cases hboundary
    · rw [hcontinues, hopens] at hjoined
      simp at hjoined

/-! ## Where a walk ends -/

/-- The walk up from a line, over `room` lines at most, ends on the line `first`. -/
structure Ends (v : View) (line room first : Int) : Prop where
  one_le : 1 ≤ first
  le : first ≤ line
  near : line - first ≤ max 0 room
  belongs : ∀ above, first ≤ above → above < line → Belongs v above
  stops : first = 1 ∨ room ≤ line - first ∨ ¬Belongs v (first - 1)

/-- The walk ends where lines no longer belong, or where there is no room. -/
theorem ends_climb (v : View) {line : Nat} (hline : 1 ≤ line) (room : Int) :
    Ends v line room (climb v line room) := by
  fun_induction climb v line room with
  | case1 line room hclimbs ih =>
      obtain ⟨hroom, hclimbs⟩ := hclimbs
      obtain ⟨hone_le, hle, hnear, hbelongs, hstops⟩ := ih (by omega)
      refine ⟨hone_le, by omega, by omega, ?_, ?_⟩
      · intro above hfirst habove
        by_cases hlast : above = line + 1
        · have hbelongs := climbs_iff.1 hclimbs
          rwa [hlast, show ((line : Int) + 1) = ((line + 2 : Nat) : Int) - 1 by omega]
        · exact hbelongs above hfirst (by omega)
      · rcases hstops with htop | hfull | hnot
        · exact .inl htop
        · exact .inr (.inl (by omega))
        · exact .inr (.inr hnot)
  | case2 line room hstays =>
      refine ⟨by omega, le_refl _, by omega, fun above hfirst habove => by omega, .inr ?_⟩
      by_cases hroom : 0 < room
      · exact .inr fun hbelongs => hstays ⟨hroom, climbs_iff.2 hbelongs⟩
      · exact .inl (by omega)
  | case3 line room hfirst =>
      have hone : line = 1 := by
        rcases line with _ | _ | line
        · omega
        · rfl
        · exact absurd rfl (hfirst line)
      subst hone
      exact ⟨le_refl _, le_refl _, by omega, fun above hfirst habove => by omega, .inl rfl⟩

/-- A walk with room up to a line, over lines that all belong, ends there or above. -/
theorem Ends.le_of_belongs (hends : Ends v line room first) {goal : Int} (hgoal : 1 ≤ goal)
    (hnear : line - goal ≤ max 0 room)
    (hbelongs : ∀ above, goal ≤ above → above < line → Belongs v above) : first ≤ goal := by
  by_contra hlt
  rcases hends.stops with htop | hfull | hnot
  · omega
  · have := hends.le
    omega
  · have := hends.le
    exact hnot (hbelongs _ (by omega) (by omega))

/-- A walk ends on one line. -/
theorem Ends.unique {first' : Int} (hends : Ends v line room first)
    (hends' : Ends v line room first') : first = first' :=
  le_antisymm (hends.le_of_belongs hends'.one_le hends'.near hends'.belongs)
    (hends'.le_of_belongs hends.one_le hends.near hends.belongs)

/-- A walk that is taken up again where it ended goes on as one walk. -/
theorem Ends.trans {room' first' : Int} (hroom : 0 ≤ room) (hroom' : 0 ≤ room')
    (hends : Ends v line room first) (hends' : Ends v first room' first') :
    Ends v line (room + room') first' := by
  have hle := hends.le
  have hle' := hends'.le
  have hnear := hends.near
  have hnear' := hends'.near
  refine ⟨hends'.one_le, by omega, by omega, ?_, ?_⟩
  · intro above hfirst habove
    by_cases hlower : above < first
    · exact hends'.belongs above hfirst hlower
    · exact hends.belongs above (by omega) habove
  · rcases hends'.stops with htop | hfull' | hnot'
    · exact .inl htop
    · rcases hends.stops with htop | hfull | hnot
      · have := hends'.one_le
        exact .inl (by omega)
      · exact .inr (.inl (by omega))
      · -- The first walk was stopped by a line, which the second one meets at once.
        have hstays : first' = first := by
          by_contra hne
          exact hnot (hends'.belongs _ (by omega) (by omega))
        exact .inr (.inr (hstays ▸ hnot))
    · exact .inr (.inr hnot')

/-- Room for every line of the file is as good as more. -/
theorem Ends.of_le (hends : Ends v line room first) {room' : Int} (hline : line ≤ room)
    (hle : room ≤ room') : Ends v line room' first := by
  refine ⟨hends.one_le, hends.le, ?_, hends.belongs, ?_⟩
  · have := hends.near
    omega
  · rcases hends.stops with htop | hfull | hnot
    · exact .inl htop
    · have := hends.one_le
      omega
    · exact .inr (.inr hnot)

/-! ## Offsets -/

theorem ends_startLine (v : View) (anchor room : Int) :
    Ends v (v.lineOf anchor) room (startLine v anchor room) := by
  have hfirst := v.one_le_lineOf anchor
  have hline : 1 ≤ (v.lineOf anchor).toNat := by omega
  have hends := ends_climb v hline room
  rwa [Int.toNat_of_nonneg (by omega)] at hends

/-- The walk up from an offset ends at the start of a line. -/
theorem start_ends (v : View) (anchor room : Int) :
    ∃ entry : Nat, entry ∈ v.starts ∧ start v anchor room = .ok (entry : Int) ∧
      v.lineOf entry = startLine v anchor room := by
  have hends := ends_startLine v anchor room
  have hlast : startLine v anchor room ≤ v.lineCount :=
    le_trans hends.le (v.lineOf_le_lineCount anchor)
  obtain ⟨entry, hentry, hstart⟩ := View.exists_start hends.one_le hlast
  refine ⟨entry, hentry, ?_, View.lineOf_start hstart⟩
  rw [start, View.startOf, hstart]

/-- The walk from one offset ends where that from another offset ends if their lines
have one end. -/
theorem start_eq_of_ends {anchor anchor' room room' : Int}
    (hends : Ends v (v.lineOf anchor') room' (startLine v anchor room)) :
    start v anchor' room' = start v anchor room := by
  have hline : startLine v anchor' room' = startLine v anchor room :=
    (ends_startLine v anchor' room').unique hends
  rw [start, start, hline]

/-- A walk with room up to the line of an offset before it, over lines that all belong,
begins at that offset or before it. -/
theorem start_le_of_belongs {anchor room : Int} {offset : Nat}
    (hnear : v.lineOf anchor - v.lineOf offset ≤ max 0 room)
    (hbelongs : ∀ line, v.lineOf offset ≤ line → line < v.lineOf anchor → Belongs v line)
    {first : Int} (hstart : start v anchor room = .ok first) : first ≤ offset := by
  have hends := ends_startLine v anchor room
  have hline := hends.le_of_belongs (v.one_le_lineOf offset) hnear hbelongs
  rw [start, View.startOf] at hstart
  cases hentry : v.start? (startLine v anchor room) with
  | none => simp [hentry] at hstart
  | some entry =>
      rw [hentry] at hstart
      cases hstart
      exact View.start?_le (Int.natCast_nonneg offset) hline hentry

/-! ## The walk as a whole -/

/-- The walk up from an offset, over `room` lines at most, comes to the offset `first`:
the start of a line no farther up, with no boundary between, and below a line that does
not belong if there was room for more. -/
structure ComesTo (v : View) (anchor : Int) (room : Nat) (first : Int) : Prop where
  start_mem : ∃ entry : Nat, entry ∈ v.starts ∧ first = entry
  le : v.lineOf first ≤ v.lineOf anchor
  near : v.lineOf anchor - room ≤ v.lineOf first
  crosses : ∀ line, v.lineOf first ≤ line → line < v.lineOf anchor →
    isBoundary (Text.trim (v.lineText line)) = false
  stops : v.lineOf anchor - v.lineOf first < room → v.lineOf first ≠ 1 →
    isBoundary (Text.trim (v.lineText (v.lineOf first - 1))) = true ∨
      (continues (Text.trim (v.lineText (v.lineOf first - 1))) = false ∧
        opensInitializerList (Text.trim (v.lineText (v.lineOf first))) = false)

/-- The offset that a walk comes to is the start of the line on which it ends. -/
theorem comesTo_of_ends {anchor : Int} {room entry : Nat} (hentry : entry ∈ v.starts)
    (hends : Ends v (v.lineOf anchor) room (v.lineOf entry)) :
    ComesTo v anchor room entry := by
  refine ⟨⟨entry, hentry, rfl⟩, hends.le, ?_, ?_, ?_⟩
  · have := hends.near
    omega
  · intro line hfirst hline
    exact (hends.belongs line hfirst hline).crossed
  · intro hroom htop
    have hnot : ¬Belongs v (v.lineOf entry - 1) := by
      rcases hends.stops with hone | hfull | hnot
      · exact absurd hone htop
      · omega
      · exact hnot
    rwa [not_belongs_iff, Int.sub_add_cancel] at hnot

/-- The walk up from an offset is as long as it can be within its room, two walks in
sequence are one with the room of both, and one with room for the whole file is not
continued by another. -/
theorem start_again (v : View) (anchor : Int) (room room' : Nat) :
    ∃ first, start v anchor room = .ok first ∧ ComesTo v anchor room first ∧
      start v first room' = start v anchor (room + room') ∧
      (v.lineCount ≤ room → start v first room = .ok first) := by
  obtain ⟨entry, hentry, hstart, hline⟩ := start_ends v anchor room
  have hends := ends_startLine v anchor room
  rw [← hline] at hends
  have hagain (more : Nat) : start v entry more = start v anchor (room + more) := by
    have hmore := hends.trans (Int.natCast_nonneg room) (Int.natCast_nonneg more)
      (ends_startLine v entry more)
    exact (start_eq_of_ends hmore).symm
  refine ⟨entry, hstart, comesTo_of_ends hentry hends, hagain room', fun hroom => ?_⟩
  have hlast := v.lineOf_le_lineCount anchor
  have hwhole := (ends_startLine v anchor room).of_le (by omega)
    (show (room : Int) ≤ room + room by omega)
  rw [hagain, start_eq_of_ends hwhole, hstart]

end FrameLens.Signature
