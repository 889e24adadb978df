import FrameLens.Code.Extraction
import FrameLens.Proofs.Definitions
import FrameLens.Proofs.Enclosing

/-!
# What a located function is

Whatever is located lies inside the text, begins with a line and ends with a
closing brace or a semicolon.  Each way of locating it warrants more: a block
encloses the target, a definition bears the name near the target, and an arrow
member stands on the target's line or a few lines above it.
-/

namespace FrameLens.Extraction

open FrameLens.Occurrence (WholeAt clampTarget)

variable {v : View} {name : List Char} {target : Int} {settings : Settings} {span : Span}

/-! ## Where it lies -/

/-- The span lies inside the text, begins with a line, ends with a closing brace or a
semicolon, and bears the numbers of the lines of its first and last characters. -/
structure Placed (v : View) (span : Span) : Prop where
  start_nonneg : 0 ≤ span.start
  start_lt : span.start < span.stop
  stop_le : span.stop ≤ v.raw.length
  start_mem : ∃ entry : Nat, entry ∈ v.starts ∧ span.start = entry
  ends : v.cleaned.at? (span.stop - 1) = some '\x7d' ∨
    v.cleaned.at? (span.stop - 1) = some ';'
  firstLine_eq : span.firstLine = v.lineOf span.start
  lastLine_eq : span.lastLine = v.lineOf (span.stop - 1)

/-- A span from the start of a line through a closing sign is placed. -/
theorem placed_ofOffsets {entry : Nat} {last : Int} (hentry : entry ∈ v.starts)
    (hle : (entry : Int) ≤ last)
    (hends : v.cleaned.at? last = some '\x7d' ∨ v.cleaned.at? last = some ';')
    (strategy : Strategy) : Placed v (Span.ofOffsets v entry (last + 1) strategy) := by
  obtain ⟨c, hc⟩ : ∃ c, v.cleaned.at? last = some c := by
    rcases hends with hbrace | hsemicolon
    · exact ⟨_, hbrace⟩
    · exact ⟨_, hsemicolon⟩
  have hnonneg : (0 : Int) ≤ entry := Int.natCast_nonneg entry
  have hlt := Text.lt_length_of_at? (le_trans hnonneg hle) hc
  rw [View.length_cleaned] at hlt
  rw [Span.ofOffsets_through hnonneg hle hc]
  constructor
  · exact hnonneg
  · dsimp only
    omega
  · dsimp only
    omega
  · exact ⟨entry, hentry, rfl⟩
  · simpa only [Int.add_sub_cancel] using hends
  · rfl
  · simp only [Int.add_sub_cancel]

/-- A definition that is taken is placed. -/
theorem placed_of_takes {hit : Nat}
    (htakes : Definition.Takes v name target settings hit span) : Placed v span := by
  rcases htakes with ⟨hbraced, -⟩ | ⟨harrowed, -⟩
  · obtain ⟨entry, last, hentry, hle, hlt, hc, rfl⟩ := hbraced.showsThrough
    exact placed_ofOffsets hentry (by omega) (.inl hc) _
  · obtain ⟨-, entry, last, hentry, hle, hlt, hc, rfl⟩ := harrowed.showsThrough
    exact placed_ofOffsets hentry (by omega) (.inr hc) _

/-- A block that is shown is placed. -/
theorem placed_of_shows {brace : Nat} {close : Int} (hshows : Block.Shows v brace close span)
    (hclose : v.cleaned.matchingBrace? brace = some close) : Placed v span := by
  obtain ⟨-, hbrace_lt, -, -, hc⟩ := Nesting.matching?_sound (by decide) hclose
  obtain ⟨⟨entry, hentry, hstart⟩, hstart_le, heq⟩ := hshows
  rw [hstart] at heq hstart_le
  subst heq
  exact placed_ofOffsets hentry (by omega) (.inl hc) _

/-- A member with an arrow that is shown is placed. -/
theorem placed_of_showsArrow {arrow : Nat} {semicolon : Int}
    (hshows : Block.ShowsArrow v arrow semicolon span) : Placed v span := by
  obtain ⟨-, ⟨entry, hentry, hstart⟩, hstart_le, hge, hc, -, heq⟩ := hshows
  rw [hstart] at heq hstart_le
  subst heq
  exact placed_ofOffsets hentry (by omega) (.inr hc) _

/-! ## What warrants it -/

/-- The span ends with the partner of a brace before which it begins, and the target
is between them. -/
def EndsBlock (v : View) (target : Int) (span : Span) : Prop :=
  ∃ brace : Nat, v.cleaned[brace]? = some '\x7b' ∧
    v.cleaned.matchingBrace? brace = some (span.stop - 1) ∧ span.start ≤ brace ∧
    (brace : Int) ≤ target ∧ target ≤ span.stop - 1 ∧
    span.covers (v.lineOf target) = true

/-- The span bears the name as a whole identifier near the target.  It covers the
target's line or its name is nearer still, or it is an arrow member within a line. -/
def BearsName (v : View) (name : List Char) (target : Int) (settings : Settings)
    (span : Span) : Prop :=
  ∃ hit : Nat, WholeAt v.cleaned name hit ∧ span.start ≤ hit ∧ (hit : Int) < span.stop ∧
    (((hit : Int) - clampTarget v.cleaned target).natAbs : Int) ≤ settings.candidateCutoff ∧
    ((v.cleaned.at? (span.stop - 1) = some '\x7d' ∧
        (span.covers (v.lineOf target) = true ∨
          ((target - hit).natAbs : Int) < settings.nearMiss)) ∨
      (v.cleaned.at? (span.stop - 1) = some ';' ∧ v.dialect.arrowBodies = true ∧
        span.firstLine - 1 ≤ v.lineOf target ∧ v.lineOf target ≤ span.lastLine + 1))

/-- The span holds an arrow on the target's line or a few lines above it, and ends
with the first semicolon after the arrow. -/
def HoldsArrow (v : View) (target : Int) (span : Span) : Prop :=
  v.dialect.arrowBodies = true ∧
    ∃ arrow : Nat, Text.occursAt v.cleaned ['=', '>'] arrow = true ∧ span.start ≤ arrow ∧
      v.lineOf target - 5 ≤ v.lineOf arrow ∧ v.lineOf arrow ≤ v.lineOf target ∧
      (arrow : Int) + 2 ≤ span.stop - 1 ∧
      v.cleaned.at? (span.stop - 1) = some ';' ∧
      ∀ j : Nat, (arrow : Int) + 2 ≤ j → (j : Int) < span.stop - 1 →
        v.cleaned[j]? ≠ some ';'

/-- What the strategy that located a span warrants. -/
def Warranted (v : View) (name : List Char) (target : Int) (settings : Settings)
    (span : Span) : Prop :=
  match span.strategy with
  | .enclosing => EndsBlock v target span
  | .named => BearsName v name target settings span
  | .arrow => HoldsArrow v target span
  | .other _ => False

/-! ## The definition by name -/

theorem named_sound {hit : Nat} (hwhole : WholeAt v.cleaned name hit)
    (hcutoff : (((hit : Int) - clampTarget v.cleaned target).natAbs : Int) ≤
      settings.candidateCutoff)
    (htakes : Definition.Takes v name target settings hit span) :
    Placed v span ∧ Warranted v name target settings span := by
  refine ⟨placed_of_takes htakes, ?_⟩
  rcases htakes with ⟨hbraced, htaken⟩ | ⟨harrowed, hlines⟩
  · obtain ⟨entry, last, hentry, hle, hlt, hc, rfl⟩ := hbraced.showsThrough
    rw [Span.ofOffsets_through (by omega) (by omega) hc] at htaken ⊢
    refine ⟨hit, hwhole, hle, ?_, hcutoff, .inl ⟨?_, htaken⟩⟩
    · dsimp only
      omega
    · simpa only [Int.add_sub_cancel] using hc
  · obtain ⟨harrows, entry, last, hentry, hle, hlt, hc, rfl⟩ := harrowed.showsThrough
    rw [Span.ofOffsets_through (by omega) (by omega) hc] at hlines ⊢
    refine ⟨hit, hwhole, hle, ?_, hcutoff, .inr ⟨?_, harrows, hlines⟩⟩
    · dsimp only
      omega
    · simpa only [Int.add_sub_cancel] using hc

/-! ## The search around the target -/

theorem block_sound {brace : Nat} {close : Int}
    (hshows : Block.Shows v brace close span)
    (hclose : v.cleaned.matchingBrace? brace = some close)
    (hle : (brace : Int) ≤ target) (hlt : target < close) :
    Placed v span ∧ Warranted v name target settings span := by
  refine ⟨placed_of_shows hshows hclose, ?_⟩
  obtain ⟨-, hbrace_lt, -, hopens, hc⟩ := Nesting.matching?_sound (by decide) hclose
  obtain ⟨⟨entry, hentry, hstart⟩, hstart_le, heq⟩ := hshows
  rw [hstart] at heq hstart_le
  subst heq
  rw [Span.ofOffsets_through (by omega) (by omega) hc]
  refine ⟨brace, by simpa using hopens, ?_, hstart_le, hle, ?_, ?_⟩
  · simpa only [Int.add_sub_cancel] using hclose
  · dsimp only
    omega
  · -- Lines grow with offsets, and the target is between the ends.
    have hfirst := View.lineOf_mono (v := v) (le_trans hstart_le hle)
    have hlast := View.lineOf_mono (v := v) (le_of_lt hlt)
    simp [Span.covers, hfirst, hlast]

theorem arrow_sound {arrow : Nat} {semicolon : Int}
    (harrows : v.dialect.arrowBodies = true)
    (hshows : Block.ShowsArrow v arrow semicolon span)
    (hlower : v.lineOf target - Block.arrowLookback ≤ v.lineOf arrow)
    (hupper : v.lineOf arrow ≤ v.lineOf target) :
    Placed v span ∧ Warranted v name target settings span := by
  refine ⟨placed_of_showsArrow hshows, ?_⟩
  obtain ⟨hoccurs, ⟨entry, hentry, hstart⟩, hstart_le, hge, hc, hfirst, heq⟩ := hshows
  rw [hstart] at heq hstart_le
  subst heq
  rw [Span.ofOffsets_through (by omega) (by omega) hc]
  refine ⟨harrows, arrow, hoccurs, hstart_le, hlower, hupper, ?_, ?_, ?_⟩
  · dsimp only
    omega
  · simpa only [Int.add_sub_cancel] using hc
  · simpa only [Int.add_sub_cancel] using hfirst

/-! ## Both searches in turn -/

/-- The search around the target, which is made if none was found by name. -/
def thenAround (v : View) (name : String) (line : Int) (settings : Settings)
    (named : Option Definition.Search) : Except OutOfRange Searches := do
  if (named.bind (·.found)).isSome then return ⟨named, none⟩
  let block ← Block.search v (v.targetOffset line) name settings
  return ⟨named, some block⟩

/-- The search around the target comes after the one by name, if there is a name. -/
theorem searches_eq (v : View) (name : String) (line : Int) (settings : Settings) :
    searches v name line settings =
      if name.isEmpty then thenAround v name line settings none
      else Definition.search? v name (v.targetOffset line) settings >>=
        thenAround v name line settings :=
  rfl

/-- The function of both searches is that of one of them. -/
theorem thenAround_sound {name : String} {line : Int} {named : Option Definition.Search}
    {found : Searches} (hfound : thenAround v name line settings named = .ok found)
    (hspan : found.span? = some span) :
    (∃ search hit, named = some search ∧ search.found = some (hit, span)) ∨
      Block.locate v (v.targetOffset line) name settings = .ok (some span) := by
  have haround (h : Block.search v (v.targetOffset line) name settings >>=
        (fun block => .ok ⟨named, some block⟩) = .ok found)
      (hspan_eq : ∀ block, (Searches.mk named (some block)).span? = block.span?) :
      Block.locate v (v.targetOffset line) name settings = .ok (some span) := by
    obtain ⟨block, hblock, heq⟩ := OutOfRange.bind_eq_ok_iff.1 h
    cases heq
    rw [Block.locate, hblock, ← hspan, hspan_eq]
    rfl
  obtain _ | ⟨tried, _ | ⟨hit, span'⟩⟩ := named
  · exact .inr (haround hfound fun _ => rfl)
  · exact .inr (haround hfound fun _ => rfl)
  · cases hfound
    cases hspan
    exact .inl ⟨_, hit, rfl, rfl⟩

/-- What is located was found by name, or else around the target. -/
theorem located_by {name : String} {line : Int}
    (hlocate : locate v name line settings = .ok (some span)) :
    Definition.locate v name (v.targetOffset line) settings = .ok (some span) ∨
      Block.locate v (v.targetOffset line) name settings = .ok (some span) := by
  rw [locate, OutOfRange.map_eq_ok_iff] at hlocate
  obtain ⟨found, hfound, hspan⟩ := hlocate
  rw [searches_eq] at hfound
  split at hfound
  · rcases thenAround_sound hfound hspan with ⟨search, hit, hnone, -⟩ | hblock
    · cases hnone
    · exact .inr hblock
  · obtain ⟨named, hnamed, hfound⟩ := OutOfRange.bind_eq_ok_iff.1 hfound
    rcases thenAround_sound hfound hspan with ⟨⟨tried, _⟩, hit, rfl, rfl⟩ | hblock
    · left
      rw [Definition.locate, hnamed]
      rfl
    · exact .inr hblock

/-- Whatever is located for a name and a line lies inside the text, and is warranted by
the strategy that located it. -/
theorem locate_sound (v : View) (name : String) (line : Int) (settings : Settings)
    (span : Span) (hlocate : locate v name line settings = .ok (some span)) :
    Placed v span ∧
      Warranted v (Text.trim name.toList) (v.targetOffset (max 1 line)) settings span := by
  rw [View.targetOffset_max]
  rcases located_by hlocate with hnamed | hblock
  · obtain ⟨hit, hmem, hwhole, htakes⟩ := Definition.exists_takes_of_locate hnamed
    obtain ⟨-, -, hcutoff⟩ := Occurrence.mem_near hmem
    exact named_sound hwhole hcutoff htakes
  · rw [Block.locate, OutOfRange.map_eq_ok_iff] at hblock
    obtain ⟨found, hfound, hspan⟩ := hblock
    rcases Block.search_sound (v.targetOffset_nonneg line) hfound with
      rfl | hblock | ⟨harrows, harrow⟩
    · cases hspan
    · obtain ⟨brace, close, span, rfl, hreaches, hle, hlt, hshows⟩ := hblock
      cases hspan
      exact block_sound hshows hreaches.closes hle hlt
    · obtain ⟨arrow, semicolon, span, rfl, hlower, hupper, hshows⟩ := harrow
      cases hspan
      exact arrow_sound harrows hshows hlower hupper

/-- One arrow member. -/
def oneArrow : View :=
  View.ofText [] Dialect.cSharp "int X => 1;\n".toList

theorem locate_sound_each_way :
    Warranted Block.oneFunction ['f'] 15 {} ⟨0, 21, 1, 4, .named⟩ ∧
      Warranted Block.oneFunction [] 15 {} ⟨0, 21, 1, 4, .enclosing⟩ ∧
      Warranted oneArrow [] 0 {} ⟨0, 11, 1, 1, .arrow⟩ :=
  ⟨(locate_sound Block.oneFunction "f" 3 {} _ (by decide)).2,
    (locate_sound Block.oneFunction "" 3 {} _ (by decide)).2,
    (locate_sound oneArrow "" 1 {} _ (by decide +kernel)).2⟩

end FrameLens.Extraction
