import FrameLens.Proofs.Lexis.Splitting
import FrameLens.Proofs.Snippets
import FrameLens.Proofs.Strategies

/-!
# An extraction always comes to an outcome

No step between a view and what is shown of it fails, whatever the text, the
line and the settings are.  Most look-ups fail loudly where they would be out of
range, and then an outcome is enough to rule that out.  The few that stand in for
a character or row that must be there are shown to find it.
-/

namespace FrameLens

/-! ## The searches -/

namespace Block

variable {v : View} {line : Int}

theorem arrowBetween?_ok (v : View) (settings : Settings) {first last : Int}
    (hfirst : 0 ≤ first) (hlast : 0 ≤ last) :
    ∃ found, arrowBetween? v settings first last = .ok found := by
  rw [arrowBetween?]
  cases harrow : v.cleaned.find? ['=', '>'] first last with
  | none => exact ⟨none, rfl⟩
  | some arrow =>
      obtain ⟨hle, -⟩ := Text.find?_eq_some (by simp) hfirst hlast harrow
      dsimp only
      cases v.cleaned.findFrom? [';'] (arrow + 2) with
      | none => exact ⟨none, rfl⟩
      | some stop =>
          obtain ⟨entry, -, hstart, -⟩ :=
            Signature.start_spec v (le_trans hfirst hle) settings.headerMaxLines
          exact ⟨_, by rw [hstart]; rfl⟩

/-- The search for an arrow on a line of the text never fails. -/
theorem arrowOn?_ok (settings : Settings) (hfirst : 1 ≤ line) (hlast : line ≤ v.lineCount) :
    ∃ found, arrowOn? v line settings = .ok found := by
  obtain ⟨entry, -, hstart⟩ := View.exists_start hfirst hlast
  rw [arrowOn?_eq hstart]
  apply arrowBetween?_ok v settings (Int.natCast_nonneg entry)
  cases hnext : v.start? (line + 1) with
  | none => exact Text.length_nonneg _
  | some next => exact View.start?_nonneg hnext

theorem arrowAbove_ok (settings : Settings) {count : Nat} (hfirst : 1 ≤ line - count)
    (hlast : line ≤ v.lineCount) :
    ∃ found, arrowAbove v settings count line = .ok found := by
  induction count generalizing line with
  | zero =>
      obtain ⟨found, hfound⟩ := arrowOn?_ok settings (by omega) hlast
      rw [arrowAbove, hfound, OutOfRange.ok_bind]
      cases found with
      | none => exact ⟨.nothing, rfl⟩
      | some span => exact ⟨.arrow line span, rfl⟩
  | succ count ih =>
      obtain ⟨found, hfound⟩ := arrowOn?_ok settings (by omega) hlast
      rw [arrowAbove, hfound, OutOfRange.ok_bind]
      cases found with
      | none => exact ih (by omega) (by omega)
      | some span => exact ⟨.arrow line span, rfl⟩

theorem arrowNear_ok (v : View) (line : Int) (settings : Settings) :
    ∃ found, arrowNear v line settings = .ok found := by
  have hcount : 1 ≤ v.lineCount := by
    have := v.size_starts_pos
    rw [View.lineCount]
    omega
  rw [arrowNear]
  apply arrowAbove_ok
  · omega
  · omega

/-- The search for a block never fails. -/
theorem search_ok (v : View) (target : Int) (hint : String) (settings : Settings) :
    ∃ found, search v target hint settings = .ok found := by
  rcases search_cases v target hint settings with
    hnothing | harrow | ⟨brace, close, span, hblock, -⟩
  · exact ⟨_, hnothing⟩
  · rw [harrow]
    exact arrowNear_ok v _ settings
  · exact ⟨_, hblock⟩

end Block

/-- The search by name never fails. -/
theorem Definition.search?_ok (v : View) (name : String) (target : Int)
    (settings : Settings) : ∃ found, Definition.search? v name target settings = .ok found := by
  obtain ⟨found, hlocate, -⟩ := locate_ok v name target settings
  obtain ⟨search, hsearch, -⟩ := OutOfRange.map_eq_ok_iff.1 hlocate
  exact ⟨search, hsearch⟩

namespace Extraction

theorem thenAround_ok (v : View) (name : String) (line : Int) (settings : Settings)
    (named : Option Definition.Search) :
    ∃ found, thenAround v name line settings named = .ok found := by
  obtain ⟨block, hblock⟩ := Block.search_ok v (v.targetOffset line) name settings
  rw [thenAround, hblock]
  split
  · exact ⟨_, rfl⟩
  · exact ⟨_, rfl⟩

/-- Neither of the searches fails. -/
theorem searches_ok (v : View) (name : String) (line : Int) (settings : Settings) :
    ∃ found, searches v name line settings = .ok found := by
  rw [searches_eq]
  split
  · exact thenAround_ok v name line settings none
  · obtain ⟨named, hnamed⟩ :=
      Definition.search?_ok v name (v.targetOffset line) settings
    rw [hnamed, OutOfRange.ok_bind]
    exact thenAround_ok v name line settings named

end Extraction

/-! ## The outcome -/

/-- The outcome reports the function that was found, or that none was. -/
inductive Outcome.Reports (outcome : Outcome) : Option Span → Prop where
  | found (span : Span) : outcome.isLocated = true → outcome.status = "ok" →
      outcome.span? = some span → Reports outcome (some span)
  | missed : outcome.isLocated = false → outcome.status = "no_structural_match" →
      outcome.span? = none → Reports outcome none

namespace Extraction

/-- What is shown reports the function that was located. -/
theorem show?_ok (v : View) (span : Option Span) (line : Int) (settings : Settings) :
    ∃ outcome, show? v span line settings = .ok outcome ∧ outcome.Reports span := by
  cases span with
  | none => exact ⟨_, rfl, .missed rfl rfl rfl⟩
  | some span =>
      obtain ⟨_, _, _, -, -, hrender⟩ :=
        Snippet.render_eq v span line settings.maxSourceLines settings.marker
      rw [show?, hrender]
      exact ⟨_, rfl, .found span rfl rfl rfl⟩

/-- What is located for a name and a line is what the outcome reports. -/
theorem ofView_reports (v : View) (functionName : String) (line : Int)
    (settings : Settings) :
    ∃ found outcome,
      locate v (FunctionName.anchor functionName) (max 1 line) settings = .ok found ∧
        ofView v functionName line settings = .ok outcome ∧ outcome.Reports found := by
  obtain ⟨found, hfound⟩ :=
    searches_ok v (FunctionName.anchor functionName) (max 1 line) settings
  obtain ⟨outcome, hshow, hreports⟩ := show?_ok v found.span? (max 1 line) settings
  refine ⟨found.span?, outcome, ?_, ?_, hreports⟩
  · rw [locate, hfound]
    rfl
  · rw [ofView, run, hfound, OutOfRange.ok_bind, hshow]
    rfl

/-! ## Look-ups that stand in for what must be there -/

/-- The row on which the numbered lines are centered. -/
def centerRow (v : View) (line : Int) : Int :=
  max 1 (min line v.lines.length)

/-- What is looked up without a test is there: every region ends inside the text, a
step over decorations never leaves it, a word or a trailing return type ends with a
character of it, and each of the numbered rows is a row of it. -/
structure LooksInside (v : View) (line : Int) (settings : Settings) : Prop where
  region : ∀ before rest length, Region.length? v.dialect before rest = some length →
    0 < length ∧ length ≤ rest.length
  step : ∀ (progress : Decoration.Progress) (i : Int) (c : Char), 0 ≤ i →
    v.cleaned.at? i = some c →
    (Decoration.stepAt v.cleaned (Definition.shapesOf v.dialect) progress i c).Sound
      v.cleaned (Definition.shapesOf v.dialect) i
  word : ∀ i : Int, 0 ≤ i → v.cleaned.holdsAt Text.isWordChar i = true →
    ∃ c, v.cleaned.at? (v.cleaned.skipWhile Text.isWordChar i - 1) = some c
  returned : ∀ i : Int, 0 ≤ i → v.cleaned.startsWithAt ['-', '>'] i = true →
    ∃ c, v.cleaned.at? (Decoration.pastReturn v.cleaned (i + 2) - 1) = some c
  row : ∀ number : Int, max 1 (centerRow v line - settings.fallbackRadius) ≤ number →
    number ≤ min (v.lines.length : Int)
      (centerRow v line + max 0 settings.fallbackRadius) →
    ∃ row, v.lines[(number - 1).toNat]? = some row

/-- A region has characters and does not run out of the text. -/
theorem region_fits {dialect : Dialect} {before rest : List Char} {length : Nat}
    (hlength : Region.length? dialect before rest = some length) :
    0 < length ∧ length ≤ rest.length := by
  by_cases hform : ∃ form, Lexis.Opens dialect form before.reverse rest
  · obtain ⟨form, hopens⟩ := hform
    obtain ⟨first, hbegins⟩ := Lexis.exists_begins hopens
    have hextent := Lexis.length?_of_begins hbegins
    rw [List.reverse_reverse, hlength, Option.some.injEq] at hextent
    rw [hextent]
    exact ⟨Lexis.extent_pos hbegins.1, Lexis.extent_le hbegins.1⟩
  · have hcode := Lexis.length?_of_code (not_exists.1 hform)
    rw [List.reverse_reverse, hlength] at hcode
    cases hcode

theorem looksInside (v : View) (line : Int) (settings : Settings) :
    LooksInside v line settings where
  region _ _ _ := region_fits
  step progress _ _ hi hc := Decoration.stepAt_sound progress hi hc
  word i hi hword := by
    have hlt := Text.lt_length_of_holdsAt hi hword
    have hmoved := Text.lt_skipWhile hi hword
    have hle := Text.skipWhile_le Text.isWordChar (le_of_lt hlt)
    exact Text.exists_at? (by omega) (by omega)
  returned i hi harrow := by
    have hle : i + 2 ≤ v.cleaned.length :=
      Text.add_length_le_of_startsWithAt (by decide) hi harrow
    obtain ⟨hge, hend⟩ := Decoration.pastReturn_bounds (by omega) hle
    exact Text.exists_at? (by omega) (by omega)
  row number hfirst hlast :=
    ⟨_, List.getElem?_eq_getElem (by omega)⟩

/-- An extraction comes to an outcome for every text, name, line and settings, it reports
what was located, and nothing is looked up outside the text or its rows on the way. -/
theorem ofView_total (v : View) (functionName : String) (line : Int)
    (settings : Settings) :
    (∃ found outcome,
      locate v (FunctionName.anchor functionName) (max 1 line) settings = .ok found ∧
        ofView v functionName line settings = .ok outcome ∧ outcome.Reports found) ∧
      LooksInside v (max 1 line) settings :=
  ⟨ofView_reports v functionName line settings, looksInside v (max 1 line) settings⟩

end Extraction

end FrameLens
