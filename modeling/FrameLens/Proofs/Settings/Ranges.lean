import FrameLens.Proofs.Settings.Storage
import Mathlib.Data.List.Forall2
import Mathlib.Data.List.ReduceOption

/-!
# Settings that were loaded

Settings that come out of a file are in range: no number is below its minimum, the marker
has no blanks around it, and every remap has a source.  Written to a file they are read
back as they are.
-/

namespace FrameLens

open Json (IsStorable IsExact)

variable {machine : Machine} {directory : Path} {fields : Json.Fields}
  {settings : Settings} {key : String} {default minimum value : Int}

/-! ## Results in a row -/

section Results

variable {ε α β : Type}

theorem bind_eq_ok_iff {first : Except ε α} {next : α → Except ε β} {result : β} :
    first >>= next = .ok result ↔ ∃ value, first = .ok value ∧ next value = .ok result := by
  cases first with
  | error failure => exact ⟨nofun, nofun⟩
  | ok value => simp [bind, Except.bind]

/-- A list is worked through if each of its items is. -/
theorem mapM_eq_ok_iff {f : α → Except ε β} {items : List α} {results : List β} :
    items.mapM f = .ok results ↔
      List.Forall₂ (fun item result => f item = .ok result) items results := by
  induction items generalizing results with
  | nil =>
      rw [List.mapM_nil, List.forall₂_nil_left_iff]
      exact ⟨fun heq => (Except.ok.inj heq).symm, fun heq => congrArg Except.ok heq.symm⟩
  | cons item items ih =>
      simp only [List.mapM_cons, bind_eq_ok_iff, ih, List.forall₂_cons_left_iff]
      constructor
      · rintro ⟨first, hfirst, rest, hrest, heq⟩
        exact ⟨first, rest, hfirst, hrest, (Except.ok.inj heq).symm⟩
      · rintro ⟨first, rest, hfirst, hrest, rfl⟩
        exact ⟨first, hfirst, rest, hrest, rfl⟩

theorem exists_of_mem_mapM {f : α → Except ε β} {items : List α} {results : List β} {result : β}
    (hmap : items.mapM f = .ok results) (hmem : result ∈ results) :
    ∃ item ∈ items, f item = .ok result := by
  rw [mapM_eq_ok_iff] at hmap
  induction hmap with
  | nil => cases hmem
  | cons hfirst hrest ih =>
      rcases List.mem_cons.1 hmem with rfl | hmem
      · exact ⟨_, List.mem_cons_self, hfirst⟩
      · obtain ⟨item, hitem, hread⟩ := ih hmem
        exact ⟨item, List.mem_cons_of_mem _ hitem, hread⟩

end Results

namespace Settings

/-! ## Fields of a setting -/

/-- A setting that is an integer: its key, the variable that overrides it, if there is one,
and the least value that it may have. -/
structure IntegerField where
  key : String
  override : Option String
  minimum : Int
  value : Settings → Int

def integerFields : List IntegerField := [
  ⟨"frames_to_annotate", some "STACKDIGEST_FRAMES", 0, framesToAnnotate⟩,
  ⟨"max_source_lines", some "STACKDIGEST_MAX_LINES", 1, maxSourceLines⟩,
  ⟨"anchor_window_chars", none, 256, anchorWindow⟩,
  ⟨"candidate_cutoff_chars", none, 0, candidateCutoff⟩,
  ⟨"near_miss_chars", some "STACKDIGEST_NEAR_MISS_CHARS", 0, nearMiss⟩,
  ⟨"header_backtrack_chars", none, 64, headerBacktrack⟩,
  ⟨"header_max_lines", none, 1, headerMaxLines⟩,
  ⟨"fallback_radius", none, 0, fallbackRadius⟩]

/-- Settings that can come out of a file. -/
structure InRange (settings : Settings) : Prop where
  integers : ∀ field ∈ integerFields, field.minimum ≤ field.value settings
  marker_solid : settings.marker.isBlank = false
  marker_trimmed : settings.marker.trim = settings.marker
  sources : ∀ remap ∈ settings.remaps, remap.source ≠ []

/-- The plain fields are read if each integer is. -/
theorem ofPlainFields_eq_ok_iff :
    ofPlainFields fields = .ok settings ↔
      (∀ field ∈ integerFields,
        readInteger fields field.key (field.value {}) field.minimum =
          .ok (field.value settings)) ∧
      settings.marker = readMarker fields ({} : Settings).marker ∧ settings.remaps = [] := by
  obtain ⟨frames, lines, marker, window, cutoff, nearMiss, backtrack, headerLines, radius,
    remaps⟩ := settings
  simp only [ofPlainFields, bind_eq_ok_iff, integerFields, List.forall_mem_cons]
  constructor
  · rintro ⟨_, hframes, _, hlines, _, hwindow, _, hcutoff, _, hnear, _, hback, _, hheader, _,
      hradius, hsettings⟩
    cases hsettings
    exact ⟨⟨hframes, hlines, hwindow, hcutoff, hnear, hback, hheader, hradius, nofun⟩, rfl, rfl⟩
  · rintro ⟨⟨hframes, hlines, hwindow, hcutoff, hnear, hback, hheader, hradius, -⟩, rfl, rfl⟩
    exact ⟨_, hframes, _, hlines, _, hwindow, _, hcutoff, _, hnear, _, hback, _, hheader, _,
      hradius, rfl⟩

/-- Settings are read if each integer is and the remaps are. -/
theorem ofFields_eq_ok_iff :
    ofFields fields = .ok settings ↔
      (∀ field ∈ integerFields,
        readInteger fields field.key (field.value {}) field.minimum =
          .ok (field.value settings)) ∧
      settings.marker = readMarker fields ({} : Settings).marker ∧
      readRemaps fields = .ok settings.remaps := by
  -- The integers do not depend on the remaps.
  have hvalue (settings : Settings) (remaps : List Remap) : ∀ field ∈ integerFields,
      field.value { settings with remaps := remaps } = field.value settings := by
    simp [integerFields]
  simp only [ofFields, bind_eq_ok_iff, ofPlainFields_eq_ok_iff]
  constructor
  · rintro ⟨plain, ⟨hintegers, hmarker, -⟩, remaps, hremaps, heq⟩
    obtain rfl := Except.ok.inj heq
    refine ⟨fun field hfield => ?_, hmarker, hremaps⟩
    rw [hvalue plain remaps field hfield, hintegers field hfield]
  · rintro ⟨hintegers, hmarker, hremaps⟩
    refine ⟨{ settings with remaps := [] }, ⟨fun field hfield => ?_, hmarker, rfl⟩, _, hremaps, rfl⟩
    rw [hvalue settings [] field hfield, hintegers field hfield]

/-! ## What is read is in range -/

/-- The number in a field. -/
def numberAt (fields : Json.Fields) (key : String) : Option Int :=
  (Json.get? fields key).bind fun value => (integerOf? value).toOption.join

/-- A number raised to a minimum, or the default where there is none. -/
def raised (number : Option Int) (minimum default : Int) : Int :=
  match number with
  | some number => max minimum number
  | none => default

/-- A number is raised to the minimum. -/
theorem le_raised (number : Option Int) (hdefault : minimum ≤ default) :
    minimum ≤ raised number minimum default := by
  cases number with
  | none => exact hdefault
  | some number => exact le_max_left minimum number

theorem raised_or (first second : Option Int) :
    raised (first.or second) minimum default =
      raised first minimum (raised second minimum default) := by
  cases first with
  | none => rfl
  | some number => rfl

/-- A field has its number, raised to the minimum, or its default. -/
theorem readInteger_eq (hread : readInteger fields key default minimum = .ok value) :
    value = raised (numberAt fields key) minimum default := by
  rw [numberAt]
  unfold readInteger at hread
  split at hread
  · rename_i hmissing
    cases hread
    rw [hmissing]
    rfl
  · rename_i found hfound
    rw [hfound, Option.bind_some]
    cases hnumber : integerOf? found with
    | error failure =>
        rw [hnumber] at hread
        cases hread
    | ok number =>
        rw [hnumber] at hread
        cases hread
        cases number with
        | none => rfl
        | some number => rfl

theorem isBlank_trim (text : LooseText) : text.trim.isBlank = text.isBlank :=
  Text.all_rdropWhile_dropWhile (CodePoint.isChar Text.isBlank) text

/-- A trimmed text stays as it is when it is trimmed again. -/
theorem trim_trim (text : LooseText) : text.trim.trim = text.trim :=
  Text.rdropWhile_dropWhile_again (CodePoint.isChar Text.isBlank) text

/-- The marker is the default or a text of the file that is not blank, trimmed. -/
theorem readMarker_spec (fields : Json.Fields) (default : LooseText) :
    readMarker fields default = default ∨
      ∃ marker, Json.get? fields "current_line_marker" = some (.string marker) ∧
        marker.isBlank = false ∧ readMarker fields default = marker.trim := by
  unfold readMarker
  split
  · rename_i marker hmarker
    split
    · exact .inl rfl
    · rename_i hblank
      exact .inr ⟨marker, hmarker, Bool.eq_false_iff.2 hblank, rfl⟩
  · exact .inl rfl

/-- A value is shown if it has no integer of too many digits. -/
theorem shown_eq_ok_iff {value : Json} {text : LooseText} :
    shown value = .ok text ↔ value.isBounded = true ∧ value.display = text := by
  rw [shown]
  cases value.isBounded with
  | true => simp
  | false => simp

/-- A value is an object with a source; a target that is missing is empty. -/
def Sourced (item source target : Json) : Prop :=
  ∃ fields, item = .object fields ∧ Json.get? fields "from" = some source ∧
    source.isPresent = true ∧ target = (Json.get? fields "to").getD (.string [])

theorem remapOf?_of_sourced {item source target : Json} (hitem : Sourced item source target) :
    remapOf? item = do
      let source ← shown source
      let target ← shown target
      return some ⟨source, target⟩ := by
  obtain ⟨fields, rfl, hsource, hpresent, rfl⟩ := hitem
  rw [remapOf?, hsource]
  exact if_pos hpresent

theorem remapOf?_of_not_sourced {item : Json}
    (hitem : ¬ ∃ source target, Sourced item source target) : remapOf? item = .ok none := by
  unfold remapOf?
  split
  · split
    · rename_i source hsource
      exact if_neg fun hpresent => hitem ⟨source, _, _, rfl, hsource, hpresent, rfl⟩
    · rfl
  · rfl

/-- A remap shows the source and the target of its value. -/
theorem remapOf?_eq_some {item : Json} {remap : Remap} (hremap : remapOf? item = .ok (some remap)) :
    ∃ source target, Sourced item source target ∧ source.display = remap.source ∧
      target.display = remap.target := by
  by_cases hitem : ∃ source target, Sourced item source target
  · obtain ⟨source, target, hitem⟩ := hitem
    rw [remapOf?_of_sourced hitem] at hremap
    obtain ⟨first, hfirst, hremap⟩ := bind_eq_ok_iff.1 hremap
    obtain ⟨second, hsecond, hremap⟩ := bind_eq_ok_iff.1 hremap
    cases hremap
    exact ⟨source, target, hitem, (shown_eq_ok_iff.1 hfirst).2, (shown_eq_ok_iff.1 hsecond).2⟩
  · rw [remapOf?_of_not_sourced hitem] at hremap
    cases hremap

/-- Each remap is read from an item of the list. -/
theorem mem_readRemaps {remaps : List Remap} {remap : Remap}
    (hread : readRemaps fields = .ok remaps) (hremap : remap ∈ remaps) :
    ∃ items item, Json.get? fields "path_remaps" = some (.array items) ∧ item ∈ items ∧
      remapOf? item = .ok (some remap) := by
  unfold readRemaps at hread
  split at hread
  · rename_i items hitems
    cases hfound : items.mapM remapOf? with
    | error failure =>
        rw [hfound] at hread
        cases hread
    | ok found =>
        rw [hfound] at hread
        obtain rfl := Except.ok.inj hread
        have hmem : some remap ∈ found := List.reduceOption_mem_iff.1 hremap
        obtain ⟨item, hitem, hread⟩ := exists_of_mem_mapM hfound hmem
        exact ⟨items, item, hitems, hitem, hread⟩
  · cases hread
    cases hremap

theorem text_ne_nil (value : Binary64) : value.text "inf" "nan" ≠ [] := by
  cases value with
  | finite negative mantissa exponent =>
      obtain ⟨first, more, heq, -⟩ :=
        (Binary64.isLiteral_magnitudeText mantissa exponent).exists_cons
      simp [Binary64.text, heq]
  | infinite negative => simp [Binary64.text]
  | nan => simp [Binary64.text]

theorem intDigits_ne_nil (value : Int) : Text.intDigits value ≠ [] := by
  obtain ⟨first, more, heq, -⟩ := Json.exists_intDigits_eq_cons value
  rw [heq]
  exact List.cons_ne_nil first more

/-- What counts as present is not shown as nothing. -/
theorem display_ne_nil {value : Json} (hpresent : value.isPresent = true) : value.display ≠ [] := by
  cases value with
  | null => cases hpresent
  | bool value =>
      cases value with
      | true => simp [Json.display, Json.displayInner, LooseText.ofChars]
      | false => cases hpresent
  | int value => simp [Json.display, Json.displayInner, LooseText.ofChars, intDigits_ne_nil]
  | real value => simp [Json.display, Json.displayInner, LooseText.ofChars, text_ne_nil]
  | string value => simpa [Json.display, Json.isPresent] using hpresent
  | array items => simp [Json.display, Json.displayInner, LooseText.ofChars]
  | object fields => simp [Json.display, Json.displayInner, LooseText.ofChars]

/-- Whatever values the fields have, settings that can be read from them are in range. -/
theorem inRange_of_ofFields (hread : ofFields fields = .ok settings) : InRange settings := by
  obtain ⟨hintegers, hmarker, hremaps⟩ := ofFields_eq_ok_iff.1 hread
  have hdefaults : ∀ field ∈ integerFields, field.minimum ≤ field.value {} := by decide
  refine ⟨fun field hfield => ?_, ?_, ?_, ?_⟩
  · rw [readInteger_eq (hintegers field hfield)]
    exact le_raised _ (hdefaults field hfield)
  · rw [hmarker]
    rcases readMarker_spec fields ({} : Settings).marker with hdefault | ⟨marker, -, hsolid, htrim⟩
    · rw [hdefault]
      decide
    · rw [htrim, isBlank_trim, hsolid]
  · rw [hmarker]
    rcases readMarker_spec fields ({} : Settings).marker with hdefault | ⟨marker, -, -, htrim⟩
    · rw [hdefault]
      decide
    · rw [htrim, trim_trim]
  · intro remap hremap
    obtain ⟨items, item, -, -, hitem⟩ := mem_readRemaps hremaps hremap
    obtain ⟨source, target, ⟨fields, -, -, hpresent, -⟩, hsource, -⟩ := remapOf?_eq_some hitem
    rw [← hsource]
    exact display_ne_nil hpresent

/-! ## What is read can be written -/

/-- Settings that a file can hold. -/
structure IsKept (settings : Settings) : Prop where
  integers : ∀ field ∈ integerFields,
    (field.value settings).natAbs < 10 ^ Text.maxIntegerDigits
  marker : settings.marker.IsWhole
  remaps : ∀ remap ∈ settings.remaps, remap.source.IsWhole ∧ remap.target.IsWhole

theorem natAbs_raised_lt {bound : Nat} {number : Option Int}
    (hnumber : ∀ n ∈ number, n.natAbs < bound) (hminimum : minimum.natAbs < bound)
    (hdefault : default.natAbs < bound) : (raised number minimum default).natAbs < bound := by
  cases number with
  | none => exact hdefault
  | some number =>
      rw [raised]
      rcases le_total minimum number with hle | hle
      · rw [max_eq_right hle]
        exact hnumber number rfl
      · rwa [max_eq_left hle]

theorem one_lt_bound : 1 < 10 ^ Text.maxIntegerDigits :=
  Nat.one_lt_pow (by decide) (by decide)

theorem small_le_bound : 10 ^ 5 ≤ 10 ^ Text.maxIntegerDigits :=
  Nat.pow_le_pow_right (by decide) (by decide)

theorem natAbs_minimum_lt :
    ∀ field ∈ integerFields, field.minimum.natAbs < 10 ^ Text.maxIntegerDigits := by
  have hsmall : ∀ field ∈ integerFields, field.minimum.natAbs < 10 ^ 5 := by decide
  exact fun field hfield => (hsmall field hfield).trans_le small_le_bound

/-- An integer that is read from a stored value has no more digits than can be stored. -/
theorem natAbs_integerOf? {found : Json} {number : Int} (hfound : IsStorable found)
    (hnumber : integerOf? found = .ok (some number)) :
    number.natAbs < 10 ^ Text.maxIntegerDigits := by
  cases hfound with
  | null => cases hnumber
  | bool value =>
      cases hnumber
      cases value with
      | true => exact one_lt_bound
      | false => exact Nat.lt_trans Nat.zero_lt_one one_lt_bound
  | int hvalue =>
      cases hnumber
      exact hvalue
  | @real value hvalue =>
      cases value with
      | finite negative mantissa exponent => exact hvalue number (Except.ok.inj hnumber)
      | infinite negative => cases hnumber
      | nan => cases hnumber
  | string hwhole =>
      obtain ⟨chars, -, hread⟩ := Option.bind_eq_some_iff.1 (Except.ok.inj hnumber)
      exact Text.parseInt?_natAbs_lt hread
  | array hitems => cases hnumber
  | object hkeys hwhole hvalues => cases hnumber

theorem natAbs_numberAt (hfields : IsStorable (.object fields)) :
    ∀ number ∈ numberAt fields key, number.natAbs < 10 ^ Text.maxIntegerDigits := by
  intro number hnumber
  obtain ⟨found, hfound, hinteger⟩ := Option.bind_eq_some_iff.1 hnumber
  refine natAbs_integerOf? (hfields.of_get? hfound) ?_
  cases hread : integerOf? found with
  | error failure =>
      rw [hread] at hinteger
      cases hinteger
  | ok other =>
      rw [hread] at hinteger
      exact congrArg Except.ok hinteger

/-- What a stored value is shown as can be stored. -/
theorem isWhole_display {value : Json} (hvalue : IsStorable value) : value.display.IsWhole := by
  cases hvalue with
  | string hwhole => exact hwhole
  | null => exact LooseText.isWhole_ofChars _
  | bool value => exact LooseText.isWhole_ofChars _
  | int hvalue => exact LooseText.isWhole_ofChars _
  | real hvalue => exact LooseText.isWhole_ofChars _
  | array hitems => exact LooseText.isWhole_ofChars _
  | object hkeys hwhole hvalues => exact LooseText.isWhole_ofChars _

/-- Settings that are read from stored fields can be stored. -/
theorem isKept_of_ofFields (hfields : IsStorable (.object fields))
    (hread : ofFields fields = .ok settings) : IsKept settings := by
  obtain ⟨hintegers, hmarker, hremaps⟩ := ofFields_eq_ok_iff.1 hread
  have hdefaults : ∀ field ∈ integerFields, (field.value {}).natAbs < 10 ^ 5 := by decide
  refine ⟨fun field hfield => ?_, ?_, fun remap hremap => ?_⟩
  · rw [readInteger_eq (hintegers field hfield)]
    exact natAbs_raised_lt (natAbs_numberAt hfields) (natAbs_minimum_lt field hfield)
      ((hdefaults field hfield).trans_le small_le_bound)
  · rw [hmarker]
    rcases readMarker_spec fields ({} : Settings).marker with hdefault | ⟨marker, hget, -, htrim⟩
    · rw [hdefault]
      exact LooseText.isWhole_ofChars _
    · rw [htrim]
      cases hfields.of_get? hget with
      | string hwhole => exact hwhole.of_infix (Text.rdropWhile_dropWhile_infix _ marker)
  · obtain ⟨items, item, hget, hitem, hremap⟩ := mem_readRemaps hremaps hremap
    obtain ⟨source, target, ⟨inner, rfl, hfrom, -, rfl⟩, hsource, htarget⟩ :=
      remapOf?_eq_some hremap
    rw [← hsource, ← htarget]
    cases hfields.of_get? hget with
    | array hitems =>
        have hinner := hitems _ hitem
        refine ⟨isWhole_display (hinner.of_get? hfrom), ?_⟩
        cases hto : Json.get? inner "to" with
        | none => exact LooseText.isWhole_nil
        | some target => exact isWhole_display (hinner.of_get? hto)

/-! ## What is written is read back -/

theorem nodup_keys (settings : Settings) : (Json.keys settings.toFields).Nodup := by
  have hkeys : (Json.keys (toFields {})).Nodup := by decide +kernel
  exact hkeys

theorem mem_toFields {field : IntegerField} (hfield : field ∈ integerFields) :
    ((field.key : LooseText), .int (field.value settings)) ∈ settings.toFields := by
  revert field
  simp [integerFields, toFields]

theorem isStorable_remapJson {remap : Remap} (hsource : remap.source.IsWhole)
    (htarget : remap.target.IsWhole) : IsStorable (remapJson remap) := by
  have hkeys : ([("from" : LooseText), "to"]).Nodup := by decide
  refine .object hkeys ?_ ?_
  · exact List.forall_mem_cons.2 ⟨LooseText.isWhole_ofChars _,
      List.forall_mem_singleton.2 (LooseText.isWhole_ofChars _)⟩
  · exact List.forall_mem_cons.2 ⟨.string hsource, List.forall_mem_singleton.2 (.string htarget)⟩

/-- Settings that are kept come back from their fields. -/
theorem isStorable_toFields (hkept : IsKept settings) : IsStorable (.object settings.toFields) := by
  have hintegers := hkept.integers
  simp only [integerFields, List.forall_mem_cons] at hintegers
  obtain ⟨hframes, hlines, hwindow, hcutoff, hnear, hback, hheader, hradius, -⟩ := hintegers
  have hremaps : IsStorable (.array (settings.remaps.map remapJson)) := by
    refine .array (List.forall_mem_map.2 fun remap hremap => ?_)
    obtain ⟨hsource, htarget⟩ := hkept.remaps remap hremap
    exact isStorable_remapJson hsource htarget
  refine .object (nodup_keys settings) ?_ ?_
  · simp [toFields, LooseText.ofString, LooseText.isWhole_ofChars]
  · simp only [toFields, List.forall_mem_cons]
    exact ⟨.int hframes, .int hlines, .string hkept.marker, .int hwindow, .int hcutoff, .int hnear,
      .int hback, .int hheader, .int hradius, hremaps, nofun⟩

theorem isExact_remapJson (remap : Remap) : IsExact (remapJson remap) :=
  .object (List.forall_mem_cons.2 ⟨.string _, List.forall_mem_singleton.2 (.string _)⟩)

theorem isExact_toFields (settings : Settings) : IsExact (.object settings.toFields) := by
  have hremaps : IsExact (.array (settings.remaps.map remapJson)) :=
    .array (List.forall_mem_map.2 fun remap _ => isExact_remapJson remap)
  refine .object ?_
  simp only [toFields, List.forall_mem_cons]
  exact ⟨.int _, .int _, .string _, .int _, .int _, .int _, .int _, .int _, .int _, hremaps, nofun⟩

/-- A remap is read back from its value. -/
theorem remapOf?_remapJson {remap : Remap} (hsource : remap.source ≠ []) :
    remapOf? (remapJson remap) = .ok (some remap) := by
  have hpresent : (Json.string remap.source).isPresent = true := by
    simpa [Json.isPresent] using hsource
  have hitem : Sourced (remapJson remap) (.string remap.source) (.string remap.target) :=
    ⟨_, rfl, rfl, hpresent, rfl⟩
  rw [remapOf?_of_sourced hitem]
  rfl

/-- Fields that have what settings in range come to are read as these settings. -/
theorem ofFields_of_toFields (hrange : InRange settings)
    (hfields : ∀ field ∈ settings.toFields, Json.get? fields field.1 = some field.2) :
    ofFields fields = .ok settings := by
  refine ofFields_eq_ok_iff.2 ⟨fun field hfield => ?_, ?_, ?_⟩
  · have hget := hfields _ (mem_toFields hfield)
    have hle := hrange.integers field hfield
    rw [readInteger, hget]
    dsimp only [integerOf?, Except.map]
    rw [max_eq_right hle]
  · have hget := hfields ("current_line_marker", .string settings.marker) (by simp [toFields])
    rw [readMarker, hget]
    dsimp only
    rw [hrange.marker_solid, if_neg Bool.false_ne_true, hrange.marker_trimmed]
  · have hget := hfields ("path_remaps", .array (settings.remaps.map remapJson))
      (by simp [toFields])
    rw [readRemaps, hget]
    dsimp only
    have hitems : (settings.remaps.map remapJson).mapM remapOf? =
        .ok (settings.remaps.map some) := by
      rw [mapM_eq_ok_iff, List.forall₂_map_left_iff, List.forall₂_map_right_iff,
        List.forall₂_same]
      exact fun remap hremap => remapOf?_remapJson (hrange.sources remap hremap)
    rw [hitems]
    exact congrArg Except.ok ((List.filterMap_map).trans List.filterMap_some)

end Settings

end FrameLens
