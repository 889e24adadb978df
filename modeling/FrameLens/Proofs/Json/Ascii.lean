import FrameLens.Proofs.Json.RoundTrip

/-!
# Written values are ASCII

Whatever a value holds, it is written in printable characters of ASCII and line feeds.
-/

namespace FrameLens.Json

variable {left right text : List Char} {c : Char}

/-- Printable characters of ASCII and line feeds only. -/
def IsAscii (text : List Char) : Prop :=
  ∀ c ∈ text, c = '\n' ∨ 0x20 ≤ c.toNat ∧ c.toNat ≤ 0x7E

@[simp] theorem isAscii_nil : IsAscii [] := nofun

@[simp] theorem isAscii_cons_iff :
    IsAscii (c :: text) ↔ (c = '\n' ∨ 0x20 ≤ c.toNat ∧ c.toNat ≤ 0x7E) ∧ IsAscii text :=
  List.forall_mem_cons

@[simp] theorem isAscii_append_iff : IsAscii (left ++ right) ↔ IsAscii left ∧ IsAscii right :=
  List.forall_mem_append

theorem isAscii_of_digits (htext : ∀ c ∈ text, isDigit c = true) : IsAscii text := by
  intro c hc
  have hdigit := htext c hc
  rw [isDigit, Bool.and_eq_true, decide_eq_true_eq, decide_eq_true_eq] at hdigit
  have hmin : 0x30 ≤ c.toNat := hdigit.1
  have hmax : c.toNat ≤ 0x39 := hdigit.2
  exact .inr ⟨by omega, by omega⟩

/-! ## Strings -/

theorem ascii_digitChar : ∀ digit < 16,
    0x20 ≤ (Nat.digitChar digit).toNat ∧ (Nat.digitChar digit).toNat ≤ 0x7E := by
  decide

/-- An escape is made of a backslash, a letter and digits. -/
theorem isAscii_unitEscape {unit : Nat} (hunit : unit < 0x10000) : IsAscii (unitEscape unit) := by
  have hdigit {digit : Nat} (hdigit : digit < 16) := ascii_digitChar digit hdigit
  rw [unitEscape, hexPadded_four hunit]
  simp [hdigit (show unit / 0x1000 < 16 by omega), hdigit (show unit / 0x100 % 0x10 < 16 by omega),
    hdigit (show unit / 0x10 % 0x10 < 16 by omega), hdigit (show unit % 0x10 < 16 by omega)]

theorem ascii_of_simpleEscape? {letter : Char} (hletter : simpleEscape? letter = some c) :
    0x20 ≤ letter.toNat ∧ letter.toNat ≤ 0x7E := by
  unfold simpleEscape? at hletter
  split at hletter <;> first | decide | cases hletter

/-- Each code point is spelled in ASCII, by itself or by an escape. -/
theorem isAscii_escapePoint (p : CodePoint) : IsAscii (escapePoint p) := by
  cases p with
  | half place => exact isAscii_unitEscape (show 0xD800 + place.val < 0x10000 by omega)
  | char c =>
      have hvalid := Utf8.toNat_valid c
      have hform := isEscape_escapeChar c
      rw [escapePoint]
      generalize escapeChar c = form at hform ⊢
      cases hform with
      | letter hletter => simp [ascii_of_simpleEscape? hletter]
      | plain hmin hmax => exact fun _ hc => .inr (List.mem_singleton.1 hc ▸ ⟨hmin, hmax⟩)
      | unit hc => exact isAscii_unitEscape hc
      | halves hc =>
          exact isAscii_append_iff.2
            ⟨isAscii_unitEscape (by omega), isAscii_unitEscape (by omega)⟩

/-- A string is written in ASCII, whatever it holds. -/
theorem isAscii_writeString (value : LooseText) : IsAscii (writeString value) := by
  have hinner : IsAscii (value.flatMap escapePoint) := by
    intro c hc
    obtain ⟨p, -, hp⟩ := List.mem_flatMap.1 hc
    exact isAscii_escapePoint p c hp
  rw [writeString]
  simp [hinner]

/-! ## Numbers -/

theorem IsWhole.isAscii (htext : IsWhole text) : IsAscii text := by
  cases htext with
  | single => simp
  | run hfirst hdigits => exact isAscii_of_digits hdigits

theorem IsLiteral.isAscii (htext : IsLiteral text) : IsAscii text := by
  cases htext with
  | fraction hwhole hne hdigits => simp [hwhole.isAscii, isAscii_of_digits hdigits]
  | power hwhole hsign hne hdigits =>
      rcases hsign with rfl | rfl
      · simp [hwhole.isAscii, isAscii_of_digits hdigits]
      · simp [hwhole.isAscii, isAscii_of_digits hdigits]
  | fractionPower hwhole hfraction hfraction_digits hsign hne hdigits =>
      rcases hsign with rfl | rfl
      · simp [hwhole.isAscii, isAscii_of_digits hdigits, isAscii_of_digits hfraction_digits]
      · simp [hwhole.isAscii, isAscii_of_digits hdigits, isAscii_of_digits hfraction_digits]

theorem isAscii_intDigits (value : Int) : IsAscii (Text.intDigits value) := by
  have hdigits := (isWhole_natDigits value.natAbs).isAscii
  unfold Text.intDigits
  split
  · simp [hdigits]
  · exact hdigits

/-- A number is written in ASCII. -/
theorem isAscii_realText (value : Binary64) : IsAscii (value.text "Infinity" "NaN") := by
  cases value with
  | finite negative mantissa exponent =>
      have hliteral := (Binary64.isLiteral_magnitudeText mantissa exponent).isAscii
      cases negative with
      | true => simp [Binary64.text, hliteral]
      | false => simp [Binary64.text, hliteral]
  | infinite negative =>
      cases negative with
      | true => simp [Binary64.text]
      | false => simp [Binary64.text]
  | nan => simp [Binary64.text]

/-! ## Values -/

theorem isAscii_newLine (level : Nat) : IsAscii (newLine level) := by
  intro c hc
  rcases List.mem_cons.1 hc with rfl | hc
  · exact .inl rfl
  · rw [(List.mem_replicate.1 hc).2]
    exact .inr (by decide)

theorem isAscii_writeItems {items : List Json}
    (hitems : ∀ item ∈ items, ∀ level, IsAscii (writeAt level item)) (level : Nat) :
    IsAscii (writeItems level items) := by
  induction items with
  | nil => exact isAscii_nil
  | cons item items ih =>
      rw [List.forall_mem_cons] at hitems
      rw [writeItems]
      simp [isAscii_newLine, hitems.1 level, ih hitems.2]

theorem isAscii_writeFields {fields : Fields}
    (hvalues : ∀ field ∈ fields, ∀ level, IsAscii (writeAt level field.2)) (level : Nat) :
    IsAscii (writeFields level fields) := by
  induction fields with
  | nil => exact isAscii_nil
  | cons field fields ih =>
      rw [List.forall_mem_cons] at hvalues
      rw [writeFields]
      simp [isAscii_newLine, isAscii_writeString, hvalues.1 level, ih hvalues.2]

/-- Whatever a value holds, what is written for it is ASCII. -/
theorem isAscii_writeAt (level : Nat) (value : Json) : IsAscii (writeAt level value) := by
  induction value using parts_induction generalizing level with
  | null => simp [writeAt, writeAtom]
  | bool value =>
      cases value with
      | true => simp [writeAt, writeAtom]
      | false => simp [writeAt, writeAtom]
  | int value => exact isAscii_intDigits value
  | real value => exact isAscii_realText value
  | string value => exact isAscii_writeString value
  | array items ih =>
      cases items with
      | nil => simp [writeAt]
      | cons item items =>
          rw [List.forall_mem_cons] at ih
          rw [writeAt]
          simp [isAscii_newLine, ih.1 (level + 1), isAscii_writeItems ih.2]
  | object fields ih =>
      cases fields with
      | nil => simp [writeAt]
      | cons field fields =>
          rw [List.forall_mem_cons] at ih
          rw [writeAt]
          simp [isAscii_newLine, isAscii_writeString, ih.1 (level + 1), isAscii_writeFields ih.2]

end FrameLens.Json
