import FrameLens.Json.Reader
import FrameLens.Json.Writer
import FrameLens.Proofs.Text.Encodings
import Mathlib.Tactic.SplitIfs

/-!
# Strings written and read

A string is written as the units of its code points, each as it is or escaped, and
reading them back joins the halves that stand together.  So a text comes back as it is unless
two halves that make a character stand side by side in it; no such text is ever read.
-/

namespace FrameLens

open Json (isHighHalf isLowHalf joinHalves joinUnits)

variable {p : CodePoint} {text : LooseText}

/-! ## Whole texts -/

/-- No two halves of one character stand side by side. -/
def LooseText.IsWhole (text : LooseText) : Prop :=
  ∀ high low : Fin 0x800, [.half high, .half low] <:+: text → high < 0x400 → low < 0x400

namespace LooseText

/-- A part of a text without such halves has none either. -/
theorem IsWhole.of_infix {part : LooseText} (hwhole : text.IsWhole) (hpart : part <:+: text) :
    part.IsWhole :=
  fun high low hpair => hwhole high low (hpair.trans hpart)

/-- A text is whole if its rest is and no first half stands in front of a second one. -/
theorem isWhole_cons_iff :
    IsWhole (p :: text) ↔
      (∀ high : Fin 0x800, p = .half high → high < 0x400 →
        ∀ low : Fin 0x800, text.head? = some (.half low) → low < 0x400) ∧ IsWhole text := by
  constructor
  · intro hwhole
    refine ⟨?_, hwhole.of_infix (List.suffix_cons p text).isInfix⟩
    rintro high rfl hhigh low hlow
    refine hwhole high low (List.IsPrefix.isInfix ?_) hhigh
    obtain ⟨rest, rfl⟩ := List.head?_eq_some_iff.1 hlow
    exact ⟨rest, rfl⟩
  · rintro ⟨hfirst, hrest⟩ high low hpair hhigh
    rcases List.infix_cons_iff.1 hpair with hprefix | hpair
    · rw [List.cons_prefix_cons] at hprefix
      obtain ⟨rfl, rest, rfl⟩ := hprefix
      exact hfirst high rfl hhigh low rfl
    · exact hrest high low hpair hhigh

theorem isWhole_nil : IsWhole [] := by
  intro high low hpair
  cases List.infix_nil.1 hpair

theorem isWhole_ofChars (chars : List Char) : IsWhole (ofChars chars) := by
  intro high low hpair
  have hmem : CodePoint.half high ∈ ofChars chars := hpair.subset List.mem_cons_self
  obtain ⟨c, -, hc⟩ := List.mem_map.1 hmem
  cases hc

end LooseText

namespace CodePoint

/-- The units that a code point is written as. -/
def units : CodePoint → List Nat
  | char c =>
    if c.toNat < 0x10000 then [c.toNat]
    else [0xD800 + (c.toNat - 0x10000) / 0x400, 0xDC00 + (c.toNat - 0x10000) % 0x400]
  | half place => [(half place).value]

theorem units_of_lt {c : Char} (hc : c.toNat < 0x10000) : (char c).units = [c.toNat] := by
  rw [units, if_pos hc]

/-- A character beyond the first plane has two units. -/
theorem units_of_le {c : Char} (hc : 0x10000 ≤ c.toNat) :
    (char c).units =
      [0xD800 + (c.toNat - 0x10000) / 0x400, 0xDC00 + (c.toNat - 0x10000) % 0x400] := by
  rw [units, if_neg (Nat.not_lt.2 hc)]

theorem ofNat_value (p : CodePoint) : ofNat p.value = p := by
  cases p with
  | char c =>
      have hvalid := Utf8.toNat_valid c
      rw [value, ofNat, dif_neg (by omega), Char.ofNat_toNat]
  | half place =>
      rw [value, ofNat, dif_pos ⟨Nat.le_add_right _ _, by omega⟩]
      simp

theorem eq_of_ofNat_eq_half {n : Nat} {place : Fin 0x800} (hn : ofNat n = half place) :
    n = 0xD800 + place.val := by
  by_cases hhalf : 0xD800 ≤ n ∧ n < 0xE000
  · rw [ofNat, dif_pos hhalf, half.injEq, Fin.ext_iff] at hn
    dsimp only at hn
    omega
  · rw [ofNat, dif_neg hhalf] at hn
    cases hn

end CodePoint

/-- The text in which the halves that stand together are joined. -/
def LooseText.joined (text : LooseText) : LooseText :=
  joinUnits (text.flatMap CodePoint.units)

namespace Json

/-! ## Joining units -/

theorem isHighHalf_iff {unit : Nat} :
    isHighHalf unit = true ↔ 0xD800 ≤ unit ∧ unit < 0xDC00 := by
  rw [isHighHalf, Bool.and_eq_true, decide_eq_true_eq, decide_eq_true_eq]

theorem isLowHalf_iff {unit : Nat} :
    isLowHalf unit = true ↔ 0xDC00 ≤ unit ∧ unit < 0xE000 := by
  rw [isLowHalf, Bool.and_eq_true, decide_eq_true_eq, decide_eq_true_eq]

/-- A unit that is no first half in front of a second one stands alone. -/
theorem joinUnits_cons {unit : Nat} {units : List Nat}
    (halone : isHighHalf unit = true → ∀ low ∈ units.head?, isLowHalf low = false) :
    joinUnits (unit :: units) = .ofNat unit :: joinUnits units := by
  cases units with
  | nil => rfl
  | cons low units =>
      rw [joinUnits, if_neg]
      rw [Bool.and_eq_true]
      rintro ⟨hhigh, hlow⟩
      rw [halone hhigh low rfl] at hlow
      cases hlow

/-- Two halves side by side are one character. -/
theorem joinUnits_halves {high low : Nat} {units : List Nat} (hhigh : isHighHalf high = true)
    (hlow : isLowHalf low = true) :
    joinUnits (high :: low :: units) = .char (joinHalves high low) :: joinUnits units := by
  rw [joinUnits, hhigh, hlow]
  rfl

/-- The first unit of a text is a second half only if the text begins with one. -/
theorem exists_half_of_head?_units {low : Nat} (hlow : low ∈ (text.flatMap CodePoint.units).head?)
    (hhalf : isLowHalf low = true) :
    ∃ place : Fin 0x800, text.head? = some (.half place) ∧ ¬place < 0x400 := by
  rw [isLowHalf_iff] at hhalf
  cases text with
  | nil => cases hlow
  | cons p text =>
      rw [List.flatMap_cons] at hlow
      cases p with
      | char c =>
          have hvalid := Utf8.toNat_valid c
          by_cases hc : c.toNat < 0x10000
          · rw [CodePoint.units_of_lt hc] at hlow
            obtain rfl := Option.some.inj hlow
            omega
          · rw [CodePoint.units_of_le (Nat.not_lt.1 hc)] at hlow
            obtain rfl := Option.some.inj hlow
            omega
      | half place =>
          obtain rfl := Option.some.inj hlow
          refine ⟨place, rfl, fun hplace => ?_⟩
          have hplace : place.val < 0x400 := hplace
          rw [CodePoint.value] at hhalf
          omega

/-- A whole text comes back from its units. -/
theorem joinUnits_units (hwhole : text.IsWhole) :
    joinUnits (text.flatMap CodePoint.units) = text := by
  induction text with
  | nil => rfl
  | cons p text ih =>
      obtain ⟨hfirst, hrest⟩ := LooseText.isWhole_cons_iff.1 hwhole
      rw [List.flatMap_cons]
      cases p with
      | char c =>
          have hvalid := Utf8.toNat_valid c
          by_cases hc : c.toNat < 0x10000
          · rw [CodePoint.units_of_lt hc, List.singleton_append, joinUnits_cons, ih hrest]
            · exact congrArg (· :: text) (CodePoint.ofNat_value (.char c))
            · intro hhigh
              rw [isHighHalf_iff] at hhigh
              omega
          · rw [CodePoint.units_of_le (Nat.not_lt.1 hc), List.cons_append, List.singleton_append,
              joinUnits_halves (isHighHalf_iff.2 (by omega)) (isLowHalf_iff.2 (by omega)), ih hrest,
              joinHalves, Nat.add_sub_cancel_left, Nat.add_sub_cancel_left]
            have hjoined : 0x10000 + (c.toNat - 0x10000) / 0x400 * 0x400 +
                (c.toNat - 0x10000) % 0x400 = c.toNat := by omega
            rw [hjoined, Char.ofNat_toNat]
      | half place =>
          rw [CodePoint.units, List.singleton_append, joinUnits_cons, ih hrest,
            CodePoint.ofNat_value]
          intro hhigh low hlow
          rw [isHighHalf_iff, CodePoint.value] at hhigh
          have hplace : place < 0x400 := Fin.lt_def.2 (show place.val < 0x400 by omega)
          rw [Bool.eq_false_iff]
          intro hhalf
          obtain ⟨other, hhead, hother⟩ := exists_half_of_head?_units hlow hhalf
          exact hother (hfirst place rfl hplace other hhead)

/-! ## Escapes -/

theorem hexValue?_digitChar : ∀ digit < 16, hexValue? (Nat.digitChar digit) = some digit := by
  decide

theorem hexPadded_four {n : Nat} (hn : n < 0x10000) :
    Text.hexPadded 4 n =
      [Nat.digitChar (n / 0x1000), Nat.digitChar (n / 0x100 % 0x10),
        Nat.digitChar (n / 0x10 % 0x10), Nat.digitChar (n % 0x10)] := by
  have hzero : '0' = Nat.digitChar 0 := rfl
  unfold Text.hexPadded
  rw [hzero]
  by_cases hone : n < 0x10
  · have hhigh : n / 0x1000 = 0 ∧ n / 0x100 % 0x10 = 0 ∧ n / 0x10 % 0x10 = 0 ∧ n % 0x10 = n := by
      omega
    rw [Nat.toDigits_of_lt_base hone, hhigh.1, hhigh.2.1, hhigh.2.2.1, hhigh.2.2.2]
    rfl
  rw [Nat.toDigits_of_base_le (by decide) (Nat.not_lt.1 hone)]
  by_cases htwo : n / 0x10 < 0x10
  · have hhigh : n / 0x1000 = 0 ∧ n / 0x100 % 0x10 = 0 ∧ n / 0x10 % 0x10 = n / 0x10 := by omega
    rw [Nat.toDigits_of_lt_base htwo, hhigh.1, hhigh.2.1, hhigh.2.2]
    rfl
  rw [Nat.toDigits_of_base_le (by decide) (Nat.not_lt.1 htwo)]
  have hnext : n / 0x10 / 0x10 = n / 0x100 := Nat.div_div_eq_div_mul n 0x10 0x10
  rw [hnext]
  by_cases hthree : n / 0x100 < 0x10
  · have hhigh : n / 0x1000 = 0 ∧ n / 0x100 % 0x10 = n / 0x100 := by omega
    rw [Nat.toDigits_of_lt_base hthree, hhigh.1, hhigh.2]
    rfl
  · have hlast : n / 0x100 / 0x10 = n / 0x1000 := Nat.div_div_eq_div_mul n 0x100 0x10
    rw [Nat.toDigits_of_base_le (by decide) (Nat.not_lt.1 hthree), hlast,
      Nat.toDigits_of_lt_base (show n / 0x1000 < 16 by omega)]
    rfl

/-- Four hexadecimal digits are read as the number that they were written for. -/
theorem hexUnit?_hexPadded {n : Nat} (hn : n < 0x10000) :
    ∃ a b c d, Text.hexPadded 4 n = [a, b, c, d] ∧ hexUnit? a b c d = some n := by
  refine ⟨_, _, _, _, hexPadded_four hn, ?_⟩
  rw [hexUnit?, hexValue?_digitChar _ (by omega), hexValue?_digitChar _ (by omega),
    hexValue?_digitChar _ (by omega), hexValue?_digitChar _ (by omega)]
  have hunit :
      ((n / 0x1000 * 16 + n / 0x100 % 0x10) * 16 + n / 0x10 % 0x10) * 16 + n % 0x10 = n := by
    omega
  exact congrArg some hunit

/-- What a reader of units gives when units were read before. -/
def after (units : List Nat) (read : Option (List Nat × List Char)) :
    Option (List Nat × List Char) :=
  read.map fun (more, rest) => (units ++ more, rest)

/-- An escaped unit is read as that unit. -/
theorem readUnits_unitEscape {unit : Nat} (hunit : unit < 0x10000) (rest : List Char) :
    readUnits (unitEscape unit ++ rest) = after [unit] (readUnits rest) := by
  obtain ⟨a, b, c, d, hpadded, hread⟩ := hexUnit?_hexPadded hunit
  rw [unitEscape, hpadded]
  simp only [List.cons_append, List.nil_append]
  rw [readUnits, hread]
  cases readUnits rest with
  | none => rfl
  | some read => rfl

theorem readUnits_simpleEscape {c d : Char} (hc : simpleEscape? c = some d) (rest : List Char) :
    readUnits ('\\' :: c :: rest) = after [d.toNat] (readUnits rest) := by
  rw [readUnits, hc]
  · cases readUnits rest with
    | none => rfl
    | some read => rfl
  · rintro _ _ _ _ _ rfl
    cases hc

/-- A character that needs no escape is read as itself. -/
theorem readUnits_plain {c : Char} (hprintable : 0x20 ≤ c.toNat) (hquote : c ≠ '"')
    (hescape : c ≠ '\\') (rest : List Char) :
    readUnits (c :: rest) = after [c.toNat] (readUnits rest) := by
  have hplain : (decide (c.toNat < 0x20) || c == '\\') = false := by
    rw [Bool.or_eq_false_iff, decide_eq_false_iff_not, beq_eq_false_iff_ne]
    exact ⟨Nat.not_lt.2 hprintable, hescape⟩
  rw [readUnits, hplain]
  · cases readUnits rest with
    | none => rfl
    | some read => rfl
  · exact hquote
  · exact fun _ _ _ _ _ hc => absurd hc hescape
  · exact fun _ _ hc => absurd hc hescape

theorem lt_of_simpleEscape? {letter c : Char} (hletter : simpleEscape? letter = some c) :
    c.toNat < 0x80 := by
  unfold simpleEscape? at hletter
  split at hletter <;> cases hletter <;> decide

/-- The forms of a character inside a string. -/
inductive IsEscape (c : Char) : List Char → Prop
  | letter {letter : Char} (hletter : simpleEscape? letter = some c) : IsEscape c ['\\', letter]
  | plain (hmin : 0x20 ≤ c.toNat) (hmax : c.toNat ≤ 0x7E) (hquote : c ≠ '"') (hescape : c ≠ '\\') :
      IsEscape c [c]
  | unit (hc : c.toNat < 0x10000) : IsEscape c (unitEscape c.toNat)
  | halves (hc : 0x10000 ≤ c.toNat) :
      IsEscape c
        (unitEscape (0xD800 + (c.toNat - 0x10000) / 0x400) ++
          unitEscape (0xDC00 + (c.toNat - 0x10000) % 0x400))

/-- A character is escaped in one of the ways in which it can be read. -/
theorem isEscape_escapeChar (c : Char) : IsEscape c (escapeChar c) := by
  unfold escapeChar
  split_ifs with hquote hescape hfeed hreturn htab hform hback hprintable hshort
  · exact .letter (congrArg some hquote.symm)
  · exact .letter (congrArg some hescape.symm)
  · exact .letter (congrArg some hfeed.symm)
  · exact .letter (congrArg some hreturn.symm)
  · exact .letter (congrArg some htab.symm)
  · exact .letter (congrArg some hform.symm)
  · exact .letter (congrArg some hback.symm)
  · rw [Bool.and_eq_true, decide_eq_true_eq, decide_eq_true_eq] at hprintable
    exact .plain hprintable.1 hprintable.2 hquote hescape
  · exact .unit hshort
  · exact .halves (Nat.not_lt.1 hshort)

/-- The escape of a code point is read as its units. -/
theorem readUnits_escapePoint (p : CodePoint) (rest : List Char) :
    readUnits (escapePoint p ++ rest) = after p.units (readUnits rest) := by
  cases p with
  | half place =>
      exact readUnits_unitEscape (show 0xD800 + place.val < 0x10000 by omega) rest
  | char c =>
      have hvalid := Utf8.toNat_valid c
      have hform := isEscape_escapeChar c
      rw [escapePoint]
      generalize escapeChar c = form at hform ⊢
      cases hform with
      | letter hletter =>
          have hc := lt_of_simpleEscape? hletter
          rw [CodePoint.units_of_lt (by omega)]
          exact readUnits_simpleEscape hletter rest
      | plain hmin hmax hquote hescape =>
          rw [CodePoint.units_of_lt (by omega)]
          exact readUnits_plain hmin hquote hescape rest
      | unit hc =>
          rw [CodePoint.units_of_lt hc]
          exact readUnits_unitEscape hc rest
      | halves hc =>
          rw [CodePoint.units_of_le hc, List.append_assoc, readUnits_unitEscape (by omega),
            readUnits_unitEscape (by omega)]
          cases readUnits rest with
          | none => rfl
          | some read => rfl

/-- The inside of a written string is read as the units of its code points. -/
theorem readUnits_escaped (text : LooseText) (rest : List Char) :
    readUnits (text.flatMap escapePoint ++ '"' :: rest) =
      some (text.flatMap CodePoint.units, rest) := by
  induction text with
  | nil => rw [List.flatMap_nil, List.nil_append, readUnits, List.flatMap_nil]
  | cons p text ih =>
      rw [List.flatMap_cons, List.append_assoc, readUnits_escapePoint, ih, List.flatMap_cons]
      rfl

/-- A string is read back up to its closing quote, with its halves joined. -/
theorem readString_escaped (text : LooseText) (rest : List Char) :
    readString (text.flatMap escapePoint ++ '"' :: rest) = some (text.joined, rest) := by
  rw [readString, readUnits_escaped]
  rfl

/-! ## What is joined is whole -/

/-- A text of units begins with a half only if they do. -/
theorem head?_of_head?_joinUnits {units : List Nat} {place : Fin 0x800}
    (hhead : (joinUnits units).head? = some (.half place)) :
    ∃ unit ∈ units.head?, unit = 0xD800 + place.val := by
  match units with
  | [] => cases hhead
  | [unit] => exact ⟨unit, rfl, CodePoint.eq_of_ofNat_eq_half (Option.some.inj hhead)⟩
  | high :: low :: units =>
      rw [joinUnits] at hhead
      split at hhead
      · cases hhead
      · exact ⟨high, rfl, CodePoint.eq_of_ofNat_eq_half (Option.some.inj hhead)⟩

/-- Nothing is left to be joined in a text that was read. -/
theorem isWhole_joinUnits (units : List Nat) : (joinUnits units).IsWhole := by
  induction units using joinUnits.induct with
  | case1 high low rest hhalves ih =>
      rw [joinUnits, if_pos hhalves, LooseText.isWhole_cons_iff]
      exact ⟨nofun, ih⟩
  | case2 high low rest hhalves ih =>
      rw [joinUnits, if_neg hhalves, LooseText.isWhole_cons_iff]
      refine ⟨fun first hfirst hfirst_lt second hsecond => ?_, ih⟩
      obtain ⟨_, hunit, hlow⟩ := head?_of_head?_joinUnits hsecond
      obtain rfl := Option.some.inj hunit
      have hhigh := CodePoint.eq_of_ofNat_eq_half hfirst
      have hfirst_lt : first.val < 0x400 := hfirst_lt
      rw [Bool.and_eq_true, isHighHalf_iff, isLowHalf_iff, hhigh, hlow] at hhalves
      exact Fin.lt_def.2 (show second.val < 0x400 by omega)
  | case3 unit =>
      rw [joinUnits, LooseText.isWhole_cons_iff]
      exact ⟨nofun, LooseText.isWhole_nil⟩
  | case4 => exact LooseText.isWhole_nil

end Json

namespace LooseText

/-- A whole text is read back as it was. -/
theorem IsWhole.joined_eq (hwhole : text.IsWhole) : text.joined = text :=
  Json.joinUnits_units hwhole

/-- A text that was read back is whole. -/
theorem isWhole_joined (text : LooseText) : text.joined.IsWhole :=
  Json.isWhole_joinUnits _

end LooseText

end FrameLens
