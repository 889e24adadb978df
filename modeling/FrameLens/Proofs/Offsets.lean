import FrameLens.Text.Offset
import Mathlib.Data.Int.Order.Basic
import Mathlib.Data.List.Infix
import Mathlib.Tactic.Common

/-!
# Offsets that are not negative

The locators only ever look at offsets from zero on.  There an offset is a
position of the array, scans never fail, and every search moves to the right.
-/

namespace FrameLens

/-! ## Look-ups in sequence -/

namespace OutOfRange

variable {α β : Type}

@[simp]
theorem ok_bind (a : α) (f : α → Except OutOfRange β) : (Except.ok a >>= f) = f a :=
  rfl

/-- A look-up that goes on gives a value if both parts do. -/
theorem bind_eq_ok_iff {x : Except OutOfRange α} {f : α → Except OutOfRange β} {b : β} :
    x >>= f = .ok b ↔ ∃ a, x = .ok a ∧ f a = .ok b := by
  cases x with
  | error lookup =>
      constructor
      · intro h
        cases h
      · rintro ⟨a, h, -⟩
        cases h
  | ok a => simp

theorem map_eq_ok_iff {x : Except OutOfRange α} {f : α → β} {b : β} :
    x.map f = .ok b ↔ ∃ a, x = .ok a ∧ f a = b := by
  cases x <;> simp [Except.map]

end OutOfRange

namespace Text

variable {s : Text} {i : Int}

/-! ## Single characters -/

@[simp]
theorem at?_natCast (s : Text) (i : Nat) : s.at? (i : Int) = s[i]? := by
  rw [at?, if_neg (by omega), Int.toNat_natCast]

theorem at?_toNat (hi : 0 ≤ i) : s.at? i = s[i.toNat]? := by
  rw [at?, if_neg (by omega)]

theorem lt_length_of_at? (hi : 0 ≤ i) {c : Char} (hc : s.at? i = some c) :
    i < s.length := by
  rw [at?_toNat hi] at hc
  obtain ⟨hlt, -⟩ := Array.getElem?_eq_some_iff.1 hc
  rw [length]
  omega

theorem exists_at? (hi : 0 ≤ i) (hlt : i < s.length) : ∃ c, s.at? i = some c := by
  rw [length] at hlt
  rw [at?_toNat hi]
  exact ⟨_, Array.getElem?_eq_getElem (by omega)⟩

@[simp]
theorem checkScan_of_nonneg (hi : 0 ≤ i) : s.checkScan i = .ok () := by
  rw [checkScan, if_neg (by omega)]

theorem length_nonneg (s : Text) : 0 ≤ s.length :=
  Int.natCast_nonneg _

theorem lt_length_of_holdsAt {p : Char → Bool} (hi : 0 ≤ i) (hp : s.holdsAt p i = true) :
    i < s.length := by
  rw [holdsAt, Option.any_eq_true] at hp
  obtain ⟨c, hc, -⟩ := hp
  exact lt_length_of_at? hi hc

theorem holdsAt_eq_true_iff {p : Char → Bool} {place : Nat} :
    s.holdsAt p place = true ↔ ∃ c, s[place]? = some c ∧ p c = true := by
  rw [holdsAt, at?_natCast, Option.any_eq_true]

/-! ## Occurrences -/

/-- A pattern occurs at a position if the rest of the text begins with it. -/
theorem occursAt_iff (s : Text) (pattern : List Char) (i : Nat) :
    occursAt s pattern i = true ↔ pattern <+: s.toList.drop i := by
  induction pattern generalizing i with
  | nil => simp [occursAt]
  | cons c pattern ih =>
      rw [occursAt, Bool.and_eq_true, ih, beq_iff_eq]
      by_cases hlt : i < s.size
      · rw [List.drop_eq_getElem_cons (i := i) (by simpa using hlt),
          List.cons_prefix_cons]
        simp [hlt, eq_comm]
      · rw [List.drop_eq_nil_of_le (i := i) (by simpa using hlt)]
        simp [hlt]

theorem add_length_le_of_occursAt {pattern : List Char} (hpattern : pattern ≠ [])
    {i : Nat} (hoccurs : occursAt s pattern i = true) :
    i + pattern.length ≤ s.size := by
  have hlength := ((occursAt_iff s pattern i).1 hoccurs).length_le
  have hpositive := List.length_pos_iff.2 hpattern
  simp only [List.length_drop, Array.length_toList] at hlength
  omega

theorem cutPlace_of_nonneg {size : Nat} (hi : 0 ≤ i) :
    cutPlace size i = min i.toNat size := by
  rw [cutPlace, if_neg (by omega)]

theorem add_length_le_of_startsWithAt {pattern : List Char} (hpattern : pattern ≠ [])
    (hi : 0 ≤ i) (hstarts : s.startsWithAt pattern i = true) :
    i + pattern.length ≤ s.length := by
  rw [startsWithAt, cutPlace_of_nonneg hi] at hstarts
  have hlength := add_length_le_of_occursAt hpattern hstarts
  have hpositive := List.length_pos_iff.2 hpattern
  rw [length]
  omega

/-- A pattern that stands at an offset begins with the character there. -/
theorem at?_of_startsWithAt (hi : 0 ≤ i) {c : Char} {pattern : List Char}
    (hstarts : s.startsWithAt (c :: pattern) i = true) : s.at? i = some c := by
  rw [startsWithAt, cutPlace_of_nonneg hi, occursAt, Bool.and_eq_true,
    beq_iff_eq] at hstarts
  obtain ⟨hlt, hc⟩ := Array.getElem?_eq_some_iff.1 hstarts.1
  rw [at?_toNat hi, ← hstarts.1]
  congr 1
  omega

/-- The first occurrence is one, and there is none before it. -/
theorem firstWithin?_eq_some {pattern : List Char} {count i k : Nat}
    (hfound : s.firstWithin? pattern count i = some k) :
    i ≤ k ∧ k < i + count ∧ occursAt s pattern k = true ∧
      ∀ j, i ≤ j → j < k → occursAt s pattern j = false := by
  induction count generalizing i with
  | zero => simp [firstWithin?] at hfound
  | succ count ih =>
      rw [firstWithin?] at hfound
      split at hfound
      case isTrue hoccurs =>
        obtain rfl : i = k := by simpa using hfound
        exact ⟨le_refl _, by omega, hoccurs, fun j hij hjk => by omega⟩
      case isFalse hmissing =>
        obtain ⟨hle, hlt, hoccurs, hfirst⟩ := ih hfound
        refine ⟨by omega, by omega, hoccurs, ?_⟩
        intro j hij hjk
        by_cases heq : j = i
        · subst heq
          simpa using hmissing
        · exact hfirst j (by omega) hjk

/-- What a search in the cut from `start` to `stop` finds. -/
theorem find?_eq_some {pattern : List Char} (hpattern : pattern ≠ [])
    {start stop k : Int} (hstart : 0 ≤ start) (hstop : 0 ≤ stop)
    (hfound : s.find? pattern start stop = some k) :
    start ≤ k ∧ k + pattern.length ≤ stop ∧ k + pattern.length ≤ s.length ∧
      occursAt s pattern k.toNat = true ∧
      ∀ j : Nat, start ≤ j → (j : Int) < k → occursAt s pattern j = false := by
  simp only [find?, cutPlace_of_nonneg hstart, cutPlace_of_nonneg hstop,
    Option.map_eq_some_iff] at hfound
  obtain ⟨position, hposition, rfl⟩ := hfound
  obtain ⟨hle, hlt, hoccurs, hfirst⟩ := firstWithin?_eq_some hposition
  have hpositive := List.length_pos_iff.2 hpattern
  simp only [Int.ofNat_eq_natCast, length]
  refine ⟨by omega, by omega, by omega, by simpa using hoccurs, ?_⟩
  intro j hstartj hjk
  exact hfirst j (by omega) (by omega)

/-- A search for one character finds the first of its kind from `start` on. -/
theorem findFrom?_eq_some {c : Char} {start k : Int} (hstart : 0 ≤ start)
    (hfound : s.findFrom? [c] start = some k) :
    start ≤ k ∧ k < s.length ∧ s.at? k = some c ∧
      ∀ j : Nat, start ≤ j → (j : Int) < k → s[j]? ≠ some c := by
  obtain ⟨hle, -, hlt, hoccurs, hfirst⟩ :=
    find?_eq_some (by simp) hstart (length_nonneg s) hfound
  rw [List.length_singleton] at hlt
  refine ⟨hle, by omega, ?_, fun j hj hlt hc => ?_⟩
  · rw [at?_toNat (by omega)]
    simpa [occursAt] using hoccurs
  · have hno := hfirst j hj hlt
    simp [occursAt, hc] at hno

/-! ## Passing over characters -/

theorem le_skipWithin (s : Text) (p : Char → Bool) (count : Nat) (i : Int) :
    i ≤ s.skipWithin p count i := by
  induction count generalizing i with
  | zero => exact le_refl i
  | succ count ih =>
      rw [skipWithin]
      split
      · exact le_trans (by omega) (ih (i + 1))
      · exact le_refl i

theorem le_skipWhile (s : Text) (p : Char → Bool) (i : Int) :
    i ≤ s.skipWhile p i :=
  le_skipWithin s p _ i

theorem skipWithin_le (s : Text) (p : Char → Bool) (count : Nat) (i : Int) :
    s.skipWithin p count i ≤ i + count := by
  induction count generalizing i with
  | zero => exact le_of_eq (Int.add_zero i).symm
  | succ count ih =>
      rw [skipWithin]
      split
      · have := ih (i + 1)
        omega
      · omega

theorem lt_skipWhile {p : Char → Bool} (hi : 0 ≤ i) (hp : s.holdsAt p i = true) :
    i < s.skipWhile p i := by
  have hlt := lt_length_of_holdsAt hi hp
  obtain ⟨count, hcount⟩ : ∃ count, (s.length - i).toNat = count + 1 :=
    ⟨(s.length - i).toNat - 1, by omega⟩
  rw [skipWhile, hcount, skipWithin, if_pos hp]
  have := le_skipWithin s p count (i + 1)
  omega

theorem skipWhile_le (p : Char → Bool) (hi : i ≤ s.length) :
    s.skipWhile p i ≤ s.length := by
  have := skipWithin_le s p (s.length - i).toNat i
  rw [skipWhile]
  omega

/-- A scan passes over characters of its kind alone. -/
theorem exists_skipWithin_eq (s : Text) (p : Char → Bool) (count first : Nat) :
    ∃ stop : Nat, s.skipWithin p count first = stop ∧ first ≤ stop ∧
      ∀ place, first ≤ place → place < stop → s.holdsAt p place = true := by
  induction count generalizing first with
  | zero => exact ⟨first, rfl, le_refl first, fun place hfirst hlt => by omega⟩
  | succ count ih =>
      rw [skipWithin]
      split
      case isTrue hholds =>
        obtain ⟨stop, hstop, hle, hpassed⟩ := ih (first + 1)
        refine ⟨stop, by exact_mod_cast hstop, by omega, ?_⟩
        intro place hfirst hlt
        rcases Nat.eq_or_lt_of_le hfirst with rfl | hfirst
        · exact hholds
        · exact hpassed place hfirst hlt
      case isFalse =>
        exact ⟨first, rfl, le_refl first, fun place hfirst hlt => by omega⟩

/-- A scan passes over characters that all satisfy its test. -/
theorem exists_skipWhile_eq (s : Text) (p : Char → Bool) (first : Nat) :
    ∃ stop : Nat, s.skipWhile p first = stop ∧ first ≤ stop ∧
      ∀ place, first ≤ place → place < stop → s.holdsAt p place = true :=
  exists_skipWithin_eq s p _ first

end Text

end FrameLens
