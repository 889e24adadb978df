import FrameLens.Json.Reader
import FrameLens.Number.Shortest
import FrameLens.Proofs.Text.Decimals
import Mathlib.Tactic.SplitIfs

/-!
# Numbers written and read

What is written for a number is a literal: digits that do not begin with a zero, or a
zero alone, and for a number with a floating point also a fraction, a power of ten, or
both.  A literal is read to its end, whatever stands after it, as long as that does
not go on the number.
-/

namespace FrameLens.Json

open FrameLens.Text (natDigits)

variable {c : Char} {digits whole fraction power rest : List Char} {negative : Bool}

/-! ## Digits -/

theorem isDigit_iff : isDigit c = true ↔ c.isDigit = true := by
  rw [isDigit, Char.isDigit, Bool.and_eq_true, Bool.and_eq_true, decide_eq_true_eq,
    decide_eq_true_eq, decide_eq_true_eq, decide_eq_true_eq]
  exact Iff.rfl

theorem isDigit_of_mem_natDigits {n : Nat} (hc : c ∈ natDigits n) : isDigit c = true :=
  isDigit_iff.2 (Text.isDigit_of_mem_natDigits hc)

/-- The digits of a number stand for the number. -/
theorem digitsValue_natDigits (n : Nat) : digitsValue (natDigits n) = n := by
  rw [digitsValue]
  exact (Nat.ofDigitChars_eq_foldl.symm).trans Nat.ofDigitChars_ten_toDigits

/-- Digits are split off up to the first sign that is none. -/
theorem spanDigits_append (hdigits : ∀ c ∈ digits, isDigit c = true)
    (hrest : ∀ c ∈ rest.head?, isDigit c = false) :
    spanDigits (digits ++ rest) = (digits, rest) := by
  rw [spanDigits, List.span_eq_takeWhile_dropWhile,
    Text.takeWhile_eq_iff.2 ⟨rest, rfl, hdigits, hrest⟩,
    Text.dropWhile_eq_iff.2 ⟨digits, rfl, hdigits, hrest⟩]

/-- What may stand after a number. -/
def EndsNumber (rest : List Char) : Prop :=
  ∀ c ∈ rest.head?, isDigit c = false ∧ c ≠ '.' ∧ c ≠ 'e' ∧ c ≠ 'E'

/-- The digits of an integer: a zero alone, or digits that do not begin with one. -/
inductive IsWhole : List Char → Prop
  | single : IsWhole ['0']
  | run {first : Char} {more : List Char} (hfirst : first ≠ '0')
      (hdigits : ∀ c ∈ first :: more, isDigit c = true) : IsWhole (first :: more)

/-- The digits of an integer are read up to the first sign that is no digit. -/
theorem IsWhole.readWhole?_append (hwhole : IsWhole whole)
    (hrest : ∀ c ∈ rest.head?, isDigit c = false) :
    readWhole? (whole ++ rest) = some (whole, rest) := by
  cases hwhole with
  | single => rfl
  | @run first more hfirst hdigits =>
      rw [List.cons_append, readWhole?]
      · rw [← List.cons_append, spanDigits_append hdigits hrest]
      · intro _ heq
        exact hfirst (List.cons.inj heq).1

/-- Without a point there is no fraction. -/
theorem readFraction_of_ends (hrest : ∀ c ∈ rest.head?, c ≠ '.') :
    readFraction rest = ([], rest) := by
  cases rest with
  | nil => rfl
  | cons c rest =>
      rw [readFraction]
      rintro _ heq
      exact hrest c rfl (List.cons.inj heq).1

/-- Without a power mark there is no power of ten. -/
theorem readPower_of_ends (hrest : ∀ c ∈ rest.head?, c ≠ 'e' ∧ c ≠ 'E') :
    readPower rest = (none, rest) := by
  cases rest with
  | nil => rfl
  | cons c rest =>
      obtain ⟨hsmall, hlarge⟩ := hrest c rfl
      unfold readPower
      exact if_neg (by simp [hsmall, hlarge])

/-! ## Integers -/

theorem digitChar_ne_zero : ∀ digit < 10, digit ≠ 0 → Nat.digitChar digit ≠ '0' := by
  decide

/-- A number that is not zero has no zero in front. -/
theorem head?_natDigits {n : Nat} (hn : n ≠ 0) : ∀ c ∈ (natDigits n).head?, c ≠ '0' := by
  unfold natDigits
  induction n using Nat.strongRecOn with
  | ind n ih =>
      by_cases hlt : n < 10
      · rw [Nat.toDigits_of_lt_base hlt]
        rintro c ⟨⟩
        exact digitChar_ne_zero n hlt hn
      · rw [Nat.toDigits_of_base_le (by decide) (Nat.not_lt.1 hlt)]
        intro c hc
        have hshort := ih (n / 10) (by omega) (by omega) c
        rw [List.head?_append_of_ne_nil _ Nat.toDigits_ne_nil] at hc
        exact hshort hc

/-- The digits of a number are the digits of an integer. -/
theorem isWhole_natDigits (n : Nat) : IsWhole (natDigits n) := by
  by_cases hn : n = 0
  · subst hn
    exact .single
  · have hdigits : ∀ c ∈ natDigits n, isDigit c = true := fun c hc => isDigit_of_mem_natDigits hc
    have hhead := head?_natDigits hn
    obtain ⟨first, more, heq⟩ := List.exists_cons_of_ne_nil (Text.natDigits_ne_nil n)
    rw [heq] at hdigits hhead ⊢
    exact .run (hhead first rfl) hdigits

/-- The digits of an integer are read as that integer, unless there are too many. -/
theorem readMagnitude_natDigits {n : Nat} (hn : n < 10 ^ Text.maxIntegerDigits)
    (hrest : EndsNumber rest) :
    readMagnitude negative (natDigits n ++ rest) =
      some (int (if negative then -Int.ofNat n else Int.ofNat n), rest) := by
  have hlength : ¬Text.maxIntegerDigits < (natDigits n).length :=
    Nat.not_lt.2 (Text.length_natDigits_le_iff.2 hn)
  rw [readMagnitude, (isWhole_natDigits n).readWhole?_append fun c hc => (hrest c hc).1]
  dsimp only [Option.bind_eq_bind, Option.bind_some]
  rw [readFraction_of_ends fun c hc => (hrest c hc).2.1]
  dsimp only
  rw [readPower_of_ends fun c hc => (hrest c hc).2.2]
  dsimp only [List.isEmpty_nil, Option.isNone_none, Bool.and_self]
  rw [if_pos (Bool.and_self true), if_neg hlength, digitsValue_natDigits]
  rfl

/-! ## Numbers with a floating point -/

/-- The number of a literal. -/
def literalValue (negative : Bool) (whole fraction : List Char) (power : Option Int) : Binary64 :=
  .ofDecimal negative (digitsValue (whole ++ fraction)) (power.getD 0 - fraction.length)

/-- A fraction or a power of ten makes a real number. -/
theorem readMagnitude_real {text afterWhole afterFraction : List Char} {value : Option Int}
    (hwhole : readWhole? text = some (whole, afterWhole))
    (hfraction : readFraction afterWhole = (fraction, afterFraction))
    (hpower : readPower afterFraction = (value, rest)) (hreal : fraction ≠ [] ∨ value ≠ none) :
    readMagnitude negative text =
      some (real (literalValue negative whole fraction value), rest) := by
  have hnot : ¬(fraction.isEmpty && value.isNone) = true := by
    rw [Bool.and_eq_true, List.isEmpty_iff, Option.isNone_iff_eq_none]
    rintro ⟨hnil, hnone⟩
    rcases hreal with hne | hne
    · exact hne hnil
    · exact hne hnone
  rw [readMagnitude, hwhole]
  dsimp only [Option.bind_eq_bind, Option.bind_some]
  rw [hfraction]
  dsimp only
  rw [hpower]
  dsimp only
  rw [if_neg hnot]
  rfl

theorem readFraction_append (hne : fraction ≠ []) (hdigits : ∀ c ∈ fraction, isDigit c = true)
    (hrest : ∀ c ∈ rest.head?, isDigit c = false) :
    readFraction ('.' :: fraction ++ rest) = (fraction, rest) := by
  rw [List.cons_append, readFraction, spanDigits_append hdigits hrest]
  obtain ⟨first, more, rfl⟩ := List.exists_cons_of_ne_nil hne
  rfl

theorem exists_readPower_append {sign : Char} (hsign : sign = '-' ∨ sign = '+') (hne : power ≠ [])
    (hdigits : ∀ c ∈ power, isDigit c = true) :
    ∃ value : Int, ∀ rest : List Char, (∀ c ∈ rest.head?, isDigit c = false) →
      readPower ('e' :: sign :: power ++ rest) = (some value, rest) := by
  obtain ⟨first, more, rfl⟩ := List.exists_cons_of_ne_nil hne
  have hspan {rest : List Char} (hrest : ∀ c ∈ rest.head?, isDigit c = false) :
      spanDigits (first :: (more ++ rest)) = (first :: more, rest) :=
    spanDigits_append hdigits hrest
  rcases hsign with rfl | rfl
  · refine ⟨-Int.ofNat (digitsValue (first :: more)), fun rest hrest => ?_⟩
    simp [readPower, hspan hrest]
  · refine ⟨Int.ofNat (digitsValue (first :: more)), fun rest hrest => ?_⟩
    simp [readPower, hspan hrest]

/-- The literal of a number with a floating point. -/
inductive IsLiteral : List Char → Prop
  | fraction {whole fraction : List Char} (hwhole : IsWhole whole) (hne : fraction ≠ [])
      (hdigits : ∀ c ∈ fraction, isDigit c = true) : IsLiteral (whole ++ '.' :: fraction)
  | power {whole power : List Char} {sign : Char} (hwhole : IsWhole whole)
      (hsign : sign = '-' ∨ sign = '+') (hne : power ≠ [])
      (hdigits : ∀ c ∈ power, isDigit c = true) : IsLiteral (whole ++ 'e' :: sign :: power)
  | fractionPower {whole fraction power : List Char} {sign : Char} (hwhole : IsWhole whole)
      (hfraction : fraction ≠ []) (hfraction_digits : ∀ c ∈ fraction, isDigit c = true)
      (hsign : sign = '-' ∨ sign = '+') (hne : power ≠ [])
      (hdigits : ∀ c ∈ power, isDigit c = true) :
      IsLiteral (whole ++ ('.' :: fraction) ++ 'e' :: sign :: power)

/-- A literal is read as a real number that does not depend on what stands behind it. -/
theorem IsLiteral.exists_readMagnitude {text : List Char} (htext : IsLiteral text)
    (negative : Bool) :
    ∃ value : Binary64, ∀ rest : List Char, EndsNumber rest →
      readMagnitude negative (text ++ rest) = some (real value, rest) := by
  cases htext with
  | @fraction whole fraction hwhole hne hdigits =>
      refine ⟨literalValue negative whole fraction none, fun rest hrest => ?_⟩
      rw [List.append_assoc]
      refine readMagnitude_real (hwhole.readWhole?_append ?_)
        (readFraction_append hne hdigits fun c hc => (hrest c hc).1)
        (readPower_of_ends fun c hc => (hrest c hc).2.2) (.inl hne)
      rintro c ⟨⟩
      rfl
  | @power whole power sign hwhole hsign hne hdigits =>
      obtain ⟨value, hpower⟩ := exists_readPower_append hsign hne hdigits
      refine ⟨literalValue negative whole [] (some value), fun rest hrest => ?_⟩
      rw [List.append_assoc]
      refine readMagnitude_real (hwhole.readWhole?_append ?_) (readFraction_of_ends ?_)
        (hpower rest fun c hc => (hrest c hc).1) (.inr (Option.some_ne_none value))
      · rintro c ⟨⟩
        rfl
      · rintro c ⟨⟩
        decide
  | @fractionPower whole fraction power sign hwhole hfraction hfraction_digits hsign hne hdigits =>
      obtain ⟨value, hpower⟩ := exists_readPower_append hsign hne hdigits
      refine ⟨literalValue negative whole fraction (some value), fun rest hrest => ?_⟩
      rw [List.append_assoc, List.append_assoc]
      refine readMagnitude_real (hwhole.readWhole?_append ?_)
        (readFraction_append hfraction hfraction_digits ?_)
        (hpower rest fun c hc => (hrest c hc).1) (.inl hfraction)
      · rintro c ⟨⟩
        rfl
      · rintro c ⟨⟩
        rfl

end FrameLens.Json

namespace FrameLens.Binary64

open FrameLens.Json (IsWhole IsLiteral isDigit isDigit_of_mem_natDigits head?_natDigits)
open FrameLens.Text (natDigits)

variable {mantissa : Nat} {exponent place : Int} {digits : List Char}

/-! ## The text of a number -/

theorem onGrid?_pos {decimal : Decimal} (hgrid : onGrid? mantissa exponent place = some decimal) :
    0 < decimal.digits := by
  unfold onGrid? at hgrid
  dsimp only at hgrid
  split at hgrid
  · rename_i hbelow _
    rw [Bool.and_eq_true, decide_eq_true_eq] at hbelow
    obtain rfl := Option.some.inj hgrid
    dsimp only
    split
    · exact hbelow.1
    · exact Nat.succ_pos _
  · rename_i hbelow _
    rw [Bool.and_eq_true, decide_eq_true_eq] at hbelow
    obtain rfl := Option.some.inj hgrid
    exact hbelow.1
  · obtain rfl := Option.some.inj hgrid
    exact Nat.succ_pos _
  · cases hgrid

/-- A decimal that is found on a grid is not zero. -/
theorem firstOnGrids_pos (tries : Nat) (place : Int) :
    0 < (firstOnGrids mantissa exponent tries place).digits := by
  induction tries generalizing place with
  | zero => exact Nat.one_pos
  | succ tries ih =>
      rw [firstOnGrids]
      cases hgrid : onGrid? mantissa exponent place with
      | some decimal => exact onGrid?_pos hgrid
      | none => exact ih (place - 1)

/-- The digits of a number without the zeros at their end begin with the same digit. -/
theorem exists_significant {n : Nat} (hn : 0 < n) :
    ∃ first more, significant n = first :: more ∧ first ≠ '0' ∧
      ∀ c ∈ first :: more, isDigit c = true := by
  obtain ⟨cut, htext, hcut, -⟩ := Text.rdropWhile_eq_iff.1
    (rfl : List.rdropWhile (· == '0') (natDigits n) = _)
  have hsignificant : significant n = List.rdropWhile (· == '0') (natDigits n) := rfl
  have hhead := head?_natDigits (Nat.pos_iff_ne_zero.1 hn)
  have hdigits : ∀ c ∈ natDigits n, isDigit c = true := fun c hc => isDigit_of_mem_natDigits hc
  rw [← hsignificant] at htext
  rw [htext] at hhead hdigits
  cases hmore : significant n with
  | nil =>
      rw [hmore, List.nil_append] at htext hhead
      obtain ⟨first, more, rfl⟩ := List.exists_cons_of_ne_nil (htext ▸ Text.natDigits_ne_nil n)
      exact absurd (by simpa using hcut first List.mem_cons_self) (hhead first rfl)
  | cons first more =>
      rw [hmore] at hhead hdigits
      exact ⟨first, more, rfl, hhead first rfl, fun c hc => hdigits c (List.mem_append_left _ hc)⟩

theorem isDigit_of_mem_replicate {c : Char} {n : Nat} (hc : c ∈ List.replicate n '0') :
    isDigit c = true := by
  rw [(List.mem_replicate.1 hc).2]
  rfl

/-- A decimal point among digits makes a literal. -/
theorem isLiteral_positional {first : Char} {more : List Char} (hfirst : first ≠ '0')
    (hdigits : ∀ c ∈ first :: more, isDigit c = true) (point : Int) :
    IsLiteral (positional (first :: more) point) := by
  have hmem {c : Char} {zeros : Nat} (hc : c ∈ first :: more ∨ c ∈ List.replicate zeros '0') :
      isDigit c = true := hc.elim (hdigits c) isDigit_of_mem_replicate
  unfold positional
  split_ifs with hbefore hafter
  · have hliteral : IsLiteral
        (['0'] ++ '.' :: (List.replicate (-point).toNat '0' ++ first :: more)) :=
      .fraction .single (by simp) fun c hc => hmem (List.mem_append.1 hc).symm
    exact hliteral
  · have hwhole : IsWhole
        (first :: (more ++ List.replicate (point.toNat - (first :: more).length) '0')) :=
      .run hfirst fun c hc => hmem (List.mem_append.1 (List.cons_append ▸ hc))
    exact .fraction hwhole (List.cons_ne_nil _ _) (by simp; rfl)
  · have htake : (first :: more).take point.toNat = first :: more.take (point.toNat - 1) := by
      obtain ⟨k, hk⟩ := Nat.exists_eq_succ_of_ne_zero (show point.toNat ≠ 0 by omega)
      rw [hk, List.take_succ_cons, Nat.succ_sub_one]
    refine .fraction ?_ ?_ fun c hc => hdigits c (List.mem_of_mem_drop hc)
    · rw [htake]
      refine .run hfirst fun c hc => hdigits c (List.mem_of_mem_take (i := point.toNat) ?_)
      rwa [htake]
    · intro hnil
      rw [List.drop_eq_nil_iff] at hnil
      exact hafter hnil

/-- Digits with a power of ten make a literal. -/
theorem isLiteral_scientific {first : Char} {more : List Char} (hfirst : first ≠ '0')
    (hdigits : ∀ c ∈ first :: more, isDigit c = true) (point : Int) :
    IsLiteral (scientific (first :: more) point) := by
  have hwhole : IsWhole [first] :=
    .run hfirst fun c hc => hdigits c (List.mem_singleton.1 hc ▸ List.mem_cons_self)
  have hsign : (if point - 1 < 0 then '-' else '+') = '-' ∨
      (if point - 1 < 0 then '-' else '+') = '+' := by
    split
    · exact .inl rfl
    · exact .inr rfl
  have hne : Text.padStart 2 '0' (natDigits (point - 1).natAbs) ≠ [] := by
    exact List.append_ne_nil_of_right_ne_nil _ (Text.natDigits_ne_nil _)
  have hpower : ∀ c ∈ Text.padStart 2 '0' (natDigits (point - 1).natAbs), isDigit c = true := by
    intro c hc
    rcases List.mem_append.1 hc with hpad | hdigit
    · exact isDigit_of_mem_replicate hpad
    · exact isDigit_of_mem_natDigits hdigit
  cases more with
  | nil => exact .power hwhole hsign hne hpower
  | cons second more =>
      exact .fractionPower hwhole (List.cons_ne_nil second more)
        (fun c hc => hdigits c (List.mem_cons_of_mem first hc)) hsign hne hpower

/-- The magnitude of a finite number is written as a literal. -/
theorem isLiteral_magnitudeText (mantissa : Nat) (exponent : Int) :
    IsLiteral (magnitudeText mantissa exponent) := by
  by_cases hmantissa : mantissa = 0
  · rw [magnitudeText, if_pos hmantissa]
    exact .fraction .single (List.cons_ne_nil _ _) (by simp; rfl)
  · have hpos : 0 < (shortest mantissa exponent).digits := firstOnGrids_pos _ _
    obtain ⟨first, more, hmore, hfirst, hdigits⟩ := exists_significant hpos
    rw [magnitudeText, if_neg hmantissa]
    dsimp only
    rw [hmore]
    split
    · exact isLiteral_positional hfirst hdigits _
    · exact isLiteral_scientific hfirst hdigits _

end FrameLens.Binary64

namespace FrameLens.Json

open FrameLens.Text (natDigits intDigits)

variable {rest : List Char}

/-! ## Numbers as values -/

theorem ne_of_isDigit {c other : Char} (hc : isDigit c = true) (hother : isDigit other = false) :
    c ≠ other := by
  rintro rfl
  rw [hc] at hother
  cases hother

theorem readAtom_digit {c : Char} {text : List Char} (hc : isDigit c = true) :
    readAtom (c :: text) = readMagnitude false (c :: text) := by
  rw [readAtom]
  all_goals
    intros
    rename_i heq
    exact absurd (List.cons.inj heq).1 (ne_of_isDigit hc rfl)

theorem readAtom_minus {c : Char} {text : List Char} (hc : isDigit c = true) :
    readAtom ('-' :: c :: text) = readMagnitude true (c :: text) := by
  rw [readAtom]
  rintro _ heq
  rw [(List.cons.inj heq).1] at hc
  cases hc

theorem IsWhole.exists_cons {whole : List Char} (hwhole : IsWhole whole) :
    ∃ first more, whole = first :: more ∧ isDigit first = true := by
  cases hwhole with
  | single => exact ⟨'0', [], rfl, rfl⟩
  | @run first more hfirst hdigits => exact ⟨first, more, rfl, hdigits first List.mem_cons_self⟩

theorem IsLiteral.exists_cons {text : List Char} (htext : IsLiteral text) :
    ∃ first more, text = first :: more ∧ isDigit first = true := by
  cases htext with
  | fraction hwhole =>
      obtain ⟨first, more, rfl, hfirst⟩ := hwhole.exists_cons
      exact ⟨first, _, rfl, hfirst⟩
  | power hwhole =>
      obtain ⟨first, more, rfl, hfirst⟩ := hwhole.exists_cons
      exact ⟨first, _, rfl, hfirst⟩
  | fractionPower hwhole =>
      obtain ⟨first, more, rfl, hfirst⟩ := hwhole.exists_cons
      exact ⟨first, _, rfl, hfirst⟩

/-- An integer is read back from its digits, unless there are too many. -/
theorem readAtom_intDigits {value : Int} (hvalue : value.natAbs < 10 ^ Text.maxIntegerDigits)
    (hrest : EndsNumber rest) :
    readAtom (intDigits value ++ rest) = some (int value, rest) := by
  obtain ⟨first, more, heq, hfirst⟩ := (isWhole_natDigits value.natAbs).exists_cons
  have hread (negative : Bool) :
      readMagnitude negative (natDigits value.natAbs ++ rest) =
        some (int (if negative then -Int.ofNat value.natAbs else Int.ofNat value.natAbs), rest) :=
    readMagnitude_natDigits hvalue hrest
  rw [heq] at hread
  unfold intDigits
  split
  · rename_i hneg
    rw [heq]
    dsimp only [List.cons_append]
    rw [readAtom_minus hfirst, ← List.cons_append, hread, if_pos rfl]
    have hvalue : -Int.ofNat value.natAbs = value := by
      rw [Int.ofNat_eq_natCast]
      omega
    rw [hvalue]
  · rename_i hneg
    rw [heq]
    dsimp only [List.cons_append]
    rw [readAtom_digit hfirst, ← List.cons_append, hread, if_neg Bool.false_ne_true]
    have hvalue : Int.ofNat value.natAbs = value := by
      rw [Int.ofNat_eq_natCast]
      omega
    rw [hvalue]

/-- The number that a number with a floating point is read back as. -/
def reread (value : Binary64) : Binary64 :=
  match readAtom (value.text "Infinity" "NaN") with
  | some (real value, _) => value
  | _ => value

/-- The text of a real number is read as one real number, whatever stands behind it. -/
theorem exists_readAtom_text (value : Binary64) :
    ∃ back : Binary64, ∀ rest : List Char, EndsNumber rest →
      readAtom (value.text "Infinity" "NaN" ++ rest) = some (real back, rest) := by
  have hinfinity : "Infinity".toList = ['I', 'n', 'f', 'i', 'n', 'i', 't', 'y'] := by decide
  have hnan : "NaN".toList = ['N', 'a', 'N'] := by decide
  cases value with
  | finite negative mantissa exponent =>
      have hliteral := Binary64.isLiteral_magnitudeText mantissa exponent
      obtain ⟨back, hback⟩ := hliteral.exists_readMagnitude negative
      obtain ⟨first, more, heq, hfirst⟩ := hliteral.exists_cons
      refine ⟨back, fun rest hrest => ?_⟩
      have hread := hback rest hrest
      rw [heq, List.cons_append] at hread
      cases negative with
      | true =>
          rw [Binary64.text, if_pos rfl, heq, List.append_assoc, List.singleton_append,
            List.cons_append, readAtom_minus hfirst, hread]
      | false =>
          rw [Binary64.text, if_neg Bool.false_ne_true, heq, List.nil_append, List.cons_append,
            readAtom_digit hfirst, hread]
  | infinite negative =>
      refine ⟨.infinite negative, fun rest _ => ?_⟩
      rw [Binary64.text, hinfinity]
      cases negative with
      | true => rfl
      | false => rfl
  | nan =>
      refine ⟨.nan, fun rest _ => ?_⟩
      rw [Binary64.text, hnan]
      rfl

/-- The text of a real number is read back as that number is reread. -/
theorem readAtom_text (value : Binary64) (hrest : EndsNumber rest) :
    readAtom (value.text "Infinity" "NaN" ++ rest) = some (real (reread value), rest) := by
  obtain ⟨back, hback⟩ := exists_readAtom_text value
  have hnil := hback [] nofun
  rw [List.append_nil] at hnil
  rw [hback rest hrest, reread, hnil]

end FrameLens.Json
