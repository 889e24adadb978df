import FrameLens.Text.Encoding
import FrameLens.Proofs.Json.Strings
import Mathlib.Algebra.Group.Nat.Defs

/-!
# Decoded source files

Decoding a source file undoes every encoding that the file may have, with or without a byte order
mark.  Whatever the octets of a file without a mark are, the ASCII characters of its text are those
of the octets, in order: a malformed part never takes one of them along.
-/

namespace FrameLens

/-! ## Octets that are not UTF-8 -/

namespace Utf8

variable {octet : UInt8} {octets rest : List UInt8} {text : List Char} {p : Pending}
  {pending : Option Pending}

/-- The ASCII characters of a text. -/
def asciiOf (text : List Char) : List Char :=
  text.filter fun c => c.toNat < 0x80

/-- The octets that are ASCII characters by themselves, as these characters. -/
def asciiIn (octets : List UInt8) : List Char :=
  (octets.filter fun octet => octet < 0x80).map fun octet => Char.ofNat octet.toNat

/-- The least number that a character under way can come to. -/
def Pending.least (p : Pending) : Nat :=
  (p.bits * 0x40 + (p.low.toNat - 0x80)) * 0x40 ^ (p.wanted - 1)

/-- The number that a character under way stays below. -/
def Pending.bound (p : Pending) : Nat :=
  (p.bits * 0x40 + (p.high.toNat - 0x80) + 1) * 0x40 ^ (p.wanted - 1)

/-- All that a character under way can come to are characters, none of them in ASCII. -/
structure Pending.IsSound (p : Pending) : Prop where
  wanted_pos : 0 < p.wanted
  low_min : 0x80 ≤ p.low.toNat
  least_min : 0x80 ≤ p.least
  isChar : p.bound ≤ 0xD800 ∨ 0xE000 ≤ p.least ∧ p.bound ≤ 0x110000

/-- One more octet leaves a part of what a character under way can come to. -/
theorem Pending.narrows (hlow : p.low.toNat ≤ octet.toNat) (hhigh : octet.toNat ≤ p.high.toNat) :
    p.least ≤ (p.bits * 0x40 + (octet.toNat - 0x80)) * 0x40 ^ (p.wanted - 1) ∧
      (p.bits * 0x40 + (octet.toNat - 0x80) + 1) * 0x40 ^ (p.wanted - 1) ≤ p.bound :=
  ⟨Nat.mul_le_mul_right _ (by omega), Nat.mul_le_mul_right _ (by omega)⟩

/-- The last octet of a character that is under way ends a character beyond ASCII. -/
theorem Pending.IsSound.last (hsound : p.IsSound) (hwanted : p.wanted = 1)
    (hlow : p.low.toNat ≤ octet.toNat) (hhigh : octet.toNat ≤ p.high.toNat) :
    0x80 ≤ (Char.ofNat (p.bits * 0x40 + (octet.toNat - 0x80))).toNat := by
  obtain ⟨hleast, hbound⟩ := narrows hlow hhigh
  rw [hwanted, Nat.sub_self, Nat.pow_zero, Nat.mul_one] at hleast hbound
  have hmin := hsound.least_min
  have hvalid : (p.bits * 0x40 + (octet.toNat - 0x80)).isValidChar := by
    obtain hbelow | habove := hsound.isChar
    · exact .inl (by omega)
    · exact .inr (by omega)
  rw [toNat_ofNat hvalid]
  omega

/-- With six more bits to come, from 0 to 63, the bounds are those of the bits so far. -/
theorem Pending.least_open (seen : List UInt8) (more bits : Nat) :
    least ⟨seen, more + 1, 0x80, 0xBF, bits⟩ = bits * 0x40 ^ (more + 1) := by
  simp [least, Nat.pow_succ', Nat.mul_assoc]

theorem Pending.bound_open (seen : List UInt8) (more bits : Nat) :
    bound ⟨seen, more + 1, 0x80, 0xBF, bits⟩ = (bits + 1) * 0x40 ^ (more + 1) := by
  have hsixth : bits * 0x40 + ((0xBF : UInt8).toNat - 0x80) + 1 = (bits + 1) * 0x40 := by
    simp
    omega
  rw [bound]
  dsimp only
  rw [hsixth, Nat.pow_succ', Nat.mul_assoc, Nat.add_sub_cancel]

/-- A character that is under way stays sound with one more octet. -/
theorem Pending.IsSound.next (hsound : p.IsSound) (hwanted : p.wanted ≠ 1)
    (hlow : p.low.toNat ≤ octet.toNat) (hhigh : octet.toNat ≤ p.high.toNat) :
    Pending.IsSound ⟨p.seen ++ [octet], p.wanted - 1, 0x80, 0xBF,
      p.bits * 0x40 + (octet.toNat - 0x80)⟩ := by
  obtain ⟨hleast, hbound⟩ := narrows hlow hhigh
  obtain ⟨more, hmore⟩ : ∃ more, p.wanted - 1 = more + 1 :=
    ⟨p.wanted - 1 - 1, by have := hsound.wanted_pos; omega⟩
  rw [hmore] at hleast hbound ⊢
  refine ⟨Nat.succ_pos more, Nat.le_refl _, ?_, ?_⟩
  · rw [least_open]
    exact Nat.le_trans hsound.least_min hleast
  · rw [least_open, bound_open]
    exact hsound.isChar.imp (Nat.le_trans hbound) fun habove =>
      ⟨Nat.le_trans habove.1 hleast, Nat.le_trans hbound habove.2⟩

theorem asciiIn_of_lt (hlt : octet.toNat < 0x80) (rest : List UInt8) :
    asciiIn (octet :: rest) = Char.ofNat octet.toNat :: asciiIn rest := by
  have hascii : octet < 0x80 := UInt8.lt_iff_toNat_lt.2 hlt
  simp [asciiIn, hascii]

theorem asciiIn_of_le (hle : 0x80 ≤ octet.toNat) (rest : List UInt8) :
    asciiIn (octet :: rest) = asciiIn rest := by
  have hascii : ¬ octet < 0x80 := fun hlt => Nat.not_lt.2 hle (UInt8.lt_iff_toNat_lt.1 hlt)
  simp [asciiIn, hascii]

/-- What a first octet puts out has it as its only ASCII character, if it is one, and what it
begins comes to none. -/
theorem start_spec (octet : UInt8) :
    asciiOf ((start octet).1.map Piece.toChar) = asciiIn [octet] ∧
      ∀ p ∈ (start octet).2, p.IsSound := by
  by_cases hascii : octet.toNat < 0x80
  · have hchar : (Char.ofNat octet.toNat).toNat < 0x80 := by
      rwa [toNat_ofNat (.inl (by omega))]
    rw [asciiIn_of_lt hascii, start, if_pos hascii]
    exact ⟨List.filter_cons_of_pos (decide_eq_true hchar),
      fun p hp => absurd hp (Option.not_mem_none p)⟩
  · rw [asciiIn_of_le (Nat.not_lt.1 hascii), start]
    dsimp only
    rw [if_neg hascii]
    refine ⟨by split_ifs <;> rfl, ?_⟩
    split_ifs <;> rintro p ⟨⟩
    all_goals
      refine ⟨by simp, by simp, ?_, ?_⟩
      · simp only [Pending.least, UInt8.reduceToNat]
        omega
      · simp only [Pending.least, Pending.bound, UInt8.reduceToNat]
        omega

/-- What a step puts out has the octet as its only ASCII character, if it is one. -/
theorem step_spec (hsound : ∀ p ∈ pending, p.IsSound) (octet : UInt8) :
    asciiOf ((step pending octet).1.map Piece.toChar) = asciiIn [octet] ∧
      ∀ p ∈ (step pending octet).2, p.IsSound := by
  cases pending with
  | none => exact start_spec octet
  | some p =>
      have hsound := hsound p rfl
      rw [step]
      split
      · rename_i hfits
        rw [Bool.and_eq_true, decide_eq_true_eq, decide_eq_true_eq, UInt8.le_iff_toNat_le,
          UInt8.le_iff_toNat_le] at hfits
        rw [asciiIn_of_le (Nat.le_trans hsound.low_min hfits.1)]
        dsimp only
        split
        · rename_i hwanted
          have hbeyond := hsound.last hwanted hfits.1 hfits.2
          refine ⟨List.filter_cons_of_neg ?_,
            fun next hnext => absurd hnext (Option.not_mem_none next)⟩
          rw [decide_eq_true_eq, Nat.not_lt]
          exact hbeyond
        · rename_i hwanted
          refine ⟨rfl, fun next hnext => ?_⟩
          cases hnext
          exact hsound.next hwanted hfits.1 hfits.2
      · -- The malformed part is replaced, and the octet is a first one.
        obtain ⟨hstart, hnext⟩ := start_spec octet
        rw [← hstart]
        have hreplaced : ¬ decide ('\uFFFD'.toNat < 0x80) = true := by decide
        exact ⟨List.filter_cons_of_neg hreplaced, hnext⟩

/-- The ASCII characters that are read from octets are those that the octets are by themselves. -/
theorem asciiOf_piecesFrom (hsound : ∀ p ∈ pending, p.IsSound) (octets : List UInt8) :
    asciiOf ((piecesFrom pending octets).map Piece.toChar) = asciiIn octets := by
  induction octets generalizing pending with
  | nil =>
      cases pending with
      | none => rfl
      | some p => rfl
  | cons octet octets ih =>
      obtain ⟨hoctet, hnext⟩ := step_spec hsound octet
      have hcons : asciiIn (octet :: octets) = asciiIn [octet] ++ asciiIn octets := by
        rw [asciiIn, asciiIn, asciiIn, ← List.map_append, ← List.filter_append,
          List.singleton_append]
      rw [hcons, ← hoctet, ← ih hnext, asciiOf, asciiOf, asciiOf, ← List.filter_append,
        ← List.map_append]
      rfl

/-- Decoding keeps the octets of ASCII, whatever stands around them. -/
theorem asciiOf_decode (octets : List UInt8) : asciiOf (decode octets) = asciiIn octets :=
  asciiOf_piecesFrom (fun _ hnone => by cases hnone) octets

/-! ## Octets that are UTF-8 -/

theorem decode_encode (text : List Char) : decode (encode text) = text := by
  rw [decode, pieces_encode, List.map_map]
  exact List.map_id text

theorem toUInt8_add_of_lt (top : Nat) {n k : Nat} (hn : n < k) :
    (top + n).toUInt8 = .ofNat (n % k + top) := by
  rw [Nat.mod_eq_of_lt hn, Nat.add_comm]

/-- The octets of a character are those that it has in a string. -/
theorem encodeChar_eq (c : Char) : encodeChar c = String.utf8EncodeChar c := by
  have hvalid := toNat_valid c
  have hnext (n : Nat) : (0x80 + n).toUInt8 = .ofNat (n + 0x80) := by rw [Nat.add_comm]
  unfold encodeChar String.utf8EncodeChar
  dsimp only [Char.toNat] at hvalid ⊢
  by_cases hone : c.val.toNat < 0x80
  · rw [if_pos hone, if_pos (Nat.le_of_lt_succ hone)]
  rw [if_neg hone, if_neg (show ¬ c.val.toNat ≤ 0x7F by omega)]
  by_cases htwo : c.val.toNat < 0x800
  · have hlead : c.val.toNat / 0x40 < 0x20 := by omega
    rw [if_pos htwo, if_pos (Nat.le_of_lt_succ htwo), toUInt8_add_of_lt _ hlead, hnext]
  rw [if_neg htwo, if_neg (show ¬ c.val.toNat ≤ 0x7FF by omega)]
  by_cases hthree : c.val.toNat < 0x10000
  · have hlead : c.val.toNat / 0x1000 < 0x10 := by omega
    rw [if_pos hthree, if_pos (Nat.le_of_lt_succ hthree), toUInt8_add_of_lt _ hlead, hnext, hnext]
  · have hlead : c.val.toNat / 0x40000 < 8 := by omega
    rw [if_neg hthree, if_neg (show ¬ c.val.toNat ≤ 0xFFFF by omega), toUInt8_add_of_lt _ hlead,
      hnext, hnext, hnext]

/-- The encoding is that of the library. -/
theorem encode_eq (text : List Char) : encode text = text.flatMap String.utf8EncodeChar :=
  congrArg (text.flatMap ·) (funext encodeChar_eq)

/-- A mark is read as a character where it is not taken for a mark. -/
theorem pieces_mark (rest : List UInt8) :
    pieces (0xEF :: 0xBB :: 0xBF :: rest) = .char '\uFEFF' :: pieces rest :=
  piecesFrom_encodeChar_append '\uFEFF' rest

/-- A text begins with what its octets begin with. -/
theorem exists_of_pieces_encode {piece : Piece} {others : List Piece}
    (hpieces : pieces (encode text) = piece :: others) :
    ∃ c left, text = c :: left ∧ piece = .char c ∧ others = left.map .char := by
  rw [pieces_encode, List.map_eq_cons_iff] at hpieces
  obtain ⟨c, left, rfl, rfl, rfl⟩ := hpieces
  exact ⟨c, left, rfl, rfl, rfl⟩

theorem encode_ne_invalid (hstart : start octet = ([.malformed [octet] .invalidStart], none)) :
    encode text ≠ octet :: rest := by
  intro hencode
  have hpieces : pieces (encode text) =
      .malformed [octet] .invalidStart :: piecesFrom none rest := by
    rw [hencode, pieces, piecesFrom, step, hstart]
    rfl
  obtain ⟨c, left, -, hpiece, -⟩ := exists_of_pieces_encode hpieces
  cases hpiece

end Utf8

/-! ## Octets that are UTF-16 -/

namespace Utf16

variable {order : ByteOrder} {n : Nat} {text : List Char}

/-- The octets of a unit. -/
def octetsOf (order : ByteOrder) (n : Nat) : List UInt8 :=
  match order with
  | .littleEndian => [(n % 0x100).toUInt8, (n / 0x100).toUInt8]
  | .bigEndian => [(n / 0x100).toUInt8, (n % 0x100).toUInt8]

/-- The octets of a text: those of its units. -/
def encode (order : ByteOrder) (text : List Char) : List UInt8 :=
  text.flatMap fun c => (CodePoint.char c).units.flatMap (octetsOf order)

/-- Two octets stand for each unit. -/
theorem exists_octetsOf (order : ByteOrder) (hn : n < 0x10000) :
    ∃ a b, octetsOf order n = [a, b] ∧ unit order a b = n := by
  have hlow : (n % 0x100).toUInt8.toNat = n % 0x100 := Utf8.toNat_toUInt8 (by omega)
  have hhigh : (n / 0x100).toUInt8.toNat = n / 0x100 := Utf8.toNat_toUInt8 (by omega)
  cases order with
  | littleEndian => exact ⟨_, _, rfl, by rw [unit, hlow, hhigh, Nat.div_add_mod']⟩
  | bigEndian => exact ⟨_, _, rfl, by rw [unit, hlow, hhigh, Nat.div_add_mod']⟩

theorem isHighHalf_iff : isHighHalf n = true ↔ 0xD800 ≤ n ∧ n < 0xDC00 := by
  rw [isHighHalf, Bool.and_eq_true, decide_eq_true_eq, decide_eq_true_eq]

theorem isLowHalf_iff : isLowHalf n = true ↔ 0xDC00 ≤ n ∧ n < 0xE000 := by
  rw [isLowHalf, Bool.and_eq_true, decide_eq_true_eq, decide_eq_true_eq]

/-- A unit that is no half is a character, whatever comes after it. -/
theorem decode_unit {a b : UInt8} (hhigh : isHighHalf (unit order a b) = false)
    (hlow : isLowHalf (unit order a b) = false) (rest : List UInt8) :
    decode order (a :: b :: rest) = Char.ofNat (unit order a b) :: decode order rest := by
  rcases rest with _ | ⟨c, _ | ⟨d, rest⟩⟩
  · simp [decode, hhigh, hlow]
  · simp [decode, hhigh, hlow]
  · simp [decode, hhigh, hlow]

/-- Two halves are read as one character. -/
theorem decode_pair {a b c d : UInt8} (hhigh : isHighHalf (unit order a b) = true)
    (hlow : isLowHalf (unit order c d) = true) (rest : List UInt8) :
    decode order (a :: b :: c :: d :: rest) =
      Char.ofNat (0x10000 + (unit order a b - 0xD800) * 0x400 + (unit order c d - 0xDC00)) ::
        decode order rest := by
  simp [decode, hhigh, hlow]

theorem decode_units_append (order : ByteOrder) (c : Char) (rest : List UInt8) :
    decode order ((CodePoint.char c).units.flatMap (octetsOf order) ++ rest) =
      c :: decode order rest := by
  have hvalid := Utf8.toNat_valid c
  by_cases hone : c.toNat < 0x10000
  · obtain ⟨a, b, hoctets, hunit⟩ := exists_octetsOf order hone
    have hhigh : isHighHalf (unit order a b) = false := by
      rw [Bool.eq_false_iff, ne_eq, isHighHalf_iff]
      omega
    have hlow : isLowHalf (unit order a b) = false := by
      rw [Bool.eq_false_iff, ne_eq, isLowHalf_iff]
      omega
    rw [CodePoint.units_of_lt hone, List.flatMap_singleton, hoctets]
    exact (decode_unit hhigh hlow rest).trans (by rw [hunit, Char.ofNat_toNat])
  · obtain ⟨a, b, hfirst, hhigh⟩ := exists_octetsOf order
      (n := 0xD800 + (c.toNat - 0x10000) / 0x400) (by omega)
    obtain ⟨a', b', hsecond, hlow⟩ := exists_octetsOf order
      (n := 0xDC00 + (c.toNat - 0x10000) % 0x400) (by omega)
    have hnumber : 0x10000 + (unit order a b - 0xD800) * 0x400 + (unit order a' b' - 0xDC00) =
        c.toNat := by
      omega
    rw [CodePoint.units_of_le (Nat.not_lt.1 hone), List.flatMap_cons, List.flatMap_singleton,
      hfirst, hsecond]
    refine (decode_pair (isHighHalf_iff.2 ?_) (isLowHalf_iff.2 ?_) rest).trans ?_
    · omega
    · omega
    · rw [hnumber, Char.ofNat_toNat]

theorem decode_encode (order : ByteOrder) (text : List Char) :
    decode order (encode order text) = text := by
  induction text with
  | nil => rfl
  | cons c text ih =>
      rw [encode, List.flatMap_cons, decode_units_append, ← encode, ih]

end Utf16

/-! ## Source files -/

/-- The marks with which a file may begin: U+FEFF in UTF-8, or in UTF-16 of one order or the
other. -/
def byteOrderMarks : List (List UInt8) :=
  [[0xEF, 0xBB, 0xBF], [0xFF, 0xFE], [0xFE, 0xFF]]

/-- The mark of UTF-16. -/
def Utf16.mark : Utf16.ByteOrder → List UInt8
  | .littleEndian => [0xFF, 0xFE]
  | .bigEndian => [0xFE, 0xFF]

/-- Without a mark, a text comes back from UTF-8 but for a character at its start that is one. -/
theorem decodeSource_encode (text : List Char) :
    decodeSource (Utf8.encode text) = if text.head? = some '\uFEFF' then text.tail else text := by
  unfold decodeSource
  split
  · rename_i rest hencode
    have hpieces := congrArg Utf8.pieces hencode
    rw [Utf8.pieces_mark] at hpieces
    obtain ⟨c, left, rfl, hc, hleft⟩ := Utf8.exists_of_pieces_encode hpieces
    cases hc
    rw [List.head?_cons, if_pos rfl, List.tail_cons, Utf8.decode, hleft, List.map_map]
    exact List.map_id left
  · rename_i rest hencode
    exact absurd hencode (Utf8.encode_ne_invalid rfl)
  · rename_i rest hencode
    exact absurd hencode (Utf8.encode_ne_invalid rfl)
  · rename_i hmarked _ _
    rw [Utf8.decode_encode, if_neg]
    intro hhead
    obtain ⟨left, rfl⟩ := List.head?_eq_some_iff.1 hhead
    exact hmarked (Utf8.encode left) rfl

/-- Without a mark a source file is UTF-8. -/
theorem decodeSource_of_unmarked {octets : List UInt8}
    (hmarks : ∀ mark ∈ byteOrderMarks, ¬ mark <+: octets) :
    decodeSource octets = Utf8.decode octets := by
  unfold decodeSource
  split
  · exact absurd (List.prefix_append [0xEF, 0xBB, 0xBF] _) (hmarks _ (by decide))
  · exact absurd (List.prefix_append [0xFF, 0xFE] _) (hmarks _ (by decide))
  · exact absurd (List.prefix_append [0xFE, 0xFF] _) (hmarks _ (by decide))
  · rfl

/-- Decoding a source file undoes every encoding of it. A file without a mark keeps all its ASCII
characters in order and gets no other ones, whatever else is in it. -/
theorem decodeSource_undoes :
    (∀ text, decodeSource ([0xEF, 0xBB, 0xBF] ++ text.flatMap String.utf8EncodeChar) = text) ∧
      (∀ order text, decodeSource (Utf16.mark order ++ Utf16.encode order text) = text) ∧
      (∀ text, decodeSource (text.flatMap String.utf8EncodeChar) =
        if text.head? = some '\uFEFF' then text.tail else text) ∧
      ∀ octets, (∀ mark ∈ byteOrderMarks, ¬ mark <+: octets) →
        Utf8.asciiOf (decodeSource octets) = Utf8.asciiIn octets := by
  refine ⟨fun text => ?_, fun order text => ?_, fun text => ?_, fun octets hmarks => ?_⟩
  · rw [← Utf8.encode_eq]
    exact Utf8.decode_encode text
  · cases order with
    | littleEndian => exact Utf16.decode_encode .littleEndian text
    | bigEndian => exact Utf16.decode_encode .bigEndian text
  · rw [← Utf8.encode_eq]
    exact decodeSource_encode text
  · rw [decodeSource_of_unmarked hmarks]
    exact Utf8.asciiOf_decode octets

/-- A character that breaks off, a half and an octet that begins nothing stand before a line feed, a
brace and a quote, which stay. -/
theorem decodeSource_undoes_malformed :
    let octets :=
      [0x66, 0xE2, 0x82, 0x0A, 0xED, 0xA0, 0x80, 0x7B, 0xF0, 0x9F, 0x98, 0x22, 0xC0, 0x7D]
    (∀ mark ∈ byteOrderMarks, ¬ mark <+: octets) ∧
      Utf8.asciiOf (decodeSource octets) = ['f', '\n', '{', '"', '}'] := by
  intro octets
  have hmarks : ∀ mark ∈ byteOrderMarks, ¬ mark <+: octets := by decide
  obtain ⟨-, -, -, hascii⟩ := decodeSource_undoes
  exact ⟨hmarks, (hascii octets hmarks).trans (by decide)⟩

end FrameLens
