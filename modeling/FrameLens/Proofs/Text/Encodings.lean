import FrameLens.Text.Encoding

/-!
# Encoded texts

The octets of a text split into the characters of the text again, with nothing
malformed among them.
-/

namespace FrameLens.Utf8

variable {n bits : Nat} {rest : List UInt8} {p : Pending}

theorem toNat_toUInt8 (hn : n < 0x100) : n.toUInt8.toNat = n :=
  Nat.mod_eq_of_lt hn

theorem toNat_ofNat (hn : n.isValidChar) : (Char.ofNat n).toNat = n := by
  rw [Char.ofNat, dif_pos hn]
  rfl

/-! ## Octets that go on a character

Such an octet carries six bits.
-/

/-- The next octet of a character goes on with it or ends it. -/
theorem step_next (hbits : bits < 0x40) (hlow : p.low.toNat ≤ 0x80 + bits)
    (hhigh : 0x80 + bits ≤ p.high.toNat) :
    step (some p) (0x80 + bits).toUInt8 =
      if p.wanted = 1 then ([.char (Char.ofNat (p.bits * 0x40 + bits))], none)
      else
        ([], some ⟨p.seen ++ [(0x80 + bits).toUInt8], p.wanted - 1, 0x80, 0xBF,
          p.bits * 0x40 + bits⟩) := by
  have hoctet : (0x80 + bits).toUInt8.toNat = 0x80 + bits := toNat_toUInt8 (by omega)
  have hfits : (p.low ≤ (0x80 + bits).toUInt8 && (0x80 + bits).toUInt8 ≤ p.high) = true := by
    rw [Bool.and_eq_true, decide_eq_true_eq, decide_eq_true_eq, UInt8.le_iff_toNat_le,
      UInt8.le_iff_toNat_le, hoctet]
    exact ⟨hlow, hhigh⟩
  simp only [step, hfits, if_true, hoctet, Nat.add_sub_cancel_left]

theorem piecesFrom_last (hwanted : p.wanted = 1) (hbits : bits < 0x40)
    (hlow : p.low.toNat ≤ 0x80 + bits) (hhigh : 0x80 + bits ≤ p.high.toNat) :
    piecesFrom (some p) ((0x80 + bits).toUInt8 :: rest) =
      .char (Char.ofNat (p.bits * 0x40 + bits)) :: piecesFrom none rest := by
  rw [piecesFrom, step_next hbits hlow hhigh, if_pos hwanted]
  rfl

theorem piecesFrom_next (hwanted : p.wanted ≠ 1) (hbits : bits < 0x40)
    (hlow : p.low.toNat ≤ 0x80 + bits) (hhigh : 0x80 + bits ≤ p.high.toNat) :
    piecesFrom (some p) ((0x80 + bits).toUInt8 :: rest) =
      piecesFrom
        (some ⟨p.seen ++ [(0x80 + bits).toUInt8], p.wanted - 1, 0x80, 0xBF,
          p.bits * 0x40 + bits⟩) rest := by
  rw [piecesFrom, step_next hbits hlow hhigh, if_neg hwanted]
  rfl

theorem piecesFrom_start {octet : UInt8} (hstart : start octet = ([], some p)) :
    piecesFrom none (octet :: rest) = piecesFrom (some p) rest := by
  rw [piecesFrom, step, hstart]
  rfl

/-! ## The octets of one character -/

theorem piecesFrom_one (hn : n < 0x80) :
    piecesFrom none (n.toUInt8 :: rest) = .char (Char.ofNat n) :: piecesFrom none rest := by
  have hoctet : n.toUInt8.toNat = n := toNat_toUInt8 (by omega)
  simp [piecesFrom, step, start, hoctet, hn]

theorem piecesFrom_two (hmin : 0x80 ≤ n) (hmax : n < 0x800) :
    piecesFrom none ((0xC0 + n / 0x40).toUInt8 :: (0x80 + n % 0x40).toUInt8 :: rest) =
      .char (Char.ofNat n) :: piecesFrom none rest := by
  have hlead : (0xC0 + n / 0x40).toUInt8.toNat = 0xC0 + n / 0x40 := toNat_toUInt8 (by omega)
  have hstart : start (0xC0 + n / 0x40).toUInt8 =
      ([], some ⟨[(0xC0 + n / 0x40).toUInt8], 1, 0x80, 0xBF, n / 0x40⟩) := by
    simp only [start, hlead]
    rw [if_neg (by omega), if_neg (by omega), if_pos (by omega), Nat.add_sub_cancel_left]
  rw [piecesFrom_start hstart,
    piecesFrom_last rfl (by omega) (Nat.le_add_right _ _) (show _ ≤ 0xBF by omega),
    Nat.div_add_mod' n 0x40]

/-- The bounds of the second octet depend on the first one; what they leave out is written
shorter or belongs to the halves of characters. -/
theorem exists_start_three (hmin : 0x800 ≤ n) (hmax : n < 0x10000)
    (hvalid : n < 0xD800 ∨ 0xE000 ≤ n) :
    ∃ low high : UInt8,
      start (0xE0 + n / 0x1000).toUInt8 =
          ([], some ⟨[(0xE0 + n / 0x1000).toUInt8], 2, low, high, n / 0x1000⟩) ∧
        low.toNat ≤ 0x80 + n / 0x40 % 0x40 ∧ 0x80 + n / 0x40 % 0x40 ≤ high.toNat := by
  have hlead : (0xE0 + n / 0x1000).toUInt8.toNat = 0xE0 + n / 0x1000 := toNat_toUInt8 (by omega)
  simp only [start, hlead]
  rw [if_neg (by omega), if_neg (by omega), if_neg (by omega)]
  by_cases hfirst : n / 0x1000 = 0
  · rw [if_pos (by omega), hfirst]
    exact ⟨0xA0, 0xBF, rfl, show 0xA0 ≤ _ by omega, show _ ≤ 0xBF by omega⟩
  rw [if_neg (by omega)]
  by_cases hhalves : n / 0x1000 = 0xD
  · rw [if_pos (by omega), hhalves]
    exact ⟨0x80, 0x9F, rfl, Nat.le_add_right _ _, show _ ≤ 0x9F by omega⟩
  · rw [if_neg (by omega), if_pos (by omega), Nat.add_sub_cancel_left]
    exact ⟨0x80, 0xBF, rfl, Nat.le_add_right _ _, show _ ≤ 0xBF by omega⟩

theorem piecesFrom_three (hmin : 0x800 ≤ n) (hmax : n < 0x10000)
    (hvalid : n < 0xD800 ∨ 0xE000 ≤ n) :
    piecesFrom none ((0xE0 + n / 0x1000).toUInt8 :: (0x80 + n / 0x40 % 0x40).toUInt8 ::
        (0x80 + n % 0x40).toUInt8 :: rest) =
      .char (Char.ofNat n) :: piecesFrom none rest := by
  obtain ⟨low, high, hstart, hlow, hhigh⟩ := exists_start_three hmin hmax hvalid
  rw [piecesFrom_start hstart, piecesFrom_next (by simp) (by omega) hlow hhigh,
    piecesFrom_last rfl (by omega) (Nat.le_add_right _ _) (show _ ≤ 0xBF by omega)]
  have hbits : (n / 0x1000 * 0x40 + n / 0x40 % 0x40) * 0x40 + n % 0x40 = n := by omega
  rw [hbits]

theorem exists_start_four (hmin : 0x10000 ≤ n) (hmax : n < 0x110000) :
    ∃ low high : UInt8,
      start (0xF0 + n / 0x40000).toUInt8 =
          ([], some ⟨[(0xF0 + n / 0x40000).toUInt8], 3, low, high, n / 0x40000⟩) ∧
        low.toNat ≤ 0x80 + n / 0x1000 % 0x40 ∧ 0x80 + n / 0x1000 % 0x40 ≤ high.toNat := by
  have hlead : (0xF0 + n / 0x40000).toUInt8.toNat = 0xF0 + n / 0x40000 :=
    toNat_toUInt8 (by omega)
  simp only [start, hlead]
  rw [if_neg (by omega), if_neg (by omega), if_neg (by omega), if_neg (by omega),
    if_neg (by omega), if_neg (by omega)]
  by_cases hfirst : n / 0x40000 = 0
  · rw [if_pos (by omega), hfirst]
    exact ⟨0x90, 0xBF, rfl, show 0x90 ≤ _ by omega, show _ ≤ 0xBF by omega⟩
  rw [if_neg (by omega)]
  by_cases hlast : n / 0x40000 = 4
  · rw [if_neg (by omega), if_pos (by omega), hlast]
    exact ⟨0x80, 0x8F, rfl, Nat.le_add_right _ _, show _ ≤ 0x8F by omega⟩
  · rw [if_pos (by omega), Nat.add_sub_cancel_left]
    exact ⟨0x80, 0xBF, rfl, Nat.le_add_right _ _, show _ ≤ 0xBF by omega⟩

theorem piecesFrom_four (hmin : 0x10000 ≤ n) (hmax : n < 0x110000) :
    piecesFrom none ((0xF0 + n / 0x40000).toUInt8 :: (0x80 + n / 0x1000 % 0x40).toUInt8 ::
        (0x80 + n / 0x40 % 0x40).toUInt8 :: (0x80 + n % 0x40).toUInt8 :: rest) =
      .char (Char.ofNat n) :: piecesFrom none rest := by
  obtain ⟨low, high, hstart, hlow, hhigh⟩ := exists_start_four hmin hmax
  rw [piecesFrom_start hstart, piecesFrom_next (by simp) (by omega) hlow hhigh,
    piecesFrom_next (by simp) (by omega) (Nat.le_add_right _ _) (show _ ≤ 0xBF by omega),
    piecesFrom_last rfl (by omega) (Nat.le_add_right _ _) (show _ ≤ 0xBF by omega)]
  have hbits : ((n / 0x40000 * 0x40 + n / 0x1000 % 0x40) * 0x40 + n / 0x40 % 0x40) * 0x40 +
      n % 0x40 = n := by omega
  rw [hbits]

theorem toNat_valid (c : Char) : c.toNat < 0xD800 ∨ 0xE000 ≤ c.toNat ∧ c.toNat < 0x110000 := by
  have hvalid : c.toNat < 0xD800 ∨ 0xDFFF < c.toNat ∧ c.toNat < 0x110000 := c.valid
  omega

/-- The octets of a character are read as that character. -/
theorem piecesFrom_encodeChar_append (c : Char) (rest : List UInt8) :
    piecesFrom none (encodeChar c ++ rest) = .char c :: piecesFrom none rest := by
  have hvalid := toNat_valid c
  unfold encodeChar
  by_cases hone : c.toNat < 0x80
  · rw [if_pos hone, List.cons_append, List.nil_append, piecesFrom_one hone, Char.ofNat_toNat]
  rw [if_neg hone]
  by_cases htwo : c.toNat < 0x800
  · rw [if_pos htwo, List.cons_append, List.cons_append, List.nil_append,
      piecesFrom_two (by omega) htwo, Char.ofNat_toNat]
  rw [if_neg htwo]
  by_cases hthree : c.toNat < 0x10000
  · rw [if_pos hthree, List.cons_append, List.cons_append, List.cons_append, List.nil_append,
      piecesFrom_three (by omega) hthree (by omega), Char.ofNat_toNat]
  · rw [if_neg hthree, List.cons_append, List.cons_append, List.cons_append, List.cons_append,
      List.nil_append, piecesFrom_four (by omega) (by omega), Char.ofNat_toNat]

/-! ## The octets of a text -/

/-- Encoded characters are read as they were. -/
theorem pieces_encode (text : List Char) : pieces (encode text) = text.map .char := by
  unfold pieces
  induction text with
  | nil => rfl
  | cons c text ih =>
      rw [encode, List.flatMap_cons, piecesFrom_encodeChar_append, List.map_cons, ← ih, encode]

/-- Characters alone are never malformed. -/
theorem strictFrom_chars (position : Nat) (text : List Char) :
    strictFrom position (text.map .char) = .ok text := by
  induction text generalizing position with
  | nil => rfl
  | cons c text ih => rw [List.map_cons, strictFrom, ih]

/-- What is written as UTF-8 is read back, whatever characters it has. -/
theorem decodeStrict_encode (text : List Char) : decodeStrict (encode text) = .ok text := by
  rw [decodeStrict, pieces_encode, strictFrom_chars]

end FrameLens.Utf8
