import FrameLens.Text.Words
import Mathlib.Data.List.DropRight

/-!
# Cutting at the ends of a text

A cut at either end of a text is told by what it leaves: the longest rest that does
not begin, or end, with a sign of the kind that is cut off.
-/

namespace FrameLens.Text

variable {α : Type*} {p : α → Bool} {text rest cut : List α}

/-- Cutting at the end is the library's cut from the right. -/
@[simp]
theorem dropEnd_eq_rdropWhile (p : α → Bool) (text : List α) :
    dropEnd p text = text.rdropWhile p := rfl

/-- What is left of a cut at the start begins with another sign. -/
theorem dropWhile_eq_iff :
    text.dropWhile p = rest ↔
      ∃ cut, text = cut ++ rest ∧ (∀ c ∈ cut, p c = true) ∧ ∀ c ∈ rest.head?, p c = false := by
  constructor
  · rintro rfl
    refine ⟨text.takeWhile p, List.takeWhile_append_dropWhile.symm,
      fun c hc => List.mem_takeWhile_imp hc, fun c hc => ?_⟩
    have hhead := List.head?_dropWhile_not p text
    rw [Option.mem_def.1 hc] at hhead
    exact hhead
  · rintro ⟨cut, rfl, hcut, hrest⟩
    rw [List.dropWhile_append_of_pos hcut]
    cases rest with
    | nil => rfl
    | cons c rest => exact List.dropWhile_cons_of_neg (by simp [hrest c rfl])

/-- What is cut at the start ends before another sign. -/
theorem takeWhile_eq_iff :
    text.takeWhile p = cut ↔
      ∃ rest, text = cut ++ rest ∧ (∀ c ∈ cut, p c = true) ∧ ∀ c ∈ rest.head?, p c = false := by
  constructor
  · rintro rfl
    obtain ⟨other, htext, -, hrest⟩ := dropWhile_eq_iff.1 (rfl : text.dropWhile p = _)
    exact ⟨text.dropWhile p, List.takeWhile_append_dropWhile.symm,
      fun c hc => List.mem_takeWhile_imp hc, hrest⟩
  · rintro ⟨rest, rfl, hcut, hrest⟩
    rw [List.takeWhile_append_of_pos hcut]
    cases rest with
    | nil => simp
    | cons c rest => rw [List.takeWhile_cons_of_neg (by simp [hrest c rfl]), List.append_nil]

/-- What is left of a cut at the end ends with another sign. -/
theorem rdropWhile_eq_iff :
    List.rdropWhile p text = rest ↔
      ∃ cut, text = rest ++ cut ∧ (∀ c ∈ cut, p c = true) ∧
        ∀ c ∈ rest.getLast?, p c = false := by
  rw [List.rdropWhile, List.reverse_eq_iff, dropWhile_eq_iff]
  constructor
  · rintro ⟨cut, htext, hcut, hrest⟩
    refine ⟨cut.reverse, ?_, fun c hc => hcut c (List.mem_reverse.1 hc), ?_⟩
    · rw [← List.reverse_reverse text, htext, List.reverse_append, List.reverse_reverse]
    · rwa [List.head?_reverse] at hrest
  · rintro ⟨cut, rfl, hcut, hrest⟩
    refine ⟨cut.reverse, List.reverse_append, fun c hc => hcut c (List.mem_reverse.1 hc), ?_⟩
    rwa [List.head?_reverse]

theorem exists_eq_rdropWhile_append (p : α → Bool) (text : List α) :
    ∃ cut, text = List.rdropWhile p text ++ cut ∧ (∀ c ∈ cut, p c = true) ∧
      ∀ c ∈ (List.rdropWhile p text).getLast?, p c = false :=
  rdropWhile_eq_iff.1 rfl

theorem rdropWhile_append_of_all (hcut : ∀ c ∈ cut, p c = true) :
    List.rdropWhile p (rest ++ cut) = List.rdropWhile p rest := by
  obtain ⟨other, hrest, hother, hlast⟩ := exists_eq_rdropWhile_append p rest
  refine rdropWhile_eq_iff.2 ⟨other ++ cut, ?_, ?_, hlast⟩
  · rw [← List.append_assoc, ← hrest]
  · intro c hc
    exact (List.mem_append.1 hc).elim (hother c) (hcut c)

theorem rdropWhile_eq_self (hlast : ∀ c ∈ rest.getLast?, p c = false) :
    List.rdropWhile p rest = rest :=
  List.rdropWhile_eq_self_iff.2 fun hne => by
    rw [hlast _ (List.getLast?_eq_getLast_of_ne_nil hne)]
    exact Bool.false_ne_true

/-- A text gets shorter if and only if it ends in a sign that is cut off. -/
theorem length_rdropWhile_lt_iff :
    (List.rdropWhile p text).length < text.length ↔ ∃ rest c, text = rest ++ [c] ∧ p c = true := by
  constructor
  · intro hlt
    obtain ⟨cut, htext, hcut, -⟩ := exists_eq_rdropWhile_append p text
    rcases List.eq_nil_or_concat cut with rfl | ⟨front, c, rfl⟩
    · rw [List.append_nil] at htext
      rw [← htext] at hlt
      exact absurd hlt (lt_irrefl _)
    · rw [List.concat_eq_append] at htext hcut
      exact ⟨List.rdropWhile p text ++ front, c, by rw [List.append_assoc, ← htext],
        hcut c (by simp)⟩
  · rintro ⟨rest, c, rfl, hc⟩
    have hcut : ∀ d ∈ [c], p d = true := by simpa using hc
    rw [rdropWhile_append_of_all hcut, List.length_append, List.length_singleton]
    exact Nat.lt_succ_of_le (List.rdropWhile_prefix p rest).length_le

/-! ## Cuts at both ends -/

/-- A text with cuts at both ends begins and ends with signs that are not cut off. -/
theorem exists_eq_append_rdropWhile_dropWhile (p : α → Bool) (text : List α) :
    ∃ front back, text = front ++ List.rdropWhile p (text.dropWhile p) ++ back ∧
      (∀ c ∈ front, p c = true) ∧ (∀ c ∈ back, p c = true) ∧
      (∀ c ∈ (List.rdropWhile p (text.dropWhile p)).head?, p c = false) ∧
      ∀ c ∈ (List.rdropWhile p (text.dropWhile p)).getLast?, p c = false := by
  obtain ⟨front, htext, hfront, hhead⟩ := dropWhile_eq_iff.1 (rfl : text.dropWhile p = _)
  obtain ⟨back, hrest, hback, hlast⟩ := exists_eq_rdropWhile_append p (text.dropWhile p)
  refine ⟨front, back, ?_, hfront, hback, fun c hc => ?_, hlast⟩
  · rw [List.append_assoc, ← hrest, ← htext]
  · refine hhead c ?_
    rw [hrest, List.head?_append, hc]
    rfl

theorem rdropWhile_dropWhile_infix (p : α → Bool) (text : List α) :
    List.rdropWhile p (text.dropWhile p) <:+: text := by
  obtain ⟨front, back, htext, -⟩ := exists_eq_append_rdropWhile_dropWhile p text
  exact ⟨front, back, htext.symm⟩

/-- Cutting both ends once is enough. -/
theorem rdropWhile_dropWhile_again (p : α → Bool) (text : List α) :
    List.rdropWhile p ((List.rdropWhile p (text.dropWhile p)).dropWhile p) =
      List.rdropWhile p (text.dropWhile p) := by
  obtain ⟨front, back, -, -, -, hhead, hlast⟩ := exists_eq_append_rdropWhile_dropWhile p text
  have hleft : (List.rdropWhile p (text.dropWhile p)).dropWhile p =
      List.rdropWhile p (text.dropWhile p) :=
    dropWhile_eq_iff.2 ⟨[], rfl, nofun, hhead⟩
  rw [hleft, rdropWhile_eq_self hlast]

/-- A text of the kind that is cut is cut to nothing, and no other one is. -/
theorem all_rdropWhile_dropWhile (p : α → Bool) (text : List α) :
    (List.rdropWhile p (text.dropWhile p)).all p = text.all p := by
  obtain ⟨front, back, htext, hfront, hback, -⟩ := exists_eq_append_rdropWhile_dropWhile p text
  conv_rhs => rw [htext]
  rw [List.all_append, List.all_append, List.all_eq_true.2 hfront, List.all_eq_true.2 hback,
    Bool.true_and, Bool.and_true]

/-! ## Blanks -/

variable {blanks word : List Char}

theorem allBlank_iff {text : List Char} : allBlank text = true ↔ ∀ c ∈ text, isBlank c = true :=
  List.all_eq_true

theorem trimLeft_append_of_blank (hblanks : allBlank blanks = true) (word : List Char) :
    trimLeft (blanks ++ word) = trimLeft word :=
  List.dropWhile_append_of_pos (allBlank_iff.1 hblanks)

theorem length_trimRight_le (text : List Char) : (trimRight text).length ≤ text.length := by
  rw [trimRight, dropEnd_eq_rdropWhile]
  exact (List.rdropWhile_prefix isBlank text).length_le

theorem trimRight_append_of_blank (hblanks : allBlank blanks = true) (word : List Char) :
    trimRight (word ++ blanks) = trimRight word :=
  rdropWhile_append_of_all (allBlank_iff.1 hblanks)

theorem trimLeft_eq_self (hhead : ∀ c ∈ word.head?, isBlank c = false) : trimLeft word = word :=
  dropWhile_eq_iff.2 ⟨[], rfl, nofun, hhead⟩

theorem trimRight_eq_self (hlast : ∀ c ∈ word.getLast?, isBlank c = false) :
    trimRight word = word :=
  rdropWhile_eq_self hlast

theorem trim_eq_self (hword : ∀ c ∈ word, isBlank c = false) : trim word = word := by
  rw [trim, trimLeft_eq_self fun c hc => hword c (List.mem_of_mem_head? hc),
    trimRight_eq_self fun c hc => hword c (List.mem_of_getLast? hc)]

/-- A text trimmed at its end is the text without a run of blanks behind it. -/
theorem trimRight_eq_iff {text : List Char} :
    trimRight text = word ↔
      ∃ blanks, text = word ++ blanks ∧ allBlank blanks = true ∧
        ∀ c ∈ word.getLast?, isBlank c = false := by
  simp only [allBlank_iff]
  exact rdropWhile_eq_iff

theorem trimLeft_eq_iff {text : List Char} :
    trimLeft text = word ↔
      ∃ blanks, text = blanks ++ word ∧ allBlank blanks = true ∧
        ∀ c ∈ word.head?, isBlank c = false := by
  simp only [allBlank_iff]
  exact dropWhile_eq_iff

theorem trim_append_of_blank (hblanks : allBlank blanks = true) (word : List Char) :
    trim (blanks ++ word) = trim word :=
  congrArg trimRight (trimLeft_append_of_blank hblanks word)

/-! ## The last character that can be seen -/

/-- The last character that is not blank. -/
def lastVisible? (text : List Char) : Option Char :=
  (text.filter fun c => !isBlank c).getLast?

theorem filter_of_blank (hblanks : ∀ c ∈ blanks, isBlank c = true) :
    blanks.filter (fun c => !isBlank c) = [] :=
  List.filter_eq_nil_iff.2 fun c hc => by simp [hblanks c hc]

theorem lastVisible?_append_of_blank (text : List Char)
    (hblanks : ∀ c ∈ blanks, isBlank c = true) :
    lastVisible? (text ++ blanks) = lastVisible? text := by
  rw [lastVisible?, List.filter_append, filter_of_blank hblanks, List.append_nil, lastVisible?]

theorem lastVisible?_blank_append (text : List Char)
    (hblanks : ∀ c ∈ blanks, isBlank c = true) :
    lastVisible? (blanks ++ text) = lastVisible? text := by
  rw [lastVisible?, List.filter_append, filter_of_blank hblanks, List.nil_append, lastVisible?]

theorem lastVisible?_concat {c : Char} (text : List Char) (hc : isBlank c = false) :
    lastVisible? (text ++ [c]) = some c := by
  rw [lastVisible?, List.filter_append, List.filter_singleton, hc]
  simp

/-- A text trimmed at its end ends with its last visible character. -/
theorem getLast?_trimRight (text : List Char) :
    (trimRight text).getLast? = lastVisible? text := by
  obtain ⟨blanks, htext, hblanks, hlast⟩ := trimRight_eq_iff.1 (rfl : trimRight text = _)
  conv_rhs => rw [htext, lastVisible?_append_of_blank _ (allBlank_iff.1 hblanks)]
  rcases List.eq_nil_or_concat (trimRight text) with hnil | ⟨front, c, hconcat⟩
  · rw [hnil]
    rfl
  · rw [List.concat_eq_append] at hconcat
    rw [hconcat] at hlast ⊢
    rw [lastVisible?_concat front (hlast c (by simp)), List.getLast?_concat]

theorem getLast?_trim (text : List Char) : (trim text).getLast? = lastVisible? text := by
  obtain ⟨blanks, htext, hblanks, -⟩ := trimLeft_eq_iff.1 (rfl : trimLeft text = _)
  rw [trim, getLast?_trimRight]
  conv_rhs => rw [htext, lastVisible?_blank_append _ (allBlank_iff.1 hblanks)]

theorem lastVisible?_rdropWhile {drop : Char → Bool} (hdrop : ∀ c, drop c = true → isBlank c = true)
    (text : List Char) : lastVisible? (List.rdropWhile drop text) = lastVisible? text := by
  obtain ⟨cut, htext, hcut, -⟩ := exists_eq_rdropWhile_append drop text
  conv_rhs => rw [htext, lastVisible?_append_of_blank _ fun c hc => hdrop c (hcut c hc)]

/-- What can be seen last stands somewhere, with nothing but blanks behind it. -/
theorem exists_eq_of_lastVisible? {text : List Char} {c : Char}
    (hlast : lastVisible? text = some c) :
    ∃ front back, text = front ++ c :: back ∧ (∀ d ∈ back, isBlank d = true) ∧
      isBlank c = false := by
  rw [← getLast?_trimRight] at hlast
  obtain ⟨back, htext, hback, hvisible⟩ := trimRight_eq_iff.1 (rfl : trimRight text = _)
  obtain ⟨front, hfront⟩ := List.getLast?_eq_some_iff.1 hlast
  refine ⟨front, back, ?_, allBlank_iff.1 hback, hvisible c hlast⟩
  rw [htext, hfront, List.append_assoc, List.singleton_append]

end FrameLens.Text
