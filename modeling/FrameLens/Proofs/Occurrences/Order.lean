import FrameLens.Proofs.Occurrences

/-!
# The order in which whole identifiers are tried

Up to the target the occurrences of a name are all tried, from the nearest to the
farthest.  After it those that an earlier one overlaps are passed over.  No whole
identifier is lost that way if the name is a word, for a place inside an occurrence
has a word character before it.
-/

namespace FrameLens.Occurrence

open FrameLens.Text (isWordChar)

variable {s : Text} {name : List Char} {hit : Nat}

/-! ## Up to the target -/

/-- Every occurrence is listed downwards. -/
theorem mem_descending_iff {first count : Nat} :
    hit ∈ descending s name first count ↔
      first ≤ hit ∧ hit < first + count ∧ Text.occursAt s name hit = true := by
  constructor
  · exact mem_descending
  · rintro ⟨hfirst, hlast, hoccurs⟩
    obtain ⟨above, below, heq, -⟩ := exists_descending_eq hoccurs hfirst hlast
    rw [heq]
    exact List.mem_append_right above List.mem_cons_self

/-- Occurrences up to the target come nearest first. -/
theorem descending_pairwise (s : Text) (name : List Char) (first count : Nat) :
    (descending s name first count).Pairwise (· > ·) := by
  induction count with
  | zero => exact .nil
  | succ count ih =>
      rw [descending]
      split
      · refine .cons (fun other hother => ?_) ih
        obtain ⟨-, hlt, -⟩ := mem_descending hother
        exact hlt
      · exact ih

/-! ## After the target -/

/-- Occurrences behind the target come nearest first. -/
theorem ascending_pairwise (s : Text) (name : List Char) (count covered i : Nat) :
    (ascending s name count covered i).Pairwise (· < ·) := by
  induction count generalizing covered i with
  | zero => exact .nil
  | succ count ih =>
      cases covered with
      | succ covered =>
          rw [ascending]
          exact ih covered (i + 1)
      | zero =>
          rw [ascending]
          split
          · refine .cons (fun other hother => ?_) (ih _ _)
            obtain ⟨hle, -, -⟩ := mem_ascending hother
            omega
          · exact ih 0 (i + 1)

/-- The character before each of the next `covered` places is part of a word. -/
def InsideWord (s : Text) (covered i : Nat) : Prop :=
  ∀ place, i ≤ place + 1 → place + 1 < i + covered →
    ∃ c, s[place]? = some c ∧ isWordChar c = true

/-- Inside an occurrence of a word no other word begins. -/
theorem insideWord_of_occursAt (hword : ∀ c ∈ name, isWordChar c = true) {i : Nat}
    (hoccurs : Text.occursAt s name i = true) : InsideWord s (name.length - 1) (i + 1) := by
  intro place hle hlt
  obtain ⟨rest, hrest⟩ := (Text.occursAt_iff s name i).1 hoccurs
  obtain ⟨k, rfl⟩ := Nat.exists_eq_add_of_le (show i ≤ place by omega)
  have hk : k < name.length := by omega
  refine ⟨name[k], ?_, hword _ (List.getElem_mem hk)⟩
  rw [← Array.getElem?_toList, ← List.getElem?_drop, ← hrest, List.getElem?_append_left hk,
    List.getElem?_eq_getElem hk]

/-- Where a word stands as a whole identifier, no word character stands before it. -/
theorem WholeAt.not_insideWord (hname : name ≠ []) (hword : ∀ c ∈ name, isWordChar c = true)
    (hwhole : WholeAt s name hit) (hpositive : 0 < hit) {covered : Nat} :
    ¬InsideWord s (covered + 1) hit := by
  intro hinside
  obtain ⟨c, hc, hpart⟩ := hinside (hit - 1) (by omega) (by omega)
  have hbefore := hwhole.ends_before _ (List.head?_eq_some_head hname)
    (hword _ (List.head_mem hname)) hpositive c hc
  rw [hpart] at hbefore
  cases hbefore

/-- Going up, every whole identifier is met, although occurrences that overlap an
earlier one are passed over. -/
theorem mem_ascending_of_wholeAt (hname : name ≠ []) (hword : ∀ c ∈ name, isWordChar c = true)
    (hwhole : WholeAt s name hit) {count covered i : Nat} (hpositive : 0 < i)
    (hinside : InsideWord s covered i) (hfirst : i ≤ hit) (hlast : hit < i + count) :
    hit ∈ ascending s name count covered i := by
  induction count generalizing covered i with
  | zero => omega
  | succ count ih =>
      cases covered with
      | succ covered =>
          rw [ascending]
          have hne : hit ≠ i := by
            rintro rfl
            exact hwhole.not_insideWord hname hword hpositive hinside
          exact ih (by omega) (fun place hle hlt => hinside place (by omega) (by omega))
            (by omega) (by omega)
      | zero =>
          rw [ascending]
          by_cases hoccurs : Text.occursAt s name i = true
          · rw [if_pos hoccurs]
            by_cases heq : hit = i
            · exact heq ▸ List.mem_cons_self
            · exact List.mem_cons_of_mem i (ih (by omega)
                (insideWord_of_occursAt hword hoccurs) (by omega) (by omega))
          · rw [if_neg hoccurs]
            have hne : hit ≠ i := by
              rintro rfl
              exact hoccurs hwhole.occurs
            exact ih (by omega) (fun place hle hlt => by omega) (by omega) (by omega)

/-! ## Whole identifiers among the occurrences -/

/-- A filter whose test never fails keeps what passes the test. -/
theorem filterAuxM_ok {test : Nat → Except OutOfRange Bool} {passes : Nat → Bool}
    {hits : List Nat} (htest : ∀ hit ∈ hits, test hit = .ok (passes hit)) (kept : List Nat) :
    hits.filterAuxM test kept = .ok ((hits.filter passes).reverse ++ kept) := by
  induction hits generalizing kept with
  | nil => rfl
  | cons hit hits ih =>
      obtain ⟨hhit, hrest⟩ := List.forall_mem_cons.1 htest
      rw [List.filterAuxM, hhit, OutOfRange.ok_bind, ih hrest]
      cases hpasses : passes hit <;> simp [hpasses]

/-- Which of the places tried hold a whole identifier can be told at each of them. -/
theorem filterM_isWhole (hname : name ≠ []) {hits : List Nat}
    (hhits : ∀ hit ∈ hits, Text.occursAt s name hit = true) :
    hits.filterM (fun hit : Nat => isWhole s hit name) =
      .ok (hits.filter fun hit => isWhole s hit name = .ok true) := by
  have htest : ∀ hit ∈ hits,
      isWhole s hit name = .ok (decide (isWhole s hit name = .ok true)) := by
    intro hit hhit
    obtain ⟨whole, hok, -⟩ := isWhole_ok hname (hhits hit hhit)
    rw [hok]
    cases whole <;> rfl
  rw [List.filterM, filterAuxM_ok htest, OutOfRange.ok_bind, List.append_nil,
    List.reverse_reverse]
  rfl

/-- The places tried that hold a whole word are, each once, all of them up to the
target that the window and the cutoff reach, the nearest first, and then all of them
after it that the window holds and the cutoff reaches, the nearest first. -/
theorem whole_words_near (s : Text) (name : List Char) (hname : name ≠ [])
    (hword : ∀ c ∈ name, isWordChar c = true) (target window cutoff : Int) :
    ∃ upTo behind : List Nat,
      (near s name target window cutoff).filterM (fun hit : Nat => isWhole s hit name) =
          .ok (upTo ++ behind) ∧
        upTo.Pairwise (· > ·) ∧
        (∀ hit : Nat, hit ∈ upTo ↔ WholeAt s name hit ∧
          max 0 (clampTarget s target - window) ≤ hit ∧ (hit : Int) ≤ clampTarget s target ∧
          clampTarget s target - cutoff ≤ hit) ∧
        behind.Pairwise (· < ·) ∧
        (∀ hit : Nat, hit ∈ behind ↔ WholeAt s name hit ∧ clampTarget s target < hit ∧
          (hit : Int) + name.length ≤ min s.length (clampTarget s target + window) ∧
          (hit : Int) ≤ clampTarget s target + cutoff) := by
  have hclamp : 0 ≤ clampTarget s target := le_max_left _ _
  rw [near]
  split
  · rename_i hempty
    -- An empty text holds no word.
    have hnone (hit : Nat) : ¬WholeAt s name hit := by
      intro hwhole
      have hlength := Text.add_length_le_of_occursAt hname hwhole.occurs
      have hpositive := List.length_pos_iff.2 hname
      have hsize : s.size = 0 := by simpa [hname] using hempty
      omega
    exact ⟨[], [], rfl, .nil, by simp [hnone], .nil, by simp [hnone]⟩
  · dsimp only
    generalize clampTarget s target = T at hclamp ⊢
    rw [filterM_isWhole hname, List.filter_append]
    · refine ⟨_, _, rfl, (descending_pairwise s name _ _).filter _, fun hit => ?_,
        (ascending_pairwise s name _ _ _).filter _, fun hit => ?_⟩
      · rw [List.mem_filter, decide_eq_true_eq, mem_descending_iff]
        constructor
        · rintro ⟨⟨hle, hlt, hoccurs⟩, hwhole⟩
          exact ⟨(isWhole_eq_true_iff hname hoccurs).1 hwhole, by omega, by omega, by omega⟩
        · rintro ⟨hwhole, hwindow, hle, hcutoff⟩
          exact ⟨⟨by omega, by omega, hwhole.occurs⟩,
            (isWhole_eq_true_iff hname hwhole.occurs).2 hwhole⟩
      · rw [List.mem_filter, decide_eq_true_eq]
        constructor
        · rintro ⟨hmem, hwhole⟩
          obtain ⟨hle, hlt, hoccurs⟩ := mem_ascending hmem
          exact ⟨(isWhole_eq_true_iff hname hoccurs).1 hwhole, by omega, by omega, by omega⟩
        · rintro ⟨hwhole, hlt, hwindow, hcutoff⟩
          refine ⟨mem_ascending_of_wholeAt hname hword hwhole (by omega)
            (fun place hle hlt => ?_) (by omega) (by omega),
            (isWhole_eq_true_iff hname hwhole.occurs).2 hwhole⟩
          omega
    · intro hit hhit
      rcases List.mem_append.1 hhit with hupTo | hbehind
      · exact (mem_descending hupTo).2.2
      · exact (mem_ascending hbehind).2.2

/-- A word that overlaps itself, with whole words on both sides of a longer one. -/
def overlapping : Text :=
  "aa aaaa aa aa".toList.toArray

theorem whole_words_near_overlapping :
    ['a', 'a'] ≠ [] ∧ (∀ c ∈ ['a', 'a'], isWordChar c = true) ∧
      ∃ upTo behind : List Nat,
        (near overlapping ['a', 'a'] 4 100 100).filterM
            (fun hit : Nat => isWhole overlapping hit ['a', 'a']) = .ok (upTo ++ behind) ∧
          0 ∈ upTo ∧ 3 ∉ upTo ∧ 8 ∈ behind ∧ 11 ∈ behind := by
  have hword : ∀ c ∈ ['a', 'a'], isWordChar c = true := List.all_eq_true.1 (by decide)
  have hwhole {hit : Nat} (hoccurs : Text.occursAt overlapping ['a', 'a'] hit = true) :=
    isWhole_eq_true_iff (List.cons_ne_nil 'a' ['a']) hoccurs
  obtain ⟨upTo, behind, hfilter, -, hupTo, -, hbehind⟩ :=
    whole_words_near overlapping ['a', 'a'] (by decide) hword 4 100 100
  refine ⟨by decide, hword, upTo, behind, hfilter, ?_, ?_, ?_, ?_⟩
  · exact (hupTo 0).2 ⟨(hwhole (by decide)).1 (by decide), by decide, by decide, by decide⟩
  · exact fun hmem => absurd ((hwhole (by decide)).2 ((hupTo 3).1 hmem).1) (by decide)
  · exact (hbehind 8).2 ⟨(hwhole (by decide)).1 (by decide), by decide, by decide, by decide⟩
  · exact (hbehind 11).2 ⟨(hwhole (by decide)).1 (by decide), by decide, by decide, by decide⟩

end FrameLens.Occurrence
