import FrameLens.Proofs.Lexis.Extents

/-!
# Where the scanner sees a region

The scanner's tests for the opening of a region look at the characters before a
place from the nearest on.  Each of them agrees with the form of the grammar
that opens there.
-/

namespace FrameLens.Lexis

open FrameLens.Text (isWordChar isAlphanumeric isDigit indexOf?)

/-! ## What stands before a place -/

/-- The test on the text before, which is read in reverse, is whether it ends outside a
word. -/
theorem startsWord_reverse (before : List Char) :
    Region.startsWord before.reverse = true ↔ EndsOutsideWord before := by
  rw [EndsOutsideWord, ← List.head?_reverse]
  cases before.reverse with
  | nil => simp [Region.startsWord]
  | cons c earlier => simp [Region.startsWord]

/-- The test of what stands before an `R`, which is read in reverse. -/
theorem mayOpenRaw_reverse (before : List Char) :
    Region.mayOpenRaw before.reverse = true ↔ MarksRaw before := by
  have hmark (mark : List Char) :
      (mark.reverse.isPrefixOf before.reverse &&
          Region.startsWord (before.reverse.drop mark.reverse.length)) = true ↔
        ∃ earlier, before = earlier ++ mark ∧ EndsOutsideWord earlier := by
    rw [Bool.and_eq_true, List.isPrefixOf_iff_prefix, List.reverse_prefix]
    constructor
    · rintro ⟨⟨earlier, rfl⟩, hstart⟩
      rw [List.reverse_append, List.drop_left, startsWord_reverse] at hstart
      exact ⟨earlier, rfl, hstart⟩
    · rintro ⟨earlier, rfl, hstart⟩
      rw [List.reverse_append, List.drop_left, startsWord_reverse]
      exact ⟨List.suffix_append _ _, hstart⟩
  have hmarks : Region.encodingMarks =
      [['u', '8'], ['u'], ['U'], ['L']].map List.reverse := rfl
  rw [Region.mayOpenRaw, Bool.or_eq_true, startsWord_reverse, hmarks, List.any_map,
    List.any_eq_true, MarksRaw]
  simp only [Function.comp_apply, hmark]

theorem isNumberChar_iff (c : Char) :
    Region.isNumberChar c = true ↔ isAlphanumeric c ∨ c ∈ ['_', '\'', '.'] := by
  simp [Region.isNumberChar, or_assoc]

/-- The test for a quote between digits, with the text before it read in reverse. -/
theorem separatesDigits_reverse (before after : List Char) :
    Region.separatesDigits before.reverse after = true ↔
      SeparatesDigits before after := by
  have hrun : ((before.reverse.takeWhile Region.isNumberChar).getLast?.any isDigit) = true ↔
      ∃ earlier digit run, before = earlier ++ digit :: run ∧ isDigit digit ∧
        (∀ c ∈ digit :: run, Region.isNumberChar c) ∧
        ∀ c, earlier.getLast? = some c → ¬Region.isNumberChar c := by
    constructor
    · intro hdigit
      obtain ⟨digit, hlast, hdigit⟩ := (Option.any_eq_true _ _).1 hdigit
      rw [← List.head?_reverse] at hlast
      obtain ⟨run, hrun⟩ := List.head?_eq_some_iff.1 hlast
      refine ⟨(before.reverse.dropWhile Region.isNumberChar).reverse, digit, run, ?_,
        hdigit, ?_, ?_⟩
      · rw [← hrun, ← List.reverse_append, List.takeWhile_append_dropWhile,
          List.reverse_reverse]
      · intro c hc
        rw [← hrun, List.mem_reverse] at hc
        exact List.mem_takeWhile_imp hc
      · intro c hc
        rw [List.getLast?_reverse] at hc
        have hhead := List.head?_dropWhile_not Region.isNumberChar before.reverse
        rw [hc] at hhead
        simpa using hhead
    · rintro ⟨earlier, digit, run, rfl, hdigit, hrun, hearlier⟩
      rw [List.reverse_append, takeWhile_of_run]
      · simp [hdigit]
      · intro c hc
        exact hrun c (List.mem_reverse.1 hc)
      · intro c hc
        rw [List.head?_reverse] at hc
        simpa using hearlier c hc
  simp only [isNumberChar_iff] at hrun
  rw [SeparatesDigits, ← hrun, ← List.head?_reverse]
  cases before.reverse with
  | nil => simp [Region.separatesDigits]
  | cons c earlier =>
      cases after with
      | nil => simp [Region.separatesDigits]
      | cons next after =>
          simp [Region.separatesDigits, and_assoc]

/-! ## Openers -/

/-- An opener that begins the text is found by its length. -/
theorem verbatimOpener?_eq_some {opener text : List Char}
    (hopener : opener ∈ verbatimOpeners) (hbegins : opener <+: text) :
    Region.verbatimOpener? text = some opener.length := by
  obtain ⟨rest, rfl⟩ := hbegins
  simp only [verbatimOpeners, List.mem_cons, List.not_mem_nil, or_false] at hopener
  rcases hopener with rfl | rfl | rfl <;> rfl

/-- The length that is found is that of an opener. -/
theorem exists_verbatimOpener {text : List Char} {length : Nat}
    (hsome : Region.verbatimOpener? text = some length) :
    ∃ opener ∈ verbatimOpeners, opener <+: text ∧ opener.length = length := by
  unfold Region.verbatimOpener? at hsome
  split at hsome
  · exact ⟨['@', '"'], by simp [verbatimOpeners], ⟨_, rfl⟩, by simpa using hsome⟩
  · exact ⟨['$', '@', '"'], by simp [verbatimOpeners], ⟨_, rfl⟩, by simpa using hsome⟩
  · exact ⟨['@', '$', '"'], by simp [verbatimOpeners], ⟨_, rfl⟩, by simpa using hsome⟩
  · simp at hsome

theorem isBadDelimiterChar_iff (c : Char) :
    Region.isBadDelimiterChar c = true ↔
      c ∈ [' ', '(', ')', '\\', '\t', '\x0b', '\x0c', '\r', '\n', '"'] := by
  simp [Region.isBadDelimiterChar]

/-- A delimiter holds no parenthesis, so it ends at the first one. -/
theorem delimiter?_eq_some {delimiter : List Char} (hdelimiter : IsDelimiter delimiter)
    (rest : List Char) :
    Region.delimiter? (delimiter ++ '(' :: rest) = some delimiter := by
  have hbad : delimiter.any Region.isBadDelimiterChar = false := by
    rw [List.any_eq_false]
    intro c hc
    simpa [isBadDelimiterChar_iff] using hdelimiter.allowed c hc
  have hopen : ¬['('] <:+: (delimiter ++ ['(']).dropLast := by
    rw [List.dropLast_concat]
    intro hinside
    exact hdelimiter.allowed '(' (hinside.subset (by simp)) (by simp)
  have hroom : (delimiter ++ '(' :: rest).take (Region.maxDelimiter + 1) =
      delimiter ++ ['('] ++ rest.take (Region.maxDelimiter - delimiter.length) := by
    have hlength := hdelimiter.length_le
    rw [List.take_append, List.take_of_length_le (by simp [Region.maxDelimiter]; omega),
      List.append_assoc, Region.maxDelimiter,
      show 16 + 1 - delimiter.length = (16 - delimiter.length) + 1 by omega]
    rfl
  rw [Region.delimiter?, hroom, indexOf?_append (by simp) _ _ hopen]
  simp [hbad]

/-- A delimiter that is read is one, and a parenthesis stands behind it. -/
theorem delimiter?_sound {delimiter body : List Char}
    (hsome : Region.delimiter? body = some delimiter) :
    IsDelimiter delimiter ∧ delimiter ++ ['('] <+: body := by
  unfold Region.delimiter? at hsome
  split at hsome
  · simp at hsome
  case _ length hlength =>
    -- The parenthesis that was found is the first one.
    have hfound : ['('] <:+: body.take (Region.maxDelimiter + 1) := by
      by_contra hmissing
      rw [indexOf?_eq_none (by simp) hmissing] at hlength
      simp at hlength
    obtain ⟨inner, rest, hinner, hfirst⟩ := exists_first_occurrence (by simp) hfound
    rw [hinner, indexOf?_append (by simp) _ _ hfirst, Option.some.injEq] at hlength
    have hbegins : inner ++ ['('] <+: body :=
      (hinner ▸ List.prefix_append _ rest).trans (List.take_prefix _ _)
    have htake : body.take length = inner := by
      obtain ⟨more, rfl⟩ := hbegins
      rw [← hlength, List.append_assoc, List.take_left]
    simp only [htake, Option.ite_none_left_eq_some, Option.some.injEq] at hsome
    obtain ⟨hbad, rfl⟩ := hsome
    refine ⟨⟨?_, fun c hc => ?_⟩, hbegins⟩
    · have hroom := congrArg List.length hinner
      simp only [List.length_take, List.length_append, List.length_singleton,
        Region.maxDelimiter] at hroom
      omega
    · rw [← isBadDelimiterChar_iff]
      intro hc'
      exact hbad (List.any_eq_true.2 ⟨c, hc, hc'⟩)

/-- The length of a delimited literal whose opener is valid. -/
theorem delimitedLiteral?_eq_some {delimiter : List Char}
    (hdelimiter : IsDelimiter delimiter) (text : List Char) :
    Region.delimitedLiteral? (delimitedOpener delimiter ++ text) =
      some ((delimitedOpener delimiter).length +
        throughFirst (delimitedCloser delimiter) text) := by
  have hbody : (delimitedOpener delimiter ++ text).drop 2 = delimiter ++ '(' :: text := by
    simp [delimitedOpener]
  have hrest : (delimitedOpener delimiter ++ text).drop (delimiter.length + 3) = text := by
    rw [List.drop_append_of_le_length (by simp [delimitedOpener])]
    simp [delimitedOpener]
  have hcloser : ')' :: delimiter ++ ['"'] = delimitedCloser delimiter := rfl
  have hlength : (delimitedOpener delimiter).length = delimiter.length + 3 := by
    simp [delimitedOpener]
  rw [Region.delimitedLiteral?, hbody, delimiter?_eq_some hdelimiter]
  simp only [hrest, hcloser, throughFirst, List.length_append, hlength]
  cases indexOf? (delimitedCloser delimiter) text with
  | none => rfl
  | some k => simp only [Nat.add_assoc]

end FrameLens.Lexis
