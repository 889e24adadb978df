import FrameLens.Proofs.Enclosing
import FrameLens.Proofs.Pieces
import FrameLens.Proofs.Text.Trimming

/-!
# Blocks of control statements

A header is told to be that of a control statement by a keyword with its parenthesis
right behind it.  A block whose header is spelled so is passed over, in every dialect.
Where a word stands between the keyword and its parenthesis, the header is judged by
what else is in it, and such a block may be reported as the function.
-/

namespace FrameLens

namespace Text

/-! ## Keywords in a text -/

/-- A position is a way to cut the text in two. -/
theorem anyPosition_eq_true_iff {p : Option Char → List Char → Bool} {previous : Option Char}
    {text : List Char} :
    anyPosition p previous text = true ↔
      ∃ lead rest, text = lead ++ rest ∧ p (lead.getLast?.or previous) rest = true := by
  induction text generalizing previous with
  | nil =>
      constructor
      · intro hp
        exact ⟨[], [], rfl, hp⟩
      · rintro ⟨lead, rest, htext, hp⟩
        obtain ⟨rfl, rfl⟩ := List.append_eq_nil_iff.1 htext.symm
        exact hp
  | cons c text ih =>
      have hlast (lead : List Char) :
          (c :: lead).getLast?.or previous = lead.getLast?.or (some c) := by
        rw [List.getLast?_cons]
        cases lead.getLast? <;> rfl
      rw [anyPosition, Bool.or_eq_true, ih]
      constructor
      · rintro (hp | ⟨lead, rest, rfl, hp⟩)
        · exact ⟨[], c :: text, rfl, hp⟩
        · exact ⟨c :: lead, rest, rfl, by rwa [hlast]⟩
      · rintro ⟨lead, rest, htext, hp⟩
        cases lead with
        | nil =>
            rw [List.nil_append] at htext
            exact .inl (htext ▸ hp)
        | cons d lead =>
            obtain ⟨rfl, htail⟩ := List.cons.inj htext
            rw [hlast] at hp
            exact .inr ⟨lead, rest, htail, hp⟩

/-- A keyword is found at the start of a word, with the right text behind it. -/
theorem hasKeyword_eq_true_iff {keywords : List String} {follows : List Char → Bool}
    {text : List Char} :
    hasKeyword keywords follows text = true ↔
      ∃ keyword ∈ keywords, ∃ lead rest, text = lead ++ keyword.toList ++ rest ∧
        (∀ c ∈ lead.getLast?, isWordChar c = false) ∧ follows rest = true := by
  have hstart (lead : List Char) : mayStartWord (lead.getLast?.or none) = true ↔
      ∀ c ∈ lead.getLast?, isWordChar c = false := by
    rw [Option.or_none, mayStartWord, Bool.not_eq_true', Option.any_eq_false]
    simp
  rw [hasKeyword, anyPosition_eq_true_iff]
  simp only [Bool.and_eq_true, List.any_eq_true, List.isPrefixOf_iff_prefix, hstart]
  constructor
  · rintro ⟨lead, rest, rfl, hlead, keyword, hkeyword, ⟨after, rfl⟩, hfollows⟩
    rw [← String.length_toList, List.drop_left] at hfollows
    exact ⟨keyword, hkeyword, lead, after, by rw [List.append_assoc], hlead, hfollows⟩
  · rintro ⟨keyword, hkeyword, lead, rest, rfl, hlead, hfollows⟩
    refine ⟨lead, keyword.toList ++ rest, by rw [List.append_assoc], hlead, keyword, hkeyword,
      List.prefix_append _ _, ?_⟩
    rwa [← String.length_toList, List.drop_left]

/-- A character stands behind blanks if the text can be cut so. -/
theorem blanksThen_eq_true_iff {c : Char} (hc : isBlank c = false) {rest : List Char} :
    blanksThen c rest = true ↔
      ∃ gap after, rest = gap ++ c :: after ∧ ∀ d ∈ gap, isBlank d = true := by
  rw [blanksThen, beq_iff_eq]
  constructor
  · intro hhead
    obtain ⟨gap, hrest, hgap, -⟩ := trimLeft_eq_iff.1 (rfl : trimLeft rest = _)
    obtain ⟨after, hafter⟩ := List.head?_eq_some_iff.1 hhead
    exact ⟨gap, after, by rw [← hafter, ← hrest], allBlank_iff.1 hgap⟩
  · rintro ⟨gap, after, rfl, hgap⟩
    have htrim : trimLeft (gap ++ c :: after) = c :: after :=
      trimLeft_eq_iff.2 ⟨gap, rfl, allBlank_iff.2 hgap, by rintro d ⟨rfl⟩; exact hc⟩
    rw [htrim, List.head?_cons]

/-- The first word of a text, between what stands before it and what stands behind. -/
structure FirstWord (text lead word rest : List Char) : Prop where
  text_eq : text = lead ++ word ++ rest
  ne_nil : word ≠ []
  wordChar : ∀ c ∈ word, isWordChar c = true
  before : ∀ c ∈ lead, isWordChar c = false
  behind : ∀ c ∈ rest.head?, isWordChar c = false

end Text

namespace Header

open FrameLens.Text (FirstWord isBlank isWordChar)

variable {header lead word rest : List Char}

/-! ## Keywords with a parenthesis -/

/-- A text begins with an opening parenthesis, but for blanks. -/
def OpensParen (rest : List Char) : Prop :=
  ∃ gap after, rest = gap ++ '(' :: after ∧ ∀ c ∈ gap, isBlank c = true

/-- A keyword stands in a text with an opening parenthesis right behind it. -/
def Governs (keyword text : List Char) : Prop :=
  ∃ lead rest, text = lead ++ keyword ++ rest ∧
    (∀ c ∈ lead.getLast?, isWordChar c = false) ∧ OpensParen rest

/-- A header is one of control if one of the keywords governs it. -/
theorem isControl_eq_true_iff :
    isControl header = true ↔ ∃ keyword ∈ controlKeywords, Governs keyword.toList header := by
  simp only [isControl, Text.hasKeyword_eq_true_iff,
    Text.blanksThen_eq_true_iff (show isBlank '(' = false by decide)]
  rfl

theorem OpensParen.head_not_word (hopens : OpensParen rest) :
    ∀ c ∈ rest.head?, isWordChar c = false := by
  obtain ⟨gap, after, rfl, hgap⟩ := hopens
  cases gap with
  | nil =>
      rintro c ⟨rfl⟩
      decide
  | cons d gap =>
      rintro c ⟨rfl⟩
      exact Text.isWordChar_of_isBlank (hgap _ List.mem_cons_self)

/-- Two words with no word character behind them are one and the same. -/
theorem word_append_inj {word' rest' : List Char} (hword : ∀ c ∈ word, isWordChar c = true)
    (hrest : ∀ c ∈ rest.head?, isWordChar c = false)
    (hword' : ∀ c ∈ word', isWordChar c = true)
    (hrest' : ∀ c ∈ rest'.head?, isWordChar c = false) (heq : word ++ rest = word' ++ rest') :
    word = word' ∧ rest = rest' := by
  have hrun : (word ++ rest).takeWhile isWordChar = word :=
    Text.takeWhile_eq_iff.2 ⟨rest, rfl, hword, hrest⟩
  have hrun' : (word ++ rest).takeWhile isWordChar = word' :=
    Text.takeWhile_eq_iff.2 ⟨rest', heq, hword', hrest'⟩
  obtain rfl : word = word' := hrun.symm.trans hrun'
  exact ⟨rfl, List.append_cancel_left heq⟩

/-- A keyword that has its parenthesis right behind it is the first word of the text, or
stands behind the first word. -/
theorem governs_iff {text keyword : List Char} (hfirst : FirstWord text lead word rest)
    (hkeyword : keyword ≠ []) (hchars : ∀ c ∈ keyword, isWordChar c = true) :
    Governs keyword text ↔ (keyword = word ∧ OpensParen rest) ∨ Governs keyword rest := by
  obtain ⟨rfl, hne, hword, hbefore, hbehind⟩ := hfirst
  obtain ⟨k, keys, rfl⟩ := List.exists_cons_of_ne_nil hkeyword
  have hk : isWordChar k = true := hchars k List.mem_cons_self
  constructor
  · rintro ⟨lead', rest', htext, hstart, hopens⟩
    rw [List.append_assoc lead'] at htext
    have hfirst (heq : k :: keys ++ rest' = word ++ rest) :
        (k :: keys = word ∧ OpensParen rest) ∨ Governs (k :: keys) rest := by
      obtain ⟨hsame, rfl⟩ := word_append_inj hchars hopens.head_not_word hword hbehind heq
      exact .inl ⟨hsame, hopens⟩
    rcases List.append_eq_append_iff.1 htext with ⟨gap, rfl, hrest⟩ | ⟨inner, hlead, hrest⟩
    · refine .inr ⟨gap, rest', by rw [hrest, List.append_assoc], fun c hc => hstart c ?_, hopens⟩
      rw [List.getLast?_append, hc]
      rfl
    rcases List.append_eq_append_iff.1 hlead with ⟨head, rfl, hsplit⟩ | ⟨head, hsplit, hinner⟩
    · -- The keyword begins in the first word, and so with it.
      cases hlast : head.getLast? with
      | none =>
          rw [List.getLast?_eq_none_iff.1 hlast, List.nil_append] at hsplit
          exact hfirst (by rw [hrest, hsplit])
      | some c =>
          have hc := hstart c (by rw [List.getLast?_append, hlast]; rfl)
          rw [hword c (hsplit ▸ List.mem_append_left _ (List.mem_of_getLast? hlast))] at hc
          cases hc
    · -- It cannot begin before the first word.
      cases head with
      | nil => exact hfirst (by rw [hrest, hinner]; rfl)
      | cons c head =>
          rw [hinner, List.cons_append, List.cons_append] at hrest
          obtain ⟨rfl, -⟩ := List.cons.inj hrest
          rw [hbefore k (hsplit ▸ List.mem_append_right _ List.mem_cons_self)] at hk
          cases hk
  · rintro (⟨rfl, hopens⟩ | ⟨lead', rest', rfl, hstart, hopens⟩)
    · exact ⟨lead, rest, rfl, fun c hc => hbefore c (List.mem_of_getLast? hc), hopens⟩
    · refine ⟨lead ++ word ++ lead', rest', by simp only [List.append_assoc], ?_, hopens⟩
      cases lead' with
      | nil =>
          rw [hbehind k rfl] at hk
          cases hk
      | cons d lead' =>
          rw [List.getLast?_append_of_ne_nil _ (List.cons_ne_nil d lead')]
          exact hstart

/-- The keywords of the statements with a condition or a variable in parentheses. -/
def statementKeywords : List String := ["if", "for", "while", "switch", "catch"]

theorem controlKeywords_word : ∀ keyword ∈ controlKeywords,
    keyword.toList ≠ [] ∧ ∀ c ∈ keyword.toList, isWordChar c = true := by
  have hall : controlKeywords.all (fun keyword =>
      !keyword.toList.isEmpty && keyword.toList.all isWordChar) = true := by decide
  intro keyword hkeyword
  simpa using List.all_eq_true.1 hall keyword hkeyword

theorem statementKeywords_subset : ∀ keyword ∈ statementKeywords, keyword ∈ controlKeywords := by
  decide

/-- A header that begins with a control keyword reads like that of a function exactly if
something else than a parenthesis stands right behind the keyword, and all else in the
header lets it. -/
theorem isFunction_control_iff {hint : List Char} {keyword : String}
    (hkeyword : keyword ∈ statementKeywords)
    (hfirst : FirstWord header lead keyword.toList rest) :
    isFunction header hint = true ↔
      ¬OpensParen rest ∧ (∀ other ∈ controlKeywords, ¬Governs other.toList rest) ∧
        '(' ∈ header ∧ isType header = false ∧ isLambda header = false ∧
        matchesHint header hint = true := by
  have hcontrol : isControl header = false ↔
      ¬OpensParen rest ∧ ∀ other ∈ controlKeywords, ¬Governs other.toList rest := by
    rw [← Bool.not_eq_true, isControl_eq_true_iff]
    push Not
    constructor
    · intro hnone
      refine ⟨fun hopens => ?_, fun other hother hgoverns => ?_⟩
      · obtain ⟨hne, hchars⟩ := controlKeywords_word _ (statementKeywords_subset _ hkeyword)
        exact hnone keyword (statementKeywords_subset _ hkeyword)
          ((governs_iff hfirst hne hchars).2 (.inl ⟨rfl, hopens⟩))
      · obtain ⟨hne, hchars⟩ := controlKeywords_word _ hother
        exact hnone other hother ((governs_iff hfirst hne hchars).2 (.inr hgoverns))
    · rintro ⟨hopens, hnone⟩ other hother hgoverns
      obtain ⟨hne, hchars⟩ := controlKeywords_word _ hother
      rcases (governs_iff hfirst hne hchars).1 hgoverns with ⟨-, hopens'⟩ | hgoverns
      · exact hopens hopens'
      · exact hnone other hother hgoverns
  simp only [isFunction, Bool.and_eq_true, Bool.not_eq_true', List.contains_iff_mem, hcontrol]
  tauto

end Header

namespace Block

open FrameLens.Header (OpensParen Governs statementKeywords controlKeywords)
open FrameLens.Text (FirstWord)

variable {v : View} {target close : Int} {hint : String} {settings : Settings} {brace : Nat}
  {header lead rest : List Char} {keyword : String}

/-- The block at a brace is reported for its header, which reads like that of a function. -/
structure ReportsFunction (v : View) (target : Int) (hint : String) (settings : Settings)
    (brace : Nat) (header : List Char) : Prop where
  found : ∃ span, search v target hint settings = .ok (.block brace span)
  header_eq : Header.before v.cleaned brace settings.headerBacktrack settings.headerMaxLines
    v.dialect.braceInitializers = .ok header
  reads : Header.isFunction header hint.toList = true

/-- No block around the target is accepted that opens behind a brace. -/
def NoneInside (v : View) (target : Int) (hint : String) (settings : Settings) (brace : Nat) :
    Prop :=
  ∀ other close, Reaches v target hint.toList settings other close →
    (other : Int) ≤ target → target < close → other ≤ brace

/-- The block that a search finds is the innermost of those it accepts. -/
theorem noneInside_of_search (htarget : 0 ≤ target) {span : Span}
    (hfound : search v target hint settings = .ok (.block brace span)) :
    NoneInside v target hint settings brace := by
  intro other close hreaches hle hlt
  have hmem := hreaches.mem_openers htarget hle hlt
  have hempty : v.cleaned.isEmpty = false := by
    rw [Array.isEmpty_eq_false_iff]
    rintro hnil
    simpa [hnil] using lt_size_of_mem_openers hmem
  rcases firstAccepted_spec v target hint.toList settings
      (fun _ => lt_size_of_mem_openers) with
    ⟨-, hnone⟩ | ⟨inner, first, outer, close', span', hbraces, hinner, -, -, haccepted⟩
  · exact absurd hreaches (hnone other hmem close)
  rw [search_eq v hempty hint settings haccepted, if_neg (by simp)] at hfound
  cases hfound
  have horder := Nesting.openers_pairwise v.cleaned target
  rw [hbraces] at hmem horder
  rcases List.mem_append.1 hmem with hearlier | hlater
  · exact absurd hreaches (hinner other hearlier close)
  rcases List.mem_cons.1 hlater with rfl | hlater
  · exact le_refl other
  · exact le_of_lt ((List.pairwise_cons.1 (List.pairwise_append.1 horder).2.1).1 other hlater)

/-- Which blocks around a target are reported as functions although their header begins
with the keyword of a control statement: the innermost accepted ones whose keyword has
something else than a parenthesis right behind it, if no control keyword further on has
one and nothing else rules the header out. -/
theorem control_reported_iff
    (hcloses : v.cleaned.matchingBrace? brace = some close) (hle : (brace : Int) ≤ target)
    (hlt : target < close)
    (hheader : Header.before v.cleaned brace settings.headerBacktrack settings.headerMaxLines
      v.dialect.braceInitializers = .ok header)
    (hkeyword : keyword ∈ statementKeywords)
    (hfirst : FirstWord header lead keyword.toList rest) :
    ReportsFunction v target hint settings brace header ↔
      NoneInside v target hint settings brace ∧ ¬OpensParen rest ∧
        (∀ other ∈ controlKeywords, ¬Governs other.toList rest) ∧
        '(' ∈ header ∧ Header.isType header = false ∧ Header.isLambda header = false ∧
        Header.matchesHint header hint.toList = true := by
  rw [← Header.isFunction_control_iff hkeyword hfirst]
  constructor
  · rintro ⟨⟨span, hfound⟩, -, hreads⟩
    exact ⟨noneInside_of_search (by omega) hfound, hreads⟩
  · rintro ⟨hinside, hreads⟩
    have haccepts : Header.accepts header hint.toList = true := by
      rw [Header.accepts, hreads, Bool.true_or]
    obtain ⟨span, hfound, -⟩ := search_complete
      ⟨hcloses, le_of_lt hlt, header, hheader, haccepts⟩ hle hlt hinside
    exact ⟨⟨span, hfound⟩, hheader, hreads⟩

/-- A function with a branch in it. -/
def oneBranch : View :=
  View.ofText [] Dialect.cpp
    "void f()\n\x7b\n    if (a)\n    \x7b\n        g();\n    \x7d\n\x7d\n".toList

/-- The branch is passed over. -/
theorem control_reported_branch :
    ¬ReportsFunction oneBranch 36 "" {} 26 "if (a)".toList := by
  intro hreports
  have hfirst : FirstWord "if (a)".toList [] "if".toList " (a)".toList :=
    ⟨rfl, by decide, List.all_eq_true.1 (by decide), by simp, by rintro c ⟨⟩; decide⟩
  have hcloses : oneBranch.cleaned.matchingBrace? (26 : Nat) = some 45 := by decide
  obtain ⟨-, hparen, -⟩ := (control_reported_iff hcloses (by decide) (by decide) (by decide)
    (show "if" ∈ statementKeywords by decide) hfirst).1 hreports
  exact hparen ⟨[' '], "a)".toList, rfl, List.all_eq_true.1 (by decide)⟩

/-- A function with a branch that is decided when it is compiled. -/
def constantBranch : View :=
  View.ofText [] Dialect.cpp
    "void f()\n\x7b\n    if constexpr (true)\n    \x7b\n        g();\n    \x7d\n\x7d\n".toList

/-- The branch is reported instead of the function around it. -/
theorem constant_branch_reported :
    ¬∀ (v : View) (target : Int) (hint : String) (settings : Settings) (brace : Nat)
        (header lead word rest : List Char),
      ReportsFunction v target hint settings brace header →
      FirstWord header lead word rest →
      ∀ keyword ∈ statementKeywords, word ≠ keyword.toList := by
  intro hnot_keyword
  have hreports : ReportsFunction constantBranch 49 "" {} 39 "if constexpr (true)".toList :=
    ⟨⟨⟨11, 59, 3, 6, .enclosing⟩, by decide +kernel⟩, by decide +kernel, by decide⟩
  have hfirst : FirstWord "if constexpr (true)".toList [] "if".toList " constexpr (true)".toList :=
    ⟨rfl, by decide, List.all_eq_true.1 (by decide), by simp, by rintro c ⟨⟩; decide⟩
  exact hnot_keyword _ _ _ _ _ _ _ _ _ hreports hfirst "if" (by decide) rfl

end Block

end FrameLens
