import FrameLens.Proofs.Lexis.Locality

/-!
# Cleaning and line endings

A text reads the same whichever way its lines end.  With a carriage return before every
line feed it falls into the same regions: no opener and no closer holds a character of a
line ending, and what looks around a place sees no difference between one and two of
them.  A comment to the end of its line takes the carriage return in, and an escape at
the end of a line covers the carriage return in place of the line feed; neither changes
what is left of the line.
-/

namespace FrameLens.Lexis

open FrameLens.Text (isWordChar isAlphanumeric isDigit)

variable {dialect : Dialect} {before text rest pattern head tail : List Char}

/-- The text with a carriage return before every line feed. -/
def withReturns (text : List Char) : List Char :=
  text.flatMap fun c => if c = '\n' then ['\r', '\n'] else [c]

@[simp]
theorem withReturns_nil : withReturns [] = [] := rfl

@[simp]
theorem withReturns_lineFeed (rest : List Char) :
    withReturns ('\n' :: rest) = '\r' :: '\n' :: withReturns rest := rfl

theorem withReturns_cons {c : Char} (hc : c ≠ '\n') (rest : List Char) :
    withReturns (c :: rest) = c :: withReturns rest := by
  rw [withReturns, List.flatMap_cons, if_neg hc]
  rfl

@[simp]
theorem withReturns_append (left right : List Char) :
    withReturns (left ++ right) = withReturns left ++ withReturns right :=
  List.flatMap_append

/-! ## Text without line endings -/

/-- No character of a line ending stands in the text. -/
def IsInline (pattern : List Char) : Prop :=
  ∀ c ∈ pattern, c ≠ '\r' ∧ c ≠ '\n'

instance (pattern : List Char) : Decidable (IsInline pattern) :=
  List.decidableBAll _ pattern

theorem isInline_quotes (width : Nat) : IsInline (quotes width) := by
  intro c hc
  rw [List.eq_of_mem_replicate hc]
  decide

theorem IsDelimiter.isInline {delimiter : List Char} (hdelimiter : IsDelimiter delimiter) :
    IsInline delimiter := by
  intro c hc
  constructor
  · rintro rfl
    exact hdelimiter.allowed _ hc (by simp)
  · rintro rfl
    exact hdelimiter.allowed _ hc (by simp)

/-- A text is inline if its parts are. -/
theorem isInline_append_iff {left right : List Char} :
    IsInline (left ++ right) ↔ IsInline left ∧ IsInline right := by
  simp only [IsInline, List.forall_mem_append]

theorem IsDelimiter.isInline_opener {delimiter : List Char} (hdelimiter : IsDelimiter delimiter) :
    IsInline (delimitedOpener delimiter) := by
  refine isInline_append_iff.2 ⟨isInline_append_iff.2 ⟨?_, hdelimiter.isInline⟩, ?_⟩
  · simp [IsInline]
  · simp [IsInline]

theorem IsDelimiter.isInline_closer {delimiter : List Char} (hdelimiter : IsDelimiter delimiter) :
    IsInline (delimitedCloser delimiter) := by
  refine isInline_append_iff.2 ⟨isInline_append_iff.2 ⟨?_, hdelimiter.isInline⟩, ?_⟩
  · simp [IsInline]
  · simp [IsInline]

theorem withReturns_of_line (htext : '\n' ∉ text) : withReturns text = text := by
  induction text with
  | nil => rfl
  | cons c text ih =>
      have hc : c ≠ '\n' := fun heq => htext (heq ▸ List.mem_cons_self)
      rw [withReturns_cons hc, ih (List.not_mem_of_not_mem_cons htext)]

theorem withReturns_of_inline (hpattern : IsInline pattern) : withReturns pattern = pattern :=
  withReturns_of_line fun hmem => (hpattern '\n' hmem).2 rfl

/-- An inline pattern begins a text whatever its line endings are. -/
theorem prefix_withReturns_iff (hpattern : IsInline pattern) :
    pattern <+: withReturns text ↔ pattern <+: text := by
  induction pattern generalizing text with
  | nil => simp
  | cons p pattern ih =>
      obtain ⟨⟨hreturn, hfeed⟩, hpattern⟩ := List.forall_mem_cons.1 hpattern
      cases text with
      | nil => rfl
      | cons c text =>
          by_cases hc : c = '\n'
          · subst c
            simp [hreturn, hfeed]
          · rw [withReturns_cons hc, List.cons_prefix_cons, List.cons_prefix_cons, ih hpattern]

/-- An inline pattern occurs in a text whatever its line endings are. -/
theorem infix_withReturns_iff (hpattern : IsInline pattern) :
    pattern <:+: withReturns text ↔ pattern <:+: text := by
  induction text with
  | nil => rfl
  | cons c text ih =>
      by_cases hc : c = '\n'
      · subst c
        cases pattern with
        | nil => simp
        | cons p pattern =>
            obtain ⟨hreturn, hfeed⟩ := hpattern p List.mem_cons_self
            simp [List.infix_cons_iff, hreturn, hfeed, ih]
      · rw [withReturns_cons hc, List.infix_cons_iff, List.infix_cons_iff, ih,
          ← withReturns_cons hc, prefix_withReturns_iff hpattern]

/-- Text without line endings at the end stands there without the carriage returns too. -/
theorem exists_eq_append_of_withReturns (htail : IsInline tail)
    (heq : withReturns text = head ++ tail) :
    ∃ inner, text = inner ++ tail ∧ head = withReturns inner := by
  induction tail using List.reverseRecOn generalizing text with
  | nil => exact ⟨text, (List.append_nil text).symm, by simpa using heq.symm⟩
  | append_singleton tail c ih =>
      obtain ⟨hinline, hc⟩ := isInline_append_iff.1 htail
      rcases List.eq_nil_or_concat text with rfl | ⟨text, d, rfl⟩
      · simp at heq
      rw [List.concat_eq_append, withReturns_append, ← List.append_assoc] at heq
      by_cases hd : d = '\n'
      · subst d
        rw [withReturns_lineFeed, withReturns_nil, List.append_cons] at heq
        obtain ⟨-, hlast⟩ := List.append_inj' heq rfl
        obtain rfl : '\n' = c := by simpa using hlast
        exact absurd rfl (hc _ (List.mem_singleton_self _)).2
      · rw [withReturns_cons hd, withReturns_nil] at heq
        obtain ⟨hfront, hlast⟩ := List.append_inj' heq rfl
        obtain rfl : d = c := by simpa using hlast
        obtain ⟨inner, rfl, rfl⟩ := ih hinline hfront
        exact ⟨inner, by simp, rfl⟩

theorem suffix_withReturns_iff (hpattern : IsInline pattern) :
    pattern <:+ withReturns text ↔ pattern <:+ text := by
  constructor
  · rintro ⟨head, heq⟩
    obtain ⟨inner, rfl, -⟩ := exists_eq_append_of_withReturns hpattern heq.symm
    exact List.suffix_append inner pattern
  · rintro ⟨inner, rfl⟩
    rw [withReturns_append, withReturns_of_inline hpattern]
    exact List.suffix_append _ pattern

theorem getLast?_withReturns (text : List Char) :
    (withReturns text).getLast? = text.getLast? := by
  rcases List.eq_nil_or_concat text with rfl | ⟨text, c, rfl⟩
  · rfl
  rw [List.concat_eq_append, withReturns_append, List.getLast?_concat]
  by_cases hc : c = '\n'
  · subst c
    simp
  · simp [withReturns_cons hc]

/-! ## Where a form opens -/

theorem endsOutsideWord_withReturns_iff :
    EndsOutsideWord (withReturns before) ↔ EndsOutsideWord before := by
  rw [EndsOutsideWord, getLast?_withReturns, EndsOutsideWord]

theorem marksRaw_withReturns_iff : MarksRaw (withReturns before) ↔ MarksRaw before := by
  refine or_congr endsOutsideWord_withReturns_iff (exists_congr fun mark =>
    and_congr_right fun hmem => ?_)
  have hmark : ∀ mark ∈ [['u', '8'], ['u'], ['U'], ['L']], IsInline mark := by decide
  have hinline : IsInline mark := hmark mark hmem
  constructor
  · rintro ⟨head, heq, hends⟩
    obtain ⟨inner, rfl, rfl⟩ := exists_eq_append_of_withReturns hinline heq
    exact ⟨inner, rfl, endsOutsideWord_withReturns_iff.1 hends⟩
  · rintro ⟨inner, rfl, hends⟩
    exact ⟨withReturns inner, by rw [withReturns_append, withReturns_of_inline hinline],
      endsOutsideWord_withReturns_iff.2 hends⟩

/-- Neither character of a line ending is alphanumeric. -/
theorem exists_head?_withReturns_iff {after : List Char} :
    (∃ c, (withReturns after).head? = some c ∧ isAlphanumeric c) ↔
      ∃ c, after.head? = some c ∧ isAlphanumeric c := by
  cases after with
  | nil => rfl
  | cons c after =>
      by_cases hc : c = '\n'
      · subst c
        have hreturn : isAlphanumeric '\r' = false := by decide
        have hfeed : isAlphanumeric '\n' = false := by decide
        simp [hreturn, hfeed]
      · rw [withReturns_cons hc, List.head?_cons, List.head?_cons]

/-- A quote between digits is one whatever the line endings are. -/
theorem separatesDigits_withReturns_iff {after : List Char} :
    SeparatesDigits (withReturns before) (withReturns after) ↔ SeparatesDigits before after := by
  rw [SeparatesDigits, getLast?_withReturns, exists_head?_withReturns_iff, SeparatesDigits]
  refine and_congr_right fun _ => and_congr_right fun _ => ?_
  have hnumber : ∀ c, isAlphanumeric c ∨ c ∈ ['_', '\'', '.'] → c ≠ '\r' ∧ c ≠ '\n' := by
    intro c hc
    constructor
    · rintro rfl
      revert hc
      decide
    · rintro rfl
      revert hc
      decide
  constructor
  · rintro ⟨head, digit, run, heq, hdigit, hrun, hhead⟩
    obtain ⟨inner, rfl, rfl⟩ :=
      exists_eq_append_of_withReturns (fun c hc => hnumber c (hrun c hc)) heq
    rw [getLast?_withReturns] at hhead
    exact ⟨inner, digit, run, rfl, hdigit, hrun, hhead⟩
  · rintro ⟨inner, digit, run, rfl, hdigit, hrun, hinner⟩
    rw [← getLast?_withReturns] at hinner
    refine ⟨withReturns inner, digit, run, ?_, hdigit, hrun, hinner⟩
    rw [withReturns_append, withReturns_of_inline fun c hc => hnumber c (hrun c hc)]

/-- Regions open at the same places whatever the line endings are. -/
theorem opens_withReturns_iff (form : Form) :
    Opens dialect form (withReturns before) (withReturns text) ↔
      Opens dialect form before text := by
  have hopener {opener : List Char} (hinline : IsInline opener) :
      opener <+: withReturns text ↔ opener <+: text := prefix_withReturns_iff hinline
  cases form with
  | lineComment => exact hopener (by decide)
  | blockComment => exact hopener (by decide)
  | verbatim =>
      refine and_congr_right fun _ => exists_congr fun opener => and_congr_right fun hmem => ?_
      have hinline : ∀ opener ∈ verbatimOpeners, IsInline opener := by decide
      exact hopener (hinline opener hmem)
  | tripleQuoted => exact and_congr_right fun _ => hopener (by decide)
  | delimited =>
      refine and_congr_right fun _ => and_congr marksRaw_withReturns_iff <|
        exists_congr fun delimiter => and_congr_right fun hdelimiter => hopener ?_
      exact hdelimiter.isInline_opener
  | string => exact hopener (by decide)
  | character =>
      rw [Opens, Opens, hopener (by decide)]
      refine and_congr_right fun hbegins => not_congr ?_
      obtain ⟨after, rfl⟩ := hbegins
      exact separatesDigits_withReturns_iff

/-- The form that begins at a place does not depend on the line endings. -/
theorem begins_withReturns_iff (form : Form) :
    Begins dialect form (withReturns before) (withReturns text) ↔
      Begins dialect form before text := by
  simp only [Begins, opens_withReturns_iff]

/-! ## What a form covers -/

variable {body : List Char}

/-- A body through its closer stays one with other line endings. -/
theorem ThroughFirst.addReturns {closer : List Char} (hinline : IsInline closer)
    (hne : closer ≠ []) (hbody : ThroughFirst closer body rest) :
    ThroughFirst closer (withReturns body) (withReturns rest) := by
  rcases hbody with ⟨⟨inner, rfl⟩, hfirst⟩ | ⟨rfl, hmissing⟩
  · refine .inl ⟨(suffix_withReturns_iff hinline).2 (List.suffix_append _ _), ?_⟩
    obtain ⟨opening, last, rfl⟩ := (List.eq_nil_or_concat closer).resolve_left hne
    rw [List.concat_eq_append] at hinline hfirst ⊢
    have hopening := (isInline_append_iff.1 hinline).1
    have hdrop : (withReturns (inner ++ (opening ++ [last]))).dropLast =
        withReturns (inner ++ opening) := by
      rw [withReturns_append, withReturns_of_inline hinline, ← List.append_assoc,
        List.dropLast_concat, withReturns_append, withReturns_of_inline hopening]
    rw [hdrop, infix_withReturns_iff hinline]
    rwa [← List.append_assoc, List.dropLast_concat] at hfirst
  · exact .inr ⟨rfl, by rwa [infix_withReturns_iff hinline]⟩

theorem Doubled.addReturns (hbody : Doubled body) : Doubled (withReturns body) := by
  induction hbody with
  | nil => exact .nil
  | @char c body hc _ ih =>
      by_cases hfeed : c = '\n'
      · subst c
        exact .char (by decide) (.char hc ih)
      · rw [withReturns_cons hfeed]
        exact .char hc ih
  | pair _ ih => exact .pair ih

theorem ThroughUndoubled.addReturns (hbody : ThroughUndoubled body rest) :
    ThroughUndoubled (withReturns body) (withReturns rest) := by
  have hquote : IsInline ['"'] := by simp [IsInline]
  rcases hbody with ⟨inner, hinner, rfl, hrest⟩ | ⟨rfl, hbody⟩
  · refine .inl ⟨_, hinner.addReturns, ?_, by rwa [prefix_withReturns_iff hquote]⟩
    rw [withReturns_append, withReturns_of_inline hquote]
  · exact .inr ⟨rfl, hbody.addReturns⟩

/-- A backslash at the end of a line escapes the carriage return, and the line feed behind
it needs no escape. -/
theorem Escaped.addReturns {quote : Char} (hquote : IsInline [quote])
    (hbody : Escaped quote body) : Escaped quote (withReturns body) := by
  obtain ⟨hreturn, hfeed⟩ := hquote quote (List.mem_singleton_self _)
  induction hbody with
  | nil => exact .nil
  | @char c body hslash hc _ ih =>
      by_cases hline : c = '\n'
      · subst c
        exact .char (by decide) hreturn.symm (.char hslash hc ih)
      · rw [withReturns_cons hline]
        exact .char hslash hc ih
  | @escape c body _ ih =>
      by_cases hline : c = '\n'
      · subst c
        exact .escape (.char (by decide) hfeed.symm ih)
      · rw [withReturns_cons (by decide), withReturns_cons hline]
        exact .escape ih

/-- A literal through its quote stays one with other line endings. -/
theorem ThroughUnescaped.addReturns {quote : Char} (hquote : IsInline [quote])
    (hbody : ThroughUnescaped quote body rest) :
    ThroughUnescaped quote (withReturns body) (withReturns rest) := by
  have hslash : IsInline ['\\'] := by simp [IsInline]
  rcases hbody with ⟨inner, hinner, rfl⟩ | ⟨rfl, inner, hinner, rfl | rfl⟩
  · refine .inl ⟨_, hinner.addReturns hquote, ?_⟩
    rw [withReturns_append, withReturns_of_inline hquote]
  · exact .inr ⟨rfl, _, hinner.addReturns hquote, .inl rfl⟩
  · refine .inr ⟨rfl, _, hinner.addReturns hquote, .inr ?_⟩
    rw [withReturns_append, withReturns_of_inline hslash]

theorem ThroughRun.addReturns {width : Nat} (hbody : ThroughRun width body rest) :
    ThroughRun width (withReturns body) (withReturns rest) := by
  have hquote : IsInline ['"'] := by simp [IsInline]
  rcases hbody with ⟨inner, run, rfl, hrun, hshort, hlast, hrest⟩ | ⟨rfl, hshort⟩
  · refine .inl ⟨withReturns inner, run, ?_, hrun, ?_, ?_, ?_⟩
    · rw [withReturns_append, withReturns_of_inline (isInline_quotes run)]
    · rwa [infix_withReturns_iff (isInline_quotes width)]
    · rwa [suffix_withReturns_iff hquote]
    · rwa [prefix_withReturns_iff hquote]
  · exact .inr ⟨rfl, by rwa [infix_withReturns_iff (isInline_quotes width)]⟩

/-- But for a comment to the end of its line, a region covers the same text with carriage
returns as without. -/
theorem Covers.addReturns {form : Form} {region : List Char} (hform : form ≠ .lineComment)
    (hcovers : Covers form region rest) :
    Covers form (withReturns region) (withReturns rest) := by
  cases form with
  | lineComment => exact absurd rfl hform
  | blockComment =>
      obtain ⟨body, rfl, hbody⟩ := hcovers
      exact ⟨_, withReturns_append _ _, hbody.addReturns (by simp [IsInline]) (by simp)⟩
  | verbatim =>
      obtain ⟨opener, hopener, body, rfl, hbody⟩ := hcovers
      have hinline : ∀ opener ∈ verbatimOpeners, IsInline opener := by decide
      refine ⟨opener, hopener, _, ?_, hbody.addReturns⟩
      rw [withReturns_append, withReturns_of_inline (hinline opener hopener)]
  | tripleQuoted =>
      obtain ⟨width, body, rfl, hwidth, hstart, hbody⟩ := hcovers
      refine ⟨width, _, ?_, hwidth, ?_, hbody.addReturns⟩
      · rw [withReturns_append, withReturns_of_inline (isInline_quotes width)]
      · rwa [← withReturns_append, prefix_withReturns_iff (by simp [IsInline])]
  | delimited =>
      obtain ⟨delimiter, body, hdelimiter, rfl, hbody⟩ := hcovers
      refine ⟨delimiter, _, hdelimiter, ?_,
        hbody.addReturns hdelimiter.isInline_closer (by simp [delimitedCloser])⟩
      rw [withReturns_append, withReturns_of_inline hdelimiter.isInline_opener]
  | string =>
      obtain ⟨body, rfl, hbody⟩ := hcovers
      exact ⟨_, withReturns_append _ _, hbody.addReturns (by simp [IsInline])⟩
  | character =>
      obtain ⟨body, rfl, hbody⟩ := hcovers
      exact ⟨_, withReturns_append _ _, hbody.addReturns (by simp [IsInline])⟩

/-! ## What is left of a text -/

/-- The text without the characters that stand directly before a line feed. -/
def dropBeforeLineFeeds : List Char → List Char
  | [] => []
  | c :: rest =>
    if rest.head? = some '\n' then dropBeforeLineFeeds rest else c :: dropBeforeLineFeeds rest

theorem dropBeforeLineFeeds_of_lineFeed (c : Char) (hrest : rest.head? = some '\n') :
    dropBeforeLineFeeds (c :: rest) = dropBeforeLineFeeds rest :=
  if_pos hrest

theorem dropBeforeLineFeeds_cons (c : Char) (hrest : rest.head? ≠ some '\n') :
    dropBeforeLineFeeds (c :: rest) = c :: dropBeforeLineFeeds rest :=
  if_neg hrest

/-- Nothing is dropped at the seam of two texts unless a line feed follows. -/
theorem dropBeforeLineFeeds_append (left : List Char) {right : List Char}
    (hright : right.head? ≠ some '\n') :
    dropBeforeLineFeeds (left ++ right) =
      dropBeforeLineFeeds left ++ dropBeforeLineFeeds right := by
  induction left with
  | nil => rfl
  | cons c left ih =>
      have hhead : (left ++ right).head? = some '\n' ↔ left.head? = some '\n' := by
        cases left with
        | nil => simpa using hright
        | cons d left => rfl
      rw [List.cons_append, dropBeforeLineFeeds, dropBeforeLineFeeds, ih]
      simp only [hhead]
      split
      · rfl
      · rfl

theorem dropBeforeLineFeeds_of_line (htext : '\n' ∉ text) : dropBeforeLineFeeds text = text := by
  induction text with
  | nil => rfl
  | cons c text ih =>
      have hrest := List.not_mem_of_not_mem_cons htext
      rw [dropBeforeLineFeeds_cons c fun hhead => hrest (List.mem_of_head? hhead), ih hrest]

theorem head?_withReturns_ne (text : List Char) : (withReturns text).head? ≠ some '\n' := by
  cases text with
  | nil => simp
  | cons c text =>
      by_cases hc : c = '\n'
      · subst c
        simp
      · simpa [withReturns_cons hc] using hc

theorem head?_cleaned_region (region : List Char) :
    ((Piece.region region).cleaned).head? = some '\n' ↔ region.head? = some '\n' := by
  cases region with
  | nil => rfl
  | cons c region =>
      by_cases hc : c = '\n'
      · simp [Piece.cleaned, hc]
      · simp [Piece.cleaned, hc]

/-- The first character left is a line feed if and only if the first one was. -/
theorem Splits.head?_cleaned {pieces : List Piece} (hsplits : Splits dialect before rest pieces) :
    (pieces.flatMap Piece.cleaned).head? = some '\n' ↔ rest.head? = some '\n' := by
  cases hsplits with
  | done => rfl
  | code => rfl
  | @region form before region rest pieces hbegins hcovers _ =>
      have hne := hcovers.ne_nil hbegins.1
      have hcleaned : (Piece.region region).cleaned ≠ [] := by simpa [Piece.cleaned] using hne
      rw [List.flatMap_cons, List.head?_append_of_ne_nil _ hcleaned, head?_cleaned_region,
        List.head?_append_of_ne_nil _ hne]

/-- Without what stands before its line feeds, a region is left as it is left without the
carriage returns. -/
theorem dropBeforeLineFeeds_region (region : List Char) :
    dropBeforeLineFeeds (Piece.region (withReturns region)).cleaned =
      (Piece.region region).cleaned := by
  induction region with
  | nil => rfl
  | cons c region ih =>
      have hhead : ((Piece.region (withReturns region)).cleaned).head? ≠ some '\n' := by
        rw [Ne, head?_cleaned_region]
        exact head?_withReturns_ne region
      by_cases hc : c = '\n'
      · subst c
        calc
          dropBeforeLineFeeds (Piece.region (withReturns ('\n' :: region))).cleaned
              = dropBeforeLineFeeds
                  (' ' :: '\n' :: (Piece.region (withReturns region)).cleaned) := rfl
          _ = '\n' :: (Piece.region region).cleaned := by
              rw [dropBeforeLineFeeds_of_lineFeed _ rfl, dropBeforeLineFeeds_cons _ hhead, ih]
          _ = (Piece.region ('\n' :: region)).cleaned := rfl
      · have hcons (tail : List Char) : (Piece.region (c :: tail)).cleaned =
            ' ' :: (Piece.region tail).cleaned := by
          simp [Piece.cleaned, hc]
        rw [withReturns_cons hc, hcons, dropBeforeLineFeeds_cons _ hhead, ih, hcons]

/-! ## Splitting with carriage returns -/

/-- No region opens at the end of a line. -/
theorem not_opens_of_lineEnding {c : Char} (hc : c = '\r' ∨ c = '\n') (form : Form) :
    ¬Opens dialect form before (c :: rest) := by
  rcases hc with rfl | rfl
  · cases form <;> simp [Opens, verbatimOpeners, delimitedOpener]
  · cases form <;> simp [Opens, verbatimOpeners, delimitedOpener]

/-- A character of a line ending outside of the regions is code. -/
theorem Splits.exists_code {c : Char} {pieces : List Piece} (hc : c = '\r' ∨ c = '\n')
    (hsplits : Splits dialect before (c :: rest) pieces) :
    ∃ later, pieces = .code c :: later ∧ Splits dialect (before ++ [c]) rest later := by
  generalize htext : c :: rest = text at hsplits
  cases hsplits with
  | done => simp at htext
  | code _ hrest =>
      obtain ⟨rfl, rfl⟩ := List.cons.inj htext
      exact ⟨_, rfl, hrest⟩
  | region hbegins => exact absurd (htext ▸ hbegins.1) (not_opens_of_lineEnding hc _)

/-- With carriage returns a text is split in some way, and `left` is left of it but for
the characters before its line feeds. -/
def LeavesWithReturns (dialect : Dialect) (before rest left : List Char) : Prop :=
  ∃ pieces, Splits dialect (withReturns before) (withReturns rest) pieces ∧
    dropBeforeLineFeeds (pieces.flatMap Piece.cleaned) = left

variable {left : List Char}

theorem Splits.head?_cleaned_ne {pieces : List Piece}
    (hsplits : Splits dialect before (withReturns rest) pieces) :
    (pieces.flatMap Piece.cleaned).head? ≠ some '\n' := by
  rw [Ne, hsplits.head?_cleaned]
  exact head?_withReturns_ne rest

theorem LeavesWithReturns.lineFeed
    (hrest : LeavesWithReturns dialect (before ++ ['\n']) rest left) :
    LeavesWithReturns dialect before ('\n' :: rest) ('\n' :: left) := by
  obtain ⟨pieces, hpieces, rfl⟩ := hrest
  have hbefore : withReturns (before ++ ['\n']) = withReturns before ++ ['\r'] ++ ['\n'] := by
    simp
  rw [hbefore] at hpieces
  refine ⟨.code '\r' :: .code '\n' :: pieces, ?_, ?_⟩
  · refine .code (not_opens_of_lineEnding (.inl rfl)) ?_
    exact .code (not_opens_of_lineEnding (.inr rfl)) hpieces
  · rw [List.flatMap_cons, List.flatMap_cons]
    exact (dropBeforeLineFeeds_of_lineFeed _ rfl).trans
      (dropBeforeLineFeeds_cons _ hpieces.head?_cleaned_ne)

theorem LeavesWithReturns.code {c : Char} (hc : c ≠ '\n')
    (hcode : ∀ form, ¬Opens dialect form before (c :: rest))
    (hrest : LeavesWithReturns dialect (before ++ [c]) rest left) :
    LeavesWithReturns dialect before (c :: rest) (c :: left) := by
  obtain ⟨pieces, hpieces, rfl⟩ := hrest
  rw [withReturns_append, withReturns_cons hc, withReturns_nil] at hpieces
  refine ⟨.code c :: pieces, ?_, dropBeforeLineFeeds_cons _ hpieces.head?_cleaned_ne⟩
  rw [withReturns_cons hc]
  refine .code (fun form hopens => hcode form ?_) hpieces
  rwa [← withReturns_cons hc, opens_withReturns_iff] at hopens

/-- A region leaves the same, blanked, with either line ending. -/
theorem LeavesWithReturns.region {form : Form} {region : List Char}
    (hbegins : Begins dialect form before (region ++ rest))
    (hcovers : Covers form (withReturns region) (withReturns rest))
    (hrest : LeavesWithReturns dialect (before ++ region) rest left) :
    LeavesWithReturns dialect before (region ++ rest) ((Piece.region region).cleaned ++ left) := by
  obtain ⟨pieces, hpieces, rfl⟩ := hrest
  rw [withReturns_append] at hpieces
  rw [← begins_withReturns_iff, withReturns_append] at hbegins
  refine ⟨.region (withReturns region) :: pieces, ?_, ?_⟩
  · rw [withReturns_append]
    exact .region hbegins hcovers hpieces
  · rw [List.flatMap_cons, dropBeforeLineFeeds_append _ hpieces.head?_cleaned_ne,
      dropBeforeLineFeeds_region]

/-- A comment to the end of its line takes the carriage return there in, and leaves a
space for it. -/
theorem LeavesWithReturns.comment {region : List Char} (hregion : '\n' ∉ region)
    (hbegins : Begins dialect .lineComment before (region ++ '\n' :: rest))
    (hrest : LeavesWithReturns dialect (before ++ region) ('\n' :: rest) left) :
    LeavesWithReturns dialect before (region ++ '\n' :: rest)
      ((Piece.region region).cleaned ++ left) := by
  obtain ⟨pieces, hpieces, rfl⟩ := hrest
  have hreturns : withReturns (region ++ '\n' :: rest) =
      (region ++ ['\r']) ++ '\n' :: withReturns rest := by
    rw [withReturns_append, withReturns_of_line hregion, withReturns_lineFeed, List.append_cons]
  rw [withReturns_append, withReturns_of_line hregion, withReturns_lineFeed] at hpieces
  obtain ⟨later, rfl, hlater⟩ := hpieces.exists_code (.inl rfl)
  have hfeed : (later.flatMap Piece.cleaned).head? = some '\n' := hlater.head?_cleaned.2 rfl
  refine ⟨.region (region ++ ['\r']) :: later, ?_, ?_⟩
  · have hcovers : Covers .lineComment (region ++ ['\r']) ('\n' :: withReturns rest) :=
      ⟨by simpa using hregion, .inr (List.prefix_append ['\n'] _)⟩
    rw [← begins_withReturns_iff, hreturns] at hbegins
    rw [hreturns]
    exact .region hbegins hcovers (by rwa [← List.append_assoc])
  · have hcleaned : (Piece.region (region ++ ['\r'])).cleaned =
        (Piece.region region).cleaned ++ [' '] := by
      simp [Piece.cleaned]
    have hline : '\n' ∉ (Piece.region region).cleaned := by
      intro hmem
      obtain ⟨c, hc, hblank⟩ := List.mem_map.1 hmem
      split at hblank
      · rename_i hfeed
        exact hregion (hfeed ▸ hc)
      · cases hblank
    calc
      dropBeforeLineFeeds ((Piece.region (region ++ ['\r']) :: later).flatMap Piece.cleaned)
          = dropBeforeLineFeeds ((Piece.region region).cleaned ++
              ' ' :: later.flatMap Piece.cleaned) := by
            rw [List.flatMap_cons, hcleaned, List.append_assoc, List.singleton_append]
      _ = (Piece.region region).cleaned ++ dropBeforeLineFeeds (later.flatMap Piece.cleaned) := by
            rw [dropBeforeLineFeeds_append _ (by simp), dropBeforeLineFeeds_of_line hline,
              dropBeforeLineFeeds_of_lineFeed _ hfeed]
      _ = (Piece.region region).cleaned ++
            dropBeforeLineFeeds ((Piece.code '\r' :: later).flatMap Piece.cleaned) := by
            rw [List.flatMap_cons]
            exact congrArg _ (dropBeforeLineFeeds_of_lineFeed '\r' hfeed).symm

/-- A splitting leaves the same with either line ending. -/
theorem Splits.leavesWithReturns {pieces : List Piece}
    (hsplits : Splits dialect before rest pieces) :
    LeavesWithReturns dialect before rest (pieces.flatMap Piece.cleaned) := by
  induction hsplits with
  | done => exact ⟨[], .done, rfl⟩
  | @code before c rest pieces hcode _ ih =>
      by_cases hc : c = '\n'
      · subst c
        exact ih.lineFeed
      · exact ih.code hc hcode
  | @region form before region rest pieces hbegins hcovers _ ih =>
      rw [List.flatMap_cons]
      by_cases hform : form = .lineComment
      · subst form
        obtain ⟨hregion, rfl | ⟨tail, rfl⟩⟩ := hcovers
        · refine ih.region hbegins ?_
          rw [withReturns_of_line hregion]
          exact ⟨hregion, .inl rfl⟩
        · exact ih.comment hregion hbegins
      · exact ih.region hbegins (hcovers.addReturns hform)

/-- Cleaning does not depend on how lines end: without the characters before its line
feeds, a cleaned text with carriage returns is the cleaned text without them. -/
theorem clean_withReturns (dialect : Dialect) (text : List Char) :
    dropBeforeLineFeeds (clean dialect (withReturns text)) = clean dialect text := by
  obtain ⟨pieces, hpieces⟩ := exists_splits dialect [] text
  obtain ⟨returned, hreturned, hleft⟩ := hpieces.leavesWithReturns
  calc
    dropBeforeLineFeeds (clean dialect (withReturns text))
        = dropBeforeLineFeeds (returned.flatMap Piece.cleaned) :=
          congrArg dropBeforeLineFeeds hreturned.clean_eq
    _ = pieces.flatMap Piece.cleaned := hleft
    _ = clean dialect text := hpieces.clean_eq.symm

end FrameLens.Lexis
