import FrameLens.Proofs.Lexis.Forms
import Mathlib.Data.List.Infix
import Mathlib.Data.List.TakeWhile
import Mathlib.Tactic.Common

/-!
# How far the regions reach

The scanner counts the characters of a region; the grammar says which body runs
through its first closer.  For every form the count is the length of the one
body that the grammar admits: `length_of_…` reads a count off a given body, and
`…_take` shows that cutting at the count gives such a body.
-/

namespace FrameLens.Lexis

open FrameLens.Text (indexOf?)

/-! ## First occurrences -/

theorem indexOf?_eq_none {pattern : List Char} (hpattern : pattern ≠ [])
    {text : List Char} (hmissing : ¬pattern <:+: text) :
    indexOf? pattern text = none := by
  induction text with
  | nil => simp [indexOf?, hpattern]
  | cons c rest ih =>
      rw [List.infix_cons_iff, not_or] at hmissing
      simp [indexOf?, hmissing.1, ih hmissing.2]

/-- The search stops at an occurrence that ends the first text to hold one. -/
theorem indexOf?_append {pattern : List Char} (hpattern : pattern ≠ [])
    (inner rest : List Char)
    (hfirst : ¬pattern <:+: (inner ++ pattern).dropLast) :
    indexOf? pattern (inner ++ pattern ++ rest) = some inner.length := by
  induction inner with
  | nil =>
      obtain ⟨c, tail, rfl⟩ := List.exists_cons_of_ne_nil hpattern
      simp [indexOf?]
  | cons c inner ih =>
      have hlast : (c :: inner ++ pattern).dropLast =
          c :: (inner ++ pattern).dropLast := by
        rw [List.cons_append, List.dropLast_cons_of_ne_nil (by simp [hpattern])]
      rw [hlast, List.infix_cons_iff, not_or] at hfirst
      have hhead : ¬pattern <+: c :: inner ++ pattern ++ rest := by
        intro hbegins
        apply hfirst.1
        -- Both are prefixes of the whole text, and the pattern is no longer.
        refine List.prefix_of_prefix_length_le hbegins ?_ (by
          have := List.length_pos_iff.2 hpattern
          simp only [List.length_cons, List.length_dropLast, List.length_append]
          omega)
        exact (hlast ▸ List.dropLast_prefix _).trans (List.prefix_append _ _)
      have htail := ih hfirst.2
      simp only [List.cons_append, List.append_assoc] at hhead htail ⊢
      simp [indexOf?, hhead, htail]

/-- A pattern that occurs has a first occurrence. -/
theorem exists_first_occurrence {pattern : List Char} (hpattern : pattern ≠ [])
    {text : List Char} (hfound : pattern <:+: text) :
    ∃ inner rest, text = inner ++ pattern ++ rest ∧
      ¬pattern <:+: (inner ++ pattern).dropLast := by
  induction text with
  | nil => exact absurd (List.infix_nil.1 hfound) hpattern
  | cons c tail ih =>
      by_cases hhead : pattern <+: c :: tail
      · obtain ⟨rest, hrest⟩ := hhead
        refine ⟨[], rest, by simp [hrest], ?_⟩
        intro hinside
        have hlength := hinside.length_le
        have hpositive := List.length_pos_iff.2 hpattern
        simp only [List.nil_append, List.length_dropLast] at hlength
        omega
      · obtain ⟨inner, rest, htail, hfirst⟩ :=
          ih ((List.infix_cons_iff.1 hfound).resolve_left hhead)
        refine ⟨c :: inner, rest, by simp [htail], ?_⟩
        rw [List.cons_append, List.dropLast_cons_of_ne_nil (by simp [hpattern]),
          List.infix_cons_iff, not_or]
        refine ⟨fun hbegins => hhead (hbegins.trans ?_), hfirst⟩
        rw [htail, List.append_assoc, ← List.append_assoc]
        exact List.cons_prefix_cons.2
          ⟨rfl, (List.dropLast_prefix _).trans (List.prefix_append _ _)⟩

/-- The length of a text through its first `closer`, or of all of it. -/
def throughFirst (closer text : List Char) : Nat :=
  match indexOf? closer text with
  | some k => k + closer.length
  | none => text.length

/-- The length through the first occurrence of a closer. -/
theorem throughFirst_append {closer : List Char} (hcloser : closer ≠ [])
    {inner : List Char} (rest : List Char)
    (hfirst : ¬closer <:+: (inner ++ closer).dropLast) :
    throughFirst closer (inner ++ closer ++ rest) = (inner ++ closer).length := by
  simp only [throughFirst, indexOf?_append hcloser inner rest hfirst,
    List.length_append]

/-- Without a closer everything that is left belongs to the region. -/
theorem throughFirst_of_missing {closer text : List Char} (hcloser : closer ≠ [])
    (hmissing : ¬closer <:+: text) : throughFirst closer text = text.length := by
  rw [throughFirst, indexOf?_eq_none hcloser hmissing]

theorem length_of_throughFirst {closer body rest : List Char}
    (hcloser : closer ≠ []) (hbody : ThroughFirst closer body rest) :
    throughFirst closer (body ++ rest) = body.length := by
  rcases hbody with ⟨⟨inner, rfl⟩, hfirst⟩ | ⟨rfl, hmissing⟩
  · exact throughFirst_append hcloser rest hfirst
  · rw [List.append_nil]
    exact throughFirst_of_missing hcloser hmissing

/-- A text falls into what runs through the closer and the rest. -/
theorem throughFirst_take {closer : List Char} (hcloser : closer ≠ [])
    (text : List Char) :
    ThroughFirst closer (text.take (throughFirst closer text))
      (text.drop (throughFirst closer text)) := by
  by_cases hfound : closer <:+: text
  · obtain ⟨inner, rest, rfl, hfirst⟩ := exists_first_occurrence hcloser hfound
    rw [throughFirst_append hcloser rest hfirst, List.take_left, List.drop_left]
    exact .inl ⟨List.suffix_append _ _, hfirst⟩
  · rw [throughFirst_of_missing hcloser hfound, List.take_length, List.drop_length]
    exact .inr ⟨rfl, hfound⟩

theorem throughCloser_eq (text : List Char) :
    Region.throughCloser text = throughFirst ['*', '/'] text := by
  fun_induction Region.throughCloser text with
  | case1 => simp [throughFirst, indexOf?]
  | case2 rest => simp [throughFirst, indexOf?]
  | case3 c rest hno ih =>
      have hhead : ¬['*', '/'] <+: c :: rest := by
        rintro ⟨tail, htail⟩
        simp only [List.cons_append, List.nil_append, List.cons.injEq] at htail
        exact hno tail htail.1.symm htail.2.symm
      rw [ih]
      simp only [throughFirst, indexOf?, List.isPrefixOf_iff_prefix, hhead, if_false]
      cases indexOf? ['*', '/'] rest with
      | none => simp
      | some k => simp only [Option.map_some]; omega

/-! ## Runs of one kind of character -/

theorem takeWhile_of_run (p : Char → Bool) {run rest : List Char}
    (hrun : ∀ c ∈ run, p c) (hrest : ∀ c, rest.head? = some c → p c = false) :
    (run ++ rest).takeWhile p = run := by
  rw [List.takeWhile_append_of_pos hrun]
  cases rest with
  | nil => simp
  | cons c rest => simp [hrest c rfl]

theorem ne_quote_of_not_begins {c : Char} {rest : List Char}
    (hrest : ¬['"'] <+: c :: rest) : c ≠ '"' := by
  rintro rfl
  exact hrest ⟨rest, rfl⟩

/-- All quotes at the start are counted. -/
theorem quoteRun_quotes (width : Nat) {rest : List Char}
    (hrest : ¬['"'] <+: rest) : Region.quoteRun (quotes width ++ rest) = width := by
  rw [Region.quoteRun, takeWhile_of_run (· == '"')]
  · exact List.length_replicate
  · intro c hc
    simp [List.eq_of_mem_replicate hc]
  · intro c hc
    obtain ⟨tail, rfl⟩ := List.head?_eq_some_iff.1 hc
    simpa using ne_quote_of_not_begins hrest

theorem exists_quotes (text : List Char) :
    ∃ rest, text = quotes (Region.quoteRun text) ++ rest ∧ ¬['"'] <+: rest := by
  refine ⟨text.dropWhile (· == '"'), ?_, ?_⟩
  · have hrun : text.takeWhile (· == '"') = quotes (Region.quoteRun text) := by
      refine List.eq_replicate_iff.2 ⟨rfl, fun c hc => ?_⟩
      simpa using List.mem_takeWhile_imp hc
    rw [← hrun, List.takeWhile_append_dropWhile]
  · rintro ⟨tail, htail⟩
    have hhead := List.head?_dropWhile_not (· == '"') text
    simp [← htail] at hhead

/-! ## Quotes written twice -/

/-- Quotes that are written twice are passed over. -/
theorem throughUndoubled_append {inner : List Char} (hinner : Doubled inner)
    (text : List Char) :
    Region.throughUndoubled (inner ++ text) =
      inner.length + Region.throughUndoubled text := by
  induction hinner with
  | nil => simp
  | @char c body hc _ ih =>
      rw [List.cons_append, Region.throughUndoubled.eq_4, ih, List.length_cons]
      · omega
      · intro tail heq
        exact absurd heq hc
      · exact hc
  | @pair body _ ih =>
      simp only [List.cons_append, Region.throughUndoubled, ih, List.length_cons]
      omega

theorem length_of_throughUndoubled {body rest : List Char}
    (hbody : ThroughUndoubled body rest) :
    Region.throughUndoubled (body ++ rest) = body.length := by
  rcases hbody with ⟨inner, hinner, rfl, hrest⟩ | ⟨rfl, hbody⟩
  · rw [List.append_assoc, throughUndoubled_append hinner]
    cases rest with
    | nil => simp [Region.throughUndoubled]
    | cons c rest =>
        have hc := ne_quote_of_not_begins hrest
        simp [Region.throughUndoubled, hc]
  · rw [throughUndoubled_append hbody]
    rfl

/-- A text falls into what runs through the first single quote and the rest. -/
theorem throughUndoubled_take (text : List Char) :
    ThroughUndoubled (text.take (Region.throughUndoubled text))
      (text.drop (Region.throughUndoubled text)) := by
  fun_induction Region.throughUndoubled text with
  | case1 => exact .inr ⟨rfl, .nil⟩
  | case2 rest ih =>
      rcases ih with ⟨inner, hinner, hbody, hrest⟩ | ⟨hrest, hbody⟩
      · exact .inl ⟨_, .pair hinner, by simp [hbody], by simpa using hrest⟩
      · exact .inr ⟨by simpa using hrest, by simpa using .pair hbody⟩
  | case3 rest hno =>
      refine .inl ⟨[], .nil, rfl, ?_⟩
      rintro ⟨tail, htail⟩
      exact hno tail htail.symm
  | case4 c rest hpair hquote ih =>
      have hc : c ≠ '"' := hquote
      rcases ih with ⟨inner, hinner, hbody, hrest⟩ | ⟨hrest, hbody⟩
      · exact .inl ⟨_, .char hc hinner, by simp [hbody], by simpa using hrest⟩
      · exact .inr ⟨by simpa using hrest, by simpa using .char hc hbody⟩

/-! ## Backslashes -/

/-- Escaped characters are passed over along with their backslashes. -/
theorem throughQuote_append {quote : Char} {inner : List Char}
    (hinner : Escaped quote inner) (text : List Char) :
    Region.throughQuote quote (inner ++ text) =
      inner.length + Region.throughQuote quote text := by
  induction hinner with
  | nil => simp
  | @char c body hslash hquote _ ih =>
      rw [List.cons_append, Region.throughQuote.eq_4, if_neg hquote, ih,
        List.length_cons]
      · omega
      · intro heq _
        exact hslash heq
      · intro _ _ heq
        exact absurd heq hslash
  | @escape c body _ ih =>
      simp only [List.cons_append, Region.throughQuote, ih, List.length_cons]
      omega

theorem length_of_throughUnescaped {quote : Char} (hquote : quote ≠ '\\')
    {body rest : List Char} (hbody : ThroughUnescaped quote body rest) :
    Region.throughQuote quote (body ++ rest) = body.length := by
  rcases hbody with ⟨inner, hinner, rfl⟩ | ⟨rfl, inner, hinner, rfl | rfl⟩
  · rw [List.append_assoc, throughQuote_append hinner, List.cons_append,
      List.nil_append, Region.throughQuote.eq_4]
    · simp
    · intro heq _
      exact hquote heq
    · intro _ _ heq
      exact absurd heq hquote
  · rw [throughQuote_append hinner]
    rfl
  · rw [List.append_assoc, throughQuote_append hinner]
    simp [Region.throughQuote]

/-- A text falls into what runs through the first quote that is not escaped and the rest. -/
theorem throughQuote_take (quote : Char) (text : List Char) :
    ThroughUnescaped quote (text.take (Region.throughQuote quote text))
      (text.drop (Region.throughQuote quote text)) := by
  fun_induction Region.throughQuote quote text with
  | case1 => exact .inr ⟨rfl, [], .nil, .inl rfl⟩
  | case2 => exact .inr ⟨rfl, [], .nil, .inr rfl⟩
  | case3 c rest ih =>
      rcases ih with ⟨inner, hinner, hbody⟩ | ⟨hrest, inner, hinner, hbody⟩
      · exact .inl ⟨_, .escape (c := c) hinner, by simp [hbody]⟩
      · exact .inr ⟨by simpa using hrest, _, .escape (c := c) hinner,
          by simpa using hbody⟩
  | case4 rest hlone hescape =>
      exact .inl ⟨[], .nil, rfl⟩
  | case5 c rest hlone hescape hc ih =>
      have hslash : c ≠ '\\' := by
        rintro rfl
        cases rest with
        | nil => exact hlone rfl rfl
        | cons d rest => exact hescape d rest rfl rfl
      rcases ih with ⟨inner, hinner, hbody⟩ | ⟨hrest, inner, hinner, hbody⟩
      · exact .inl ⟨_, .char hslash hc hinner, by simp [hbody]⟩
      · exact .inr ⟨by simpa using hrest, _, .char hslash hc hinner,
          by simpa using hbody⟩

/-! ## Maximal runs of quotes

`pending` quotes stand directly before the text that is looked at; they belong
to the run that the text may go on with.
-/

theorem quotes_append_cons (pending : Nat) (text : List Char) :
    quotes pending ++ '"' :: text = quotes (pending + 1) ++ text := by
  rw [quotes, quotes, List.replicate_succ', List.append_assoc]
  rfl

theorem quotes_prefix_of_lt {width pending : Nat} (hlt : pending < width)
    {c : Char} (hc : c ≠ '"') (text : List Char) :
    ¬quotes width <+: quotes pending ++ c :: text := by
  intro hbegins
  have hat := hbegins.getElem (i := pending) (by simpa [quotes] using hlt)
  simp [quotes] at hat
  exact hc hat.symm

/-- A run of quotes that is too short closes nothing. -/
theorem quotes_infix_iff {width pending : Nat} (hlt : pending < width)
    {c : Char} (hc : c ≠ '"') (text : List Char) :
    quotes width <:+: quotes pending ++ c :: text ↔ quotes width <:+: text := by
  induction pending with
  | zero =>
      rw [show quotes 0 ++ c :: text = c :: text from rfl, List.infix_cons_iff]
      exact or_iff_right (quotes_prefix_of_lt hlt hc text)
  | succ pending ih =>
      have hcons : quotes (pending + 1) ++ c :: text =
          '"' :: (quotes pending ++ c :: text) := by
        simp [quotes, List.replicate_succ]
      rw [← ih (by omega), hcons, List.infix_cons_iff, ← hcons]
      exact or_iff_right (quotes_prefix_of_lt hlt hc text)

theorem quotes_infix_quotes {width run : Nat} :
    quotes width <:+: quotes run ↔ width ≤ run := by
  constructor
  · intro hinside
    simpa [quotes] using hinside.length_le
  · intro hle
    refine ⟨[], quotes (run - width), ?_⟩
    simp [quotes, List.replicate_append_replicate, hle]

/-- A run that is long enough closes at the first other character. -/
theorem throughRun_stop {width pending : Nat} (hle : width ≤ pending)
    {rest : List Char} (hrest : ¬['"'] <+: rest) :
    Region.throughRun width pending rest = 0 := by
  cases rest with
  | nil => rfl
  | cons c rest =>
      simp [Region.throughRun, ne_quote_of_not_begins hrest, hle]

/-- Quotes in a row are counted on top of those before. -/
theorem throughRun_quotes (width pending run : Nat) (text : List Char) :
    Region.throughRun width pending (quotes run ++ text) =
      run + Region.throughRun width (pending + run) text := by
  induction run generalizing pending with
  | zero => simp [quotes]
  | succ run ih =>
      have hcons : quotes (run + 1) ++ text = '"' :: (quotes run ++ text) := by
        simp [quotes, List.replicate_succ]
      rw [hcons, Region.throughRun, if_pos rfl, ih,
        show pending + 1 + run = pending + (run + 1) by omega]
      omega

/-- The number of quotes at the end of a text that follows `pending` quotes. -/
def trailingQuotes (pending : Nat) : List Char → Nat
  | [] => pending
  | c :: rest =>
      if c = '"' then trailingQuotes (pending + 1) rest else trailingQuotes 0 rest

theorem trailingQuotes_eq_zero (pending : Nat) {inner : List Char}
    (hinner : inner ≠ []) (hlast : ¬['"'] <:+ inner) :
    trailingQuotes pending inner = 0 := by
  induction inner generalizing pending with
  | nil => exact absurd rfl hinner
  | cons c inner ih =>
      cases inner with
      | nil =>
          have hc : c ≠ '"' := by
            rintro rfl
            exact hlast (List.suffix_refl _)
          simp [trailingQuotes, hc]
      | cons d inner =>
          have htail := fun pending => ih pending (by simp)
            (fun h => hlast (h.trans (List.suffix_cons _ _)))
          rw [trailingQuotes]
          split <;> exact htail _

/-- Text in which no run is long enough is passed over as a whole. -/
theorem throughRun_append {width pending : Nat} {inner : List Char}
    (text : List Char) (hshort : ¬quotes width <:+: quotes pending ++ inner) :
    Region.throughRun width pending (inner ++ text) =
      inner.length +
        Region.throughRun width (trailingQuotes pending inner) text := by
  induction inner generalizing pending with
  | nil => simp [trailingQuotes]
  | cons c inner ih =>
      by_cases hc : c = '"'
      · subst c
        rw [quotes_append_cons] at hshort
        rw [List.cons_append, Region.throughRun, if_pos rfl, ih hshort,
          trailingQuotes, if_pos rfl, List.length_cons]
        omega
      · have hlt : pending < width := by
          by_contra hle
          exact hshort ((quotes_infix_quotes.2 (by omega)).trans
            (List.prefix_append _ _).isInfix)
        rw [quotes_infix_iff hlt hc] at hshort
        rw [List.cons_append, Region.throughRun, if_neg hc, if_neg (by omega),
          ih (by simpa [quotes] using hshort), trailingQuotes, if_neg hc,
          List.length_cons]
        omega

theorem length_of_throughRun {width : Nat} (hwidth : 0 < width)
    {body rest : List Char} (hstart : ¬['"'] <+: body ++ rest)
    (hbody : ThroughRun width body rest) :
    Region.throughRun width 0 (body ++ rest) = body.length := by
  rcases hbody with ⟨inner, run, rfl, hrun, hshort, hlast, hrest⟩ | ⟨rfl, hshort⟩
  · have hinner : inner ≠ [] := by
      rintro rfl
      obtain ⟨run, rfl⟩ : ∃ k, run = k + 1 := ⟨run - 1, by omega⟩
      exact hstart ⟨quotes run ++ rest, by simp [quotes, List.replicate_succ]⟩
    rw [List.append_assoc, throughRun_append _ (by simpa [quotes] using hshort),
      trailingQuotes_eq_zero 0 hinner hlast, throughRun_quotes,
      throughRun_stop (by omega) hrest]
    simp [quotes]
  · rw [throughRun_append _ (by simpa [quotes] using hshort)]
    rfl

/-- A run that is too short belongs to the inside. -/
theorem ThroughRun.extend {width pending : Nat} (hlt : pending < width)
    {c : Char} (hc : c ≠ '"') {body rest : List Char}
    (hbody : ThroughRun width body rest) :
    ThroughRun width (quotes pending ++ c :: body) rest := by
  rcases hbody with ⟨inner, run, rfl, hrun, hshort, hlast, hrest⟩ | ⟨rfl, hshort⟩
  · refine .inl ⟨quotes pending ++ c :: inner, run, by simp, hrun, ?_, ?_, hrest⟩
    · rwa [quotes_infix_iff hlt hc]
    · intro hsuffix
      -- The last character is that of `inner`, or else `c`.
      have hend := List.suffix_of_suffix_length_le hsuffix
        (List.suffix_append (quotes pending) (c :: inner)) (by simp)
      rcases List.suffix_cons_iff.1 hend with heq | hend
      · exact hc (List.cons.inj heq).1.symm
      · exact hlast hend
  · exact .inr ⟨rfl, by rwa [quotes_infix_iff hlt hc]⟩

/-- A text falls into what runs through a long enough run of quotes and the rest. -/
theorem throughRun_take {width : Nat} (hwidth : 0 < width) (pending : Nat)
    (text : List Char) :
    ThroughRun width
      (quotes pending ++ text.take (Region.throughRun width pending text))
      (text.drop (Region.throughRun width pending text)) := by
  have hnil : ¬quotes width <:+: [] ∧ ¬['"'] <:+ [] := by
    constructor
    · intro hinside
      have := hinside.length_le
      simp [quotes] at this
      omega
    · simp
  induction text generalizing pending with
  | nil =>
      by_cases hle : width ≤ pending
      · exact .inl ⟨[], pending, by simp [Region.throughRun], hle, hnil.1, hnil.2,
          by simp [Region.throughRun]⟩
      · refine .inr ⟨rfl, ?_⟩
        simpa [quotes_infix_quotes, Region.throughRun] using hle
  | cons c text ih =>
      by_cases hc : c = '"'
      · subst c
        rw [Region.throughRun, if_pos rfl, List.take_succ_cons,
          List.drop_succ_cons, quotes_append_cons]
        exact ih (pending + 1)
      by_cases hle : width ≤ pending
      · rw [Region.throughRun, if_neg hc, if_pos hle]
        refine .inl ⟨[], pending, by simp, hle, hnil.1, hnil.2, ?_⟩
        rintro ⟨tail, htail⟩
        exact hc (List.cons.inj htail).1.symm
      · rw [Region.throughRun, if_neg hc, if_neg hle, List.take_succ_cons,
          List.drop_succ_cons]
        exact (ih 0).extend (by omega) hc

end FrameLens.Lexis
