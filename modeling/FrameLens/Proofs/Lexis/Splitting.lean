import FrameLens.Proofs.Lexis.Openers
import Mathlib.Data.Nat.Find
import Mathlib.Logic.ExistsUnique

/-!
# Cleaning follows the lexical grammar

For every text and dialect there is exactly one way to split the text into code
characters and regions, and cleaning blanks the regions of that splitting and
nothing else.
-/

namespace FrameLens.Lexis

variable {dialect : Dialect} {before : List Char}

/-! ## How far each form reaches -/

/-- The length that the scanner gives to a region of a form. -/
def extent : Form → List Char → Nat
  | .lineComment, text => Region.lineComment text
  | .blockComment, text => Region.blockComment text
  | .verbatim, text =>
      let opener := (Region.verbatimOpener? text).getD 0
      opener + Region.throughUndoubled (text.drop opener)
  | .tripleQuoted, text => Region.tripleQuoted text
  | .delimited, text => (Region.delimitedLiteral? text).getD 0
  | .string, text => Region.quotedLiteral '"' text
  | .character, text => Region.quotedLiteral '\'' text

theorem extent_blockComment (body : List Char) :
    extent .blockComment (['/', '*'] ++ body) =
      ['/', '*'].length + throughFirst ['*', '/'] body := by
  rw [extent, Region.blockComment, throughCloser_eq]
  rfl

theorem extent_verbatim {opener : List Char} (hopener : opener ∈ verbatimOpeners)
    (body : List Char) :
    extent .verbatim (opener ++ body) =
      opener.length + Region.throughUndoubled body := by
  rw [extent, verbatimOpener?_eq_some hopener (List.prefix_append _ _)]
  simp only [Option.getD_some, List.drop_left]

theorem extent_tripleQuoted (width : Nat) {body : List Char}
    (hbody : ¬['"'] <+: body) :
    extent .tripleQuoted (quotes width ++ body) =
      (quotes width).length + Region.throughRun width 0 body := by
  have hlength : (quotes width).length = width := List.length_replicate
  have hdrop : (quotes width ++ body).drop width = body := by
    simp [quotes]
  rw [extent, Region.tripleQuoted, quoteRun_quotes width hbody, hdrop, hlength]

theorem extent_delimited {delimiter : List Char} (hdelimiter : IsDelimiter delimiter)
    (body : List Char) :
    extent .delimited (delimitedOpener delimiter ++ body) =
      (delimitedOpener delimiter).length +
        throughFirst (delimitedCloser delimiter) body := by
  rw [extent, delimitedLiteral?_eq_some hdelimiter, Option.getD_some]

theorem extent_string (body : List Char) :
    extent .string (['"'] ++ body) = ['"'].length + Region.throughQuote '"' body :=
  rfl

theorem extent_character (body : List Char) :
    extent .character (['\''] ++ body) =
      ['\''].length + Region.throughQuote '\'' body :=
  rfl

/-- The scanner counts the region that the grammar covers. -/
theorem extent_of_covers {form : Form} {region rest : List Char}
    (hcovers : Covers form region rest) :
    extent form (region ++ rest) = region.length := by
  cases form with
  | lineComment =>
      obtain ⟨hregion, hrest⟩ := hcovers
      rw [extent, Region.lineComment, takeWhile_of_run (· != '\n')]
      · intro c hc
        simpa using ne_of_mem_of_not_mem hc hregion
      · rcases hrest with rfl | ⟨tail, rfl⟩ <;> simp
  | blockComment =>
      obtain ⟨body, rfl, hbody⟩ := hcovers
      rw [List.append_assoc, extent_blockComment,
        length_of_throughFirst (by simp) hbody, List.length_append]
  | verbatim =>
      obtain ⟨opener, hopener, body, rfl, hbody⟩ := hcovers
      rw [List.append_assoc, extent_verbatim hopener,
        length_of_throughUndoubled hbody, List.length_append]
  | tripleQuoted =>
      obtain ⟨width, body, rfl, hwidth, hstart, hbody⟩ := hcovers
      rw [List.append_assoc, extent_tripleQuoted width hstart,
        length_of_throughRun (by omega) hstart hbody, List.length_append]
  | delimited =>
      obtain ⟨delimiter, body, hdelimiter, rfl, hbody⟩ := hcovers
      rw [List.append_assoc, extent_delimited hdelimiter,
        length_of_throughFirst (by simp [delimitedCloser]) hbody, List.length_append]
  | string =>
      obtain ⟨body, rfl, hbody⟩ := hcovers
      rw [List.append_assoc, extent_string,
        length_of_throughUnescaped (by decide) hbody, List.length_append]
  | character =>
      obtain ⟨body, rfl, hbody⟩ := hcovers
      rw [List.append_assoc, extent_character,
        length_of_throughUnescaped (by decide) hbody, List.length_append]

theorem exists_line (text : List Char) :
    ∃ line rest, text = line ++ rest ∧ Covers .lineComment line rest := by
  refine ⟨text.takeWhile (· != '\n'), text.dropWhile (· != '\n'),
    List.takeWhile_append_dropWhile.symm, ?_, ?_⟩
  · intro hmem
    simpa using List.mem_takeWhile_imp hmem
  · have hhead := List.head?_dropWhile_not (· != '\n') text
    cases hrest : text.dropWhile (· != '\n') with
    | nil => exact .inl rfl
    | cons c tail =>
        rw [hrest] at hhead
        obtain rfl : c = '\n' := by simpa using hhead
        exact .inr ⟨tail, rfl⟩

/-- Cutting where the scanner stops gives a region that the grammar covers. -/
theorem covers_extent {form : Form} {text : List Char}
    (hopens : Opens dialect form before text) :
    Covers form (text.take (extent form text)) (text.drop (extent form text)) := by
  cases form with
  | lineComment =>
      obtain ⟨line, rest, rfl, hline⟩ := exists_line text
      rwa [extent_of_covers hline, List.take_left, List.drop_left]
  | blockComment =>
      obtain ⟨body, rfl⟩ := hopens
      rw [extent_blockComment, List.take_length_add_append, List.drop_length_add_append]
      exact ⟨_, rfl, throughFirst_take (by simp) body⟩
  | verbatim =>
      obtain ⟨-, opener, hopener, body, rfl⟩ := hopens
      rw [extent_verbatim hopener, List.take_length_add_append,
        List.drop_length_add_append]
      exact ⟨opener, hopener, _, rfl, throughUndoubled_take body⟩
  | tripleQuoted =>
      obtain ⟨-, hopen⟩ := hopens
      obtain ⟨body, htext, hstart⟩ := exists_quotes text
      generalize Region.quoteRun text = width at htext
      subst htext
      have hwidth : 3 ≤ width := by
        by_contra hlt
        cases body with
        | nil =>
            have hlength := hopen.length_le
            simp [quotes] at hlength
            omega
        | cons c body =>
            have hshort : width < 3 := by omega
            exact quotes_prefix_of_lt hshort (ne_quote_of_not_begins hstart) body hopen
      have hbody := throughRun_take (by omega : 0 < width) 0 body
      rw [extent_tripleQuoted width hstart, List.take_length_add_append,
        List.drop_length_add_append]
      refine ⟨width, _, rfl, hwidth, ?_, by simpa [quotes] using hbody⟩
      rwa [List.take_append_drop]
  | delimited =>
      obtain ⟨-, -, delimiter, hdelimiter, body, rfl⟩ := hopens
      rw [extent_delimited hdelimiter, List.take_length_add_append,
        List.drop_length_add_append]
      exact ⟨delimiter, _, hdelimiter, rfl,
        throughFirst_take (by simp [delimitedCloser]) body⟩
  | string =>
      obtain ⟨body, rfl⟩ := hopens
      rw [extent_string, List.take_length_add_append, List.drop_length_add_append]
      exact ⟨_, rfl, throughQuote_take '"' body⟩
  | character =>
      obtain ⟨⟨body, rfl⟩, -⟩ := hopens
      rw [extent_character, List.take_length_add_append, List.drop_length_add_append]
      exact ⟨_, rfl, throughQuote_take '\'' body⟩

/-- No region runs out of the text. -/
theorem extent_le {form : Form} {text : List Char}
    (hopens : Opens dialect form before text) : extent form text ≤ text.length := by
  have hlength := extent_of_covers (covers_extent hopens)
  rw [List.take_append_drop, List.length_take] at hlength
  omega

/-! ## Which form wins -/

open Classical in
/-- The test for comments, by the forms. -/
theorem comment?_eq (dialect : Dialect) (before text : List Char) :
    Region.comment? text =
      if Opens dialect .lineComment before text then some (extent .lineComment text)
      else if Opens dialect .blockComment before text then some (extent .blockComment text)
      else none := by
  unfold Region.comment?
  split
  · rw [if_pos ⟨_, rfl⟩]
    rfl
  · rw [if_neg, if_pos ⟨_, rfl⟩]
    · rfl
    · simp [Opens]
  · rename_i hline hblock
    rw [if_neg, if_neg]
    · rintro ⟨tail, rfl⟩
      exact hblock tail rfl
    · rintro ⟨tail, rfl⟩
      exact hline tail rfl

open Classical in
theorem verbatim?_eq (dialect : Dialect) (before text : List Char) :
    Region.verbatim? dialect text =
      if Opens dialect .verbatim before text then some (extent .verbatim text)
      else none := by
  rw [Region.verbatim?]
  by_cases hdialect : dialect.verbatimStrings = true
  · rw [if_pos hdialect]
    cases hopener : Region.verbatimOpener? text with
    | none =>
        rw [if_neg]
        · rfl
        · rintro ⟨-, opener, hmem, hbegins⟩
          simp [verbatimOpener?_eq_some hmem hbegins] at hopener
    | some length =>
        obtain ⟨opener, hmem, hbegins, -⟩ := exists_verbatimOpener hopener
        rw [if_pos ⟨hdialect, opener, hmem, hbegins⟩, extent, hopener]
        rfl
  · rw [if_neg hdialect, if_neg]
    exact fun hopens => hdialect hopens.1

open Classical in
theorem tripleQuoted?_eq (dialect : Dialect) (before text : List Char) :
    Region.tripleQuoted? dialect text =
      if Opens dialect .tripleQuoted before text then some (extent .tripleQuoted text)
      else none := by
  unfold Region.tripleQuoted?
  split
  · by_cases hdialect : dialect.tripleQuotes = true
    · rw [if_pos hdialect, if_pos ⟨hdialect, _, rfl⟩]
      rfl
    · rw [if_neg hdialect, if_neg]
      exact fun hopens => hdialect hopens.1
  · rename_i hquotes
    rw [if_neg]
    rintro ⟨-, tail, rfl⟩
    exact hquotes tail rfl

open Classical in
theorem delimited?_eq (dialect : Dialect) (before text : List Char) :
    Region.delimited? dialect before.reverse text =
      if Opens dialect .delimited before text then some (extent .delimited text)
      else none := by
  unfold Region.delimited?
  split
  · rename_i body
    by_cases hgate : dialect.delimitedRaw = true ∧ MarksRaw before
    · rw [if_pos (by rwa [Bool.and_eq_true, mayOpenRaw_reverse])]
      cases hdelimiter : Region.delimiter? body with
      | none =>
          rw [if_neg, Region.delimitedLiteral?]
          · simp [hdelimiter]
          · rintro ⟨-, -, delimiter, hvalid, rest, hrest⟩
            obtain rfl : delimiter ++ '(' :: rest = body := by
              simpa [delimitedOpener] using hrest
            simp [delimiter?_eq_some hvalid] at hdelimiter
      | some delimiter =>
          obtain ⟨hvalid, rest, rfl⟩ := delimiter?_sound hdelimiter
          have htext : 'R' :: '"' :: (delimiter ++ ['('] ++ rest) =
              delimitedOpener delimiter ++ rest := by
            simp [delimitedOpener]
          rw [htext, if_pos ⟨hgate.1, hgate.2, delimiter, hvalid, rest, rfl⟩, extent,
            delimitedLiteral?_eq_some hvalid, Option.getD_some]
    · rw [if_neg (by rwa [Bool.and_eq_true, mayOpenRaw_reverse]), if_neg]
      exact fun hopens => hgate ⟨hopens.1, hopens.2.1⟩
  · rename_i hraw
    rw [if_neg]
    rintro ⟨-, -, delimiter, -, rest, rfl⟩
    exact hraw (delimiter ++ '(' :: rest) (by simp [delimitedOpener])

open Classical in
/-- The test for ordinary literals, by the forms. -/
theorem quoted?_eq (dialect : Dialect) (before text : List Char) :
    Region.quoted? before.reverse text =
      if Opens dialect .string before text then some (extent .string text)
      else if Opens dialect .character before text then some (extent .character text)
      else none := by
  unfold Region.quoted?
  split
  · rw [if_pos ⟨_, rfl⟩]
    rfl
  · rename_i after
    have hstring : ¬Opens dialect .string before ('\'' :: after) := by
      simp [Opens]
    by_cases hdigits : SeparatesDigits before after
    · rw [if_pos ((separatesDigits_reverse _ _).2 hdigits), if_neg hstring, if_neg]
      exact fun hopens => hopens.2 hdigits
    · rw [if_neg (by rwa [separatesDigits_reverse]), if_neg hstring,
        if_pos ⟨⟨_, rfl⟩, hdigits⟩]
      rfl
  · rename_i hdouble hsingle
    rw [if_neg, if_neg]
    · rintro ⟨⟨tail, rfl⟩, -⟩
      exact hsingle tail rfl
    · rintro ⟨tail, rfl⟩
      exact hdouble tail rfl

/-- The scanner takes the region of the form that begins here. -/
theorem length?_of_begins {form : Form} {text : List Char}
    (hbegins : Begins dialect form before text) :
    Region.length? dialect before.reverse text = some (extent form text) := by
  obtain ⟨hopens, hfirst⟩ := hbegins
  rw [Region.length?, comment?_eq dialect before, verbatim?_eq dialect before,
    tripleQuoted?_eq dialect before, delimited?_eq, quoted?_eq dialect]
  -- Whatever the form is, the tests before its own fail.
  cases form <;> simp (disch := decide) [hopens, hfirst]

/-- Where no form opens there is no region. -/
theorem length?_of_code {text : List Char}
    (hcode : ∀ form, ¬Opens dialect form before text) :
    Region.length? dialect before.reverse text = none := by
  rw [Region.length?, comment?_eq dialect before, verbatim?_eq dialect before,
    tripleQuoted?_eq dialect before, delimited?_eq, quoted?_eq dialect]
  simp [hcode]

/-- Of the forms that open at a place, the one of least rank begins there. -/
theorem exists_begins {form : Form} {text : List Char}
    (hopens : Opens dialect form before text) :
    ∃ first, Begins dialect first before text := by
  classical
  have hrank : ∃ rank, ∃ first : Form, first.rank = rank ∧
      Opens dialect first before text := ⟨_, form, rfl, hopens⟩
  obtain ⟨first, hfirst, hopens⟩ := Nat.find_spec hrank
  refine ⟨first, hopens, ?_⟩
  intro other hlt hother
  rw [hfirst] at hlt
  exact Nat.find_min hrank hlt ⟨other, rfl, hother⟩

theorem rank_injective : Function.Injective Form.rank := by
  intro left right hrank
  cases left <;> cases right <;> simp_all [Form.rank]

/-- One form at most begins at a place. -/
theorem Begins.unique {left right : Form} {text : List Char}
    (hleft : Begins dialect left before text)
    (hright : Begins dialect right before text) : left = right := by
  rcases Nat.lt_trichotomy left.rank right.rank with hlt | heq | hlt
  · exact absurd hleft.1 (hright.2 left hlt)
  · exact rank_injective heq
  · exact absurd hright.1 (hleft.2 right hlt)

/-! ## The splitting of a text -/

theorem extent_pos {form : Form} {text : List Char}
    (hopens : Opens dialect form before text) : 0 < extent form text := by
  have hcovers := covers_extent hopens
  rw [Nat.pos_iff_ne_zero]
  intro hzero
  rw [hzero, List.take_zero, List.drop_zero] at hcovers
  cases form with
  | lineComment =>
      -- An empty comment would need a line feed where the slashes stand.
      obtain ⟨tail, rfl⟩ := hopens
      simp [Covers] at hcovers
  | blockComment => simp [Covers] at hcovers
  | verbatim => simp [Covers, verbatimOpeners] at hcovers
  | tripleQuoted =>
      obtain ⟨width, body, hnil, hwidth, -⟩ := hcovers
      have hlength := congrArg List.length hnil
      simp [quotes] at hlength
      omega
  | delimited => simp [Covers, delimitedOpener] at hcovers
  | string => simp [Covers] at hcovers
  | character => simp [Covers] at hcovers

/-- Every text can be split: at each place either no form opens, or the one of
highest priority covers a region. -/
theorem exists_splits (dialect : Dialect) (before rest : List Char) :
    ∃ pieces, Splits dialect before rest pieces := by
  induction hlength : rest.length using Nat.strong_induction_on
    generalizing before rest with
  | _ length ih =>
    subst hlength
    by_cases hform : ∃ form, Opens dialect form before rest
    · obtain ⟨form, hopens⟩ := hform
      obtain ⟨form, hbegins⟩ := exists_begins hopens
      have hpos := extent_pos hbegins.1
      have hle := extent_le hbegins.1
      obtain ⟨pieces, hpieces⟩ := ih (rest.drop (extent form rest)).length
        (by rw [List.length_drop]; omega)
        (before ++ rest.take (extent form rest)) _ rfl
      refine ⟨.region (rest.take (extent form rest)) :: pieces, ?_⟩
      have hsplit := List.take_append_drop (extent form rest) rest
      have hregion := Splits.region (by rwa [hsplit]) (covers_extent hbegins.1) hpieces
      rwa [hsplit] at hregion
    · cases rest with
      | nil => exact ⟨[], .done⟩
      | cons c rest =>
          obtain ⟨pieces, hpieces⟩ := ih rest.length (by simp) (before ++ [c]) rest rfl
          exact ⟨.code c :: pieces, .code (not_exists.1 hform) hpieces⟩

/-- A form covers one region of a text. -/
theorem Covers.unique {form : Form} {left right rest rest' : List Char}
    (hleft : Covers form left rest) (hright : Covers form right rest')
    (htext : left ++ rest = right ++ rest') : left = right ∧ rest = rest' := by
  have hlength : left.length = right.length := by
    rw [← extent_of_covers hleft, htext, extent_of_covers hright]
  exact List.append_inj htext hlength

/-- A text falls into pieces in one way. -/
theorem Splits.unique {rest : List Char} {left right : List Piece}
    (hleft : Splits dialect before rest left)
    (hright : Splits dialect before rest right) : left = right := by
  induction hleft generalizing right with
  | done =>
      generalize hnil : ([] : List Char) = rest at hright
      cases hright with
      | done => rfl
      | code => simp at hnil
      | @region form _ region rest _ hbegins =>
          have hpos := extent_pos hbegins.1
          have hle := extent_le hbegins.1
          rw [← hnil] at hpos hle
          exact absurd (hpos.trans_le hle) (by simp)
  | @code before c rest pieces hcode _ ih =>
      generalize htext : c :: rest = text at hright
      cases hright with
      | done => simp at htext
      | code _ hrest =>
          obtain ⟨rfl, rfl⟩ := List.cons.inj htext
          rw [ih hrest]
      | region hbegins => exact absurd (htext ▸ hbegins.1) (hcode _)
  | @region form before region rest pieces hbegins hcovers _ ih =>
      generalize htext : region ++ rest = text at hright
      cases hright with
      | done =>
          have hpos := extent_pos hbegins.1
          have hle := extent_le hbegins.1
          rw [htext] at hpos hle
          exact absurd (hpos.trans_le hle) (by simp)
      | code hcode => exact absurd (htext ▸ hbegins.1) (hcode _)
      | region hbegins' hcovers' hrest =>
          obtain rfl := hbegins.unique (htext ▸ hbegins')
          obtain ⟨rfl, rfl⟩ := hcovers.unique hcovers' htext
          rw [ih hrest]

/-- The pieces make up the text. -/
theorem Splits.text_eq {rest : List Char} {pieces : List Piece}
    (hsplits : Splits dialect before rest pieces) :
    pieces.flatMap Piece.text = rest := by
  induction hsplits with
  | done => rfl
  | code _ _ ih => simp [Piece.text, ih]
  | region _ _ _ ih => simp [Piece.text, ih]

/-! ## Cleaning -/

/-- Inside a region every character is blanked. -/
theorem cleanFrom_region (dialect : Dialect) (before region rest : List Char) :
    cleanFrom dialect before region.length (region ++ rest) =
      region.map blanked ++ cleanFrom dialect (region.reverse ++ before) 0 rest := by
  induction region generalizing before with
  | nil => simp
  | cons c region ih =>
      rw [List.length_cons, List.cons_append, cleanFrom, ih]
      simp

/-- Cleaning blanks the regions among the pieces. -/
theorem Splits.clean_eq {rest : List Char} {pieces : List Piece}
    (hsplits : Splits dialect before rest pieces) :
    cleanFrom dialect before.reverse 0 rest = pieces.flatMap Piece.cleaned := by
  induction hsplits with
  | done => rfl
  | @code before c rest pieces hcode _ ih =>
      rw [cleanFrom, length?_of_code hcode]
      simpa [Piece.cleaned] using ih
  | @region form before region rest pieces hbegins hcovers _ ih =>
      have hextent := extent_of_covers hcovers
      have hpos := extent_pos hbegins.1
      cases region with
      | nil =>
          rw [hextent] at hpos
          exact absurd hpos (by simp)
      | cons c region =>
          have hregion := cleanFrom_region dialect (c :: before.reverse) region rest
          rw [List.cons_append, cleanFrom, ← List.cons_append,
            length?_of_begins hbegins, hextent]
          have hblank : blanked = fun c => if c = '\n' then '\n' else ' ' := rfl
          simp only [List.length_cons, Nat.add_sub_cancel, hregion]
          simpa [Piece.cleaned, hblank] using ih

/-- A text falls into code characters and regions in exactly one way, and
cleaning keeps the code, keeps the line feeds of the regions, and puts a space
for every other character of a region. -/
theorem clean_eq_of_grammar (dialect : Dialect) (text : List Char) :
    (∃! pieces, Splits dialect [] text pieces) ∧
      ∀ pieces, Splits dialect [] text pieces →
        pieces.flatMap Piece.text = text ∧
          clean dialect text = pieces.flatMap Piece.cleaned := by
  constructor
  · obtain ⟨pieces, hpieces⟩ := exists_splits dialect [] text
    exact ⟨pieces, hpieces, fun other hother => hother.unique hpieces⟩
  · intro pieces hpieces
    exact ⟨hpieces.text_eq, hpieces.clean_eq⟩

end FrameLens.Lexis
