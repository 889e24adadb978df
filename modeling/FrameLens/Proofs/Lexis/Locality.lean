import FrameLens.Proofs.Lexis.Splitting

/-!
# Cleaning is local

A line feed stands in no opener and in nothing that the scanner looks back at.
So where a text ends in a line feed and leaves no region open, what follows can
neither change how the text is cleaned nor is it cleaned differently for
standing there.
-/

namespace FrameLens.Lexis

open FrameLens.Text (isWordChar isAlphanumeric isDigit)

variable {dialect : Dialect} {before text rest : List Char}

/-! ## Looking ahead past a line feed -/

/-- An opener without a line feed does not run over the end of a line. -/
theorem prefix_append_iff {opener : List Char} (hopener : '\n' ∉ opener)
    (hline : text.getLast? = some '\n') : opener <+: text ++ rest ↔ opener <+: text := by
  constructor
  · intro hbegins
    rcases List.prefix_or_prefix_of_prefix hbegins (List.prefix_append text rest) with
      hshort | hlong
    · exact hshort
    · exact absurd (hlong.subset (List.mem_of_getLast? hline)) hopener
  · intro hbegins
    exact hbegins.trans (List.prefix_append text rest)

theorem prefix_singleton_append_iff {c : Char} (htext : text ≠ []) :
    [c] <+: text ++ rest ↔ [c] <+: text := by
  obtain ⟨d, tail, rfl⟩ := List.exists_cons_of_ne_nil htext
  simp

/-- Whether a quote separates digits is decided by the next character. -/
theorem separatesDigits_append_iff (htext : text ≠ []) :
    SeparatesDigits before (text ++ rest) ↔ SeparatesDigits before text := by
  rw [SeparatesDigits, SeparatesDigits, List.head?_append_of_ne_nil _ htext]

theorem IsDelimiter.newline_not_mem {delimiter : List Char}
    (hdelimiter : IsDelimiter delimiter) : '\n' ∉ delimitedOpener delimiter := by
  have hallowed : '\n' ∉ delimiter := fun hmem => hdelimiter.allowed '\n' hmem (by simp)
  simp [delimitedOpener, hallowed]

/-- What opens at a place is decided before the next line feed. -/
theorem opens_append_iff (form : Form) (hline : text.getLast? = some '\n') :
    Opens dialect form before (text ++ rest) ↔ Opens dialect form before text := by
  cases form with
  | lineComment => exact prefix_append_iff (by decide) hline
  | blockComment => exact prefix_append_iff (by decide) hline
  | verbatim =>
      refine and_congr_right fun _ => exists_congr fun opener => and_congr_right fun hmem => ?_
      have hopener : ∀ opener ∈ verbatimOpeners, '\n' ∉ opener := by decide
      exact prefix_append_iff (hopener opener hmem) hline
  | tripleQuoted => exact and_congr_right fun _ => prefix_append_iff (by decide) hline
  | delimited =>
      refine and_congr_right fun _ => and_congr_right fun _ => exists_congr fun delimiter =>
        and_congr_right fun hdelimiter => ?_
      exact prefix_append_iff hdelimiter.newline_not_mem hline
  | string => exact prefix_append_iff (by decide) hline
  | character =>
      have hopener : ['\''] <+: text ++ rest ↔ ['\''] <+: text :=
        prefix_append_iff (by decide) hline
      rw [Opens, Opens, hopener]
      refine and_congr_right fun hbegins => not_congr ?_
      -- The line feed comes after the quote, so there is a next character.
      obtain ⟨after, rfl⟩ := hbegins
      have hafter : after ≠ [] := by
        rintro rfl
        simp at hline
      exact separatesDigits_append_iff hafter

/-- What begins on a line is decided on that line. -/
theorem begins_append_iff (form : Form) (hline : text.getLast? = some '\n') :
    Begins dialect form before (text ++ rest) ↔ Begins dialect form before text := by
  simp only [Begins, opens_append_iff _ hline]

/-! ## Looking back to a line feed -/

variable {earlier : List Char}

/-- A tail without a line feed does not reach into the lines before. -/
theorem exists_eq_append_of_line {head tail : List Char}
    (hline : earlier.getLast? = some '\n') (htail : '\n' ∉ tail)
    (heq : earlier ++ before = head ++ tail) :
    ∃ inner, before = inner ++ tail ∧ head = earlier ++ inner := by
  rcases List.append_eq_append_iff.1 heq with ⟨inner, rfl, rfl⟩ | ⟨crossing, rfl, rfl⟩
  · exact ⟨inner, rfl, rfl⟩
  · cases hcrossing : crossing.getLast? with
    | none =>
        obtain rfl := List.getLast?_eq_none_iff.1 hcrossing
        exact ⟨[], rfl, by simp⟩
    | some c =>
        rw [List.getLast?_append, hcrossing] at hline
        obtain rfl : c = '\n' := by simpa using hline
        exact absurd (List.mem_append_left _ (List.mem_of_getLast? hcrossing)) htail

/-- After a line feed there is as little to look back at as at the start of a text. -/
theorem forall_getLast?_append_iff (hline : earlier.getLast? = some '\n')
    {p : Char → Prop} (hp : p '\n') :
    (∀ c, (earlier ++ before).getLast? = some c → p c) ↔
      ∀ c, before.getLast? = some c → p c := by
  cases hbefore : before.getLast? with
  | none =>
      obtain rfl := List.getLast?_eq_none_iff.1 hbefore
      simp [hline, hp]
  | some d => simp [List.getLast?_append, hbefore]

/-- No word goes on from the line before. -/
theorem endsOutsideWord_append_iff (hline : earlier.getLast? = some '\n') :
    EndsOutsideWord (earlier ++ before) ↔ EndsOutsideWord before :=
  forall_getLast?_append_iff hline (by decide)

theorem marksRaw_append_iff (hline : earlier.getLast? = some '\n') :
    MarksRaw (earlier ++ before) ↔ MarksRaw before := by
  refine or_congr (endsOutsideWord_append_iff hline) (exists_congr fun mark =>
    and_congr_right fun hmem => ?_)
  have hmark : ∀ mark ∈ [['u', '8'], ['u'], ['U'], ['L']], '\n' ∉ mark := by decide
  constructor
  · rintro ⟨head, heq, hends⟩
    obtain ⟨inner, rfl, rfl⟩ := exists_eq_append_of_line hline (hmark mark hmem) heq
    exact ⟨inner, rfl, (endsOutsideWord_append_iff hline).1 hends⟩
  · rintro ⟨inner, rfl, hends⟩
    exact ⟨earlier ++ inner, by simp, (endsOutsideWord_append_iff hline).2 hends⟩

theorem separatesDigits_after_line_iff (hline : earlier.getLast? = some '\n')
    {after : List Char} :
    SeparatesDigits (earlier ++ before) after ↔ SeparatesDigits before after := by
  have hnewline : ¬(isAlphanumeric '\n' ∨ '\n' ∈ ['_', '\'', '.']) := by decide
  constructor
  · rintro ⟨⟨c, hc, hword⟩, hafter, head, digit, run, heq, hdigit, hrun, hhead⟩
    have htail : '\n' ∉ digit :: run := fun hmem => hnewline (hrun '\n' hmem)
    obtain ⟨inner, rfl, rfl⟩ := exists_eq_append_of_line hline htail heq
    exact ⟨⟨c, by simpa [List.getLast?_append] using hc, hword⟩, hafter, inner, digit, run,
      rfl, hdigit, hrun, (forall_getLast?_append_iff hline hnewline).1 hhead⟩
  · rintro ⟨⟨c, hc, hword⟩, hafter, inner, digit, run, rfl, hdigit, hrun, hinner⟩
    exact ⟨⟨c, by simpa [List.getLast?_append] using hc, hword⟩, hafter, earlier ++ inner,
      digit, run, by simp, hdigit, hrun,
      (forall_getLast?_append_iff hline hnewline).2 hinner⟩

/-- What opens on a line does not depend on the lines before it. -/
theorem opens_after_line_iff (form : Form) (hline : earlier.getLast? = some '\n') :
    Opens dialect form (earlier ++ before) text ↔ Opens dialect form before text := by
  cases form with
  | delimited =>
      exact and_congr_right fun _ => and_congr_left fun _ => marksRaw_append_iff hline
  | character =>
      exact and_congr_right fun _ => not_congr (separatesDigits_after_line_iff hline)
  | lineComment => exact Iff.rfl
  | blockComment => exact Iff.rfl
  | verbatim => exact Iff.rfl
  | tripleQuoted => exact Iff.rfl
  | string => exact Iff.rfl

/-- A text is split in the same way wherever a line begins. -/
theorem Splits.after_line {pieces : List Piece} (hline : earlier.getLast? = some '\n')
    (hsplits : Splits dialect before text pieces) :
    Splits dialect (earlier ++ before) text pieces := by
  induction hsplits with
  | done => exact .done
  | code hcode _ ih =>
      refine .code (fun form => ?_) (by simpa using ih)
      rw [opens_after_line_iff form hline]
      exact hcode form
  | region hbegins hcovers _ ih =>
      refine .region ?_ hcovers (by simpa using ih)
      simpa only [Begins, opens_after_line_iff _ hline] using hbegins

/-! ## Regions that are closed -/

/-- A region that ends before the text does ends there whatever follows. -/
theorem ThroughFirst.closed {closer body : List Char} (hrest : rest ≠ [])
    (hbody : ThroughFirst closer body rest) (rest' : List Char) :
    ThroughFirst closer body rest' :=
  .inl (hbody.resolve_right fun h => hrest h.1)

/-- A literal that ends before the text does ends there whatever follows. -/
theorem ThroughUnescaped.closed {quote : Char} {body : List Char} (hrest : rest ≠ [])
    (hbody : ThroughUnescaped quote body rest) (rest' : List Char) :
    ThroughUnescaped quote body rest' :=
  .inl (hbody.resolve_right fun h => hrest h.1)

/-- A region that ends with a quote does not end the line. -/
theorem ne_nil_of_quote_end {region head : List Char} (hregion : region = head ++ ['"'])
    (hline : (region ++ text).getLast? = some '\n') : text ≠ [] := by
  rintro rfl
  simp [hregion] at hline

/-- A region after which the line goes on is closed, and so does not depend on what
comes after that line. -/
theorem Covers.closed {form : Form} {region : List Char}
    (hline : (region ++ text).getLast? = some '\n') (hrest : rest ≠ [])
    (hcovers : Covers form region (text ++ rest)) (rest' : List Char) :
    Covers form region (text ++ rest') := by
  have hne : text ++ rest ≠ [] := List.append_ne_nil_of_right_ne_nil _ hrest
  cases form with
  | lineComment =>
      obtain ⟨hregion, hend⟩ := hcovers
      have htext : text ≠ [] := by
        rintro rfl
        rw [List.append_nil] at hline
        exact hregion (List.mem_of_getLast? hline)
      have hbegins := hend.resolve_left hne
      rw [prefix_singleton_append_iff htext] at hbegins
      exact ⟨hregion, .inr (hbegins.trans (List.prefix_append _ _))⟩
  | blockComment =>
      obtain ⟨body, hregion, hbody⟩ := hcovers
      exact ⟨body, hregion, hbody.closed hne _⟩
  | verbatim =>
      obtain ⟨opener, hopener, body, rfl, hbody⟩ := hcovers
      obtain ⟨inner, hinner, rfl, hend⟩ := hbody.resolve_right fun h => hne h.1
      have htext := ne_nil_of_quote_end (List.append_assoc _ _ _).symm hline
      rw [prefix_singleton_append_iff htext] at hend
      refine ⟨opener, hopener, _, rfl, .inl ⟨inner, hinner, rfl, ?_⟩⟩
      rwa [prefix_singleton_append_iff htext]
  | tripleQuoted =>
      obtain ⟨width, body, rfl, hwidth, hstart, hbody⟩ := hcovers
      obtain ⟨inner, run, rfl, hrun, hshort, hlast, hend⟩ :=
        hbody.resolve_right fun h => hne h.1
      have hquotes : quotes run = quotes (run - 1) ++ ['"'] := by
        rw [quotes, quotes, ← List.replicate_succ', Nat.sub_add_cancel (by omega)]
      have htext : text ≠ [] := by
        have hregion : quotes width ++ (inner ++ quotes run) =
            quotes width ++ inner ++ quotes (run - 1) ++ ['"'] := by
          simp [hquotes]
        exact ne_nil_of_quote_end hregion hline
      have hbody_ne : inner ++ quotes run ++ text ≠ [] :=
        List.append_ne_nil_of_right_ne_nil _ htext
      rw [prefix_singleton_append_iff htext] at hend
      rw [← List.append_assoc, prefix_singleton_append_iff hbody_ne] at hstart
      refine ⟨width, _, rfl, hwidth, ?_, .inl ⟨inner, run, rfl, hrun, hshort, hlast, ?_⟩⟩
      · rwa [← List.append_assoc, prefix_singleton_append_iff hbody_ne]
      · rwa [prefix_singleton_append_iff htext]
  | delimited =>
      obtain ⟨delimiter, body, hdelimiter, hregion, hbody⟩ := hcovers
      exact ⟨delimiter, body, hdelimiter, hregion, hbody.closed hne _⟩
  | string =>
      obtain ⟨body, hregion, hbody⟩ := hcovers
      exact ⟨body, hregion, hbody.closed hne _⟩
  | character =>
      obtain ⟨body, hregion, hbody⟩ := hcovers
      exact ⟨body, hregion, hbody.closed hne _⟩

theorem Covers.ne_nil {form : Form} {region : List Char}
    (hopens : Opens dialect form before (region ++ rest))
    (hcovers : Covers form region rest) : region ≠ [] := by
  have hpos := extent_pos hopens
  rw [extent_of_covers hcovers] at hpos
  exact List.ne_nil_of_length_pos hpos

/-! ## A text that leaves nothing open -/

/-- Either the character after the last line is code, and any other text may stand in its
place, or it is blanked. -/
theorem Splits.last_code_or_blanked {whole : List Char} {pieces : List Piece}
    (hsplits : Splits dialect before whole pieces) (hwhole : whole = text ++ ['x'])
    (hline : (before ++ text).getLast? = some '\n') :
    (∃ inner, pieces = inner ++ [.code 'x'] ∧ ∀ rest last,
        Splits dialect (before ++ text) rest last →
          Splits dialect before (text ++ rest) (inner ++ last)) ∨
      ∃ cleaned, pieces.flatMap Piece.cleaned = cleaned ++ [' '] := by
  induction hsplits generalizing text with
  | done => simp at hwhole
  | @code before c rest pieces hcode hrest ih =>
      cases text with
      | nil =>
          obtain ⟨rfl, rfl⟩ := List.cons.inj hwhole
          obtain rfl := hrest.unique .done
          exact .inl ⟨[], rfl, fun rest last hlast => by simpa using hlast⟩
      | cons d text =>
          rw [List.cons_append] at hwhole
          obtain ⟨rfl, rfl⟩ := List.cons.inj hwhole
          rcases ih rfl (by simpa using hline) with
            ⟨inner, rfl, hreplace⟩ | ⟨cleaned, hblanked⟩
          · have hline' : (c :: text).getLast? = some '\n' := by
              rwa [List.getLast?_append_of_ne_nil _ (by simp)] at hline
            have hcode' (form : Form) : ¬Opens dialect form before (c :: text) := by
              rw [← List.cons_append] at hcode
              exact fun hopens => hcode form ((opens_append_iff form hline').2 hopens)
            refine .inl ⟨.code c :: inner, rfl, fun rest last hlast => ?_⟩
            refine .code (fun form hopens => hcode' form ?_)
              (hreplace rest last (by simpa using hlast))
            exact (opens_append_iff form hline').1 hopens
          · exact .inr ⟨c :: cleaned, by simp [Piece.cleaned, hblanked]⟩
  | @region form before region rest pieces hbegins hcovers hrest ih =>
      rcases List.eq_nil_or_concat' rest with rfl | ⟨inside, y, rfl⟩
      · obtain rfl := hrest.unique .done
        rw [List.append_nil] at hwhole
        exact .inr ⟨text.map blanked, by simp [Piece.cleaned, hwhole, blanked]⟩
      · obtain ⟨rfl, hy⟩ : region ++ inside = text ∧ [y] = ['x'] := by
          rw [← List.append_assoc] at hwhole
          exact List.append_inj' hwhole rfl
        obtain rfl : y = 'x' := by simpa using hy
        rcases ih rfl (by simpa using hline) with
          ⟨inner, rfl, hreplace⟩ | ⟨cleaned, hblanked⟩
        · have hregion := hcovers.ne_nil hbegins.1
          have hline' : (region ++ inside).getLast? = some '\n' := by
            rwa [List.getLast?_append_of_ne_nil _
              (List.append_ne_nil_of_left_ne_nil hregion _)] at hline
          refine .inl ⟨.region region :: inner, rfl, fun rest last hlast => ?_⟩
          rw [List.append_assoc]
          refine .region ?_ (hcovers.closed hline' (by simp) rest)
            (hreplace rest last (by simpa using hlast))
          rw [← List.append_assoc, begins_append_iff form hline'] at hbegins ⊢
          exact hbegins
        · exact .inr ⟨Piece.cleaned (.region region) ++ cleaned, by simp [hblanked]⟩

/-- A text that ends in a line feed and leaves no region open is cleaned on its own,
whatever follows, and what follows is cleaned as if it stood alone. -/
theorem clean_append (dialect : Dialect) (text rest : List Char)
    (hline : text.getLast? = some '\n')
    (hclosed : clean dialect (text ++ ['x']) = clean dialect text ++ ['x']) :
    clean dialect (text ++ rest) = clean dialect text ++ clean dialect rest := by
  obtain ⟨pieces, hpieces⟩ := exists_splits dialect [] (text ++ ['x'])
  obtain ⟨last, hlast⟩ := exists_splits dialect [] rest
  have hclean : clean dialect (text ++ ['x']) = pieces.flatMap Piece.cleaned :=
    hpieces.clean_eq
  rw [hclosed] at hclean
  rcases hpieces.last_code_or_blanked rfl hline with
    ⟨inner, rfl, hreplace⟩ | ⟨cleaned, hblanked⟩
  · have hsplits := hreplace rest last (by simpa using hlast.after_line hline)
    have hinner : clean dialect text = inner.flatMap Piece.cleaned := by
      rw [List.flatMap_append] at hclean
      exact (List.append_inj' hclean rfl).1
    calc clean dialect (text ++ rest)
        = (inner ++ last).flatMap Piece.cleaned := hsplits.clean_eq
      _ = inner.flatMap Piece.cleaned ++ last.flatMap Piece.cleaned := List.flatMap_append
      _ = clean dialect text ++ clean dialect rest := by
          rw [hinner, ← hlast.clean_eq]
          rfl
  · rw [hblanked] at hclean
    exact absurd (List.append_inj' hclean rfl).2 (by simp)

/-- A line with a raw literal, a comment, a number with a separator and a comment to its
end. -/
def closedLine : List Char :=
  "x = R\"a(\")a\"; /* ' */ n = 1'000; // \"\n".toList

/-- A raw literal that an identifier before it would spoil, and a literal left open. -/
def openLine : List Char :=
  "R\"(\")\" '\x7b".toList

theorem clean_append_after_literals :
    clean Dialect.cpp (closedLine ++ openLine) =
      clean Dialect.cpp closedLine ++ clean Dialect.cpp openLine :=
  clean_append Dialect.cpp closedLine openLine (by decide) (by decide)

end FrameLens.Lexis
