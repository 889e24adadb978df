import FrameLens.Proofs.Headers.Extents
import FrameLens.Proofs.Pieces

/-!
# Members initialized in a header

A header that nothing cuts short is the longest text before its brace that the walk
back can go over.  The walk takes a group in braces for the value of a member by the
group alone and the character before it, while the scan forward asks for a colon that
introduces the members.  The two agree on a header exactly if such a colon stands
before its first group; else the body of a whole function may be in it.
-/

namespace FrameLens

namespace Text

/-- The text before the first occurrence of a character. -/
theorem exists_eq_before_append {c : Char} {text : List Char} (hmem : c ∈ text) :
    ∃ rest, text = before c text ++ c :: rest ∧ c ∉ before c text := by
  obtain ⟨rest, htext, hcut, hrest⟩ := takeWhile_eq_iff.1 (rfl : before c text = _)
  have hfree : c ∉ before c text := fun hc => by simpa using hcut c hc
  cases rest with
  | nil =>
      rw [List.append_nil] at htext
      exact absurd (htext ▸ hmem) hfree
  | cons d rest =>
      obtain rfl : d = c := by simpa using hrest d rfl
      exact ⟨rest, htext, hfree⟩

end Text

namespace Header

open FrameLens.Nesting (Pairs)
open FrameLens.Text (isBlank isWordChar)

variable {s : Text} {groups : Bool} {brace bound first : Nat} {header : List Char}

/-! ## A header that nothing cuts short -/

namespace StandsBefore

variable {opener closer : Char}

theorem toArray_getElem? (hstands : StandsBefore s brace first header) {k : Nat}
    (hk : k < header.length) : header.toArray[k]? = s[first + k]? := by
  rw [List.getElem?_toArray, hstands.getElem?_eq hk]

/-- Delimiters pair in a header as they do in the text. -/
theorem pairs_iff (hstands : StandsBefore s brace first header) {left right : Nat}
    (hright : right < header.length) :
    Pairs header.toArray opener closer left right ↔
      Pairs s opener closer (first + left) (first + right) :=
  Nesting.pairs_shift_iff (fun _ hk => hstands.toArray_getElem? hk) hright

end StandsBefore

/-- The whole header of a brace: without the blanks around it, the longest text before
the brace that falls into characters that end nothing and, if `groups` are stepped
over, groups that initialize a member. -/
structure IsWhole (s : Text) (groups : Bool) (brace bound first : Nat) (header : List Char) :
    Prop where
  walked : Walked s groups brace bound
  least : ∀ other, Walked s groups brace other → bound ≤ other
  le : bound ≤ first
  blank : ∀ place, bound ≤ place → place < first → ∃ c, s[place]? = some c ∧ isBlank c = true
  stands : StandsBefore s brace first header

theorem exists_isWhole (hbrace : brace ≤ s.size)
    (hheader : before s brace brace 0 groups = .ok header) :
    ∃ bound first, IsWhole s groups brace bound first header := by
  obtain ⟨bound, first, hle, hwalked, hstops, hstands, -, hblank⟩ :=
    exists_standsBefore hbrace hheader
  rw [Int.sub_self, max_self] at hstops
  refine ⟨bound, first, hwalked, fun other hother => ?_, hle, hblank rfl, hstands⟩
  exact hwalked.le_of_stopsAt (hstops.imp_left fun hle => by omega) hother

namespace IsWhole

/-- What can be seen from the bound on is in the header or behind it. -/
theorem le_of_visible (hwhole : IsWhole s groups brace bound first header) {place : Nat}
    {c : Char} (hc : s[place]? = some c) (hvisible : isBlank c = false) (hbound : bound ≤ place) :
    first ≤ place := by
  by_contra hlt
  obtain ⟨d, hd, hblank⟩ := hwhole.blank place hbound (by omega)
  rw [hc, Option.some.injEq] at hd
  rw [← hd, hvisible] at hblank
  cases hblank

/-- The name that a group follows is in the header with it. -/
theorem le_of_follows (hwhole : IsWhole s groups brace bound first header) {name place : Nat}
    {c : Char} (hc : s[name]? = some c) (hword : isWordChar c = true ∨ c = '>')
    (hfirst : first ≤ place) (hgap : ∀ between, name < between → between < place →
      s[between]? = some ' ' ∨ s[between]? = some '\t') : first ≤ name := by
  have hvisible : isBlank c = false := by
    rcases hword with hword | rfl
    · exact Text.isBlank_of_isWordChar hword
    · decide
  refine hwhole.le_of_visible hc hvisible ?_
  by_contra hlt
  -- Else the walk could go on: a name and the blanks behind it end nothing.
  obtain ⟨before, hbefore⟩ : ∃ before, bound = before + 1 := ⟨bound - 1, by omega⟩
  have hle := hwhole.le
  have hwalked := hwhole.walked
  rw [hbefore] at hwalked
  have hlonger : Walked s groups brace before := by
    by_cases hname : before = name
    · have hne : c ≠ ';' ∧ c ≠ '\x7b' ∧ c ≠ '\x7d' := by
        refine ⟨?_, ?_, ?_⟩ <;>
        · rintro rfl
          revert hword
          decide
      exact .char (hname ▸ hc) hne.1 hne.2.1 hne.2.2 hwalked
    · rcases hgap before (by omega) (by omega) with hspace | htab
      · exact .char hspace (by decide) (by decide) (by decide) hwalked
      · exact .char htab (by decide) (by decide) (by decide) hwalked
  have := hwhole.least before hlonger
  omega

/-- A group of the text that lies in the header is the same group of the header. -/
theorem initializes (hwhole : IsWhole s groups brace bound first header) {opener closer : Nat}
    (hcloser : closer < header.length)
    (hgroup : Initializes s (first + opener) (first + closer)) :
    Initializes header.toArray opener closer := by
  have hlt := hgroup.pairs.lt
  obtain ⟨name, c, hname, hc, hword, hgap⟩ := hgroup.follows
  have hle := hwhole.le_of_follows hc hword (Nat.le_add_right first opener) hgap
  obtain ⟨name, rfl⟩ := Nat.exists_eq_add_of_le hle
  have hat {k : Nat} (hk : k < header.length) := hwhole.stands.toArray_getElem? hk
  refine ⟨(hwhole.stands.pairs_iff hcloser).2 hgroup.pairs, fun place hleft hright => ?_,
    name, c, by omega, ?_, hword, fun place hleft hright => ?_⟩
  · rw [hat (by omega)]
    exact hgroup.plain _ (by omega) (by omega)
  · rwa [hat (by omega)]
  · rw [hat (by omega)]
    exact hgap _ (by omega) (by omega)

/-- A group from the header on, told by its places in the header. -/
theorem exists_initializes (hwhole : IsWhole s groups brace bound first header)
    {outer last : Nat} (hgroup : Initializes s outer last) (hbound : bound ≤ outer)
    (hlast : last < brace) :
    ∃ opener closer, outer = first + opener ∧ last = first + closer ∧
      closer < header.length ∧ Initializes header.toArray opener closer := by
  have hlt := hgroup.pairs.lt
  have hfirst := hwhole.le_of_visible hgroup.pairs.opens (by decide) hbound
  have hbehind := hwhole.stands.lt_of_visible hgroup.pairs.closes (by decide) hlast
  obtain ⟨opener, rfl⟩ := Nat.exists_eq_add_of_le hfirst
  obtain ⟨closer, rfl⟩ := Nat.exists_eq_add_of_le (show first ≤ last by omega)
  have hcloser : closer < header.length := by omega
  exact ⟨opener, closer, rfl, rfl, hcloser, hwhole.initializes hcloser hgroup⟩

/-- Every pair of braces in the header lies in a group that initializes a member. -/
theorem exists_group_of_pairs (hwhole : IsWhole s groups brace bound first header)
    {opener closer : Nat} (hpairs : Pairs header.toArray '\x7b' '\x7d' opener closer) :
    ∃ outer last, outer ≤ opener ∧ closer ≤ last ∧ Initializes header.toArray outer last := by
  have hcloser : closer < header.length := by simpa using hpairs.last_lt
  have hlt := hpairs.lt
  have hle := hwhole.le
  have hend := hwhole.stands.le
  obtain ⟨outer, last, hbound, hbefore, hafter, hlast, hgroup⟩ :=
    hwhole.walked.exists_group_of_pairs ((hwhole.stands.pairs_iff hcloser).1 hpairs)
      (by omega) (by omega)
  obtain ⟨outer, last, rfl, rfl, -, hgroup⟩ := hwhole.exists_initializes hgroup hbound hlast
  exact ⟨outer, last, by omega, by omega, hgroup⟩

/-- The first opening brace of the header opens a group that initializes a member. -/
theorem exists_group_of_first (hwhole : IsWhole s groups brace bound first header)
    {head rest : List Char} (hheader : header = head ++ '\x7b' :: rest)
    (hfree : '\x7b' ∉ head) : ∃ last, Initializes header.toArray head.length last := by
  have hlength : head.length < header.length := by simp [hheader]
  have hle := hwhole.le
  have hend := hwhole.stands.le
  have hopens : s[first + head.length]? = some '\x7b' := by
    rw [← hwhole.stands.getElem?_eq hlength, hheader, List.getElem?_append_right (le_refl _),
      Nat.sub_self]
    rfl
  obtain ⟨last, hlast, hgroup⟩ := hwhole.walked.exists_group_of_first hopens (by omega)
    (by omega) fun place hbound hlt hopener => by
      have hfirst := hwhole.le_of_visible hopener (by decide) hbound
      obtain ⟨k, rfl⟩ := Nat.exists_eq_add_of_le hfirst
      have hk : k < head.length := by omega
      rw [← hwhole.stands.getElem?_eq (by omega), hheader, List.getElem?_append_left hk]
        at hopener
      exact hfree (List.mem_of_getElem? hopener)
  obtain ⟨opener, last, hopener, rfl, -, hgroup⟩ :=
    hwhole.exists_initializes hgroup (by omega) hlast
  obtain rfl : head.length = opener := by omega
  exact ⟨last, hgroup⟩

end IsWhole

/-! ## Introducers -/

/-- A colon introduces the members to be initialized: it is no part of a double colon,
and every parenthesis that opens before it closes before it. -/
structure Introduces (text : Text) (colon : Nat) : Prop where
  marks : text[colon]? = some ':'
  left_ne : ∀ left, left + 1 = colon → text[left]? ≠ some ':'
  right_ne : text[colon + 1]? ≠ some ':'
  outside : ∀ opener < colon, text[opener]? = some '(' →
    ∃ closer < colon, Pairs text '(' ')' opener closer

/-- A colon before a brace introduces members by the text before that brace. -/
theorem introduces_append_iff {head rest : List Char} {colon : Nat}
    (hcolon : colon < head.length) :
    Introduces (head ++ '\x7b' :: rest).toArray colon ↔ Introduces head.toArray colon := by
  have hsame : ∀ k < head.length,
      head.toArray[k]? = (head ++ '\x7b' :: rest).toArray[0 + k]? := by
    intro k hk
    rw [List.getElem?_toArray, List.getElem?_toArray, Nat.zero_add,
      List.getElem?_append_left hk]
  have hat {k : Nat} (hk : k < head.length) :
      (head ++ '\x7b' :: rest).toArray[k]? = head.toArray[k]? := by
    rw [hsame k hk, Nat.zero_add]
  have hpairs {opener closer : Nat} (hcloser : closer < colon) :
      Pairs (head ++ '\x7b' :: rest).toArray '(' ')' opener closer ↔
        Pairs head.toArray '(' ')' opener closer := by
    rw [Nesting.pairs_shift_iff hsame (by omega), Nat.zero_add, Nat.zero_add]
  have hright : (head ++ '\x7b' :: rest).toArray[colon + 1]? ≠ some ':' ↔
      head.toArray[colon + 1]? ≠ some ':' := by
    by_cases hlast : colon + 1 < head.length
    · rw [hat hlast]
    · obtain hend : colon + 1 = head.length := by omega
      simp [hend]
  constructor
  · rintro ⟨hc, hleft_ne, hright_ne, houtside⟩
    refine ⟨?_, fun left hleft => ?_, hright.1 hright_ne, fun opener hopener hopens => ?_⟩
    · rwa [← hat hcolon]
    · rw [← hat (by omega)]
      exact hleft_ne left hleft
    · rw [← hat (by omega)] at hopens
      obtain ⟨closer, hcloser, hpair⟩ := houtside opener hopener hopens
      exact ⟨closer, hcloser, (hpairs hcloser).1 hpair⟩
  · rintro ⟨hc, hleft_ne, hright_ne, houtside⟩
    refine ⟨?_, fun left hleft => ?_, hright.2 hright_ne, fun opener hopener hopens => ?_⟩
    · rwa [hat hcolon]
    · rw [hat (by omega)]
      exact hleft_ne left hleft
    · rw [hat (by omega)] at hopens
      obtain ⟨closer, hcloser, hpair⟩ := houtside opener hopener hopens
      exact ⟨closer, hcloser, (hpairs hcloser).2 hpair⟩

/-- A header that nothing cuts short is the longest text to be walked over, all its
braces belong to groups on one line behind a name or an argument list, and members are
introduced before each of them exactly if they are before the first. -/
theorem groups_introduced_iff {maxChars maxLines : Int} (hbrace : brace ≤ s.size)
    (huncut : before s brace maxChars maxLines true = before s brace brace 0 true) :
    ∃ header bound first, before s brace maxChars maxLines true = .ok header ∧
      IsWhole s true brace bound first header ∧
      (∀ opener closer, Pairs header.toArray '\x7b' '\x7d' opener closer →
        ∃ outer last, outer ≤ opener ∧ closer ≤ last ∧
          Initializes header.toArray outer last) ∧
      ((∀ opener closer, Pairs header.toArray '\x7b' '\x7d' opener closer →
          ∃ colon < opener, Introduces header.toArray colon) ↔
        ('\x7b' ∈ header →
          ∃ colon, Introduces (Text.before '\x7b' header).toArray colon)) := by
  obtain ⟨header, hheader⟩ := before_ok
    (show (brace : Int) ≤ s.length by rw [Text.length]; omega) maxChars maxLines true
  obtain ⟨bound, first, hwhole⟩ := exists_isWhole hbrace (huncut ▸ hheader)
  refine ⟨header, bound, first, hheader, hwhole,
    fun opener closer hpairs => hwhole.exists_group_of_pairs hpairs, ?_⟩
  constructor
  · intro hall hmem
    obtain ⟨rest, htext, hfree⟩ := Text.exists_eq_before_append hmem
    obtain ⟨last, hgroup⟩ := hwhole.exists_group_of_first htext hfree
    obtain ⟨colon, hcolon, hintroduces⟩ := hall _ last hgroup.pairs
    rw [htext, introduces_append_iff hcolon] at hintroduces
    exact ⟨colon, hintroduces⟩
  · intro hfirst opener closer hpairs
    have hopens : header[opener]? = some '\x7b' := by simpa using hpairs.opens
    have hmem := List.mem_of_getElem? hopens
    obtain ⟨rest, htext, hfree⟩ := Text.exists_eq_before_append hmem
    obtain ⟨colon, hintroduces⟩ := hfirst hmem
    have hcolon : colon < (Text.before '\x7b' header).length := by
      simpa using (Array.getElem?_eq_some_iff.1 hintroduces.marks).1
    have hle : (Text.before '\x7b' header).length ≤ opener := by
      by_contra hlt
      rw [htext, List.getElem?_append_left (by omega)] at hopens
      exact hfree (List.mem_of_getElem? hopens)
    have hwhole_text : Introduces (Text.before '\x7b' header ++ '\x7b' :: rest).toArray colon :=
      (introduces_append_iff hcolon).2 hintroduces
    rw [← htext] at hwhole_text
    exact ⟨colon, by omega, hwhole_text⟩

/-- A constructor that gives its members values in braces. -/
def constructorText : Text :=
  "A::A(int w) : w_\x7bw\x7d, h_\x7b1\x7d\n\x7b".toList.toArray

theorem constructorText_introduces :
    Introduces "A::A(int w) : w_".toList.toArray 12 := by
  have hinside : ∀ place < 11, 4 < place →
      Nesting.height "A::A(int w) : w_".toList.toArray '(' ')' 4 <
        Nesting.height "A::A(int w) : w_".toList.toArray '(' ')' place := by
    decide
  have honly : ∀ opener < 12, "A::A(int w) : w_".toList.toArray[opener]? = some '(' →
      opener = 4 := by
    decide
  refine ⟨by decide, ?_, by decide, fun opener hopener hopens => ?_⟩
  · rintro left hleft
    obtain rfl : left = 11 := by omega
    decide
  · obtain rfl := honly opener hopener hopens
    exact ⟨10, by decide, by decide, by decide, by decide,
      fun place hfirst hlast => hinside place (by omega) hfirst⟩

/-- Both members of the constructor are introduced. -/
theorem members_introduced :
    27 ≤ constructorText.size ∧
      before constructorText 27 8000 30 true = before constructorText 27 27 0 true ∧
      ∃ header, before constructorText 27 8000 30 true = .ok header ∧
        ∀ opener closer, Pairs header.toArray '\x7b' '\x7d' opener closer →
          ∃ colon < opener, Introduces header.toArray colon := by
  have huncut : before constructorText 27 8000 30 true =
      before constructorText 27 27 0 true := by
    decide +kernel
  obtain ⟨header, bound, first, hheader, -, -, hiff⟩ :=
    groups_introduced_iff (show 27 ≤ constructorText.size by decide) huncut
  refine ⟨by decide, huncut, header, hheader, hiff.2 fun _ => ⟨12, ?_⟩⟩
  have hknown : before constructorText 27 8000 30 true =
      .ok "A::A(int w) : w_\x7bw\x7d, h_\x7b1\x7d".toList := by
    decide +kernel
  obtain rfl := Except.ok.inj (hknown.symm.trans hheader)
  exact constructorText_introduces

/-- Two functions, the first with its body on the line of its name. -/
def adjacentBodies : Text :=
  "int A() const \x7b\x7d\nint B()\n\x7b".toList.toArray

/-- The body of a function is kept in the header of the next one. -/
theorem body_not_introduced :
    ¬∀ (s : Text) (brace : Nat) (maxChars maxLines : Int) (header : List Char),
      s[brace]? = some '\x7b' →
      before s brace maxChars maxLines true = before s brace brace 0 true →
      before s brace maxChars maxLines true = .ok header →
      ∀ opener closer, Pairs header.toArray '\x7b' '\x7d' opener closer →
        ∃ colon < opener, Introduces header.toArray colon := by
  intro hintroduced
  have hpairs : Pairs "int A() const \x7b\x7d\nint B()".toList.toArray '\x7b' '\x7d' 14 15 :=
    ⟨by decide, by decide, by decide, fun place hfirst hlast => by
      obtain rfl : place = 15 := by omega
      decide⟩
  obtain ⟨colon, hcolon, hintroduces⟩ :=
    hintroduced adjacentBodies 25 8000 30 _ (by decide) (by decide +kernel) (by decide +kernel)
      14 15 hpairs
  have hnone : ∀ colon < 14,
      "int A() const \x7b\x7d\nint B()".toList.toArray[colon]? ≠ some ':' := by
    decide
  exact hnone colon hcolon hintroduces.marks

end Header

end FrameLens
