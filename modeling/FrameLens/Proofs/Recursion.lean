import FrameLens.Proofs.Definitions
import FrameLens.Proofs.Pieces

/-!
# Definitions that call themselves

A function whose body calls it by name is still found from every place in that
body.  The calls are met first, but a semicolon follows each of them where a
body would have to begin; the definition's own name is the first occurrence that
is taken.
-/

namespace FrameLens

namespace Decoration

open FrameLens.Text (isBlank)

variable {s : Text} {shapes : Shapes} {before gap after : List Char}

/-- Where a semicolon follows a parameter list there is no body. -/
theorem skip_of_semicolon (htext : s.toList = before ++ gap ++ ';' :: after)
    (hgap : ∀ c ∈ gap, isBlank c = true) : skip s shapes before.length = .ok none := by
  rw [skip, Text.checkScan_of_nonneg (Int.natCast_nonneg _), OutOfRange.ok_bind]
  dsimp only
  generalize (min s.length ((before.length : Int) + maxLength) - before.length).toNat = count
  cases count with
  | zero => rfl
  | succ count =>
      rw [skipWithin, Text.pastBlanks_of_gap htext hgap (by decide), Text.at?_natCast,
        Text.getElem?_of_toList_eq htext]
      split <;> rfl

/-- Where a brace follows a parameter list after blanks, the body opens there. -/
theorem skip_of_brace (htext : s.toList = before ++ gap ++ '\x7b' :: after)
    (hgap : ∀ c ∈ gap, isBlank c = true) (hshort : gap.length < maxLength) :
    skip s shapes before.length = .ok (some ((before ++ gap).length : Nat)) := by
  have hlength : s.length = (before.length + gap.length + (after.length + 1) : Nat) := by
    rw [Text.length_of_toList_eq htext, List.length_append, List.length_append,
      List.length_cons]
  obtain ⟨limit, hlimit⟩ : ∃ limit, limit = min s.length ((before.length : Int) + maxLength) :=
    ⟨_, rfl⟩
  obtain ⟨count, hcount⟩ : ∃ count, (limit - before.length).toNat = count + 1 :=
    ⟨(limit - before.length).toNat - 1, by omega⟩
  have hroom : ¬limit ≤ ((before ++ gap).length : Nat) := by
    rw [List.length_append]
    omega
  rw [skip, Text.checkScan_of_nonneg (Int.natCast_nonneg _), OutOfRange.ok_bind]
  dsimp only
  rw [← hlimit, hcount, skipWithin, Text.pastBlanks_of_gap htext hgap (by decide),
    if_neg hroom, Text.at?_natCast, Text.getElem?_of_toList_eq htext]
  rfl

end Decoration

namespace Definition

open FrameLens.Nesting (Balanced)
open FrameLens.Occurrence (WholeAt)
open FrameLens.Text (isWordChar isBlank)

variable {v : View} {name : List Char}

/-! ## The text around a definition -/

/-- The text around a name in pieces: what stands before the name, between the
parentheses, between these and the body, in the body, and after it. -/
structure Pieces where
  before : List Char
  params : List Char
  gap : List Char
  body : List Char
  after : List Char

namespace Pieces

/-- The text through the parenthesis that closes the parameters. -/
def throughParams (pieces : Pieces) (name : List Char) : List Char :=
  pieces.before ++ name ++ '(' :: pieces.params ++ [')']

/-- The text through the brace that opens the body. -/
def throughBrace (pieces : Pieces) (name : List Char) : List Char :=
  pieces.throughParams name ++ pieces.gap ++ ['\x7b']

/-- The text up to the brace that closes the body. -/
def throughBody (pieces : Pieces) (name : List Char) : List Char :=
  pieces.throughBrace name ++ pieces.body

/-- Where the body is closed. -/
def close (pieces : Pieces) (name : List Char) : Nat :=
  (pieces.throughBody name).length

/-- The whole text. -/
def text (pieces : Pieces) (name : List Char) : List Char :=
  pieces.throughBody name ++ '\x7d' :: pieces.after

end Pieces

/-- What follows a name in a call that is a statement: arguments in parentheses and a
semicolon, with blanks before and after the arguments. -/
def IsCall (text : List Char) : Prop :=
  ∃ gap arguments gap' rest : List Char,
    text = gap ++ '(' :: arguments ++ ')' :: gap' ++ ';' :: rest ∧
      (∀ c ∈ gap, isBlank c = true) ∧ Balanced '(' ')' arguments ∧
      ∀ c ∈ gap', isBlank c = true

/-- Wherever the name stands in a body as an identifier of its own it is called. -/
def OnlyCalled (name body : List Char) : Prop :=
  ∀ earlier later, body = earlier ++ name ++ later →
    (∀ c ∈ earlier.getLast?, isWordChar c = false) →
    (∀ c ∈ later.head?, isWordChar c = false) → IsCall later

/-- The cleaned text of a view is that of a definition between other text, whose body
does nothing with the name but call it. -/
structure Defines (v : View) (name : List Char) (pieces : Pieces) : Prop where
  text_eq : v.cleaned.toList = pieces.text name
  name_ne_nil : name ≠ []
  name_word : ∀ c ∈ name, isWordChar c = true
  name_ne : name ≠ operatorName
  before_ends : ∀ c ∈ pieces.before.getLast?, isWordChar c = false
  params_balanced : Balanced '(' ')' pieces.params
  params_free : ¬name <:+: pieces.params
  gap_blank : ∀ c ∈ pieces.gap, isBlank c = true
  gap_short : pieces.gap.length < 4096
  body_balanced : Balanced '\x7b' '\x7d' pieces.body
  body_calls : OnlyCalled name pieces.body

/-! ## From the name to what follows the parameters -/

/-- The parameters begin behind the name and blanks. -/
theorem parameters?_of_gap {s : Text} {before gap after : List Char}
    (htext : s.toList = before ++ name ++ gap ++ '(' :: after) (hname : name ≠ operatorName)
    (hgap : ∀ c ∈ gap, isBlank c = true) :
    parameters? s name before.length = .ok (some ((before ++ name ++ gap).length : Nat)) := by
  have hplace : (before.length : Int) + name.length = ((before ++ name).length : Nat) := by
    rw [List.length_append, Int.natCast_add]
  have hsame : parameters? s name before.length =
      pastArguments s ((before.length : Int) + name.length) := by
    rw [parameters?, if_neg hname]
    rfl
  rw [hsame, hplace, pastArguments, Text.skipBlanks_of_nonneg (Int.natCast_nonneg _),
    OutOfRange.ok_bind, Text.pastBlanks_of_gap htext hgap (by decide), Text.at?_natCast,
    Text.getElem?_of_toList_eq htext]
  rfl

/-- After a name and a balanced parameter list it is the decorations that decide. -/
theorem body?_of_params {before gap params after : List Char}
    (htext : v.cleaned.toList = before ++ name ++ gap ++ '(' :: params ++ ')' :: after)
    (hname : name ≠ operatorName) (hgap : ∀ c ∈ gap, isBlank c = true)
    (hparams : Balanced '(' ')' params) :
    body? v name before.length = Decoration.skip v.cleaned (shapesOf v.dialect)
      ((before ++ name ++ gap ++ '(' :: params ++ [')']).length : Nat) := by
  have hparen : v.cleaned.matchingParen? ((before ++ name ++ gap).length : Nat) =
      some ((before ++ name ++ gap ++ '(' :: params).length : Nat) :=
    Nesting.matching?_of_balanced (by decide) htext hparams
  have hopener : v.cleaned.toList =
      before ++ name ++ gap ++ '(' :: (params ++ ')' :: after) := by
    rw [htext, List.append_assoc, List.cons_append]
  have hnext : ((before ++ name ++ gap ++ '(' :: params ++ [')']).length : Int) =
      (before ++ name ++ gap ++ '(' :: params).length + 1 := by
    rw [List.length_append, List.length_singleton, Int.natCast_succ]
  rw [body?, parameters?_of_gap hopener hname hgap, OutOfRange.ok_bind, hnext]
  dsimp only
  rw [hparen]
  rfl

/-- A call is no definition. -/
theorem body?_of_call {before later : List Char}
    (htext : v.cleaned.toList = before ++ name ++ later) (hname : name ≠ operatorName)
    (hcall : IsCall later) : body? v name before.length = .ok none := by
  obtain ⟨gap, arguments, gap', rest, rfl, hgap, harguments, hgap'⟩ := hcall
  have hparams : v.cleaned.toList =
      before ++ name ++ gap ++ '(' :: arguments ++ ')' :: (gap' ++ ';' :: rest) := by
    simp [htext]
  rw [body?_of_params hparams hname hgap harguments]
  have hsemicolon : v.cleaned.toList =
      before ++ name ++ gap ++ '(' :: arguments ++ [')'] ++ gap' ++ ';' :: rest := by
    simp [hparams]
  exact Decoration.skip_of_semicolon hsemicolon hgap'

theorem IsCall.append {text : List Char} (hcall : IsCall text) (more : List Char) :
    IsCall (text ++ more) := by
  obtain ⟨gap, arguments, gap', rest, rfl, hrest⟩ := hcall
  exact ⟨gap, arguments, gap', rest ++ more, by simp, hrest⟩

/-! ## The definition itself -/

namespace Defines

variable {pieces : Pieces} {settings : Settings} {target : Int}

/-- The text of a definition, cut at its parameters. -/
theorem text_eq_name (hdefines : Defines v name pieces) :
    v.cleaned.toList = pieces.before ++ name ++ '(' :: (pieces.params ++
      ')' :: (pieces.gap ++ '\x7b' :: (pieces.body ++ '\x7d' :: pieces.after))) := by
  simp [hdefines.text_eq, Pieces.text, Pieces.throughBody, Pieces.throughBrace,
    Pieces.throughParams]

/-- The text of a definition, cut at its body. -/
theorem text_eq_brace (hdefines : Defines v name pieces) :
    v.cleaned.toList = pieces.throughParams name ++ pieces.gap ++
      '\x7b' :: (pieces.body ++ '\x7d' :: pieces.after) := by
  simp [hdefines.text_eq, Pieces.text, Pieces.throughBody, Pieces.throughBrace]

theorem close_lt_length (hdefines : Defines v name pieces) :
    (pieces.close name : Int) < v.cleaned.length := by
  rw [Text.length_of_toList_eq hdefines.text_eq, Pieces.text, Pieces.close,
    List.length_append, List.length_cons]
  omega

/-- The name of a definition is a whole word. -/
theorem wholeAt (hdefines : Defines v name pieces) :
    WholeAt v.cleaned name pieces.before.length := by
  rw [Occurrence.wholeAt_iff_of_toList_eq hdefines.text_eq_name hdefines.name_ne_nil
    hdefines.name_word]
  refine ⟨hdefines.before_ends, ?_⟩
  rintro c ⟨rfl⟩
  decide

/-- The body of a definition is found at its brace. -/
theorem body?_eq (hdefines : Defines v name pieces) :
    body? v name pieces.before.length =
      .ok (some ((pieces.throughParams name ++ pieces.gap).length : Nat)) := by
  have hparams : v.cleaned.toList = pieces.before ++ name ++ [] ++ '(' :: pieces.params ++
      ')' :: (pieces.gap ++ '\x7b' :: (pieces.body ++ '\x7d' :: pieces.after)) := by
    simp [hdefines.text_eq_name]
  rw [body?_of_params hparams hdefines.name_ne (by simp) hdefines.params_balanced,
    List.append_nil, ← Pieces.throughParams]
  exact Decoration.skip_of_brace hdefines.text_eq_brace hdefines.gap_blank
    (Int.ofNat_lt.2 hdefines.gap_short)

/-- The body of a definition closes with it. -/
theorem matchingBrace?_eq (hdefines : Defines v name pieces) :
    v.cleaned.matchingBrace? ((pieces.throughParams name ++ pieces.gap).length : Nat) =
      some (pieces.close name : Int) := by
  have hbraces : v.cleaned.toList = pieces.throughParams name ++ pieces.gap ++
      '\x7b' :: pieces.body ++ '\x7d' :: pieces.after := by
    simp [hdefines.text_eq_brace]
  have hclose : pieces.close name =
      (pieces.throughParams name ++ pieces.gap ++ '\x7b' :: pieces.body).length := by
    simp [Pieces.close, Pieces.throughBody, Pieces.throughBrace]
  rw [hclose]
  exact Nesting.matching?_of_balanced (by decide) hbraces hdefines.body_balanced

/-- The definition is taken for every target from its name through the end of its
body. -/
theorem takes (hdefines : Defines v name pieces) (settings : Settings)
    (hlower : pieces.before.length ≤ target) (hupper : target ≤ pieces.close name) :
    ∃ span, Takes v name target settings pieces.before.length span ∧
      Signature.start v pieces.before.length settings.headerMaxLines = .ok span.start ∧
      span.stop = pieces.close name + 1 ∧ span.strategy = .named := by
  obtain ⟨entry, -, hstart, hentry⟩ := Signature.start_spec v
    (Int.natCast_nonneg pieces.before.length) settings.headerMaxLines
  have hclose := hdefines.matchingBrace?_eq
  obtain ⟨-, -, -, hopens, hcloses⟩ := Nesting.matching?_sound (by decide) hclose
  have hspan := Span.ofOffsets_through (Int.natCast_nonneg entry)
    (le_trans hentry (le_trans hlower hupper)) hcloses .named
  have hfirst : v.lineOf entry ≤ v.lineOf target := View.lineOf_mono (le_trans hentry hlower)
  have hlast : v.lineOf target ≤ v.lineOf (pieces.close name) := View.lineOf_mono hupper
  refine ⟨Span.ofOffsets v entry (pieces.close name + 1) .named, ?_, hstart, ?_, rfl⟩
  · rw [takes_iff_of_brace hdefines.body?_eq (Int.natCast_nonneg _) hopens]
    refine ⟨_, hclose, ?_, .inl ?_⟩
    · rw [spanTo, hstart]
      rfl
    · rw [hspan]
      simp [Span.covers, hfirst, hlast]
  · rw [hspan]

/-! ## The calls in its body -/

/-- Whatever stands after the name and before the end of the body stands in the body. -/
theorem exists_body_eq (hdefines : Defines v name pieces) {hit : Nat}
    (hoccurs : Text.occursAt v.cleaned name hit = true)
    (hlower : pieces.before.length < hit) (hupper : hit ≤ pieces.close name) :
    ∃ earlier later, pieces.body = earlier ++ name ++ later ∧
      hit = (pieces.throughBrace name ++ earlier).length ∧
      v.cleaned.toList = pieces.throughBrace name ++ earlier ++ name ++
        (later ++ '\x7d' :: pieces.after) := by
  have hfree {c : Char} (hc : isWordChar c = false) : c ∉ name := by
    intro hmem
    rw [hdefines.name_word c hmem] at hc
    cases hc
  obtain ⟨front, back, htext, rfl⟩ :=
    Text.exists_toList_eq_of_occursAt hdefines.name_ne_nil hoccurs
  -- The delimiters are gone through from left to right.
  rcases Text.word_before_or_after (hfree (by decide))
      (hdefines.text_eq_name.symm.trans htext) with
    ⟨rest, hname, -⟩ | ⟨front₁, rfl, hparams⟩
  · have hlength := congrArg List.length hname
    simp only [List.length_append] at hlength
    omega
  rcases Text.word_before_or_after (hfree (by decide)) hparams with
    ⟨rest, hparams, -⟩ | ⟨front₂, rfl, hgap⟩
  · exact absurd ⟨front₁, rest, hparams.symm⟩ hdefines.params_free
  rcases Text.word_before_or_after (hfree (by decide)) hgap with
    ⟨rest, hgap, -⟩ | ⟨front₃, rfl, htail⟩
  · -- The first character of the name would be blank.
    obtain ⟨c, name', rfl⟩ := List.exists_cons_of_ne_nil hdefines.name_ne_nil
    have hblank := hdefines.gap_blank c (by simp [hgap])
    exact absurd List.mem_cons_self (hfree (Text.isWordChar_of_isBlank hblank))
  rcases Text.word_before_or_after (hfree (by decide)) htail with
    ⟨later, hbody, rfl⟩ | ⟨front₄, rfl, -⟩
  · refine ⟨front₃, later, hbody, ?_, ?_⟩
    · simp [Pieces.throughBrace, Pieces.throughParams]
    · simp [htext, Pieces.throughBrace, Pieces.throughParams]
  · simp only [Pieces.close, Pieces.throughBody, Pieces.throughBrace, Pieces.throughParams,
      List.length_append, List.length_cons, List.length_nil] at hupper
    omega

/-- No occurrence between the name and the end of the body is taken. -/
theorem not_takes (hdefines : Defines v name pieces) {hit : Nat} {span : Span}
    (hwhole : WholeAt v.cleaned name hit) (hlower : pieces.before.length < hit)
    (hupper : hit ≤ pieces.close name) : ¬Takes v name target settings hit span := by
  obtain ⟨earlier, later, hbody, rfl, htext⟩ :=
    hdefines.exists_body_eq hwhole.occurs hlower hupper
  obtain ⟨hbefore, hafter⟩ := (Occurrence.wholeAt_iff_of_toList_eq htext
    hdefines.name_ne_nil hdefines.name_word).1 hwhole
  have hcall : IsCall later := by
    apply hdefines.body_calls earlier later hbody
    · intro c hc
      apply hbefore
      simp [List.getLast?_append, Option.mem_def.1 hc]
    · intro c hc
      apply hafter
      simp [List.head?_append, Option.mem_def.1 hc]
  exact not_takes_of_no_body (body?_of_call htext hdefines.name_ne (hcall.append _))

end Defines

/-! ## The search -/

/-- A definition is found from every place between its name and the end of its body,
even when it calls itself. -/
theorem locate_of_defines (v : View) (name : String) (pieces : Pieces) (target : Int)
    (settings : Settings) (hdefines : Defines v name.toList pieces)
    (hlower : pieces.before.length ≤ target) (hupper : target ≤ pieces.close name.toList)
    (hwindow : target - pieces.before.length ≤ settings.anchorWindow)
    (hcutoff : target - pieces.before.length ≤ settings.candidateCutoff) :
    ∃ span, locate v name target settings = .ok (some span) ∧
      Signature.start v pieces.before.length settings.headerMaxLines = .ok span.start ∧
      span.stop = pieces.close name.toList + 1 ∧ span.strategy = .named := by
  obtain ⟨span, htakes, hshape⟩ := hdefines.takes settings hlower hupper
  refine ⟨span, ?_, hshape⟩
  have hwhole := hdefines.wholeAt
  have htarget := lt_of_le_of_lt hupper hdefines.close_lt_length
  obtain ⟨closer, farther, hnear, hcloser⟩ := Occurrence.exists_near_eq
    hdefines.name_ne_nil hwhole.occurs hlower htarget hwindow hcutoff
  have hcandidates : candidates v name target settings =
      closer ++ pieces.before.length :: farther := by
    rw [candidates, Text.trim_of_word hdefines.name_word]
    exact hnear
  obtain ⟨found, hlocate, hanswers⟩ := locate_ok v name target settings
  rw [Text.trim_of_word hdefines.name_word] at hanswers
  have hfirst : FirstTaken v name.toList target settings (candidates v name target settings)
      closer pieces.before.length farther span := by
    refine ⟨hcandidates, fun hit hmem hwhole' span' => ?_, hwhole, htakes⟩
    obtain ⟨hhit_lower, hhit_upper, -⟩ := hcloser hit hmem
    exact hdefines.not_takes hwhole' hhit_lower (Int.ofNat_le.1 (le_trans hhit_upper hupper))
  rw [hlocate, hanswers.eq_some hfirst]
  rfl

/-- A function that calls itself, with its name at 4 and its braces at 13 and 36. -/
def oneRecursion : View :=
  View.ofText [] Dialect.cpp "int f(int n)\n\x7b\n  if (n) f (n - 1) ;\n\x7d\n".toList

/-- The pieces of the function that calls itself. -/
def recursionPieces : Pieces where
  before := "int ".toList
  params := "int n".toList
  gap := ['\n']
  body := "\n  if (n) f (n - 1) ;\n".toList
  after := ['\n']

theorem oneRecursion_onlyCalled : OnlyCalled "f".toList recursionPieces.body := by
  intro earlier later hbody hbefore hafter
  have hplaces : ∀ place < 23, "f".toList <+: recursionPieces.body.drop place →
      place = 4 ∨ place = 10 := by
    decide
  have hlength : earlier.length < 23 := by
    have := congrArg List.length hbody
    rw [List.length_append, List.length_append,
      show recursionPieces.body.length = 22 by decide] at this
    omega
  have hearlier : earlier = recursionPieces.body.take earlier.length := by
    rw [hbody, List.append_assoc, List.take_left]
  have hlater : "f".toList ++ later = recursionPieces.body.drop earlier.length := by
    rw [hbody, List.append_assoc, List.drop_left]
  rcases hplaces earlier.length hlength (hlater ▸ List.prefix_append _ _) with hif | hcall
  · -- The letter at the end of another word is no call.
    rw [hif] at hearlier
    exact absurd (hbefore 'i' (by rw [hearlier]; decide)) (by decide)
  · rw [hcall] at hlater
    obtain rfl : later = " (n - 1) ;\n".toList := (List.cons.inj hlater).2
    exact ⟨[' '], "n - 1".toList, [' '], ['\n'], by decide,
      List.forall_mem_singleton.2 (by decide), by decide,
      List.forall_mem_singleton.2 (by decide)⟩

theorem oneRecursion_defines : Defines oneRecursion "f".toList recursionPieces where
  text_eq := by decide
  name_ne_nil := by decide
  name_word := List.forall_mem_singleton.2 (by decide)
  name_ne := by decide
  before_ends c hc := by
    obtain rfl : ' ' = c := Option.some.inj hc
    decide
  params_balanced := by decide
  params_free := by decide
  gap_blank := List.forall_mem_singleton.2 (by decide)
  gap_short := by decide
  body_balanced := by decide
  body_calls := oneRecursion_onlyCalled

/-- It is found from its closing brace, before which it calls itself. -/
theorem locate_of_defines_at_close :
    ∃ span, locate oneRecursion "f" 36 {} = .ok (some span) ∧
      Signature.start oneRecursion 4 30 = .ok span.start ∧ span.stop = 37 ∧
      span.strategy = .named :=
  locate_of_defines oneRecursion "f" recursionPieces 36 {} oneRecursion_defines
    (by decide) (by decide) (by decide) (by decide)

end Definition

end FrameLens
