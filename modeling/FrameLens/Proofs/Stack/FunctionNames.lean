import FrameLens.Proofs.Headers.Controls
import FrameLens.Proofs.Pieces
import FrameLens.Proofs.Text.Trimming
import FrameLens.Stack.Frame

/-!
# Names out of scopes and templates

A symbol names scopes and a function, each with template arguments or without, and goes
on with parameters.  It is cut at its first parenthesis before the template arguments are
dropped.  So the short name is that of the function unless the arguments of a scope hold
a parenthesis; then it is that of the first such scope.
-/

namespace FrameLens.FunctionName

open FrameLens.Text (anyPosition endsWord hasKeyword isBlank isWordChar lastIndexOf? mayStartWord)

variable {text name front cut rest : List Char}

/-! ## The operator word -/

/-- The operator word stands in the text as a word of its own. -/
def HoldsOperatorWord (text : List Char) : Prop :=
  ∃ before after, text = before ++ operatorWord ++ after ∧
    (∀ c ∈ before.getLast?, isWordChar c = false) ∧ ∀ c ∈ after.head?, isWordChar c = false

theorem isSome_afterOperatorWord? (previous : Option Char) (text : List Char) :
    (afterOperatorWord? previous text).isSome =
      (mayStartWord previous && ["operator"].any fun keyword =>
        keyword.toList.isPrefixOf text && endsWord (text.drop keyword.length)) := by
  have hword : "operator".toList = operatorWord := rfl
  have hlength : "operator".length = operatorWord.length := rfl
  rw [afterOperatorWord?, List.any_cons, List.any_nil, Bool.or_false, hword, hlength]
  cases mayStartWord previous <;> cases operatorWord.isPrefixOf text <;>
    cases endsWord (text.drop operatorWord.length) <;> rfl

/-- The operator word is looked for as any keyword is. -/
theorem isSome_operatorTail? (text : List Char) :
    (operatorTail? none text).isSome = hasKeyword ["operator"] endsWord text := by
  rw [hasKeyword]
  generalize (none : Option Char) = previous
  induction text generalizing previous with
  | nil =>
      rw [anyPosition, ← isSome_afterOperatorWord?]
      rfl
  | cons c rest ih =>
      rw [operatorTail?, anyPosition, ← isSome_afterOperatorWord?, ← ih]
      cases afterOperatorWord? previous (c :: rest) <;> rfl

/-- An operator word is found if and only if the text holds one. -/
theorem isSome_operatorTail?_iff :
    (operatorTail? none text).isSome = true ↔ HoldsOperatorWord text := by
  have hends (after : List Char) :
      endsWord after = true ↔ ∀ c ∈ after.head?, isWordChar c = false := by
    rw [endsWord, Bool.not_eq_true', Option.any_eq_false]
    simp
  rw [isSome_operatorTail?, Text.hasKeyword_eq_true_iff]
  simp only [List.mem_singleton, exists_eq_left, hends]
  exact Iff.rfl

instance : Decidable (HoldsOperatorWord text) :=
  decidable_of_iff _ isSome_operatorTail?_iff

/-- The word stays a word if no word goes on behind the text. -/
theorem HoldsOperatorWord.append (hholds : HoldsOperatorWord text)
    (hcut : ∀ c ∈ cut.head?, isWordChar c = false) : HoldsOperatorWord (text ++ cut) := by
  obtain ⟨before, after, rfl, hstart, hend⟩ := hholds
  refine ⟨before, after ++ cut, List.append_assoc _ _ _, hstart, ?_⟩
  cases after with
  | nil => exact hcut
  | cons c after => exact hend

/-! ## Offsets behind the parameters -/

/-- What is cut off a text as the offset of an address holds no parenthesis, and no word
goes on with it. -/
theorem exists_withoutOffset?_append {reversed kept : List Char}
    (hkept : withoutOffset? reversed = some kept) :
    ∃ cut, reversed = cut ++ kept ∧ '(' ∉ cut ∧ ∀ c ∈ cut.getLast?, isWordChar c = false := by
  rw [withoutOffset?, List.span_eq_takeWhile_dropWhile] at hkept
  obtain ⟨blanks, hreversed, hblanks, -⟩ :=
    Text.dropWhile_eq_iff.1 (rfl : reversed.dropWhile isBlank = _)
  split at hkept
  case h_1 digit digits body hbody =>
    obtain ⟨hdigits, hmark⟩ := Prod.mk.inj hbody
    have hnumber := List.takeWhile_append_dropWhile (p := isHexDigit)
      (l := reversed.dropWhile isBlank)
    rw [hdigits, hmark] at hnumber
    obtain ⟨gap, hgap, hgapBlank, -⟩ := Text.dropWhile_eq_iff.1 (rfl : body.dropWhile isBlank = _)
    split at hkept
    case h_1 behind hplus =>
      obtain ⟨last, hlast, hlastBlank, -⟩ :=
        Text.dropWhile_eq_iff.1 (Option.some.inj hkept)
      have hhex : ∀ c ∈ digit :: digits, isHexDigit c = true := by
        rw [← hdigits]
        exact fun c hc => List.mem_takeWhile_imp hc
      refine ⟨blanks ++ (digit :: digits) ++ 'x' :: '0' :: gap ++ '+' :: last, ?_, ?_, ?_⟩
      · rw [hreversed, ← hnumber, hgap, hplus, hlast]
        simp
      · -- Blanks, digits, their mark and the plus sign are no parentheses.
        have hblank {cut : List Char} (hcut : ∀ c ∈ cut, isBlank c = true) : '(' ∉ cut :=
          fun hmem => absurd (hcut _ hmem) (by decide)
        have hparen : '(' ∉ digit :: digits := fun hmem => absurd (hhex _ hmem) (by decide)
        simp [hblank hblanks, hblank hgapBlank, hblank hlastBlank, List.mem_cons.not.1 hparen]
      · intro c hc
        rw [List.getLast?_append, List.getLast?_cons, Option.some_or] at hc
        rcases List.mem_cons.1 (List.mem_of_getLast? (List.getLast?_cons.trans hc)) with rfl | hmem
        · decide
        · exact Text.isWordChar_of_isBlank (hlastBlank c hmem)
    case h_2 => cases hkept
  case h_2 => cases hkept

/-- Only the offset at the end is cut off. -/
theorem exists_withoutOffset_append (symbol : List Char) :
    ∃ cut, symbol = withoutOffset symbol ++ cut ∧ '(' ∉ cut ∧
      ∀ c ∈ cut.head?, isWordChar c = false := by
  rw [withoutOffset]
  cases hkept : withoutOffset? symbol.reverse with
  | none => exact ⟨[], (List.append_nil symbol).symm, List.not_mem_nil, nofun⟩
  | some kept =>
      obtain ⟨cut, hreverse, hparen, hlast⟩ := exists_withoutOffset?_append hkept
      refine ⟨cut.reverse, ?_, by rwa [List.mem_reverse], by rwa [List.head?_reverse]⟩
      rw [← List.reverse_append, ← hreverse, List.reverse_reverse]

/-- An offset stands behind the parenthesis that the parameters begin with. -/
theorem exists_withoutOffset_eq (front rest : List Char) :
    ∃ rest' cut, withoutOffset (front ++ '(' :: rest) = front ++ '(' :: rest' ∧
      rest = rest' ++ cut ∧ ∀ c ∈ cut.head?, isWordChar c = false := by
  obtain ⟨cut, hsymbol, hparen, hhead⟩ := exists_withoutOffset_append (front ++ '(' :: rest)
  rcases List.append_eq_append_iff.1 hsymbol with ⟨more, hkept, hrest⟩ | ⟨more, -, hcut⟩
  · cases more with
    | nil => exact absurd (hrest ▸ List.mem_cons_self : '(' ∈ [] ++ cut) hparen
    | cons c rest' =>
        obtain ⟨rfl, rfl⟩ := List.cons.inj hrest
        exact ⟨rest', cut, hkept, rfl, hhead⟩
  · exact absurd (hcut ▸ List.mem_append_right more List.mem_cons_self) hparen

/-- A symbol without an operator word names no operator. -/
theorem operatorName?_eq_none {rest' : List Char}
    (hoperator : ¬HoldsOperatorWord (front ++ '(' :: (rest' ++ cut)))
    (hcut : ∀ c ∈ cut.head?, isWordChar c = false) :
    operatorName? (front ++ '(' :: rest') = none := by
  rw [operatorName?, Option.map_eq_none_iff, ← Option.not_isSome_iff_eq_none,
    isSome_operatorTail?_iff]
  intro hholds
  refine hoperator ?_
  rw [← List.cons_append, ← List.append_assoc]
  exact hholds.append hcut

/-! ## Lists of template arguments -/

/-- No closing bracket stands before the opening one that it belongs to, and every bracket
is closed. -/
structure IsBalanced (arguments : List Char) : Prop where
  front_le : ∀ front, front <+: arguments → front.count '>' ≤ front.count '<'
  count_eq : arguments.count '>' = arguments.count '<'

instance (arguments : List Char) : Decidable (IsBalanced arguments) :=
  decidable_of_iff
    ((∀ front ∈ arguments.inits, front.count '>' ≤ front.count '<') ∧
      arguments.count '>' = arguments.count '<')
    (by simp only [List.mem_inits]; exact ⟨fun h => ⟨h.1, h.2⟩, fun h => ⟨h.1, h.2⟩⟩)

/-- Text that leaves the innermost list open is dropped. -/
theorem stripFrom_append (depth : Nat)
    (hfront : ∀ front, front <+: text → front.count '>' ≤ front.count '<' + depth)
    (rest : List Char) :
    stripFrom (depth + 1) (text ++ rest) =
      stripFrom (text.count '<' + depth - text.count '>' + 1) rest := by
  induction text generalizing depth with
  | nil => simp
  | cons c text ih =>
      have hnext (front : List Char) (hbegins : front <+: text) :
          (c :: front).count '>' ≤ (c :: front).count '<' + depth :=
        hfront _ (List.cons_prefix_cons.2 ⟨rfl, hbegins⟩)
      rw [List.cons_append, stripFrom]
      split
      case isTrue hopens =>
        subst hopens
        simp only [List.count_cons_self, List.count_cons_of_ne (show '<' ≠ '>' by decide)]
          at hnext ⊢
        have hinside (front : List Char) (hbegins : front <+: text) :
            front.count '>' ≤ front.count '<' + (depth + 1) := by
          have := hnext front hbegins
          omega
        rw [ih (depth + 1) hinside]
        congr 2
        omega
      case isFalse hopens =>
        split
        case isTrue hcloses =>
          subst hcloses
          simp only [List.count_cons_self, List.count_cons_of_ne (show '>' ≠ '<' by decide)]
            at hnext ⊢
          have hpos : 1 ≤ depth := by simpa using hnext [] List.nil_prefix
          obtain ⟨outer, rfl⟩ : ∃ outer, depth = outer + 1 := Nat.exists_eq_add_of_le' hpos
          have houtside (front : List Char) (hbegins : front <+: text) :
              front.count '>' ≤ front.count '<' + outer := by
            have := hnext front hbegins
            omega
          rw [Nat.add_sub_cancel, ih outer houtside]
          congr 2
          omega
        case isFalse hcloses =>
          simp only [List.count_cons_of_ne hopens, List.count_cons_of_ne hcloses] at hnext ⊢
          rw [if_neg (Nat.succ_ne_zero depth), ih depth hnext]

/-! ## Symbols -/

/-- An identifier holds no blank and none of the signs that stand between identifiers. -/
structure IsIdentifier (name : List Char) : Prop where
  ne_nil : name ≠ []
  not_blank : ∀ c ∈ name, isBlank c = false
  not_sign : ∀ sign ∈ ['<', '>', '(', ':', '.', '\x60'], sign ∉ name

theorem IsIdentifier.of_word (hname : name ≠ []) (hword : name.all isWordChar = true) :
    IsIdentifier name where
  ne_nil := hname
  not_blank c hc := Text.isBlank_of_isWordChar (List.all_eq_true.1 hword c hc)
  not_sign sign hsign hmem := by
    have hsigns : ['<', '>', '(', ':', '.', '\x60'].any isWordChar = false := by decide
    exact List.any_eq_false.1 hsigns sign hsign (List.all_eq_true.1 hword sign hmem)

/-- A part of a scoped name: an identifier and its list of template arguments, if it has one. -/
structure Component where
  name : List Char
  arguments? : Option (List Char)
  isIdentifier : IsIdentifier name
  isBalanced : ∀ arguments ∈ arguments?, IsBalanced arguments

namespace Component

/-- A component as it is written. -/
def spelled (component : Component) : List Char :=
  component.name ++ match component.arguments? with
    | some arguments => '<' :: arguments ++ ['>']
    | none => []

/-- Whether the template arguments hold an opening parenthesis. -/
def holdsParenthesis (component : Component) : Bool :=
  component.arguments?.any (·.contains '(')

end Component

/-- The scopes and the last component, with a pair of colons behind each scope. -/
def qualified (scopes : List Component) (last : Component) : List Char :=
  scopes.flatMap (fun scope => scope.spelled ++ [':', ':']) ++ last.spelled

/-- The same without template arguments. -/
def bare (scopes : List Component) (last : Component) : List Char :=
  scopes.flatMap (fun scope => scope.name ++ [':', ':']) ++ last.name

/-- The component that the short name is taken from: the first scope whose template
arguments hold a parenthesis, or else the last component. -/
def namedComponent (scopes : List Component) (last : Component) : Component :=
  (scopes.find? Component.holdsParenthesis).getD last

/-! ## The text that is left of a symbol -/

/-- The text before the first parenthesis without template arguments. -/
def stem (text : List Char) : List Char :=
  stripTemplates (Text.before '(' text)

theorem before_append (hparen : '(' ∉ front) (rest : List Char) :
    Text.before '(' (front ++ rest) = front ++ Text.before '(' rest := by
  have hpassed : ∀ c ∈ front, (c != '(') = true := by
    intro c hc
    simpa using ne_of_mem_of_not_mem hc hparen
  exact List.takeWhile_append_of_pos hpassed

theorem stripFrom_zero_append (hopens : '<' ∉ name) (hcloses : '>' ∉ name) (rest : List Char) :
    stripFrom 0 (name ++ rest) = name ++ stripFrom 0 rest := by
  induction name with
  | nil => rfl
  | cons c name ih =>
      obtain ⟨hopen, hopens⟩ := List.ne_and_not_mem_of_not_mem_cons hopens
      obtain ⟨hclose, hcloses⟩ := List.ne_and_not_mem_of_not_mem_cons hcloses
      rw [List.cons_append, stripFrom, if_neg (Ne.symm hopen), if_neg (Ne.symm hclose),
        if_pos rfl, ih hopens hcloses]
      rfl

/-- A name without brackets belongs to the stem. -/
theorem stem_append (hopens : '<' ∉ name) (hcloses : '>' ∉ name) (hparen : '(' ∉ name)
    (rest : List Char) : stem (name ++ rest) = name ++ stem rest := by
  rw [stem, before_append hparen]
  exact stripFrom_zero_append hopens hcloses _

/-- Template arguments without a parenthesis are dropped. -/
theorem stem_arguments {arguments : List Char} (hbalanced : IsBalanced arguments)
    (hparen : '(' ∉ arguments) (rest : List Char) :
    stem ('<' :: arguments ++ '>' :: rest) = stem rest := by
  have hfront : '(' ∉ '<' :: arguments ++ ['>'] := by simpa using hparen
  have hinside := stripFrom_append 0 hbalanced.front_le ('>' :: Text.before '(' rest)
  rw [hbalanced.count_eq, Nat.add_sub_cancel_left] at hinside
  rw [stem, List.append_cons, before_append hfront, ← List.append_cons, List.cons_append,
    stripTemplates, stripFrom, if_pos rfl, hinside]
  rfl

/-- Template arguments with a parenthesis end the text where they begin. -/
theorem stem_cut {arguments : List Char} (hbalanced : IsBalanced arguments)
    (hparen : '(' ∈ arguments) (rest : List Char) :
    stem ('<' :: arguments ++ rest) = [] := by
  obtain ⟨inside, behind, rfl, hfirst⟩ := List.eq_append_cons_of_mem hparen
  have hfront : '(' ∉ '<' :: inside := by simpa using hfirst
  have hbegins : inside <+: inside ++ '(' :: behind := List.prefix_append _ _
  have hinside := stripFrom_append 0
    (fun _ hfront => hbalanced.front_le _ (hfront.trans hbegins)) []
  rw [stem, ← List.cons_append, List.append_assoc, before_append hfront, List.cons_append,
    stripTemplates, List.cons_append, stripFrom, if_pos rfl]
  exact hinside

/-- A component leaves its name, and a parenthesis among its arguments ends the stem. -/
theorem stem_spelled (component : Component) (rest : List Char) :
    stem (component.spelled ++ rest) =
      component.name ++ if component.holdsParenthesis then [] else stem rest := by
  have hname := component.isIdentifier.not_sign
  rw [Component.spelled, List.append_assoc,
    stem_append (hname '<' (by simp)) (hname '>' (by simp)) (hname '(' (by simp))]
  cases harguments : component.arguments? with
  | none => simp [Component.holdsParenthesis, harguments]
  | some arguments =>
      have hbalanced := component.isBalanced arguments harguments
      by_cases hparen : '(' ∈ arguments
      · have hholds : component.holdsParenthesis = true := by
          simpa [Component.holdsParenthesis, harguments] using hparen
        dsimp only
        rw [List.append_assoc, stem_cut hbalanced hparen, if_pos hholds]
      · have hholds : ¬component.holdsParenthesis = true := by
          simpa [Component.holdsParenthesis, harguments] using hparen
        dsimp only
        rw [List.append_assoc, List.singleton_append, stem_arguments hbalanced hparen,
          if_neg hholds]

/-- A scope leaves its name, up to the one that the short name is taken from. -/
theorem stem_qualified (scopes : List Component) (last : Component) (rest : List Char) :
    stem (qualified scopes last ++ '(' :: rest) =
      bare (scopes.takeWhile fun scope => !scope.holdsParenthesis)
        (namedComponent scopes last) := by
  induction scopes with
  | nil =>
      rw [qualified, List.flatMap_nil, List.nil_append, stem_spelled]
      have hnone : stem ('(' :: rest) = [] := rfl
      rw [hnone, ite_self, List.append_nil]
      rfl
  | cons scope scopes ih =>
      have hqualified : qualified (scope :: scopes) last ++ '(' :: rest =
          scope.spelled ++ ([':', ':'] ++ (qualified scopes last ++ '(' :: rest)) := by
        simp [qualified]
      rw [hqualified, stem_spelled]
      cases hholds : scope.holdsParenthesis with
      | true =>
          rw [if_pos rfl, List.append_nil, List.takeWhile_cons_of_neg (by simp [hholds]),
            namedComponent, List.find?_cons_of_pos hholds]
          rfl
      | false =>
          have hnamed : namedComponent (scope :: scopes) last = namedComponent scopes last := by
            rw [namedComponent, List.find?_cons_of_neg (by simp [hholds]), namedComponent]
          rw [if_neg Bool.false_ne_true, stem_append (by decide) (by decide) (by decide), ih,
            List.takeWhile_cons_of_pos (by simp [hholds]), hnamed, bare, bare,
            List.flatMap_cons, List.append_assoc, List.append_assoc]

theorem eq_colon_or_mem_of_mem_bare {scopes : List Component} {last : Component} {c : Char}
    (hc : c ∈ bare scopes last) : c = ':' ∨ ∃ component : Component, c ∈ component.name := by
  rcases List.mem_append.1 hc with hc | hc
  · obtain ⟨scope, -, hc⟩ := List.mem_flatMap.1 hc
    rcases List.mem_append.1 hc with hc | hc
    · exact .inr ⟨scope, hc⟩
    · exact .inl (by simpa using hc)
  · exact .inr ⟨last, hc⟩

theorem backquote_not_mem_bare (scopes : List Component) (last : Component) :
    '\x60' ∉ bare scopes last := by
  intro hmem
  obtain hcolon | ⟨component, hmem⟩ := eq_colon_or_mem_of_mem_bare hmem
  · exact absurd hcolon (by decide)
  · exact component.isIdentifier.not_sign '\x60' (by simp) hmem

theorem not_blank_of_mem_bare {scopes : List Component} {last : Component} {c : Char}
    (hc : c ∈ bare scopes last) : isBlank c = false := by
  obtain rfl | ⟨component, hc⟩ := eq_colon_or_mem_of_mem_bare hc
  · decide
  · exact component.isIdentifier.not_blank c hc

/-! ## The last scope -/

theorem withoutArityFrom_of_not_mem (hmark : '\x60' ∉ text) :
    withoutArityFrom false text = text := by
  induction text with
  | nil => rfl
  | cons c text ih =>
      obtain ⟨hc, htext⟩ := List.ne_and_not_mem_of_not_mem_cons hmark
      rw [withoutArityFrom, Bool.false_and, if_neg Bool.false_ne_true,
        if_neg (by simp [Ne.symm hc]), ih htext]

theorem lastIndexOf?_append {pattern : List Char} {place : Nat}
    (hplace : lastIndexOf? pattern rest = some place) (front : List Char) :
    lastIndexOf? pattern (front ++ rest) = some (front.length + place) := by
  induction front with
  | nil => rw [List.nil_append, List.length_nil, Nat.zero_add, hplace]
  | cons c front ih =>
      rw [List.cons_append, lastIndexOf?, ih, List.length_cons, Nat.add_right_comm]

theorem lastIndexOf?_colons_of_not_mem (hname : ':' ∉ name) :
    lastIndexOf? [':', ':'] name = none := by
  induction name with
  | nil => rfl
  | cons c name ih =>
      obtain ⟨hc, hname⟩ := List.ne_and_not_mem_of_not_mem_cons hname
      rw [lastIndexOf?, ih hname]
      simp [hc]

theorem lastIndexOf?_colons_append (hname : ':' ∉ name) :
    lastIndexOf? [':', ':'] ([':', ':'] ++ name) = some 0 := by
  have hhead : [':', ':'].isPrefixOf (':' :: name) = false := by
    cases name with
    | nil => rfl
    | cons c name =>
        obtain ⟨hc, -⟩ := List.ne_and_not_mem_of_not_mem_cons hname
        simp [List.isPrefixOf, hc]
  rw [List.cons_append, List.cons_append, List.nil_append, lastIndexOf?, lastIndexOf?,
    lastIndexOf?_colons_of_not_mem hname, hhead]
  rfl

/-- An identifier is its own last scope, and the last one behind a pair of colons. -/
theorem IsIdentifier.lastScoped (hname : IsIdentifier name) : lastScoped name = name := by
  have hdot : name.contains '.' = false := by
    simpa using hname.not_sign '.' (by simp)
  rw [FunctionName.lastScoped, lastIndexOf?_colons_of_not_mem (hname.not_sign ':' (by simp))]
  simp only [hdot]
  rfl

/-- What stands behind the last pair of colons is the last component. -/
theorem IsIdentifier.lastScoped_append (hname : IsIdentifier name) (front : List Char) :
    FunctionName.lastScoped (front ++ ([':', ':'] ++ name)) = name := by
  have hplace := lastIndexOf?_append
    (lastIndexOf?_colons_append (hname.not_sign ':' (by simp))) front
  have hpos := List.length_pos_iff.2 hname.ne_nil
  have hmore : front.length + 0 + 2 < (front ++ ([':', ':'] ++ name)).length := by
    rw [List.length_append, List.length_append, List.length_cons, List.length_singleton]
    omega
  have hdrop : (front ++ ([':', ':'] ++ name)).drop (front.length + 0 + 2) = name := by
    rw [Nat.add_zero, ← List.append_assoc]
    exact List.drop_left' (by rw [List.length_append]; rfl)
  rw [FunctionName.lastScoped, hplace]
  dsimp only
  rw [if_pos hmore, hdrop, Text.trim_eq_self hname.not_blank]

/-- The last component of a bare name is the name of the last one. -/
theorem lastScoped_bare (scopes : List Component) (last : Component) :
    lastScoped (bare scopes last) = last.name := by
  rw [bare]
  rcases List.eq_nil_or_concat scopes with rfl | ⟨scopes, scope, rfl⟩
  · exact last.isIdentifier.lastScoped
  · rw [List.concat_eq_append, List.flatMap_append, List.flatMap_singleton, ← List.append_assoc,
      List.append_assoc _ [':', ':'] last.name]
    exact last.isIdentifier.lastScoped_append _

/-! ## Short names -/

/-- The short name in a symbol, wherever its parameters go on to. -/
theorem ofChars_qualified {scopes : List Component} {last : Component}
    (hoperator : ¬HoldsOperatorWord (qualified scopes last ++ '(' :: rest)) :
    ofChars (qualified scopes last ++ '(' :: rest) = (namedComponent scopes last).name := by
  obtain ⟨rest', cut, hoffset, rfl, hcut⟩ := exists_withoutOffset_eq (qualified scopes last) rest
  have hstem := stem_qualified scopes last rest'
  rw [stem] at hstem
  rw [ofChars, hoffset, operatorName?_eq_none hoperator hcut]
  dsimp only
  rw [hstem, withoutArity, withoutArityFrom_of_not_mem (backquote_not_mem_bare _ _),
    Text.trim_eq_self fun _ => not_blank_of_mem_bare, lastScoped_bare]

/-- A symbol with a parenthesis is not blank. -/
theorem ofSymbol_of_parenthesis (front rest : List Char) :
    ofSymbol (String.ofList (front ++ '(' :: rest)) =
      String.ofList (ofChars (front ++ '(' :: rest)) := by
  have hblank : Text.allBlank (front ++ '(' :: rest) = false := by
    rw [Text.allBlank, List.all_append, List.all_cons]
    simp [show isBlank '(' = false by decide]
  rw [ofSymbol, String.toList_ofList, hblank, if_neg Bool.false_ne_true]

/-- The short name in a symbol is the identifier of its last component, unless the template
arguments of a scope hold a parenthesis; then it is that of the first such scope. -/
theorem ofSymbol_qualified (scopes : List Component) (last : Component) (rest : List Char)
    (hoperator : ¬HoldsOperatorWord (qualified scopes last ++ '(' :: rest)) :
    ofSymbol (String.ofList (qualified scopes last ++ '(' :: rest)) =
      String.ofList (namedComponent scopes last).name := by
  rw [ofSymbol_of_parenthesis, ofChars_qualified hoperator]

/-- The component `list<pair<int, a::b>>`. -/
def listOfPairs : Component where
  name := "list".toList
  arguments? := some "pair<int, a::b>".toList
  isIdentifier := .of_word (by decide) (by decide)
  isBalanced := by decide

/-- The component `map<void (int)>`. -/
def mapOfFunctions : Component where
  name := "map".toList
  arguments? := some "void (int)".toList
  isIdentifier := .of_word (by decide) (by decide)
  isBalanced := by decide

theorem ofSymbol_list_map :
    ofSymbol (String.ofList (qualified [listOfPairs] mapOfFunctions ++
      '(' :: "int) + 0x1a".toList)) = String.ofList "map".toList :=
  ofSymbol_qualified [listOfPairs] mapOfFunctions _ (by decide)

/-- With a function type among the arguments of a scope, the short name is that of the scope
and not that of the last component. -/
theorem ofSymbol_map_list :
    ¬∀ (scopes : List Component) (last : Component) (rest : List Char),
      ¬HoldsOperatorWord (qualified scopes last ++ '(' :: rest) →
      ofSymbol (String.ofList (qualified scopes last ++ '(' :: rest)) =
        String.ofList last.name := by
  intro hlast_named
  have hname := hlast_named [mapOfFunctions] listOfPairs [')'] (by decide)
  rw [ofSymbol_of_parenthesis, ofChars_qualified (by decide), String.ofList_inj] at hname
  exact absurd hname (by decide)

end FrameLens.FunctionName
