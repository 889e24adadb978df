import FrameLens.Proofs.Text.Decimals
import FrameLens.Stack.Listing

/-!
# The two kinds of lines of a call stack listing

A frame line and the line of a place are given here by the pieces that they are put
together from.  The readers of such lines find the pieces where there are any, and no
line is of both kinds: the first word of one ends at an exclamation mark, that of the
other at a blank.
-/

namespace FrameLens.Listing

open FrameLens.Text

/-! ## The pieces of a line -/

/-- What may stand after the symbol of a frame line: blanks, and before them perhaps the
word `Line` and a number, with blanks before either. -/
inductive Tail : List Char → Option (List Char) → Prop
  | bare {blanks : List Char} (hblanks : allBlank blanks = true) : Tail blanks none
  | numbered {gap space digits blanks : List Char}
      (hgap : gap ≠ []) (hgap_blank : allBlank gap = true)
      (hspace : space ≠ []) (hspace_blank : allBlank space = true)
      (hdigits : digits ≠ []) (hdigits_decimal : ∀ c ∈ digits, isDecimal c = true)
      (hblanks : allBlank blanks = true) :
      Tail (gap ++ lineWord ++ space ++ digits ++ blanks) (some digits)

/-- A text as a symbol with a tail after it. -/
structure Divides (text symbol : List Char) (number : Option (List Char)) : Prop where
  symbol_ne_nil : symbol ≠ []
  exists_tail : ∃ tail, text = symbol ++ tail ∧ Tail tail number

/-- Of the symbols that a text can begin with, a frame line takes the shortest. -/
structure DividesFirst (text symbol : List Char) (number : Option (List Char)) : Prop
    extends Divides text symbol number where
  length_le : ∀ other number', Divides text other number' → symbol.length ≤ other.length

/-- What stands before the module of a frame line. -/
inductive Opening : List Char → Bool → Prop
  | plain : Opening [] false
  | inlined {blanks : List Char} (hblanks : allBlank blanks = true) :
      Opening (inlineMark ++ blanks) true

structure IsModuleName (name : List Char) : Prop where
  ne_nil : name ≠ []
  solid : ∀ c ∈ name, c ≠ '!' ∧ isBlank c = false

/-- A frame line, and what it says. -/
inductive ShowsFrame : List Char → FrameLine → Prop
  | intro {indent opening moduleName text symbol : List Char} {isInline : Bool}
      {number : Option (List Char)}
      (hindent : allBlank indent = true) (hopening : Opening opening isInline)
      (hname : IsModuleName moduleName) (htext : DividesFirst text symbol number) :
      ShowsFrame (indent ++ opening ++ moduleName ++ '!' :: text)
        ⟨isInline, moduleName, trim symbol, number⟩

/-- The line of a place, and the path and digits that it names. -/
inductive ShowsPlace : List Char → List Char → List Char → Prop
  | intro {indent gap path digits blanks : List Char}
      (hindent : allBlank indent = true)
      (hgap : gap ≠ []) (hgap_blank : allBlank gap = true)
      (hpath : path ≠ [])
      (hdigits : digits ≠ []) (hdigits_decimal : ∀ c ∈ digits, isDecimal c = true)
      (hblanks : allBlank blanks = true) :
      ShowsPlace (indent ++ 'a' :: 't' :: gap ++ path ++ '(' :: digits ++ ')' :: blanks)
        (trim path) digits

def IsFrameLine (line : List Char) : Prop :=
  ∃ frame, ShowsFrame line frame

def IsPlaceLine (line : List Char) : Prop :=
  ∃ path digits, ShowsPlace line path digits

/-! ## Digits at the end -/

variable {text head digits : List Char}

/-- The digits at the end of a text are split off. -/
theorem splitDigits_append (hdigits : ∀ c ∈ digits, isDecimal c = true)
    (hhead : ∀ c ∈ head.getLast?, isDecimal c = false) :
    splitDigits (head ++ digits) = (head, digits) := by
  have hrun : (head ++ digits).reverse.takeWhile isDecimal = digits.reverse := by
    refine takeWhile_eq_iff.2 ⟨head.reverse, List.reverse_append, ?_, ?_⟩
    · exact fun c hc => hdigits c (List.mem_reverse.1 hc)
    · rwa [List.head?_reverse]
  rw [splitDigits, hrun, List.reverse_reverse, List.length_append, Nat.add_sub_cancel,
    List.take_left]

/-- All the digits at the end are split off. -/
theorem exists_splitDigits (text : List Char) :
    ∃ head digits, splitDigits text = (head, digits) ∧ text = head ++ digits ∧
      (∀ c ∈ digits, isDecimal c = true) ∧ ∀ c ∈ head.getLast?, isDecimal c = false := by
  obtain ⟨rest, htext, hrun, hrest⟩ :=
    takeWhile_eq_iff.1 (rfl : text.reverse.takeWhile isDecimal = _)
  have hsplit : text = rest.reverse ++ (text.reverse.takeWhile isDecimal).reverse := by
    rw [← List.reverse_append, ← htext, List.reverse_reverse]
  have hdigits : ∀ c ∈ (text.reverse.takeWhile isDecimal).reverse, isDecimal c = true :=
    fun c hc => hrun c (List.mem_reverse.1 hc)
  have hlast : ∀ c ∈ rest.reverse.getLast?, isDecimal c = false := by
    rwa [List.getLast?_reverse]
  refine ⟨rest.reverse, (text.reverse.takeWhile isDecimal).reverse, ?_, hsplit, hdigits, hlast⟩
  conv_lhs => rw [hsplit]
  exact splitDigits_append hdigits hlast

theorem getLast?_append_of_ne_nil {front : List Char} (hne : digits ≠ []) :
    (front ++ digits).getLast? = digits.getLast? := by
  rw [List.getLast?_append, Option.or_of_isSome]
  rwa [List.getLast?_isSome]

/-! ## The reported line -/

theorem splitReported?_append {rest space blanks : List Char}
    (hrest : ∃ front c, rest = front ++ [c] ∧ isBlank c = true)
    (hspace : space ≠ []) (hspace_blank : allBlank space = true)
    (hdigits : digits ≠ []) (hdecimal : ∀ c ∈ digits, isDecimal c = true)
    (hblanks : allBlank blanks = true) :
    splitReported? (rest ++ lineWord ++ space ++ digits ++ blanks) = some (rest, digits) := by
  have htrim : trimRight (rest ++ lineWord ++ space ++ digits ++ blanks) =
      rest ++ lineWord ++ space ++ digits := by
    rw [trimRight_append_of_blank hblanks, trimRight_eq_self]
    intro c hc
    rw [getLast?_append_of_ne_nil hdigits] at hc
    exact isBlank_of_isDecimal (hdecimal c (List.mem_of_getLast? hc))
  have hsplit : splitDigits (rest ++ lineWord ++ space ++ digits) =
      (rest ++ lineWord ++ space, digits) := by
    refine splitDigits_append hdecimal fun c hc => ?_
    rw [getLast?_append_of_ne_nil hspace] at hc
    have hblank := allBlank_iff.1 hspace_blank c (List.mem_of_getLast? hc)
    by_contra hdecimal
    rw [isBlank_of_isDecimal (by simpa using hdecimal)] at hblank
    cases hblank
  have hword : trimRight (rest ++ lineWord ++ space) = rest ++ lineWord := by
    rw [trimRight_append_of_blank hspace_blank, trimRight_eq_self]
    intro c hc
    rw [getLast?_append_of_ne_nil (by decide)] at hc
    cases hc
    rfl
  have hshorter : (trimRight rest).length < rest.length := length_rdropWhile_lt_iff.2 hrest
  have htake : (rest ++ lineWord).take ((rest ++ lineWord).length - lineWord.length) = rest := by
    rw [List.length_append, Nat.add_sub_cancel, List.take_left]
  have hsuffix : lineWord.isSuffixOf (rest ++ lineWord) = true :=
    List.isSuffixOf_iff_suffix.2 (List.suffix_append rest lineWord)
  rw [splitReported?, htrim, hsplit]
  dsimp only
  rw [hword, htake, if_pos hshorter, if_neg]
  simp [hdigits, hspace, hsuffix]

/-- A number that is split off stands behind the word and blanks. -/
theorem splitReported?_sound {rest : List Char}
    (hsplit : splitReported? text = some (rest, digits)) :
    ∃ space blanks, text = rest ++ lineWord ++ space ++ digits ++ blanks ∧
      (∃ front c, rest = front ++ [c] ∧ isBlank c = true) ∧
      (space ≠ [] ∧ allBlank space = true) ∧
      (digits ≠ [] ∧ ∀ c ∈ digits, isDecimal c = true) ∧ allBlank blanks = true := by
  obtain ⟨blanks, htext, hblanks, -⟩ := trimRight_eq_iff.1 (rfl : trimRight text = _)
  obtain ⟨head, run, hrun, htrim, hdecimal, -⟩ := exists_splitDigits (trimRight text)
  obtain ⟨space, hhead, hspace, -⟩ := trimRight_eq_iff.1 (rfl : trimRight head = _)
  rw [splitReported?, hrun] at hsplit
  dsimp only at hsplit
  split at hsplit
  · cases hsplit
  rename_i hfits
  simp only [Bool.or_eq_true, not_or, List.isEmpty_iff, beq_iff_eq, Bool.not_eq_true',
    Bool.not_eq_false] at hfits
  obtain ⟨⟨hrun_ne, hlength⟩, hsuffix⟩ := hfits
  obtain ⟨front, hfront⟩ := List.isSuffixOf_iff_suffix.1 hsuffix
  have htake : (trimRight head).take ((trimRight head).length - lineWord.length) = front := by
    rw [← hfront]
    simp
  rw [htake] at hsplit
  split at hsplit
  · rename_i hshorter
    cases hsplit
    refine ⟨space, blanks, ?_, length_rdropWhile_lt_iff.1 hshorter, ⟨?_, hspace⟩,
      ⟨hrun_ne, hdecimal⟩, hblanks⟩
    · rw [hfront, ← hhead, ← htrim, ← htext]
    · rintro rfl
      rw [List.append_nil] at hhead
      exact hlength (congrArg List.length hhead.symm)
  · cases hsplit

/-! ## The symbol -/

/-- A text without the blanks at its end, but for one character that stays. -/
def shortened (text : List Char) : List Char :=
  text.take (max 1 (trimRight text).length)

/-- The shortened text is the shortest one that leaves only blanks. -/
theorem shortened_spec (hne : text ≠ []) :
    shortened text ≠ [] ∧
      (∃ blanks, text = shortened text ++ blanks ∧ allBlank blanks = true) ∧
      ∀ other blanks, other ≠ [] → text = other ++ blanks → allBlank blanks = true →
        (shortened text).length ≤ other.length := by
  have hle (other blanks : List Char) (heq : text = other ++ blanks)
      (hblanks : allBlank blanks = true) : (trimRight text).length ≤ other.length := by
    rw [heq, trimRight_append_of_blank hblanks]
    exact length_trimRight_le other
  obtain ⟨cut, htext, hcut, -⟩ := trimRight_eq_iff.1 (rfl : trimRight text = _)
  cases hword : trimRight text with
  | nil =>
      obtain ⟨c, cut, rfl⟩ := List.exists_cons_of_ne_nil hne
      rw [hword, List.nil_append] at htext
      rw [← htext, allBlank, List.all_cons, Bool.and_eq_true] at hcut
      rw [shortened, hword]
      exact ⟨by simp, ⟨cut, by simp, hcut.2⟩,
        fun other _ hother _ _ => List.length_pos_iff.2 hother⟩
  | cons c word =>
      have hshort : shortened text = c :: word := by
        rw [shortened, hword, List.length_cons, max_eq_right (Nat.le_add_left 1 _),
          ← List.length_cons (a := c), htext, hword, List.take_left]
      rw [hshort]
      refine ⟨List.cons_ne_nil c word, ⟨cut, by rw [← hword, ← htext], hcut⟩, ?_⟩
      intro other blanks _ heq hblanks
      rw [← hword]
      exact hle other blanks heq hblanks

/-- The reported line of a divided text is found, with the symbol and the blanks before it. -/
theorem Divides.cases {symbol : List Char} {number : Option (List Char)}
    (hdivides : Divides text symbol number) :
    (number = none ∧ ∃ blanks, text = symbol ++ blanks ∧ allBlank blanks = true) ∨
      ∃ gap digits, gap ≠ [] ∧ allBlank gap = true ∧ number = some digits ∧
        splitReported? text = some (symbol ++ gap, digits) := by
  obtain ⟨-, tail, rfl, htail⟩ := hdivides
  cases htail with
  | bare hblanks => exact .inl ⟨rfl, tail, rfl, hblanks⟩
  | @numbered gap space digits blanks hgap hgap_blank hspace hspace_blank hdigits hdecimal
      hblanks =>
      refine .inr ⟨gap, digits, hgap, hgap_blank, rfl, ?_⟩
      obtain ⟨front, c, rfl⟩ : ∃ front c, gap = front ++ [c] :=
        ⟨_, _, (List.dropLast_append_getLast hgap).symm⟩
      have hc : isBlank c = true := allBlank_iff.1 hgap_blank c (by simp)
      rw [← splitReported?_append ⟨symbol ++ front, c, (List.append_assoc _ _ _).symm, hc⟩
        hspace hspace_blank hdigits hdecimal hblanks]
      simp only [List.append_assoc]

/-- A text without a number is divided at the blanks at its end. -/
theorem divides_shortened (hne : text ≠ []) : Divides text (shortened text) none := by
  obtain ⟨hshort_ne, ⟨blanks, htext, hblanks⟩, -⟩ := shortened_spec hne
  exact ⟨hshort_ne, blanks, htext, .bare hblanks⟩

theorem length_shortened_le {symbol : List Char} (hdivides : Divides text symbol none) :
    (shortened text).length ≤ symbol.length := by
  obtain ⟨-, blanks, heq, hblanks⟩ | ⟨_, _, -, -, hsome, -⟩ := hdivides.cases
  · have hne : text ≠ [] := by simp [heq, hdivides.symbol_ne_nil]
    exact (shortened_spec hne).2.2 symbol blanks hdivides.symbol_ne_nil heq hblanks
  · cases hsome

/-- Where a reported line is found, the text before the word `Line` ends the symbol. -/
theorem divides_reported {rest : List Char}
    (hreported : splitReported? text = some (rest, digits)) :
    ((shortened rest).length < rest.length → Divides text (shortened rest) (some digits)) ∧
      (∀ symbol, Divides text symbol none → rest.length ≤ symbol.length) ∧
      ∀ symbol digits', Divides text symbol (some digits') →
        (shortened rest).length ≤ symbol.length ∧ symbol.length < rest.length := by
  obtain ⟨space, after, htext, ⟨front, c, hrest, -⟩, ⟨hspace, hspace_blank⟩,
    ⟨hdigits, hdecimal⟩, hafter⟩ := splitReported?_sound hreported
  have hne : rest ≠ [] := by simp [hrest]
  obtain ⟨hsymbol_ne, ⟨gap, hgap, hgap_blank⟩, hsymbol_le⟩ := shortened_spec hne
  refine ⟨fun hlt => ⟨hsymbol_ne, gap ++ lineWord ++ space ++ digits ++ after, ?_, ?_⟩, ?_, ?_⟩
  · rw [htext]
    conv_lhs => rw [hgap]
    simp only [List.append_assoc]
  · refine .numbered ?_ hgap_blank hspace hspace_blank hdigits hdecimal hafter
    rintro rfl
    rw [List.append_nil] at hgap
    exact absurd (congrArg List.length hgap).symm (ne_of_lt hlt)
  · intro symbol hdivides
    obtain ⟨-, blanks, heq, hblanks⟩ | ⟨_, _, -, -, hsome, -⟩ := hdivides.cases
    · have hlast : trimRight symbol = rest ++ lineWord ++ space ++ digits := by
        rw [← trimRight_append_of_blank hblanks, ← heq, htext,
          trimRight_append_of_blank hafter, trimRight_eq_self]
        intro d hd
        rw [getLast?_append_of_ne_nil hdigits] at hd
        exact isBlank_of_isDecimal (hdecimal d (List.mem_of_getLast? hd))
      have hle := length_trimRight_le symbol
      rw [hlast] at hle
      simp only [List.length_append] at hle
      omega
    · cases hsome
  · intro symbol digits' hdivides
    obtain ⟨hsome, -⟩ | ⟨gap', _, hgap_ne, hblank, -, hsplit⟩ := hdivides.cases
    · cases hsome
    · rw [hreported] at hsplit
      have heq : rest = symbol ++ gap' := congrArg Prod.fst (Option.some.inj hsplit)
      have hlonger := congrArg List.length heq
      have hpos := List.length_pos_iff.2 hgap_ne
      rw [List.length_append] at hlonger
      exact ⟨hsymbol_le symbol gap' hdivides.symbol_ne_nil heq hblank, by omega⟩

/-- Every text but the empty one falls into a symbol and a tail, and the reader takes the
shortest symbol. -/
theorem splitSymbol?_spec (hne : text ≠ []) :
    ∃ symbol number, splitSymbol? text = some (symbol, number) ∧
      DividesFirst text symbol number := by
  rw [splitSymbol?, if_neg (by simpa using hne)]
  cases hreported : splitReported? text with
  | none =>
      refine ⟨shortened text, none, rfl, divides_shortened hne, fun other number hother => ?_⟩
      cases number with
      | none => exact length_shortened_le hother
      | some digits =>
          obtain ⟨hsome, -⟩ | ⟨_, _, -, -, -, hsplit⟩ := hother.cases
          · cases hsome
          · rw [hreported] at hsplit
            cases hsplit
  | some found =>
      obtain ⟨rest, digits⟩ := found
      obtain ⟨hdivides, hbare, hnumbered⟩ := divides_reported hreported
      by_cases hlt : (shortened rest).length < rest.length
      · refine ⟨shortened rest, some digits, if_pos hlt, hdivides hlt,
          fun other number hother => ?_⟩
        cases number with
        | none => exact hlt.le.trans (hbare other hother)
        | some digits' => exact (hnumbered other digits' hother).1
      · refine ⟨shortened text, none, if_neg hlt, divides_shortened hne,
          fun other number hother => ?_⟩
        cases number with
        | none => exact length_shortened_le hother
        | some digits' =>
            obtain ⟨hle, hshorter⟩ := hnumbered other digits' hother
            exact absurd (hle.trans_lt hshorter) hlt

/-- A text is divided with one number at most. -/
theorem Divides.number_unique {symbol : List Char} {number number' : Option (List Char)}
    (hdivides : Divides text symbol number) (hdivides' : Divides text symbol number') :
    number = number' := by
  have hmixed {digits : List Char} (hsome : Divides text symbol (some digits))
      (hnone : Divides text symbol none) : False := by
    obtain ⟨hno, -⟩ | ⟨gap, _, -, -, -, hreported⟩ := hsome.cases
    · cases hno
    · obtain ⟨-, hbare, hnumbered⟩ := divides_reported hreported
      exact absurd (hbare symbol hnone) (not_le.2 (hnumbered symbol digits hsome).2)
  cases number with
  | none =>
      cases number' with
      | none => rfl
      | some digits => exact (hmixed hdivides' hdivides).elim
  | some digits =>
      cases number' with
      | none => exact (hmixed hdivides hdivides').elim
      | some digits' =>
          obtain ⟨hno, -⟩ | ⟨_, _, -, -, heq, hreported⟩ := hdivides.cases
          · cases hno
          obtain ⟨hno, -⟩ | ⟨_, _, -, -, heq', hreported'⟩ := hdivides'.cases
          · cases hno
          rw [hreported] at hreported'
          obtain ⟨-, rfl⟩ := Prod.mk.inj (Option.some.inj hreported')
          rw [heq, heq']

/-- A text is divided first in one way. -/
theorem DividesFirst.unique {symbol symbol' : List Char} {number number' : Option (List Char)}
    (hfirst : DividesFirst text symbol number) (hfirst' : DividesFirst text symbol' number') :
    symbol = symbol' ∧ number = number' := by
  obtain ⟨tail, htext, -⟩ := hfirst.exists_tail
  obtain ⟨tail', htext', -⟩ := hfirst'.exists_tail
  have hlength : symbol.length = symbol'.length :=
    le_antisymm (hfirst.length_le _ _ hfirst'.toDivides) (hfirst'.length_le _ _ hfirst.toDivides)
  obtain ⟨rfl, -⟩ := List.append_inj (htext.symm.trans htext') hlength
  exact ⟨rfl, hfirst.number_unique hfirst'.toDivides⟩

/-- The split takes the shortest symbol. -/
theorem splitSymbol?_eq_some_iff {symbol : List Char} {number : Option (List Char)} :
    splitSymbol? text = some (symbol, number) ↔ DividesFirst text symbol number := by
  constructor
  · intro hsplit
    have hne : text ≠ [] := by
      rintro rfl
      cases hsplit
    obtain ⟨symbol', number', hfound, hfirst⟩ := splitSymbol?_spec hne
    rw [hsplit] at hfound
    cases hfound
    exact hfirst
  · intro hfirst
    have hne : text ≠ [] := by
      obtain ⟨tail, rfl, -⟩ := hfirst.exists_tail
      simp [hfirst.symbol_ne_nil]
    obtain ⟨symbol', number', hfound, hfirst'⟩ := splitSymbol?_spec hne
    obtain ⟨rfl, rfl⟩ := hfirst.unique hfirst'
    exact hfound

/-! ## Frame lines -/

theorem takeWhile_solid_append {name : List Char} (hname : IsModuleName name)
    (text : List Char) :
    (name ++ '!' :: text).takeWhile (fun c => c != '!' && !isBlank c) = name := by
  refine takeWhile_eq_iff.2 ⟨'!' :: text, rfl, fun c hc => ?_, fun c hc => ?_⟩
  · simpa using hname.solid c hc
  · cases hc
    rfl

/-- A frame line is a module name, an exclamation mark and a symbol that is divided. -/
theorem readModule?_eq_some_iff {isInline : Bool} {frame : FrameLine} :
    readModule? isInline text = some frame ↔
      ∃ name rest symbol number, text = name ++ '!' :: rest ∧ IsModuleName name ∧
        DividesFirst rest symbol number ∧ frame = ⟨isInline, name, trim symbol, number⟩ := by
  constructor
  · intro hread
    obtain ⟨rest, htext, hsolid, -⟩ :=
      takeWhile_eq_iff.1 (rfl : text.takeWhile (fun c => c != '!' && !isBlank c) = _)
    have hdrop : text.drop (text.takeWhile fun c => c != '!' && !isBlank c).length = rest := by
      generalize text.takeWhile (fun c => c != '!' && !isBlank c) = name at htext
      rw [htext, List.drop_left]
    rw [readModule?] at hread
    dsimp only at hread
    rw [hdrop] at hread
    split at hread
    · rename_i first others after hname
      obtain ⟨⟨symbol, number⟩, hsplit, rfl⟩ := Option.map_eq_some_iff.1 hread
      refine ⟨_, after, symbol, number, htext, ⟨by simp [hname], fun c hc => ?_⟩,
        splitSymbol?_eq_some_iff.1 hsplit, rfl⟩
      simpa using hsolid c hc
    · cases hread
  · rintro ⟨name, rest, symbol, number, rfl, hname, hfirst, rfl⟩
    obtain ⟨first, others, rfl⟩ := List.exists_cons_of_ne_nil hname.ne_nil
    rw [readModule?, takeWhile_solid_append hname, List.drop_left]
    exact congrArg (Option.map _) (splitSymbol?_eq_some_iff.2 hfirst)

/-- The inline mark holds a blank before any exclamation mark, so it begins no module. -/
theorem not_inlineMark_prefix {name : List Char} (hname : IsModuleName name)
    (text : List Char) : ¬inlineMark <+: name ++ '!' :: text := by
  rintro ⟨rest, hrest⟩
  have hword : name = "[Inline".toList := by
    rw [← takeWhile_solid_append hname text, ← hrest]
    rfl
  rw [hword] at hrest
  cases hrest

theorem head?_append_of_moduleName {name : List Char} (hname : IsModuleName name)
    (text : List Char) : ∀ c ∈ (name ++ text).head?, isBlank c = false := by
  obtain ⟨first, others, rfl⟩ := List.exists_cons_of_ne_nil hname.ne_nil
  rintro c hc
  cases hc
  exact (hname.solid first List.mem_cons_self).2

/-- A frame line is read as what it shows. -/
theorem readFrame?_eq_some_iff {line : List Char} {frame : FrameLine} :
    readFrame? line = some frame ↔ ShowsFrame line frame := by
  constructor
  · intro hread
    obtain ⟨indent, hline, hindent, -⟩ := trimLeft_eq_iff.1 (rfl : trimLeft line = _)
    rw [readFrame?] at hread
    split at hread
    · rename_i hmark
      obtain ⟨rest, hrest⟩ := List.isPrefixOf_iff_prefix.1 hmark
      rw [← hrest, List.drop_left] at hread
      obtain ⟨blanks, hblanks_eq, hblanks, -⟩ := trimLeft_eq_iff.1 (rfl : trimLeft rest = _)
      obtain ⟨name, text, symbol, number, htext, hname, hfirst, rfl⟩ :=
        readModule?_eq_some_iff.1 hread
      have heq : line = indent ++ (inlineMark ++ blanks) ++ name ++ '!' :: text := by
        rw [hline, ← hrest, hblanks_eq, htext]
        simp only [List.append_assoc]
      rw [heq]
      exact .intro hindent (.inlined hblanks) hname hfirst
    · obtain ⟨name, text, symbol, number, htext, hname, hfirst, rfl⟩ :=
        readModule?_eq_some_iff.1 hread
      have heq : line = indent ++ [] ++ name ++ '!' :: text := by
        rw [hline, htext]
        simp only [List.append_assoc, List.nil_append]
      rw [heq]
      exact .intro hindent .plain hname hfirst
  · rintro @⟨indent, opening, name, text, symbol, isInline, number, hindent, hopening, hname,
      hfirst⟩
    have hhead := head?_append_of_moduleName hname ('!' :: text)
    rw [readFrame?, List.append_assoc, List.append_assoc, trimLeft_append_of_blank hindent]
    cases hopening with
    | plain =>
        rw [List.nil_append, trimLeft_eq_self hhead, if_neg fun hmark =>
          not_inlineMark_prefix hname text (List.isPrefixOf_iff_prefix.1 hmark)]
        exact readModule?_eq_some_iff.2 ⟨name, text, symbol, number, rfl, hname, hfirst, rfl⟩
    | @inlined blanks hblanks =>
        have hmark : trimLeft (inlineMark ++ blanks ++ (name ++ '!' :: text)) =
            inlineMark ++ (blanks ++ (name ++ '!' :: text)) := by
          rw [List.append_assoc]
          refine trimLeft_eq_self fun c hc => ?_
          cases hc
          rfl
        rw [hmark, if_pos (List.isPrefixOf_iff_prefix.2 (List.prefix_append _ _)), List.drop_left,
          trimLeft_append_of_blank hblanks, trimLeft_eq_self hhead]
        exact readModule?_eq_some_iff.2 ⟨name, text, symbol, number, rfl, hname, hfirst, rfl⟩

/-! ## Lines of places -/

/-- What stands between the word `at` and the blanks at the end is a path and a number. -/
theorem readPlace?_of_trimmed {line gap path blanks : List Char}
    (hline : trimLeft line = 'a' :: 't' :: (gap ++ path ++ '(' :: digits ++ ')' :: blanks))
    (hgap : gap ≠ []) (hgap_blank : allBlank gap = true) (hpath : path ≠ [])
    (hdigits : digits ≠ []) (hdecimal : ∀ c ∈ digits, isDecimal c = true)
    (hblanks : allBlank blanks = true) :
    readPlace? line = some (trim path, digits) := by
  have htrim : trimRight (gap ++ path ++ '(' :: digits ++ ')' :: blanks) =
      (gap ++ path ++ ['(']) ++ digits ++ [')'] := by
    rw [show gap ++ path ++ '(' :: digits ++ ')' :: blanks =
      ((gap ++ path ++ ['(']) ++ digits ++ [')']) ++ blanks by simp,
      trimRight_append_of_blank hblanks, trimRight_eq_self]
    intro c hc
    rw [List.getLast?_append] at hc
    cases hc
    rfl
  have hsplit : splitDigits (gap ++ path ++ ['('] ++ digits) = (gap ++ path ++ ['('], digits) := by
    refine splitDigits_append hdecimal fun c hc => ?_
    rw [List.getLast?_append] at hc
    cases hc
    rfl
  have hshown : ((gap ++ path).takeWhile isBlank).isEmpty = false := by
    obtain ⟨c, gap, rfl⟩ := List.exists_cons_of_ne_nil hgap
    rw [List.cons_append, List.takeWhile_cons_of_pos (allBlank_iff.1 hgap_blank c (by simp))]
    rfl
  have hlength : ¬(gap ++ path).length < 2 := by
    have := List.length_pos_iff.2 hgap
    have := List.length_pos_iff.2 hpath
    rw [List.length_append]
    omega
  have hclose : (trimRight (gap ++ path ++ '(' :: digits ++ ')' :: blanks)).reverse =
      ')' :: (gap ++ path ++ ['('] ++ digits).reverse := by
    rw [htrim]
    exact List.reverse_append
  have hopen : (gap ++ path ++ ['(']).reverse = '(' :: (gap ++ path).reverse :=
    List.reverse_append
  obtain ⟨digit, others, rfl⟩ := List.exists_cons_of_ne_nil hdigits
  simp only [readPlace?, hline, hclose, List.reverse_reverse, hsplit, hopen, hshown, hlength,
    decide_false, Bool.or_self, Bool.false_eq_true, if_false, trim_append_of_blank hgap_blank]

/-- A path that fits has a blank in front, and something after it. -/
theorem exists_blank_of_fits {path : List Char}
    (hfits : ¬((path.takeWhile isBlank).isEmpty || decide (path.length < 2)) = true) :
    ∃ c rest, path = c :: rest ∧ isBlank c = true ∧ rest ≠ [] := by
  cases path with
  | nil => exact absurd rfl hfits
  | cons c rest =>
      refine ⟨c, rest, rfl, ?_, ?_⟩
      · by_contra hsolid
        rw [List.takeWhile_cons_of_neg hsolid] at hfits
        exact hfits rfl
      · rintro rfl
        exact hfits (Bool.or_true _)

/-- A line from which a place is read shows that place. -/
theorem readPlace?_sound {line path : List Char} (hread : readPlace? line = some (path, digits)) :
    ShowsPlace line path digits := by
  obtain ⟨indent, hline, hindent, -⟩ := trimLeft_eq_iff.1 (rfl : trimLeft line = _)
  rw [readPlace?] at hread
  split at hread
  rotate_left
  · cases hread
  rename_i text hat
  obtain ⟨blanks, htext, hblanks, -⟩ := trimRight_eq_iff.1 (rfl : trimRight text = _)
  split at hread
  rotate_left
  · cases hread
  rename_i reversed hclose
  obtain ⟨head, run, hrun, hbody, hdecimal, -⟩ := exists_splitDigits reversed.reverse
  rw [hrun] at hread
  dsimp only at hread
  split at hread
  rotate_left
  · cases hread
  rename_i digit others reversed' hopen
  split at hread
  · cases hread
  rename_i hfits
  obtain ⟨c, rest, hpath, hc, hrest⟩ := exists_blank_of_fits hfits
  have hgap : allBlank [c] = true := allBlank_iff.2 (by simpa using hc)
  have htrim : trim (c :: rest) = trim rest := trim_append_of_blank hgap rest
  rw [hpath, htrim] at hread
  cases hread
  have hhead : head = c :: rest ++ ['('] := by
    rw [← List.reverse_reverse head, hopen, List.reverse_cons, hpath]
  have heq : line = indent ++ 'a' :: 't' :: [c] ++ rest ++ '(' :: (digit :: others) ++
      ')' :: blanks := by
    rw [hline, hat, htext, ← List.reverse_reverse (trimRight text), hclose, List.reverse_cons,
      hbody, hhead]
    simp
  rw [heq]
  exact .intro hindent (List.cons_ne_nil _ _) hgap hrest (List.cons_ne_nil _ _) hdecimal hblanks

/-- The line of a place is read as what it shows. -/
theorem readPlace?_eq_some_iff {line path : List Char} :
    readPlace? line = some (path, digits) ↔ ShowsPlace line path digits := by
  refine ⟨readPlace?_sound, ?_⟩
  rintro @⟨indent, gap, path, digits, blanks, hindent, hgap, hgap_blank, hpath, hdigits, hdecimal,
    hblanks⟩
  refine readPlace?_of_trimmed ?_ hgap hgap_blank hpath hdigits hdecimal hblanks
  simp only [List.append_assoc, List.cons_append]
  rw [trimLeft_append_of_blank hindent]
  refine trimLeft_eq_self fun c hc => ?_
  cases hc
  rfl

/-! ## The two kinds apart -/

/-- Frame lines are those from which a frame is read. -/
theorem isFrameLine_iff {line : List Char} : IsFrameLine line ↔ (readFrame? line).isSome := by
  simp only [IsFrameLine, ← readFrame?_eq_some_iff, Option.isSome_iff_exists]

/-- Place lines are those from which a place is read. -/
theorem isPlaceLine_iff {line : List Char} : IsPlaceLine line ↔ (readPlace? line).isSome := by
  simp only [IsPlaceLine, ← readPlace?_eq_some_iff, Option.isSome_iff_exists, Prod.exists]

/-- The first word of a frame line goes on to an exclamation mark, or it is the inline
mark.  The word `at` does neither. -/
theorem not_isFrameLine_of_isPlaceLine {line : List Char} (hplace : IsPlaceLine line) :
    ¬IsFrameLine line := by
  rintro ⟨frame, hframe⟩
  obtain ⟨place, digits, hplace⟩ := hplace
  obtain @⟨indent, gap, path, digits, blanks, hindent, hgap, hgap_blank, -, -, -, -⟩ := hplace
  obtain ⟨c, gap, rfl⟩ := List.exists_cons_of_ne_nil hgap
  have hc : isBlank c = true := allBlank_iff.1 hgap_blank c List.mem_cons_self
  generalize hrest : gap ++ path ++ '(' :: digits ++ ')' :: blanks = rest
  have hat : trimLeft (indent ++ 'a' :: 't' :: (c :: gap) ++ path ++ '(' :: digits ++
      ')' :: blanks) = 'a' :: 't' :: c :: rest := by
    rw [← hrest]
    simp only [List.append_assoc, List.cons_append]
    rw [trimLeft_append_of_blank hindent]
    exact trimLeft_eq_self fun d hd => by
      cases hd
      rfl
  generalize indent ++ 'a' :: 't' :: (c :: gap) ++ path ++ '(' :: digits ++ ')' :: blanks =
    line at hframe hat
  obtain @⟨indent, opening, name, text, _, _, _, hindent, hopening, hname, -⟩ := hframe
  rw [List.append_assoc, List.append_assoc, trimLeft_append_of_blank hindent] at hat
  cases hopening with
  | inlined hblanks =>
      rw [List.append_assoc, trimLeft_eq_self (by
        intro d hd
        cases hd
        rfl)] at hat
      cases hat
  | plain =>
      rw [List.nil_append, trimLeft_eq_self (head?_append_of_moduleName hname _)] at hat
      have hword : name = ['a', 't'] := by
        rw [← takeWhile_solid_append hname text, hat, takeWhile_eq_iff]
        refine ⟨c :: rest, rfl, List.all_eq_true.1 (by decide), fun d hd => ?_⟩
        cases hd
        simp [hc]
      rw [hword] at hat
      cases hat
      cases hc

end FrameLens.Listing
