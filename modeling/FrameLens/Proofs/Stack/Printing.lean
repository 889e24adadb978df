import FrameLens.Proofs.Stack.Listings

/-!
# Printed call stacks

A frame is printed on a line of its own, and its place, if it has one, on the line after
it.  What is printed is read back frame by frame: a symbol may hold exclamation marks,
the word `Line` and numbers, and a path may hold parentheses, for the reader takes the
only number that stands at the end of either line.
-/

namespace FrameLens.Listing

open FrameLens.Text

/-- A frame to be printed. -/
structure Entry where
  isInline : Bool := false
  moduleName : String
  symbol : String
  reportedLine : Option Nat := none
  place : Option (String × Nat) := none
deriving DecidableEq, Repr

/-- A text that ends in the word `Line` and a number, with something before them. -/
def EndsNumbered (text : List Char) : Prop :=
  ∃ front gap space digits, text = front ++ gap ++ lineWord ++ space ++ digits ∧
    front ≠ [] ∧ (gap ≠ [] ∧ allBlank gap = true) ∧ (space ≠ [] ∧ allBlank space = true) ∧
    (digits ≠ [] ∧ ∀ c ∈ digits, isDecimal c = true)

/-- A text on one line without blanks around it. -/
structure IsTrimmedRow (text : List Char) : Prop where
  ne_nil : text ≠ []
  newline_not_mem : '\n' ∉ text
  trim_eq : trim text = text

namespace Entry

/-- What can be told from its print: a module is one word, symbol and path are trimmed rows,
a symbol without a reported line does not look as if it had one, and no number is too long. -/
structure IsPrintable (entry : Entry) : Prop where
  moduleName : IsModuleName entry.moduleName.toList
  symbol : IsTrimmedRow entry.symbol.toList
  not_endsNumbered : entry.reportedLine = none → ¬EndsNumbered entry.symbol.toList
  reportedLine_lt : ∀ n ∈ entry.reportedLine, n < 10 ^ maxIntegerDigits
  path : ∀ place ∈ entry.place, IsTrimmedRow place.1.toList
  line_lt : ∀ place ∈ entry.place, place.2 < 10 ^ maxIntegerDigits

/-- The frame line. -/
def frameLine (entry : Entry) : List Char :=
  (if entry.isInline then inlineMark ++ [' '] else []) ++ entry.moduleName.toList ++
    '!' :: entry.symbol.toList ++
    match entry.reportedLine with
    | some line => ' ' :: lineWord ++ ' ' :: natDigits line
    | none => []

/-- The line of a place. -/
def placeLine (place : String × Nat) : List Char :=
  [' ', ' ', ' ', ' ', 'a', 't', ' '] ++ place.1.toList ++ '(' :: natDigits place.2 ++ [')']

/-- The lines of an entry. -/
def rows (entry : Entry) : List (List Char) :=
  entry.frameLine :: (entry.place.map placeLine).toList

/-- The frame that an entry is printed for. -/
def frame (index : Nat) (entry : Entry) : Frame where
  index := index
  moduleName := entry.moduleName
  symbol := entry.symbol
  isInline := entry.isInline
  reportedLine := entry.reportedLine.map Int.ofNat
  sourcePath := entry.place.map Prod.fst
  sourceLine := entry.place.map fun place => place.2

end Entry

/-- Entries printed with one line ending between all lines. -/
def print (newline : List Char) (entries : List Entry) : String :=
  String.ofList (newline.intercalate (entries.flatMap Entry.rows))

variable {entry : Entry} {symbol : List Char}

/-! ## Symbols -/

theorem IsTrimmedRow.isBlank_last (hsymbol : IsTrimmedRow symbol) :
    ∀ c ∈ symbol.getLast?, isBlank c = false := by
  obtain ⟨-, -, -, hlast⟩ := trimRight_eq_iff.1 (rfl : trimRight (trimLeft symbol) = _)
  rwa [← trim, hsymbol.trim_eq] at hlast

theorem IsTrimmedRow.trimRight_eq (hsymbol : IsTrimmedRow symbol) :
    trimRight symbol = symbol :=
  trimRight_eq_self hsymbol.isBlank_last

/-- A symbol that does not look as if it had a reported line is read as a whole. -/
theorem dividesFirst_bare (hsymbol : IsTrimmedRow symbol)
    (hbare : ¬EndsNumbered symbol) : DividesFirst symbol symbol none where
  symbol_ne_nil := hsymbol.ne_nil
  exists_tail := ⟨[], (List.append_nil symbol).symm, .bare rfl⟩
  length_le := by
    intro other number hother
    obtain ⟨tail, htext, htail⟩ := hother.exists_tail
    cases htail with
    | bare hblanks =>
        have hle := length_trimRight_le other
        rwa [← trimRight_append_of_blank hblanks, ← htext, hsymbol.trimRight_eq] at hle
    | @numbered gap space digits blanks hgap hgap_blank hspace hspace_blank hdigits hdecimal
        hblanks =>
        refine absurd ⟨other, gap, space, digits, ?_, hother.symbol_ne_nil,
          ⟨hgap, hgap_blank⟩, ⟨hspace, hspace_blank⟩, ⟨hdigits, hdecimal⟩⟩ hbare
        rw [← hsymbol.trimRight_eq, htext, ← List.append_assoc,
          trimRight_append_of_blank hblanks, trimRight_eq_self]
        · simp only [List.append_assoc]
        · intro c hc
          rw [← List.append_assoc, getLast?_append_of_ne_nil hdigits] at hc
          exact isBlank_of_isDecimal (hdecimal c (List.mem_of_getLast? hc))

/-- Before a reported line a symbol is read up to the word `Line` that was printed. -/
theorem dividesFirst_numbered (hsymbol : IsTrimmedRow symbol) (line : Nat) :
    DividesFirst (symbol ++ (' ' :: lineWord ++ ' ' :: natDigits line)) symbol
      (some (natDigits line)) := by
  have hreported : splitReported? (symbol ++ (' ' :: lineWord ++ ' ' :: natDigits line)) =
      some (symbol ++ [' '], natDigits line) := by
    rw [← splitReported?_append ⟨symbol, ' ', rfl, rfl⟩ (List.cons_ne_nil ' ' []) rfl
      (natDigits_ne_nil line) (fun _ => isDecimal_of_mem_natDigits) (rfl : allBlank [] = true)]
    simp
  have hshort : shortened (symbol ++ [' ']) = symbol := by
    have htrim : trimRight (symbol ++ [' ']) = symbol := by
      rw [trimRight_append_of_blank rfl, hsymbol.trimRight_eq]
    rw [shortened, htrim, max_eq_right (List.length_pos_iff.2 hsymbol.ne_nil), List.take_left]
  obtain ⟨hdivides, hbare, hnumbered⟩ := divides_reported hreported
  rw [hshort] at hdivides hnumbered
  refine ⟨hdivides (by simp), fun other number hother => ?_⟩
  cases number with
  | none =>
      have hle := hbare other hother
      rw [List.length_append] at hle
      exact Nat.le_of_add_right_le hle
  | some digits => exact (hnumbered other digits hother).1

/-! ## Lines -/

/-- A printed frame line is read as what was printed. -/
theorem readFrame?_frameLine (hentry : entry.IsPrintable) :
    readFrame? entry.frameLine =
      some ⟨entry.isInline, entry.moduleName.toList, entry.symbol.toList,
        entry.reportedLine.map natDigits⟩ := by
  have hopening : Opening (if entry.isInline then inlineMark ++ [' '] else []) entry.isInline := by
    cases entry.isInline with
    | true => exact .inlined rfl
    | false => exact .plain
  have hshows {text : List Char} {number : Option (List Char)}
      (hfirst : DividesFirst text entry.symbol.toList number) :=
    ShowsFrame.intro (rfl : allBlank [] = true) hopening hentry.moduleName hfirst
  rw [hentry.symbol.trim_eq] at hshows
  rw [readFrame?_eq_some_iff, Entry.frameLine]
  cases hreported : entry.reportedLine with
  | none =>
      have hline := hshows (dividesFirst_bare hentry.symbol (hentry.not_endsNumbered hreported))
      simpa using hline
  | some line =>
      have hline := hshows (dividesFirst_numbered hentry.symbol line)
      simpa using hline

/-- A printed place is read as what was printed. -/
theorem readPlace?_placeLine {place : String × Nat} (hpath : IsTrimmedRow place.1.toList) :
    readPlace? (Entry.placeLine place) = some (place.1.toList, natDigits place.2) := by
  have hshows := @ShowsPlace.intro [' ', ' ', ' ', ' '] [' '] place.1.toList (natDigits place.2) []
    rfl (List.cons_ne_nil _ _) rfl hpath.ne_nil (natDigits_ne_nil _)
    (fun _ => isDecimal_of_mem_natDigits) rfl
  rw [hpath.trim_eq] at hshows
  exact readPlace?_eq_some_iff.2 hshows

/-- A printed place is not taken for a frame. -/
theorem readFrame?_placeLine {place : String × Nat} (hpath : IsTrimmedRow place.1.toList) :
    readFrame? (Entry.placeLine place) = none := by
  rw [← Option.not_isSome_iff_eq_none, ← isFrameLine_iff]
  exact not_isFrameLine_of_isPlaceLine
    (isPlaceLine_iff.2 (by rw [readPlace?_placeLine hpath]; rfl))

/-- A printed frame is not taken for a place. -/
theorem readPlace?_frameLine (hentry : entry.IsPrintable) :
    readPlace? entry.frameLine = none := by
  rw [← Option.not_isSome_iff_eq_none, ← isPlaceLine_iff]
  exact fun hplace => not_isFrameLine_of_isPlaceLine hplace
    (isFrameLine_iff.2 (by rw [readFrame?_frameLine hentry]; rfl))

theorem newline_not_mem_of_isBlank {text : List Char}
    (hsolid : ∀ c ∈ text, isBlank c = false) : '\n' ∉ text := by
  intro hmem
  cases hsolid '\n' hmem

theorem newline_not_mem_frameLine (hentry : entry.IsPrintable) : '\n' ∉ entry.frameLine := by
  have hname : '\n' ∉ entry.moduleName.toList :=
    newline_not_mem_of_isBlank fun c hc => (hentry.moduleName.solid c hc).2
  have hopening : '\n' ∉ if entry.isInline then inlineMark ++ [' '] else [] := by
    cases entry.isInline with
    | true => decide
    | false => exact List.not_mem_nil
  have hline : '\n' ∉ (match entry.reportedLine with
      | some line => ' ' :: lineWord ++ ' ' :: natDigits line
      | none => []) := by
    cases entry.reportedLine with
    | none => exact List.not_mem_nil
    | some line => simp [lineWord, newline_not_mem_natDigits]
  simp only [Entry.frameLine, List.mem_append, List.mem_cons, not_or]
  exact ⟨⟨⟨hopening, hname⟩, by decide, hentry.symbol.newline_not_mem⟩, hline⟩

theorem isBlank_last_frameLine (hentry : entry.IsPrintable) :
    ∀ c ∈ entry.frameLine.getLast?, isBlank c = false := by
  rw [Entry.frameLine]
  cases entry.reportedLine with
  | none =>
      rw [List.append_nil, List.append_cons,
        getLast?_append_of_ne_nil hentry.symbol.ne_nil]
      exact hentry.symbol.isBlank_last
  | some line =>
      intro c hc
      rw [← List.append_assoc, List.append_cons _ ' ' (natDigits line),
        getLast?_append_of_ne_nil (natDigits_ne_nil line)] at hc
      exact isBlank_of_isDecimal (isDecimal_of_mem_natDigits (List.mem_of_getLast? hc))

/-- Printed rows hold no line endings. -/
theorem forall_mem_rows (hentry : entry.IsPrintable) :
    ∀ row ∈ entry.rows, '\n' ∉ row ∧ ∀ c ∈ row.getLast?, c ≠ '\r' := by
  rw [Entry.rows, List.forall_mem_cons]
  refine ⟨⟨newline_not_mem_frameLine hentry, ?_⟩, ?_⟩
  · rintro c hc rfl
    cases isBlank_last_frameLine hentry '\r' hc
  · intro row hrow
    obtain ⟨place, hplace, rfl⟩ : ∃ place ∈ entry.place, Entry.placeLine place = row := by
      simpa using hrow
    constructor
    · simp [Entry.placeLine, (hentry.path place hplace).newline_not_mem,
        newline_not_mem_natDigits]
    · intro c hc
      rw [Entry.placeLine, List.getLast?_concat] at hc
      cases hc
      decide

/-! ## Listings -/

theorem frameOf_eq (index : Nat) (hentry : entry.IsPrintable) :
    frameOf index ⟨entry.isInline, entry.moduleName.toList, entry.symbol.toList,
        entry.reportedLine.map natDigits⟩
      (entry.place.map fun place => (place.1.toList, natDigits place.2)) = entry.frame index := by
  have hreported : (entry.reportedLine.map natDigits).bind parseInt? =
      entry.reportedLine.map Int.ofNat := by
    cases hline : entry.reportedLine with
    | none => rfl
    | some line =>
        rw [Option.map_some, Option.bind_some,
          parseInt?_natDigits (hentry.reportedLine_lt line hline)]
        rfl
  have hplace : (entry.place.map fun place => (place.1.toList, natDigits place.2)).bind
      (fun place => parseInt? place.2) = entry.place.map fun place => (place.2 : Int) := by
    cases hline : entry.place with
    | none => rfl
    | some place =>
        rw [Option.map_some, Option.bind_some, parseInt?_natDigits (hentry.line_lt place hline),
          Option.map_some]
  rw [frameOf, Entry.frame, hreported, hplace, Option.map_map]
  simp [Function.comp_def]

/-- The rows of entries are read as their frames, in order. -/
theorem framesFrom_rows {entries : List Entry} (base : Nat)
    (hentries : ∀ entry ∈ entries, entry.IsPrintable) :
    framesFrom base (entries.flatMap Entry.rows) =
      entries.mapIdx fun index entry => entry.frame (base + index) := by
  induction entries generalizing base with
  | nil => rfl
  | cons entry rest ih =>
      obtain ⟨hentry, hrest⟩ := List.forall_mem_cons.1 hentries
      have hnext : (rest.flatMap Entry.rows).head?.bind readPlace? = none := by
        cases rest with
        | nil => rfl
        | cons next rest => exact readPlace?_frameLine (hrest next List.mem_cons_self)
      have hlater := ih (base + 1) hrest
      have hframe := frameOf_eq base hentry
      have hshift : (rest.mapIdx fun index entry => entry.frame (base + 1 + index)) =
          rest.mapIdx fun index entry => entry.frame (base + (index + 1)) := by
        simp only [Nat.add_assoc, Nat.add_comm 1]
      rw [List.flatMap_cons, Entry.rows, List.cons_append, framesFrom_cons,
        readFrame?_frameLine hentry, List.mapIdx_cons]
      cases hplace : entry.place with
      | none =>
          rw [hplace] at hframe
          dsimp only [Option.map_none, Option.toList_none, List.nil_append] at hframe ⊢
          rw [hnext, hframe, hlater, hshift, Nat.add_zero]
      | some place =>
          have hpath := hentry.path place hplace
          rw [hplace] at hframe
          dsimp only [Option.map_some, Option.toList_some, List.cons_append, List.nil_append,
            List.head?_cons, Option.bind_some] at hframe ⊢
          rw [framesFrom_cons, readFrame?_placeLine hpath, readPlace?_placeLine hpath, hframe]
          dsimp only
          rw [hlater, hshift, Nat.add_zero]

/-- What is printed for frames is read as these frames, in order and numbered from zero,
whichever way its lines end. -/
theorem frames_print {newline : List Char} {entries : List Entry}
    (hnewline : IsLineEnding newline) (hentries : ∀ entry ∈ entries, entry.IsPrintable) :
    frames (print newline entries) = entries.mapIdx Entry.frame := by
  have hrows : lines (print newline entries).toList = entries.flatMap Entry.rows ∨
      entries = [] := by
    cases entries with
    | nil => exact .inr rfl
    | cons entry rest =>
        have hfit : ∀ row ∈ (entry :: rest).flatMap Entry.rows,
            '\n' ∉ row ∧ ∀ c ∈ row.getLast?, c ≠ '\r' := by
          intro row hrow
          obtain ⟨entry, hmem, hrow⟩ := List.mem_flatMap.1 hrow
          exact forall_mem_rows (hentries entry hmem) row hrow
        rw [print, String.toList_ofList]
        exact .inl (lines_intercalate (by simp [Entry.rows]) (fun row hrow => (hfit row hrow).1)
          (fun row hrow => (hfit row hrow).2) hnewline)
  obtain hrows | rfl := hrows
  · rw [frames, hrows, framesFrom_rows 0 hentries]
    simp only [Nat.zero_add]
  · rw [frames, print]
    rfl

/-- An inlined frame whose symbol and path look like ends of lines, and a frame without a
reported line and place. -/
def twoEntries : List Entry := [
  { isInline := true
    moduleName := "A.dll"
    symbol := "f!g Line 3 h(int)"
    reportedLine := some 12
    place := some ("C:/Files (x86)/a(3)", 12) },
  { moduleName := "[B"
    symbol := "Line 5" }]

theorem isModuleName_of_all {name : List Char} (hne : name ≠ [])
    (hsolid : (name.all fun c => c != '!' && !isBlank c) = true) : IsModuleName name where
  ne_nil := hne
  solid c hc := by simpa using List.all_eq_true.1 hsolid c hc

theorem twoEntries_printable : ∀ entry ∈ twoEntries, entry.IsPrintable := by
  have hfirst : IsModuleName "A.dll".toList :=
    isModuleName_of_all (by decide +kernel) (by decide +kernel)
  have hsecond : IsModuleName "[B".toList :=
    isModuleName_of_all (by decide +kernel) (by decide +kernel)
  simp only [twoEntries, List.forall_mem_cons]
  refine ⟨⟨hfirst, ⟨by decide +kernel, by decide +kernel, by decide +kernel⟩, nofun,
    by decide +kernel, ?_, by decide +kernel⟩,
    ⟨hsecond, ⟨by decide +kernel, by decide +kernel, by decide +kernel⟩, ?_, nofun, nofun, nofun⟩,
    nofun⟩
  · rintro place hplace
    cases hplace
    exact ⟨by decide +kernel, by decide +kernel, by decide +kernel⟩
  · -- The word `Line` stands at the start, and a symbol has to come before it.
    rintro - ⟨front, gap, space, digits, htext, hfront, ⟨hgap, -⟩, ⟨hspace, -⟩, hdigits, -⟩
    have hlength := congrArg List.length htext
    have hshort : ("Line 5".toList).length = 6 := by decide +kernel
    have := List.length_pos_iff.2 hfront
    have := List.length_pos_iff.2 hgap
    have := List.length_pos_iff.2 hspace
    have := List.length_pos_iff.2 hdigits
    simp only [List.length_append, lineWord, List.length_cons, List.length_nil] at hlength
    omega

theorem frames_print_two :
    IsLineEnding ['\r', '\n'] ∧ (∀ entry ∈ twoEntries, entry.IsPrintable) ∧
      frames (print ['\r', '\n'] twoEntries) = twoEntries.mapIdx Entry.frame :=
  ⟨.inr rfl, twoEntries_printable, frames_print (.inr rfl) twoEntries_printable⟩

end FrameLens.Listing
