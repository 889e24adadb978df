import FrameLens.Proofs.Enclosing
import FrameLens.Proofs.Headers.Extents
import FrameLens.Proofs.Signatures.Walks

/-!
# The signature of an accepted block

A block is accepted by its header, which goes back over lines of any kind to the end of
the statement before it.  It is shown from where another walk ends, that goes up the
lines from the last one of the header.  There is always room for the lines of a header,
so the walk comes to its parameter list if each line from there on belongs to the line
below it.
-/

namespace FrameLens.Block

open FrameLens.Header (StandsBefore)

variable {v : View} {target : Int} {hint : List Char} {settings : Settings} {brace first : Nat}
  {span : Span} {header : List Char}

/-! ## Where a block is shown from -/

/-- A block is shown from where the walk up from its header ends, through its closing
brace. -/
theorem exists_start_of_at? (hat : at? v brace target hint settings = .ok (some span)) :
    ∃ close anchor start, v.cleaned.matchingBrace? brace = some close ∧
      Header.anchor v.cleaned brace = .ok anchor ∧
      Signature.start v anchor settings.headerMaxLines = .ok start ∧
      span = Span.ofOffsets v start (close + 1) .enclosing := by
  rw [at?] at hat
  cases hclose : v.cleaned.matchingBrace? brace with
  | none =>
      rw [hclose] at hat
      cases hat
  | some close =>
      rw [hclose] at hat
      dsimp only at hat
      split at hat
      · cases hat
      obtain ⟨header, -, hat⟩ := OutOfRange.bind_eq_ok_iff.1 hat
      split at hat
      · obtain ⟨anchor, hanchor, hat⟩ := OutOfRange.bind_eq_ok_iff.1 hat
        obtain ⟨start, hstart, hat⟩ := OutOfRange.bind_eq_ok_iff.1 hat
        cases hat
        exact ⟨close, anchor, start, rfl, hanchor, hstart, rfl⟩
      · cases hat

theorem at?_of_firstAccepted {braces : List Nat}
    (hfound : firstAccepted v target hint settings braces = .ok (.block brace span)) :
    at? v brace target hint settings = .ok (some span) := by
  induction braces with
  | nil => cases hfound
  | cons outer braces ih =>
      rw [firstAccepted] at hfound
      obtain ⟨shown, hat, hfound⟩ := OutOfRange.bind_eq_ok_iff.1 hfound
      cases shown with
      | none => exact ih hfound
      | some shown =>
          cases hfound
          exact hat

/-- The block that a search finds is the one at its brace. -/
theorem at?_of_search {hint : String}
    (hfound : search v target hint settings = .ok (.block brace span)) :
    at? v brace target hint.toList settings = .ok (some span) := by
  rw [search] at hfound
  split at hfound
  · cases hfound
  obtain ⟨accepted, haccepted, hfound⟩ := OutOfRange.bind_eq_ok_iff.1 hfound
  cases accepted with
  | nothing =>
      dsimp only at hfound
      split at hfound
      · rcases arrowNear_sound hfound with hnothing | ⟨_, _, _, harrow, -⟩
        · cases hnothing
        · cases harrow
      · cases hfound
  | block brace' span' =>
      cases hfound
      exact at?_of_firstAccepted haccepted
  | arrow line span' => cases hfound

/-! ## The lines of a header -/

/-- A place in the header is as many lines below its start as line feeds stand before it. -/
theorem lineOf_add (hstands : StandsBefore v.cleaned brace first header) {k : Nat}
    (hk : k ≤ header.length) :
    v.lineOf (first + k : Nat) = v.lineOf first + (header.take k).count '\n' := by
  obtain ⟨rest, hrest⟩ := hstands.text
  rw [v.lineOf_eq_count_cleaned, v.lineOf_eq_count_cleaned, List.take_add, List.count_append,
    ← hrest, List.take_append_of_le_length hk]
  push_cast
  omega

/-- The lines between two places of a header are no more than its line feeds. -/
theorem lineOf_sub_le (hstands : StandsBefore v.cleaned brace first header) {j k : Nat}
    (hj : j ≤ header.length) (hk : k ≤ header.length) :
    v.lineOf (first + k : Nat) - v.lineOf (first + j : Nat) ≤ header.count '\n' := by
  have hle := (List.take_sublist k header).count_le '\n'
  rw [lineOf_add hstands hj, lineOf_add hstands hk]
  omega

/-- The walk up from a header begins on its last line, unless the header ends with a
group above the line of the brace. -/
theorem lineOf_anchor {groups : Bool} {bound : Nat} {anchor : Int}
    (hbrace : brace ≤ v.cleaned.size)
    (hwalked : Header.Walked v.cleaned groups brace bound) (hle : bound ≤ first)
    (hstands : StandsBefore v.cleaned brace first header) (hheader : header ≠ [])
    (hends : v.cleaned[first + (header.length - 1)]? ≠ some '\x7d' ∨
      v.lineOf (first + (header.length - 1) : Nat) = v.lineOf brace)
    (hanchor : Header.anchor v.cleaned brace = .ok anchor) :
    v.lineOf anchor = v.lineOf (first + (header.length - 1) : Nat) := by
  have hlast := List.getLast?_eq_some_getLast hheader
  rw [Header.anchor_eq hbrace hwalked hle hstands hlast] at hanchor
  obtain rfl := Except.ok.inj hanchor
  split
  · rename_i hcloser
    rw [hstands.getElem?_last hlast, hcloser] at hends
    exact (hends.resolve_left (fun hne => hne rfl)).symm
  · rfl

/-! ## The parameter list -/

/-- The lines of a header from its first parenthesis to its last character are one
signature: the walk up begins on the last of them, and each line above that belongs to
the line below it. -/
structure Joined (v : View) (settings : Settings) (brace paren last : Nat) : Prop where
  room : 1 ≤ settings.headerMaxLines ∨ v.lineOf paren = v.lineOf last
  ends : v.cleaned[last]? ≠ some '\x7d' ∨ v.lineOf last = v.lineOf brace
  belongs : ∀ line, v.lineOf paren ≤ line → line < v.lineOf last → Signature.Belongs v line

/-- A block whose header reads like that of a function is shown with its parameter list
from the line of the first parenthesis on, if the lines from there on are joined. -/
theorem parameters_shown {hint : String}
    (hfound : search v target hint settings = .ok (.block brace span))
    (hheader : Header.before v.cleaned brace settings.headerBacktrack settings.headerMaxLines
      v.dialect.braceInitializers = .ok header)
    (hfunction : Header.isFunction header hint.toList = true) :
    ∃ first paren last : Nat, StandsBefore v.cleaned brace first header ∧
      '(' ∈ header ∧ paren = first + header.idxOf '(' ∧ last + 1 = first + header.length ∧
      (Joined v settings brace paren last →
        span.start ≤ paren ∧ (brace : Int) < span.stop ∧
          span.firstLine ≤ v.lineOf paren) := by
  obtain ⟨close, anchor, start, hclose, hanchor, hstart, rfl⟩ :=
    exists_start_of_at? (at?_of_search hfound)
  obtain ⟨-, hlt, hclose_lt, hopens, hcloses⟩ := Nesting.matching?_sound (by decide) hclose
  have hbrace : brace ≤ v.cleaned.size := by
    rw [Text.length] at hclose_lt
    omega
  obtain ⟨bound, first, hle, hwalked, -, hstands, hfew, -⟩ :=
    Header.exists_standsBefore hbrace hheader
  have hmem : '(' ∈ header := by
    simp only [Header.isFunction, Bool.and_eq_true, List.contains_iff_mem] at hfunction
    exact hfunction.1.1.1.1
  have hparen := List.idxOf_lt_length_of_mem hmem
  refine ⟨first, first + header.idxOf '(', first + (header.length - 1), hstands, hmem, rfl,
    by omega, fun hjoined => ?_⟩
  have hend := hstands.le
  have hlines := lineOf_sub_le hstands hparen.le (Nat.sub_le header.length 1)
  have hanchor_line := lineOf_anchor hbrace hwalked hle hstands (List.ne_nil_of_mem hmem)
    hjoined.ends hanchor
  have hstart_le : start ≤ (first + header.idxOf '(' : Nat) := by
    refine Signature.start_le_of_belongs ?_ ?_ hstart
    · rw [hanchor_line]
      rcases hjoined.room with hroom | hroom
      · have := hfew (by omega)
        omega
      · omega
    · rw [hanchor_line]
      exact hjoined.belongs
  obtain ⟨entry, -, hentry, -⟩ := Signature.start_ends v anchor settings.headerMaxLines
  obtain rfl : (entry : Int) = start := Except.ok.inj (hentry.symm.trans hstart)
  have hstop : (brace : Int) < close + 1 := by omega
  rw [Span.ofOffsets_through (Int.natCast_nonneg entry) (by omega) hcloses]
  exact ⟨hstart_le, hstop, View.lineOf_mono hstart_le⟩

/-- A constructor with its base and member on lines of their own. -/
def wrappedInitializers : View :=
  View.ofText [] Dialect.cpp
    "A::A(int w)\n : B(w),\n   c(w)\n\x7b\n\x7d\n".toList

def initializersHeader : List Char :=
  "A::A(int w)\n : B(w),\n   c(w)".toList

theorem initializersHeader_stands :
    StandsBefore wrappedInitializers.cleaned 29 0 initializersHeader where
  text := by decide +kernel
  le := by decide
  visible := by
    have hlast : initializersHeader.getLast? = some ')' := by decide
    intro c hc
    rw [hlast] at hc
    cases hc
    decide
  blank := by
    intro place hbehind hlt
    obtain rfl : place = 28 := by
      have : initializersHeader.length = 28 := by decide
      omega
    exact ⟨'\n', by decide +kernel, by decide⟩

theorem wrappedInitializers_joined : Joined wrappedInitializers {} 29 4 27 where
  room := .inl (by decide)
  ends := .inl (by decide +kernel)
  belongs := by
    intro line hfirst hlast
    have hline : line = 1 ∨ line = 2 := by
      have : wrappedInitializers.lineOf (4 : Nat) = 1 := by decide
      have : wrappedInitializers.lineOf (27 : Nat) = 3 := by decide
      omega
    rcases hline with rfl | rfl
    · exact ⟨by decide +kernel, by decide +kernel⟩
    · exact ⟨by decide +kernel, by decide +kernel⟩

/-- The constructor is shown from the line of its name. -/
theorem wrappedInitializers_shown :
    ∃ span, search wrappedInitializers 30 "" {} = .ok (.block 29 span) ∧
      Header.before wrappedInitializers.cleaned 29 8000 30 true = .ok initializersHeader ∧
      Header.isFunction initializersHeader "".toList = true ∧
      span.start ≤ (4 : Nat) ∧ (29 : Nat) < span.stop ∧
      span.firstLine ≤ wrappedInitializers.lineOf (4 : Nat) := by
  have hsearch : search wrappedInitializers 30 "" {} =
      .ok (.block 29 ⟨0, 32, 1, 5, .enclosing⟩) := by
    decide +kernel
  have hbefore : Header.before wrappedInitializers.cleaned 29 8000 30 true =
      .ok initializersHeader := by
    decide +kernel
  have hfunction : Header.isFunction initializersHeader "".toList = true := by
    decide
  obtain ⟨first, paren, last, hstands, -, hparen, hlast, hshown⟩ :=
    parameters_shown hsearch hbefore hfunction
  have hend : initializersHeader.getLast? = some ')' := by decide
  have hplace : initializersHeader.idxOf '(' = 4 := by decide
  have hlength : initializersHeader.length = 28 := by decide
  obtain rfl := hstands.first_eq hend initializersHeader_stands
  obtain rfl : paren = 4 := by omega
  obtain rfl : last = 27 := by omega
  exact ⟨_, hsearch, hbefore, hfunction, hshown wrappedInitializers_joined⟩

/-- A parameter list with an empty line in it. -/
def splitParameters : View :=
  View.ofText [] Dialect.cpp "void f(int a,\n\n       int b)\n\x7b\n\x7d\n".toList

def parametersHeader : List Char :=
  "void f(int a,\n\n       int b)".toList

theorem parametersHeader_stands :
    StandsBefore splitParameters.cleaned 29 0 parametersHeader where
  text := by decide +kernel
  le := by decide
  visible := by
    have hlast : parametersHeader.getLast? = some ')' := by decide
    intro c hc
    rw [hlast] at hc
    cases hc
    decide
  blank := by
    intro place hbehind hlt
    obtain rfl : place = 28 := by
      have : parametersHeader.length = 28 := by decide
      omega
    exact ⟨'\n', by decide +kernel, by decide⟩

/-- A function is shown from the middle of its parameter list. -/
theorem parameters_cut :
    ¬∀ (v : View) (target : Int) (hint : String) (settings : Settings) (brace first : Nat)
      (span : Span) (header : List Char),
      search v target hint settings = .ok (.block brace span) →
      Header.before v.cleaned brace settings.headerBacktrack settings.headerMaxLines
        v.dialect.braceInitializers = .ok header →
      Header.isFunction header hint.toList = true →
      StandsBefore v.cleaned brace first header →
      span.start ≤ (first + header.idxOf '(' : Nat) := by
  intro hreaches
  have hsearch : search splitParameters 30 "" {} =
      .ok (.block 29 ⟨15, 32, 3, 5, .enclosing⟩) := by
    decide +kernel
  have hstart := hreaches splitParameters 30 "" {} 29 0 _ parametersHeader hsearch
    (by decide +kernel) (by decide +kernel) parametersHeader_stands
  exact absurd hstart (by decide)

end FrameLens.Block
