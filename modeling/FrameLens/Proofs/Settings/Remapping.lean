import FrameLens.Proofs.Text.Halves
import FrameLens.Settings
import Mathlib.Data.List.Forall2

/-!
# Remapped paths

The first remap that a path begins as decides where the path leads.  Neither letter case nor the
kind of separators has a say in that, so two spellings of one path are moved by the same remap, or
by none.
-/

namespace FrameLens

namespace LooseText

variable {text : LooseText} {chars : List Char}

theorem ofChars_injective : Function.Injective ofChars :=
  List.map_injective_iff.2 fun _ _ => CodePoint.char.inj

theorem eq_ofChars_of_plain (hplain : text.plain = .ok chars) : text = ofChars chars := by
  induction text generalizing chars with
  | nil =>
      cases hplain
      rfl
  | cons point rest ih =>
      cases point with
      | half place => cases hplain
      | char c =>
          rw [plain_cons_char] at hplain
          cases hrest : plain rest with
          | error halves =>
              rw [hrest] at hplain
              cases hplain
          | ok others =>
              rw [hrest] at hplain
              cases hplain
              rw [ih hrest]
              rfl

theorem not_holdsHalf_ofChars (chars : List Char) : ¬ (ofChars chars).HoldsHalf := by
  rintro ⟨place, hmem⟩
  obtain ⟨c, -, hc⟩ := List.mem_map.1 hmem
  cases hc

end LooseText

namespace Remap

variable {remap : Remap} {path left right : String} {text : LooseText}

/-- The text with slashes for backslashes. -/
def slashed (text : LooseText) : LooseText :=
  text.map fun point => if point = .char '\\' then .char '/' else point

/-- The text without regard to the kind of separators and to letter case. -/
def compared (text : LooseText) : LooseText :=
  (slashed text).foldCase

/-- Two spellings of a path, which differ character by character in case and separators alone. -/
def Alike (left right : String) : Prop :=
  List.Forall₂ (fun a b => compared [.char a] = compared [.char b]) left.toList right.toList

/-- A remap is for the paths that begin as its source does; a shorter path as a whole. -/
structure IsFor (remap : Remap) (path : String) : Prop where
  source_ne_nil : remap.source ≠ []
  begins :
    compared ((LooseText.ofString path).take remap.source.length) = compared remap.source

instance (remap : Remap) (path : String) : Decidable (remap.IsFor path) :=
  decidable_of_iff (remap.source ≠ [] ∧
      compared ((LooseText.ofString path).take remap.source.length) = compared remap.source)
    ⟨fun ⟨hsource, hbegins⟩ => ⟨hsource, hbegins⟩, fun ⟨hsource, hbegins⟩ => ⟨hsource, hbegins⟩⟩

instance (left right : String) : Decidable (Alike left right) :=
  inferInstanceAs (Decidable (List.Forall₂ _ _ _))

/-- What stays of a path that is moved. -/
def rest (remap : Remap) (path : String) : LooseText :=
  let beyond := (LooseText.ofString path).drop remap.source.length
  if .char '\\' ∈ remap.target then beyond else slashed beyond

/-! ## Comparing -/

theorem compared_cons (point : CodePoint) (text : LooseText) :
    compared (point :: text) = compared [point] ++ compared text := by
  simp [compared, slashed, LooseText.foldCase]

theorem slashed_ofChars (chars : List Char) :
    slashed (LooseText.ofChars chars) = LooseText.ofChars (withSlashes chars) := by
  rw [slashed, LooseText.ofChars, LooseText.ofChars, withSlashes, Text.replaceChar, List.map_map,
    List.map_map]
  refine List.map_congr_left fun c _ => ?_
  by_cases hc : c = '\\'
  · simp [hc]
  · simp [hc]

theorem compared_ofChars (chars : List Char) :
    compared (LooseText.ofChars chars) = LooseText.ofChars (comparable chars) := by
  rw [compared, slashed_ofChars, comparable, LooseText.foldCase, Text.foldCase, LooseText.ofChars,
    LooseText.ofChars, List.flatMap_map, List.map_flatMap]
  rfl

/-- A half is left by folding. -/
theorem holdsHalf_compared (hhalf : text.HoldsHalf) : (compared text).HoldsHalf := by
  obtain ⟨place, hmem⟩ := hhalf
  refine ⟨place, List.mem_flatMap.2 ⟨.half place, ?_, List.mem_singleton_self _⟩⟩
  exact List.mem_map.2 ⟨.half place, hmem, rfl⟩

theorem compared_of_forall₂ {left right : List Char}
    (halike : List.Forall₂ (fun a b => compared [.char a] = compared [.char b]) left right) :
    compared (LooseText.ofChars left) = compared (LooseText.ofChars right) := by
  induction halike with
  | nil => rfl
  | cons hfirst _ ih =>
      rw [LooseText.ofChars, LooseText.ofChars, List.map_cons, List.map_cons, compared_cons,
        hfirst, ← LooseText.ofChars, ih, ← compared_cons, ← LooseText.ofChars]

/-- A remap is for both spellings of a path or for neither. -/
theorem isFor_congr (halike : Alike left right) : remap.IsFor left ↔ remap.IsFor right := by
  have hbegins :
      compared ((LooseText.ofString left).take remap.source.length) =
        compared ((LooseText.ofString right).take remap.source.length) := by
    rw [LooseText.ofString, LooseText.ofString, LooseText.ofChars, LooseText.ofChars,
      ← List.map_take, ← List.map_take]
    exact compared_of_forall₂ (List.forall₂_take _ halike)
  exact ⟨fun ⟨hsource, hleft⟩ => ⟨hsource, hbegins ▸ hleft⟩,
    fun ⟨hsource, hright⟩ => ⟨hsource, hbegins ▸ hright⟩⟩

/-! ## Moving -/

theorem take_ofString (path : String) (n : Nat) :
    (LooseText.ofString path).take n = LooseText.ofChars (path.toList.take n) :=
  List.map_take.symm

theorem drop_ofString (path : String) (n : Nat) :
    (LooseText.ofString path).drop n = LooseText.ofChars (path.toList.drop n) :=
  List.map_drop.symm

/-- A remap moves the paths that it is for. -/
theorem moves_iff : remap.moves path.toList = true ↔ remap.IsFor path := by
  rw [moves]
  obtain ⟨-, chars, hplain⟩ | ⟨hhalf, halves, hplain⟩ := LooseText.plain_cases remap.source
  · have hsource := LooseText.eq_ofChars_of_plain hplain
    have hlength : remap.source.length = chars.length := by
      rw [hsource, LooseText.ofChars, List.length_map]
    rw [hplain]
    dsimp only
    rw [Bool.and_eq_true, Bool.not_eq_true', List.isEmpty_eq_false_iff, beq_iff_eq]
    refine ⟨fun ⟨hne, hequal⟩ => ⟨?_, ?_⟩, fun ⟨hne, hequal⟩ => ⟨?_, ?_⟩⟩
    · rwa [hsource, LooseText.ofChars, ne_eq, List.map_eq_nil_iff]
    · rw [take_ofString, hlength, compared_ofChars, hequal, hsource, compared_ofChars]
    · rwa [hsource, LooseText.ofChars, ne_eq, List.map_eq_nil_iff] at hne
    · rw [take_ofString, hlength, compared_ofChars, hsource, compared_ofChars] at hequal
      exact LooseText.ofChars_injective hequal
  · -- A path is a string and holds no half, and neither does what it is compared as.
    rw [hplain]
    refine iff_of_false Bool.false_ne_true fun ⟨_, hequal⟩ => ?_
    have hcompared := holdsHalf_compared hhalf
    rw [← hequal, take_ofString, compared_ofChars] at hcompared
    exact LooseText.not_holdsHalf_ofChars _ hcompared

/-- A moved path is the target in front of what is left. -/
theorem move_eq (remap : Remap) (path : String) :
    remap.move path.toList = remap.target ++ remap.rest path := by
  rw [move, rest, drop_ofString, slashed_ofChars]
  by_cases hbackslash : CodePoint.char '\\' ∈ remap.target
  · rw [if_pos hbackslash, if_pos (List.contains_iff_mem.2 hbackslash)]
  · rw [if_neg hbackslash, if_neg fun hcontains => hbackslash (List.contains_iff_mem.1 hcontains)]

end Remap

namespace Settings

variable {settings : Settings} {path left right : String}

open Remap (Alike)

/-- A path that no remap is for stays as it is. -/
theorem remapPath_of_none (hnone : ∀ remap ∈ settings.remaps, ¬ remap.IsFor path) :
    settings.remapPath path = path := by
  have hfind : (settings.remaps.find? fun remap => remap.moves path.toList) = none :=
    List.find?_eq_none.2 fun remap hmem hmoves => hnone remap hmem (Remap.moves_iff.1 hmoves)
  rw [remapPath, hfind]

/-- The first remap that is for a path moves it. -/
theorem remapPath_of_first {front back : List Remap} {remap : Remap}
    (hremaps : settings.remaps = front ++ remap :: back)
    (hfront : ∀ other ∈ front, ¬ other.IsFor path) (hfor : remap.IsFor path) :
    settings.remapPath path = remap.target ++ remap.rest path := by
  have hfind : (settings.remaps.find? fun remap => remap.moves path.toList) = some remap := by
    refine List.find?_eq_some_iff_append.2 ⟨Remap.moves_iff.2 hfor, front, back, hremaps, ?_⟩
    intro other hother
    rw [Bool.not_eq_true', Bool.eq_false_iff]
    exact fun hmoves => hfront other hother (Remap.moves_iff.1 hmoves)
  rw [remapPath, hfind]
  exact remap.move_eq path

/-- Two spellings of a path stay as they are, or are both moved by the first remap that is for
them, each with what stays of it. -/
theorem remapPath_of_alike (settings : Settings) (halike : Alike left right) :
    (settings.remapPath left = left ∧ settings.remapPath right = right ∧
        ∀ remap ∈ settings.remaps, ¬ remap.IsFor left ∧ ¬ remap.IsFor right) ∨
      ∃ front remap back, settings.remaps = front ++ remap :: back ∧
        (∀ other ∈ front, ¬ other.IsFor left ∧ ¬ other.IsFor right) ∧
        remap.IsFor left ∧ remap.IsFor right ∧
        settings.remapPath left = remap.target ++ remap.rest left ∧
        settings.remapPath right = remap.target ++ remap.rest right := by
  have hboth {remap : Remap} (hleft : ¬ remap.moves left.toList = true) :
      ¬ remap.IsFor left ∧ ¬ remap.IsFor right := by
    rw [Remap.moves_iff] at hleft
    exact ⟨hleft, fun hright => hleft ((Remap.isFor_congr halike).2 hright)⟩
  cases hfind : settings.remaps.find? fun remap => remap.moves left.toList with
  | none =>
      have hnone (remap : Remap) (hmem : remap ∈ settings.remaps) :=
        hboth (List.find?_eq_none.1 hfind remap hmem)
      exact .inl ⟨remapPath_of_none fun remap hmem => (hnone remap hmem).1,
        remapPath_of_none fun remap hmem => (hnone remap hmem).2, hnone⟩
  | some remap =>
      obtain ⟨hmoves, front, back, hremaps, hbefore⟩ := List.find?_eq_some_iff_append.1 hfind
      have hleft := Remap.moves_iff.1 hmoves
      have hright := (Remap.isFor_congr halike).1 hleft
      have hfront (other : Remap) (hmem : other ∈ front) :=
        hboth (by simpa using hbefore other hmem)
      exact .inr ⟨front, remap, back, hremaps, hfront, hleft, hright,
        remapPath_of_first hremaps (fun other hmem => (hfront other hmem).1) hleft,
        remapPath_of_first hremaps (fun other hmem => (hfront other hmem).2) hright⟩

/-- A sharp s is compared as two letters and yet taken off as one. -/
theorem remapPath_of_alike_sharp :
    let settings : Settings := { remaps := [⟨"D:/", "/d/"⟩, ⟨"Stra\u00dfe\\", "/work/"⟩] }
    Alike "stra\u00dfe/Net\\A.cpp" "STRA\u1e9eE\\net/a.CPP" ∧
      settings.remapPath "stra\u00dfe/Net\\A.cpp" = "/work/Net/A.cpp" ∧
      settings.remapPath "STRA\u1e9eE\\net/a.CPP" = "/work/net/a.CPP" := by
  intro settings
  have halike : Alike "stra\u00dfe/Net\\A.cpp" "STRA\u1e9eE\\net/a.CPP" := by decide +kernel
  refine ⟨halike, ?_⟩
  obtain ⟨-, -, hnone⟩ | ⟨front, remap, back, hremaps, -, hfor, -, hleft, hright⟩ :=
    remapPath_of_alike settings halike
  · exact absurd (by decide +kernel) (hnone ⟨"Stra\u00dfe\\", "/work/"⟩ (by decide)).1
  · rw [hleft, hright]
    have hmem : remap ∈ settings.remaps := by
      rw [hremaps]
      exact List.mem_append_right front List.mem_cons_self
    obtain rfl | hmem := List.mem_cons.1 hmem
    · exact absurd hfor (by decide +kernel)
    · rw [List.mem_singleton.1 hmem]
      exact ⟨by decide +kernel, by decide +kernel⟩

end Settings

end FrameLens
