import FrameLens.Proofs.CommandLine.Forms
import FrameLens.Proofs.Settings.Loading
import Mathlib.Data.List.Forall2
import Mathlib.Data.List.Nodup

/-!
# Remaps added by commands

The command that changes the settings adds the remaps that it is asked for behind those that are
kept.  One that is kept already is not added again, but the new ones are not compared with each
other.  So the remaps in the file stay free of duplicates just as long as no invocation asks twice
for one that is not there.
-/

namespace FrameLens

open Json (IsStorable IsExact)

/-! ## Remaps as they are asked for -/

namespace Remap

variable {spec : String} {remap : Remap}

/-- A text spells a remap: a source that is not blank, an equals sign, and a target. The blanks
around both are left out. -/
def Spelled (spec : String) (remap : Remap) : Prop :=
  ∃ front back, spec.toList = front ++ '=' :: back ∧ '=' ∉ front ∧ Text.trim front ≠ [] ∧
    remap = ⟨.ofChars (Text.trim front), .ofChars (Text.trim back)⟩

/-- A remap is cut at its first equals sign and trimmed on both sides. What is before the
sign must not be blank. -/
theorem parse_eq {front back : List Char} (hspec : spec.toList = front ++ '=' :: back)
    (hfree : '=' ∉ front) :
    parse (some spec) =
      if (Text.trim front).isEmpty then .error (.malformedRemap (some spec))
      else .ok ⟨.ofChars (Text.trim front), .ofChars (Text.trim back)⟩ := by
  have hbefore : Text.before '=' (front ++ '=' :: back) = front := by
    have hpassed : ∀ c ∈ front, (c != '=') = true := fun c hc => by
      simpa using ne_of_mem_of_not_mem hc hfree
    rw [Text.before, List.takeWhile_append_of_pos hpassed, List.takeWhile_cons_of_neg (by simp),
      List.append_nil]
  have hdrop : (front ++ '=' :: back).drop (front.length + 1) = back := by
    rw [List.drop_append, List.drop_eq_nil_of_le (Nat.le_succ _), Nat.add_sub_cancel_left]
    rfl
  have hcontains : (front ++ '=' :: back).contains '=' = true := by simp
  rw [parse, Option.getD_some, hspec, hbefore, hcontains, Bool.not_true, Bool.false_or, hdrop]

/-- A remap is read from just the texts that spell it. -/
theorem parse_eq_ok_iff : parse (some spec) = .ok remap ↔ Spelled spec remap := by
  constructor
  · intro hparse
    by_cases hmem : '=' ∈ spec.toList
    · obtain ⟨front, back, hspec, hfree⟩ := List.eq_append_cons_of_mem hmem
      rw [parse_eq hspec hfree] at hparse
      split at hparse
      · cases hparse
      · rename_i hsource
        refine ⟨front, back, hspec, hfree, ?_, (Except.ok.inj hparse).symm⟩
        rwa [List.isEmpty_iff] at hsource
    · have hcontains : spec.toList.contains '=' = false := by simpa using hmem
      rw [parse, Option.getD_some, hcontains] at hparse
      cases hparse
  · rintro ⟨front, back, hspec, hfree, hsource, rfl⟩
    rw [parse_eq hspec hfree, if_neg (by rwa [List.isEmpty_iff])]

/-- What remaps are spelled by comes back from the file as it was. -/
theorem isStorable_of_spelled {specs : List String} {remaps : List Remap}
    (hspelled : List.Forall₂ Spelled specs remaps) :
    ∀ remap ∈ remaps, IsStorable (Settings.remapJson remap) := by
  induction hspelled with
  | nil => exact List.forall_mem_nil _
  | cons hfirst hrest ih =>
      refine List.forall_mem_cons.2 ⟨?_, ih⟩
      obtain ⟨front, back, -, -, -, rfl⟩ := hfirst
      exact Settings.isStorable_remapJson (LooseText.isWhole_ofChars _)
        (LooseText.isWhole_ofChars _)

end Remap

namespace Invocation

/-- All specs are read if and only if each of them spells a remap. -/
theorem remaps_eq_ok_iff {specs : List String} {added : List Remap} :
    remaps specs = .ok added ↔ List.Forall₂ Remap.Spelled specs added := by
  have hremap (spec : String) (read : Remap) :
      remap spec = .ok read ↔ Remap.Spelled spec read := by
    rw [← Remap.parse_eq_ok_iff, remap]
    cases Remap.parse (some spec) with
    | ok other => simp
    | error failure => simp
  simp only [remaps, mapM_eq_ok_iff, hremap]

end Invocation

/-! ## Remaps in the file -/

namespace ConfigChanges

variable {current : Json.Fields} {before : List Remap}

@[simp]
theorem isRemap_remapJson (remap other : Remap) :
    isRemap remap (Settings.remapJson other) = decide (remap = other) :=
  rfl

/-- The remaps that are kept, and those of the new ones that are not among them. -/
def merged (clears : Bool) (added before : List Remap) : List Remap :=
  let kept := if clears then [] else before
  kept ++ added.filter (· ∉ kept)

/-- What is stored afterwards was stored and kept, or was asked for. -/
theorem mem_merged {clears : Bool} {added : List Remap} {remap : Remap} :
    remap ∈ merged clears added before ↔ (clears = false ∧ remap ∈ before) ∨ remap ∈ added := by
  cases clears with
  | true => simp [merged]
  | false =>
      by_cases hbefore : remap ∈ before
      · simp [merged, hbefore]
      · simp [merged, hbefore]

/-- No remap is stored twice if and only if none was before and each new one was asked for
once or was there already. -/
theorem nodup_merged_iff {clears : Bool} {added : List Remap} :
    (merged clears added before).Nodup ↔ (clears = true ∨ before.Nodup) ∧
      ∀ remap ∈ added, added.count remap = 1 ∨ clears = false ∧ remap ∈ before := by
  have hnew (kept : List Remap) : (added.filter (· ∉ kept)).Nodup ↔
      ∀ remap ∈ added, added.count remap = 1 ∨ remap ∈ kept := by
    rw [List.nodup_iff_count_eq_one]
    refine forall_congr' fun remap => ?_
    by_cases hkept : remap ∈ kept
    · simp [hkept]
    · simp [hkept]
  have hdisjoint (kept : List Remap) : kept.Disjoint (added.filter (· ∉ kept)) := by
    intro remap hkept hadded
    exact of_decide_eq_true (List.mem_filter.1 hadded).2 hkept
  rw [merged, List.nodup_append', and_iff_left (hdisjoint _), hnew]
  cases clears with
  | true => simp
  | false => simp

/-- Where there are no duplicates, remaps that are asked for once each bring none. -/
theorem nodup_merged {clears : Bool} {added : List Remap} (hbefore : before.Nodup)
    (hadded : added.Nodup) : (merged clears added before).Nodup :=
  nodup_merged_iff.2 ⟨.inr hbefore, fun _ hremap =>
    .inl (List.nodup_iff_count_eq_one.1 hadded _ hremap)⟩

/-- An entry of the stored list can be written again, whatever it is. -/
theorem isStorable_of_mem_storedRemaps {item : Json} (hcurrent : IsStorable (.object current))
    (hitem : item ∈ storedRemaps current) : IsStorable item := by
  unfold storedRemaps at hitem
  split at hitem
  · rename_i hget
    cases hcurrent.of_get? hget with
    | array hitems => exact hitems item hitem
  · cases hitem

/-- The remaps that are written are those kept and those that are new. -/
theorem remapsAfter_eq (changes : ConfigChanges)
    (hstored : storedRemaps current = before.map Settings.remapJson) :
    changes.remapsAfter current =
      (merged changes.clearsRemaps changes.remaps before).map Settings.remapJson := by
  have hany (kept : List Remap) (remap : Remap) :
      (kept.map Settings.remapJson).any (isRemap remap) = decide (remap ∈ kept) := by
    rw [List.any_map, Bool.eq_iff_iff, List.any_eq_true, decide_eq_true_eq]
    simp
  have hkept : (if changes.clearsRemaps then [] else storedRemaps current) =
      (if changes.clearsRemaps then [] else before).map Settings.remapJson := by
    rw [hstored]
    split
    · rfl
    · rfl
  rw [remapsAfter, merged, hkept]
  simp only [hany, List.map_append, decide_not]

end ConfigChanges

/-! ## Single invocations -/

namespace Run

theorem LeavesAlone.leaves {α : Type} {run : Run (StateM Machine) α} (hrun : LeavesAlone run)
    (machine : Machine) : Leaves run machine machine :=
  fun progress => hrun progress machine

theorem Leaves.bind {α β : Type} {first : Run (StateM Machine) α}
    {next : α → Run (StateM Machine) β} {machine after : Machine}
    (hfirst : Leaves first machine after) (hnext : ∀ value, LeavesAlone (next value)) :
    Leaves (first >>= next) machine after := by
  intro progress
  have hleaves := hfirst progress
  rw [on_bind]
  rcases hdone : on first progress machine with ⟨⟨result, reached⟩, between⟩
  rw [hdone] at hleaves
  cases result with
  | ok value => exact (hnext value reached between).trans hleaves
  | error ending => exact hleaves

end Run

namespace Config

open Run (Takes)

variable {machine : Machine} {directory : Path} {remaps : List Remap}

/-- The configuration is loaded, and these are its remaps. -/
def HoldsRemaps (machine : Machine) (directory : Path) (remaps : List Remap) : Prop :=
  ∃ fields, ((load directory : StateM Machine _).run machine).1.result = .ok fields ∧
    ConfigChanges.storedRemaps fields = remaps.map Settings.remapJson

end Config

/-- An invocation of `config` that asks for remaps, and maybe to clear those before. -/
structure RemapCall where
  form : ReportForm
  cache : ViewCache
  showsDetails : Bool
  specs : List String
  clears : Bool

namespace RemapCall

/-- The remaps that are asked for are read first; a malformed one ends the run. -/
def run (call : RemapCall) : Run (StateM Machine) Unit := do
  let remaps ← Invocation.checked (Invocation.remaps call.specs)
  Program.runInvocation call.form (.config { remaps := remaps, clearsRemaps := call.clears })

/-- The machine after an invocation. -/
def after (call : RemapCall) (machine : Machine) : Machine :=
  ((Run.transcript call.run call.cache call.showsDetails).run machine).2

/-- The remaps that an invocation asks for, if none of them is malformed. -/
def Asks (call : RemapCall) (added : List Remap) : Prop :=
  List.Forall₂ Remap.Spelled call.specs added

/-- A call asks for one list of remaps at most. -/
theorem Asks.unique {call : RemapCall} {added other : List Remap} (hadded : call.Asks added)
    (hother : call.Asks other) : added = other := by
  rw [Asks, ← Invocation.remaps_eq_ok_iff] at hadded hother
  exact Except.ok.inj (hadded.symm.trans hother)

variable {call : RemapCall} {machine between : Machine} {directory : Path}
  {added before : List Remap}

open Config (HasRoom HoldsRemaps)
open Run (Takes Leaves)

theorem after_of_leaves (hasks : call.Asks added)
    (hleaves : Leaves (runConfig call.form { remaps := added, clearsRemaps := call.clears }) machine
      between) :
    call.after machine = between := by
  have hread : Takes (Invocation.checked (Invocation.remaps call.specs)) machine added machine := by
    rw [Invocation.remaps_eq_ok_iff.2 hasks]
    exact .pure _ _
  rw [after, Run.run_transcript]
  exact hread.bind_leaves hleaves _

/-- An invocation with a malformed remap leaves the machine alone. -/
theorem after_of_malformed (hasks : ∀ added, ¬ call.Asks added) (machine : Machine) :
    call.after machine = machine := by
  rw [after, Run.run_transcript, run]
  cases hread : Invocation.remaps call.specs with
  | ok added => exact absurd (Invocation.remaps_eq_ok_iff.1 hread) (hasks added)
  | error misuse => rfl

/-- An invocation that is asked for nothing leaves the machine alone. -/
theorem after_of_nothing (hasks : call.Asks []) (hclears : call.clears = false)
    (machine : Machine) : call.after machine = machine := by
  refine after_of_leaves hasks (Run.LeavesAlone.leaves ?_ machine)
  have hrun : (runConfig call.form {} : Run (StateM Machine) Unit) =
      configFinding >>= Finding.deliver call.form := runConfig_eq call.form false
  rw [hclears, hrun]
  exact Run.LeavesAlone.configFinding.bind fun _ => Run.LeavesAlone.deliver _ _

/-- The field that an invocation sets. -/
def field (clears : Bool) (added before : List Remap) : LooseText × Json :=
  ("path_remaps", .array ((ConfigChanges.merged clears added before).map Settings.remapJson))

/-- The only field that is set is the one of the remaps. -/
theorem updates_eq {clears : Bool} {current : Json.Fields} (hasked : clears = true ∨ added ≠ [])
    (hstored : ConfigChanges.storedRemaps current = before.map Settings.remapJson) :
    ConfigChanges.updates { remaps := added, clearsRemaps := clears } current =
      [field clears added before] := by
  have hsets : (clears || !added.isEmpty) = true := by
    simpa [List.isEmpty_eq_false_iff] using hasked
  have hremaps := ConfigChanges.remapsAfter_eq { remaps := added, clearsRemaps := clears } hstored
  dsimp only at hremaps
  rw [ConfigChanges.updates]
  dsimp only
  rw [if_pos hsets, hremaps]
  rfl

theorem leaves_saveSettings (form : ReportForm) {updates : Json.Fields} {notes : List Note}
    {path : LooseText}
    (hwrite : (Config.write directory updates : StateM Machine _).run machine =
      (⟨notes, .ok path⟩, between)) :
    Leaves (saveSettings form directory updates) machine between := by
  have hwritten : (do
      let written ← Config.write directory updates
      return ⟨written.notes, written.result.mapError Failure.file⟩ :
        StateM Machine (Noted (Except Failure LooseText))).run machine =
      (⟨notes, .ok path⟩, between) := by
    rw [Machine.run_bind_of hwrite]
    rfl
  exact (Takes.perform hwritten).bind_leaves
    ((Run.LeavesAlone.print _ _ _ _ _).leaves between)

/-- The field of the remaps can be written and read back. -/
theorem isStorable_field (clears : Bool) (hadded : ∀ remap ∈ added,
    IsStorable (Settings.remapJson remap)) (hholds : HoldsRemaps machine directory before) :
    IsStorable (.object [field clears added before]) := by
  obtain ⟨fields, hload, hstored⟩ := hholds
  have hbefore : ∀ remap ∈ before, IsStorable (Settings.remapJson remap) := by
    intro remap hremap
    have hmem : Settings.remapJson remap ∈ ConfigChanges.storedRemaps fields :=
      hstored ▸ List.mem_map_of_mem hremap
    exact ConfigChanges.isStorable_of_mem_storedRemaps (Config.isStorable_of_load hload) hmem
  have hkey : LooseText.IsWhole "path_remaps" := LooseText.isWhole_ofChars _
  refine .object (List.nodup_singleton _) (List.forall_mem_singleton.2 hkey)
    (List.forall_mem_singleton.2 (.array (List.forall_mem_map.2 fun remap hremap => ?_)))
  obtain hkept | hnew := ConfigChanges.mem_merged.1 hremap
  · exact hbefore remap hkept.2
  · exact hadded remap hnew

/-- What an invocation that is asked for remaps leaves behind is what writing its field leaves. -/
theorem after_of_write {notes : List Note} {path : LooseText} (hasks : call.Asks added)
    (hasked : call.clears = true ∨ added ≠ [])
    (hdirectory : ((Config.directory : StateM Machine _).run machine).1 = .ok directory)
    (hholds : HoldsRemaps machine directory before)
    (hwrite : (Config.write directory [field call.clears added before] :
      StateM Machine _).run machine = (⟨notes, .ok path⟩, between)) :
    call.after machine = between := by
  obtain ⟨fields, hload, hstored⟩ := hholds
  obtain ⟨loadNotes, hrun⟩ := Config.run_load machine directory
  have hfound : (Config.directory : StateM Machine _).run machine = (.ok directory, machine) :=
    Prod.ext hdirectory (Machine.LeavesAlone.directory machine)
  have hplace : Takes configDirectory machine directory machine :=
    (Takes.host hfound).bind (.pure _ _)
  refine after_of_leaves hasks (hplace.bind_leaves ?_)
  have hloaded : (Config.load directory : StateM Machine _).run machine =
      (⟨loadNotes, .ok fields⟩, machine) := by
    rw [hrun] at hload ⊢
    dsimp only at hload
    rw [hload]
  refine (Takes.host hloaded).bind_leaves ((Takes.noted _ machine).bind_leaves ?_)
  refine (Takes.pure fields machine).bind_leaves ?_
  have hmarker : ¬ConfigChanges.hasBlankMarker
      { remaps := added, clearsRemaps := call.clears } = true := Bool.false_ne_true
  have hnonempty : ¬[field call.clears added before].isEmpty = true := Bool.false_ne_true
  dsimp only
  rw [updates_eq hasked hstored, if_neg hmarker, if_neg hnonempty]
  refine (leaves_saveSettings call.form hwrite).bind fun _ => ?_
  rw [Bool.false_and, if_neg Bool.false_ne_true]
  exact .pure _

/-- The remaps after an invocation. -/
def merged (call : RemapCall) (before : List Remap) : List Remap :=
  match Invocation.remaps call.specs with
  | .ok added => ConfigChanges.merged call.clears added before
  | .error _ => before

/-- A call with well-formed specs merges what it asks for. -/
theorem merged_of_asks (hasks : call.Asks added) (before : List Remap) :
    call.merged before = ConfigChanges.merged call.clears added before := by
  rw [merged, Invocation.remaps_eq_ok_iff.2 hasks]

/-- A call with a malformed spec leaves the remaps as they were. -/
theorem merged_of_malformed (hasks : ∀ added, ¬ call.Asks added) (before : List Remap) :
    call.merged before = before := by
  rw [merged]
  cases hread : Invocation.remaps call.specs with
  | ok added => exact absurd (Invocation.remaps_eq_ok_iff.1 hread) (hasks added)
  | error misuse => rfl

/-- One invocation adds the remaps that it asks for and are not kept. -/
theorem holdsRemaps_after (call : RemapCall)
    (hdirectory : ((Config.directory : StateM Machine _).run machine).1 = .ok directory)
    (hroom : HasRoom machine directory) (hholds : HoldsRemaps machine directory before) :
    HasRoom (call.after machine) directory ∧
      Machine.SameSurroundings machine (call.after machine) ∧
      HoldsRemaps (call.after machine) directory (call.merged before) := by
  by_cases hmalformed : ∀ added, ¬ call.Asks added
  · rw [after_of_malformed hmalformed, merged_of_malformed hmalformed]
    exact ⟨hroom, ⟨rfl, rfl⟩, hholds⟩
  obtain ⟨added, hasks⟩ := not_forall_not.1 hmalformed
  rw [merged_of_asks hasks]
  by_cases hasked : call.clears = true ∨ added ≠ []
  · have hstorable : IsStorable (.object [field call.clears added before]) :=
      isStorable_field call.clears (Remap.isStorable_of_spelled hasks) hholds
    have hexact : IsExact (.object [field call.clears added before]) := by
      have hremaps (remaps : List Remap) : IsExact (.array (remaps.map Settings.remapJson)) :=
        .array (List.forall_mem_map.2 fun remap _ => Settings.isExact_remapJson remap)
      exact .object (List.forall_mem_singleton.2 (hremaps _))
    obtain ⟨notes, after, loadNotes, final, hwrite, hsame, hload, hfinal⟩ :=
      Config.load_after_write hroom hstorable hexact
    rw [after_of_write hasks hasked hdirectory hholds hwrite]
    refine ⟨hroom.of_write hwrite, hsame, final, by rw [hload], ?_⟩
    have hget : Json.get? final "path_remaps" = some (.array _) :=
      hfinal (field call.clears added before) List.mem_cons_self
    rw [ConfigChanges.storedRemaps, hget]
  · rw [not_or, not_not, Bool.not_eq_true] at hasked
    obtain ⟨hclears, rfl⟩ := hasked
    rw [after_of_nothing hasks hclears machine, hclears]
    refine ⟨hroom, ⟨rfl, rfl⟩, ?_⟩
    rwa [ConfigChanges.merged, if_neg Bool.false_ne_true, List.filter_nil, List.append_nil]

/-! ## Series of invocations -/

/-- The machine after a series of invocations. -/
def runAll (machine : Machine) (calls : List RemapCall) : Machine :=
  calls.foldl (fun machine call => call.after machine) machine

/-- Each invocation of a series finds the same configuration directory. -/
def Finds (directory : Path) (machine : Machine) : List RemapCall → Prop
  | [] => True
  | call :: calls =>
    ((Config.directory : StateM Machine _).run machine).1 = .ok directory ∧
      Finds directory (call.after machine) calls

/-- The remaps after a series of invocations. -/
def mergedAll (calls : List RemapCall) (before : List Remap) : List Remap :=
  calls.foldl (fun before call => call.merged before) before

variable {calls history : List RemapCall} {next : RemapCall}

/-- After a series of calls the file holds what they come to one after another. -/
theorem holdsRemaps_runAll (hroom : HasRoom machine directory)
    (hholds : HoldsRemaps machine directory before) (hfinds : Finds directory machine calls) :
    HoldsRemaps (runAll machine calls) directory (mergedAll calls before) := by
  induction calls generalizing machine before with
  | nil => exact hholds
  | cons call calls ih =>
      obtain ⟨hdirectory, hfinds⟩ := hfinds
      obtain ⟨hroom, -, hholds⟩ := call.holdsRemaps_after hdirectory hroom hholds
      exact ih hroom hholds hfinds

/-- One call adds no remap twice unless it asks for it twice. -/
theorem nodup_merged (hbefore : before.Nodup) (hcall : ∀ added, call.Asks added → added.Nodup) :
    (call.merged before).Nodup := by
  by_cases hmalformed : ∀ added, ¬ call.Asks added
  · rwa [merged_of_malformed hmalformed]
  · obtain ⟨added, hasks⟩ := not_forall_not.1 hmalformed
    rw [merged_of_asks hasks]
    exact ConfigChanges.nodup_merged hbefore (hcall added hasks)

/-- A series of calls stores no remap twice unless one of them asks for it twice. -/
theorem nodup_mergedAll (hbefore : before.Nodup)
    (hcalls : ∀ call ∈ calls, ∀ added, call.Asks added → added.Nodup) :
    (mergedAll calls before).Nodup := by
  induction calls generalizing before with
  | nil => exact hbefore
  | cons call calls ih =>
      rw [List.forall_mem_cons] at hcalls
      exact ih (nodup_merged hbefore hcalls.1) hcalls.2

theorem Finds.of_append {later : List RemapCall}
    (hfinds : Finds directory machine (calls ++ later)) :
    Finds directory machine calls := by
  induction calls generalizing machine with
  | nil => exact trivial
  | cons call calls ih => exact ⟨hfinds.1, ih hfinds.2⟩

/-- A variable that names the directory does so for every invocation. -/
theorem finds_of_variable {name : LooseText}
    (hvariable : machine.environment.lookup Config.directoryVariable = some name)
    (hname : name.isEmpty = false) (hroom : HasRoom machine (Path.ofText name))
    (hholds : HoldsRemaps machine (Path.ofText name) before) (calls : List RemapCall) :
    Finds (Path.ofText name) machine calls := by
  induction calls generalizing machine before with
  | nil => exact trivial
  | cons call calls ih =>
      have hdirectory : ((Config.directory : StateM Machine _).run machine).1 =
          .ok (Path.ofText name) := by
        rw [Config.directory, Machine.run_bind_of (Machine.run_environment? machine _), hvariable]
        dsimp only
        rw [hname, if_neg Bool.false_ne_true]
        rfl
      obtain ⟨hroom, hsame, hholds⟩ := call.holdsRemaps_after hdirectory hroom hholds
      exact ⟨hdirectory, ih (by rw [hsame.environment, hvariable]) hroom hholds⟩

/-- After each invocation the stored remaps are those from before, in their order, unless they were
cleared, and then those that were asked for. None of them is there twice if and only if none was
before and each one that was asked for twice in this invocation was kept. A malformed one leaves
them as they were. -/
theorem remaps_after_call (hroom : HasRoom machine directory)
    (hholds : HoldsRemaps machine directory [])
    (hfinds : Finds directory machine (history ++ [next])) :
    ∃ before after, HoldsRemaps (runAll machine history) directory before ∧
      HoldsRemaps (runAll machine (history ++ [next])) directory after ∧
      ((∀ added, ¬ next.Asks added) → after = before) ∧
      (∀ added, next.Asks added →
        (next.clears = false → before <+: after) ∧
        (∀ remap, remap ∈ after ↔ next.clears = false ∧ remap ∈ before ∨ remap ∈ added) ∧
        (after.Nodup ↔ (next.clears = true ∨ before.Nodup) ∧
          ∀ remap ∈ added, added.count remap = 1 ∨ next.clears = false ∧ remap ∈ before)) ∧
      ((∀ call ∈ history ++ [next], ∀ added, call.Asks added → added.Nodup) → after.Nodup) := by
  have hafter := holdsRemaps_runAll hroom hholds hfinds
  have hlast : mergedAll (history ++ [next]) [] = next.merged (mergedAll history []) := by
    rw [mergedAll, mergedAll, List.foldl_append, List.foldl_cons, List.foldl_nil]
  refine ⟨_, _, holdsRemaps_runAll hroom hholds hfinds.of_append, hafter, fun hmalformed => ?_,
    fun added hasks => ?_, nodup_mergedAll List.nodup_nil⟩
  · rw [hlast, merged_of_malformed hmalformed]
  · rw [hlast, merged_of_asks hasks]
    refine ⟨fun hclears => ?_, fun remap => ConfigChanges.mem_merged,
      ConfigChanges.nodup_merged_iff⟩
    rw [ConfigChanges.merged, hclears]
    exact List.prefix_append _ _

/-- A machine without files, on which a variable names the configuration directory. -/
def namedMachine : Machine where
  environment := [("STACKDIGEST_CONFIG_DIR", "/c")]

theorem hasRoom_namedMachine : HasRoom namedMachine (Path.ofText "/c") := by
  have hmake : (Directories.make (Path.ofText "/c") : StateM Machine _).run namedMachine =
      (.ok (), { namedMachine with entries := [([[0x63]], .directory)] }) :=
    Prod.ext (by decide +kernel) (by decide +kernel)
  have hwritten : Machine.writeFile { namedMachine with entries := [([[0x63]], .directory)] }
      (Config.filePath (Path.ofText "/c")) [] = .ok { namedMachine with entries := [
        ([[0x63], Utf8.encode "config.json".toList], .file []), ([[0x63]], .directory)] } := by
    decide +kernel
  exact ⟨_, hmake, rfl, [], _, hwritten⟩

theorem holdsRemaps_namedMachine : HoldsRemaps namedMachine (Path.ofText "/c") [] :=
  ⟨[], Config.load_eq_ok_iff.2 ⟨by decide +kernel, List.isEmpty_iff.1 (by decide +kernel)⟩, rfl⟩

/-- An invocation that asks for remaps in plain text. -/
def ofSpecs (specs : List String) : RemapCall where
  form := ⟨false, "", .utf8⟩
  cache := {}
  showsDetails := false
  specs := specs
  clears := false

theorem spelled_a_b : Remap.Spelled "a=b" ⟨"a", "b"⟩ :=
  Remap.parse_eq_ok_iff.1 (by decide +kernel)

theorem spelled_c_d : Remap.Spelled " c = d" ⟨"c", "d"⟩ :=
  Remap.parse_eq_ok_iff.1 (by decide +kernel)

/-- A remap that is there already is asked for again, with a new one. -/
theorem remaps_after_second_call :
    let first := ofSpecs ["a=b"]
    let second := ofSpecs ["a=b", " c = d"]
    ∃ before after, HoldsRemaps (runAll namedMachine [first]) (Path.ofText "/c") before ∧
      HoldsRemaps (runAll namedMachine [first, second]) (Path.ofText "/c") after ∧
      before <+: after ∧ ⟨"a", "b"⟩ ∈ after ∧ ⟨"c", "d"⟩ ∈ after ∧ after.Nodup := by
  intro first second
  have hfinds : Finds (Path.ofText "/c") namedMachine ([first] ++ [second]) :=
    finds_of_variable (by decide +kernel) (by decide +kernel) hasRoom_namedMachine
      holdsRemaps_namedMachine _
  have hfirst : first.Asks [⟨"a", "b"⟩] := .cons spelled_a_b .nil
  have hsecond : second.Asks [⟨"a", "b"⟩, ⟨"c", "d"⟩] := .cons spelled_a_b (.cons spelled_c_d .nil)
  obtain ⟨before, after, hbefore, hafter, -, hasked, hnodup⟩ :=
    remaps_after_call hasRoom_namedMachine holdsRemaps_namedMachine hfinds
  obtain ⟨hkept, hmem, -⟩ := hasked _ hsecond
  refine ⟨before, after, hbefore, hafter, hkept rfl, (hmem _).2 (.inr List.mem_cons_self),
    (hmem _).2 (.inr (by simp)), hnodup ?_⟩
  refine List.forall_mem_cons.2 ⟨fun added hasks => ?_,
    List.forall_mem_singleton.2 fun added hasks => ?_⟩
  · rw [hasks.unique hfirst]
    exact List.nodup_singleton _
  · rw [hasks.unique hsecond]
    show ([⟨"a", "b"⟩, ⟨"c", "d"⟩] : List Remap).Nodup
    decide +kernel

/-- A new remap that is asked for twice at once is stored twice. -/
theorem remap_stored_twice :
    let call := ofSpecs ["a=b", "a=b"]
    call.Asks [⟨"a", "b"⟩, ⟨"a", "b"⟩] ∧ HoldsRemaps namedMachine (Path.ofText "/c") [] ∧
      HoldsRemaps (call.after namedMachine) (Path.ofText "/c") [⟨"a", "b"⟩, ⟨"a", "b"⟩] := by
  intro call
  have hasks : call.Asks [⟨"a", "b"⟩, ⟨"a", "b"⟩] := .cons spelled_a_b (.cons spelled_a_b .nil)
  have hfinds : Finds (Path.ofText "/c") namedMachine [call] :=
    finds_of_variable (by decide +kernel) (by decide +kernel) hasRoom_namedMachine
      holdsRemaps_namedMachine _
  have hafter := holdsRemaps_runAll hasRoom_namedMachine holdsRemaps_namedMachine hfinds
  have hmerged : mergedAll [call] [] = [⟨"a", "b"⟩, ⟨"a", "b"⟩] := merged_of_asks hasks []
  exact ⟨hasks, holdsRemaps_namedMachine, hmerged ▸ hafter⟩

end RemapCall

end FrameLens
