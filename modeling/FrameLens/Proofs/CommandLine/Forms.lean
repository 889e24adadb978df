import FrameLens.Proofs.CommandLine.Findings

/-!
# Commands that only read, in both forms

An invocation that is not asked to change anything leaves all files alone.  Whether it reports in
plain text or in an envelope, it finds the same and ends with the same code, but for a finding that
the stream does not take in plain text.
-/

namespace FrameLens

/-! ## What invocations find -/

namespace Invocation

section Findings

variable {m : Type → Type} [Monad m] [Host m]

/-- What an invocation finds that changes nothing. -/
def finding : Invocation → Run m Finding
  | .config _ => configFinding
  | .extract file line symbol maxLines => extractFinding file line symbol maxLines
  | .frames stack => framesFinding stack
  | .prompt stack mode count templateFile => promptFinding stack mode count templateFile
  | .source stack index maxLines => sourceFinding stack index maxLines
  | .template mode _ => templateFinding mode

end Findings

/-- The command of an invocation. -/
def command : Invocation → Command
  | .config _ => .config
  | .extract _ _ _ _ => .extract
  | .frames _ => .frames
  | .prompt _ _ _ _ => .prompt
  | .source _ _ _ => .source
  | .template _ _ => .template

/-- An invocation changes nothing that is kept. -/
def Reads : Invocation → Prop
  | .config changes => changes = { showsSettings := changes.showsSettings }
  | .template _ change => change = .keep
  | _ => True

/-- An invocation that changes nothing delivers what it finds. -/
theorem runInvocation_eq {invocation : Invocation} (hreads : invocation.Reads)
    (form : ReportForm) :
    (Program.runInvocation form invocation : Run (StateM Machine) Unit) =
      invocation.finding >>= Finding.deliver form := by
  cases invocation with
  | config changes =>
      rw [show changes = _ from hreads]
      exact runConfig_eq form _
  | extract file line symbol maxLines => exact runExtract_eq form file line symbol maxLines
  | frames stack => exact runFrames_eq form stack
  | prompt stack mode count templateFile => exact runPrompt_eq form stack mode count templateFile
  | source stack index maxLines => exact runSource_eq form stack index maxLines
  | template mode change =>
      obtain rfl : change = .keep := hreads
      exact runTemplate_eq form mode

/-- No search changes anything on the machine but the input that is left. -/
theorem onlyReads_finding (invocation : Invocation) : Run.OnlyReads invocation.finding := by
  cases invocation with
  | config changes => exact Run.LeavesAlone.configFinding.onlyReads
  | extract file line symbol maxLines =>
      exact (Run.LeavesAlone.extractFinding _ _ _ _).onlyReads
  | frames stack => exact Run.OnlyReads.framesFinding _
  | prompt stack mode count templateFile => exact Run.OnlyReads.promptFinding _ _ _ _
  | source stack index maxLines => exact Run.OnlyReads.sourceFinding _ _ _
  | template mode change => exact (Run.LeavesAlone.templateFinding _).onlyReads

/-- A finding comes with an outcome just where the command looks for a function. -/
theorem gives_finding (invocation : Invocation) :
    Run.Gives invocation.finding fun finding =>
      finding.outcome?.isSome = true ↔
        invocation.command = .extract ∨ invocation.command = .source := by
  cases invocation with
  | config changes =>
      refine .of_next fun _ => .of_next fun _ => .of_next fun _ => .of_next fun _ => ?_
      refine .of_next fun _ => .of_next fun _ => .of_next fun _ => .of_next fun _ => ?_
      exact .pure (by simp [command])
  | extract file line symbol maxLines =>
      exact .of_next fun _ => .of_next fun _ => .pure (by simp [command])
  | frames stack => exact .of_next fun _ => .pure (by simp [command])
  | prompt stack mode count templateFile =>
      exact .of_next fun _ => .of_next fun _ => .of_next fun _ => .of_next fun _ =>
        .pure (by simp [command])
  | source stack index maxLines =>
      exact .of_next fun _ => .of_next fun _ => .of_next fun _ => .of_next fun _ =>
        .pure (by simp [command])
  | template mode change =>
      exact .of_next fun _ => .of_next fun _ => .of_next fun _ => .pure (by simp [command])

end Invocation

/-! ## Exit codes -/

namespace Outcome

/-- A code says what an outcome was. -/
structure CodedBy (outcome : Outcome) (code : ExitCode) : Prop where
  located_iff : code.number = 0 ↔ outcome.isLocated = true
  nearby_iff : code.number = 6 ↔ outcome.status = "no_structural_match"
  missing_iff : code.number = 4 ↔
    outcome.status ∈ ["missing_location", "file_not_found", "unreadable"]

/-- The code that an outcome calls for. -/
def exitCode : Outcome → ExitCode
  | located _ _ _ => .success
  | nearby _ _ => .partialResult
  | _ => .sourceMissing

/-- A function or lines that are shown are no error. -/
theorem not_codedBy_error {outcome : Outcome} (hshows : outcome.showsCode = true) :
    ¬ outcome.CodedBy .error := by
  intro hcoded
  cases outcome with
  | located path span code => exact absurd (hcoded.located_iff.2 rfl) (by decide)
  | nearby path code => exact absurd (hcoded.nearby_iff.2 rfl) (by decide)
  | noLocation => cases hshows
  | fileMissing path => cases hshows
  | unreadable path reason => cases hshows

/-- The code that an outcome calls for is one that it is coded by. -/
theorem codedBy_exitCode (outcome : Outcome) : outcome.CodedBy outcome.exitCode := by
  cases outcome <;> constructor <;> simp [exitCode, ExitCode.number, isLocated, status]

end Outcome

namespace Finding

/-- A command that shows an outcome ends with the code of that outcome. -/
theorem exitCode_ending {finding : Finding} {outcome : Outcome} {missing : LooseText}
    (houtcome : finding.outcome? = some (outcome, missing)) :
    finding.ending.exitCode = outcome.exitCode := by
  rw [ending, houtcome]
  cases outcome <;> rfl

/-- No finding calls for the code with which a run breaks off. -/
theorem exitCode_ending_ne (finding : Finding) : finding.ending.exitCode ≠ .error := by
  cases houtcome : finding.outcome? with
  | none =>
      rw [ending, houtcome]
      exact nofun
  | some entry =>
      obtain ⟨outcome, missing⟩ := entry
      rw [exitCode_ending houtcome]
      cases outcome <;> exact nofun

end Finding

/-! ## Both forms -/

namespace Invocation

/-- What an invocation comes to find on a machine, unless it ends before. -/
def found (invocation : Invocation) (cache : ViewCache) (machine : Machine) :
    Except Ending Finding :=
  (Run.on invocation.finding { cache := cache } machine).1.1

/-- A run of an invocation to its end. -/
def transcript (invocation : Invocation) (form : ReportForm) (cache : ViewCache)
    (showsDetails : Bool) : StateM Machine (ViewCache × Transcript) :=
  Run.transcript (Program.runInvocation form invocation) cache showsDetails

variable {invocation : Invocation} {form : ReportForm} {cache : ViewCache} {machine : Machine}

/-- Only two of the commands come to an outcome. -/
theorem isSome_outcome?_of_found {finding : Finding}
    (hfound : invocation.found cache machine = .ok finding) :
    finding.outcome?.isSome = true ↔
      invocation.command = .extract ∨ invocation.command = .source :=
  invocation.gives_finding (Prod.ext (Prod.ext hfound rfl) rfl)

/-- Where an invocation ends that changes nothing, and what it leaves. -/
theorem ending_of_reads (form : ReportForm) (hreads : invocation.Reads)
    (hascii : form.stream.TakesAscii) (showsDetails : Bool) (cache : ViewCache)
    (machine : Machine) :
    let ran := (invocation.transcript form cache showsDetails).run machine
    let searched := Run.on invocation.finding { cache := cache } machine
    ran.2 = searched.2 ∧ ran.1.1 = searched.1.2.cache ∧
      match invocation.found cache machine with
      | .error ending => ran.1.2.ending = ending
      | .ok finding =>
        ran.1.2.ending = finding.ending ∧
            ¬ (form.inEnvelope = false ∧ finding.BreaksOff form.stream) ∨
          (∃ reason, ran.1.2.ending = .failed (.unprintable reason)) ∧ form.inEnvelope = false ∧
            finding.BreaksOff form.stream := by
  intro ran searched
  have hrun : ran = _ := Run.run_transcript _ cache showsDetails machine
  rw [runInvocation_eq hreads form] at hrun
  rcases hsearched : Run.on invocation.finding { cache := cache } machine with
    ⟨⟨result, reached⟩, after⟩
  cases result with
  | error ending =>
      rw [Run.on_bind_of_error hsearched] at hrun
      simp only [searched, hrun, hsearched, found, Run.endingOf, and_self]
  | ok finding =>
      obtain ⟨last, final, hdeliver, hcache, hlast⟩ := finding.on_deliver hascii reached after
      rw [Run.on_bind_of_ok hsearched, hdeliver] at hrun
      simp only [searched, hrun, hsearched, found]
      exact ⟨trivial, hcache, hlast⟩

/-- The code for a finding is the one that it calls for, unless the stream does not take it in plain
text. -/
theorem exitCode_of_found (hreads : invocation.Reads) (hascii : form.stream.TakesAscii)
    (showsDetails : Bool) {finding : Finding}
    (hfound : invocation.found cache machine = .ok finding) :
    ((invocation.transcript form cache showsDetails).run machine).1.2.ending.exitCode =
      if form.inEnvelope = false ∧ finding.BreaksOff form.stream then .error
      else finding.ending.exitCode := by
  obtain ⟨-, -, hending⟩ := ending_of_reads form hreads hascii showsDetails cache machine
  rw [hfound] at hending
  obtain ⟨hending, hwhole⟩ | ⟨⟨reason, hending⟩, hbreaks⟩ := hending
  · rw [hending, if_neg hwhole]
  · rw [hending, if_pos hbreaks]
    rfl

/-- The code that a run ends with says what its outcome was, unless the stream does not take it in
plain text. -/
theorem codedBy_of_found (hreads : invocation.Reads) (hascii : form.stream.TakesAscii)
    (showsDetails : Bool) {finding : Finding} {outcome : Outcome} {missing : LooseText}
    (hfound : invocation.found cache machine = .ok finding)
    (houtcome : finding.outcome? = some (outcome, missing)) :
    outcome.CodedBy
        ((invocation.transcript form cache showsDetails).run machine).1.2.ending.exitCode ↔
      ¬ (form.inEnvelope = false ∧ finding.BreaksOff form.stream) := by
  rw [exitCode_of_found hreads hascii showsDetails hfound]
  split
  · rename_i hbreaks
    have hshows : outcome.showsCode = true := by
      have hshown := hbreaks.2.1
      rwa [Finding.isShown, houtcome] at hshown
    exact iff_of_false (Outcome.not_codedBy_error hshows) (not_not.2 hbreaks)
  · rename_i hwhole
    exact iff_of_true (finding.exitCode_ending houtcome ▸ outcome.codedBy_exitCode) hwhole

/-- Both forms end with the same code unless the stream does not take the plain text. -/
theorem same_exitCode_iff (hreads : invocation.Reads) {stream : Stream}
    (hascii : stream.TakesAscii) (time other : String) (showsDetails : Bool) {finding : Finding}
    (hfound : invocation.found cache machine = .ok finding) :
    ((invocation.transcript ⟨false, time, stream⟩ cache showsDetails).run
        machine).1.2.ending.exitCode =
      ((invocation.transcript ⟨true, other, stream⟩ cache showsDetails).run
        machine).1.2.ending.exitCode ↔ ¬ finding.BreaksOff stream := by
  rw [exitCode_of_found hreads hascii showsDetails hfound,
    exitCode_of_found hreads hascii showsDetails hfound]
  by_cases hbreaks : finding.BreaksOff stream
  · simpa [hbreaks] using finding.exitCode_ending_ne.symm
  · simp [hbreaks]

/-- An invocation that is not asked for a change leaves all files alone, in plain text and in an
envelope. It ends with the same code in both forms unless the stream does not take what it found in
plain text, which ends it as an error. The code says what became of the search for a function. -/
theorem reading_in_both_forms (hreads : invocation.Reads) {stream : Stream}
    (hascii : stream.TakesAscii) (time other : String) (showsDetails : Bool) (cache : ViewCache)
    (machine : Machine) :
    let left := (invocation.transcript ⟨false, time, stream⟩ cache showsDetails).run machine
    let right := (invocation.transcript ⟨true, other, stream⟩ cache showsDetails).run machine
    (∃ rest, left.2 = { machine with input := rest } ∧ right.2 = { machine with input := rest }) ∧
      left.1.1 = right.1.1 ∧
      (left.1.2.ending.exitCode = right.1.2.ending.exitCode ↔
        ∀ finding, invocation.found cache machine = .ok finding → ¬ finding.BreaksOff stream) ∧
      ∀ finding, invocation.found cache machine = .ok finding →
        (finding.outcome?.isSome = true ↔
          invocation.command = .extract ∨ invocation.command = .source) ∧
        ∀ outcome missing, finding.outcome? = some (outcome, missing) →
          outcome.CodedBy right.1.2.ending.exitCode ∧
            (outcome.CodedBy left.1.2.ending.exitCode ↔ ¬ finding.BreaksOff stream) := by
  intro left right
  obtain ⟨hleft, hleftCache, hleftEnding⟩ :=
    ending_of_reads ⟨false, time, stream⟩ hreads hascii showsDetails cache machine
  obtain ⟨hright, hrightCache, hrightEnding⟩ :=
    ending_of_reads ⟨true, other, stream⟩ hreads hascii showsDetails cache machine
  obtain ⟨rest, hrest⟩ := invocation.onlyReads_finding { cache := cache } machine
  refine ⟨⟨rest, hleft.trans hrest, hright.trans hrest⟩, hleftCache.trans hrightCache.symm, ?_⟩
  -- Up to the finding both runs are the same one, so the forms can differ in printing it alone.
  cases hfound : invocation.found cache machine with
  | error ending =>
      rw [hfound] at hleftEnding hrightEnding
      have hsame : left.1.2.ending = right.1.2.ending := hleftEnding.trans hrightEnding.symm
      exact ⟨iff_of_true (congrArg Ending.exitCode hsame) nofun, nofun⟩
  | ok finding =>
      have hcodes : left.1.2.ending.exitCode = right.1.2.ending.exitCode ↔
          ¬ finding.BreaksOff stream :=
        same_exitCode_iff hreads hascii time other showsDetails hfound
      simp only [Except.ok.injEq, forall_eq', hcodes, true_and]
      refine ⟨isSome_outcome?_of_found hfound, fun outcome missing houtcome => ⟨?_, ?_⟩⟩
      · exact (codedBy_of_found hreads hascii showsDetails hfound houtcome).2
          fun hplain => Bool.false_ne_true hplain.1.symm
      · refine (codedBy_of_found hreads hascii showsDetails hfound houtcome).trans ?_
        rw [and_iff_right rfl]

/-- A machine with a source file, and with a marker in its configuration file. -/
def marked (marker source : String) : Machine where
  entries := [
    ([Utf8.encode "cfg".toList, Utf8.encode "config.json".toList],
      .file (Utf8.encode ("\x7b\"current_line_marker\": \"" ++ marker ++ "\"\x7d").toList)),
    ([Utf8.encode "cfg".toList], .directory),
    ([Utf8.encode "a.cpp".toList], .file (Utf8.encode source.toList))]
  environment := [("STACKDIGEST_CONFIG_DIR", "cfg")]

theorem exists_found (test : Finding → Bool)
    (hfound : (invocation.found cache machine).toOption.any test = true) :
    ∃ finding, invocation.found cache machine = .ok finding ∧ test finding = true := by
  cases hresult : invocation.found cache machine with
  | ok finding =>
      rw [hresult] at hfound
      exact ⟨finding, rfl, hfound⟩
  | error ending =>
      rw [hresult] at hfound
      cases hfound

/-- Lines around a place without a function end the run with one code in both forms. -/
theorem nearby_lines_in_both_forms :
    let invocation : Invocation := .extract "a.cpp" 3 "" none
    let machine := marked "->" "int x;\n"
    ((invocation.transcript ⟨false, "", .utf8⟩ {} false).run
        machine).1.2.ending.exitCode.number = 6 ∧
      ((invocation.transcript ⟨true, "now", .utf8⟩ {} false).run
        machine).1.2.ending.exitCode.number = 6 := by
  intro invocation machine
  have hsearch : (invocation.found {} machine).toOption.any fun finding =>
      !decide (finding.BreaksOff .utf8) && finding.outcome?.any fun entry =>
        entry.1.status == "no_structural_match" := by
    decide +kernel
  obtain ⟨finding, hfound, htest⟩ := exists_found _ hsearch
  obtain ⟨hwhole, houtcome⟩ := Bool.and_eq_true_iff.1 htest
  obtain ⟨⟨outcome, missing⟩, hentry, hstatus⟩ := (Option.any_eq_true ..).1 houtcome
  have hreads : invocation.Reads := trivial
  obtain ⟨-, -, -, hcodes⟩ :=
    reading_in_both_forms hreads Stream.takesAscii_utf8 "" "now" false {} machine
  obtain ⟨henveloped, hplain⟩ := (hcodes finding hfound).2 outcome missing hentry
  have hcoded := hplain.2 (by simpa using hwhole)
  exact ⟨hcoded.nearby_iff.2 (eq_of_beq hstatus), henveloped.nearby_iff.2 (eq_of_beq hstatus)⟩

/-- A marker that holds a half ends the run as an error in plain text alone. -/
theorem half_marker_ends_plain_text :
    let invocation : Invocation := .extract "a.cpp" 3 "" none
    let machine := marked "\\ud83d" "void f()\n\x7b\n    g();\n\x7d\n"
    ((invocation.transcript ⟨false, "", .utf8⟩ {} false).run
        machine).1.2.ending.exitCode.number = 1 ∧
      ((invocation.transcript ⟨true, "now", .utf8⟩ {} false).run
        machine).1.2.ending.exitCode.number = 0 := by
  intro invocation machine
  have hsearch : (invocation.found {} machine).toOption.any fun finding =>
      decide (finding.BreaksOff .utf8) && finding.ending == .finished .success := by
    decide +kernel
  obtain ⟨finding, hfound, htest⟩ := exists_found _ hsearch
  obtain ⟨hbreaks, hending⟩ := Bool.and_eq_true_iff.1 htest
  have hreads : invocation.Reads := trivial
  have hascii := Stream.takesAscii_utf8
  rw [exitCode_of_found hreads hascii false hfound, exitCode_of_found hreads hascii false hfound,
    eq_of_beq hending, if_pos ⟨rfl, of_decide_eq_true hbreaks⟩,
    if_neg fun hform => Bool.false_ne_true hform.1.symm]
  exact ⟨rfl, rfl⟩

end Invocation

end FrameLens
