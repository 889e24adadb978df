import FrameLens.CommandLine.Program
import FrameLens.Proofs.CommandLine.Runs

/-!
# Findings

A command that only reads first finds out all that it will report, whatever form was asked for.
Then it prints that in one form or the other, and ends by what it found.
-/

namespace FrameLens

variable {m : Type → Type} [Monad m] [Host m]

/-- What a command has found: the report in both forms and, where a function was looked for, the
outcome with the message if there is nothing to show. -/
structure Finding where
  command : Command
  summary : Json.Fields
  payload : Json.Fields
  texts : List LooseText
  outcome? : Option (Outcome × LooseText) := none

namespace Finding

/-- The ending that a finding calls for. -/
def ending (finding : Finding) : Ending :=
  match finding.outcome? with
  | none => .finished .success
  | some (.located _ _ _, _) => .finished .success
  | some (.nearby _ _, _) => .finished .partialResult
  | some (_, missing) => .failed (.reported (.sourceMissing (some missing)))

/-- Prints a finding in a form. -/
def print (form : ReportForm) (finding : Finding) : Run m Unit :=
  form.print finding.command finding.summary finding.payload finding.texts

/-- Reports a finding in a form. -/
def deliver (form : ReportForm) (finding : Finding) : Run m Unit :=
  match finding.outcome? with
  | none => finding.print form
  | some (outcome, missing) => do
    if !outcome.showsCode then Run.problem (.sourceMissing (some missing))
    finding.print form
    finishOutcome outcome

end Finding

/-! ## The commands -/

def framesFinding (stack : TextSource) : Run m Finding := do
  let (_, frames) ← readStack stack
  let located := frames.countP Frame.hasLocation
  let verdict :=
    shownCount frames.length ++ " frame(s), " ++ shownCount located ++ " with source location"
  return {
    command := .frames
    summary :=
      [("verdict", .string verdict), ("frames", .int frames.length),
        ("with_location", .int located)]
    payload := [("frames", .array (frames.map fun frame => .object frame.toFields))]
    texts := [lineOf (Report.titled (verdict ++ ":")
      (frames.map fun frame => LooseText.ofString frame.describe) 0)] }

def sourceFinding (stack : TextSource) (index : Int) (maxLines : Option Int) : Run m Finding := do
  let (_, frames) ← readStack stack
  let frame ← pickFrame frames index
  let settings := withMaxLines (← currentSettings) maxLines
  let outcome ← Run.withViews fun cache => FrameSource.ofFrame cache settings frame
  return {
    command := .source
    summary := outcomeSummary outcome
    payload := ("frame", .object frame.toFields) :: outcome.toFields
    texts := [LooseText.ofString frame.describe, outcome.message,
      Report.fenced outcome.code "cpp"].map lineOf
    outcome? := some (outcome, frame.describe ++ ": " ++ outcome.message) }

def extractFinding (file : String) (line : Int) (symbol : String) (maxLines : Option Int) :
    Run m Finding := do
  let settings := withMaxLines (← currentSettings) maxLines
  let outcome ← Run.withViews fun cache =>
    FrameSource.extract cache settings (some file) (some line) symbol
  return {
    command := .extract
    summary := outcomeSummary outcome
    payload := outcome.toFields
    texts := [outcome.path?.getD [] ++ ": " ++ outcome.message, outcome.code].map lineOf
    outcome? := some (outcome, outcome.message) }

def promptFinding (stack : TextSource) (mode : Mode) (count : Option Int)
    (templateFile : Option String) : Run m Finding := do
  let (text, frames) ← readStack stack
  let settings ← currentSettings
  let template ← promptTemplate mode templateFile
  let (prompt, collected) ← Run.withViews fun cache =>
    Prompt.assemble cache settings template text frames count
  let found := FrameSource.locatedCount collected
  let verdict :=
    shownCount found ++ "/" ++ shownCount collected.length ++ " frame source(s) located"
  return {
    command := .prompt
    summary :=
      [("verdict", .string verdict), ("mode", .string mode.name),
        ("frames_total", .int frames.length), ("frames_annotated", .int collected.length),
        ("sources_found", .int found)]
    payload :=
      [("prompt", .string prompt),
        ("frames", .array (collected.map fun (frame, outcome) => promptFrame frame outcome))]
    texts := [prompt] }

def templateFinding (mode : Mode) : Run m Finding := do
  let store ← currentStore
  let (store, template) ← onStore (store.get mode)
  let (store, isDefault) ← onStore (store.isDefault mode)
  return {
    command := .template
    summary :=
      [("verdict", .string "shown"), ("mode", .string mode.name), ("is_default", .bool isDefault)]
    payload :=
      [("mode", .string mode.name), ("template", .string template),
        ("path", .string store.path.toText)]
    texts := [lineOf template] }

def settingsFinding (directory : Path) : Run m Finding := do
  let settings ← Run.perform (Config.loadSettings directory)
  let path := Config.filePath directory
  let isThere ← Run.valid ((← Run.host (Host.pathExists path)).mapError Failure.file)
  let table ← Run.valid ((settingsTable settings).mapError Failure.outOfRange)
  return {
    command := .config
    summary := [("verdict", .string "current"), ("exists", .bool isThere)]
    payload := [("config_path", .string path), ("settings", .object settings.toFields)]
    texts := [LooseText.ofString "Config: " ++ path, table, remapList settings].map lineOf }

def configFinding : Run m Finding := do
  let directory ← configDirectory
  let _ ← Run.valid ((← Run.noted (← Run.host (Config.load directory))).mapError Failure.file)
  settingsFinding directory

/-- A mode is known by its name. -/
theorem Mode.check_name (mode : Mode) : Mode.check (some mode.name) = .ok mode := by
  cases mode <;> decide +kernel

omit [Host m] in
@[simp]
theorem TemplateStore.withMode_name {α : Type} (store : TemplateStore) (mode : Mode)
    (operation : Mode → m (Noted (TemplateStore × Except Failure α))) :
    store.withMode mode.name operation = operation mode := by
  rw [withMode, Mode.check_name]

section Delivery

variable [LawfulMonad m]

/-- Listing frames is finding them and then delivering what was found. -/
theorem runFrames_eq (form : ReportForm) (stack : TextSource) :
    (runFrames form stack : Run m Unit) = framesFinding stack >>= Finding.deliver form := by
  simp only [runFrames, framesFinding, bind_assoc, pure_bind, Finding.deliver, Finding.print]

theorem runSource_eq (form : ReportForm) (stack : TextSource) (index : Int)
    (maxLines : Option Int) :
    (runSource form stack index maxLines : Run m Unit) =
      sourceFinding stack index maxLines >>= Finding.deliver form := by
  simp only [runSource, sourceFinding, bind_assoc, pure_bind, Finding.deliver, Finding.print]

theorem runExtract_eq (form : ReportForm) (file : String) (line : Int) (symbol : String)
    (maxLines : Option Int) :
    (runExtract form file line symbol maxLines : Run m Unit) =
      extractFinding file line symbol maxLines >>= Finding.deliver form := by
  simp only [runExtract, extractFinding, bind_assoc, pure_bind, Finding.deliver, Finding.print]

theorem runPrompt_eq (form : ReportForm) (stack : TextSource) (mode : Mode) (count : Option Int)
    (templateFile : Option String) :
    (runPrompt form stack mode count templateFile : Run m Unit) =
      promptFinding stack mode count templateFile >>= Finding.deliver form := by
  simp only [runPrompt, promptFinding, bind_assoc, pure_bind, Finding.deliver, Finding.print]

theorem runTemplate_eq (form : ReportForm) (mode : Mode) :
    (runTemplate form mode .keep : Run m Unit) = templateFinding mode >>= Finding.deliver form := by
  simp only [runTemplate, templateFinding, changeTemplate, TemplateStore.withMode_name, bind_assoc,
    pure_bind, Finding.deliver, Finding.print, if_true]

theorem showSettings_eq (form : ReportForm) (directory : Path) :
    (showSettings form directory : Run m Unit) =
      settingsFinding directory >>= Finding.deliver form := by
  simp only [showSettings, settingsFinding, bind_assoc, pure_bind, Finding.deliver, Finding.print]

theorem runConfig_eq (form : ReportForm) (shows : Bool) :
    (runConfig form { showsSettings := shows } : Run m Unit) =
      configFinding >>= Finding.deliver form := by
  simp only [runConfig, configFinding, bind_assoc, ← showSettings_eq]
  rfl

end Delivery

/-! ## Findings are made by reading -/

namespace Run.LeavesAlone

theorem configDirectory : LeavesAlone configDirectory :=
  (host Machine.LeavesAlone.directory).bind fun _ => valid _

theorem settingsFinding (directory : Path) : LeavesAlone (settingsFinding directory) := by
  refine (perform (Machine.LeavesAlone.loadSettings directory)).bind fun _ => ?_
  refine (host (Machine.LeavesAlone.pathExists _)).bind fun _ => ?_
  exact (valid _).bind fun _ => (valid _).bind fun _ => pure _

theorem configFinding : LeavesAlone configFinding := by
  refine configDirectory.bind fun directory => ?_
  refine (host (Machine.LeavesAlone.load directory)).bind fun _ => (noted _).bind fun _ => ?_
  exact (valid _).bind fun _ => settingsFinding directory

theorem currentSettings : LeavesAlone currentSettings :=
  perform Machine.LeavesAlone.loadCurrent

theorem currentStore : LeavesAlone currentStore :=
  (host (Machine.LeavesAlone.createStore none)).bind fun _ => valid _

theorem onStore {α : Type} {operation : StateM Machine (Noted (TemplateStore × Except Failure α))}
    (hoperation : Machine.LeavesAlone operation) : LeavesAlone (onStore operation) :=
  (host hoperation).bind fun _ => (noted _).bind fun _ => (valid _).bind fun _ => pure _

theorem templateFinding (mode : Mode) : LeavesAlone (templateFinding mode) := by
  refine currentStore.bind fun store => ?_
  refine (onStore (Machine.LeavesAlone.getTemplate store mode)).bind fun _ => ?_
  exact (onStore (Machine.LeavesAlone.isDefaultTemplate _ _)).bind fun _ => pure _

theorem extractFinding (file : String) (line : Int) (symbol : String) (maxLines : Option Int) :
    LeavesAlone (extractFinding file line symbol maxLines) := by
  refine currentSettings.bind fun _ => ?_
  exact (withViews fun _ => Machine.LeavesAlone.extract _ _ _ _ _).bind fun _ => pure _

/-- A frame is picked without a look at the machine. -/
theorem pickFrame (frames : List Frame) (index : Int) : LeavesAlone (pickFrame frames index) := by
  rw [FrameLens.pickFrame]
  split
  · exact pure _
  · exact throw _

end Run.LeavesAlone

namespace Run.OnlyReads

/-- A call stack may be read from the input, which is used up then. -/
theorem readStack (stack : TextSource) : OnlyReads (readStack stack) := by
  refine (host (Machine.OnlyReads.readLenient stack)).bind fun text => ?_
  refine LeavesAlone.onlyReads ((LeavesAlone.valid _).bind fun text => ?_)
  refine (LeavesAlone.noted _).bind fun frames => ?_
  split
  · exact (LeavesAlone.throw _).bind fun _ => .pure _
  · exact .pure _

/-- A template may be read from the input, which is used up then. -/
theorem promptTemplate (mode : Mode) (templateFile : Option String) :
    OnlyReads (promptTemplate mode templateFile) := by
  cases templateFile with
  | some path =>
      exact (host (Machine.OnlyReads.read _)).bind fun _ =>
        ((LeavesAlone.valid _).bind fun _ => .pure _).onlyReads
  | none =>
      refine LeavesAlone.onlyReads (LeavesAlone.currentStore.bind fun store => ?_)
      rw [TemplateStore.withMode_name]
      exact (LeavesAlone.onStore (Machine.LeavesAlone.getTemplate store mode)).bind fun _ =>
        .pure _

theorem framesFinding (stack : TextSource) : OnlyReads (framesFinding stack) :=
  (readStack stack).bind fun _ => pure _

theorem sourceFinding (stack : TextSource) (index : Int) (maxLines : Option Int) :
    OnlyReads (sourceFinding stack index maxLines) := by
  refine (readStack stack).bind fun _ => LeavesAlone.onlyReads ?_
  refine (LeavesAlone.pickFrame _ _).bind fun _ => LeavesAlone.currentSettings.bind fun _ => ?_
  exact (LeavesAlone.withViews fun _ => Machine.LeavesAlone.extract _ _ _ _ _).bind fun _ =>
    .pure _

theorem promptFinding (stack : TextSource) (mode : Mode) (count : Option Int)
    (templateFile : Option String) :
    OnlyReads (promptFinding stack mode count templateFile) := by
  refine (readStack stack).bind fun _ => LeavesAlone.currentSettings.onlyReads.bind fun _ => ?_
  refine (promptTemplate _ _).bind fun _ => LeavesAlone.onlyReads ?_
  exact (LeavesAlone.withViews fun _ => Machine.LeavesAlone.assemble _ _ _ _ _ _).bind fun _ =>
    .pure _

end Run.OnlyReads

/-! ## Delivering findings -/

namespace Finding

/-- Whether a finding is printed. -/
def isShown (finding : Finding) : Bool :=
  finding.outcome?.all fun entry => entry.1.showsCode

/-- A finding is to be printed, and the stream does not take all of it in plain text. -/
def BreaksOff (finding : Finding) (stream : Stream) : Prop :=
  finding.isShown = true ∧ ∃ text ∈ finding.texts, ¬ stream.Takes text

instance (finding : Finding) (stream : Stream) : Decidable (finding.BreaksOff stream) :=
  inferInstanceAs (Decidable (_ ∧ _))

variable {progress : Progress} {machine : Machine} {form : ReportForm}

/-- An envelope is ASCII, whatever was found. -/
theorem takes_envelope (hascii : form.stream.TakesAscii) (value : Json) :
    form.stream.Takes (lineOf (Envelope.text value)) := by
  have htext : Json.IsAscii (value.sorted.write ++ ['\n']) :=
    Json.isAscii_append_iff.2 ⟨Json.isAscii_writeAt 0 value.sorted, by simp⟩
  have hline : lineOf (Envelope.text value) =
      LooseText.ofChars (value.sorted.write ++ ['\n']) := by
    simp [lineOf, Envelope.text, LooseText.ofString, LooseText.ofChars]
  rw [hline]
  exact hascii _ htext

/-- Printing a finding goes well unless it is in plain text that the stream does not take.
-/
theorem on_print (hascii : form.stream.TakesAscii) (finding : Finding) (progress : Progress)
    (machine : Machine) :
    ∃ result reached, Run.on (finding.print form) progress machine = ((result, reached), machine) ∧
      reached.cache = progress.cache ∧
      (result = .ok () ∧
          ¬ (form.inEnvelope = false ∧ ∃ text ∈ finding.texts, ¬ form.stream.Takes text) ∨
        (∃ reason, result = .error (.failed (.unprintable reason))) ∧ form.inEnvelope = false ∧
          ∃ text ∈ finding.texts, ¬ form.stream.Takes text) := by
  cases hform : form.inEnvelope with
  | true =>
      have htakes := takes_envelope hascii (.object (Envelope.fields (.string finding.command.name)
        (.object finding.summary) finding.payload form.timestamp))
      obtain ⟨reached, hprint, hcache⟩ := Run.on_print_of_takes htakes progress machine
      refine ⟨.ok (), reached, ?_, hcache, .inl ⟨rfl, by simp⟩⟩
      rw [print, ReportForm.print, ReportForm.texts, hform, if_pos rfl]
      exact Run.on_bind_of_ok hprint
  | false =>
      obtain ⟨result, reached, hprint, hcache, hresult⟩ :=
        Run.on_printAll form.stream finding.texts progress machine
      refine ⟨result, reached, ?_, hcache, ?_⟩
      · rw [print, ReportForm.print, ReportForm.texts, hform, if_neg Bool.false_ne_true]
        exact hprint
      · obtain ⟨htakes, rfl⟩ | ⟨hrefuses, hfailed⟩ := hresult
        · exact .inl ⟨rfl, by simpa using htakes⟩
        · exact .inr ⟨hfailed, rfl, hrefuses⟩

/-- A finding that is not shown ends the run before anything is printed. -/
theorem on_deliver_of_hidden {finding : Finding} (hhidden : finding.isShown = false)
    (form : ReportForm) (progress : Progress) (machine : Machine) :
    Run.on (deliver form finding) progress machine =
      ((.error finding.ending, progress), machine) := by
  obtain ⟨command, summary, payload, texts, outcome?⟩ := finding
  cases outcome? with
  | none => cases hhidden
  | some entry =>
      obtain ⟨outcome, missing⟩ := entry
      cases outcome with
      | located path span code => cases hhidden
      | nearby path code => cases hhidden
      | noLocation => rfl
      | fileMissing path => rfl
      | unreadable path reason => rfl

/-- After a finding was printed, the run ends by what was found. -/
theorem on_deliver_of_shown {finding : Finding} (hshown : finding.isShown = true)
    {result : Except Ending Unit} {reached : Progress} {after : Machine}
    (hprint : Run.on (finding.print form) progress machine = ((result, reached), after)) :
    ∃ last, Run.on (deliver form finding) progress machine = ((last, reached), after) ∧
      Run.endingOf last = match result with
        | .ok () => finding.ending
        | .error ending => ending := by
  obtain ⟨command, summary, payload, texts, outcome?⟩ := finding
  cases outcome? with
  | none =>
      refine ⟨result, hprint, ?_⟩
      cases result with
      | ok _ => rfl
      | error ending => rfl
  | some entry =>
      obtain ⟨outcome, missing⟩ := entry
      -- What is shown passes the check for a missing source: the printing and the code are left.
      have hdeliver : deliver form ⟨command, summary, payload, texts, some (outcome, missing)⟩ =
          (print form ⟨command, summary, payload, texts, some (outcome, missing)⟩ >>=
            fun _ => finishOutcome outcome : Run (StateM Machine) Unit) := by
        cases outcome with
        | located path span code => rfl
        | nearby path code => rfl
        | noLocation => cases hshown
        | fileMissing path => cases hshown
        | unreadable path reason => cases hshown
      rw [hdeliver]
      cases result with
      | error ending => exact ⟨_, Run.on_bind_of_error hprint, rfl⟩
      | ok _ =>
          rw [Run.on_bind_of_ok hprint]
          cases outcome with
          | located path span code => exact ⟨_, rfl, rfl⟩
          | nearby path code => exact ⟨_, rfl, rfl⟩
          | noLocation => cases hshown
          | fileMissing path => cases hshown
          | unreadable path reason => cases hshown

/-- A finding is delivered in both forms alike, unless the stream does not take it in plain text. -/
theorem on_deliver (hascii : form.stream.TakesAscii) (finding : Finding) (progress : Progress)
    (machine : Machine) :
    ∃ result reached,
      Run.on (deliver form finding) progress machine = ((result, reached), machine) ∧
      reached.cache = progress.cache ∧
      (Run.endingOf result = finding.ending ∧
          ¬ (form.inEnvelope = false ∧ finding.BreaksOff form.stream) ∨
        (∃ reason, Run.endingOf result = .failed (.unprintable reason)) ∧
          form.inEnvelope = false ∧ finding.BreaksOff form.stream) := by
  cases hshown : finding.isShown with
  | false =>
      refine ⟨_, _, on_deliver_of_hidden hshown form progress machine, rfl, .inl ⟨rfl, ?_⟩⟩
      rintro ⟨-, hbreaks, -⟩
      exact Bool.false_ne_true (hshown.symm.trans hbreaks)
  | true =>
      obtain ⟨result, reached, hprint, hcache, hresult⟩ :=
        on_print hascii finding progress machine
      obtain ⟨last, hdeliver, hlast⟩ := on_deliver_of_shown hshown hprint
      refine ⟨last, reached, hdeliver, hcache, ?_⟩
      obtain ⟨rfl, htakes⟩ | ⟨⟨reason, rfl⟩, hplain, hrefuses⟩ := hresult
      · exact .inl ⟨hlast, fun hbreaks => htakes ⟨hbreaks.1, hbreaks.2.2⟩⟩
      · exact .inr ⟨⟨reason, hlast⟩, hplain, hshown, hrefuses⟩

end Finding

namespace Run.LeavesAlone

theorem print (form : ReportForm) (command : Command) (summary payload : Json.Fields)
    (texts : List LooseText) : LeavesAlone (form.print command summary payload texts) := by
  intro progress machine
  obtain ⟨result, reached, hprint, -⟩ :=
    on_printAll form.stream (form.texts command summary payload texts) progress machine
  exact congrArg Prod.snd hprint

theorem deliver (form : ReportForm) (finding : Finding) : LeavesAlone (finding.deliver form) := by
  have hprint : LeavesAlone (finding.print form) := print form _ _ _ _
  rw [Finding.deliver]
  split
  · exact hprint
  · have hfinish (outcome : Outcome) : LeavesAlone (finishOutcome outcome) := by
      rw [finishOutcome]
      split
      · exact pure _
      · exact throw _
    split
    · exact (throw _).bind fun _ => hprint.bind fun _ => hfinish _
    · exact hprint.bind fun _ => hfinish _

end Run.LeavesAlone

end FrameLens
