import FrameLens.Source.FrameSource

/-!
# Prompts

A prompt is a template, the call stack as it was given, and the source of its frames, each between
fences.
-/

namespace FrameLens.Prompt

/-- Stands for the source of a frame that has none. -/
def noSource : String := "// Source not found or could not detect function body."

/-- The line that closes a block, and opens one without a language. -/
def fence : LooseText := "\x60\x60\x60"

/-- The line that opens a block of source. -/
def sourceFence : LooseText := fence ++ "cpp"

/-- The lines of a template; a blank one has none. -/
def templateLines (template : LooseText) : List LooseText :=
  if template.isBlank then [] else [template.trimRight, []]

def stackLines (stack : String) : List LooseText :=
  [[], "Input: Callstack", fence, .ofChars (Text.trimRight stack.toList), fence, []]

def frameTitle (frame : Frame) : String :=
  "[Frame " ++ String.ofList (Text.intDigits frame.index) ++ "] " ++ frame.moduleName ++ "!" ++
    frame.symbol

/-- The line that names the place of a frame, if its file is known. -/
def placeLines (frame : Frame) : List LooseText :=
  match frame.sourcePath with
  | none => []
  | some path =>
    if Text.allBlank path.toList then []
    else
      let line := (frame.sourceLine.map Text.intDigits).getD []
      [LooseText.ofString ("File: " ++ path ++ ":" ++ String.ofList line)]

def sourceText (source : Option LooseText) : LooseText :=
  match source with
  | none => noSource
  | some source => if source.isEmpty then noSource else source.trimRight

def frameLines (frame : Frame) (source : Option LooseText) : List LooseText :=
  [[], LooseText.ofString (frameTitle frame)] ++ placeLines frame ++
    [sourceFence, sourceText source, fence]

def compose (template : LooseText) (stack : String) (frames : List (Frame × Option LooseText)) :
    LooseText :=
  let rows := templateLines template ++ stackLines stack ++
    LooseText.ofString "Input: Per-frame source code (best effort)" ::
      frames.flatMap fun (frame, source) => frameLines frame source
  LooseText.joinLines rows ++ [.char '\n']

variable {m : Type → Type} [Monad m] [Host m]

def assemble (cache : ViewCache) (settings : Settings) (template : LooseText) (stack : String)
    (frames : List Frame) (limit : Option Int) :
    m (ViewCache × Noted (Except Failure (LooseText × FrameSource.Collected))) := do
  let (cache, collected) ← FrameSource.collect cache settings limit frames
  let result := collected.result.map fun entries =>
    let sources := entries.map fun (frame, outcome) => (frame, some outcome.code)
    (compose template stack sources, entries)
  return (cache, ⟨collected.notes, result⟩)

end FrameLens.Prompt
