import FrameLens.Code.Block
import FrameLens.Code.Definition
import FrameLens.Code.Snippet
import FrameLens.Note
import FrameLens.Stack.Frame
import FrameLens.Text.Quoted

/-!
# Extraction

The function around a line of a source file: the definition of the frame's name near that line, or
else the block around the line. If neither is found, the lines around it are shown instead.
-/

namespace FrameLens

/-- What an extraction came to. -/
inductive Outcome where
  | located (path : LooseText) (span : Span) (code : LooseText)
  | nearby (path : LooseText) (code : LooseText)
  | noLocation
  | fileMissing (path : LooseText)
  | unreadable (path : LooseText) (reason : String)
deriving DecidableEq, Repr

namespace Outcome

def isLocated : Outcome → Bool
  | located _ _ _ => true
  | _ => false

/-- Whether source text is shown, be it a function or the lines around the target. -/
def showsCode : Outcome → Bool
  | located _ _ _ => true
  | nearby _ _ => true
  | _ => false

def status : Outcome → String
  | located _ _ _ => "ok"
  | nearby _ _ => "no_structural_match"
  | noLocation => "missing_location"
  | fileMissing _ => "file_not_found"
  | unreadable _ _ => "unreadable"

def message : Outcome → LooseText
  | located _ span _ =>
    "Lines " ++ String.ofList (Text.intDigits span.firstLine) ++ "–" ++
      String.ofList (Text.intDigits span.lastLine)
  | nearby _ _ => "Could not confidently locate function body. Showing nearby lines."
  | noLocation => "No file path / line info available for this frame."
  | fileMissing path => "Source file not found: " ++ path
  | unreadable path reason => "Source file could not be read: " ++ path ++ " (" ++ reason ++ ")"

/-- The path of the source file, as far as there is one. -/
def path? : Outcome → Option LooseText
  | located path _ _ => some path
  | nearby path _ => some path
  | noLocation => none
  | fileMissing path => some path
  | unreadable path _ => some path

def span? : Outcome → Option Span
  | located _ span _ => some span
  | _ => none

def code : Outcome → LooseText
  | located _ _ code => code
  | nearby _ code => code
  | _ => []

end Outcome

namespace Extraction

def shown (n : Int) : String :=
  String.ofList (Text.intDigits n)

def nameNote (v : View) (name : String) (search : Definition.Search) : Note :=
  let quoted := String.ofList (Text.quoted (Text.trim name.toList))
  let message :=
    match search.found with
    | some (hit, _) =>
      v.path ++ ": anchored " ++ quoted ++ " at offset " ++ shown hit ++ " after " ++
        shown search.tried ++ " candidate(s)"
    | none =>
      v.path ++ ": no anchor for " ++ quoted ++ " (" ++ shown search.tried ++ " candidate(s))"
  .detail "stackdigest.source.anchor" message

def blockNotes (v : View) : Block.Search → List Note
  | .block brace _ =>
    [.detail "stackdigest.source.enclosing"
      (v.path ++ ": enclosing block at line " ++ shown (v.lineOf brace) ++ " accepted")]
  | .arrow line _ =>
    [.detail "stackdigest.source.enclosing"
      (v.path ++ ": expression-bodied member at line " ++ shown line)]
  | .nothing => []

/-- The note on what one of the two searches came to. -/
def strategyNote (v : View) (line : Int) (strategy : Strategy) (found : Option Span) : Note :=
  let place := v.path ++ ":" ++ shown line ++ " " ++ strategy.label
  let message :=
    match found with
    | some span =>
      place ++ " -> lines " ++ shown span.firstLine ++ "-" ++ shown span.lastLine
    | none => place ++ " found nothing"
  .detail "stackdigest.source.extractor" message

/-- What the two searches found: by name, and around the target if the first one found nothing. -/
structure Searches where
  named : Option Definition.Search
  block : Option Block.Search
deriving DecidableEq, Repr

def Searches.namedSpan? (searches : Searches) : Option Span := do
  let search ← searches.named
  let (_, span) ← search.found
  return span

def Searches.span? (searches : Searches) : Option Span :=
  searches.namedSpan? <|> searches.block.bind Block.Search.span?

/-- Searches for a function by name, unless the name is empty, and then around the target. -/
def searches (v : View) (name : String) (line : Int) (settings : Settings) :
    Except OutOfRange Searches := do
  let target := v.targetOffset line
  let named ←
    if name.isEmpty then pure none else Definition.search? v name target settings
  if (named.bind (·.found)).isSome then return ⟨named, none⟩
  let block ← Block.search v target name settings
  return ⟨named, some block⟩

def searchNotes (v : View) (name : String) (line : Int) (searches : Searches) : List Note :=
  let named := (searches.named.map (nameNote v name)).toList ++
    [strategyNote v line .named searches.namedSpan?]
  match searches.block with
  | none => named
  | some block => named ++ blockNotes v block ++ [strategyNote v line .enclosing block.span?]

def locate (v : View) (name : String) (line : Int) (settings : Settings) :
    Except OutOfRange (Option Span) :=
  (searches v name line settings).map Searches.span?

/-- What is shown for a line of a view, given the function that was located. -/
def show? (v : View) (span : Option Span) (line : Int) (settings : Settings) :
    Except OutOfRange Outcome :=
  match span with
  | some span =>
    (Snippet.render v span line settings.maxSourceLines settings.marker).map
      (Outcome.located v.path span)
  | none => .ok (.nearby v.path (Snippet.nearby v line settings.fallbackRadius settings.marker))

/-- Extracts the function of a name around a line, with notes. -/
def run (v : View) (functionName : String) (line : Int) (settings : Settings) :
    Except OutOfRange (Noted Outcome) := do
  let line := max 1 line
  let name := FunctionName.anchor functionName
  let found ← searches v name line settings
  let outcome ← show? v found.span? line settings
  return ⟨searchNotes v name line found, outcome⟩

/-- Extracts the function of a name around a line. -/
def ofView (v : View) (functionName : String) (line : Int) (settings : Settings) :
    Except OutOfRange Outcome :=
  (run v functionName line settings).map (·.result)

end Extraction

end FrameLens
