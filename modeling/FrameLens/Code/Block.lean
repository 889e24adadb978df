import FrameLens.Code.Header
import FrameLens.Code.Signature
import FrameLens.Code.View
import FrameLens.Settings

/-!
# Enclosing blocks

Where no definition is found by name, the innermost block around the target is taken whose header
reads like a function or an accessor. In a dialect with arrow members one on the target line, or a
few lines above it, is taken if there is no such block.
-/

namespace FrameLens.Block

/-- How many lines above the target an arrow member may be. -/
def arrowLookback : Nat := 5

/-- The offsets of the braces that are open after the first `count` characters, innermost first.
The text is read backward, after `depth` blocks that were closed. -/
def openersWithin (s : Text) : Nat → Nat → List Nat
  | 0, _ => []
  | count + 1, depth =>
    if s[count]? = some '\x7d' then openersWithin s count (depth + 1)
    else if s[count]? = some '\x7b' then
      if depth = 0 then count :: openersWithin s count 0 else openersWithin s count (depth - 1)
    else openersWithin s count depth

/-- The offsets of the braces still open at a target, innermost first; one at the target counts. -/
def openers (s : Text) (target : Int) : List Nat :=
  openersWithin s (min target (s.length - 1) + 1).toNat 0

/-- What a search for a block found. -/
inductive Search where
  | block (brace : Nat) (span : Span)
  | arrow (line : Int) (span : Span)
  | nothing
deriving DecidableEq, Repr

def Search.span? : Search → Option Span
  | block _ span => some span
  | arrow _ span => some span
  | nothing => none

def arrowOn? (v : View) (line : Int) (settings : Settings) : Except OutOfRange (Option Span) := do
  let s := v.cleaned
  let first ← v.startOf line
  let last ← if line < v.lineCount then v.startOf (line + 1) else pure s.length
  match s.find? ['=', '>'] first last with
  | none => return none
  | some arrow =>
    match s.findFrom? [';'] (arrow + 2) with
    | none => return none
    | some stop =>
      let start ← Signature.start v arrow settings.headerMaxLines
      return some (Span.ofOffsets v start (stop + 1) .arrow)

/-- The first arrow member on a line or the `count` lines above it. -/
def arrowAbove (v : View) (settings : Settings) : Nat → Int → Except OutOfRange Search
  | count, line => do
    match ← arrowOn? v line settings with
    | some span => return .arrow line span
    | none =>
      match count with
      | 0 => return .nothing
      | count + 1 => arrowAbove v settings count (line - 1)

def arrowNear (v : View) (line : Int) (settings : Settings) : Except OutOfRange Search :=
  let line := max 1 (min line v.lineCount)
  arrowAbove v settings (line - max 1 (line - arrowLookback)).toNat line

/-- The block opened at `brace`, if it reaches the target and its header is accepted. -/
def at? (v : View) (brace : Nat) (target : Int) (hint : List Char) (settings : Settings) :
    Except OutOfRange (Option Span) := do
  let s := v.cleaned
  match s.matchingBrace? brace with
  | none => return none
  | some close =>
    if close < target then return none
    let header ← Header.before s brace settings.headerBacktrack settings.headerMaxLines
      v.dialect.braceInitializers
    if Header.accepts header hint then
      let start ← Signature.start v (← Header.anchor s brace) settings.headerMaxLines
      return some (Span.ofOffsets v start (close + 1) .enclosing)
    else return none

def firstAccepted (v : View) (target : Int) (hint : List Char) (settings : Settings) :
    List Nat → Except OutOfRange Search
  | [] => .ok .nothing
  | brace :: braces => do
    match ← at? v brace target hint settings with
    | some span => return .block brace span
    | none => firstAccepted v target hint settings braces

def search (v : View) (target : Int) (hint : String) (settings : Settings) :
    Except OutOfRange Search := do
  if v.cleaned.isEmpty then return .nothing
  match ← firstAccepted v target hint.toList settings (openers v.cleaned target) with
  | .nothing =>
    if v.dialect.arrowBodies then arrowNear v (v.lineOf target) settings else return .nothing
  | found => return found

def locate (v : View) (target : Int) (hint : String) (settings : Settings) :
    Except OutOfRange (Option Span) :=
  (search v target hint settings).map Search.span?

end FrameLens.Block
