import FrameLens.Text.Encoding
import FrameLens.Code.View
import FrameLens.Files.Host
import FrameLens.Files.Path
import FrameLens.Note
import FrameLens.Text.Integer

/-!
# The view cache

A file is read and cleaned once. Paths that lead to one absolute path, upper and lower case being
the same, share a view: the one that was built first, until the cache is cleared.
-/

namespace FrameLens

/-- The views built so far, each under its key. -/
structure ViewCache where
  views : List (LooseText × View) := []

namespace ViewCache

def key (workingDirectory path : LooseText) : LooseText :=
  (Path.absolute workingDirectory path).toText.foldCase

def empty : ViewCache := {}

def size (cache : ViewCache) : Nat :=
  cache.views.length

def get? (cache : ViewCache) (key : LooseText) : Option View :=
  cache.views.lookup key

/-- Keeps a view under a key, unless the key has one already. Gives the view that the key has. -/
def adopt (cache : ViewCache) (key : LooseText) (view : View) : ViewCache × View :=
  match cache.get? key with
  | some first => (cache, first)
  | none => (⟨(key, view) :: cache.views⟩, view)

variable {m : Type → Type} [Monad m] [Host m]

/-- The view of the file at a path, read now. -/
def readView (path : LooseText) : m (Except FileFault View) := do
  return (← Host.readFile path).map fun octets => View.ofFile path (decodeSource octets)

def builtNote (view : View) : Note :=
  .detail "stackdigest.source.fileview"
    ("Built view for " ++ view.path ++ " (" ++ String.ofList (Text.intDigits view.lineCount) ++
      " lines, " ++ view.dialect.name ++ ")")

/-- The view of the file at a path: the one in the cache, or a new one that goes into it. A file
that cannot be read leaves the cache as it is. -/
def getOrBuild (cache : ViewCache) (path : LooseText) :
    m (ViewCache × Noted (Except FileFault View)) := do
  let key := key (← Host.workingDirectory) path
  match cache.get? key with
  | some view => return (cache, pure (.ok view))
  | none =>
    match ← readView path with
    | .error fault => return (cache, pure (.error fault))
    | .ok view =>
      let (cache, kept) := cache.adopt key view
      return (cache, ⟨[builtNote view], .ok kept⟩)

end ViewCache

end FrameLens
