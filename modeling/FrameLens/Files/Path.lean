import FrameLens.Text.Loose
import FrameLens.Text.Search

/-!
# Paths

Paths by their components, and the names inside a path as it is written.
-/

namespace FrameLens

/-! ## Paths

A path is a root and the components below it. Empty components and those that name their own
directory mean nothing and are left out; those that name the directory above are kept, since what
they lead to depends on the files. -/

/-- Where a path begins: where the program runs, at the root, or at a root of its own kind that two
slashes stand for. -/
inductive PathRoot where
  | relative
  | absolute
  | double
deriving DecidableEq, Repr

structure Path where
  root : PathRoot
  parts : List LooseText
deriving DecidableEq, Repr

namespace Path

/-- The component that names its own directory. -/
def here : LooseText := "."

/-- The component that names the directory above. -/
def up : LooseText := ".."

def rootText : PathRoot → LooseText
  | .relative => ""
  | .absolute => "/"
  | .double => "//"

def rootOf (text : LooseText) : PathRoot :=
  match text with
  | .char '/' :: .char '/' :: .char '/' :: _ => .absolute
  | .char '/' :: .char '/' :: _ => .double
  | .char '/' :: _ => .absolute
  | _ => .relative

/-- The components of a path as it is written, those without a meaning included. -/
def components (text : LooseText) : List LooseText :=
  Text.splitOn (.char '/') text

def ofText (text : LooseText) : Path where
  root := rootOf text
  parts := (components text).filter fun part => !part.isEmpty && part != here

/-- A path as it is written; one without root and components is a dot. -/
def toText (path : Path) : LooseText :=
  if path.root = .relative && path.parts.isEmpty then here
  else rootText path.root ++ [.char '/'].intercalate path.parts

def child (path : Path) (name : LooseText) : Path :=
  { path with parts := path.parts ++ [name] }

def parent (path : Path) : Path :=
  { path with parts := path.parts.dropLast }

/-- Removes each component that names the directory above, along with the component before it;
`done` holds the components before, nearest first. -/
def collapseFrom (isRooted : Bool) (done : List LooseText) : List LooseText → List LooseText
  | [] => done.reverse
  | part :: rest =>
    if part = up then
      match done with
      | [] => collapseFrom isRooted (if isRooted then [] else [up]) rest
      | last :: before =>
        if last = up then collapseFrom isRooted (up :: done) rest
        else collapseFrom isRooted before rest
    else collapseFrom isRooted (part :: done) rest

/-- The path without components that name the directory above, as far as that can be seen from the
path itself. -/
def collapse (path : Path) : Path :=
  { path with parts := collapseFrom (path.root != .relative) [] path.parts }

/-- A path below another one, unless it has a root of its own. -/
def under (base path : Path) : Path :=
  if path.root = .relative then { base with parts := base.parts ++ path.parts } else path

/-- The absolute path that a path stands for in a working directory. -/
def absolute (workingDirectory path : LooseText) : Path :=
  (under (ofText workingDirectory) (ofText path)).collapse

end Path

end FrameLens

namespace FrameLens.PathName

/-! ## Names inside a path

The extension of a file and the last component of a path. A path on this machine has slashes
between its components; a path from elsewhere may have backslashes and a drive. -/

open FrameLens.Text (afterLast indexOf? lastIndexOf?)

/-- What follows the last slash. -/
def fileName (path : List Char) : List Char :=
  afterLast '/' path

/-- The last dot of the file name and what follows it, unless only dots come before it. -/
def extension (path : List Char) : List Char :=
  let name := (fileName path).dropWhile (· == '.')
  match lastIndexOf? ['.'] name with
  | some dot => name.drop dot
  | none => []

def isSeparator (c : Char) : Bool :=
  c == '/' || c == '\\'

/-- What begins with the separator after the next one, if there are two more separators. -/
def afterShare (path : List Char) : List Char :=
  ((path.dropWhile (!isSeparator ·)).drop 1).dropWhile (!isSeparator ·)

/-- Whether the path begins as a long network path does: two separators, a question mark, a
separator, `UNC` in any case, and a separator. -/
def isLongNetworkPath : List Char → Bool
  | a :: b :: '?' :: c :: u :: n :: o :: d :: _ =>
    isSeparator a && isSeparator b && isSeparator c && isSeparator d &&
      u.toUpper == 'U' && n.toUpper == 'N' && o.toUpper == 'C'
  | _ => false

/-- The path without its drive: a letter and a colon, or a network host and share. -/
def withoutDrive (path : List Char) : List Char :=
  match path with
  | a :: b :: rest =>
    if isSeparator a && isSeparator b then
      afterShare (if isLongNetworkPath path then path.drop 8 else rest)
    else if b == ':' then rest
    else path
  | _ => path

def lastComponent (path : List Char) : List Char :=
  ((withoutDrive path).reverse.takeWhile (!isSeparator ·)).reverse

end FrameLens.PathName
