import FrameLens.Files.Fault
import FrameLens.Files.Path
import FrameLens.Text.Encoding

/-!
# Hosts

The computer that the program runs on, the octets by which it knows a path, and the making of
directories on it.
-/

namespace FrameLens

/-! ## Octets of paths

What a computer knows of a path is its octets. Octets that are no text are told as halves: each
octet outside ASCII has a half of its own, which stands for it and for nothing else. Other halves
are in no path, and neither is the null character, which ends the octets of a path. -/

/-- The contents of a file, or the octets of a text. -/
abbrev Octets := List UInt8

namespace PathOctets

/-- The octet that a half stands for. -/
def octet? (place : Fin 0x800) : Option UInt8 :=
  if 0x480 ≤ place.val ∧ place.val < 0x500 then some (place.val - 0x400).toUInt8 else none

def encodePoint? : CodePoint → Option Octets
  | .char c => some (Utf8.encodeChar c)
  | .half place => (octet? place).map ([·])

/-- The first run of halves that stand for no octet, if there is one. -/
def unencodable? (path : LooseText) : Option LoneHalves :=
  let before := path.takeWhile fun point => (encodePoint? point).isSome
  match path.drop before.length with
  | .half first :: rest =>
    some ⟨before.length, first, 1 + (rest.takeWhile CodePoint.isHalf).length⟩
  | _ => none

def encode (path : LooseText) : Except PathFault Octets :=
  match unencodable? path with
  | some halves => .error (.unencodable halves)
  | none =>
    let octets := path.flatMap fun point => (encodePoint? point).getD []
    if octets.contains 0 then .error .nullCharacter else .ok octets

/-- The path that octets stand for, with a half for each octet that is no text. -/
def decode (octets : Octets) : LooseText :=
  (Utf8.pieces octets).flatMap fun
    | .char c => [.char c]
    | .malformed octets _ => octets.map fun octet => .ofNat (0xDC00 + octet.toNat)

end PathOctets

/-! ## Hosts

What the program needs of the computer it runs on: files, input, a working directory and
variables. -/

/-- What a path may lead to. -/
inductive FileKind where
  | file
  | directory
deriving DecidableEq, Repr

/-- What is left of the input, as a text, or the reason why it is none. -/
inductive InputText where
  | plain (text : List Char)
  | malformed (reason : LooseText)
deriving DecidableEq, Repr

/-- A computer that programs in `m` run on. -/
class Host (m : Type → Type) where
  /-- What a path leads to. -/
  kind : LooseText → m (Except FileFault FileKind)
  /-- Reads a whole file. -/
  readFile : LooseText → m (Except FileFault Octets)
  /-- Writes a whole file, over what was in it. -/
  writeFile : LooseText → Octets → m (Except FileFault Unit)
  /-- Makes one directory in a directory that is there. -/
  makeDirectory : LooseText → m (Except FileFault Unit)
  /-- Reads what is left of the input. -/
  readInput : m InputText
  /-- The directory where relative paths begin. -/
  workingDirectory : m LooseText
  /-- The value of an environment variable. -/
  environment? : String → m (Option LooseText)

/-- Whether a fault says no more than that a path leads nowhere. -/
def FileFault.isAbsence : FileFault → Bool
  | refused .missing _ => true
  | refused .notDirectory _ => true
  | refused _ _ => false
  | malformed _ => true

namespace Host

variable {m : Type → Type} [Monad m] [Host m]

def isFile (path : LooseText) : m Bool := do
  match ← kind path with
  | .ok found => return found == .file
  | .error _ => return false

def isDirectory (path : LooseText) : m Bool := do
  match ← kind path with
  | .ok found => return found == .directory
  | .error _ => return false

/-- Whether a path leads to anything. That may be refused an answer. -/
def pathExists (path : LooseText) : m (Except FileFault Bool) := do
  match ← kind path with
  | .ok _ => return .ok true
  | .error fault => return if fault.isAbsence then .ok false else .error fault

end Host

end FrameLens

namespace FrameLens.Directories

/-! ## Making directories

A directory is made along with those above it that are missing. One that is there already is left
as it is. -/

variable {m : Type → Type} [Monad m] [Host m]

/-- Makes one directory; one that is there already will do. -/
def makeOne (path : LooseText) : m (Except FileFault Unit) := do
  match ← Host.makeDirectory path with
  | .ok () => return .ok ()
  | .error fault => if ← Host.isDirectory path then return .ok () else return .error fault

/-- Makes the directory whose components are given last first, and those above it. -/
def makeFrom (root : PathRoot) : List LooseText → m (Except FileFault Unit)
  | [] => makeOne (Path.toText ⟨root, []⟩)
  | part :: above => do
    let path := Path.toText ⟨root, (part :: above).reverse⟩
    match ← makeOne path with
    | .error (.refused .missing _) =>
      match ← makeFrom root above with
      | .ok () => makeOne path
      | .error fault => return .error fault
    | result => return result

def make (path : Path) : m (Except FileFault Unit) :=
  makeFrom path.root path.parts.reverse

end FrameLens.Directories
