import FrameLens.Text.Integer
import FrameLens.Text.Loose

/-!
# File faults

Why an operation on a path failed: the computer refused it, or the text is no path at all.
-/

namespace FrameLens

/-- Why a computer refuses an operation. -/
inductive FileCause where
  | missing
  | denied
  | alreadyThere
  | notDirectory
  | isDirectory
  | nameTooLong
deriving DecidableEq, Repr

namespace FileCause

def number : FileCause → Nat
  | missing => 2
  | denied => 13
  | alreadyThere => 17
  | notDirectory => 20
  | isDirectory => 21
  | nameTooLong => 36

def reason : FileCause → String
  | missing => "No such file or directory"
  | denied => "Permission denied"
  | alreadyThere => "File exists"
  | notDirectory => "Not a directory"
  | isDirectory => "Is a directory"
  | nameTooLong => "File name too long"

end FileCause

/-- Halves in a text that has to be encoded, in words. -/
def LoneHalves.message (halves : LoneHalves) : String :=
  let number (n : Nat) : String := String.ofList (Text.natDigits n)
  let place :=
    if halves.count = 1 then
      "character '" ++ String.ofList (CodePoint.half halves.first).spelled ++ "' in position " ++
        number halves.position
    else
      "characters in position " ++ number halves.position ++ "-" ++
        number (halves.position + halves.count - 1)
  "'utf-8' codec can't encode " ++ place ++ ": surrogates not allowed"

inductive PathFault where
  | nullCharacter
  | unencodable (halves : LoneHalves)
deriving DecidableEq, Repr

def PathFault.message : PathFault → String
  | nullCharacter => "embedded null byte"
  | unencodable halves => halves.message

/-- A failed operation on a path. One that the computer refused names the path as it was given. -/
inductive FileFault where
  | refused (cause : FileCause) (path : LooseText)
  | malformed (fault : PathFault)
deriving DecidableEq, Repr

namespace FileFault

def refusal (cause : FileCause) (path : LooseText) : String :=
  "[Errno " ++ String.ofList (Text.natDigits cause.number) ++ "] " ++ cause.reason ++ ": " ++
    String.ofList path.quoted

def message : FileFault → String
  | refused cause path => refusal cause path
  | malformed fault => fault.message

end FileFault

end FrameLens
