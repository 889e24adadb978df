import FrameLens.Files.Fault
import FrameLens.Text.Offset
import FrameLens.Text.Encoding

/-!
# Failures

What can go wrong apart from what is told as an outcome. A problem is reported to the user in the
program's own words; the other failures end the program.
-/

namespace FrameLens

/-- The codes with which the program ends. -/
inductive ExitCode where
  | success
  | error
  | usage
  | noFrames
  | sourceMissing
  | partialResult
deriving DecidableEq, Repr

namespace ExitCode

def all : List ExitCode := [success, error, usage, noFrames, sourceMissing, partialResult]

def number : ExitCode → Nat
  | success => 0
  | error => 1
  | usage => 2
  | noFrames => 3
  | sourceMissing => 4
  | partialResult => 6

def description : ExitCode → String
  | success => "success"
  | error => "unexpected error"
  | usage => "invalid usage (bad arguments or flags)"
  | noFrames => "no call-stack frames found in the input"
  | sourceMissing => "frame has no source location or the file is unavailable"
  | partialResult => "partial results (nearby lines instead of a function body)"

end ExitCode

inductive Problem where
  | other (message : String)
  | unsavedTemplates (path : LooseText) (cause : FileCause) (refused : LooseText)
  | unreadableStack (path : LooseText) (cause : FileCause) (refused : LooseText)
  | noFrames
  | sourceMissing (message : Option LooseText)
deriving DecidableEq, Repr

namespace Problem

def message : Problem → LooseText
  | other message => message
  | unsavedTemplates path cause refused =>
    "could not save templates to " ++ path ++ ": " ++ FileFault.refusal cause refused
  | unreadableStack path cause refused =>
    "could not read call stack " ++ path ++ ": " ++ FileFault.refusal cause refused
  | noFrames => "No call-stack frames found in the input."
  | sourceMissing message => message.getD "Source not available for this frame."

def exitCode : Problem → ExitCode
  | other _ => .error
  | unsavedTemplates _ _ _ => .error
  | unreadableStack _ _ _ => .error
  | noFrames => .noFrames
  | sourceMissing _ => .sourceMissing

end Problem

inductive Failure where
  | reported (problem : Problem)
  | outOfRange (lookup : OutOfRange)
  | infiniteNumber
  | longInteger
  | malformedRemap (spec : Option String)
  | unknownMode (mode : String)
  | file (fault : FileFault)
  | malformedText (part : Utf8.Malformed)
  | malformedInput (reason : LooseText)
  | unprintable (reason : String)
deriving DecidableEq, Repr

namespace Failure

/-- Octets in hexadecimal, as they are named in a message. -/
def octetText (octet : UInt8) : String :=
  "0x" ++ String.ofList (Text.hexPadded 2 octet.toNat)

/-- Which octets are malformed. -/
def malformedPlace (part : Utf8.Malformed) : String :=
  let position := String.ofList (Text.natDigits part.position)
  match part.octets with
  | [octet] => "byte " ++ octetText octet ++ " in position " ++ position
  | octets =>
    "bytes in position " ++ position ++ "-" ++
      String.ofList (Text.natDigits (part.position + octets.length - 1))

def offeredModes : String := "empty, explain, optimize"

def message : Failure → LooseText
  | reported problem => problem.message
  | outOfRange lookup => lookup.message
  | infiniteNumber => "cannot convert float infinity to integer"
  | longInteger =>
    "Exceeds the limit (" ++ String.ofList (Text.natDigits Text.maxIntegerDigits) ++
      " digits) for integer string conversion; use sys.set_int_max_str_digits() to increase the " ++
      "limit"
  | malformedRemap (some spec) =>
    "remap must look like FROM=TO, got " ++ String.ofList (Text.quoted spec.toList)
  | malformedRemap none => "remap must look like FROM=TO, got None"
  | unknownMode mode =>
    "unknown prompt mode " ++ String.ofList (Text.quoted mode.toList) ++ " (expected one of: " ++
      offeredModes ++ ")"
  | file fault => fault.message
  | malformedText part =>
    "'utf-8' codec can't decode " ++ malformedPlace part ++ ": " ++ part.fault.message
  | malformedInput reason => reason
  | unprintable reason => reason

end Failure

end FrameLens
