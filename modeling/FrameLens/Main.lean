import FrameLens.CommandLine.Program
import FrameLens.Report.Envelope
import Std.Time.DateTime.Timestamp

/-!
# The command line

Runs the program on this computer.
-/

namespace FrameLens

def causeOf (path : String) : IO.Error → IO FileCause
  | .noFileOrDirectory _ _ _ => return .missing
  | .alreadyExists _ _ _ => return .alreadyThere
  | .invalidArgument _ code _ =>
    return if code.toNat = FileCause.nameTooLong.number then .nameTooLong else .denied
  | .inappropriateType _ _ _ => do
    if ← (System.mkFilePath [path]).isDir then return .isDirectory else return .notDirectory
  | _ => return .denied

/-- Does something with a path. One that is no text leads nowhere. -/
def onPath (path : LooseText) (action : String → IO α) : IO (Except FileFault α) := do
  match PathOctets.encode path, path.toString? with
  | .error fault, _ => return .error (.malformed fault)
  | .ok _, none => return .error (.refused .missing path)
  | .ok _, some name =>
    try return .ok (← action name)
    catch failure => return .error (.refused (← causeOf name failure) path)

def kindOf (path : String) : IO FileKind := do
  match (← (System.mkFilePath [path]).metadata).type with
  | .dir => return .directory
  | _ => return .file

instance : Host IO where
  kind path := onPath path kindOf
  readFile path := onPath path fun path => do return (← IO.FS.readBinFile path).toList
  writeFile path octets := onPath path fun path => IO.FS.writeBinFile path ⟨octets.toArray⟩
  makeDirectory path := onPath path fun path => IO.FS.createDir path
  readInput := do return InputText.ofUtf8 (← (← IO.getStdin).readBinToEnd).toList
  workingDirectory := do return (← IO.currentDir).toString
  environment? name := do return (← IO.getEnv name).map LooseText.ofString

end FrameLens

open FrameLens in
def main (arguments : List String) : IO UInt32 := do
  let now := (← Std.Time.Timestamp.now).toSecondsSinceUnixEpoch.val.toNat
  let (_, transcript) ← Program.run .utf8 arguments (Timestamp.text now) ViewCache.empty
  IO.print transcript.output
  IO.eprint transcript.errorText
  return transcript.ending.exitCode.number.toUInt32
