import Inquiry.Program
import Std.Time.DateTime.Timestamp

/-!
The program on a machine: it gathers what a run finds, and leaves what the run leaves. Databases
and services are out of reach from here.
-/
namespace Inquiry.Machine

def outside : Session.Outside where
  reach _ := .error "no server can be reached"
  network _ := none

partial def allBytes (stream : IO.FS.Stream) (sofar : ByteArray) : IO ByteArray := do
  let more ← stream.read 65536
  if more.isEmpty then return sofar
  allBytes stream (sofar ++ more)

def withFile (files : Files) (path : String) : IO Files := do
  match ← (IO.FS.readBinFile path).toBaseIO with
  | .error _ => return files
  | .ok content =>
    let placed := files.makeParent path >>= fun files => files.writeBytes path content
    return placed.toOption.getD files

/-- Each round may name further files: the variables, then the settings, then what they name. -/
def gather (world : Program.World) : IO Program.World := do
  let mut world := world
  for _ in [0, 1, 2] do
    world := { world with files := ← (Program.paths world).foldlM withFile world.files }
  return world

def found (arguments : List String) : IO Program.World := do
  let environment ← ("RUST_LOG" :: Settings.variableNames).filterMapM fun name => do
    return (← IO.getEnv name).map (name, ·)
  let now ← Std.Time.Timestamp.now
  gather
    { arguments, environment
      home := ← IO.getEnv "HOME"
      files := .empty
      input := .empty
      now := now.toMillisecondsSinceUnixEpoch.toInt
      outside }

def parentOf (path : String) : String :=
  let parts := (Path.parts path).dropLast
  if parts.isEmpty then "." else "/".intercalate parts

def leave (before after : Files) (path : String) : IO Unit := do
  match after.readBytes path with
  | .error _ => return
  | .ok content =>
    let earlier := ((before.readBytes path).toOption.map ByteArray.toList).getD []
    if earlier ≠ content.toList then
      IO.FS.createDirAll (parentOf path)
      IO.FS.writeBinFile path content

def isConversation (arguments : List String) : Bool :=
  match CommandLine.parse arguments with
  | .ok parsed => parsed.command = .converse
  | .error _ => false

end Inquiry.Machine

open Inquiry in
def main (arguments : List String) : IO UInt32 := do
  let world ← Machine.found arguments
  let input ←
    if Machine.isConversation arguments then Machine.allBytes (← IO.getStdin) .empty else pure .empty
  let outcome := Program.run { world with input }
  for path in Program.paths world do
    Machine.leave world.files outcome.files path
  IO.print outcome.output
  IO.eprint outcome.errorText
  return outcome.exitCode.toUInt32
