import Utf8Text.CommandLine

/-!
# The program

Reads the command line, the environment and the input, and leaves everything else to
`Invocation.run`.
-/

namespace Utf8Text

/-- The reason for which the system refused to read. The only argument it can object to is a
name. -/
def ReadError.ofSystem : IO.Error → ReadError
  | .noFileOrDirectory .. => .notFound
  | .inappropriateType _ code _ => if code = 21 then .isDirectory else .notDirectory
  | .invalidArgument .. => .nameTooLong
  | e => .other (toString e)

/-- Reads everything from a stream. -/
partial def readAll (stream : IO.FS.Stream) (read : ByteArray) : IO ByteArray := do
  let more ← stream.read 65536
  if more.isEmpty then return read else readAll stream (read ++ more)

/-- Reads a source of the system. -/
def Source.readSystem (source : Source) : IO (Except ReadError Bytes) := do
  try
    match source with
    | .standardInput => return .ok (← readAll (← IO.getStdin) .empty).toList
    | .file path => return .ok (← IO.FS.readBinFile (String.ofList path.text)).toList
  catch e => return .error (.ofSystem e)

/-- Runs the program for an invocation. If the standard output does not take what is written, the
run counts as one with a full device. -/
def Invocation.perform (i : Invocation) : IO UInt32 := do
  let contents ←
    match i.command.source? with
    | none => pure (.ok [])
    | some source => source.readSystem
  let setting? ← IO.getEnv "RUST_LOG"
  let terminal ← (← IO.getStderr).isTty
  let resultOn (device : Device) := i.run setting? ⟨fun _ => contents, device, terminal⟩
  let result ←
    try
      let result := resultOn .accepting
      let stdout ← IO.getStdout
      stdout.write ⟨result.stdout.toArray⟩
      stdout.flush
      pure result
    catch _ => pure (resultOn .full)
  for event in result.log do
    IO.eprintln (String.ofList event.text)
  IO.eprint (String.ofList result.stderr)
  return result.exitCode.toUInt32

end Utf8Text

/-- The exit code of a wrong command line is that of a failure to read or write. -/
def main (arguments : List String) : IO UInt32 := do
  match Utf8Text.CommandLine.parse arguments with
  | some invocation => invocation.perform
  | none =>
    IO.eprintln "error: wrong command line"
    return 2
