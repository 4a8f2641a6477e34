/-
# Main -- the shell at a terminal

Runs the shell of `CommandLine` on a machine that has just been booted.  The
machine's user is whoever runs this program: standard input is what the user
says, and what the machine printed is shown at the end.
-/
import PipelineShell.Arguments.Scan
import PipelineShell.CommandLine
import PipelineShell.Machine.Boot

namespace PipelineShell.Main

set_option autoImplicit false

partial def readAll (stream : IO.FS.Stream) (received : ByteArray) : IO ByteArray := do
  let chunk ← stream.read 65536
  if chunk.isEmpty then pure received else readAll stream (received ++ chunk)

def environment : IO Environment := do
  let fixed := [("PATH", "/usr/bin:/bin"), ("HOME", "/root")]
  match ← IO.getEnv "TERM" with
  | some terminal => pure (fixed ++ [("TERM", terminal)])
  | none => pure fixed

end PipelineShell.Main

open PipelineShell in
open scoped PipelineShell.Arguments in
/-- Runs the shell; its exit status is that of the program. -/
def main (words : List String) : IO UInt32 := do
  let name := (← IO.appPath).fileName.getD "shell"
  let input ← Main.readAll (← IO.getStdin) .empty
  let machine := (Machine.boot (← Main.environment)).withInput input.toList
  let (status, machine) := CommandLine.run name words machine
  let machine := machine.shutDown
  let stdout ← IO.getStdout
  stdout.write ⟨machine.printed.toArray⟩
  stdout.flush
  (← IO.getStderr).write ⟨machine.complained.toArray⟩
  pure status.toUInt32
