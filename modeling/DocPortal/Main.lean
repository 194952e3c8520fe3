import DocPortal.Command.Program
import DocPortal.Machine.Description

/-!
# The command line

The program runs on the machine that is described on the standard input; the words are those of the command
line.
-/

namespace DocPortal

/-- The text so far and all that a stream still holds. -/
partial def readAll (input : IO.FS.Stream) (before : String) : IO String := do
  let line ← input.getLine
  if line.isEmpty then return before else readAll input (before ++ line)

end DocPortal

open DocPortal

/-- Runs the program and answers with its exit code. -/
def main (words : List String) : IO UInt32 := do
  let document ← readAll (← IO.getStdin) ""
  match Machine.read document with
  | .error e =>
    (← IO.getStderr).putStrLn s!"Error: {e.message}"
    return 2
  | .ok m =>
    let r := Command.program m (words.map Text.encode)
    (← IO.getStdout).putStr r.stdout
    (← IO.getStderr).putStr r.stderr
    return r.code.toUInt32
