/-
# The command

Carries out on real files what the command does with its arguments.
-/

import ApiHeader.Command.Run

namespace ApiHeader.Command

/-- The bytes of a file, if it can be read. -/
def readBytes? (path : String) : IO (Option ByteArray) := do
  try
    return some (← IO.FS.readBinFile path)
  catch _ =>
    return none

/-- Write a file, and tell whether it was written. -/
def writeBytes (path : String) (content : ByteArray) : IO Bool := do
  try
    IO.FS.writeBinFile path content
    return true
  catch _ =>
    return false

/-- Carry a plan out on the files around the process. -/
def Plan.perform : Plan → IO Exit
  | stop exit => return exit
  | read path next => do (next (← readBytes? path)).perform
  | write path content next => do (next (← writeBytes path content)).perform

end ApiHeader.Command

open ApiHeader.Command

/-- Generate the header that the command line asks for. -/
def main (arguments : List String) : IO UInt32 := do
  let exit ← (plan arguments).perform
  IO.print exit.stdout
  IO.eprint exit.stderr
  return UInt32.ofNat exit.exitCode
