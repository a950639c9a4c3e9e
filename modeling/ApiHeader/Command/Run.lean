/-
# Running a command

What a run does is laid out in a plan: it names the file to read, goes on with what
there is, and ends with an exit or with the attempt to write a file. A description is
validated before its header is generated, and nothing is printed or written before
that. A plan can be carried out on any files.
-/

import ApiHeader.Command.FileSystem
import ApiHeader.Command.Invocation
import ApiHeader.Header.Generate
import ApiHeader.Schema.Validation

namespace ApiHeader.Command

/-- The header that an invocation asks for, given the bytes of its input if there
is such a file. -/
def Invocation.header (invocation : Invocation) (content : Option ByteArray) :
    Except GenerateError String := do
  let document ← (Header.fileText content).mapError .file
  let schema ← (Schema.load document).mapError .load
  schema.validate.mapError .schema
  let resolved ← (Resolved.ofSchema schema).mapError .schema
  return Header.generate invocation.options resolved

/-- What a run shows. -/
structure Exit where
  exitCode : Nat
  stdout : String := ""
  stderr : String := ""

/-- What is left to do in a run. How it goes on depends on what a step finds. -/
inductive Plan
  | stop (exit : Exit)
  | read (path : String) (next : Option ByteArray → Plan)
  /-- The next step is told whether the content was written. -/
  | write (path : String) (content : ByteArray) (next : Bool → Plan)

/-- What is said after the header was written to a file. -/
def writtenReport (path : String) : String :=
  "Wrote " ++ path ++ "\n"

/-- Hand a header over where it was asked for. -/
def Invocation.deliver (invocation : Invocation) (header : String) : Plan :=
  match invocation.output with
  | none => .stop { exitCode := 0, stdout := header }
  | some path =>
    .write path header.toUTF8 fun written =>
      if written then .stop { exitCode := 0, stderr := writtenReport path }
      else .stop { exitCode := 1, stderr := "Error: cannot write " ++ path ++ "\n" }

/-- What the command does with its arguments. -/
def plan (arguments : List String) : Plan :=
  match Invocation.ofArguments arguments with
  | .error error => .stop { exitCode := 2, stderr := "error: " ++ error.message ++ "\n" }
  | .ok invocation =>
    .read invocation.input fun content =>
      match invocation.header content with
      | .error error => .stop { exitCode := 1, stderr := "Error: " ++ error.message ++ "\n" }
      | .ok header => invocation.deliver header

/-- What a run shows and leaves behind. -/
structure Outcome (Files : Type) extends Exit where
  directory : Files

variable {Files : Type} [FileSystem Files]

/-- Carry a plan out. -/
def Plan.carryOut : Plan → Files → Outcome Files
  | stop exit, directory => { exit with directory }
  | read path next, directory => (next (FileSystem.read? directory path)).carryOut directory
  | write path content next, directory =>
    let attempt := FileSystem.write directory path content
    (next attempt.1).carryOut attempt.2

/-- Run the command. -/
def run (directory : Files) (arguments : List String) : Outcome Files :=
  (plan arguments).carryOut directory

end ApiHeader.Command
