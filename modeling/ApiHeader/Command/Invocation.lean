/-
# Command lines

A command line names one description and may give an output path, an include guard
and whether to leave out the linkage block. Arguments are read from the left; an
option waits for its value when the value is an argument of its own.

Asking for help (`--help` and `-h`, which print a text and succeed) is left out: here
these are refused like all options that are not known.
-/

import ApiHeader.Header.Layout

namespace ApiHeader.Command

/-- The options that have a value. -/
inductive ValueOption
  | output
  | includeGuard
  deriving DecidableEq, Repr

/-- How an option is spelled in full. -/
def ValueOption.spelling : ValueOption → String
  | output => "--output"
  | includeGuard => "--include-guard"

/-- Why a command line is refused. -/
inductive UsageError
  | missingInput
  | extraInput (value : String)
  | emptyInput
  | unknownOption (spelling : String)
  | missingValue (option : ValueOption)
  | emptyValue (option : ValueOption)
  | repeatedOption (spelling : String)
  /-- A value for the option that has none. -/
  | unexpectedValue (value : String)
  deriving DecidableEq, Repr

/-- The spelling of the option without a value. -/
def noLinkageSpelling : String := "--no-extern-c"

/-- The wording of a refusal. -/
def UsageError.message : UsageError → String
  | missingInput => "the input file is missing"
  | extraInput value => "unexpected argument '" ++ value ++ "'"
  | emptyInput => "the input file has no name"
  | unknownOption spelling => "unexpected argument '" ++ spelling ++ "'"
  | missingValue option => "a value is required for '" ++ option.spelling ++ "'"
  | emptyValue option => "an empty value was given for '" ++ option.spelling ++ "'"
  | repeatedOption spelling => "'" ++ spelling ++ "' was given more than once"
  | unexpectedValue value =>
    "unexpected value '" ++ value ++ "' for '" ++ noLinkageSpelling ++ "'"

/-- What a command line asks for. -/
structure Invocation where
  input : String
  /-- Where the header is written, instead of standard output. -/
  output : Option String := none
  options : Header.Options := {}
  deriving DecidableEq, Repr

/-- What has been read of a command line. -/
structure Reading where
  input : Option String := none
  output : Option String := none
  includeGuard : Option String := none
  noLinkage : Bool := false
  /-- The option whose value comes next. -/
  pending : Option ValueOption := none
  /-- Whether the rest are all input files. -/
  onlyInputs : Bool := false
  deriving DecidableEq, Repr

namespace Reading

/-- Take an argument for the input file. -/
def takeInput (reading : Reading) (value : String) : Except UsageError Reading :=
  if reading.input.isSome then .error (.extraInput value)
  else if value.isEmpty then .error .emptyInput
  else .ok { reading with input := some value }

/-- Take the value of an option. A path may not be empty, a guard may. -/
def takeValue (reading : Reading) (option : ValueOption) (value : String) :
    Except UsageError Reading :=
  match option with
  | .output =>
    if reading.output.isSome then .error (.repeatedOption option.spelling)
    else if value.isEmpty then .error (.emptyValue option)
    else .ok { reading with output := some value, pending := none }
  | .includeGuard =>
    if reading.includeGuard.isSome then .error (.repeatedOption option.spelling)
    else .ok { reading with includeGuard := some value, pending := none }

/-- Take an option whose value is attached to it, or wait for the value. -/
def takeOption (reading : Reading) (option : ValueOption) (attached : Option String) :
    Except UsageError Reading :=
  match attached with
  | some value => reading.takeValue option value
  | none => .ok { reading with pending := some option }

/-- Take the option that has no value. -/
def takeNoLinkage (reading : Reading) (attached : Option String) : Except UsageError Reading :=
  match attached with
  | some value => .error (.unexpectedValue value)
  | none =>
    if reading.noLinkage then .error (.repeatedOption noLinkageSpelling)
    else .ok { reading with noLinkage := true }

/-- Take an option in full spelling, given the characters after its dashes. What
follows the first equals sign is its value. -/
def takeLong (reading : Reading) (cs : List Char) : Except UsageError Reading :=
  let name := String.ofList (cs.takeWhile (· != '='))
  let attached :=
    match cs.dropWhile (· != '=') with
    | _ :: value => some (String.ofList value)
    | [] => none
  match name with
  | "output" => reading.takeOption .output attached
  | "include-guard" => reading.takeOption .includeGuard attached
  | "no-extern-c" => reading.takeNoLinkage attached
  | _ => .error (.unknownOption ("--" ++ name))

/-- Take an option in short spelling, given the characters after its dash. Its
value may follow at once, also after one equals sign. -/
def takeShort (reading : Reading) (cs : List Char) : Except UsageError Reading :=
  match cs with
  | ['o'] => reading.takeOption .output none
  | 'o' :: '=' :: value => reading.takeOption .output (some (String.ofList value))
  | 'o' :: value => reading.takeOption .output (some (String.ofList value))
  | _ => .error (.unknownOption ("-" ++ String.ofList cs))

/-- Whether an argument is an option or the mark that ends the options. A single
dash is an argument like any other. -/
def looksLikeOption (argument : String) : Bool :=
  match argument.toList with
  | '-' :: _ :: _ => true
  | _ => false

/-- Take one argument. -/
def take (reading : Reading) (argument : String) : Except UsageError Reading :=
  match reading.pending with
  | some option =>
    if looksLikeOption argument then .error (.missingValue option)
    else reading.takeValue option argument
  | none =>
    if reading.onlyInputs then reading.takeInput argument
    else
      match argument.toList with
      | ['-', '-'] => .ok { reading with onlyInputs := true }
      | '-' :: '-' :: cs => reading.takeLong cs
      | '-' :: c :: cs => reading.takeShort (c :: cs)
      | _ => reading.takeInput argument

/-- What was asked for, once all arguments are read. -/
def finish (reading : Reading) : Except UsageError Invocation :=
  match reading.pending, reading.input with
  | some option, _ => .error (.missingValue option)
  | none, none => .error .missingInput
  | none, some input =>
    .ok {
      input
      output := reading.output
      options := { includeGuard := reading.includeGuard, linkage := !reading.noLinkage } }

end Reading

/-- Read a command line. -/
def Invocation.ofArguments (arguments : List String) : Except UsageError Invocation := do
  let reading ← arguments.foldlM Reading.take {}
  reading.finish

end ApiHeader.Command
