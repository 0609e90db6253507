import ModularSynth.Command.Run

/-!
This module contains the program: it reads the file its command names, runs the command, and prints
or writes what the command leaves to be done.
-/

namespace ModularSynth
namespace Program

def notADirectoryNumber : UInt32 := 20

def nameTooLongNumber : UInt32 := 36

/-- Some calls of the operating system negate an error number. -/
def isNumber (number code : UInt32) : Bool :=
  code == number || code == 0 - number

def fault : IO.Error → FileFault
  | .noFileOrDirectory .. => .notFound
  | .alreadyExists .. => .alreadyExists
  | .inappropriateType _ code _ =>
    if isNumber notADirectoryNumber code then .notADirectory else .isADirectory
  | .invalidArgument file code reason =>
    if isNumber nameTooLongNumber code then .nameTooLong
    else .other (IO.Error.invalidArgument file code reason).toString
  | e => .other e.toString

/-- Use a file, unless the operating system refuses it. -/
def attempt {α : Type} (act : IO α) : IO (Except FileFault α) :=
  try
    return .ok (← act)
  catch e =>
    return .error (fault e)

def input : Option String → IO (Except FileFault ByteArray)
  | none => return .error .notFound
  | some path => attempt (IO.FS.readBinFile path)

def finish (result : Command.Result) : IO UInt32 := do
  IO.print result.stdout
  IO.eprint result.stderr
  return result.exitCode

def run (args : List String) : IO UInt32 := do
  match Command.ofArguments? args with
  | none => finish (.ofError .usage)
  | some command =>
    let bytes ← input command.input?
    match command.run fun _ => bytes with
    | .error e => finish (.ofError e)
    | .ok (.print text) => finish ⟨0, text, ""⟩
    | .ok (.write path text) =>
      finish (.ofWrite (← attempt (IO.FS.writeBinFile path text.toUTF8)))

end Program
end ModularSynth

def main (args : List String) : IO UInt32 :=
  ModularSynth.Program.run args
