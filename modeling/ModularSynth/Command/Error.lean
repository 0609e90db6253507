import ModularSynth.PatchFile.Build
import ModularSynth.PatchFile.Storage

/-!
This module contains the errors of commands and how they are printed.
-/

namespace ModularSynth

def EditError.causes : EditError → List String
  | .rejected rejection => [rejection.message]
  | _ => []

def BuildError.causes : BuildError → List String
  | .unknownKind .. => []
  | .edit error => error.causes
  | .connection _ _ _ error => error.message :: error.causes

def TomlError.message : TomlError → String
  | .notToml => "not a TOML document"
  | .format error => error.message

def StorageError.message : StorageError → String
  | .read path fault => s!"failed to read file '{path}': {fault.message}"
  | .write path fault => s!"failed to write file '{path}': {fault.message}"
  | .makeDir path fault => s!"failed to create directory '{path}': {fault.message}"
  | .toml error => s!"failed to parse TOML: {error.message}"

def StorageError.causes : StorageError → List String
  | .read _ fault => [fault.message]
  | .write _ fault => [fault.message]
  | .makeDir _ fault => [fault.message]
  | .toml _ => []

def factoryNotFound (name : String) : String :=
  s!"factory patch not found: {name}"

inductive CommandError
  /-- The arguments ask for nothing the program can do. -/
  | usage
  | unknownKind (kind : String)
  | unknownModule (id : String)
  /-- A command that works on a patch was given the name of no factory patch. -/
  | unknownSource (name : String)
  /-- A factory patch cannot be shown because there is none of that name. -/
  | unknownFactory (name : String)
  | issues (name : String) (issues : List Issue)
  | storage (error : StorageError)
  | build (error : BuildError)
  | output (fault : FileFault)

namespace CommandError

def message : CommandError → String
  | .usage => "cannot make sense of the arguments"
  | .unknownKind kind => s!"Unknown module kind: {kind}"
  | .unknownModule id => s!"Unknown module id: {id}"
  | .unknownSource name =>
    s!"{factoryNotFound name}. Use 'patchbay factory' to see available patches."
  | .unknownFactory name => s!"Factory patch '{name}' not found."
  | .issues name found => s!"patch '{name}' has {found.length} issue(s)"
  | .storage error => error.message
  | .build error => error.message
  | .output fault => fault.message

/-- What caused an error, the nearest cause first. -/
def causes : CommandError → List String
  | .storage error => error.causes
  | .build error => error.causes
  | _ => []

def details : CommandError → List String
  | .issues _ found => found.map fun issue => s!"  error: {issue.message}"
  | _ => []

def indentLines (indent text : String) : String :=
  String.ofList <| text.toList.flatMap fun c => if c = '\n' then '\n' :: indent.toList else [c]

/-- The causes, each on lines of its own; they are numbered if there are several. -/
def causeLines : List String → List String
  | [] => []
  | [cause] => ["", "Caused by:", "    " ++ indentLines "    " cause]
  | causes =>
    ["", "Caused by:"] ++ causes.mapIdx fun i cause =>
      let number := toString i
      String.ofList (List.replicate (5 - number.length) ' ') ++ number ++ ": " ++
        indentLines "       " cause

def text (e : CommandError) : String :=
  let lines := e.details ++ [s!"Error: {e.message}"] ++ causeLines e.causes
  String.join (lines.map (· ++ "\n"))

def exitCode : CommandError → UInt32
  | .usage => 2
  | _ => 1

end CommandError
end ModularSynth
