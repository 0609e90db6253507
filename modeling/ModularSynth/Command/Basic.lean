import ModularSynth.Command.Arguments

/-!
This module contains the commands of the command line, and how they are read from arguments.
-/

namespace ModularSynth

inductive PatchSource
  | file (path : String)
  | factory (name : String)
  deriving DecidableEq

inductive SnapshotFormat
  | json
  | toml
  deriving DecidableEq

def SnapshotFormat.ofName? : String → Option SnapshotFormat
  | "json" => some .json
  | "toml" => some .toml
  | _ => none

inductive Command
  /-- List the module kinds, or show one. -/
  | modules (kind : Option String)
  /-- Make a patch and compile it to a test bench on which some devices are not ready. -/
  | check (source : PatchSource) (notReady : List String)
  /-- Print the snapshot of a patch, or write it to a file. -/
  | snapshot (source : PatchSource) (format : SnapshotFormat) (output : Option String)
  /-- List the factory patches, or print one. -/
  | factory (name : Option String)
  deriving DecidableEq

namespace Command

def factoryOption : OptionName := ⟨"factory", none⟩
def notReadyOption : OptionName := ⟨"not-ready", none⟩
def formatOption : OptionName := ⟨"format", none⟩
def outputOption : OptionName := ⟨"output", some 'o'⟩

def input? : Command → Option String
  | .check (.file path) _ => some path
  | .snapshot (.file path) _ _ => some path
  | _ => none

/-- There has to be a file or the name of a factory patch, but not both. -/
def source? (a : Arguments) : Option PatchSource := do
  match ← atMostOne? a.plain, ← atMostOne? (a.values factoryOption.long) with
  | some path, none => if path = "" then none else some (.file path)
  | none, some name => some (.factory name)
  | _, _ => none

def format? (a : Arguments) : Option SnapshotFormat := do
  match ← atMostOne? (a.values formatOption.long) with
  | some name => SnapshotFormat.ofName? name
  | none => some .json

def output? (a : Arguments) : Option (Option String) := do
  match ← atMostOne? (a.values outputOption.long) with
  | some path => if path = "" then none else some (some path)
  | none => some none

/-- The command some arguments ask for, if they are well formed. -/
def ofArguments? : List String → Option Command
  | "modules" :: rest => do
    let a ← Arguments.split? [] rest
    return .modules (← atMostOne? a.plain)
  | "check" :: rest => do
    let a ← Arguments.split? [factoryOption, notReadyOption] rest
    return .check (← source? a) (a.values notReadyOption.long)
  | "export" :: rest => do
    let a ← Arguments.split? [factoryOption, formatOption, outputOption] rest
    return .snapshot (← source? a) (← format? a) (← output? a)
  | "factory" :: rest => do
    let a ← Arguments.split? [] rest
    return .factory (← atMostOne? a.plain)
  | _ => none

end Command
end ModularSynth
