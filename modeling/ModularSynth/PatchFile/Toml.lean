import ModularSynth.PatchFile.Basic
import ModularSynth.Text.Quoted
import ModularSynth.Toml.Printer
import ModularSynth.Toml.Reader

/-!
This module contains the TOML form of patch files and snapshots, and what can be wrong with a
document that ought to be a patch file.
-/

namespace ModularSynth

inductive Expected
  | string
  | sequence
  | module
  | connection
  deriving DecidableEq

def Expected.text : Expected → String
  | .string => "a string"
  | .sequence => "a sequence"
  | .module => "struct ModuleConfig"
  | .connection => "struct ConnectionConfig"

/-- What a value is when it is not what it has to be. Dates and times count as maps. -/
def Toml.Value.description : Toml.Value → String
  | .string s => s!"string {quoted s}"
  | .integer z => s!"integer `{z}`"
  | .float x => s!"floating point `{x.text}`"
  | .boolean b => s!"boolean `{b}`"
  | .array _ => "sequence"
  | .dateTime _ => "map"
  | .table _ => "map"

inductive FormatError
  | missingField (field : String)
  | invalidType (found : Toml.Value) (expected : Expected)
  /-- An array that stands for an entry is too short. -/
  | invalidLength (length : Nat) (expected : Expected)

def FormatError.message : FormatError → String
  | .missingField field => s!"missing field `{field}`"
  | .invalidType found expected =>
    s!"invalid type: {found.description}, expected {expected.text}"
  | .invalidLength length expected =>
    s!"invalid length {length}, expected {expected.text} with 2 elements"

inductive TomlError
  | notToml
  | format (error : FormatError)

namespace PatchFile

def stringOf : Toml.Value → Except FormatError String
  | .string s => .ok s
  | v => .error (.invalidType v .string)

def need (name : String) : Option String → Except FormatError String
  | some s => .ok s
  | none => .error (.missingField name)

/--
The two strings of an entry. A table gives them by name, and the first bad one in the document
counts; an array gives them by position. Everything else in the entry is ignored.
-/
def entryOf (expected : Expected) (first second : String) :
    Toml.Value → Except FormatError (String × String)
  | .table entries => do
    let (a, b) ← entries.foldlM (fun (a, b) (key, v) => do
      if key = first then
        return (some (← stringOf v), b)
      else if key = second then
        return (a, some (← stringOf v))
      else
        return (a, b)) (none, none)
    return (← need first a, ← need second b)
  | .dateTime _ => .error (.missingField first)
  | .array [] => .error (.invalidLength 0 expected)
  | .array [a] => do
    let _ ← stringOf a
    .error (.invalidLength 1 expected)
  | .array (a :: b :: _) => return (← stringOf a, ← stringOf b)
  | v => .error (.invalidType v expected)

def listOf {α : Type} (item : Toml.Value → Except FormatError α) :
    Toml.Value → Except FormatError (List α)
  | .array items => items.mapM item
  | v => .error (.invalidType v .sequence)

def moduleOf (v : Toml.Value) : Except FormatError ModuleEntry := do
  let (id, kind) ← entryOf .module "id" "kind" v
  return ⟨id, kind⟩

def connectionOf (v : Toml.Value) : Except FormatError ConnectionEntry := do
  let (source, target) ← entryOf .connection "source" "target" v
  return ⟨source, target⟩

structure Draft where
  name : Option String
  description : Option String
  modules : List ModuleEntry
  connections : List ConnectionEntry

/-- Read one entry of the root table into a draft; unknown entries are ignored. -/
def Draft.read (draft : Draft) (key : String) (v : Toml.Value) : Except FormatError Draft :=
  match key with
  | "name" => return { draft with name := some (← stringOf v) }
  | "description" => return { draft with description := some (← stringOf v) }
  | "modules" => return { draft with modules := ← listOf moduleOf v }
  | "connections" => return { draft with connections := ← listOf connectionOf v }
  | _ => .ok draft

/-- The patch file a document holds. Only the name has to be there. -/
def ofDocument (entries : List (String × Toml.Value)) : Except FormatError PatchFile := do
  let draft ← entries.foldlM (fun (draft : Draft) (key, v) => draft.read key v) ⟨none, none, [], []⟩
  return ⟨← need "name" draft.name, draft.description, draft.modules, draft.connections⟩

def ofToml (text : String) : Except TomlError PatchFile :=
  match Toml.parse? text with
  | none => .error .notToml
  | some entries => (ofDocument entries).mapError .format

def toToml (file : PatchFile) : String :=
  Toml.print <|
    [("name", .string file.name)] ++
      (file.description.map fun d => ("description", Toml.Field.string d)).toList ++
      [("modules", .tables (file.modules.map fun m => [("id", m.id), ("kind", m.kind)])),
       ("connections",
        .tables (file.connections.map fun c => [("source", c.source), ("target", c.target)]))]

end PatchFile

def Snapshot.toToml (s : Snapshot) : String :=
  Toml.print
    [("modules", .tables (s.modules.map fun m => [("id", m.id), ("kind", m.kind)])),
     ("connections", .tables (s.connections.map fun c =>
       [("source", c.source), ("target", c.target), ("signal", c.signal.name)]))]

end ModularSynth
