import ModularSynth.Json.Basic
import ModularSynth.PatchFile.Basic

/-!
This module contains the JSON forms of signals, endpoints, connections, snapshots and patch files.
-/

namespace ModularSynth
namespace Json

instance : Codec Signal where
  encode s := .string s.name
  decode? json := json.name?.bind Signal.ofName?

instance : Codec Direction where
  encode d := .string d.name
  decode? json := json.name?.bind Direction.ofName?

instance : Codec Side where
  encode s := .string s.name
  decode? json := json.name?.bind Side.ofName?

instance : Codec ModuleId where
  encode id := .string id.text
  decode? json := (decode? json).map ModuleId.mk

/--
The tag of an endpoint, and what its other fields are read from. The tag is the field `kind` of an
object or the first item of an array.
-/
def tagged? : Json → Option (String × Json)
  | .object fields =>
    match fields.lookup "kind" with
    | some (.string tag) => some (tag, .object fields)
    | _ => none
  | .array (.string tag :: rest) => some (tag, .array rest)
  | _ => none

def endpointFields? (json : Json) : String → Option Endpoint
  | "port" => do
    let [m, port] ← json.fields? ["module", "port"] | none
    return .port (← required? m) (← required? port)
  | "slot" => do
    let [m, port, index] ← json.fields? ["module", "port", "index"] | none
    return .slot (← required? m) (← required? port) (← required? index)
  | "param" => do
    let [m, param] ← json.fields? ["module", "param"] | none
    return .param (← required? m) (← required? param)
  | "sink" => do
    let _ ← json.fields? []
    return .sink
  | _ => none

/-- An endpoint is tagged with its shape. -/
instance : Codec Endpoint where
  encode
    | .port m name =>
      .object [("kind", .string "port"), ("module", encode m), ("port", encode name)]
    | .slot m name index =>
      .object [("kind", .string "slot"), ("module", encode m), ("port", encode name),
        ("index", encode index)]
    | .param m name =>
      .object [("kind", .string "param"), ("module", encode m), ("param", encode name)]
    | .sink => .object [("kind", .string "sink")]
  decode? json := do
    let (tag, content) ← json.tagged?
    content.endpointFields? tag

instance : Codec Connection where
  encode c :=
    .object [("source", encode c.source), ("target", encode c.target), ("signal", encode c.signal)]
  decode? json := do
    let [source, target, signal] ← json.fields? ["source", "target", "signal"] | none
    return ⟨← required? source, ← required? target, ← required? signal⟩

instance : Codec ModuleEntry where
  encode m := .object [("id", encode m.id), ("kind", encode m.kind)]
  decode? json := do
    let [id, kind] ← json.fields? ["id", "kind"] | none
    return ⟨← required? id, ← required? kind⟩

instance : Codec ConnectionRecord where
  encode c :=
    .object [("source", encode c.source), ("target", encode c.target), ("signal", encode c.signal)]
  decode? json := do
    let [source, target, signal] ← json.fields? ["source", "target", "signal"] | none
    return ⟨← required? source, ← required? target, ← required? signal⟩

instance : Codec Snapshot where
  encode s := .object [("modules", encode s.modules), ("connections", encode s.connections)]
  decode? json := do
    let [modules, connections] ← json.fields? ["modules", "connections"] | none
    return ⟨← required? modules, ← required? connections⟩

instance : Codec ConnectionEntry where
  encode c := .object [("source", encode c.source), ("target", encode c.target)]
  decode? json := do
    let [source, target] ← json.fields? ["source", "target"] | none
    return ⟨← required? source, ← required? target⟩

/-- A patch file without a description has no such field. All fields but the name have defaults. -/
instance : Codec PatchFile where
  encode file :=
    .object <|
      [("name", encode file.name)] ++
        (file.description.map fun d => ("description", encode d)).toList ++
        [("modules", encode file.modules), ("connections", encode file.connections)]
  decode? json := do
    let [name, description, modules, connections] ←
      json.fields? ["name", "description", "modules", "connections"] | none
    return ⟨← required? name, ← optional? none description, ← optional? [] modules,
      ← optional? [] connections⟩

end Json
end ModularSynth
