import ModularSynth.Command.Basic
import ModularSynth.Command.Error
import ModularSynth.Engine.Bench
import ModularSynth.Json.Codec
import ModularSynth.Json.Printer
import ModularSynth.PatchFile.Factory

/-!
This module contains what the commands do. A command reads at most one file and writes at most one;
everything else about it is a function from its arguments to the text it prints.
-/

namespace ModularSynth
namespace Command

def column (width : Nat) (s : String) : String :=
  s ++ String.ofList (List.replicate (width - s.length) ' ')

def unlines (lines : List String) : String :=
  String.join (lines.map (· ++ "\n"))

/-- A title with a line under it; the line is as long as the title has bytes. -/
def underlined (title : String) : List String :=
  [title, String.ofList (List.replicate title.utf8ByteSize '=')]

def listing (heading : String) (items : List String) : List String :=
  ["", s!"{heading} ({items.length}):"] ++ items.map ("  " ++ ·)

def kindList (catalog : Catalog) : List String :=
  underlined "Available Modules" ++
    Category.all.flatMap (fun category =>
      match catalog.inCategory category with
      | [] => []
      | kinds =>
        ["", s!"{category.name} - {category.description}"] ++
          kinds.map fun kind => s!"  {column 12 kind.id} - {kind.description}") ++
    ["", "Use 'patchbay modules <kind>' for ports and parameters."]

def portRow (name direction signal slots : String) : String :=
  s!"  {column 12 name}  {column 9 direction}  {column 6 signal}  {slots}"

/-- An address for each port and parameter of a module that is named after its kind. -/
def exampleAddresses (schema : Schema) : List String :=
  let id := schema.kind ++ "-1"
  let portAddress (port : Port) : String :=
    if port.direction = .sink ∧ port.isBank then s!"{id}/{port.name}/1..{port.slots}"
    else s!"{id}/{port.name}"
  schema.ports.map portAddress ++ schema.params.map fun param => s!"{id}/{param}"

def kindDetails (kind : Kind) : List String :=
  underlined s!"{kind.name} ({kind.id})" ++
    ["", kind.description, "", "Ports:", "",
     portRow "Name" "Direction" "Signal" "Slots",
     portRow "----" "---------" "------" "-----"] ++
    kind.schema.ports.map (fun port =>
      portRow port.name port.direction.name port.signal.name (toString port.slots)) ++
    ["",
     if kind.schema.params = [] then "Parameters: (none)"
     else "Parameters: " ++ String.intercalate ", " kind.schema.params] ++
    ["", "Example addresses:"] ++ (exampleAddresses kind.schema).map ("  " ++ ·)

def factoryList : List String :=
  ["Factory Patches:", "================"] ++
    Factory.all.map (fun (id, file) =>
      let description := file.description.getD ""
      s!"  {column 20 id} - {description}") ++
    ["", "Use 'patchbay check --factory <name>' to compile one."]

def notReady (bench : Bench) : List String → Except CommandError Bench
  | [] => .ok bench
  | id :: ids =>
    match bench.setReady ⟨id⟩ false with
    | some bench => notReady bench ids
    | none => .error (.unknownModule id)

def compileSummary (file : PatchFile) (p : Patch) (bench : Bench) (report : Report) :
    List String :=
  underlined s!"Patch: {file.name}" ++
    (match file.description with
      | some description => ["", description]
      | none => []) ++
    listing "Modules" (p.rack.map fun m => s!"{column 12 m.id.text} {m.kind}") ++
    listing "Connections" (p.wiring.mapIdx fun i c => s!"{i + 1}. {c.text}") ++
    listing "Live edges" (bench.liveEdges.map fun e => s!"{e.source.text} -> {e.target.text}") ++
    (if report.isClean then [] else listing "Skipped" (report.skips.map (·.message))) ++
    ["", s!"Compiled: {report.wired} wired, {report.skips.length} skipped"]

/-- Check a patch file and compile it to a bench with a device for each module. -/
def checkFile (file : PatchFile) (ids : List String) : Except CommandError String := do
  let issues := file.issues .builtin
  if issues ≠ [] then
    .error (.issues file.name issues)
  else
    let p ← (file.build .builtin).mapError .build
    let bench ← notReady (.ofRack p.rack) ids
    let (report, p, bench) := p.compile bench
    return unlines (compileSummary file p bench report)

def snapshotText : SnapshotFormat → Snapshot → String
  | .json, s => (Json.encode s).pretty 0
  | .toml, s => s.toToml

inductive Outcome
  | print (text : String)
  | write (path text : String)

def load (read : String → Except FileFault ByteArray) : PatchSource → Except CommandError PatchFile
  | .factory name =>
    match Factory.find? name with
    | some file => .ok file
    | none => .error (.unknownSource name)
  | .file path => (PatchFile.ofBytes path (read path)).mapError .storage

/-- Run a command; `read` gives the bytes of a file. -/
def run (read : String → Except FileFault ByteArray) : Command → Except CommandError Outcome
  | .modules none => .ok (.print (unlines (kindList .builtin)))
  | .modules (some name) =>
    match Catalog.builtin.find? (lowercase name) with
    | some kind => .ok (.print (unlines (kindDetails kind)))
    | none => .error (.unknownKind (lowercase name))
  | .check source ids => do
    let file ← load read source
    return .print (← checkFile file ids)
  | .snapshot source format output => do
    let file ← load read source
    let p ← (file.build .builtin).mapError .build
    let text := snapshotText format p.snapshot
    match output with
    | some path => return .write path text
    | none => return .print (text ++ "\n")
  | .factory none => .ok (.print (unlines factoryList))
  | .factory (some name) =>
    match Factory.find? name with
    | some file => .ok (.print file.toToml)
    | none => .error (.unknownFactory name)

structure Result where
  exitCode : UInt32
  stdout : String
  stderr : String

def Result.ofError (e : CommandError) : Result :=
  ⟨e.exitCode, "", e.text⟩

def Result.ofWrite : Except FileFault Unit → Result
  | .ok () => ⟨0, "", ""⟩
  | .error fault => .ofError (.output fault)

def execute (tree : FileTree) (args : List String) : Result × FileTree :=
  match ofArguments? args with
  | none => (.ofError .usage, tree)
  | some command =>
    match run tree.readBytes command with
    | .error e => (.ofError e, tree)
    | .ok (.print text) => (⟨0, text, ""⟩, tree)
    | .ok (.write path text) =>
      match tree.write path text.toUTF8 with
      | .ok tree => (.ofWrite (.ok ()), tree)
      | .error fault => (.ofWrite (.error fault), tree)

end Command
end ModularSynth
