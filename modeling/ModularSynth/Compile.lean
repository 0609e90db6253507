import ModularSynth.Connection
import ModularSynth.Engine.Basic

/-!
This module contains the compiler, which makes the live edges of an engine match a wiring. It
disconnects every object and then replays the connections one by one; a connection that fails is
skipped and reported, and the others are still wired.
-/

namespace ModularSynth

inductive SkipCause
  /-- An end of the connection has no counterpart in the engine. -/
  | unresolved (side : Side) (error : ResolveError)
  | engine (error : EngineError)
  deriving DecidableEq

def SkipCause.message : SkipCause → String
  | .unresolved side error => s!"{side.name} does not resolve: {error.message}"
  | .engine error => error.message

/-- A connection that was skipped, with its position in the wiring. -/
structure Skip where
  index : Nat
  connection : Connection
  cause : SkipCause
  deriving DecidableEq

def Skip.message (s : Skip) : String :=
  s!"connection #{s.index} ({s.connection.text}) skipped: {s.cause.message}"

structure Report where
  tornDown : Nat
  wired : Nat
  /-- The connections that were skipped, in the order of the wiring. -/
  skips : List Skip
  deriving DecidableEq

def Report.isClean (r : Report) : Bool :=
  r.skips.isEmpty

namespace Compile

variable {β ο : Type} [EngineObject ο] [Engine β ο]

def object (engine : β) (id : ModuleId) : Except ResolveError ο :=
  match Engine.object? engine id with
  | some o => .ok o
  | none => .error (.unknownModule id)

def outlet (engine : β) : Endpoint → Except ResolveError Outlet
  | .port id name => do
    let o ← object engine id
    if EngineObject.hasOutput o name then .ok ⟨id, name⟩ else .error (.unknownPort id name)
  | e => .error (.notEmitting e.text)

def inlet (engine : β) : Endpoint → Except ResolveError Inlet
  | .port id name => do
    let o ← object engine id
    match EngineObject.input? o name with
    | some i => .ok i
    | none => .error (.unknownPort id name)
  | .slot id name index => do
    let o ← object engine id
    let slots := EngineObject.slotCount o name
    if slots = 0 then
      .error (.unknownPort id name)
    else
      match EngineObject.slot? o name index with
      | some i => .ok i
      | none => .error (.slotOutOfRange id name (slotNumber index) slots)
  | .param id name => do
    let o ← object engine id
    match EngineObject.param? o name with
    | some i => .ok i
    | none => .error (.unknownParam id name)
  | .sink => .ok (Engine.sink engine)

/-- Disconnect the object of an id; nothing happens if there is none to change. -/
def disconnect? (engine : β) (id : ModuleId) : Option β :=
  (Engine.editable? engine id).map fun o => Engine.put engine id (EngineObject.disconnect o)

/-- Disconnect the objects of some ids one after the other, and count them. -/
def disconnectAll (engine : β) : List ModuleId → Nat × β
  | [] => (0, engine)
  | id :: ids =>
    match disconnect? engine id with
    | some engine =>
      let (count, engine) := disconnectAll engine ids
      (count + 1, engine)
    | none => disconnectAll engine ids

/-- Disconnect every object of an engine, and count them. -/
def teardown (engine : β) : Nat × β :=
  disconnectAll engine (Engine.ids engine)

/-- Where a connection starts and ends on an engine. -/
def ends (engine : β) (c : Connection) : Except SkipCause (Outlet × Inlet) := do
  let source ← (outlet engine c.source).mapError (.unresolved .source)
  let target ← (inlet engine c.target).mapError (.unresolved .target)
  return (source, target)

/-- Wire a connection. An object that refuses it goes back to the engine like any other. -/
def wire (engine : β) (c : Connection) : Except SkipCause Unit × β :=
  match ends engine c with
  | .error cause => (.error cause, engine)
  | .ok (source, target) =>
    match Engine.editable? engine source.module with
    | none => (.error (.unresolved .source (.unknownModule source.module)), engine)
    | some o =>
      let (result, o) := EngineObject.connect o source.port target
      (result.mapError .engine, Engine.put engine source.module o)

/-- What is left of a replay: the connections that were skipped and the wired engine. -/
structure Replay (β : Type) where
  wired : Nat
  skips : List Skip
  engine : β

def replay (engine : β) (wiring : Wiring) : Replay β :=
  go engine 0 wiring
where
  go (engine : β) (index : Nat) : Wiring → Replay β
    | [] => ⟨0, [], engine⟩
    | c :: rest =>
      match wire engine c with
      | (.ok (), engine) =>
        let r := go engine (index + 1) rest
        { r with wired := r.wired + 1 }
      | (.error cause, engine) =>
        let r := go engine (index + 1) rest
        { r with skips := ⟨index, c, cause⟩ :: r.skips }

end Compile

/-- Rebuild the live edges of an engine from a wiring. -/
def compile {β ο : Type} [EngineObject ο] [Engine β ο] (wiring : Wiring) (engine : β) :
    Report × β :=
  let (tornDown, engine) := Compile.teardown engine
  let r := Compile.replay engine wiring
  (⟨tornDown, r.wired, r.skips⟩, r.engine)

end ModularSynth
