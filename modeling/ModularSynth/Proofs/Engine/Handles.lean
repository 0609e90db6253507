import ModularSynth.Proofs.Engine.Bench

/-!
This module contains the handles that a bench has for endpoints, told from the inputs, banks and
parameters of its devices, and the edges that connections stand for. What the compiler looks up is
just these handles.
-/

namespace ModularSynth

namespace Endpoint

def outlet? : Endpoint → Option Outlet
  | .port id name => some ⟨id, name⟩
  | _ => none

def inlet : Endpoint → Inlet
  | .port id name => .input id name
  | .slot id name index => .slot id name index
  | .param id name => .param id name
  | .sink => .destination

theorem eq_of_outlet?_eq {e e' : Endpoint} {source : Outlet} (h : e.outlet? = some source)
    (h' : e'.outlet? = some source) : e = e' := by
  have hport : ∀ e : Endpoint, e.outlet? = some source → e = .port source.module source.port := by
    intro e h
    cases e <;> cases h
    rfl
  rw [hport e h, hport e' h']

theorem eq_of_inlet_eq {e e' : Endpoint} (h : e.inlet = e'.inlet) : e = e' := by
  cases e <;> cases e' <;> simp_all [inlet]

end Endpoint

/-- The edge a connection stands for. -/
def Connection.edge? (c : Connection) : Option Edge := do
  let source ← c.source.outlet?
  return ⟨source, c.target.inlet⟩

theorem Connection.edge?_eq_some_iff {c : Connection} {e : Edge} :
    c.edge? = some e ↔ c.source.outlet? = some e.source ∧ c.target.inlet = e.target := by
  unfold edge?
  cases c.source.outlet? with
  | none => simp
  | some source =>
    rcases e with ⟨source', target⟩
    simp

namespace Bench

open Compile (inlet fate)

section Handle

variable {bench : Bench} {id : ModuleId} {d : Device}

theorem inlet_of_noModule {e : Endpoint} (howner : e.owner? = some id) (hd : bench.get? id = none) :
    inlet bench e = .error (.unknownModule id) := by
  cases e with
  | port | slot | param =>
    cases howner
    rw [inlet, object_of_get?_eq_none hd, Except.error_bind]
  | sink => contradiction

theorem inlet_port (hd : bench.get? id = some d) (port : String) :
    inlet bench (.port id port)
      = if port ∈ d.inputs then .ok (.input d.id port) else .error (.unknownPort id port) := by
  have hinput : EngineObject.input? d port
      = if port ∈ d.inputs then some (.input d.id port) else none := by
    simp [EngineObject.input?, Device.input?]
  rw [inlet, object_of_get?_eq_some hd, Except.ok_bind, hinput]
  by_cases hport : port ∈ d.inputs <;> simp [hport]

theorem inlet_param (hd : bench.get? id = some d) (name : String) :
    inlet bench (.param id name)
      = if name ∈ d.params then .ok (.param d.id name) else .error (.unknownParam id name) := by
  have hparam : EngineObject.param? d name
      = if name ∈ d.params then some (.param d.id name) else none := by
    simp [EngineObject.param?, Device.param?]
  rw [inlet, object_of_get?_eq_some hd, Except.ok_bind, hparam]
  by_cases hname : name ∈ d.params <;> simp [hname]

/-- A bank that the device does not have is taken for one without gains. -/
theorem inlet_slot (hd : bench.get? id = some d) {port : String} {gains : List SlotGain}
    (hgains : (d.banks.get? port).getD [] = gains) (index : UInt64) :
    inlet bench (.slot id port index)
      = if gains = [] then .error (.unknownPort id port)
        else match gains[index.toNat]? with
          | some gain => .ok gain.inlet
          | none => .error (.slotOutOfRange id port (slotNumber index) gains.length) := by
  have hcount : EngineObject.slotCount d port = gains.length := congrArg List.length hgains
  have hslot : EngineObject.slot? d port index = gains[index.toNat]?.map (·.inlet) := by
    rw [← hgains]
    simp only [EngineObject.slot?, Device.slot?]
    cases d.banks.get? port with
    | none => rfl
    | some gains => cases hgain : gains[index.toNat]? <;> simp [hgain]
  rw [inlet, object_of_get?_eq_some hd, Except.ok_bind, hcount, hslot]
  dsimp only
  by_cases hnil : gains = []
  . rw [if_pos hnil, if_pos (List.length_eq_zero_iff.2 hnil)]
  . rw [if_neg hnil, if_neg (mt List.length_eq_zero_iff.1 hnil)]
    cases gains[index.toNat]? <;> rfl

/--
The handle that a bench has for an endpoint: the device of its module has the input or the parameter
of that name, or a gain at that place of the bank.
-/
def handle? (bench : Bench) : Endpoint → Option Inlet
  | .port id name => do
    let d ← bench.get? id
    if name ∈ d.inputs then some (.input d.id name) else none
  | .slot id name index => do
    let d ← bench.get? id
    let gains ← d.banks.get? name
    let gain ← gains[index.toNat]?
    return gain.inlet
  | .param id name => do
    let d ← bench.get? id
    if name ∈ d.params then some (.param d.id name) else none
  | .sink => some .destination

/-- The compiler finds just the handles that are there. -/
theorem handle?_eq (bench : Bench) (e : Endpoint) : bench.handle? e = (inlet bench e).toOption := by
  cases e with
  | port id name =>
    cases hd : bench.get? id with
    | none =>
      rw [inlet_of_noModule rfl hd, handle?, hd]
      rfl
    | some d =>
      rw [inlet_port hd, handle?, hd]
      by_cases hname : name ∈ d.inputs <;> simp [hname, Except.toOption]
  | slot id name index =>
    cases hd : bench.get? id with
    | none =>
      rw [inlet_of_noModule rfl hd, handle?, hd]
      rfl
    | some d =>
      rw [inlet_slot hd rfl, handle?, hd]
      cases hbank : d.banks.get? name with
      | none => simp [hbank, Except.toOption]
      | some gains =>
        cases hgain : gains[index.toNat]? with
        | none => cases gains <;> simp_all [Except.toOption]
        | some gain => cases gains <;> simp_all [Except.toOption]
  | param id name =>
    cases hd : bench.get? id with
    | none =>
      rw [inlet_of_noModule rfl hd, handle?, hd]
      rfl
    | some d =>
      rw [inlet_param hd, handle?, hd]
      by_cases hname : name ∈ d.params <;> simp [hname, Except.toOption]
  | sink => rfl

theorem handle?_eq_some_iff {bench : Bench} {e : Endpoint} {i : Inlet} :
    bench.handle? e = some i ↔ inlet bench e = .ok i := by
  rw [handle?_eq, Except.toOption_eq_some_iff]

theorem handle?_congr {a b : Bench} (h : a.bare = b.bare) (e : Endpoint) :
    a.handle? e = b.handle? e := by
  rw [handle?_eq, handle?_eq, Compile.inlet_congr (alike_of_bare_eq h)]

end Handle

/-- The edge a connection stands for on a bench, if there are a device and a handle for its ends. -/
def edge? (bench : Bench) (c : Connection) : Option Edge := do
  let source ← c.source.outlet?
  let d ← bench.get? source.module
  let target ← bench.handle? c.target
  return ⟨⟨d.id, source.port⟩, target⟩

theorem edge?_of_fate {bench : Bench} {c : Connection} {e : Edge} {d : Device}
    (h : fate bench c = .ok e) (hd : bench.get? e.source.module = some d) :
    bench.edge? c = some (d.edge e) := by
  rcases Compile.fate_eq_ok_iff.1 h with ⟨-, htarget, -⟩
  rw [edge?, Compile.source_of_fate h, handle?_eq_some_iff.2 htarget]
  simp [Endpoint.outlet?, hd, Device.edge]

end Bench

/-- The device has the handles of a module: it names itself by the id, and gains are slots. -/
structure Device.Genuine (d : Device) (id : ModuleId) : Prop where
  named : d.id = id
  slots : ∀ port gains, d.banks.get? port = some gains → ∀ i g, gains[i]? = some g →
    ∃ index : UInt64, index.toNat = i ∧ g.inlet = .slot id port index

/-- Each device has the handles of the module it is kept for. -/
def Bench.Genuine (bench : Bench) : Prop :=
  ∀ id d, bench.get? id = some d → d.Genuine id

namespace Bench.Genuine

variable {bench : Bench} (h : bench.Genuine)
include h

theorem inlet_eq {e : Endpoint} {i : Inlet} (hi : bench.handle? e = some i) : e.inlet = i := by
  cases e with
  | port id name =>
    simp only [handle?, Option.bind_eq_bind, Option.bind_eq_some_iff] at hi
    rcases hi with ⟨d, hd, hi⟩
    split at hi <;> cases hi
    rw [(h id d hd).named, Endpoint.inlet]
  | slot id name index =>
    simp only [handle?, Option.bind_eq_bind, Option.bind_eq_some_iff] at hi
    rcases hi with ⟨d, hd, gains, hgains, gain, hgain, hi⟩
    cases hi
    rcases (h id d hd).slots name gains hgains _ gain hgain with ⟨index', hindex, hinlet⟩
    rw [hinlet, UInt64.toNat_inj.1 hindex, Endpoint.inlet]
  | param id name =>
    simp only [handle?, Option.bind_eq_bind, Option.bind_eq_some_iff] at hi
    rcases hi with ⟨d, hd, hi⟩
    split at hi <;> cases hi
    rw [(h id d hd).named, Endpoint.inlet]
  | sink =>
    cases hi
    rfl

theorem edge?_eq {c : Connection} {e : Edge} (he : bench.edge? c = some e) : c.edge? = some e := by
  simp only [Bench.edge?, Option.bind_eq_bind, Option.bind_eq_some_iff] at he
  rcases he with ⟨source, hsource, d, hd, target, htarget, he⟩
  cases he
  rw [Connection.edge?_eq_some_iff, (h _ d hd).named]
  exact ⟨hsource, h.inlet_eq htarget⟩

end Bench.Genuine
end ModularSynth
