import ModularSynth.Patch
import ModularSynth.Proofs.Engine.Counters
import ModularSynth.Proofs.Engine.Fits

/-!
This module contains what holds of a bench however it has been used. Each device is stored under its
own id, its live edges leave from its own outputs and are no more than the connections it has
counted, and every gain has the handle of its own slot and is reset as often as its device is
disconnected.
-/

namespace ModularSynth

open EngineObject (Next plug)

namespace Device

inductive Part
  | output (port : String)
  | input (port : String)
  | bank (port : String) (slots : UInt64)
  | param (param : String)

def fit (d : Device) : Part → Device
  | .output port => d.withOutput port
  | .input port => d.withInput port
  | .bank port slots => d.withBank port slots
  | .param param => d.withParam param

/-- A device that has been put together and not used yet. -/
def assemble (id : ModuleId) (parts : List Part) : Device :=
  parts.foldl fit (new id)

def sinkPart (port : Port) : Part :=
  if port.isBank then .bank port.name port.slots else .input port.name

def partsOf (m : Module) : List Part :=
  m.schema.sources.map (fun port => .output port.name) ++ m.schema.sinks.map sinkPart
    ++ m.schema.params.map .param

theorem fit_sinkPart (d : Device) (port : Port) : d.fit (sinkPart port) = d.withSink port := by
  unfold sinkPart withSink
  split <;> rfl

theorem ofModule_eq_assemble (m : Module) : ofModule m = assemble m.id (partsOf m) := by
  unfold assemble partsOf
  rw [List.foldl_append, List.foldl_append, List.foldl_map, List.foldl_map, List.foldl_map]
  simp only [fit_sinkPart]
  rfl

/-- What holds of the device of an id, however it has been used. -/
structure Sound (d : Device) (id : ModuleId) : Prop extends d.Genuine id where
  live : ∀ e ∈ d.live, e.source.module = id ∧ e.source.port ∈ d.outputs
  length_live : d.live.length ≤ d.connects
  resets : ∀ port gains, d.banks.get? port = some gains → ∀ g ∈ gains, g.resets = d.disconnects

section Sound

variable {d : Device} {id : ModuleId}

theorem new_sound (id : ModuleId) : (new id).Sound id where
  named := rfl
  slots := by simp [new]
  live := by simp [new]
  length_live := Nat.le_refl 0
  resets := by simp [new]

theorem Genuine.withBank (h : d.Genuine id) (port : String) (slots : UInt64) :
    (d.withBank port slots).Genuine id := by
  refine ⟨h.named, ?_⟩
  intro port' gains hgains i g hg
  rw [Device.withBank, SortedMap.get?_insert] at hgains
  split at hgains
  . next heq =>
    cases hgains
    rcases newGains_eq_some_iff.1 hg with ⟨index, hindex, -, rfl⟩
    rw [heq]
    exact ⟨index, hindex, by rw [h.named]⟩
  . exact h.slots port' gains hgains i g hg

/-- The gains of a new bank start at zero, so it has to come before the first disconnection. -/
theorem Sound.fit (h : d.Sound id) (hunused : d.disconnects = 0) (part : Part) :
    (d.fit part).Sound id ∧ (d.fit part).disconnects = 0 := by
  cases part with
  | output port =>
    refine ⟨⟨⟨h.named, h.slots⟩, ?_, h.length_live, h.resets⟩, hunused⟩
    intro e he
    rcases h.live e he with ⟨hmodule, hport⟩
    exact ⟨hmodule, List.mem_append_left _ hport⟩
  | input port => exact ⟨⟨⟨h.named, h.slots⟩, h.live, h.length_live, h.resets⟩, hunused⟩
  | bank port slots =>
    refine ⟨⟨h.toGenuine.withBank port slots, h.live, h.length_live, ?_⟩, hunused⟩
    intro port' gains hgains g hg
    rw [Device.fit, withBank, SortedMap.get?_insert] at hgains
    split at hgains
    . cases hgains
      rcases List.mem_map.1 hg with ⟨_, -, rfl⟩
      exact hunused.symm
    . exact h.resets port' gains hgains g hg
  | param param => exact ⟨⟨⟨h.named, h.slots⟩, h.live, h.length_live, h.resets⟩, hunused⟩

theorem assemble_sound (id : ModuleId) (parts : List Part) : (assemble id parts).Sound id := by
  suffices h : (assemble id parts).Sound id ∧ (assemble id parts).disconnects = 0 from h.1
  apply List.foldlRecOn (motive := fun d => d.Sound id ∧ d.disconnects = 0) parts Device.fit
  . exact ⟨new_sound id, rfl⟩
  . intro d h part _
    exact h.1.fit h.2 part

theorem ofModule_sound (m : Module) : (ofModule m).Sound m.id := by
  rw [ofModule_eq_assemble]
  exact assemble_sound m.id (partsOf m)

theorem Sound.setReady (h : d.Sound id) (ready : Bool) :
    Sound { d with ready := ready } id := by
  exact ⟨⟨h.named, h.slots⟩, h.live, h.length_live, h.resets⟩

theorem Sound.connect (h : d.Sound id) (port : String) (target : Inlet) :
    (d.connect port target).2.Sound id := by
  rcases d.connect_cases port target with ⟨-, hport, heq⟩ | ⟨e, heq⟩
  . rw [heq]
    refine ⟨⟨h.named, h.slots⟩, ?_, ?_, h.resets⟩
    . intro e he
      rcases List.mem_append.1 he with he | he
      . exact h.live e he
      . rw [List.mem_singleton.1 he]
        exact ⟨h.named, hport⟩
    . have := h.length_live
      simpa using this
  . rw [heq]
    exact h

theorem Sound.disconnect (h : d.Sound id) : d.disconnect.Sound id := by
  refine ⟨⟨h.named, ?_⟩, by simp [Device.disconnect], Nat.zero_le _, ?_⟩
  . intro port gains hgains i g hg
    rw [Device.disconnect, SortedMap.get?_map, Option.map_eq_some_iff] at hgains
    rcases hgains with ⟨gains', hgains', rfl⟩
    rw [List.getElem?_map, Option.map_eq_some_iff] at hg
    rcases hg with ⟨g', hg', rfl⟩
    exact h.slots port gains' hgains' i g' hg'
  . intro port gains hgains g hg
    rw [Device.disconnect, SortedMap.get?_map, Option.map_eq_some_iff] at hgains
    rcases hgains with ⟨gains', hgains', rfl⟩
    rcases List.mem_map.1 hg with ⟨g', hg', rfl⟩
    exact congrArg (· + 1) (h.resets port gains' hgains' g' hg')

theorem Sound.next {d' : Device} (h : d.Sound id) (hnext : Next d d') : d'.Sound id := by
  cases hnext with
  | connect port target => exact h.connect port target
  | disconnect => exact h.disconnect

end Sound

end Device

namespace Bench

/-- Each device is sound for the id it is stored under. -/
def Sound (bench : Bench) : Prop :=
  ∀ id d, bench.get? id = some d → d.Sound id

namespace Sound

variable {bench : Bench}

theorem empty : Sound .empty := by
  intro id d hd
  contradiction

theorem insert (h : bench.Sound) {id : ModuleId} {d : Device} (hd : d.Sound id) :
    Sound (SortedMap.insert bench id d) := by
  intro id' d' hd'
  rw [SortedMap.get?_insert] at hd'
  split at hd'
  . next heq =>
    cases hd'
    rw [heq]
    exact hd
  . exact h id' d' hd'

theorem add (h : bench.Sound) {id : ModuleId} {d : Device} (hd : d.Sound id) :
    (bench.add d).Sound := by
  rw [Bench.add, hd.named]
  exact h.insert hd

theorem erase (h : bench.Sound) (id : ModuleId) : Sound (SortedMap.erase bench id) := by
  intro id' d hd
  rw [SortedMap.get?_erase] at hd
  split at hd
  . contradiction
  . exact h id' d hd

theorem addModule (h : bench.Sound) (m : Module) : (bench.addModule m).Sound := by
  unfold Bench.addModule SortedMap.insertIfNew
  split
  . exact h
  . exact h.insert (Device.ofModule_sound m)

theorem sync (h : bench.Sound) (rack : Rack) : (bench.sync rack).Sound := by
  apply List.foldlRecOn rack Bench.addModule
  . intro id d hd
    rw [SortedMap.get?_filterKeys] at hd
    split at hd
    . exact h id d hd
    . contradiction
  . intro bench h m _
    exact h.addModule m

theorem setReady (h : bench.Sound) {id : ModuleId} {ready : Bool} {bench' : Bench}
    (hready : bench.setReady id ready = some bench') : bench'.Sound := by
  rw [Bench.setReady, Option.bind_eq_bind, Option.bind_eq_some_iff] at hready
  rcases hready with ⟨d, hd, hbench⟩
  cases hbench
  exact h.insert ((h id d hd).setReady ready)

theorem change (h : bench.Sound) (id : ModuleId) {f : Device → Device} (hf : ∀ d, Next d (f d)) :
    Sound (Engine.change bench id f) := by
  unfold Engine.change
  split
  . next d hd => exact h.insert ((h id d hd).next (hf d))
  . exact h

theorem compile (h : bench.Sound) (wiring : Wiring) :
    (ModularSynth.compile wiring bench).2.Sound := by
  apply Compile.compile_induction _ h
  intro bench id d d' hd hnext h
  exact h.insert ((h id d hd).next hnext)

end Sound

inductive Origin
  | new
  | ofPatch (p : Patch)

def Origin.bench : Origin → Bench
  | .new => .empty
  | .ofPatch p => .ofRack p.rack

inductive Call
  /-- Add a device that is put together for this call. -/
  | add (id : ModuleId) (parts : List Device.Part)
  | remove (id : ModuleId)
  | sync (p : Patch)
  | moduleAdded (m : Module)
  | moduleRemoved (id : ModuleId)
  | setReady (id : ModuleId) (ready : Bool)
  | connect (id : ModuleId) (port : String) (target : Inlet)
  | disconnect (id : ModuleId)
  | compile (wiring : Wiring)

/-- The bench after a call. A call on the device of an id has no effect if there is none. -/
def call (bench : Bench) : Call → Bench
  | .add id parts => bench.add (.assemble id parts)
  | .remove id => SortedMap.erase bench id
  | .sync p => bench.sync p.rack
  | .moduleAdded m => Engine.moduleAdded bench m
  | .moduleRemoved id => Engine.moduleRemoved bench id
  | .setReady id ready => (bench.setReady id ready).getD bench
  | .connect id port target => Engine.change bench id (plug ⟨⟨id, port⟩, target⟩)
  | .disconnect id => Engine.change bench id EngineObject.disconnect
  | .compile wiring => (ModularSynth.compile wiring bench).2

def run (origin : Origin) (calls : List Call) : Bench :=
  calls.foldl call origin.bench

theorem Origin.bench_sound (origin : Origin) : origin.bench.Sound := by
  cases origin with
  | new => exact .empty
  | ofPatch p => exact Sound.empty.sync p.rack

theorem Sound.call {bench : Bench} (h : bench.Sound) (c : Call) : (bench.call c).Sound := by
  cases c with
  | add id parts => exact h.add (Device.assemble_sound id parts)
  | remove id => exact h.erase id
  | sync p => exact h.sync p.rack
  | moduleAdded m => exact h.addModule m
  | moduleRemoved id => exact h.erase id
  | setReady id ready =>
    rw [Bench.call]
    cases hready : bench.setReady id ready with
    | none => exact h
    | some bench' => exact h.setReady hready
  | connect id port target => exact h.change id (EngineObject.plug_next _)
  | disconnect id => exact h.change id fun _ => .disconnect
  | compile wiring => exact h.compile wiring

theorem run_sound (origin : Origin) (calls : List Call) : (run origin calls).Sound := by
  apply List.foldlRecOn calls Bench.call origin.bench_sound
  intro bench h c _
  exact h.call c

/--
After any calls the devices are sound for the ids they are stored under. A compilation then adds to
the counters of the bench just what its report says, and but for counters and live edges it leaves
every device as it was.
-/
theorem run_accounts (origin : Origin) (calls : List Call) :
    let bench := run origin calls
    (∀ id d, bench.get? id = some d →
        d.id = id
          ∧ (∀ e ∈ d.live, e.source.module = id ∧ e.source.port ∈ d.outputs)
          ∧ d.live.length ≤ d.connects
          ∧ ∀ port gains, d.banks.get? port = some gains → ∀ i g, gains[i]? = some g →
              (∃ index : UInt64, index.toNat = i ∧ g.inlet = .slot id port index)
                ∧ g.resets = d.disconnects)
      ∧ ∀ wiring,
          let report := (compile wiring bench).1
          let after := (compile wiring bench).2
          after.connects = bench.connects + report.wired
            ∧ after.disconnects = bench.disconnects + report.tornDown
            ∧ after.bare = bench.bare := by
  intro bench
  refine ⟨?_, ?_⟩
  . intro id d hd
    have h : d.Sound id := run_sound origin calls id d hd
    refine ⟨h.named, h.live, h.length_live, ?_⟩
    intro port gains hgains i g hg
    exact ⟨h.slots port gains hgains i g hg, h.resets port gains hgains g (List.mem_of_getElem? hg)⟩
  . intro wiring report after
    exact ⟨connects_compile wiring bench, disconnects_compile wiring bench,
      bare_compile wiring bench⟩

end Bench
end ModularSynth
