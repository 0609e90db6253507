import ModularSynth.Proofs.Engine.Bench
import ModularSynth.Proofs.Engine.OfRack

/-!
This module contains when a bench fits a rack: but for live edges and counters it is the bench that
is made for the rack. What is added to and removed from both of them keeps the fit, and so does a
compilation.
-/

namespace ModularSynth

namespace Device

theorem bare_withBank (d : Device) (port : String) (slots : UInt64) :
    d.bare.withBank port slots = (d.withBank port slots).bare := by
  have hgains : (newGains d.id port slots).map (fun g => { g with resets := 0 })
      = newGains d.id port slots := by
    simp [newGains]
  unfold withBank bare
  rw [SortedMap.map_insert, hgains]

theorem bare_withSink (d : Device) (port : Port) :
    d.bare.withSink port = (d.withSink port).bare := by
  unfold withSink
  split
  . apply bare_withBank
  . rfl

theorem bare_ofModule (m : Module) : (ofModule m).bare = ofModule m := by
  let addOutput (d : Device) (port : Port) : Device := d.withOutput port.name
  have houtput : ∀ d port, addOutput (bare d) port = bare (addOutput d port) := fun _ _ => rfl
  have hparam : ∀ d param, withParam (bare d) param = bare (withParam d param) := fun _ _ => rfl
  calc (ofModule m).bare
    _ = m.schema.params.foldl withParam
          (m.schema.sinks.foldl withSink (m.schema.sources.foldl addOutput (new m.id).bare)) := by
      rw [List.foldl_hom bare houtput, List.foldl_hom bare bare_withSink,
        List.foldl_hom bare hparam]
      rfl
    _ = ofModule m := rfl

end Device

namespace Bench

theorem bare_addModule (bench : Bench) (m : Module) :
    (bench.addModule m).bare = bench.bare.addModule m := by
  apply SortedMap.ext_get?
  intro id
  rw [get?_bare, get?_addModule, get?_addModule, get?_bare, Option.map_or]
  split
  . rw [Option.map_some, Device.bare_ofModule]
  . rfl

theorem bare_erase (bench : Bench) (id : ModuleId) :
    bare (SortedMap.erase bench id) = SortedMap.erase bench.bare id := by
  apply SortedMap.ext_get?
  intro id'
  rw [get?_bare, SortedMap.get?_erase, SortedMap.get?_erase, get?_bare]
  split <;> rfl

theorem bare_compile (wiring : Wiring) (bench : Bench) :
    (compile wiring bench).2.bare = bench.bare := by
  apply SortedMap.ext_get?
  intro id
  rw [get?_bare, get?_bare, get?_compile, Option.map_map]
  congr
  funext d
  exact Device.bare_disconnect d

theorem bare_ofRack (rack : Rack) : (ofRack rack).bare = ofRack rack := by
  apply SortedMap.ext_get?
  intro id
  rw [get?_bare, get?_ofRack, Option.map_map]
  congr
  funext m
  exact Device.bare_ofModule m

theorem ofRack_append (rack : Rack) (m : Module) :
    ofRack (rack ++ [m]) = (ofRack rack).addModule m := by
  apply SortedMap.ext_get?
  intro id
  rw [get?_addModule, get?_ofRack, get?_ofRack, Rack.find?, List.find?_append, Option.map_or]
  congr 1
  rw [List.find?_singleton]
  by_cases heq : id = m.id
  . simp [heq]
  . simp [heq, Ne.symm heq]

theorem ofRack_erase {rack : Rack} (hids : rack.ids.Nodup) (id : ModuleId) :
    ofRack (rack.erase id) = SortedMap.erase (ofRack rack) id := by
  apply SortedMap.ext_get?
  intro id'
  rw [SortedMap.get?_erase, get?_ofRack, get?_ofRack]
  split
  . next heq => rw [heq, Rack.find?_erase_self hids, Option.map_none]
  . next hne => rw [Rack.find?_erase_of_ne hne]

theorem keys_perm_ids {bench : Bench} {rack : Rack} (hids : rack.ids.Nodup)
    (h : ∀ id, (bench.get? id).isSome = (rack.find? id).isSome) : bench.keys.Perm rack.ids := by
  rw [List.perm_ext_iff_of_nodup (SortedMap.nodup_keys bench) hids]
  intro id
  rw [SortedMap.mem_keys_iff, Rack.mem_ids_iff, h]

/-- The bench is the one made for the rack, whatever it is connected to. -/
def Fits (bench : Bench) (rack : Rack) : Prop :=
  bench.bare = ofRack rack

namespace Fits

variable {bench : Bench} {rack : Rack}

theorem ofRack (rack : Rack) : (Bench.ofRack rack).Fits rack := by
  exact bare_ofRack rack

theorem addModule (h : bench.Fits rack) (m : Module) : (bench.addModule m).Fits (rack ++ [m]) := by
  rw [Fits, bare_addModule, h, ofRack_append]

theorem removeModule (h : bench.Fits rack) (hids : rack.ids.Nodup) (id : ModuleId) :
    Fits (SortedMap.erase bench id) (rack.erase id) := by
  rw [Fits, bare_erase, h, ofRack_erase hids]

theorem compile (h : bench.Fits rack) (wiring : Wiring) :
    (ModularSynth.compile wiring bench).2.Fits rack := by
  rw [Fits, bare_compile, h]

theorem alike (h : bench.Fits rack) : Engine.Alike bench (Bench.ofRack rack) := by
  apply alike_of_bare_eq
  rw [h, bare_ofRack]

theorem get?_map_bare (h : bench.Fits rack) (id : ModuleId) :
    (bench.get? id).map Device.bare = (rack.find? id).map Device.ofModule := by
  rw [← get?_bare, h, get?_ofRack]

theorem id_of_get? (h : bench.Fits rack) {id : ModuleId} {d : Device}
    (hd : bench.get? id = some d) : d.id = id := by
  have hbare := h.get?_map_bare id
  rw [hd, Option.map_some, ← get?_ofRack] at hbare
  have hid : d.bare.id = id := id_of_get?_ofRack hbare.symm
  exact hid

theorem keys_perm (h : bench.Fits rack) (hids : rack.ids.Nodup) : bench.keys.Perm rack.ids := by
  apply keys_perm_ids hids
  intro id
  have hbare := congrArg Option.isSome (h.get?_map_bare id)
  rw [Option.isSome_map, Option.isSome_map] at hbare
  exact hbare

end Fits

end Bench
end ModularSynth
