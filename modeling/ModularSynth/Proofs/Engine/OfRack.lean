import ModularSynth.Engine.Bench
import ModularSynth.Proofs.List
import ModularSynth.Proofs.Rack
import ModularSynth.Proofs.SortedMap

/-!
This module contains what the devices that are made for the modules of a rack answer: each has a
handle for every port and every parameter that the schema of its module declares.
-/

namespace ModularSynth

namespace Device

theorem foldl_withOutput (d : Device) (ports : List Port) :
    ports.foldl (fun d port => d.withOutput port.name) d
      = { d with outputs := d.outputs ++ ports.map (·.name) } := by
  induction ports generalizing d with
  | nil => simp
  | cons port rest ih =>
    rw [List.foldl_cons, ih, withOutput]
    simp

theorem foldl_withParam (d : Device) (params : List String) :
    params.foldl withParam d = { d with params := d.params ++ params } := by
  induction params generalizing d with
  | nil => simp
  | cons param rest ih =>
    rw [List.foldl_cons, ih, withParam]
    simp

theorem foldl_withSink (d : Device) (ports : List Port) :
    ports.foldl withSink d
      = { d with
          inputs := d.inputs ++ (ports.filter (!·.isBank)).map (·.name)
          banks := (ports.filter (·.isBank)).foldl
            (fun banks port => banks.insert port.name (newGains d.id port.name port.slots))
            d.banks } := by
  induction ports generalizing d with
  | nil => simp
  | cons port rest ih =>
    rw [List.foldl_cons, ih, withSink]
    cases hbank : port.isBank <;> simp [hbank, withBank, withInput]

theorem newGains_eq_some_iff {id : ModuleId} {port : String} {slots : UInt64} {i : Nat}
    {g : SlotGain} :
    (newGains id port slots)[i]? = some g ↔
      ∃ index : UInt64, index.toNat = i ∧ index < slots ∧ g = ⟨.slot id port index, 0⟩ := by
  rw [newGains, List.getElem?_map, Option.map_eq_some_iff]
  simp only [List.getElem?_eq_some_iff, List.getElem_range, List.length_range]
  constructor
  . rintro ⟨_, ⟨hlt, rfl⟩, rfl⟩
    have hsize : i < UInt64.size := Nat.lt_trans hlt slots.toNat_lt
    have htoNat : (UInt64.ofNat i).toNat = i := UInt64.toNat_ofNat_of_lt' hsize
    refine ⟨_, htoNat, ?_, rfl⟩
    rw [UInt64.lt_iff_toNat_lt, htoNat]
    exact hlt
  . rintro ⟨index, rfl, hlt, rfl⟩
    refine ⟨_, ⟨UInt64.lt_iff_toNat_lt.1 hlt, rfl⟩, ?_⟩
    rw [UInt64.ofNat_toNat]

def banksOf (m : Module) : SortedMap String (List SlotGain) compare :=
  (m.schema.sinks.filter (·.isBank)).foldl
    (fun banks port => banks.insert port.name (newGains m.id port.name port.slots)) .empty

theorem ofModule_eq (m : Module) :
    ofModule m = { new m.id with
      outputs := m.schema.sources.map (·.name)
      inputs := (m.schema.sinks.filter (!·.isBank)).map (·.name)
      banks := banksOf m
      params := m.schema.params } := by
  simp [ofModule, foldl_withOutput, foldl_withSink, foldl_withParam, new, banksOf]

section Answers

variable {m : Module} {name : String} {port : Port}

theorem get?_banksOf (hport : m.schema.port? name = some port)
    (hunique : ∀ q ∈ m.schema.ports, q.name = name → q = port) (hdirection : port.direction = .sink)
    (hbank : port.isBank) : (banksOf m).get? name = some (newGains m.id name port.slots) := by
  have hname : port.name = name := by simpa using List.find?_some hport
  have hmem : port ∈ m.schema.sinks.filter (·.isBank) := by
    simp [Schema.sinks, List.mem_of_find?_eq_some hport, hdirection, hbank]
  have hgains : ∀ q ∈ m.schema.sinks.filter (·.isBank), q.name = name →
      newGains m.id q.name q.slots = newGains m.id name port.slots := by
    intro q hq hqname
    have hqmem := List.mem_of_mem_filter (List.mem_of_mem_filter hq)
    rw [hqname, hunique q hqmem hqname]
  rw [banksOf, SortedMap.get?_foldl_insert hgains, if_pos]
  exact List.mem_map.2 ⟨port, hmem, hname⟩

theorem hasOutput_ofModule (hport : m.schema.port? name = some port)
    (hdirection : port.direction = .source) : (ofModule m).hasOutput name := by
  have hname : port.name = name := by simpa using List.find?_some hport
  have hmem := List.mem_of_find?_eq_some hport
  rw [ofModule_eq, hasOutput, List.contains_iff_mem, ← hname]
  apply List.mem_map_of_mem
  simp [Schema.sources, hmem, hdirection]

theorem input?_ofModule (hport : m.schema.port? name = some port)
    (hdirection : port.direction = .sink) (hbank : port.isBank = false) :
    (ofModule m).input? name = some (.input m.id name) := by
  have hname : port.name = name := by simpa using List.find?_some hport
  have hmem := List.mem_of_find?_eq_some hport
  rw [ofModule_eq, input?, if_pos]
  . rfl
  . rw [List.contains_iff_mem, ← hname]
    apply List.mem_map_of_mem
    simp [Schema.sinks, hmem, hdirection, hbank]

theorem param?_ofModule (hparam : m.schema.hasParam name) :
    (ofModule m).param? name = some (.param m.id name) := by
  rw [ofModule_eq, param?, if_pos]
  . rfl
  . exact hparam

theorem slotCount_ofModule (hport : m.schema.port? name = some port)
    (hunique : ∀ q ∈ m.schema.ports, q.name = name → q = port) (hdirection : port.direction = .sink)
    (hbank : port.isBank) : (ofModule m).slotCount name = port.slots.toNat := by
  rw [ofModule_eq, slotCount, get?_banksOf hport hunique hdirection hbank]
  simp [newGains]

theorem slot?_ofModule (hport : m.schema.port? name = some port)
    (hunique : ∀ q ∈ m.schema.ports, q.name = name → q = port) (hdirection : port.direction = .sink)
    (hbank : port.isBank) (index : UInt64) :
    (ofModule m).slot? name index
      = if index < port.slots then some (.slot m.id name index) else none := by
  rw [ofModule_eq, slot?, get?_banksOf hport hunique hdirection hbank]
  by_cases hindex : index.toNat < port.slots.toNat
  . simp [newGains, UInt64.lt_iff_toNat_lt, hindex]
  . simp [newGains, UInt64.lt_iff_toNat_lt, hindex]

end Answers

end Device

namespace Bench

theorem get?_addModule (bench : Bench) (m : Module) (id : ModuleId) :
    (bench.addModule m).get? id
      = (bench.get? id).or (if id = m.id then some (.ofModule m) else none) := by
  apply SortedMap.get?_insertIfNew

theorem get?_foldl_addModule (bench : Bench) (rack : Rack) (id : ModuleId) :
    (rack.foldl addModule bench).get? id
      = (bench.get? id).or ((rack.find? id).map Device.ofModule) := by
  induction rack generalizing bench with
  | nil => simp [Rack.find?]
  | cons m rest ih =>
    rw [List.foldl_cons, ih, get?_addModule, Option.or_assoc, Rack.find?, Rack.find?,
      List.find?_cons]
    congr
    cases hid : m.id == id with
    | false => rw [if_neg (Ne.symm (ne_of_beq_false hid)), Option.none_or]
    | true =>
      rw [if_pos (eq_of_beq hid).symm]
      rfl

theorem get?_sync (bench : Bench) (rack : Rack) (id : ModuleId) :
    (bench.sync rack).get? id
      = (rack.find? id).map fun m => (bench.get? id).getD (.ofModule m) := by
  rw [sync, get?_foldl_addModule, SortedMap.get?_filterKeys]
  cases rack.find? id with
  | none => rfl
  | some m => cases bench.get? id <;> rfl

theorem get?_ofRack (rack : Rack) (id : ModuleId) :
    (ofRack rack).get? id = (rack.find? id).map Device.ofModule := by
  rw [ofRack, get?_sync]
  rfl

theorem id_of_get?_ofRack {rack : Rack} {id : ModuleId} {d : Device}
    (h : (ofRack rack).get? id = some d) : d.id = id := by
  rw [get?_ofRack, Option.map_eq_some_iff] at h
  rcases h with ⟨m, hm, rfl⟩
  rw [Device.ofModule_eq]
  exact Rack.id_of_find? hm

end Bench
end ModularSynth
