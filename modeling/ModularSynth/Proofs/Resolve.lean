import ModularSynth.Proofs.Address
import ModularSynth.Proofs.Validation

/-!
This module contains which address denotes which endpoint, and that the text of an endpoint denotes
the endpoint: reading and resolving the text lead back to it, if the rack has the endpoint and its
names are segments.
-/

namespace ModularSynth

open Except (bind_eq_ok_iff)

/-- The outputs, inputs and parameters of such a module are told apart by their addresses. -/
structure Schema.Unambiguous (schema : Schema) : Prop where
  /-- A name of both a port and a parameter would denote the port. -/
  apart : ∀ name ∈ schema.params, ∀ port ∈ schema.ports, port.name ≠ name
  /-- A bank is addressed by slots, and no slot is a source. -/
  outputs : ∀ port ∈ schema.ports, port.direction = .source → port.isBank = false

/-- The ports and parameters of such a module are told apart by their addresses. -/
structure Schema.Addressable (schema : Schema) : Prop where
  ports : ∀ port ∈ schema.ports, Address.IsSegment port.name.toList
  params : ∀ name ∈ schema.params, Address.IsSegment name.toList
  /-- A name of both a port and a parameter denotes the port. -/
  apart : ∀ name ∈ schema.params, schema.port? name = none
  /-- A bank is addressed by slots, and no slot is a source. -/
  outputs : ∀ port ∈ schema.ports, port.direction = .source → port.isBank = false

namespace Schema

variable {schema : Schema} {name : String}

theorem Unambiguous.port?_eq_none (h : schema.Unambiguous) (hparam : schema.hasParam name) :
    schema.port? name = none := by
  rw [port?, List.find?_eq_none]
  intro port hport
  have hname := h.apart name (by simpa [hasParam] using hparam) port hport
  simpa using hname

theorem Addressable.unambiguous (h : schema.Addressable) : schema.Unambiguous where
  apart := by
    intro name hname port hport
    have hnone := List.find?_eq_none.1 (h.apart name hname) port hport
    simpa using hnone
  outputs := h.outputs

end Schema

namespace Rack

variable {rack : Rack} {id : ModuleId} {name : String}

def Unambiguous (rack : Rack) : Prop :=
  ∀ m ∈ rack, m.schema.Unambiguous

def Addressable (rack : Rack) : Prop :=
  ∀ m ∈ rack, m.schema.Addressable

theorem Addressable.unambiguous (h : rack.Addressable) : rack.Unambiguous :=
  fun m hm => (h m hm).unambiguous

theorem Unambiguous.schema (h : rack.Unambiguous) {schema : Schema}
    (hschema : rack.schema id = .ok schema) : schema.Unambiguous := by
  rcases schema_eq_ok_iff.1 hschema with ⟨m, hm, rfl⟩
  exact h m (List.mem_of_find?_eq_some hm)

theorem Unambiguous.isBank_eq_false (h : rack.Unambiguous) {port : Port}
    (hport : rack.port id name = .ok port) (hdirection : port.direction = .source) :
    port.isBank = false := by
  rcases port_eq_ok_iff.1 hport with ⟨m, hm, hfind⟩
  have hm := h m (List.mem_of_find?_eq_some hm)
  exact hm.outputs port (List.mem_of_find?_eq_some hfind) hdirection

theorem Addressable.isSegment_param (h : rack.Addressable) {schema : Schema}
    (hschema : rack.schema id = .ok schema) (hparam : schema.hasParam name) :
    Address.IsSegment name.toList := by
  rcases schema_eq_ok_iff.1 hschema with ⟨m, hm, rfl⟩
  have hm := h m (List.mem_of_find?_eq_some hm)
  exact hm.params name (by simpa [Schema.hasParam] using hparam)

theorem Addressable.isSegment_port (h : rack.Addressable) {port : Port}
    (hport : rack.port id name = .ok port) : Address.IsSegment name.toList := by
  rcases port_eq_ok_iff.1 hport with ⟨m, hm, hfind⟩
  have hm := h m (List.mem_of_find?_eq_some hm)
  have hname : port.name = name := by simpa using List.find?_some hfind
  rw [← hname]
  exact hm.ports port (List.mem_of_find?_eq_some hfind)

end Rack

theorem slotNumber_of_lt {index slots : UInt64} (h : index < slots) :
    slotNumber index = index + 1 ∧ index + 1 ≠ 0 ∧ ¬slots < index + 1 := by
  unfold slotNumber
  grind

theorem toNat_slotNumber (index : UInt64) :
    (slotNumber index).toNat = min (index.toNat + 1) (UInt64.size - 1) := by
  have hlt := index.toNat_lt
  unfold slotNumber UInt64.size
  split
  . next hlast =>
    rw [hlast]
    rfl
  . next hlast =>
    have hne : index.toNat ≠ 2 ^ 64 - 1 := by
      intro heq
      apply hlast
      rw [← UInt64.toNat_inj, heq]
      rfl
    rw [UInt64.toNat_add, UInt64.toNat_one]
    omega

theorem slotNumber_eq_of_toNat {index number : UInt64} (h : number.toNat = index.toNat + 1) :
    slotNumber index = number := by
  have hsize := number.toNat_lt
  rw [← UInt64.toNat_inj, toNat_slotNumber]
  unfold UInt64.size
  omega

theorem toNat_slotNumber_of_lt {index slots : UInt64} (h : index < slots) :
    (slotNumber index).toNat = index.toNat + 1 := by
  have hlt : index.toNat < slots.toNat := UInt64.lt_iff_toNat_lt.1 h
  have hsize := slots.toNat_lt
  rw [toNat_slotNumber]
  unfold UInt64.size
  omega

namespace Endpoint

variable {rack : Rack} {e : Endpoint}

/-- The endpoints a rack has. -/
inductive On (rack : Rack) : Endpoint → Prop
  | port {id : ModuleId} {name : String} {port : Port} (hport : rack.port id name = .ok port)
    (hbank : port.isBank = false) : On rack (.port id name)
  | slot {id : ModuleId} {name : String} {index : UInt64} {port : Port}
    (hport : rack.port id name = .ok port) (hbank : port.isBank = true)
    (hindex : index < port.slots) : On rack (.slot id name index)
  | param {id : ModuleId} {name : String} {schema : Schema} (hschema : rack.schema id = .ok schema)
    (hparam : schema.hasParam name) : On rack (.param id name)
  | sink : On rack .sink

theorem on_of_emits (hrack : rack.Unambiguous) {signal : Signal} (h : e.emits rack = .ok signal) :
    e.On rack := by
  rcases emits_eq_ok_iff.1 h with ⟨id, name, port, rfl, hport, hdirection, -⟩
  exact .port hport (hrack.isBank_eq_false hport hdirection)

theorem on_of_receives {kind : TargetKind} (h : e.receives rack = .ok kind) : e.On rack := by
  cases e with
  | port id name =>
    rcases receives_port_eq_ok_iff.1 h with ⟨port, hport, -, hbank, -⟩
    exact .port hport hbank
  | slot id name index =>
    rcases receives_slot_eq_ok_iff.1 h with ⟨port, hport, -, hbank, hindex, -⟩
    exact .slot hport hbank hindex
  | param id name =>
    rcases receives_param_eq_ok_iff.1 h with ⟨schema, hschema, hparam, -⟩
    exact .param hschema hparam
  | sink => exact .sink

theorem On.mem_rack (h : e.On rack) {id : ModuleId} (hid : e.owner? = some id) :
    ∃ m ∈ rack, m.id = id := by
  cases h with
  | port hport | slot hport =>
    cases hid
    rcases Rack.port_eq_ok_iff.1 hport with ⟨m, hm, -⟩
    exact ⟨m, List.mem_of_find?_eq_some hm, Rack.id_of_find? hm⟩
  | param hschema =>
    cases hid
    rcases Rack.schema_eq_ok_iff.1 hschema with ⟨m, hm, -⟩
    exact ⟨m, List.mem_of_find?_eq_some hm, Rack.id_of_find? hm⟩
  | sink => contradiction

theorem canonical_address (hrack : rack.Addressable) (h : e.On rack)
    (howner : ∀ id, e.owner? = some id → Address.IsSegment id.text.toList) :
    e.address.Canonical := by
  cases h with
  | @port id name port hport hbank =>
    simp [address, Address.Canonical, Address.segments, howner id rfl, hrack.isSegment_port hport]
  | @slot id name index port hport hbank hindex =>
    simp [address, Address.Canonical, Address.segments, howner id rfl, hrack.isSegment_port hport,
      Address.isSegment_write]
  | @param id name schema hschema hparam =>
    have hname := hrack.isSegment_param hschema hparam
    simp [address, Address.Canonical, Address.segments, howner id rfl, hname]
  | sink => simpa [address, Address.Canonical, Address.segments] using Address.isSegment_sinkName

end Endpoint

namespace Address

variable {rack : Rack} {a : Address} {e : Endpoint}

/--
Which address denotes which endpoint. The only slot of a port is the port itself, so such a port has
two addresses.
-/
inductive Denotes (rack : Rack) : Address → Endpoint → Prop
  | destination : Denotes rack .destination .sink
  | port {id : ModuleId} {name : String} {port : Port} (hport : rack.port id name = .ok port)
    (hbank : port.isBank = false) : Denotes rack (.named id name) (.port id name)
  | param {id : ModuleId} {name : String} {schema : Schema} (hschema : rack.schema id = .ok schema)
    (hport : schema.port? name = none) (hparam : schema.hasParam name) :
    Denotes rack (.named id name) (.param id name)
  | slot {id : ModuleId} {name : String} {index : UInt64} {port : Port}
    (hport : rack.port id name = .ok port) (hbank : port.isBank = true)
    (hindex : index < port.slots) :
    Denotes rack (.slotted id name (index + 1)) (.slot id name index)
  | onlySlot {id : ModuleId} {name : String} {port : Port} (hport : rack.port id name = .ok port)
    (hslots : port.slots = 1) : Denotes rack (.slotted id name 1) (.port id name)

theorem denotes_of_resolve (h : a.resolve rack = .ok e) : a.Denotes rack e := by
  cases a with
  | destination =>
    cases h
    exact .destination
  | named id name =>
    rcases bind_eq_ok_iff.1 h with ⟨schema, hschema, h⟩
    split at h
    . next port hfind =>
      split at h
      . contradiction
      . next hbank =>
        cases h
        rcases Rack.schema_eq_ok_iff.1 hschema with ⟨m, hm, rfl⟩
        apply Denotes.port (Rack.port_eq_ok_iff.2 ⟨m, hm, hfind⟩)
        simpa using hbank
    . next hnone =>
      split at h
      . next hparam =>
        cases h
        exact .param hschema hnone hparam
      . contradiction
  | slotted id name slot =>
    rcases bind_eq_ok_iff.1 h with ⟨port, hport, h⟩
    split at h
    . contradiction
    . next hrange =>
      rw [not_or, UInt64.not_lt] at hrange
      split at h
      . next hbank =>
        cases h
        have hslot : slot - 1 + 1 = slot := by grind
        have hindex : slot - 1 < port.slots := by grind
        have hdenotes := Denotes.slot hport hbank hindex
        rw [hslot] at hdenotes
        exact hdenotes
      . next hbank =>
        cases h
        have hslots : ¬1 < port.slots := by simpa [Port.isBank] using hbank
        have hslot : slot = 1 := by grind
        rw [hslot]
        exact .onlySlot hport (by grind)

theorem Denotes.resolve_eq (h : a.Denotes rack e) : a.resolve rack = .ok e := by
  cases h with
  | destination => rfl
  | @port id name port hport hbank =>
    rcases Rack.port_eq_ok_iff.1 hport with ⟨m, hm, hfind⟩
    have hschema := Rack.schema_eq_ok_iff.2 ⟨m, hm, rfl⟩
    simp [resolve, hschema, hfind, hbank]
  | param hschema hport hparam => simp [resolve, hschema, hport, hparam]
  | slot hport hbank hindex =>
    rcases slotNumber_of_lt hindex with ⟨-, hpos, hle⟩
    simp [resolve, hport, hpos, hle, hbank]
  | onlySlot hport hslots => simp [resolve, hport, hslots, Port.isBank]

theorem Denotes.owner?_eq (h : a.Denotes rack e) : e.owner? = a.module? := by
  cases h <;> rfl

theorem owner?_of_resolve (h : a.resolve rack = .ok e) : e.owner? = a.module? :=
  (denotes_of_resolve h).owner?_eq

theorem Denotes.on (h : a.Denotes rack e) : e.On rack := by
  cases h with
  | destination => exact .sink
  | port hport hbank => exact .port hport hbank
  | param hschema hport hparam => exact .param hschema hparam
  | slot hport hbank hindex => exact .slot hport hbank hindex
  | onlySlot hport hslots => exact .port hport (by simp [Port.isBank, hslots])

end Address

namespace Endpoint

variable {rack : Rack} {e : Endpoint}

theorem address_denotes (hrack : rack.Unambiguous) (h : e.On rack) : e.address.Denotes rack e := by
  cases h with
  | port hport hbank => exact .port hport hbank
  | slot hport hbank hindex =>
    rw [address, (slotNumber_of_lt hindex).1]
    exact .slot hport hbank hindex
  | param hschema hparam =>
    exact .param hschema ((hrack.schema hschema).port?_eq_none hparam) hparam
  | sink => exact .destination

theorem resolve_address (hrack : rack.Unambiguous) (h : e.On rack) :
    e.address.resolve rack = .ok e :=
  (address_denotes hrack h).resolve_eq

end Endpoint

theorem Rack.endpoint_eq_ok_iff {rack : Rack} {text : String} {e : Endpoint} :
    rack.endpoint text = .ok e ↔
      ∃ a, Address.parse text = .ok a ∧ a.resolve rack = .ok e := by
  rw [Rack.endpoint]
  cases Address.parse text with
  | error fault => simp
  | ok a => cases ha : a.resolve rack <;> simp [ha]

end ModularSynth
