import ModularSynth.Proofs.Denotation
import ModularSynth.Proofs.Engine.OfRack
import ModularSynth.Proofs.Engine.Room

/-!
This module contains that all parts of the program agree on which slots a bank has: addresses, the
direction rule, devices and the texts of endpoints. Texts count slots from 1 and everything else
counts them from 0, and no number wraps around on the way from one to the other. Only a device may
not be made at all: the gains of a bank need room, while addresses and rules need none.
-/

namespace ModularSynth

namespace Address

variable {rack : Rack} {id : ModuleId} {name : String} {port : Port}

theorem resolve_slotted_isOk_iff (hport : rack.port id name = .ok port) {number : UInt64} :
    (∃ e, (slotted id name number).resolve rack = .ok e) ↔
      1 ≤ number.toNat ∧ number.toNat ≤ port.slots.toNat := by
  have hrange : (number = 0 ∨ port.slots < number) ↔
      ¬(1 ≤ number.toNat ∧ number.toNat ≤ port.slots.toNat) := by
    rw [← UInt64.toNat_inj, UInt64.lt_iff_toNat_lt, UInt64.toNat_zero]
    omega
  rw [resolve, hport, Except.ok_bind]
  split
  . next hout => simp [hrange.1 hout]
  . next hin =>
    rw [hrange, Decidable.not_not] at hin
    split
    . exact ⟨fun _ => hin, fun _ => ⟨_, rfl⟩⟩
    . exact ⟨fun _ => hin, fun _ => ⟨_, rfl⟩⟩

theorem toNat_of_resolve_slot {a : Address} {index : UInt64}
    (h : a.resolve rack = .ok (.slot id name index)) :
    ∃ number, a = .slotted id name number ∧ number.toNat = index.toNat + 1 := by
  cases denotes_of_resolve h with
  | slot hport hbank hindex =>
    refine ⟨_, rfl, ?_⟩
    rw [← (slotNumber_of_lt hindex).1]
    exact toNat_slotNumber_of_lt hindex

theorem eq_slot_of_resolve (hport : rack.port id name = .ok port) (hbank : port.isBank)
    {number : UInt64} {e : Endpoint} (h : (slotted id name number).resolve rack = .ok e) :
    ∃ index : UInt64, number.toNat = index.toNat + 1 ∧ e = .slot id name index := by
  have hdenotes := denotes_of_resolve h
  cases hdenotes with
  | slot =>
    rcases toNat_of_resolve_slot h with ⟨_, heq, hnumber⟩
    cases heq
    exact ⟨_, hnumber, rfl⟩
  | onlySlot hport' hslots =>
    rw [hport, Except.ok.injEq] at hport'
    simp [hport', Port.isBank, hslots] at hbank

end Address

namespace Endpoint

variable {rack : Rack} {id : ModuleId} {name : String} {port : Port}

theorem receives_slot (hport : rack.port id name = .ok port) (hdirection : port.direction = .sink)
    (hbank : port.isBank) (index : UInt64) :
    (Endpoint.slot id name index).receives rack =
      if index < port.slots then .ok (.port port.signal)
      else .error (.unresolved (.slotOutOfRange id name (slotNumber index) port.slots.toNat)) := by
  rw [receives, hport, Except.mapError_ok, Except.ok_bind, if_neg (by simp [hdirection]),
    if_neg (by simp [hbank])]
  by_cases hindex : index < port.slots
  . rw [if_neg (UInt64.not_le.2 hindex), if_pos hindex]
  . rw [if_pos (UInt64.not_lt.1 hindex), if_neg hindex]

theorem text_slot {index slots : UInt64} (h : index < slots) :
    (Endpoint.slot id name index).text = s!"{id.text}/{name}/{index.toNat + 1}" := by
  rw [text, address, Address.text, Numeral.write, toNat_slotNumber_of_lt h,
    ← Nat.toString_eq_ofList_toDigits]
  rfl

theorem endpoint_text_slot (hport : rack.port id name = .ok port) (hbank : port.isBank)
    {index : UInt64} (hindex : index < port.slots) (hid : Address.IsSegment id.text.toList)
    (hname : Address.IsSegment name.toList) :
    rack.endpoint (Endpoint.slot id name index).text = .ok (.slot id name index) := by
  rw [Rack.endpoint_eq_ok_iff]
  refine ⟨address (.slot id name index), Address.parse_text ?_, ?_⟩
  . rw [Address.canonical_iff]
    simp [address, Address.names, hid, hname]
  . rw [address, (slotNumber_of_lt hindex).1]
    exact (Address.Denotes.slot hport hbank hindex).resolve_eq

end Endpoint

/-- The slots of a bank, as each part of the program has them. -/
structure SlotsAgree (rack : Rack) (m : Module) (port : Port) : Prop where
  address : ∀ number : UInt64,
    (∃ e, (Address.slotted m.id port.name number).resolve rack = .ok e) ↔
      1 ≤ number.toNat ∧ number.toNat ≤ port.slots.toNat
  index : ∀ (number : UInt64) (e : Endpoint),
    (Address.slotted m.id port.name number).resolve rack = .ok e →
      ∃ index : UInt64, number.toNat = index.toNat + 1 ∧ e = .slot m.id port.name index
  target : ∀ (source : Endpoint) (signal : Signal) (index : UInt64),
    source.emits rack = .ok signal → index < port.slots →
      Rule.direction rack source (.slot m.id port.name index) = .ok (signal, .port port.signal)
  /-- The number in the error is that of the index, but for the largest index, which has none. -/
  noTarget : ∀ (source : Endpoint) (signal : Signal) (index : UInt64),
    source.emits rack = .ok signal → ¬index < port.slots →
      ∃ number : UInt64, number.toNat = min (index.toNat + 1) (UInt64.size - 1)
        ∧ Rule.direction rack source (.slot m.id port.name index)
          = .error (.direction .target (Endpoint.slot m.id port.name index).text
              (.unresolved (.slotOutOfRange m.id port.name number port.slots.toNat)))
  device : m.HasRoom → ∃ d, Device.tryModule m = .ok d ∧ ∀ index : UInt64,
    d.slot? port.name index
      = if index < port.slots then some (.slot m.id port.name index) else none
  noDevice : ¬m.HasRoom → Device.tryModule m = .error .bankTooLarge
  text : ∀ index : UInt64, index < port.slots →
    (Endpoint.slot m.id port.name index).text = s!"{m.id.text}/{port.name}/{index.toNat + 1}"
  endpoint : Address.IsSegment m.id.text.toList → Address.IsSegment port.name.toList →
    ∀ index : UInt64, index < port.slots →
      rack.endpoint (Endpoint.slot m.id port.name index).text = .ok (.slot m.id port.name index)

theorem slotsAgree_of_unique {rack : Rack} {m : Module} {port : Port}
    (hm : rack.find? m.id = some m) (hmem : port ∈ m.schema.ports)
    (hunique : ∀ q ∈ m.schema.ports, q.name = port.name → q = port)
    (hdirection : port.direction = .sink) (hbank : port.isBank) : SlotsAgree rack m port := by
  have hfind : m.schema.port? port.name = some port := List.find?_key_of_unique hmem hunique
  have hport : rack.port m.id port.name = .ok port := Rack.port_eq_ok_iff.2 ⟨m, hm, hfind⟩
  have hreceives := Endpoint.receives_slot hport hdirection hbank
  constructor
  case address => exact fun _ => Address.resolve_slotted_isOk_iff hport
  case index => exact fun _ _ => Address.eq_slot_of_resolve hport hbank
  case target =>
    intro source signal index hemits hindex
    have hreceives := hreceives index
    rw [if_pos hindex] at hreceives
    exact Rule.direction_eq_ok_iff.2 ⟨hemits, hreceives⟩
  case noTarget =>
    intro source signal index hemits hindex
    have hreceives := hreceives index
    rw [if_neg hindex] at hreceives
    refine ⟨_, toNat_slotNumber index, ?_⟩
    exact Rule.direction_eq_error_iff.2 (.inr ⟨signal, _, hemits, hreceives, rfl⟩)
  case device =>
    intro hroom
    refine ⟨_, Device.tryModule_of_hasRoom hroom, ?_⟩
    exact Device.slot?_ofModule hfind hunique hdirection hbank
  case noDevice => exact Device.tryModule_of_not_hasRoom
  case text => exact fun _ => Endpoint.text_slot
  case endpoint =>
    intro hid hname index hindex
    exact Endpoint.endpoint_text_slot hport hbank hindex hid hname

/--
All parts of the program agree on the slots of a bank that is declared under a name of its own.
Whatever is resolved, the number of a slot is the successor of its index, and a new bank has room or
is not made, with handles that have the indices of their places.
-/
theorem slots_agree (rack : Rack) :
    (∀ (m : Module) (port : Port), rack.find? m.id = some m → port ∈ m.schema.ports →
        (∀ q ∈ m.schema.ports, q.name = port.name → q = port) → port.direction = .sink →
        2 ≤ port.slots.toNat → SlotsAgree rack m port)
      ∧ (∀ (a : Address) (id : ModuleId) (name : String) (index : UInt64),
          a.resolve rack = .ok (.slot id name index) →
            ∃ number, a = .slotted id name number ∧ number.toNat = index.toNat + 1)
      ∧ (∀ index : UInt64, (slotNumber index).toNat = min (index.toNat + 1) (UInt64.size - 1))
      ∧ ∀ (d : Device) (name : String) (slots : UInt64),
          (144115188075855872 ≤ slots.toNat → d.tryBank name slots = .error .bankTooLarge)
            ∧ (slots.toNat < 144115188075855872 → ∃ d' gains, d.tryBank name slots = .ok d'
                ∧ d'.banks.get? name = some gains
                ∧ ∀ (i : Nat) (g : SlotGain), gains[i]? = some g ↔
                    ∃ index : UInt64, index.toNat = i ∧ index < slots
                      ∧ g = ⟨.slot d.id name index, 0⟩) := by
  refine ⟨?_, ?_, toNat_slotNumber, ?_⟩
  . intro m port hm hmem hunique hdirection hslots
    have hbank : port.isBank := decide_eq_true (UInt64.lt_iff_toNat_lt.2 hslots)
    exact slotsAgree_of_unique hm hmem hunique hdirection hbank
  . intro a id name index h
    exact Address.toNat_of_resolve_slot h
  . intro d name slots
    rw [Device.tryBank_eq]
    refine ⟨?_, ?_⟩
    . intro hslots
      exact if_neg (Nat.not_lt.2 hslots)
    . intro hslots
      have hbank : (d.withBank name slots).banks.get? name
          = some (Device.newGains d.id name slots) := by
        rw [Device.withBank, SortedMap.get?_insert, if_pos rfl]
      exact ⟨_, _, if_pos hslots, hbank, fun _ _ => Device.newGains_eq_some_iff⟩

/-- The last slot of a bank has the number of its slots; the largest index has no number. -/
theorem slots_agree_bank :
    let port : Port := ⟨"in", .sink, .audio, 65536⟩
    let m : Module := ⟨⟨"mix"⟩, ⟨"mixer", [port, .source "out" .audio], []⟩⟩
    let rack : Rack := [⟨⟨"osc"⟩, Kind.oscillator.schema⟩, m]
    let source := Endpoint.port ⟨"osc"⟩ "audio_out"
    let last := Endpoint.slot ⟨"mix"⟩ "in" 65535
    let beyond := Endpoint.slot ⟨"mix"⟩ "in" 18446744073709551615
    rack.find? m.id = some m ∧ port ∈ m.schema.ports
      ∧ (∀ q ∈ m.schema.ports, q.name = port.name → q = port) ∧ port.direction = .sink
      ∧ 2 ≤ port.slots.toNat
      ∧ source.emits rack = .ok .audio
      ∧ Rule.direction rack source last = .ok (.audio, .port .audio)
      ∧ (∃ number : UInt64, number.toNat = 18446744073709551615
        ∧ Rule.direction rack source beyond = .error (.direction .target beyond.text
          (.unresolved (.slotOutOfRange ⟨"mix"⟩ "in" number 65536))))
      ∧ (∃ d, Device.tryModule m = .ok d
        ∧ d.slot? "in" 65535 = some (.slot ⟨"mix"⟩ "in" 65535) ∧ d.slot? "in" 65536 = none)
      ∧ last.text = "mix/in/65536"
      ∧ rack.endpoint last.text = .ok last := by
  intro port m rack source last beyond
  have hfind : rack.find? m.id = some m := by decide +kernel
  have hmem : port ∈ m.schema.ports := List.mem_cons_self
  have hunique : ∀ q ∈ m.schema.ports, q.name = port.name → q = port := by decide +kernel
  have hslots : 2 ≤ port.slots.toNat := by decide
  have hemits : source.emits rack = .ok .audio := by decide +kernel
  have hroom : m.HasRoom := by decide
  have hagree := (slots_agree rack).1 m port hfind hmem hunique rfl hslots
  have hlast : (65535 : UInt64) < port.slots := by decide
  have hbeyond : ¬(18446744073709551615 : UInt64) < port.slots := by decide
  rcases hagree.device hroom with ⟨d, hd, hanswers⟩
  refine ⟨hfind, hmem, hunique, rfl, hslots, hemits, hagree.target _ _ _ hemits hlast,
    hagree.noTarget _ _ _ hemits hbeyond, ⟨d, hd, hanswers _, hanswers _⟩, hagree.text _ hlast,
    hagree.endpoint ?_ ?_ _ hlast⟩
  . decide +kernel
  . decide +kernel

/-- The largest bank has slots for addresses and rules, but its module has no device. -/
theorem largest_bank_without_device :
    let port : Port := ⟨"in", .sink, .audio, 18446744073709551615⟩
    let m : Module := ⟨⟨"mix"⟩, ⟨"mixer", [port], []⟩⟩
    let rack : Rack := [m]
    rack.find? m.id = some m ∧ port ∈ m.schema.ports
      ∧ (∀ q ∈ m.schema.ports, q.name = port.name → q = port) ∧ port.direction = .sink
      ∧ 2 ≤ port.slots.toNat
      ∧ (Address.slotted m.id port.name 1).resolve rack = .ok (.slot m.id port.name 0)
      ∧ ¬∃ d, Device.tryModule m = .ok d ∧ d.slot? port.name 0 = some (.slot m.id port.name 0) := by
  intro port m rack
  refine ⟨by decide +kernel, List.mem_cons_self, by decide +kernel, rfl, by decide,
    by decide +kernel, ?_⟩
  rintro ⟨d, hd, -⟩
  have hroom : ¬m.HasRoom := by decide
  rw [Device.tryModule_of_not_hasRoom hroom] at hd
  contradiction

end ModularSynth
