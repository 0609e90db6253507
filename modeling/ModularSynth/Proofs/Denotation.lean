import ModularSynth.Proofs.Catalog
import ModularSynth.Proofs.Verdict

/-!
This module contains that resolution and the direction rule agree on the endpoints of a rack, and
that no endpoint has more than two addresses: the rule finds every endpoint that an address denotes,
and every endpoint that passes it has an address, which is the only one but for the slot number 1 of
a port with a single slot.
-/

namespace ModularSynth

namespace Endpoint

variable {rack : Rack} {e : Endpoint} {fault : EndFault}

theorem On.eq_notASource (h : e.On rack) (hfault : e.emits rack = .error fault) :
    fault = .notASource := by
  cases h with
  | port hport =>
    rw [emits, hport, Except.mapError_ok, Except.ok_bind] at hfault
    split at hfault
    . contradiction
    . cases hfault
      rfl
  | slot | param | sink =>
    cases hfault
    rfl

theorem On.eq_notASink (h : e.On rack) (hfault : e.receives rack = .error fault) :
    fault = .notASink := by
  cases h with
  | port hport hbank =>
    rw [receives, hport, Except.mapError_ok, Except.ok_bind] at hfault
    split at hfault
    . cases hfault
      rfl
    . simp [hbank] at hfault
  | slot hport hbank hindex =>
    rw [receives, hport, Except.mapError_ok, Except.ok_bind] at hfault
    split at hfault
    . cases hfault
      rfl
    . simp [hbank, UInt64.not_le.2 hindex] at hfault
  | param hschema hparam => simp [receives, hschema, hparam] at hfault
  | sink => contradiction

end Endpoint

namespace Address

variable {rack : Rack} {a b : Address} {e : Endpoint}

/-- An address of the shape that belongs to an endpoint. Slots are numbered from 1. -/
inductive Names : Address → Endpoint → Prop
  | port (id : ModuleId) (name : String) : Names (.named id name) (.port id name)
  | slot (id : ModuleId) (name : String) {index number : UInt64}
    (hnumber : number.toNat = index.toNat + 1) :
    Names (.slotted id name number) (.slot id name index)
  | param (id : ModuleId) (name : String) : Names (.named id name) (.param id name)
  | sink : Names .destination .sink

theorem names_address (h : e.On rack) : e.address.Names e := by
  cases h with
  | port => exact .port _ _
  | slot hport hbank hindex => exact .slot _ _ (toNat_slotNumber_of_lt hindex)
  | param => exact .param _ _
  | sink => exact .sink

/-- The second address gives the only slot of the port that the first one names. -/
inductive Alias (rack : Rack) : Address → Address → Prop
  | onlySlot {id : ModuleId} {name : String} {port : Port} (hport : rack.port id name = .ok port)
    (hslots : port.slots = 1) : Alias rack (.named id name) (.slotted id name 1)

theorem Denotes.eq_or_alias (ha : a.Denotes rack e) (hb : b.Denotes rack e) :
    a = b ∨ Alias rack a b ∨ Alias rack b a := by
  -- Only a port has addresses of two shapes.
  cases ha with
  | destination =>
    cases hb
    exact .inl rfl
  | port hport hbank =>
    cases hb with
    | port => exact .inl rfl
    | onlySlot hport hslots => exact .inr (.inl (.onlySlot hport hslots))
  | param =>
    cases hb
    exact .inl rfl
  | slot =>
    cases hb
    exact .inl rfl
  | onlySlot hport hslots =>
    cases hb with
    | port => exact .inr (.inr (.onlySlot hport hslots))
    | onlySlot => exact .inl rfl

/--
Two addresses of one endpoint are the same, or one names a port with a single slot and the other
gives the slot number 1 of it. These two always denote the port.
-/
theorem resolve_alias (rack : Rack) :
    (∀ (a b : Address) (e : Endpoint), a.resolve rack = .ok e → b.resolve rack = .ok e →
        a = b ∨ Alias rack a b ∨ Alias rack b a)
      ∧ ∀ (id : ModuleId) (name : String) (port : Port), rack.port id name = .ok port →
          port.slots = 1 →
          (named id name).resolve rack = .ok (.port id name)
            ∧ (slotted id name 1).resolve rack = .ok (.port id name) := by
  constructor
  . intro a b e ha hb
    exact (denotes_of_resolve ha).eq_or_alias (denotes_of_resolve hb)
  . intro id name port hport hslots
    have hbank : port.isBank = false := by simp [Port.isBank, hslots]
    exact ⟨(Denotes.port hport hbank).resolve_eq, (Denotes.onlySlot hport hslots).resolve_eq⟩

/-- The output of an oscillator has no other slot. -/
theorem resolve_alias_oscillator :
    let rack : Rack := [⟨⟨"osc"⟩, Kind.oscillator.schema⟩]
    let a := named ⟨"osc"⟩ "audio_out"
    let b := slotted ⟨"osc"⟩ "audio_out" 1
    let e := Endpoint.port ⟨"osc"⟩ "audio_out"
    rack.port ⟨"osc"⟩ "audio_out" = .ok (.source "audio_out" .audio)
      ∧ (a.resolve rack = .ok e ∧ b.resolve rack = .ok e)
      ∧ (a = b ∨ Alias rack a b ∨ Alias rack b a) := by
  intro rack a b e
  have hport : rack.port ⟨"osc"⟩ "audio_out" = .ok (.source "audio_out" .audio) := by
    decide +kernel
  have hboth := (resolve_alias rack).2 _ _ _ hport rfl
  exact ⟨hport, hboth, (resolve_alias rack).1 a b e hboth.1 hboth.2⟩

end Address

/--
An endpoint that an address denotes is found by the direction rule, which refuses it only as an end
that it cannot be. An endpoint that passes the rule at either end has an address, if no name is that
of both a port and a parameter and no output is a bank.
-/
theorem resolve_agrees_direction (rack : Rack) :
    (∀ (a : Address) (e : Endpoint), a.resolve rack = .ok e →
        (∀ fault, e.emits rack = .error fault → fault = .notASource)
          ∧ (∀ fault, e.receives rack = .error fault → fault = .notASink)
          ∧ ∀ other reference fault,
              (Rule.direction rack e other = .error (.direction .source reference fault) →
                fault = .notASource)
              ∧ (Rule.direction rack other e = .error (.direction .target reference fault) →
                fault = .notASink))
      ∧ (rack.Unambiguous → ∀ e : Endpoint,
          ((∃ signal, e.emits rack = .ok signal) ∨ ∃ kind, e.receives rack = .ok kind) →
            ∃ a : Address, a.Names e ∧ a.resolve rack = .ok e) := by
  constructor
  . intro a e ha
    have hon := (Address.denotes_of_resolve ha).on
    refine ⟨fun _ => hon.eq_notASource, fun _ => hon.eq_notASink, ?_⟩
    intro other reference fault
    constructor
    . intro h
      rcases Rule.direction_eq_error_iff.1 h with ⟨_, hfault, heq⟩ | ⟨_, _, -, -, heq⟩
      . cases heq
        exact hon.eq_notASource hfault
      . cases heq
    . intro h
      rcases Rule.direction_eq_error_iff.1 h with ⟨_, -, heq⟩ | ⟨_, _, -, hfault, heq⟩
      . cases heq
      . cases heq
        exact hon.eq_notASink hfault
  . intro hrack e hpasses
    have hon : e.On rack := by
      rcases hpasses with ⟨signal, hemits⟩ | ⟨kind, hreceives⟩
      . exact Endpoint.on_of_emits hrack hemits
      . exact Endpoint.on_of_receives hreceives
    exact ⟨e.address, Address.names_address hon, Endpoint.resolve_address hrack hon⟩

/-- The last slot of a mixer is a target and no source. -/
theorem resolve_agrees_direction_mixer :
    let rack : Rack := [⟨⟨"mix"⟩, Kind.mixer.schema⟩]
    let slot := Endpoint.slot ⟨"mix"⟩ "inputs" 7
    (Address.slotted ⟨"mix"⟩ "inputs" 8).resolve rack = .ok slot
      ∧ (∃ fault, Rule.direction rack slot .sink = .error (.direction .source "mix/inputs/8" fault)
        ∧ fault = .notASource)
      ∧ rack.Unambiguous
      ∧ slot.receives rack = .ok (.port .audio)
      ∧ ∃ a : Address, a.Names slot ∧ a.resolve rack = .ok slot := by
  intro rack slot
  have hmade : rack.MadeFrom .builtin := by decide
  have hrack := (hmade.addressable Catalog.builtin_lawful).unambiguous
  have haddress : (Address.slotted ⟨"mix"⟩ "inputs" 8).resolve rack = .ok slot := by
    decide +kernel
  have hdirection : Rule.direction rack slot .sink
      = .error (.direction .source "mix/inputs/8" .notASource) := by
    decide +kernel
  have hreceives : slot.receives rack = .ok (.port .audio) := by decide +kernel
  have hagrees := resolve_agrees_direction rack
  refine ⟨haddress, ⟨_, hdirection, ?_⟩, hrack, hreceives, ?_⟩
  . exact ((hagrees.1 _ slot haddress).2.2 .sink _ _).1 hdirection
  . exact hagrees.2 hrack slot (.inr ⟨_, hreceives⟩)

end ModularSynth
