import ModularSynth.Validation
import ModularSynth.Proofs.Rack

/-!
This module contains what the rules of validation amount to. A connection is accepted if it is
admissible on the rack, which is a property of the connection alone, and clashes with no connection
of the wiring, which is a symmetric relation between two connections.
-/

namespace ModularSynth

open Except (bind_eq_ok_iff mapError_eq_ok_iff)

namespace Endpoint

theorem emits_eq_ok_iff {rack : Rack} {e : Endpoint} {signal : Signal} :
    e.emits rack = .ok signal ↔
      ∃ id name port, e = .port id name ∧ rack.port id name = .ok port
        ∧ port.direction = .source ∧ port.signal = signal := by
  cases e with
  | port id name =>
    simp only [emits, bind_eq_ok_iff, mapError_eq_ok_iff]
    constructor
    . rintro ⟨port, hport, hsignal⟩
      split at hsignal
      . next hdirection =>
        cases hsignal
        exact ⟨id, name, port, rfl, hport, hdirection, rfl⟩
      . contradiction
    . rintro ⟨_, _, port, heq, hport, hdirection, hsignal⟩
      cases heq
      exact ⟨port, hport, by simp [hdirection, hsignal]⟩
  | slot => simp [emits]
  | param => simp [emits]
  | sink => simp [emits]

theorem owner?_of_emits {rack : Rack} {e : Endpoint} {signal : Signal}
    (h : e.emits rack = .ok signal) : ∃ id, e.owner? = some id := by
  rcases emits_eq_ok_iff.1 h with ⟨id, name, port, rfl, -, -, -⟩
  exact ⟨id, rfl⟩

section Receives

variable {rack : Rack} {id : ModuleId} {name : String} {kind : TargetKind}

theorem receives_port_eq_ok_iff :
    (port id name).receives rack = .ok kind ↔
      ∃ port, rack.port id name = .ok port ∧ port.direction = .sink ∧ port.isBank = false
        ∧ kind = .port port.signal := by
  simp only [receives, bind_eq_ok_iff, mapError_eq_ok_iff]
  apply exists_congr
  intro port
  apply and_congr_right
  intro _
  split
  . next hdirection => simp [hdirection]
  . next hdirection =>
    have hdirection : port.direction = .sink := Decidable.not_not.1 hdirection
    split
    . next hbank => simp [hbank]
    . next hbank => simp [hdirection, hbank, eq_comm]

theorem receives_slot_eq_ok_iff {index : UInt64} :
    (slot id name index).receives rack = .ok kind ↔
      ∃ port, rack.port id name = .ok port ∧ port.direction = .sink ∧ port.isBank = true
        ∧ index < port.slots ∧ kind = .port port.signal := by
  simp only [receives, bind_eq_ok_iff, mapError_eq_ok_iff]
  apply exists_congr
  intro port
  apply and_congr_right
  intro _
  split
  . next hdirection => simp [hdirection]
  . next hdirection =>
    have hdirection : port.direction = .sink := Decidable.not_not.1 hdirection
    split
    . next hbank =>
      have hbank : port.isBank = false := by simpa using hbank
      simp [hbank]
    . next hbank =>
      have hbank : port.isBank = true := by simpa using hbank
      split
      . next hindex => simp [UInt64.not_lt.2 hindex]
      . next hindex => simp [hdirection, hbank, UInt64.not_le.1 hindex, eq_comm]

theorem receives_param_eq_ok_iff :
    (param id name).receives rack = .ok kind ↔
      ∃ schema, rack.schema id = .ok schema ∧ schema.hasParam name ∧ kind = .parameter := by
  simp only [receives, bind_eq_ok_iff, mapError_eq_ok_iff]
  apply exists_congr
  intro schema
  apply and_congr_right
  intro _
  split
  . next hparam => simp [hparam, eq_comm]
  . next hparam => simp [hparam]

end Receives

section Frame

variable {rack rack' : Rack} {e : Endpoint}
variable (h : ∀ id, e.owner? = some id → rack'.schema? id = rack.schema? id)
include h

theorem emits_congr : e.emits rack' = e.emits rack := by
  cases e with
  | port id name => simp only [emits, Rack.port, Rack.schema, h id rfl]
  | slot | param | sink => rfl

theorem receives_congr : e.receives rack' = e.receives rack := by
  cases e with
  | port id name => simp only [receives, Rack.port, Rack.schema, h id rfl]
  | slot id name index => simp only [receives, Rack.port, Rack.schema, h id rfl]
  | param id name => simp only [receives, Rack.schema, h id rfl]
  | sink => rfl

end Frame

section Owners

variable {rack : Rack} {e : Endpoint} {id : ModuleId}

theorem schema?_isSome_of_emits {signal : Signal} (h : e.emits rack = .ok signal)
    (howner : e.owner? = some id) : (rack.schema? id).isSome := by
  rcases emits_eq_ok_iff.1 h with ⟨_, name, port, rfl, hport, -, -⟩
  cases howner
  exact Rack.schema?_isSome_of_port hport

theorem schema?_isSome_of_receives {kind : TargetKind} (h : e.receives rack = .ok kind)
    (howner : e.owner? = some id) : (rack.schema? id).isSome := by
  cases e with
  | port =>
    cases howner
    rcases receives_port_eq_ok_iff.1 h with ⟨port, hport, -⟩
    exact Rack.schema?_isSome_of_port hport
  | slot =>
    cases howner
    rcases receives_slot_eq_ok_iff.1 h with ⟨port, hport, -⟩
    exact Rack.schema?_isSome_of_port hport
  | param =>
    cases howner
    rcases receives_param_eq_ok_iff.1 h with ⟨schema, hschema, -⟩
    exact Rack.schema?_isSome_of_schema hschema
  | sink => contradiction

end Owners

end Endpoint

theorem Connection.links_iff {c : Connection} {source target : Endpoint} :
    c.links source target ↔ c.source = source ∧ c.target = target := by
  simp [links]

theorem Connection.touches_iff {c : Connection} {id : ModuleId} :
    c.touches id ↔ c.source.owner? = some id ∨ c.target.owner? = some id := by
  simp [touches, Endpoint.isOwnedBy]

theorem linked_iff {wiring : Wiring} {source target : Endpoint} :
    wiring.linked source target ↔ ∃ c ∈ wiring, c.source = source ∧ c.target = target := by
  simp [Wiring.linked, Connection.links_iff]

namespace Rule

theorem direction_eq_ok_iff {rack : Rack} {source target : Endpoint} {signal : Signal}
    {kind : TargetKind} :
    direction rack source target = .ok (signal, kind) ↔
      source.emits rack = .ok signal ∧ target.receives rack = .ok kind := by
  simp [direction, bind_eq_ok_iff, pure, Except.pure]

theorem signal_eq_ok_iff {s : Signal} {kind : TargetKind} {u : Unit} :
    signal s kind = .ok u ↔ kind.accepts s = true := by
  rw [signal]
  split <;> simp_all

theorem duplicate_eq_ok_iff {wiring : Wiring} {source target : Endpoint} {u : Unit} :
    duplicate wiring source target = .ok u ↔
      ∀ d ∈ wiring, d.target = target → d.source ≠ source ∧ target.isSlot = false := by
  rw [duplicate]
  split
  . next hlinked =>
    rcases linked_iff.1 hlinked with ⟨d, hd, hsource, htarget⟩
    simp only [reduceCtorEq, false_iff]
    intro h
    exact (h d hd htarget).1 hsource
  . next hlinked =>
    have hfree : ∀ d ∈ wiring, d.target = target → d.source ≠ source := by
      intro d hd htarget hsource
      exact hlinked (linked_iff.2 ⟨d, hd, hsource, htarget⟩)
    split
    . next hslot =>
      split
      . next c hc =>
        have hmem := List.mem_of_find?_eq_some hc
        have htarget : c.target = target := by simpa using List.find?_some hc
        simp only [reduceCtorEq, false_iff]
        intro h
        have := (h c hmem htarget).2
        simp [hslot] at this
      . next hnone =>
        simp only [true_iff]
        intro d hd htarget
        have := List.find?_eq_none.1 hnone d hd
        simp [htarget] at this
    . next hslot =>
      simp only [true_iff]
      intro d hd htarget
      exact ⟨hfree d hd htarget, by simpa using hslot⟩

theorem selfLoop_eq_ok_iff {source target : Endpoint} {id : ModuleId}
    (h : source.owner? = some id) {u : Unit} :
    selfLoop source target = .ok u ↔ target.owner? ≠ some id := by
  rw [selfLoop, h]
  cases htarget : target.owner? with
  | none => simp
  | some b =>
    dsimp only
    split
    . next heq => simp [heq]
    . next hne => simp [Ne.symm hne]

end Rule

namespace Connection

/-- What rules 1, 2 and 4 ask of a connection: it reads the rack and no other connection. -/
structure Admissible (rack : Rack) (c : Connection) : Prop where
  emits : c.source.emits rack = .ok c.signal
  receives : ∃ kind, c.target.receives rack = .ok kind ∧ kind.accepts c.signal
  owners : c.source.owner? ≠ c.target.owner?

/-- What rule 3 forbids two connections: to link the same endpoints, or to share a slot. -/
def Clashes (c d : Connection) : Prop :=
  c.target = d.target ∧ (c.source = d.source ∨ c.target.isSlot)

theorem Clashes.symm {c d : Connection} (h : c.Clashes d) : d.Clashes c := by
  rcases h with ⟨htarget, hends⟩
  refine ⟨htarget.symm, ?_⟩
  rw [← htarget]
  exact hends.imp_left Eq.symm

theorem Admissible.congr {rack rack' : Rack} {c : Connection} (h : c.Admissible rack)
    (hrack : ∀ id, c.source.owner? = some id ∨ c.target.owner? = some id →
      rack'.schema? id = rack.schema? id) : c.Admissible rack' where
  emits := by
    rw [Endpoint.emits_congr fun id hid => hrack id (.inl hid)]
    exact h.emits
  receives := by
    rw [Endpoint.receives_congr fun id hid => hrack id (.inr hid)]
    exact h.receives
  owners := h.owners

theorem Admissible.schema?_isSome {rack : Rack} {c : Connection} (h : c.Admissible rack)
    {id : ModuleId} (hid : c.source.owner? = some id ∨ c.target.owner? = some id) :
    (rack.schema? id).isSome := by
  rcases h.receives with ⟨kind, hreceives, -⟩
  cases hid with
  | inl hid => exact Endpoint.schema?_isSome_of_emits h.emits hid
  | inr hid => exact Endpoint.schema?_isSome_of_receives hreceives hid

end Connection

theorem validate_eq_ok_iff {rack : Rack} {wiring : Wiring} {source target : Endpoint}
    {c : Connection} :
    validate rack wiring source target = .ok c ↔
      c.source = source ∧ c.target = target ∧ c.Admissible rack ∧ ∀ d ∈ wiring, ¬c.Clashes d := by
  simp only [validate, bind_eq_ok_iff, Prod.exists, Rule.direction_eq_ok_iff,
    Rule.signal_eq_ok_iff, Rule.duplicate_eq_ok_iff]
  constructor
  . rintro ⟨signal, kind, ⟨hemits, hreceives⟩, _, haccepts, _, hfree, _, hloop, heq⟩
    cases heq
    rcases Endpoint.owner?_of_emits hemits with ⟨id, hid⟩
    rw [Rule.selfLoop_eq_ok_iff hid] at hloop
    refine ⟨rfl, rfl, ⟨hemits, ⟨kind, hreceives, haccepts⟩, ?_⟩, ?_⟩
    . rw [hid]
      exact hloop.symm
    . rintro d hd ⟨htarget, hends⟩
      rcases hfree d hd htarget.symm with ⟨hsource, hslot⟩
      cases hends with
      | inl hsame => exact hsource hsame.symm
      | inr hshared => simp [hslot] at hshared
  . rintro ⟨rfl, rfl, ⟨hemits, ⟨kind, hreceives, haccepts⟩, howners⟩, hfree⟩
    rcases Endpoint.owner?_of_emits hemits with ⟨id, hid⟩
    refine ⟨c.signal, kind, ⟨hemits, hreceives⟩, (), haccepts, (), ?_, (), ?_, rfl⟩
    . intro d hd htarget
      constructor
      . intro hsource
        exact hfree d hd ⟨htarget.symm, .inl hsource.symm⟩
      . apply Bool.eq_false_iff.2
        intro hslot
        exact hfree d hd ⟨htarget.symm, .inr hslot⟩
    . rw [Rule.selfLoop_eq_ok_iff hid, ← hid]
      exact howners.symm

theorem validate_ends {rack : Rack} {wiring : Wiring} {source target : Endpoint} {c : Connection}
    (h : validate rack wiring source target = .ok c) :
    validate rack wiring c.source c.target = .ok c := by
  rw [validate_eq_ok_iff] at h ⊢
  exact ⟨rfl, rfl, h.2.2⟩

theorem Wiring.connect_eq_ok_iff {rack : Rack} {wiring wiring' : Wiring}
    {source target : Endpoint} {c : Connection} :
    wiring.connect rack source target = (.ok c, wiring') ↔
      validate rack wiring source target = .ok c ∧ wiring' = wiring ++ [c] := by
  rw [connect]
  cases validate rack wiring source target with
  | error rejection => simp
  | ok d =>
    rw [Prod.mk.injEq]
    constructor
    . rintro ⟨heq, rfl⟩
      cases heq
      exact ⟨rfl, rfl⟩
    . rintro ⟨heq, rfl⟩
      cases heq
      exact ⟨rfl, rfl⟩

/-- A connection that is refused leaves the wiring as it was. -/
theorem Wiring.connect_eq_error_iff {rack : Rack} {wiring wiring' : Wiring}
    {source target : Endpoint} {rejection : Rejection} :
    wiring.connect rack source target = (.error rejection, wiring') ↔
      validate rack wiring source target = .error rejection ∧ wiring' = wiring := by
  rw [connect]
  cases validate rack wiring source target with
  | error rejection' => simp [eq_comm]
  | ok c => simp

end ModularSynth
