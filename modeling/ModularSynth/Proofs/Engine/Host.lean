import ModularSynth.Engine.PartialHost
import ModularSynth.Proofs.Engine.Handles

/-!
This module contains which part of a host no compilation changes, whatever its stubs answer: its
ids, its sink, the handles of its devices, and the devices that are locked or hidden by a stub. A
stub may come to answer differently, so a host is not lawful.
-/

namespace ModularSynth

open EngineObject (Next)

/-- The stub has come to answer as another one, by refusals and disconnections. -/
inductive Stub.Becomes {σ : Type} [Stub σ] (id : ModuleId) (s : σ) : σ → Prop
  | same : Becomes id s s
  | refuse {s' : σ} (h : Becomes id s s') (port : String) (target : Inlet) :
    Becomes id s (Stub.refuse id s' port target).2
  | disconnect {s' : σ} (h : Becomes id s s') : Becomes id s (Stub.disconnect id s')

namespace HostObject

variable {σ : Type} [Stub σ]

theorem next_device {d : Device} {o : HostObject σ} (h : Next (.device d) o) :
    ∃ d', o = .device d' ∧ d'.bare = d.bare := by
  cases h with
  | connect port target => exact ⟨_, rfl, d.bare_connect port target⟩
  | disconnect => exact ⟨_, rfl, d.bare_disconnect⟩

theorem next_stub {id : ModuleId} {s s₀ : σ} {o : HostObject σ} (h : Next (.stub id s) o)
    (hs : Stub.Becomes id s₀ s) : ∃ s', o = .stub id s' ∧ Stub.Becomes id s₀ s' := by
  cases h with
  | connect port target => exact ⟨_, rfl, hs.refuse port target⟩
  | disconnect => exact ⟨_, rfl, hs.disconnect⟩

end HostObject

namespace Host

variable {σ : Type}

/-- A stub is in front of the object of the id, or it cannot be changed. -/
def isShielded (host : Host σ) (id : ModuleId) : Bool :=
  host.locks.contains id || host.stubs.contains id

section Shield

variable {host : Host σ} {id : ModuleId}

theorem isShielded_eq_false_iff :
    host.isShielded id = false ↔ host.locks.contains id = false ∧ host.stubs.get? id = none := by
  simp [isShielded, SortedMap.contains]

theorem editable?_of_not_isShielded (h : host.isShielded id = false) :
    Engine.editable? host id = (host.bench.get? id).map .device := by
  rw [isShielded_eq_false_iff] at h
  show host.editable? id = _
  rw [editable?, h.1, object?, h.2]
  rfl

/-- An object that can be changed is a device that is not shielded, or it is a stub. -/
theorem editable?_cases {o : HostObject σ} (h : Engine.editable? host id = some o) :
    (∃ d, o = .device d ∧ host.isShielded id = false ∧ host.bench.get? id = some d)
      ∨ ∃ s, o = .stub id s ∧ host.stubs.get? id = some s := by
  have h : host.editable? id = some o := h
  rw [editable?] at h
  split at h
  . contradiction
  . next hlock =>
    rw [object?] at h
    split at h
    . next s hs =>
      cases h
      exact .inr ⟨s, rfl, hs⟩
    . next hs =>
      rcases Option.map_eq_some_iff.1 h with ⟨d, hd, rfl⟩
      exact .inl ⟨d, rfl, isShielded_eq_false_iff.2 ⟨Bool.eq_false_iff.2 hlock, hs⟩, hd⟩

theorem isSome_editable? (host : Host σ) (id : ModuleId) :
    (Engine.editable? host id).isSome
      = (!host.locks.contains id && (host.stubs.contains id || host.bench.contains id)) := by
  show (host.editable? id).isSome = _
  rw [editable?]
  cases host.locks.contains id with
  | true => rfl
  | false =>
    rw [if_neg Bool.false_ne_true, object?]
    cases hs : host.stubs.get? id <;> simp [SortedMap.contains, hs]

end Shield

variable [Stub σ]

/-- What every compilation keeps of another host. -/
structure Keeps (host other : Host σ) : Prop where
  sink : host.sink = other.sink
  ghosts : host.ghosts = other.ghosts
  locks : host.locks = other.locks
  /-- The devices differ at most in live edges and counters. -/
  bare : host.bench.bare = other.bench.bare
  shielded : ∀ id, other.isShielded id → host.bench.get? id = other.bench.get? id
  stubIds : host.stubs.keys = other.stubs.keys
  stubs : ∀ id s, host.stubs.get? id = some s →
    ∃ s₀, other.stubs.get? id = some s₀ ∧ Stub.Becomes id s₀ s

namespace Keeps

theorem refl (host : Host σ) : host.Keeps host where
  sink := rfl
  ghosts := rfl
  locks := rfl
  bare := rfl
  shielded := fun _ _ => rfl
  stubIds := rfl
  stubs := fun _ s hs => ⟨s, hs, .same⟩

variable {host other : Host σ} (h : host.Keeps other)
include h

theorem isSome_get?_stubs (id : ModuleId) :
    (host.stubs.get? id).isSome = (other.stubs.get? id).isSome := by
  apply Bool.eq_iff_iff.2
  rw [← SortedMap.mem_keys_iff, ← SortedMap.mem_keys_iff, h.stubIds]

theorem get?_stubs_eq_none {id : ModuleId} :
    host.stubs.get? id = none ↔ other.stubs.get? id = none := by
  rw [← Option.isNone_iff_eq_none, ← Option.isNone_iff_eq_none, ← Option.not_isSome,
    ← Option.not_isSome, h.isSome_get?_stubs]

theorem isShielded (id : ModuleId) : host.isShielded id = other.isShielded id := by
  rw [Host.isShielded, Host.isShielded, h.locks, SortedMap.contains, SortedMap.contains,
    h.isSome_get?_stubs]

theorem isSome_editable? (id : ModuleId) :
    (Engine.editable? host id).isSome = (Engine.editable? other id).isSome := by
  have hbench := Bench.isSome_get?_of_bare_eq h.bare id
  rw [Host.isSome_editable?, Host.isSome_editable?, h.locks, SortedMap.contains, SortedMap.contains,
    SortedMap.contains, SortedMap.contains, h.isSome_get?_stubs, hbench]

theorem put_device {id : ModuleId} {d d' : Device} (hshield : host.isShielded id = false)
    (hd : host.bench.get? id = some d) (hbare : d'.bare = d.bare) :
    (host.put id (.device d')).Keeps other := by
  refine ⟨h.sink, h.ghosts, h.locks, (Bench.bare_insert hd hbare).trans h.bare, ?_, h.stubIds,
    h.stubs⟩
  intro id' hid'
  have hne : id' ≠ id := by
    rintro rfl
    rw [h.isShielded, hid'] at hshield
    contradiction
  rw [Host.put]
  dsimp only
  rw [SortedMap.get?_insert, if_neg hne, h.shielded id' hid']

theorem put_stub {id id' : ModuleId} {s s₀ s' : σ} (hs : host.stubs.get? id = some s)
    (hs₀ : other.stubs.get? id = some s₀) (hlater : Stub.Becomes id s₀ s') :
    (host.put id (.stub id' s')).Keeps other := by
  refine ⟨h.sink, h.ghosts, h.locks, h.bare, h.shielded, ?_, ?_⟩
  . refine (SortedMap.keys_insert_of_mem _ _ ?_).trans h.stubIds
    exact SortedMap.mem_keys_iff.2 (Option.isSome_of_eq_some hs)
  . intro id' s'' hs''
    rw [Host.put] at hs''
    dsimp only at hs''
    rw [SortedMap.get?_insert] at hs''
    split at hs''
    . next heq =>
      cases hs''
      rw [heq]
      exact ⟨s₀, hs₀, hlater⟩
    . exact h.stubs id' s'' hs''

end Keeps

section Run

variable {host other : Host σ}

/-- Neither a connection nor a disconnection of one object changes what is kept. -/
theorem put_keeps {id : ModuleId} {o o' : HostObject σ} (ho : Engine.editable? host id = some o)
    (hnext : Next o o') (h : host.Keeps other) : (Engine.put host id o').Keeps other := by
  rcases editable?_cases ho with ⟨d, rfl, hshield, hd⟩ | ⟨s, rfl, hs⟩
  . rcases HostObject.next_device hnext with ⟨d', rfl, hbare⟩
    exact h.put_device hshield hd hbare
  . rcases h.stubs id s hs with ⟨s₀, hs₀, hbecomes⟩
    rcases HostObject.next_stub hnext hbecomes with ⟨s', rfl, hlater⟩
    exact h.put_stub hs hs₀ hlater

theorem wire_keeps (h : host.Keeps other) (c : Connection) :
    (Compile.wire host c).2.Keeps other := by
  exact Compile.wire_induction (motive := fun after : Host σ => after.Keeps other) put_keeps h c

theorem unlink_keeps (h : host.Keeps other) (id : ModuleId) :
    (Compile.unlink host id).Keeps other := by
  rw [Compile.unlink, Engine.change]
  split
  . next ho => exact put_keeps ho .disconnect h
  . exact h

variable (host)

theorem teardown_keeps : (Compile.teardown host).2.Keeps host := by
  exact Compile.disconnectAll_induction (motive := fun after : Host σ => after.Keeps host)
    put_keeps (.refl host) _

theorem compile_keeps (wiring : Wiring) : (compile wiring host).2.Keeps host := by
  exact Compile.compile_induction (motive := fun after : Host σ => after.Keeps host)
    put_keeps (.refl host) wiring

end Run
end Host
end ModularSynth
