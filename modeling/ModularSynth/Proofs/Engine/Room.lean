import ModularSynth.Engine.Bench
import ModularSynth.Proofs.Catalog
import ModularSynth.Proofs.Except

/-!
This module contains when devices can be made: no bank may have more gains than a list can hold, and
the banks of the built-in kinds never have. What is proved of devices and benches elsewhere is about
devices that could be made.
-/

namespace ModularSynth

/-- The port is no bank, or its gains have room because there are less than 2^57 of them. -/
def Port.HasRoom (port : Port) : Prop :=
  port.isBank → port.slots.toNat < 144115188075855872

instance (port : Port) : Decidable port.HasRoom :=
  inferInstanceAs (Decidable (port.isBank → port.slots.toNat < 144115188075855872))

def Module.HasRoom (m : Module) : Prop :=
  ∀ port ∈ m.schema.sinks, port.HasRoom

instance (m : Module) : Decidable m.HasRoom :=
  inferInstanceAs (Decidable (∀ port ∈ m.schema.sinks, port.HasRoom))

namespace Device

theorem le_maxGains_iff {n : Nat} : n ≤ maxGains ↔ n < 144115188075855872 := by
  unfold maxGains
  omega

theorem tryBank_eq (d : Device) (port : String) (slots : UInt64) :
    d.tryBank port slots
      = if slots.toNat < 144115188075855872 then .ok (d.withBank port slots)
        else .error .bankTooLarge := by
  rw [tryBank]
  simp only [le_maxGains_iff]

theorem trySink_cases (d : Device) (port : Port) :
    (port.HasRoom ∧ d.trySink port = .ok (d.withSink port))
      ∨ (¬port.HasRoom ∧ d.trySink port = .error .bankTooLarge) := by
  rw [Port.HasRoom, trySink, withSink, tryBank_eq]
  by_cases hbank : port.isBank
  . by_cases hslots : port.slots.toNat < 144115188075855872
    . exact .inl ⟨fun _ => hslots, by simp [hbank, hslots]⟩
    . exact .inr ⟨fun h => hslots (h hbank), by simp [hbank, hslots]⟩
  . exact .inl ⟨fun h => absurd h hbank, by simp [hbank]⟩

theorem foldlM_trySink_cases (d : Device) (ports : List Port) :
    ((∀ port ∈ ports, port.HasRoom) ∧ ports.foldlM trySink d = .ok (ports.foldl withSink d))
      ∨ ((¬∀ port ∈ ports, port.HasRoom) ∧ ports.foldlM trySink d = .error .bankTooLarge) := by
  induction ports generalizing d with
  | nil => exact .inl ⟨by simp, rfl⟩
  | cons port rest ih =>
    rw [List.foldlM_cons, List.forall_mem_cons]
    rcases d.trySink_cases port with ⟨hport, heq⟩ | ⟨hport, heq⟩
    . rw [heq, Except.ok_bind]
      rcases ih (d.withSink port) with ⟨hrest, heq⟩ | ⟨hrest, heq⟩
      . exact .inl ⟨⟨hport, hrest⟩, heq⟩
      . exact .inr ⟨fun h => hrest h.2, heq⟩
    . rw [heq, Except.error_bind]
      exact .inr ⟨fun h => hport h.1, rfl⟩

theorem tryModule_cases (m : Module) :
    (m.HasRoom ∧ tryModule m = .ok (ofModule m))
      ∨ (¬m.HasRoom ∧ tryModule m = .error .bankTooLarge) := by
  rw [tryModule]
  rcases foldlM_trySink_cases
    (m.schema.sources.foldl (fun d port => d.withOutput port.name) (new m.id)) m.schema.sinks
    with ⟨hroom, heq⟩ | ⟨hroom, heq⟩
  . rw [heq, Except.ok_bind]
    exact .inl ⟨hroom, rfl⟩
  . rw [heq, Except.error_bind]
    exact .inr ⟨hroom, rfl⟩

theorem tryModule_of_hasRoom {m : Module} (h : m.HasRoom) : tryModule m = .ok (ofModule m) := by
  rcases tryModule_cases m with ⟨-, heq⟩ | ⟨hnot, -⟩
  . exact heq
  . contradiction

theorem tryModule_of_not_hasRoom {m : Module} (h : ¬m.HasRoom) :
    tryModule m = .error .bankTooLarge := by
  rcases tryModule_cases m with ⟨hroom, -⟩ | ⟨-, heq⟩
  . contradiction
  . exact heq

end Device

namespace Bench

theorem tryAddModule_eq {m : Module} (h : m.HasRoom) (bench : Bench) :
    bench.tryAddModule m = (.ok (), bench.addModule m) := by
  rw [tryAddModule, addModule, SortedMap.insertIfNew, Device.tryModule_of_hasRoom h]
  by_cases hcontains : bench.contains m.id <;> simp [hcontains]

theorem tryAddModules_eq {rack : Rack} (h : ∀ m ∈ rack, m.HasRoom) (bench : Bench) :
    bench.tryAddModules rack = (.ok (), rack.foldl addModule bench) := by
  induction rack generalizing bench with
  | nil => rfl
  | cons m rest ih =>
    rcases List.forall_mem_cons.1 h with ⟨hm, hrest⟩
    rw [tryAddModules, tryAddModule_eq hm]
    exact ih hrest _

/-- Where every bank has room, devices are made for all modules that are new. -/
theorem trySync_eq {rack : Rack} (h : ∀ m ∈ rack, m.HasRoom) (bench : Bench) :
    bench.trySync rack = (.ok (), bench.sync rack) := by
  exact tryAddModules_eq h _

theorem trySync_of_builtin {rack : Rack} (h : rack.MadeFrom .builtin) (bench : Bench) :
    bench.trySync rack = (.ok (), bench.sync rack) := by
  have hroom : ∀ kind ∈ Catalog.builtin, ∀ port ∈ kind.schema.sinks, port.HasRoom := by decide
  apply trySync_eq
  intro m hm
  rcases h m hm with ⟨kind, hkind, heq⟩
  rw [Module.HasRoom, ← heq]
  exact hroom kind hkind

end Bench
end ModularSynth
