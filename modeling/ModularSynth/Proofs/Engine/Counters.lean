import Mathlib.Algebra.BigOperators.Group.List.Basic
import Mathlib.Algebra.GroupWithZero.Nat
import ModularSynth.Proofs.Rebuild
import ModularSynth.Proofs.Engine.Edges

/-!
This module contains how a compilation moves the counters of a bench: there is one connection for
each connection that the report counts as wired, and one disconnection for each device.
-/

namespace ModularSynth
namespace Bench

theorem total_eq_sum (count : Device → Nat) (bench : Bench) :
    bench.total count = (bench.keys.map fun id => (bench.get? id).elim 0 count).sum := by
  calc bench.total count
    _ = (bench.entries.map fun e => count e.2).sum := by
      rw [total, SortedMap.values, List.foldr_map, List.sum_eq_foldr, List.foldr_map]
    _ = (bench.keys.map fun id => (bench.get? id).elim 0 count).sum := by
      rw [SortedMap.keys, List.map_map]
      congr 1
      apply List.map_congr_left
      intro e he
      rw [Function.comp_apply, SortedMap.get?_eq_some_iff.2 he]
      rfl

/-- A count is raised on the bench by the sum of what it is raised by on each device. -/
theorem total_compile {count : Device → Nat} {rise : ModuleId → Nat} {wiring : Wiring}
    {bench : Bench}
    (h : ∀ id d d', bench.get? id = some d → (compile wiring bench).2.get? id = some d' →
      count d' = count d + rise id) :
    (compile wiring bench).2.total count = bench.total count + (bench.keys.map rise).sum := by
  have hrise : ∀ id ∈ bench.keys, ((compile wiring bench).2.get? id).elim 0 count
      = (bench.get? id).elim 0 count + rise id := by
    intro id hid
    rcases Option.isSome_iff_exists.1 (SortedMap.mem_keys_iff.1 hid) with ⟨d, hd⟩
    have hafter := get?_compile wiring bench id
    rw [hd, Option.map_some] at hafter
    rw [hafter, hd]
    exact h id d _ hd hafter
  rw [total_eq_sum, total_eq_sum, keys_compile, List.map_congr_left hrise, List.sum_map_add]

theorem sum_length_wiredFrom (wiring : Wiring) (bench : Bench) :
    (bench.keys.map fun id => (bench.wiredFrom wiring id).length).sum
      = (Compile.wiredEdges bench wiring).length := by
  rw [← List.length_flatMap]
  apply List.Perm.length_eq
  apply List.flatMap_filter_perm (SortedMap.nodup_keys bench) (fun e : Edge => e.source.module)
  intro e he
  exact mem_keys_of_mem_wiredEdges he

theorem connects_compile (wiring : Wiring) (bench : Bench) :
    (compile wiring bench).2.connects = bench.connects + (compile wiring bench).1.wired := by
  rw [Compile.compile_report, ← sum_length_wiredFrom]
  apply total_compile
  intro id d d' hd hd'
  rw [get?_compile, hd] at hd'
  cases hd'
  rfl

theorem disconnects_compile (wiring : Wiring) (bench : Bench) :
    (compile wiring bench).2.disconnects
      = bench.disconnects + (compile wiring bench).1.tornDown := by
  have hones : (bench.keys.map fun _ => 1).sum = bench.size := by
    simp [SortedMap.keys, SortedMap.size, Function.comp_def]
  rw [tornDown_compile, ← hones]
  apply total_compile
  intro id d d' hd hd'
  rw [get?_compile, hd] at hd'
  cases hd'
  rfl

end Bench
end ModularSynth
