import ModularSynth.Proofs.Report
import ModularSynth.Proofs.Engine.Handles

/-!
This module contains that a compilation rebuilds a bench from nothing. What becomes of a connection
depends neither on the other connections nor on what the bench was wired to before, and the devices
end with the edges of the connections that are wired and no others.
-/

namespace ModularSynth
namespace Bench

open Compile (fate wiredEdges)

theorem map_edge_wiredFrom {bench : Bench} {id : ModuleId} {d : Device}
    (hd : bench.get? id = some d) (wiring : Wiring) :
    (bench.wiredFrom wiring id).map (fun e => some (d.edge e))
      = ((wiring.filter fun c => (fate bench c).isOk).filter (·.source.isOwnedBy id)).map
          bench.edge? := by
  apply Compile.map_filter_wiredEdges
  intro c e hfate hmodule
  rw [← hmodule] at hd
  exact (edge?_of_fate hfate hd).symm

theorem live_compile (wiring : Wiring) (bench : Bench) (id : ModuleId) :
    ((compile wiring bench).2.get? id).map (·.live.map some)
      = (bench.get? id).map fun _ =>
          (((compile wiring bench).1.wiredOf wiring).filter (·.source.isOwnedBy id)).map
            bench.edge? := by
  rw [get?_compile, Compile.wiredOf_compile, Option.map_map]
  cases hd : bench.get? id with
  | none => rfl
  | some d =>
    rw [Option.map_some, Option.map_some, ← map_edge_wiredFrom hd]
    simp

theorem exists_edge?_of_mem_wiredOf {wiring : Wiring} {bench : Bench} {c : Connection}
    (hc : c ∈ (compile wiring bench).1.wiredOf wiring) :
    ∃ id e, c.source.isOwnedBy id ∧ (bench.get? id).isSome ∧ bench.edge? c = some e := by
  rw [Compile.wiredOf_compile, List.mem_filter, Except.isOk_eq_true_iff] at hc
  rcases hc with ⟨-, e, hfate⟩
  rcases Compile.fate_eq_ok_iff.1 hfate with ⟨-, -, d, hd, -⟩
  refine ⟨e.source.module, _, ?_, Option.isSome_of_eq_some hd, edge?_of_fate hfate hd⟩
  rw [Compile.isOwnedBy_of_fate hfate]
  exact beq_self_eq_true _

/-- The edge of a connection that is wired is live on the device that emits it. -/
theorem exists_live_of_mem_wiredOf {wiring : Wiring} {bench : Bench} {c : Connection}
    (hc : c ∈ (compile wiring bench).1.wiredOf wiring) :
    ∃ id d e, c.source.owner? = some id ∧ (compile wiring bench).2.get? id = some d
      ∧ bench.edge? c = some e ∧ e ∈ d.live := by
  rcases exists_edge?_of_mem_wiredOf hc with ⟨id, e, howner, hsome, hedge⟩
  rcases Option.isSome_iff_exists.1 hsome with ⟨d, hd⟩
  have hlive := live_compile wiring bench id
  rw [hd, Option.map_some, Option.map_eq_some_iff] at hlive
  rcases hlive with ⟨d', hd', hlive⟩
  refine ⟨id, d', e, eq_of_beq howner, hd', hedge, ?_⟩
  have hmem : some e ∈ d'.live.map some := by
    rw [hlive, ← hedge]
    exact List.mem_map_of_mem (List.mem_filter.2 ⟨hc, howner⟩)
  simpa using hmem

theorem tornDown_compile (wiring : Wiring) (bench : Bench) :
    (compile wiring bench).1.tornDown = bench.size := by
  rw [Compile.compile_report]
  have hall : ∀ id ∈ bench.keys, (bench.get? id).isSome := by
    intro id hid
    exact SortedMap.mem_keys_iff.1 hid
  have hlength : bench.keys.length = bench.size := by
    rw [SortedMap.keys, List.length_map, SortedMap.size]
  rw [← hlength]
  exact List.countP_eq_length.2 hall

theorem live_compile_compile (wiring : Wiring) (bench : Bench) (id : ModuleId) :
    ((compile wiring (compile wiring bench).2).2.get? id).map (·.live)
      = ((compile wiring bench).2.get? id).map (·.live) := by
  have hwired : (compile wiring bench).2.wiredFrom wiring id = bench.wiredFrom wiring id := by
    unfold wiredFrom
    rw [Compile.wiredEdges_congr (Compile.compile_alike wiring bench)]
  rw [get?_compile wiring (compile wiring bench).2, hwired, get?_compile, Option.map_map,
    Option.map_map, Option.map_map]
  rfl

/--
The report says of a connection what a compilation of that connection alone says, on any bench that
differs at most in live edges and counters; the devices end with the edges of the connections that
it does not list, and a second compilation changes neither. If each device has the handles of its
own module, the edge of a connection is the one that the connection names.
-/
theorem compile_rebuilds (wiring : Wiring) (bench : Bench) :
    let report := (compile wiring bench).1
    let after := (compile wiring bench).2
    (∀ i c (other : Bench), wiring[i]? = some c → other.bare = bench.bare →
        report.cause? i = (compile [c] other).1.cause? 0)
      ∧ (∀ id, (after.get? id).map (·.live.map some) = (bench.get? id).map fun _ =>
          ((report.wiredOf wiring).filter (·.source.isOwnedBy id)).map bench.edge?)
      ∧ (bench.Genuine → ∀ c ∈ report.wiredOf wiring, bench.edge? c = c.edge?)
      ∧ report.skips.Pairwise (fun s t => s.index < t.index)
      ∧ (∀ s ∈ report.skips, wiring[s.index]? = some s.connection)
      ∧ report.wired + report.skips.length = wiring.length
      ∧ report.tornDown = bench.size
      ∧ (compile wiring after).1 = report
      ∧ (∀ id, ((compile wiring after).2.get? id).map (·.live) = (after.get? id).map (·.live)) := by
  intro report after
  refine ⟨?_, ?_, ?_, ?_, ?_, ?_, ?_, ?_, ?_⟩
  . intro i c other hi hbare
    exact Compile.cause?_compile_alone (alike_of_bare_eq hbare.symm) hi
  . intro id
    exact live_compile wiring bench id
  . intro hgenuine c hc
    rcases exists_edge?_of_mem_wiredOf hc with ⟨-, e, -, -, he⟩
    rw [he, hgenuine.edge?_eq he]
  . exact Compile.skips_ascending wiring bench
  . intro s hs
    exact Compile.getElem?_of_mem_skips hs
  . exact Compile.wired_add_length_skips wiring bench
  . exact tornDown_compile wiring bench
  . exact Compile.compile_report_congr (Compile.compile_alike wiring bench) wiring
  . intro id
    exact live_compile_compile wiring bench id

end Bench
end ModularSynth
