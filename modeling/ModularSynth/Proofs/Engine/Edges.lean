import ModularSynth.Proofs.List
import ModularSynth.Proofs.Engine.Bench

/-!
This module contains the live edges of a bench as a list and as a set. The list holds the edges of
each device in turn; the set does not depend on the order of the list.
-/

namespace ModularSynth

namespace Edge

instance : Std.TransCmp order := by
  let _ : Ord Outlet := ⟨Outlet.order⟩
  let _ : Ord Inlet := ⟨Inlet.order⟩
  have : Std.TransOrd Outlet := inferInstanceAs (Std.TransCmp Outlet.order)
  have : Std.TransOrd Inlet := inferInstanceAs (Std.TransCmp Inlet.order)
  show Std.TransCmp (compareLex (compareOn Edge.source) (compareOn Edge.target))
  infer_instance

theorem eq_of_order_eq {a b : Edge} (h : order a b = .eq) : a = b := by
  rw [order, Ordering.then_eq_eq] at h
  rcases a with ⟨source, target⟩
  rcases b with ⟨source', target'⟩
  rw [Edge.mk.injEq]
  exact ⟨Outlet.eq_of_order_eq h.1, Inlet.eq_of_order_eq h.2⟩

theorem isLE_total (a b : Edge) : (order a b).isLE || (order b a).isLE := by
  rw [← Std.OrientedCmp.isGE_eq_isLE]
  cases order b a <;> rfl

theorem mergeSort_eq_of_perm {edges edges' : List Edge} (h : edges.Perm edges') :
    edges.mergeSort (fun a b => (order a b).isLE)
      = edges'.mergeSort (fun a b => (order a b).isLE) := by
  have hsorted : ∀ edges : List Edge,
      (edges.mergeSort fun a b => (order a b).isLE).Pairwise fun a b => (order a b).isLE := by
    intro edges
    apply List.pairwise_mergeSort
    . intro a b c hab hbc
      exact Std.TransCmp.isLE_trans hab hbc
    . intro a b
      exact isLE_total a b
  apply List.Perm.eq_of_pairwise _ (hsorted edges) (hsorted edges')
  . exact ((List.mergeSort_perm edges _).trans h).trans (List.mergeSort_perm edges' _).symm
  . intro a b _ _ hab hba
    apply eq_of_order_eq
    exact Std.OrientedCmp.isLE_antisymm hab hba

end Edge

namespace Bench

def liveFrom (bench : Bench) (id : ModuleId) : List Edge :=
  ((bench.get? id).map (·.live)).getD []

theorem liveEdges_eq (bench : Bench) : bench.liveEdges = bench.keys.flatMap bench.liveFrom := by
  rw [liveEdges, SortedMap.values_eq, List.filterMap_eq_flatMap_toList, List.flatMap_assoc]
  congr
  funext id
  unfold liveFrom
  cases bench.get? id <;> simp

theorem edgeSet_eq_of_perm {a b : Bench} (h : a.liveEdges.Perm b.liveEdges) :
    a.edgeSet = b.edgeSet := by
  rw [edgeSet, edgeSet, Edge.mergeSort_eq_of_perm h]

theorem length_edgeSet {bench : Bench} (h : bench.liveEdges.Nodup) :
    bench.edgeSet.length = bench.liveEdges.length := by
  have hperm := List.mergeSort_perm bench.liveEdges fun a b => (Edge.order a b).isLE
  rw [edgeSet, List.eraseReps_of_nodup (hperm.symm.nodup h), hperm.length_eq]

theorem keys_compile (wiring : Wiring) (bench : Bench) :
    (compile wiring bench).2.keys = bench.keys := by
  exact (Compile.compile_alike wiring bench).ids

theorem liveFrom_compile (wiring : Wiring) (bench : Bench) (id : ModuleId) :
    (compile wiring bench).2.liveFrom id
      = ((bench.get? id).map fun d => (bench.wiredFrom wiring id).map d.edge).getD [] := by
  rw [liveFrom, get?_compile, Option.map_map]
  rfl

theorem mem_keys_of_mem_wiredEdges {bench : Bench} {wiring : Wiring} {e : Edge}
    (he : e ∈ Compile.wiredEdges bench wiring) : e.source.module ∈ bench.keys := by
  rcases Compile.mem_wiredEdges_iff.1 he with ⟨c, -, hfate⟩
  rcases Compile.fate_eq_ok_iff.1 hfate with ⟨-, -, d, hd, -⟩
  exact SortedMap.mem_keys_iff.2 (Option.isSome_of_eq_some hd)

section Ids

variable {bench : Bench} (hids : ∀ id d, bench.get? id = some d → d.id = id)
include hids

theorem liveFrom_compile_of_ids (wiring : Wiring) (id : ModuleId) :
    (compile wiring bench).2.liveFrom id = bench.wiredFrom wiring id := by
  rw [liveFrom_compile]
  cases hd : bench.get? id with
  | none =>
    apply Eq.symm
    apply List.filter_eq_nil_iff.2
    intro e he heq
    have hkey := mem_keys_of_mem_wiredEdges he
    rw [eq_of_beq heq, SortedMap.mem_keys_iff, hd] at hkey
    contradiction
  | some d =>
    have hself : ∀ e ∈ bench.wiredFrom wiring id, d.edge e = e := by
      intro e he
      apply Device.edge_self
      rw [hids id d hd]
      exact (eq_of_beq (List.mem_filter.1 he).2).symm
    rw [Option.map_some, Option.getD_some, List.map_congr_left hself, List.map_id']

theorem liveEdges_compile_of_ids (wiring : Wiring) :
    (compile wiring bench).2.liveEdges.Perm (Compile.wiredEdges bench wiring) := by
  rw [liveEdges_eq, keys_compile, List.flatMap_congr fun id _ => liveFrom_compile_of_ids hids _ id]
  apply List.flatMap_filter_perm (SortedMap.nodup_keys bench) (fun e : Edge => e.source.module)
  intro e he
  exact mem_keys_of_mem_wiredEdges he

end Ids

end Bench
end ModularSynth
