import ModularSynth.Proofs.Rebuild
import ModularSynth.Proofs.Wiring
import ModularSynth.Proofs.Engine.Edges

/-!
This module contains that the order in which connections were made decides nothing but the order of
the edges of each device: in any other order they are accepted again and compiled to the same edges.
-/

namespace ModularSynth

namespace Compile

variable {β ο : Type} [EngineObject ο] [Engine β ο]

theorem wiredEdges_perm (engine : β) {wiring wiring' : Wiring} (h : wiring'.Perm wiring) :
    (wiredEdges engine wiring').Perm (wiredEdges engine wiring) := by
  apply h.filterMap

/-- A connection that is skipped, with the reason but without its position. -/
def failure? (engine : β) (c : Connection) : Option (Connection × SkipCause) :=
  match fate engine c with
  | .ok _ => none
  | .error cause => some (c, cause)

theorem map_skipped (engine : β) (start : Nat) (wiring : Wiring) :
    (skipped engine start wiring).map (fun s => (s.connection, s.cause))
      = wiring.filterMap (failure? engine) := by
  induction wiring generalizing start with
  | nil => rfl
  | cons c rest ih =>
    cases hfate : fate engine c with
    | error cause =>
      rw [skipped_cons_of_error hfate, List.map_cons, ih, List.filterMap_cons_some]
      rw [failure?, hfate]
    | ok edge =>
      rw [skipped_cons_of_ok hfate, ih, List.filterMap_cons_none]
      rw [failure?, hfate]

theorem map_skipped_perm (engine : β) {wiring wiring' : Wiring} (h : wiring'.Perm wiring) :
    ((skipped engine 0 wiring').map fun s => (s.connection, s.cause)).Perm
      ((skipped engine 0 wiring).map fun s => (s.connection, s.cause)) := by
  rw [map_skipped, map_skipped]
  apply h.filterMap

end Compile

namespace Bench

theorem liveEdges_compile_perm (bench : Bench) {wiring wiring' : Wiring}
    (h : wiring'.Perm wiring) :
    (compile wiring' bench).2.liveEdges.Perm (compile wiring bench).2.liveEdges := by
  rw [liveEdges_eq, liveEdges_eq, keys_compile, keys_compile]
  apply List.Perm.flatMap_left
  intro id _
  rw [liveFrom_compile, liveFrom_compile]
  cases bench.get? id with
  | none => exact .nil
  | some d =>
    have hwired := (Compile.wiredEdges_perm bench h).filter (·.source.module == id)
    exact hwired.map d.edge

end Bench

namespace Wiring

/--
A wiring that edits led to can be made again in any order, and on any bench it is then compiled to
the same set of edges and skips the same connections for the same reasons.
-/
theorem ofEdits_reorder (rack : Rack) (edits : List Edit) (bench : Bench) (wiring' : Wiring)
    (h : wiring'.Perm (ofEdits rack edits)) :
    let wiring := ofEdits rack edits
    let report := (compile wiring bench).1
    let report' := (compile wiring' bench).1
    connectAll rack [] wiring' = .ok wiring'
      ∧ (compile wiring' bench).2.edgeSet = (compile wiring bench).2.edgeSet
      ∧ report'.wired = report.wired
      ∧ report'.tornDown = report.tornDown
      ∧ (report'.skips.map fun s => (s.connection, s.cause)).Perm
          (report.skips.map fun s => (s.connection, s.cause)) := by
  intro wiring report report'
  have hreport : report = _ := Compile.compile_report wiring bench
  have hreport' : report' = _ := Compile.compile_report wiring' bench
  refine ⟨?_, ?_, ?_, ?_, ?_⟩
  . have hvalid : Valid rack wiring' := (ofEdits_valid rack edits).perm h.symm
    exact connectAll_of_valid hvalid
  . apply Bench.edgeSet_eq_of_perm
    exact Bench.liveEdges_compile_perm bench h
  . rw [hreport, hreport']
    exact (Compile.wiredEdges_perm bench h).length_eq
  . rw [hreport, hreport']
  . rw [hreport, hreport']
    exact Compile.map_skipped_perm bench h

theorem ofEdits_reorder_mixer :
    let rack : Rack :=
      [⟨⟨"osc"⟩, ⟨"oscillator", [.source "out" .audio], []⟩⟩,
        ⟨⟨"mix"⟩, ⟨"mixer", [⟨"in", .sink, .audio, 2⟩, .source "out" .audio], []⟩⟩]
    let edits : List Edit :=
      [.connect (.port ⟨"osc"⟩ "out") (.slot ⟨"mix"⟩ "in" 1),
        .connect (.port ⟨"mix"⟩ "out") .sink]
    let wiring' : Wiring :=
      [⟨.port ⟨"mix"⟩ "out", .sink, .audio⟩,
        ⟨.port ⟨"osc"⟩ "out", .slot ⟨"mix"⟩ "in" 1, .audio⟩]
    wiring'.Perm (ofEdits rack edits)
      ∧ connectAll rack [] wiring' = .ok wiring'
      ∧ (compile wiring' (Bench.ofRack rack)).2.edgeSet
          = (compile (ofEdits rack edits) (Bench.ofRack rack)).2.edgeSet := by
  intro rack edits wiring'
  have hperm : wiring'.Perm (ofEdits rack edits) := by decide
  have h := ofEdits_reorder rack edits (Bench.ofRack rack) wiring' hperm
  exact ⟨hperm, h.1, h.2.1⟩

end Wiring
end ModularSynth
