import ModularSynth.LivePatch
import ModularSynth.Proofs.Engine.Edges
import ModularSynth.Proofs.Rebuild
import ModularSynth.Proofs.Removal

/-!
This module contains that a live patch is never behind its edits. After any calls its report and the
live edges of its engine are those of compiling its wiring, and a call that is refused or removes
nothing leaves all of it as it was.
-/

namespace ModularSynth

namespace LivePatch

inductive Call
  | propose (source target : String)
  | remove (source target : String)
  | addModule (id : ModuleId) (schema : Schema)
  | removeModule (id : ModuleId)
  | recompile

inductive Answer
  | refused (error : EditError)
  | connected (c : Connection)
  | removed (linked : Bool)
  | added
  | purged (connections : Nat)
  | compiled (report : Report)

/-- The answer to a call that may be refused. -/
def Answer.of {α : Type} (f : α → Answer) : Except EditError α → Answer
  | .ok a => f a
  | .error e => .refused e

section Calls

variable {β ο : Type} [EngineObject ο] [Engine β ο]

/-- The answer to a call and what is there after it. -/
def call (live : LivePatch β) : Call → Answer × LivePatch β
  | .propose source target =>
    let (result, live) := live.propose source target
    (.of .connected result, live)
  | .remove source target =>
    let (result, live) := live.remove source target
    (.of .removed result, live)
  | .addModule id schema =>
    let (result, live) := live.addModule id schema
    (.of (fun _ => .added) result, live)
  | .removeModule id =>
    let (result, live) := live.removeModule id
    (.of .purged result, live)
  | .recompile => (.compiled live.recompile.report, live.recompile)

def run (live : LivePatch β) (calls : List Call) : LivePatch β :=
  calls.foldl (fun live c => (live.call c).2) live

/-- Everything a call can do. -/
inductive Step (live : LivePatch β) : Call → LivePatch β → Prop
  | nothing (call : Call) : Step live call live
  | propose {source target : String} {c : Connection} {p : Patch}
    (h : live.patch.propose source target = (.ok c, p)) :
    Step live (.propose source target) (start p live.engine)
  | remove {source target : String} {p : Patch}
    (h : live.patch.remove source target = (.ok true, p)) :
    Step live (.remove source target) (start p live.engine)
  | addModule {id : ModuleId} {schema : Schema} {m : Module} {p : Patch}
    (h : live.patch.addModule id schema = (.ok m, p)) :
    Step live (.addModule id schema) (start p (Engine.moduleAdded live.engine m))
  | removeModule {id : ModuleId} {purged : Nat} {p : Patch}
    (h : live.patch.removeModule id = (.ok purged, p)) :
    Step live (.removeModule id) (start p (Engine.moduleRemoved live.engine id))
  | recompile : Step live .recompile live.recompile

section Results

variable {live live' : LivePatch β}

theorem propose_eq_ok_iff {source target : String} {c : Connection} :
    live.propose source target = (.ok c, live') ↔
      ∃ p, live.patch.propose source target = (.ok c, p) ∧ live' = start p live.engine := by
  rw [propose]
  rcases live.patch.propose source target with ⟨e | c', p⟩
  . simp
  . simp [eq_comm]

theorem remove_eq_ok_iff {source target : String} {linked : Bool} :
    live.remove source target = (.ok linked, live') ↔
      ∃ p, live.patch.remove source target = (.ok linked, p)
        ∧ live' = if linked then start p live.engine else live := by
  rw [remove]
  rcases hremove : live.patch.remove source target with ⟨e | linked', p⟩
  . simp
  . cases linked' with
    | true => cases linked <;> simp [eq_comm]
    | false =>
      rw [Patch.remove_eq_ok_false hremove]
      cases linked <;> simp [@eq_comm _ live]

theorem addModule_eq_ok_iff {id : ModuleId} {schema : Schema} :
    live.addModule id schema = (.ok (), live') ↔
      ∃ m p, live.patch.addModule id schema = (.ok m, p)
        ∧ live' = start p (Engine.moduleAdded live.engine m) := by
  rw [addModule]
  rcases live.patch.addModule id schema with ⟨e | m, p⟩
  . simp
  . simp [eq_comm]

theorem removeModule_eq_ok_iff {id : ModuleId} {purged : Nat} :
    live.removeModule id = (.ok purged, live') ↔
      ∃ p, live.patch.removeModule id = (.ok purged, p)
        ∧ live' = start p (Engine.moduleRemoved live.engine id) := by
  rw [removeModule]
  rcases live.patch.removeModule id with ⟨e | purged', p⟩
  . simp
  . simp [eq_comm]

/-- A failed edit leaves the patch as it was, and nothing else is touched then. -/
theorem eq_of_propose_error {source target : String} {e : EditError}
    (h : live.propose source target = (.error e, live')) : live' = live := by
  rw [propose] at h
  split at h <;> cases h
  next hp => rw [Patch.eq_of_propose_error hp]

theorem eq_of_remove_error {source target : String} {e : EditError}
    (h : live.remove source target = (.error e, live')) : live' = live := by
  rw [remove] at h
  split at h <;> cases h
  next hp => rw [Patch.eq_of_remove_error hp]

theorem eq_of_addModule_error {id : ModuleId} {schema : Schema} {e : EditError}
    (h : live.addModule id schema = (.error e, live')) : live' = live := by
  rw [addModule] at h
  split at h <;> cases h
  next hp => rw [Patch.eq_of_addModule_error hp]

theorem eq_of_removeModule_error {id : ModuleId} {e : EditError}
    (h : live.removeModule id = (.error e, live')) : live' = live := by
  rw [removeModule] at h
  split at h <;> cases h
  next hp => rw [Patch.eq_of_removeModule_error hp]

end Results

theorem call_step (live : LivePatch β) (c : Call) : Step live c (live.call c).2 := by
  cases c with
  | propose source target =>
    rcases h : live.propose source target with ⟨e | c, live'⟩
    . simp only [call, h, eq_of_propose_error h]
      exact .nothing _
    . rcases propose_eq_ok_iff.1 h with ⟨p, hp, rfl⟩
      simp only [call, h]
      exact .propose hp
  | remove source target =>
    rcases h : live.remove source target with ⟨e | linked, live'⟩
    . simp only [call, h, eq_of_remove_error h]
      exact .nothing _
    . rcases remove_eq_ok_iff.1 h with ⟨p, hp, rfl⟩
      simp only [call, h]
      cases linked with
      | true => exact .remove hp
      | false => exact .nothing _
  | addModule id schema =>
    rcases h : live.addModule id schema with ⟨e | ⟨⟩, live'⟩
    . simp only [call, h, eq_of_addModule_error h]
      exact .nothing _
    . rcases addModule_eq_ok_iff.1 h with ⟨m, p, hp, rfl⟩
      simp only [call, h]
      exact .addModule hp
  | removeModule id =>
    rcases h : live.removeModule id with ⟨e | purged, live'⟩
    . simp only [call, h, eq_of_removeModule_error h]
      exact .nothing _
    . rcases removeModule_eq_ok_iff.1 h with ⟨p, hp, rfl⟩
      simp only [call, h]
      exact .removeModule hp
  | recompile => exact .recompile

theorem call_of_idle {live : LivePatch β} {c : Call}
    (hidle : (∃ e, (live.call c).1 = .refused e) ∨ (live.call c).1 = .removed false) :
    (live.call c).2 = live := by
  cases c with
  | propose source target =>
    rcases h : live.propose source target with ⟨e | c, live'⟩
    . simp only [call, h, eq_of_propose_error h]
    . simp [call, h, Answer.of] at hidle
  | remove source target =>
    rcases h : live.remove source target with ⟨e | linked, live'⟩
    . simp only [call, h, eq_of_remove_error h]
    . rcases remove_eq_ok_iff.1 h with ⟨p, -, rfl⟩
      cases linked with
      | true => simp [call, h, Answer.of] at hidle
      | false => simp [call, h]
  | addModule id schema =>
    rcases h : live.addModule id schema with ⟨e | ⟨⟩, live'⟩
    . simp only [call, h, eq_of_addModule_error h]
    . simp [call, h, Answer.of] at hidle
  | removeModule id =>
    rcases h : live.removeModule id with ⟨e | purged, live'⟩
    . simp only [call, h, eq_of_removeModule_error h]
    . simp [call, h, Answer.of] at hidle
  | recompile => simp [call] at hidle

/-- The report and the engine are what some compilation of the wiring left. -/
def Current (live : LivePatch β) : Prop :=
  ∃ engine : β, compile live.patch.wiring engine = (live.report, live.engine)

theorem start_current (p : Patch) (engine : β) : (start p engine).Current := by
  exact ⟨engine, rfl⟩

theorem Current.step {live live' : LivePatch β} {c : Call} (h : live.Current)
    (hstep : live.Step c live') : live'.Current := by
  cases hstep with
  | nothing => exact h
  | propose | remove | addModule | removeModule | recompile => apply start_current

theorem run_current {live : LivePatch β} (h : live.Current) (calls : List Call) :
    (live.run calls).Current := by
  apply List.foldlRecOn calls _ h
  intro live h c _
  exact h.step (live.call_step c)

end Calls

namespace Current

variable {live : LivePatch Bench} (h : live.Current)
include h

theorem compile_report : (compile live.patch.wiring live.engine).1 = live.report := by
  rcases h with ⟨bench, hcompile⟩
  have hagain : (compile live.patch.wiring (compile live.patch.wiring bench).2).1
      = (compile live.patch.wiring bench).1 :=
    Compile.compile_report_congr (Compile.compile_alike live.patch.wiring bench) live.patch.wiring
  rw [hcompile] at hagain
  exact hagain

theorem live_compile (id : ModuleId) :
    ((compile live.patch.wiring live.engine).2.get? id).map (·.live)
      = (live.engine.get? id).map (·.live) := by
  rcases h with ⟨bench, hcompile⟩
  have hagain := Bench.live_compile_compile live.patch.wiring bench id
  rw [hcompile] at hagain
  exact hagain

theorem liveEdges_compile :
    (compile live.patch.wiring live.engine).2.liveEdges = live.engine.liveEdges := by
  rw [Bench.liveEdges_eq, Bench.liveEdges_eq, Bench.keys_compile]
  apply List.flatMap_congr
  intro id _
  rw [Bench.liveFrom, h.live_compile, Bench.liveFrom]

theorem live_eq (id : ModuleId) :
    (live.engine.get? id).map (·.live.map some)
      = (live.engine.get? id).map fun _ =>
          ((live.report.wiredOf live.patch.wiring).filter (·.source.isOwnedBy id)).map
            live.engine.edge? := by
  have hlive := Bench.live_compile live.patch.wiring live.engine id
  rw [h.compile_report] at hlive
  rw [← hlive]
  have hagain := congrArg (Option.map (List.map some)) (h.live_compile id)
  rw [Option.map_map, Option.map_map] at hagain
  exact hagain.symm

theorem exists_of_mem_liveEdges {e : Edge} (he : e ∈ live.engine.liveEdges) :
    ∃ c ∈ live.patch.wiring, live.engine.edge? c = some e := by
  rw [Bench.liveEdges_eq, List.mem_flatMap] at he
  rcases he with ⟨id, -, he⟩
  rw [Bench.liveFrom] at he
  cases hd : live.engine.get? id with
  | none => simp [hd] at he
  | some d =>
    have hlive := h.live_eq id
    rw [hd, Option.map_some, Option.map_some, Option.some.injEq] at hlive
    rw [hd, Option.map_some, Option.getD_some] at he
    have hmem := List.mem_map_of_mem (f := some) he
    rw [hlive, List.mem_map] at hmem
    rcases hmem with ⟨c, hc, hedge⟩
    refine ⟨c, ?_, hedge⟩
    exact Report.mem_of_mem_wiredOf (List.mem_of_mem_filter hc)

end Current

/--
Whatever the patch and the bench it was started with: after any calls the live edges are those of
compiling the wiring as it is now, and to compile again changes neither them nor the report. A call
that is refused, or that finds nothing to remove, changes nothing at all.
-/
theorem run_upToDate (p : Patch) (bench : Bench) (calls : List Call) :
    let live := (start p bench).run calls
    (∀ id, ((compile live.patch.wiring live.engine).2.get? id).map (·.live)
        = (live.engine.get? id).map (·.live))
      ∧ (∀ id, (live.engine.get? id).map (·.live.map some) = (live.engine.get? id).map fun _ =>
          ((live.report.wiredOf live.patch.wiring).filter (·.source.isOwnedBy id)).map
            live.engine.edge?)
      ∧ (∀ e ∈ live.engine.liveEdges, ∃ c ∈ live.patch.wiring, live.engine.edge? c = some e)
      ∧ live.recompile.report = live.report
      ∧ live.recompile.engine.liveEdges = live.engine.liveEdges
      ∧ (∀ c, (∃ e, (live.call c).1 = .refused e) ∨ (live.call c).1 = .removed false →
          (live.call c).2 = live) := by
  intro live
  have h : live.Current := run_current (start_current p bench) calls
  refine ⟨h.live_compile, h.live_eq, ?_, h.compile_report, h.liveEdges_compile, ?_⟩
  . intro e he
    exact h.exists_of_mem_liveEdges he
  . intro c hc
    exact call_of_idle hc

end LivePatch
end ModularSynth
