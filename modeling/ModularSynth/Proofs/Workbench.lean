import ModularSynth.Catalog
import ModularSynth.Proofs.Image
import ModularSynth.Proofs.Patch

/-!
This module contains what a bench is good for that follows a patch by being synced with it. A sync
gives the bench the ids of the rack, but it keeps the device of every id it finds: the bench serves
the patch if no id has changed its schema behind a device that was kept.
-/

namespace ModularSynth

/-- A patch beside a bench that is synced with it now and then. -/
structure Workbench where
  patch : Patch
  bench : Bench
  /-- The racks of all syncs, the latest first. -/
  synced : List Rack

namespace Workbench

inductive Step
  | edit (e : Patch.Edit)
  | sync
  | compile

def empty : Workbench :=
  ⟨.empty, .empty, []⟩

def step (w : Workbench) : Step → Workbench
  | .edit e => { w with patch := w.patch.edit e }
  | .sync =>
    { w with bench := w.bench.sync w.patch.rack, synced := w.patch.rack :: w.synced }
  | .compile =>
    let (_, patch, bench) := w.patch.compile w.bench
    { w with patch := patch, bench := bench }

def run (steps : List Step) : Workbench :=
  steps.foldl step empty

/--
The schema that the device of an id was made for, given the racks of all syncs: the one the id had
at the first of the latest syncs in a row that found it.
-/
def madeFor : List Rack → ModuleId → Option Schema
  | [], _ => none
  | rack :: older, id => (rack.schema? id).map fun schema => (madeFor older id).getD schema

structure Sound (w : Workbench) : Prop where
  patch : w.patch.Sound
  names : ∀ m ∈ w.patch.rack, (m.schema.ports.map (·.name)).Nodup
  devices : ∀ id, w.bench.bare.get? id
    = (madeFor w.synced id).map fun schema => Device.ofModule ⟨id, schema⟩

theorem empty_sound : empty.Sound where
  patch := Patch.empty_sound
  names := by simp [empty, Patch.empty]
  devices := fun _ => rfl

theorem get?_bare_sync (bench : Bench) (rack : Rack) (id : ModuleId) :
    (bench.sync rack).bare.get? id
      = (rack.schema? id).map fun schema => (bench.bare.get? id).getD (.ofModule ⟨id, schema⟩) := by
  rw [Bench.get?_bare, Bench.get?_sync, Bench.get?_bare, Rack.schema?]
  cases hm : rack.find? id with
  | none => rfl
  | some m =>
    have hid : (⟨id, m.schema⟩ : Module) = m := by rw [← Rack.id_of_find? hm]
    rw [Option.map_some, Option.map_some, Option.map_some, Option.map_some, hid]
    cases bench.get? id with
    | none => rw [Option.getD_none, Device.bare_ofModule, Option.map_none, Option.getD_none]
    | some d => rfl

/-- The step adds no module with two ports of one name. -/
def Step.Named : Step → Prop
  | .edit (.addModule _ schema) => (schema.ports.map (·.name)).Nodup
  | _ => True

theorem Sound.step {w : Workbench} (h : w.Sound) {s : Step} (hs : s.Named) : (w.step s).Sound := by
  cases s with
  | edit e =>
    refine ⟨h.patch.change (Patch.edit_change w.patch e), ?_, h.devices⟩
    intro m hm
    rcases Patch.mem_rack_edit hm with hm | rfl
    . exact h.names m hm
    . exact hs
  | sync =>
    refine ⟨h.patch, h.names, ?_⟩
    intro id
    simp only [Workbench.step]
    rw [get?_bare_sync, h.devices, madeFor, Option.map_map]
    congr
    funext schema
    cases madeFor w.synced id <;> rfl
  | compile =>
    refine ⟨⟨h.patch.validIds, h.patch.distinctIds, h.patch.wiring⟩, h.names, ?_⟩
    intro id
    refine Eq.trans ?_ (h.devices id)
    rw [← Bench.bare_compile w.patch.wiring w.bench]
    rfl

theorem run_sound {steps : List Step} (hsteps : ∀ s ∈ steps, s.Named) : (run steps).Sound := by
  apply List.foldlRecOn steps Workbench.step empty_sound
  intro w h s hs
  exact h.step (hsteps s hs)

section Sync

variable {w : Workbench} (h : w.Sound)
include h

theorem keys_sync_perm : (w.step .sync).bench.keys.Perm w.patch.rack.ids := by
  apply Bench.keys_perm_ids h.patch.distinctIds
  intro id
  rw [Workbench.step, Bench.get?_sync, Option.isSome_map]

theorem sync_fits (hmade : ∀ m ∈ w.patch.rack, madeFor (w.step .sync).synced m.id = some m.schema) :
    (w.step .sync).bench.Fits w.patch.rack := by
  have hsync : (w.step .sync).Sound := h.step (s := .sync) trivial
  apply SortedMap.ext_get?
  intro id
  rw [hsync.devices, Bench.get?_ofRack]
  cases hm : w.patch.rack.find? id with
  | none => simp [Workbench.step, madeFor, Rack.schema?, hm]
  | some m =>
    have hid := Rack.id_of_find? hm
    rw [← hid, hmade m (List.mem_of_find?_eq_some hm)]
    rfl

end Sync

/--
Right after a sync the bench has the ids of the rack. It is then compiled without a skip if every
module still has the schema that its device was made for.
-/
theorem run_sync_serves (steps : List Step) (hsteps : ∀ s ∈ steps, s.Named) :
    let w := (run steps).step .sync
    let report := (w.patch.compile w.bench).1
    w.bench.keys.Perm w.patch.rack.ids
      ∧ ((∀ m ∈ w.patch.rack, madeFor w.synced m.id = some m.schema) →
          report.isClean ∧ report.wired = w.patch.wiring.length) := by
  intro w report
  have h : (run steps).Sound := run_sound hsteps
  refine ⟨keys_sync_perm h, ?_⟩
  intro hmade
  have hwired : w.patch.wiring.WiredOn w.bench :=
    h.patch.wiring.wiredOn h.names (sync_fits h hmade)
  exact ⟨hwired.isClean_compile, hwired.wired_compile⟩

/-- The id of an oscillator is given to an LFO between two syncs. -/
def reuse : List Step :=
  [.edit (.addModule ⟨"m"⟩ Kind.oscillator.schema), .sync, .edit (.removeModule ⟨"m"⟩),
    .edit (.addModule ⟨"m"⟩ Kind.lfo.schema), .edit (.addModule ⟨"f"⟩ Kind.filter.schema),
    .edit (.propose "m/cv_out" "f/frequency")]

theorem reuse_named : ∀ s ∈ reuse, s.Named := by
  simp only [reuse, List.forall_mem_cons, List.not_mem_nil, false_implies, implies_true, Step.Named]
  decide

/-- The device of the oscillator is kept, so the LFO is not wired. -/
theorem run_sync_reuse :
    let w := (run reuse).step .sync
    let report := (w.patch.compile w.bench).1
    (∀ s ∈ reuse, s.Named) ∧ w.patch.wiring.length = 1
      ∧ report.isClean = false ∧ report.wired = 0 := by
  refine ⟨reuse_named, ?_, ?_, ?_⟩ <;> decide +kernel

/-- A sync in between drops the device of the oscillator, and the LFO is wired. -/
theorem run_sync_serves_reuse :
    let steps := reuse.take 3 ++ .sync :: reuse.drop 3
    let w := (run steps).step .sync
    let report := (w.patch.compile w.bench).1
    (∀ s ∈ steps, s.Named) ∧ (∀ m ∈ w.patch.rack, madeFor w.synced m.id = some m.schema)
      ∧ report.isClean ∧ report.wired = 1 := by
  intro steps w report
  have hsteps : ∀ s ∈ steps, s.Named := by
    intro s hs
    simp only [steps, List.mem_append, List.mem_cons] at hs
    rcases hs with hs | rfl | hs
    . exact reuse_named s (List.mem_of_mem_take hs)
    . trivial
    . exact reuse_named s (List.mem_of_mem_drop hs)
  have hmade : ∀ m ∈ w.patch.rack, madeFor w.synced m.id = some m.schema := by decide +kernel
  have hserves := (run_sync_serves steps hsteps).2 hmade
  have hlength : w.patch.wiring.length = 1 := by decide +kernel
  rw [hlength] at hserves
  exact ⟨hsteps, hmade, hserves⟩

end Workbench
end ModularSynth
