import ModularSynth.Proofs.Wirable

/-!
This module contains what a compilation does on a bench on which some devices are not ready. They
still answer for every connection they receive, so only the connections they emit are skipped.
-/

namespace ModularSynth

/-- The device, which is no longer ready if its id is listed. -/
def Device.mute (ids : List ModuleId) (d : Device) : Device :=
  { d with ready := d.ready && !ids.contains d.id }

theorem Device.refusal?_mute (ids : List ModuleId) (d : Device) (port : String) (target : Inlet) :
    EngineObject.refusal? (d.mute ids) port target
      = if ids.contains d.id then some (.notReady d.id)
        else EngineObject.refusal? d port target := by
  rw [refusal?_eq, refusal?_eq]
  unfold mute
  cases ids.contains d.id with
  | true => simp
  | false => simp only [Bool.not_false, Bool.and_true, Bool.false_eq_true, if_false]

def Bench.mute (ids : List ModuleId) (bench : Bench) : Bench :=
  bench.map (Device.mute ids)

/-- The connection is emitted by a module that is listed. -/
def Connection.isMuted (ids : List ModuleId) (c : Connection) : Bool :=
  c.source.owner?.any ids.contains

/-- How a connection is skipped if the device that emits it is listed as not ready. -/
def Connection.mutedSkip? (ids : List ModuleId) (c : Connection) (index : Nat) : Option Skip :=
  match c.source.owner? with
  | some id => if ids.contains id then some ⟨index, c, .engine (.notReady id)⟩ else none
  | none => none

theorem Connection.cause_of_mutedSkip? {ids : List ModuleId} {c : Connection} {index : Nat}
    {s : Skip} (h : c.mutedSkip? ids index = some s) :
    ∃ id, s.cause = .engine (.notReady id) := by
  rw [mutedSkip?] at h
  split at h
  . next id _ =>
    split at h
    . cases h
      exact ⟨id, rfl⟩
    . contradiction
  . contradiction

namespace Bench

theorem mute_nil (bench : Bench) : bench.mute [] = bench := by
  apply SortedMap.ext_get?
  intro id
  rw [mute, SortedMap.get?_map]
  cases bench.get? id with
  | none => rfl
  | some d => simp [Device.mute]

theorem mute_insert {bench : Bench} (hids : ∀ id d, bench.get? id = some d → d.id = id)
    {id : ModuleId} {d : Device} (hd : bench.get? id = some d) (ids : List ModuleId) :
    mute ids (bench.insert id { d with ready := false }) = bench.mute (id :: ids) := by
  apply SortedMap.ext_get?
  intro id'
  rw [mute, mute, SortedMap.get?_map, SortedMap.get?_map, SortedMap.get?_insert]
  split
  . next heq =>
    rw [heq, hd]
    simp [Device.mute, hids id d hd]
  . next hne =>
    cases hd' : bench.get? id' with
    | none => rfl
    | some d' => simp [Device.mute, hids id' d' hd', hne]

theorem id_of_get?_mute (ids : List ModuleId) {bench : Bench}
    (hids : ∀ id d, bench.get? id = some d → d.id = id) :
    ∀ id d, (bench.mute ids).get? id = some d → d.id = id := by
  intro id d hd
  rw [mute, SortedMap.get?_map, Option.map_eq_some_iff] at hd
  rcases hd with ⟨d', hd', rfl⟩
  exact hids id d' hd'

end Bench

namespace Compile

variable (ids : List ModuleId) (bench : Bench)

theorem object_mute (id : ModuleId) :
    object (bench.mute ids) id = (object bench id).map (Device.mute ids) := by
  have hobject : Engine.object? (bench.mute ids) id
      = (Engine.object? bench id).map (Device.mute ids) := by
    apply SortedMap.get?_map
  rw [object, object, hobject]
  cases Engine.object? bench id <;> rfl

theorem outlet_mute (e : Endpoint) : outlet (bench.mute ids) e = outlet bench e := by
  cases e with
  | port id name =>
    rw [outlet, outlet, object_mute]
    cases object bench id <;> rfl
  | slot | param | sink => rfl

theorem inlet_mute (e : Endpoint) : inlet (bench.mute ids) e = inlet bench e := by
  cases e with
  | port id name =>
    rw [inlet, inlet, object_mute]
    cases object bench id <;> rfl
  | slot id name index =>
    rw [inlet, inlet, object_mute]
    cases object bench id <;> rfl
  | param id name =>
    rw [inlet, inlet, object_mute]
    cases object bench id <;> rfl
  | sink => rfl

variable {bench} (hids : ∀ id d, bench.get? id = some d → d.id = id)
include hids

theorem fate_mute {c : Connection} {edge : Edge} (h : fate bench c = .ok edge) :
    fate (bench.mute ids) c
      = if ids.contains edge.source.module then .error (.engine (.notReady edge.source.module))
        else .ok edge := by
  rcases fate_eq_ok_iff.1 h with ⟨hsource, htarget, d, hd, hrefusal⟩
  have hid : d.id = edge.source.module := hids _ d hd
  have heditable : Engine.editable? (bench.mute ids) edge.source.module = some (d.mute ids) := by
    show (SortedMap.map bench (Device.mute ids)).get? edge.source.module = _
    have hget : bench.get? edge.source.module = some d := hd
    rw [SortedMap.get?_map, hget, Option.map_some]
  rw [fate, outlet_mute, inlet_mute, hsource, htarget, Except.mapError_ok, Except.mapError_ok,
    Except.ok_bind, Except.ok_bind, heditable]
  dsimp only
  rw [Device.refusal?_mute, hrefusal, hid]
  cases ids.contains edge.source.module with
  | true => rfl
  | false => rfl

end Compile

namespace Wiring.WiredOn

variable (ids : List ModuleId) {wiring : Wiring} {bench : Bench}
variable (hids : ∀ id d, bench.get? id = some d → d.id = id) (h : wiring.WiredOn bench)
include hids h

theorem isOk_fate_mute {c : Connection} (hc : c ∈ wiring) :
    (Compile.fate (bench.mute ids) c).isOk = !c.isMuted ids := by
  rcases h c hc with ⟨edge, hfate, -⟩
  rw [Compile.fate_mute ids hids hfate, Connection.isMuted, Compile.owner?_of_fate hfate,
    Option.any_some]
  cases ids.contains edge.source.module with
  | true => rfl
  | false => rfl

theorem skip?_mute {c : Connection} (hc : c ∈ wiring) (index : Nat) :
    Compile.skip? (bench.mute ids) c index = c.mutedSkip? ids index := by
  rcases h c hc with ⟨edge, hfate, -⟩
  rw [Compile.skip?, Compile.fate_mute ids hids hfate, Connection.mutedSkip?,
    Compile.owner?_of_fate hfate]
  dsimp only
  cases ids.contains edge.source.module with
  | true => rfl
  | false => rfl

theorem skipped_mute :
    Compile.skipped (bench.mute ids) 0 wiring
      = wiring.zipIdx.filterMap fun x => x.1.mutedSkip? ids x.2 := by
  apply List.filterMap_congr
  intro x hx
  exact h.skip?_mute ids hids (List.fst_mem_of_mem_zipIdx hx) x.2

theorem filter_mute : Wiring.WiredOn (wiring.filter (!·.isMuted ids)) (bench.mute ids) := by
  intro c hc
  rcases List.mem_filter.1 hc with ⟨hmem, hready⟩
  rcases h c hmem with ⟨edge, hfate, hedge⟩
  rw [Connection.isMuted, Compile.owner?_of_fate hfate, Option.any_some] at hready
  refine ⟨edge, ?_, hedge⟩
  rw [Compile.fate_mute ids hids hfate, if_neg]
  simpa using hready

theorem wiredEdges_mute :
    Compile.wiredEdges (bench.mute ids) wiring
      = Compile.wiredEdges (bench.mute ids) (wiring.filter (!·.isMuted ids)) := by
  rw [← Compile.wiredEdges_filter_isOk]
  congr 1
  apply List.filter_congr
  intro c hc
  exact h.isOk_fate_mute ids hids hc

theorem liveEdges_mute_perm :
    (compile wiring (bench.mute ids)).2.liveEdges.Perm
      (Compile.wiredEdges (bench.mute ids) (wiring.filter (!·.isMuted ids))) := by
  rw [← h.wiredEdges_mute ids hids]
  apply Bench.liveEdges_compile_of_ids
  exact Bench.id_of_get?_mute ids hids

theorem map_some_liveEdges_mute :
    ((compile wiring (bench.mute ids)).2.liveEdges.map some).Perm
      ((wiring.filter (!·.isMuted ids)).map Connection.edge?) := by
  rw [← (h.filter_mute ids hids).map_some_wiredEdges]
  exact (h.liveEdges_mute_perm ids hids).map some

theorem liveEdges_mute_nodup (hapart : wiring.Pairwise fun c d => ¬c.Clashes d) :
    (compile wiring (bench.mute ids)).2.liveEdges.Nodup := by
  apply (h.liveEdges_mute_perm ids hids).symm.nodup
  apply ((h.filter_mute ids hids).wiredEdges_apart (hapart.filter _)).imp
  intro e e' h
  exact h.1

end Wiring.WiredOn
end ModularSynth
