import ModularSynth.Proofs.Image
import ModularSynth.Proofs.LivePatch
import ModularSynth.Proofs.Patch

/-!
This module contains that a live patch that was started on the bench of its rack stays its mirror:
the bench has the devices of the rack, all connections are live, and although every call rebuilds
the bench, what a call changes is the edges of the connections it names.
-/

namespace ModularSynth
namespace LivePatch

/-- The bench fits the rack and was compiled from the wiring, which is valid. -/
structure Mirrors (live : LivePatch Bench) : Prop where
  sound : live.patch.Sound
  names : ∀ m ∈ live.patch.rack, (m.schema.ports.map (·.name)).Nodup
  fits : live.engine.Fits live.patch.rack
  current : live.Current

/-- The call adds no module with two ports of one name. -/
def Call.Named : Call → Prop
  | .addModule _ schema => (schema.ports.map (·.name)).Nodup
  | _ => True

theorem start_mirrors {p : Patch} {bench : Bench} (hsound : p.Sound)
    (hnames : ∀ m ∈ p.rack, (m.schema.ports.map (·.name)).Nodup) (hfits : bench.Fits p.rack) :
    (start p bench).Mirrors where
  sound := ⟨hsound.validIds, hsound.distinctIds, hsound.wiring⟩
  names := hnames
  fits := hfits.compile p.wiring
  current := start_current p bench

namespace Mirrors

variable {live : LivePatch Bench}

theorem step {live' : LivePatch Bench} {c : Call} (h : live.Mirrors) (hc : c.Named)
    (hstep : live.Step c live') : live'.Mirrors := by
  cases hstep with
  | nothing => exact h
  | propose hp =>
    have hsound := h.sound.change (Patch.propose_change hp)
    rcases Patch.propose_eq_ok_iff.1 hp with ⟨sourceEnd, targetEnd, -, -, rfl⟩
    exact start_mirrors hsound h.names h.fits
  | remove hp =>
    have hsound := h.sound.change (Patch.remove_change hp)
    rcases Patch.remove_eq_ok_true_iff.1 hp with ⟨sourceEnd, targetEnd, -, -, rfl⟩
    exact start_mirrors hsound h.names h.fits
  | addModule hp =>
    have hsound := h.sound.change (Patch.addModule_change hp)
    rcases Patch.addModule_eq_ok_iff.1 hp with ⟨-, -, rfl, rfl⟩
    apply start_mirrors hsound
    . intro m hm
      cases List.mem_append.1 hm with
      | inl hm => exact h.names m hm
      | inr hm =>
        rw [List.mem_singleton.1 hm]
        exact hc
    . exact h.fits.addModule _
  | removeModule hp =>
    have hsound := h.sound.change (Patch.removeModule_change hp)
    rcases Patch.removeModule_eq_ok_iff.1 hp with ⟨-, -, rfl⟩
    apply start_mirrors hsound
    . intro m hm
      exact h.names m (List.mem_of_mem_eraseP hm)
    . exact h.fits.removeModule h.sound.distinctIds _
  | recompile => exact start_mirrors h.sound h.names h.fits

theorem run (h : live.Mirrors) {calls : List Call} (hcalls : ∀ c ∈ calls, c.Named) :
    (live.run calls).Mirrors := by
  apply List.foldlRecOn calls _ h
  intro live h c hc
  exact h.step (hcalls c hc) (live.call_step c)

section Image

variable (h : live.Mirrors)
include h

theorem wiredOn : live.patch.wiring.WiredOn live.engine := by
  exact h.sound.wiring.wiredOn h.names h.fits

theorem isClean_report : live.report.isClean := by
  rw [← h.current.compile_report]
  exact h.wiredOn.isClean_compile

theorem wired_report : live.report.wired = live.patch.wiring.length := by
  rw [← h.current.compile_report]
  exact h.wiredOn.wired_compile

theorem id_of_get? (id : ModuleId) (d : Device) (hd : live.engine.get? id = some d) :
    d.id = id := by
  exact h.fits.id_of_get? hd

theorem liveFrom_eq (id : ModuleId) : live.engine.liveFrom id = live.patch.wiring.edgesFrom id := by
  have hagain : live.engine.liveFrom id
      = (compile live.patch.wiring live.engine).2.liveFrom id := by
    rw [Bench.liveFrom, Bench.liveFrom, h.current.live_compile]
  rw [hagain, Bench.liveFrom_compile_of_ids h.id_of_get?, Bench.wiredFrom,
    h.wiredOn.wiredEdges_eq, Wiring.edgesFrom]

theorem liveEdges_perm : live.engine.liveEdges.Perm live.patch.wiring.edges := by
  rw [← h.current.liveEdges_compile, ← h.wiredOn.wiredEdges_eq]
  exact Bench.liveEdges_compile_of_ids h.id_of_get? live.patch.wiring

theorem liveEdges_nodup : live.engine.liveEdges.Nodup := by
  have hapart := h.wiredOn.liveEdges_apart h.id_of_get? h.sound.wiring.apart
  rw [h.current.liveEdges_compile] at hapart
  apply hapart.imp
  intro e e' he
  exact he.1

end Image

section Effects

variable (h : live.Mirrors) {live' : LivePatch Bench}
include h

theorem liveFrom_propose {source target : String} {c : Connection}
    (hcall : live.propose source target = (.ok c, live')) :
    ∃ e, c.edge? = some e ∧ ∀ id, live'.engine.liveFrom id
      = live.engine.liveFrom id ++ if id = e.source.module then [e] else [] := by
  rcases propose_eq_ok_iff.1 hcall with ⟨p, hp, rfl⟩
  have h' := h.step (c := .propose source target) trivial (.propose hp)
  rcases Patch.propose_eq_ok_iff.1 hp with ⟨sourceEnd, targetEnd, -, hvalidate, rfl⟩
  rcases (validate_eq_ok_iff.1 hvalidate).2.2.1.exists_edge with ⟨e, hedge⟩
  refine ⟨e, hedge, ?_⟩
  intro id
  rw [h'.liveFrom_eq, h.liveFrom_eq]
  show Wiring.edgesFrom (live.patch.wiring ++ [c]) id = _
  rw [Wiring.edgesFrom, Wiring.edges_append hedge, List.filter_append, Wiring.edgesFrom]
  congr 1
  by_cases hid : id = e.source.module
  . simp [hid]
  . simp [hid, Ne.symm hid]

theorem exists_remove_iff {source target : String} :
    (∃ live', live.remove source target = (.ok true, live')) ↔
      ∃ c ∈ live.patch.wiring, live.patch.rack.endpoint source = .ok c.source
        ∧ live.patch.rack.endpoint target = .ok c.target := by
  simp only [remove_eq_ok_iff, if_true]
  constructor
  . rintro ⟨_, p, hp, -⟩
    rcases h.sound.remove_eq_ok_true_iff.1 hp with
      ⟨before, c, behind, hwiring, hsource, htarget, -⟩
    exact ⟨c, by simp [hwiring], hsource, htarget⟩
  . rintro ⟨c, hc, hsource, htarget⟩
    rcases List.append_of_mem hc with ⟨before, behind, hwiring⟩
    have hp := h.sound.remove_eq_ok_true_iff.2
      ⟨before, c, behind, hwiring, hsource, htarget, rfl⟩
    exact ⟨_, _, hp, rfl⟩

theorem liveFrom_remove {source target : String}
    (hcall : live.remove source target = (.ok true, live')) :
    ∃ sourceEnd targetEnd e, live.patch.endpoints source target = .ok (sourceEnd, targetEnd)
      ∧ sourceEnd.outlet? = some e.source ∧ targetEnd.inlet = e.target
      ∧ live.engine.liveEdges.count e = 1
      ∧ ∀ id, live'.engine.liveFrom id = (live.engine.liveFrom id).erase e := by
  rcases remove_eq_ok_iff.1 hcall with ⟨p, hp, rfl⟩
  have h' := h.step (c := .remove source target) trivial (.remove hp)
  rcases Patch.remove_eq_ok_true_iff.1 hp with ⟨sourceEnd, targetEnd, hends, hlinked, rfl⟩
  rcases linked_iff.1 hlinked with ⟨c, hc, rfl, rfl⟩
  rcases (h.sound.wiring.admissible c hc).exists_edge with ⟨e, hedge⟩
  rcases Connection.edge?_eq_some_iff.1 hedge with ⟨hsource, htarget⟩
  refine ⟨c.source, c.target, e, hends, hsource, htarget, ?_, ?_⟩
  . apply List.count_eq_one_of_mem h.liveEdges_nodup
    rw [h.liveEdges_perm.mem_iff]
    exact List.mem_filterMap.2 ⟨c, hc, hedge⟩
  . intro id
    rw [if_pos rfl, h'.liveFrom_eq, h.liveFrom_eq]
    show Wiring.edgesFrom (live.patch.wiring.disconnect c.source c.target) id = _
    rw [Wiring.edgesFrom, Wiring.edges_disconnect hsource htarget, Wiring.edgesFrom,
      List.erase_filter]

theorem liveFrom_addModule {id : ModuleId} {schema : Schema}
    (hnames : (schema.ports.map (·.name)).Nodup)
    (hcall : live.addModule id schema = (.ok (), live')) (id' : ModuleId) :
    live'.engine.liveFrom id' = live.engine.liveFrom id' := by
  rcases addModule_eq_ok_iff.1 hcall with ⟨m, p, hp, rfl⟩
  have h' := h.step (c := .addModule id schema) hnames (.addModule hp)
  rcases Patch.addModule_eq_ok_iff.1 hp with ⟨-, -, -, rfl⟩
  rw [h'.liveFrom_eq, h.liveFrom_eq]
  rfl

theorem liveFrom_removeModule {id : ModuleId} {purged : Nat}
    (hcall : live.removeModule id = (.ok purged, live')) (id' : ModuleId) :
    live'.engine.liveFrom id' = (live.engine.liveFrom id').filter fun e => !e.touches id := by
  rcases removeModule_eq_ok_iff.1 hcall with ⟨p, hp, rfl⟩
  have h' := h.step (c := .removeModule id) trivial (.removeModule hp)
  rcases Patch.removeModule_eq_ok_iff.1 hp with ⟨-, -, rfl⟩
  rw [h'.liveFrom_eq, h.liveFrom_eq]
  show Wiring.edgesFrom (live.patch.wiring.disconnectModule id) id' = _
  rw [Wiring.edgesFrom, Wiring.edges_disconnectModule, Wiring.edgesFrom, List.filter_filter,
    List.filter_filter]
  congr
  funext e
  exact Bool.and_comm _ _

theorem countP_liveEdges {id : ModuleId} {purged : Nat}
    (hcall : live.removeModule id = (.ok purged, live')) :
    live.engine.liveEdges.countP (·.touches id) = purged := by
  rcases removeModule_eq_ok_iff.1 hcall with ⟨p, hp, -⟩
  rcases Patch.removeModule_eq_ok_iff.1 hp with ⟨-, hpurged, -⟩
  rw [h.liveEdges_perm.countP_eq, h.sound.wiring.countP_edges, hpurged]

theorem liveFrom_recompile (id : ModuleId) :
    live.recompile.engine.liveFrom id = live.engine.liveFrom id := by
  have h' := h.step (c := .recompile) trivial .recompile
  rw [h'.liveFrom_eq, h.liveFrom_eq]
  rfl

end Effects

end Mirrors

/--
A live patch that was started on the bench of its rack, and is told no schema that declares a port
name twice: its bench always has the ids of the rack and every connection live. A proposal appends
one edge to those of its source, a removal takes that edge away if the texts denote the ends of a
connection, a new module changes no edge, and a module that leaves takes along the edges on it.
-/
theorem run_mirrors (edits : List Patch.Edit) (observers : Observers) (calls : List Call)
    (hnames : ∀ m ∈ (Patch.ofEdits edits).rack, (m.schema.ports.map (·.name)).Nodup)
    (hcalls : ∀ c ∈ calls, c.Named) :
    let p : Patch := { Patch.ofEdits edits with observers := observers }
    let live := (start p (Bench.ofRack p.rack)).run calls
    live.engine.keys.Perm live.patch.rack.ids
      ∧ live.report.isClean
      ∧ live.report.wired = live.patch.wiring.length
      ∧ (∀ source target c live', live.propose source target = (.ok c, live') →
          ∃ e, c.edge? = some e ∧ ∀ id, live'.engine.liveFrom id
            = live.engine.liveFrom id ++ if id = e.source.module then [e] else [])
      ∧ (∀ source target live', live.remove source target = (.ok true, live') →
          ∃ sourceEnd targetEnd e, live.patch.endpoints source target = .ok (sourceEnd, targetEnd)
            ∧ sourceEnd.outlet? = some e.source ∧ targetEnd.inlet = e.target
            ∧ live.engine.liveEdges.count e = 1
            ∧ ∀ id, live'.engine.liveFrom id = (live.engine.liveFrom id).erase e)
      ∧ (∀ source target, (∃ live', live.remove source target = (.ok true, live')) ↔
          ∃ c ∈ live.patch.wiring, live.patch.rack.endpoint source = .ok c.source
            ∧ live.patch.rack.endpoint target = .ok c.target)
      ∧ (∀ source target live', live.remove source target = (.ok false, live') → live' = live)
      ∧ (∀ id schema live', (schema.ports.map (·.name)).Nodup →
          live.addModule id schema = (.ok (), live') →
          ∀ id', live'.engine.liveFrom id' = live.engine.liveFrom id')
      ∧ (∀ id purged live', live.removeModule id = (.ok purged, live') →
          live.engine.liveEdges.countP (·.touches id) = purged
            ∧ ∀ id', live'.engine.liveFrom id'
                = (live.engine.liveFrom id').filter fun e => !e.touches id)
      ∧ (∀ id, live.recompile.engine.liveFrom id = live.engine.liveFrom id) := by
  intro p live
  have hp : p.Sound := by
    have hsound := Patch.ofEdits_sound edits
    exact ⟨hsound.validIds, hsound.distinctIds, hsound.wiring⟩
  have h : live.Mirrors := (start_mirrors hp hnames (.ofRack p.rack)).run hcalls
  refine ⟨h.fits.keys_perm h.sound.distinctIds, h.isClean_report, h.wired_report, ?_, ?_,
    fun _ _ => h.exists_remove_iff, ?_, ?_, ?_, h.liveFrom_recompile⟩
  . intro source target c live' hcall
    exact h.liveFrom_propose hcall
  . intro source target live' hcall
    exact h.liveFrom_remove hcall
  . intro source target live' hcall
    rcases remove_eq_ok_iff.1 hcall with ⟨-, -, rfl⟩
    rfl
  . intro id schema live' hschema hcall
    exact h.liveFrom_addModule hschema hcall
  . intro id purged live' hcall
    exact ⟨h.countP_liveEdges hcall, h.liveFrom_removeModule hcall⟩

/-- The id of an oscillator is given to an LFO, which is connected and disconnected again. -/
theorem run_mirrors_reused :
    let edits : List Patch.Edit :=
      [.addModule ⟨"a"⟩ ⟨"oscillator", [.source "out" .audio], []⟩,
        .addModule ⟨"b"⟩ ⟨"filter", [.sink "in" .audio], ["cutoff"]⟩,
        .connect (.port ⟨"a"⟩ "out") (.port ⟨"b"⟩ "in")]
    let calls : List Call :=
      [.remove "a/out" "b/in", .removeModule ⟨"a"⟩,
        .addModule ⟨"a"⟩ ⟨"lfo", [.source "cv" .cv], []⟩, .propose "a/cv" "b/cutoff"]
    let p : Patch := { Patch.ofEdits edits with observers := .none }
    let live := (start p (Bench.ofRack p.rack)).run calls
    (∀ m ∈ p.rack, (m.schema.ports.map (·.name)).Nodup)
      ∧ (∀ c ∈ calls, c.Named)
      ∧ live.patch.wiring.length = 1
      ∧ live.report.isClean
      ∧ ∃ live' e, live.remove " a/cv" "b/cutoff" = (.ok true, live')
          ∧ live.engine.liveEdges.count e = 1
          ∧ ∀ id, live'.engine.liveFrom id = (live.engine.liveFrom id).erase e := by
  intro edits calls p live
  have hnames : ∀ m ∈ p.rack, (m.schema.ports.map (·.name)).Nodup := by decide
  have hcalls : ∀ c ∈ calls, c.Named := by
    simp [calls, Call.Named]
  have hlength : live.patch.wiring.length = 1 := by decide +kernel
  have hmirrors := run_mirrors edits .none calls hnames hcalls
  extract_lets _ _ started at hmirrors
  have hstarted : started = live := rfl
  rw [hstarted] at hmirrors
  rcases hmirrors with ⟨-, hclean, -, -, hremoved, hremoves, -⟩
  have hlisted : ∃ c ∈ live.patch.wiring, live.patch.rack.endpoint " a/cv" = .ok c.source
      ∧ live.patch.rack.endpoint "b/cutoff" = .ok c.target := by
    decide +kernel
  rcases (hremoves _ _).2 hlisted with ⟨live', hremove⟩
  rcases hremoved _ _ _ hremove with ⟨_, _, e, -, -, -, hcount, herase⟩
  exact ⟨hnames, hcalls, hlength, hclean, live', e, hremove, hcount, herase⟩

end LivePatch
end ModularSynth
