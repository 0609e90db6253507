import ModularSynth.Proofs.Patch
import ModularSynth.Proofs.Rebuild
import ModularSynth.Proofs.Engine.Edges
import ModularSynth.Proofs.Engine.OfRack

/-!
This module contains that the devices made for a rack can be wired as validation promises: an
endpoint that validation takes resolves to the handle of the same module, name and index, and so a
patch is compiled to one edge for each of its connections.
-/

namespace ModularSynth

def Inlet.isSlot : Inlet → Bool
  | .slot .. => true
  | _ => false

theorem Endpoint.isSlot_inlet (e : Endpoint) : e.inlet.isSlot = e.isSlot := by
  cases e <;> rfl

namespace Edge

/-- Neither the same edge nor two edges to the same slot. -/
def Apart (e e' : Edge) : Prop :=
  e ≠ e' ∧ (e.target.isSlot → e.target ≠ e'.target)

theorem Apart.symm {e e' : Edge} (h : e.Apart e') : e'.Apart e := by
  refine ⟨h.1.symm, ?_⟩
  intro hslot heq
  rw [heq] at hslot
  exact h.2 hslot heq.symm

end Edge

theorem Connection.edge?_apart {c d : Connection} (h : ¬c.Clashes d) {e e' : Edge}
    (he : c.edge? = some e) (he' : d.edge? = some e') : e.Apart e' := by
  rcases edge?_eq_some_iff.1 he with ⟨hsource, htarget⟩
  rcases edge?_eq_some_iff.1 he' with ⟨hsource', htarget'⟩
  have hsame : e.target = e'.target → c.target = d.target := by
    intro heq
    apply Endpoint.eq_of_inlet_eq
    rw [htarget, htarget', heq]
  constructor
  . rintro rfl
    exact h ⟨hsame rfl, .inl (Endpoint.eq_of_outlet?_eq hsource hsource')⟩
  . intro hslot heq
    rw [← htarget, Endpoint.isSlot_inlet] at hslot
    exact h ⟨hsame heq, .inr hslot⟩

namespace Compile

variable {rack : Rack}

theorem object_ofRack {id : ModuleId} {m : Module} (h : rack.find? id = some m) :
    object (Bench.ofRack rack) id = .ok (Device.ofModule m) := by
  apply Bench.object_of_get?_eq_some
  rw [Bench.get?_ofRack, h, Option.map_some]

theorem hasOutput_of_emits {e : Endpoint} {signal : Signal} (h : e.emits rack = .ok signal) :
    ∃ (source : Outlet) (m : Module), e = .port source.module source.port
      ∧ rack.find? source.module = some m
      ∧ (Device.ofModule m).hasOutput source.port := by
  rcases Endpoint.emits_eq_ok_iff.1 h with ⟨id, name, port, rfl, hport, hdirection, -⟩
  rcases Rack.port_eq_ok_iff.1 hport with ⟨m, hm, hport⟩
  exact ⟨⟨id, name⟩, m, rfl, hm, Device.hasOutput_ofModule hport hdirection⟩

theorem inlet_ofRack (hnames : ∀ m ∈ rack, (m.schema.ports.map (·.name)).Nodup) {e : Endpoint}
    {kind : TargetKind} (h : e.receives rack = .ok kind) :
    inlet (Bench.ofRack rack) e = .ok e.inlet := by
  cases e with
  | port id name =>
    rcases Endpoint.receives_port_eq_ok_iff.1 h with ⟨port, hport, hdirection, hbank, -⟩
    rcases Rack.port_eq_ok_iff.1 hport with ⟨m, hm, hport⟩
    have hinput : EngineObject.input? (Device.ofModule m) name = some (.input m.id name) :=
      Device.input?_ofModule hport hdirection hbank
    rw [inlet, object_ofRack hm, Except.ok_bind, hinput, Rack.id_of_find? hm]
    rfl
  | slot id name index =>
    rcases Endpoint.receives_slot_eq_ok_iff.1 h with ⟨port, hport, hdirection, hbank, hindex, -⟩
    rcases Rack.port_eq_ok_iff.1 hport with ⟨m, hm, hport⟩
    -- Of two banks of one name the device would have the second, and the schema means the first.
    have hname : port.name = name := by simpa using List.find?_some hport
    have hunique : ∀ q ∈ m.schema.ports, q.name = name → q = port := by
      intro q hq hqname
      have hmem := List.mem_of_find?_eq_some hport
      have hnodup := hnames m (List.mem_of_find?_eq_some hm)
      exact List.inj_on_of_nodup_map hnodup hq hmem (hqname.trans hname.symm)
    have hcount : EngineObject.slotCount (Device.ofModule m) name = port.slots.toNat :=
      Device.slotCount_ofModule hport hunique hdirection hbank
    have hslot : EngineObject.slot? (Device.ofModule m) name index
        = some (.slot m.id name index) :=
      (Device.slot?_ofModule hport hunique hdirection hbank index).trans (if_pos hindex)
    have hsome : port.slots.toNat ≠ 0 := by
      have hlt : index.toNat < port.slots.toNat := hindex
      omega
    rw [inlet, object_ofRack hm, Except.ok_bind, hcount]
    dsimp only
    rw [if_neg hsome, hslot, Rack.id_of_find? hm]
    rfl
  | param id name =>
    rcases Endpoint.receives_param_eq_ok_iff.1 h with ⟨schema, hschema, hparam, -⟩
    rcases Rack.schema_eq_ok_iff.1 hschema with ⟨m, hm, rfl⟩
    have hhandle : EngineObject.param? (Device.ofModule m) name = some (.param m.id name) :=
      Device.param?_ofModule hparam
    rw [inlet, object_ofRack hm, Except.ok_bind, hhandle, Rack.id_of_find? hm]
    rfl
  | sink => rfl

theorem fate_ofRack (hnames : ∀ m ∈ rack, (m.schema.ports.map (·.name)).Nodup) {c : Connection}
    (h : c.Admissible rack) :
    ∃ edge, fate (Bench.ofRack rack) c = .ok edge ∧ c.edge? = some edge := by
  rcases hasOutput_of_emits h.emits with ⟨source, m, hsource, hm, houtput⟩
  rcases h.receives with ⟨kind, hreceives, -⟩
  have hedge : c.edge? = some ⟨source, c.target.inlet⟩ := by
    rw [Connection.edge?, hsource]
    rfl
  have houtlet : outlet (Bench.ofRack rack) c.source = .ok source := by
    have houtput : EngineObject.hasOutput (Device.ofModule m) source.port := houtput
    rw [hsource, outlet, object_ofRack hm, Except.ok_bind, if_pos houtput]
  have heditable : Engine.editable? (Bench.ofRack rack) source.module
      = some (Device.ofModule m) := by
    show (Bench.ofRack rack).get? source.module = _
    rw [Bench.get?_ofRack, hm, Option.map_some]
  have hready : (Device.ofModule m).ready := by
    rw [Device.ofModule_eq]
    rfl
  have hrefusal : EngineObject.refusal? (Device.ofModule m) source.port c.target.inlet = none := by
    rw [Device.refusal?_eq]
    simp [hready, houtput]
  refine ⟨_, fate_eq_ok_iff.2 ?_, hedge⟩
  exact ⟨houtlet, inlet_ofRack hnames hreceives, _, heditable, hrefusal⟩

end Compile

/-- Every connection is wired, as the edge it stands for. -/
def Wiring.WiredOn (wiring : Wiring) (bench : Bench) : Prop :=
  ∀ c ∈ wiring, ∃ edge, Compile.fate bench c = .ok edge ∧ c.edge? = some edge

namespace Wiring.WiredOn

variable {wiring : Wiring} {bench : Bench}

theorem map_some_wiredEdges (h : wiring.WiredOn bench) :
    (Compile.wiredEdges bench wiring).map some = wiring.map Connection.edge? := by
  induction wiring with
  | nil => rfl
  | cons c rest ih =>
    rcases h c List.mem_cons_self with ⟨edge, hfate, hedge⟩
    have hrest : Wiring.WiredOn rest bench := fun d hd => h d (List.mem_cons_of_mem c hd)
    rw [Compile.wiredEdges_cons_of_ok hfate, List.map_cons, List.map_cons, ih hrest, hedge]

theorem length_wiredEdges (h : wiring.WiredOn bench) :
    (Compile.wiredEdges bench wiring).length = wiring.length := by
  have := congrArg List.length h.map_some_wiredEdges
  simpa using this

theorem skipped_eq_nil (h : wiring.WiredOn bench) : Compile.skipped bench 0 wiring = [] := by
  have hlength := Compile.length_wiredEdges_add_length_skipped wiring bench
  rw [h.length_wiredEdges] at hlength
  apply List.eq_nil_of_length_eq_zero
  omega

theorem isClean_compile (h : wiring.WiredOn bench) : (compile wiring bench).1.isClean := by
  rw [Compile.compile_report, Report.isClean, h.skipped_eq_nil]
  rfl

theorem wired_compile (h : wiring.WiredOn bench) :
    (compile wiring bench).1.wired = wiring.length := by
  rw [Compile.compile_report]
  exact h.length_wiredEdges

theorem wiredOf_compile (h : wiring.WiredOn bench) :
    (compile wiring bench).1.wiredOf wiring = wiring := by
  rw [Compile.wiredOf_compile, List.filter_eq_self]
  intro c hc
  rcases h c hc with ⟨edge, hfate, -⟩
  rw [hfate]
  rfl

theorem wiredEdges_apart (h : wiring.WiredOn bench)
    (hapart : wiring.Pairwise fun c d => ¬c.Clashes d) :
    (Compile.wiredEdges bench wiring).Pairwise Edge.Apart := by
  have hedges : (wiring.map Connection.edge?).Pairwise fun x y =>
      ∀ e e', x = some e → y = some e' → e.Apart e' := by
    rw [List.pairwise_map]
    apply hapart.imp
    intro c d hcd e e' he he'
    exact Connection.edge?_apart hcd he he'
  rw [← h.map_some_wiredEdges, List.pairwise_map] at hedges
  apply hedges.imp
  intro e e' himp
  exact himp e e' rfl rfl

section Compile

variable (hids : ∀ id d, bench.get? id = some d → d.id = id)
include hids

theorem edge?_eq (h : wiring.WiredOn bench) {c : Connection} (hc : c ∈ wiring) :
    bench.edge? c = c.edge? := by
  rcases h c hc with ⟨edge, hfate, hedge⟩
  rcases Compile.fate_eq_ok_iff.1 hfate with ⟨-, -, d, hd, -⟩
  rw [hedge, Bench.edge?_of_fate hfate hd, Device.edge_self (hids _ d hd)]

theorem live_compile (h : wiring.WiredOn bench) (id : ModuleId) :
    ((compile wiring bench).2.get? id).map (·.live.map some)
      = (bench.get? id).map fun _ =>
          (wiring.filter (·.source.isOwnedBy id)).map Connection.edge? := by
  have hedges : (wiring.filter (·.source.isOwnedBy id)).map bench.edge?
      = (wiring.filter (·.source.isOwnedBy id)).map Connection.edge? := by
    apply List.map_congr_left
    intro c hc
    exact h.edge?_eq hids (List.mem_of_mem_filter hc)
  rw [Bench.live_compile, h.wiredOf_compile, hedges]

theorem liveEdges_apart (h : wiring.WiredOn bench)
    (hapart : wiring.Pairwise fun c d => ¬c.Clashes d) :
    (compile wiring bench).2.liveEdges.Pairwise Edge.Apart := by
  apply (h.wiredEdges_apart hapart).perm (Bench.liveEdges_compile_of_ids hids wiring).symm
  intro e e' he
  exact he.symm

end Compile

end Wiring.WiredOn

namespace Patch

/--
If no schema declares a port name twice, a patch is compiled to the image of its wiring on the
devices of its rack: nothing is skipped, no edge is there twice and no two edges share a slot.
-/
theorem ofEdits_compile_clean (edits : List Edit)
    (hnames : ∀ m ∈ (ofEdits edits).rack, (m.schema.ports.map (·.name)).Nodup) :
    let p := ofEdits edits
    let report := (p.compile (Bench.ofRack p.rack)).1
    let bench := (p.compile (Bench.ofRack p.rack)).2.2
    report.isClean
      ∧ report.wired = p.wiring.length
      ∧ (∀ id, (bench.get? id).map (·.live.map some) = (p.rack.find? id).map fun _ =>
          (p.wiring.filter (·.source.isOwnedBy id)).map Connection.edge?)
      ∧ (bench.liveEdges.map some).Perm (p.wiring.map Connection.edge?)
      ∧ bench.liveEdges.Nodup
      ∧ bench.edgeSet.length = p.wiring.length
      ∧ bench.liveEdges.Pairwise (fun e e' => e.target.isSlot → e.target ≠ e'.target) := by
  intro p report bench
  have hsound : p.Sound := ofEdits_sound edits
  have hwired : p.wiring.WiredOn (Bench.ofRack p.rack) := by
    intro c hc
    exact Compile.fate_ofRack hnames (hsound.wiring.admissible c hc)
  have hids : ∀ id d, (Bench.ofRack p.rack).get? id = some d → d.id = id := by
    intro id d hd
    exact Bench.id_of_get?_ofRack hd
  have hreport : report = _ := Compile.compile_report p.wiring (Bench.ofRack p.rack)
  have hperm : bench.liveEdges.Perm _ := Bench.liveEdges_compile_of_ids hids p.wiring
  have hapart : bench.liveEdges.Pairwise Edge.Apart :=
    hwired.liveEdges_apart hids hsound.wiring.apart
  have hnodup : bench.liveEdges.Nodup := by
    apply hapart.imp
    intro e e' h
    exact h.1
  refine ⟨?_, ?_, ?_, ?_, hnodup, ?_, ?_⟩
  . rw [hreport, Report.isClean, hwired.skipped_eq_nil]
    rfl
  . rw [hreport]
    exact hwired.length_wiredEdges
  . intro id
    refine (hwired.live_compile hids id).trans ?_
    rw [Bench.get?_ofRack, Option.map_map]
    rfl
  . rw [← hwired.map_some_wiredEdges]
    exact hperm.map some
  . rw [Bench.length_edgeSet hnodup, hperm.length_eq]
    exact hwired.length_wiredEdges
  . apply hapart.imp
    intro e e' h
    exact h.2

def mixerEdits : List Edit :=
  [.addModule ⟨"osc"⟩ ⟨"oscillator", [.source "out" .audio], []⟩,
    .addModule ⟨"mix"⟩ ⟨"mixer", [⟨"in", .sink, .audio, 2⟩, .source "out" .audio], []⟩,
    .connect (.port ⟨"osc"⟩ "out") (.slot ⟨"mix"⟩ "in" 1),
    .connect (.port ⟨"mix"⟩ "out") .sink]

theorem ofEdits_compile_clean_mixer :
    (∀ m ∈ (ofEdits mixerEdits).rack, (m.schema.ports.map (·.name)).Nodup)
      ∧ (ofEdits mixerEdits).wiring.length = 2
      ∧ ((ofEdits mixerEdits).compile (Bench.ofRack (ofEdits mixerEdits).rack)).1.isClean := by
  have hnames : ∀ m ∈ (ofEdits mixerEdits).rack, (m.schema.ports.map (·.name)).Nodup := by decide
  exact ⟨hnames, by decide, (ofEdits_compile_clean mixerEdits hnames).1⟩

end Patch
end ModularSynth
