import ModularSynth.Proofs.Wirable
import ModularSynth.Proofs.Engine.Fits

/-!
This module contains the image of a wiring, the edges its connections stand for, and what becomes of
it when the wiring is edited. On a bench that fits the rack, a compilation makes the image live.
-/

namespace ModularSynth

def Edge.touches (e : Edge) (id : ModuleId) : Bool :=
  e.source.module == id || e.target.owner? == some id

theorem Endpoint.owner?_inlet (e : Endpoint) : e.inlet.owner? = e.owner? := by
  cases e <;> rfl

theorem Endpoint.owner?_of_outlet? {e : Endpoint} {source : Outlet}
    (h : e.outlet? = some source) : e.owner? = some source.module := by
  cases e <;> cases h
  rfl

namespace Connection

variable {c : Connection} {e : Edge}

theorem touches_of_edge? (h : c.edge? = some e) (id : ModuleId) : c.touches id = e.touches id := by
  rcases edge?_eq_some_iff.1 h with ⟨hsource, htarget⟩
  rw [touches, Edge.touches, Endpoint.isOwnedBy, Endpoint.isOwnedBy,
    Endpoint.owner?_of_outlet? hsource, ← htarget, Endpoint.owner?_inlet]
  rfl

theorem Admissible.exists_edge {rack : Rack} (h : c.Admissible rack) :
    ∃ edge, c.edge? = some edge := by
  rcases Endpoint.emits_eq_ok_iff.1 h.emits with ⟨id, name, port, hsource, -⟩
  refine ⟨⟨⟨id, name⟩, c.target.inlet⟩, edge?_eq_some_iff.2 ⟨?_, rfl⟩⟩
  rw [hsource]
  rfl

/-- Only the connection of the same two endpoints stands for the same edge. -/
theorem edge?_eq_some_iff_links {source target : Endpoint}
    (hsource : source.outlet? = some e.source) (htarget : target.inlet = e.target) :
    c.edge? = some e ↔ c.links source target := by
  rw [edge?_eq_some_iff, links, Bool.and_eq_true, beq_iff_eq, beq_iff_eq]
  constructor
  . rintro ⟨hsource', htarget'⟩
    refine ⟨Endpoint.eq_of_outlet?_eq hsource' hsource, ?_⟩
    apply Endpoint.eq_of_inlet_eq
    rw [htarget, htarget']
  . rintro ⟨rfl, rfl⟩
    exact ⟨hsource, htarget⟩

end Connection

namespace Wiring

def edges (wiring : Wiring) : List Edge :=
  wiring.filterMap Connection.edge?

def edgesFrom (wiring : Wiring) (id : ModuleId) : List Edge :=
  wiring.edges.filter (·.source.module == id)

theorem edges_append {c : Connection} {e : Edge} (h : c.edge? = some e) (wiring : Wiring) :
    edges (wiring ++ [c]) = wiring.edges ++ [e] := by
  rw [edges, List.filterMap_append, List.filterMap_cons_some h]
  rfl

theorem edges_disconnect {source target : Endpoint} {e : Edge}
    (hsource : source.outlet? = some e.source) (htarget : target.inlet = e.target)
    (wiring : Wiring) : (wiring.disconnect source target).edges = wiring.edges.erase e := by
  rw [edges, edges, List.erase_eq_eraseP, List.eraseP_filterMap, disconnect]
  congr 2
  funext c
  have hlinks := Connection.edge?_eq_some_iff_links (c := c) hsource htarget
  cases hedge : c.edge? with
  | none => simpa [hedge] using hlinks
  | some e' =>
    apply Bool.eq_iff_iff.2
    rw [← hlinks, hedge, Option.some.injEq, beq_iff_eq, eq_comm]

theorem edges_disconnectModule (wiring : Wiring) (id : ModuleId) :
    (wiring.disconnectModule id).edges = wiring.edges.filter fun e => !e.touches id := by
  rw [edges, edges, disconnectModule, List.filterMap_filter, List.filter_filterMap]
  congr
  funext c
  cases hedge : c.edge? with
  | none => simp
  | some e =>
    rw [Connection.touches_of_edge? hedge]
    rfl

theorem Valid.countP_edges {wiring : Wiring} {rack : Rack} (h : wiring.Valid rack) (id : ModuleId) :
    wiring.edges.countP (·.touches id) = wiring.touching id := by
  rw [edges, List.countP_filterMap, touching]
  apply List.countP_congr
  intro c hc
  rcases (h.admissible c hc).exists_edge with ⟨e, hedge⟩
  rw [hedge, Connection.touches_of_edge? hedge]
  rfl

theorem Valid.wiredOn {wiring : Wiring} {rack : Rack} {bench : Bench} (h : wiring.Valid rack)
    (hnames : ∀ m ∈ rack, (m.schema.ports.map (·.name)).Nodup) (hfits : bench.Fits rack) :
    wiring.WiredOn bench := by
  intro c hc
  rw [Compile.fate_congr hfits.alike]
  exact Compile.fate_ofRack hnames (h.admissible c hc)

theorem WiredOn.wiredEdges_eq {wiring : Wiring} {bench : Bench} (h : wiring.WiredOn bench) :
    Compile.wiredEdges bench wiring = wiring.edges := by
  have hedges := congrArg (List.filterMap id) h.map_some_wiredEdges
  simpa [edges, List.filterMap_map] using hedges

end Wiring
end ModularSynth
