import ModularSynth.Engine.Device
import ModularSynth.Proofs.SortedMap
import ModularSynth.Proofs.Engine.Lawful

/-!
This module contains that devices are lawful: a device answers from its names, banks, parameters and
readiness alone, and none of its live edges and counters has a part in an answer.
-/

namespace ModularSynth
namespace Device

open EngineObject (face plug refusal? Next)

/-- The device as it was before anything was connected or disconnected. -/
def bare (d : Device) : Device :=
  { d with
    banks := d.banks.map fun gains => gains.map fun g => { g with resets := 0 }
    live := []
    connects := 0
    disconnects := 0 }

theorem slotCount_bare (d : Device) : d.bare.slotCount = d.slotCount := by
  funext port
  unfold slotCount bare
  rw [SortedMap.get?_map]
  cases d.banks.get? port with
  | none => rfl
  | some gains => simp

theorem slot?_bare (d : Device) : d.bare.slot? = d.slot? := by
  funext port index
  unfold slot? bare
  rw [SortedMap.get?_map]
  cases d.banks.get? port with
  | none => rfl
  | some gains =>
    cases hgain : gains[index.toNat]? <;> simp [hgain]

/-- Everything a connection can do: it is made, or it is refused and the device stays as it is. -/
theorem connect_cases (d : Device) (port : String) (target : Inlet) :
    (d.ready ∧ port ∈ d.outputs ∧ d.connect port target = (.ok (),
        { d with live := d.live ++ [⟨⟨d.id, port⟩, target⟩], connects := d.connects + 1 }))
      ∨ ∃ e, d.connect port target = (.error e, d) := by
  rw [connect]
  by_cases hready : d.ready
  . by_cases houtput : d.hasOutput port
    . refine .inl ⟨hready, List.contains_iff_mem.1 houtput, ?_⟩
      simp [hready, houtput]
    . exact .inr ⟨_, by simp [hready, houtput]; rfl⟩
  . exact .inr ⟨_, by simp [hready]; rfl⟩

theorem refusal?_eq (d : Device) (port : String) (target : Inlet) :
    refusal? d port target
      = if !d.ready then some (.notReady d.id)
        else if !d.hasOutput port then some (.refused d.id s!"no output named '{port}'")
        else none := by
  simp only [refusal?, EngineObject.connect, connect]
  by_cases hready : !d.ready
  . rw [if_pos hready, if_pos hready]
    rfl
  . by_cases houtput : !d.hasOutput port
    . rw [if_neg hready, if_pos houtput, if_neg hready, if_pos houtput]
      rfl
    . rw [if_neg hready, if_neg houtput, if_neg hready, if_neg houtput]
      rfl

theorem refusal?_bare (d : Device) : refusal? d.bare = refusal? d := by
  funext port target
  rw [refusal?_eq, refusal?_eq]
  rfl

theorem face_bare (d : Device) : face d.bare = face d := by
  simp only [face, EngineObject.slotCount, EngineObject.slot?, slotCount_bare, slot?_bare,
    refusal?_bare]
  rfl

theorem bare_connect (d : Device) (port : String) (target : Inlet) :
    (d.connect port target).2.bare = d.bare := by
  rcases d.connect_cases port target with ⟨-, -, heq⟩ | ⟨e, heq⟩ <;> rw [heq]
  rfl

theorem bare_disconnect (d : Device) : d.disconnect.bare = d.bare := by
  simp [disconnect, bare, SortedMap.map, Function.comp_def]

theorem bare_next {d d' : Device} (h : Next d d') : d'.bare = d.bare := by
  cases h with
  | connect port target => exact d.bare_connect port target
  | disconnect => exact d.bare_disconnect

instance : LawfulObject Device where
  face_next := by
    intro d d' h
    rw [← face_bare, ← face_bare d, bare_next h]
  refused := by
    intro d d' port target e h
    rcases d.connect_cases port target with ⟨-, -, heq⟩ | ⟨e, heq⟩
    . cases heq.symm.trans h
    . cases heq.symm.trans h
      rfl

/-- An edge as the device records it, which names the device as the device itself does. -/
def edge (d : Device) (e : Edge) : Edge :=
  ⟨⟨d.id, e.source.port⟩, e.target⟩

theorem edge_self {d : Device} {e : Edge} (h : d.id = e.source.module) : d.edge e = e := by
  rw [edge, h]

theorem plug_eq {d : Device} {e : Edge} (h : refusal? d e.source.port e.target = none) :
    plug e d = { d with live := d.live ++ [d.edge e], connects := d.connects + 1 } := by
  rcases d.connect_cases e.source.port e.target with ⟨-, -, heq⟩ | ⟨error, heq⟩
  . exact congrArg Prod.snd heq
  . have hrefused := congrArg (fun r => r.1.error?) heq
    cases h.symm.trans hrefused

theorem foldl_plug_eq (d : Device) (edges : List Edge)
    (h : ∀ e ∈ edges, refusal? d e.source.port e.target = none) :
    edges.foldl (fun d e => plug e d) d
      = { d with live := d.live ++ edges.map d.edge, connects := d.connects + edges.length } := by
  induction edges generalizing d with
  | nil => simp
  | cons e rest ih =>
    have hface : face (plug e d) = face d := LawfulObject.face_next (EngineObject.plug_next e d)
    have hrefusal : refusal? (plug e d) = refusal? d :=
      congrArg EngineObject.Face.refusal? hface
    rw [List.foldl_cons, ih]
    . rw [plug_eq (h e List.mem_cons_self)]
      have hedge : ∀ live connects,
          edge { d with live := live, connects := connects } = d.edge := by
        intros
        rfl
      simp only [hedge, List.append_assoc, List.map_cons, List.length_cons, List.cons_append,
        List.nil_append, Device.mk.injEq, true_and, and_true]
      omega
    . intro e' he'
      rw [hrefusal]
      exact h e' (List.mem_cons_of_mem e he')

end Device
end ModularSynth
