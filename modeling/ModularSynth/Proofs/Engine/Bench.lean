import ModularSynth.Engine.Bench
import ModularSynth.Proofs.Compile
import ModularSynth.Proofs.Engine.Device

/-!
This module contains what a compilation makes of a bench: every device is disconnected once and then
emits the edges of its own connections that are wired, in the order of the wiring.
-/

namespace ModularSynth
namespace Bench

open EngineObject (face refusal? Next)

instance : LawfulEngine Bench Device where
  object?_of_editable? := fun h => h
  ids_put := by
    intro bench id d d' hd _
    apply SortedMap.keys_insert_of_mem
    rw [SortedMap.mem_keys_iff]
    exact Option.isSome_of_eq_some hd
  sink_put := fun _ _ => rfl
  object?_put := by
    intro bench id d d' id' _ _
    apply SortedMap.get?_insert
  editable?_put := by
    intro bench id d d' id' _ _
    apply SortedMap.get?_insert
  put_self := SortedMap.insert_self

theorem object_of_get?_eq_some {bench : Bench} {id : ModuleId} {d : Device}
    (hd : bench.get? id = some d) : Compile.object bench id = .ok d := by
  have hobject : Engine.object? bench id = some d := hd
  rw [Compile.object, hobject]

theorem object_of_get?_eq_none {bench : Bench} {id : ModuleId} (hd : bench.get? id = none) :
    Compile.object bench id = .error (.unknownModule id) := by
  have hobject : Engine.object? bench id = none := hd
  rw [Compile.object, hobject]

/-- The bench without live edges and with all counters at zero. -/
def bare (bench : Bench) : Bench :=
  bench.map Device.bare

theorem get?_bare (bench : Bench) (id : ModuleId) :
    bench.bare.get? id = (bench.get? id).map Device.bare := by
  apply SortedMap.get?_map

theorem bare_insert {bench : Bench} {id : ModuleId} {d d' : Device} (hd : bench.get? id = some d)
    (h : d'.bare = d.bare) : bare (bench.insert id d') = bench.bare := by
  have hbare : bench.bare.get? id = some d'.bare := by
    rw [get?_bare, hd, Option.map_some, h]
  rw [bare, SortedMap.map_insert]
  exact SortedMap.insert_self hbare

theorem isSome_get?_of_bare_eq {a b : Bench} (h : a.bare = b.bare) (id : ModuleId) :
    (a.get? id).isSome = (b.get? id).isSome := by
  rw [← Option.isSome_map (f := Device.bare), ← get?_bare, h, get?_bare, Option.isSome_map]

theorem alike_of_bare_eq {a b : Bench} (h : a.bare = b.bare) : Engine.Alike a b := by
  have hkeys : ∀ bench : Bench, bench.bare.keys = bench.keys := by
    intro bench
    simp [bare, SortedMap.map, SortedMap.keys, Function.comp_def]
  have hface : ∀ (bench : Bench) (id : ModuleId),
      (bench.get? id).map face = (bench.bare.get? id).map face := by
    intro bench id
    rw [get?_bare, Option.map_map]
    congr
    funext d
    exact (Device.face_bare d).symm
  constructor
  . show a.keys = b.keys
    rw [← hkeys a, ← hkeys b, h]
  . rfl
  . intro id
    show (a.get? id).map face = (b.get? id).map face
    rw [hface a, hface b, h]
  . intro id
    show (a.get? id).map face = (b.get? id).map face
    rw [hface a, hface b, h]

def wiredFrom (bench : Bench) (wiring : Wiring) (id : ModuleId) : List Edge :=
  (Compile.wiredEdges bench wiring).filter (·.source.module == id)

theorem refusal?_of_mem_wiredFrom {bench : Bench} {wiring : Wiring} {id : ModuleId} {d : Device}
    (hd : bench.get? id = some d) {e : Edge} (he : e ∈ bench.wiredFrom wiring id) :
    refusal? d e.source.port e.target = none := by
  rcases List.mem_filter.1 he with ⟨hmem, hmodule⟩
  rw [← eq_of_beq hmodule] at hd
  exact Compile.refusal?_of_mem_wiredEdges hmem hd

theorem count_keys {bench : Bench} {id : ModuleId} {d : Device} (hd : bench.get? id = some d) :
    bench.keys.count id = 1 := by
  rw [(SortedMap.nodup_keys bench).count, if_pos]
  rw [SortedMap.mem_keys_iff, hd]
  rfl

theorem get?_compile (wiring : Wiring) (bench : Bench) (id : ModuleId) :
    (compile wiring bench).2.get? id = (bench.get? id).map fun d =>
      { d.disconnect with
        live := (bench.wiredFrom wiring id).map d.edge
        connects := d.connects + (bench.wiredFrom wiring id).length } := by
  have hcompile := Compile.editable?_compile wiring bench id
  cases hd : bench.get? id with
  | none =>
    have heditable : Engine.editable? bench id = none := hd
    rw [heditable] at hcompile
    exact hcompile
  | some d =>
    have heditable : Engine.editable? bench id = some d := hd
    have hcount : (Engine.ids bench).count id = 1 := count_keys hd
    rw [heditable, hcount, Option.map_some, Function.iterate_one] at hcompile
    rw [Option.map_some]
    refine hcompile.trans (congrArg some ?_)
    apply Device.foldl_plug_eq
    intro e he
    have hface : face d.disconnect = face d := LawfulObject.face_next .disconnect
    have hrefusal : refusal? d.disconnect = refusal? d := congrArg EngineObject.Face.refusal? hface
    have := refusal?_of_mem_wiredFrom hd he
    rw [← hrefusal] at this
    exact this

end Bench
end ModularSynth
