import Mathlib.Data.List.Basic
import Mathlib.Logic.Function.Iterate
import ModularSynth.Compile
import ModularSynth.Proofs.Except
import ModularSynth.Proofs.Engine.Lawful

/-!
This module contains what every compilation keeps (`compile_induction`), and the compiler in closed
form for every lawful engine. What becomes of a connection (`fate`) depends there on what the
objects of the engine answer and on nothing that the compiler changes, so the report can be read off
the engine before it is compiled, and each object ends with the edges of the wired connections it
emits.
-/

namespace ModularSynth
namespace Compile

variable {β ο : Type} [EngineObject ο] [Engine β ο]

open Except (bind_eq_ok_iff mapError_eq_ok_iff)
open Engine (Alike)
open EngineObject (Face Next face plug)

section Induction

variable {motive : β → Prop} {engine : β}
variable (hput : ∀ {e : β} {id : ModuleId} {o o' : ο}, Engine.editable? e id = some o →
  Next o o' → motive e → motive (Engine.put e id o'))
include hput

theorem wire_induction (h : motive engine) (c : Connection) : motive (wire engine c).2 := by
  unfold wire
  split
  . exact h
  . split
    . exact h
    . next ho => exact hput ho (.connect _ _) h

theorem disconnectAll_induction (h : motive engine) (ids : List ModuleId) :
    motive (disconnectAll engine ids).2 := by
  induction ids generalizing engine with
  | nil => exact h
  | cons id rest ih =>
    unfold disconnectAll disconnect?
    cases ho : Engine.editable? engine id with
    | none => exact ih h
    | some o => exact ih (hput ho .disconnect h)

theorem replay_go_induction (h : motive engine) (start : Nat) (wiring : Wiring) :
    motive (replay.go engine start wiring).engine := by
  induction wiring generalizing engine start with
  | nil => exact h
  | cons c rest ih =>
    have hwire := wire_induction hput h c
    unfold replay.go
    split
    . next heq =>
      rw [heq] at hwire
      exact ih hwire (start + 1)
    . next heq =>
      rw [heq] at hwire
      exact ih hwire (start + 1)

/-- What no changed object breaks still holds after a compilation. -/
theorem compile_induction (h : motive engine) (wiring : Wiring) :
    motive (compile wiring engine).2 := by
  apply replay_go_induction hput
  exact disconnectAll_induction hput h _

/-- If what a compilation keeps tells which objects can be changed, these can be counted before. -/
theorem disconnectAll_fst {editable : ModuleId → Bool} (h : motive engine)
    (hsome : ∀ {e}, motive e → ∀ id, (Engine.editable? e id).isSome = editable id)
    (ids : List ModuleId) : (disconnectAll engine ids).1 = ids.countP editable := by
  induction ids generalizing engine with
  | nil => rfl
  | cons id rest ih =>
    have hid := hsome h id
    unfold disconnectAll disconnect?
    cases ho : Engine.editable? engine id with
    | none =>
      rw [ho] at hid
      rw [List.countP_cons_of_neg (by simp [← hid])]
      exact ih h
    | some o =>
      rw [ho] at hid
      rw [List.countP_cons_of_pos hid.symm]
      exact congrArg (· + 1) (ih (hput ho .disconnect h))

end Induction

/-- What becomes of a connection: the edge it is wired as, or why it is skipped. -/
def fate (engine : β) (c : Connection) : Except SkipCause Edge := do
  let source ← (outlet engine c.source).mapError (.unresolved .source)
  let target ← (inlet engine c.target).mapError (.unresolved .target)
  match Engine.editable? engine source.module with
  | none => .error (.unresolved .source (.unknownModule source.module))
  | some o =>
    match EngineObject.refusal? o source.port target with
    | some e => .error (.engine e)
    | none => .ok ⟨source, target⟩

def link (engine : β) (edge : Edge) : β :=
  Engine.change engine edge.source.module (plug edge)

def unlink (engine : β) (id : ModuleId) : β :=
  Engine.change engine id EngineObject.disconnect

theorem disconnectAll_snd (engine : β) (ids : List ModuleId) :
    (disconnectAll engine ids).2 = ids.foldl unlink engine := by
  induction ids generalizing engine with
  | nil => rfl
  | cons id rest ih =>
    unfold disconnectAll disconnect?
    rw [List.foldl_cons, unlink, Engine.change]
    cases Engine.editable? engine id with
    | none => exact ih engine
    | some o => exact ih _

def wiredEdges (engine : β) (wiring : Wiring) : List Edge :=
  wiring.filterMap fun c => (fate engine c).toOption

theorem mem_wiredEdges_iff {engine : β} {wiring : Wiring} {edge : Edge} :
    edge ∈ wiredEdges engine wiring ↔ ∃ c ∈ wiring, fate engine c = .ok edge := by
  simp only [wiredEdges, List.mem_filterMap, Except.toOption_eq_some_iff]

def skip? (engine : β) (c : Connection) (index : Nat) : Option Skip :=
  match fate engine c with
  | .ok _ => none
  | .error cause => some ⟨index, c, cause⟩

/-- The connections that are skipped, if positions are counted from `start`. -/
def skipped (engine : β) (start : Nat) (wiring : Wiring) : List Skip :=
  (wiring.zipIdx start).filterMap fun x => skip? engine x.1 x.2

section Cons

variable {engine : β} {c : Connection}

theorem wiredEdges_cons_of_ok {edge : Edge} (h : fate engine c = .ok edge) (rest : Wiring) :
    wiredEdges engine (c :: rest) = edge :: wiredEdges engine rest := by
  apply List.filterMap_cons_some
  rw [h]
  rfl

theorem wiredEdges_cons_of_error {cause : SkipCause} (h : fate engine c = .error cause)
    (rest : Wiring) : wiredEdges engine (c :: rest) = wiredEdges engine rest := by
  apply List.filterMap_cons_none
  rw [h]
  rfl

theorem skipped_cons_of_ok {edge : Edge} (h : fate engine c = .ok edge) (start : Nat)
    (rest : Wiring) : skipped engine start (c :: rest) = skipped engine (start + 1) rest := by
  apply List.filterMap_cons_none
  simp [skip?, h]

theorem skipped_cons_of_error {cause : SkipCause} (h : fate engine c = .error cause) (start : Nat)
    (rest : Wiring) :
    skipped engine start (c :: rest) = ⟨start, c, cause⟩ :: skipped engine (start + 1) rest := by
  apply List.filterMap_cons_some
  simp [skip?, h]

end Cons

theorem fate_eq_ok_iff {engine : β} {c : Connection} {edge : Edge} :
    fate engine c = .ok edge ↔
      outlet engine c.source = .ok edge.source ∧ inlet engine c.target = .ok edge.target
        ∧ ∃ o, Engine.editable? engine edge.source.module = some o
          ∧ EngineObject.refusal? o edge.source.port edge.target = none := by
  simp only [fate, bind_eq_ok_iff, mapError_eq_ok_iff]
  constructor
  . rintro ⟨source, hsource, target, htarget, h⟩
    split at h
    . contradiction
    . next o ho =>
      split at h
      . contradiction
      . next hrefusal =>
        cases h
        exact ⟨hsource, htarget, o, ho, hrefusal⟩
  . rintro ⟨hsource, htarget, o, ho, hrefusal⟩
    refine ⟨edge.source, hsource, edge.target, htarget, ?_⟩
    rw [ho]
    dsimp only
    rw [hrefusal]

theorem eq_port_of_outlet {engine : β} {e : Endpoint} {source : Outlet}
    (h : outlet engine e = .ok source) : e = .port source.module source.port := by
  cases e with
  | port id name =>
    simp only [outlet, bind_eq_ok_iff] at h
    rcases h with ⟨o, -, h⟩
    split at h
    . cases h
      rfl
    . contradiction
  | slot | param | sink => contradiction

section Fate

variable {engine : β} {c : Connection} {edge : Edge} (h : fate engine c = .ok edge)
include h

theorem source_of_fate : c.source = .port edge.source.module edge.source.port := by
  exact eq_port_of_outlet (fate_eq_ok_iff.1 h).1

theorem owner?_of_fate : c.source.owner? = some edge.source.module := by
  rw [source_of_fate h]
  rfl

theorem isOwnedBy_of_fate (id : ModuleId) :
    c.source.isOwnedBy id = (edge.source.module == id) := by
  rw [Endpoint.isOwnedBy, owner?_of_fate h]
  rfl

end Fate

theorem wiredEdges_filter_isOk (engine : β) (wiring : Wiring) :
    wiredEdges engine (wiring.filter fun c => (fate engine c).isOk)
      = wiredEdges engine wiring := by
  rw [wiredEdges, List.filterMap_filter, wiredEdges]
  apply List.filterMap_congr
  intro c _
  cases fate engine c <;> rfl

theorem refusal?_of_mem_wiredEdges {engine : β} {wiring : Wiring} {edge : Edge}
    (h : edge ∈ wiredEdges engine wiring) {o : ο}
    (ho : Engine.editable? engine edge.source.module = some o) :
    EngineObject.refusal? o edge.source.port edge.target = none := by
  rcases mem_wiredEdges_iff.1 h with ⟨c, -, hfate⟩
  rcases fate_eq_ok_iff.1 hfate with ⟨-, -, o', ho', hrefusal⟩
  rw [ho, Option.some.injEq] at ho'
  rw [ho']
  exact hrefusal

/-- What is said of the edges of an id can be said of the connections that are wired from it. -/
theorem map_filter_wiredEdges {α : Type} {engine : β} {id : ModuleId} {f : Edge → α}
    {g : Connection → α}
    (h : ∀ c edge, fate engine c = .ok edge → edge.source.module = id → f edge = g c)
    (wiring : Wiring) :
    ((wiredEdges engine wiring).filter (·.source.module == id)).map f
      = ((wiring.filter fun c => (fate engine c).isOk).filter (·.source.isOwnedBy id)).map g := by
  induction wiring with
  | nil => rfl
  | cons c rest ih =>
    cases hfate : fate engine c with
    | error cause =>
      rw [wiredEdges_cons_of_error hfate, List.filter_cons_of_neg, ih]
      simp [hfate, Except.isOk, Except.toBool]
    | ok edge =>
      have hok : (fate engine c).isOk = true := by
        rw [hfate]
        rfl
      rw [wiredEdges_cons_of_ok hfate]
      simp only [List.filter_cons, hok, if_true, isOwnedBy_of_fate hfate]
      split
      . next hmodule =>
        rw [List.map_cons, List.map_cons, ih, h c edge hfate (eq_of_beq hmodule)]
      . exact ih

section Congr

variable {a b : β} (h : Alike a b)
include h

theorem object_bind_congr {α : Type} (id : ModuleId) {f : ο → Except ResolveError α}
    (hf : ∀ o o', face o = face o' → f o = f o') : (object a id >>= f) = (object b id >>= f) := by
  have hobject := h.object? id
  unfold object
  cases ha : Engine.object? a id with
  | none =>
    cases hb : Engine.object? b id with
    | none => rfl
    | some o' => simp [ha, hb] at hobject
  | some o =>
    cases hb : Engine.object? b id with
    | none => simp [ha, hb] at hobject
    | some o' =>
      rw [ha, hb, Option.map_some, Option.map_some, Option.some.injEq] at hobject
      exact hf o o' hobject

theorem outlet_congr (e : Endpoint) : outlet a e = outlet b e := by
  cases e with
  | port id name =>
    apply object_bind_congr h
    intro o o' hface
    have houtput : EngineObject.hasOutput o = EngineObject.hasOutput o' :=
      congrArg Face.hasOutput hface
    rw [houtput]
  | slot | param | sink => rfl

theorem inlet_congr (e : Endpoint) : inlet a e = inlet b e := by
  cases e with
  | port id name =>
    apply object_bind_congr h
    intro o o' hface
    have hinput : EngineObject.input? o = EngineObject.input? o' := congrArg Face.input? hface
    rw [hinput]
  | slot id name index =>
    apply object_bind_congr h
    intro o o' hface
    have hcount : EngineObject.slotCount o = EngineObject.slotCount o' :=
      congrArg Face.slotCount hface
    have hslot : EngineObject.slot? o = EngineObject.slot? o' := congrArg Face.slot? hface
    rw [hcount, hslot]
  | param id name =>
    apply object_bind_congr h
    intro o o' hface
    have hparam : EngineObject.param? o = EngineObject.param? o' := congrArg Face.param? hface
    rw [hparam]
  | sink =>
    unfold inlet
    rw [h.sink]

theorem fate_congr (c : Connection) : fate a c = fate b c := by
  unfold fate
  rw [outlet_congr h, inlet_congr h]
  congr
  funext source
  congr
  funext target
  have hobject := h.editable? source.module
  cases ha : Engine.editable? a source.module with
  | none =>
    cases hb : Engine.editable? b source.module with
    | none => rfl
    | some o' => simp [ha, hb] at hobject
  | some o =>
    cases hb : Engine.editable? b source.module with
    | none => simp [ha, hb] at hobject
    | some o' =>
      rw [ha, hb, Option.map_some, Option.map_some, Option.some.injEq] at hobject
      have hrefusal : EngineObject.refusal? o = EngineObject.refusal? o' :=
        congrArg Face.refusal? hobject
      dsimp only
      rw [hrefusal]

theorem wiredEdges_congr (wiring : Wiring) : wiredEdges a wiring = wiredEdges b wiring := by
  unfold wiredEdges
  simp only [fate_congr h]

theorem skipped_congr (start : Nat) (wiring : Wiring) :
    skipped a start wiring = skipped b start wiring := by
  unfold skipped skip?
  simp only [fate_congr h]

end Congr

section Lawful

variable [LawfulEngine β ο]

theorem editable?_link (engine : β) (edge : Edge) (id : ModuleId) :
    Engine.editable? (link engine edge) id
      = if id = edge.source.module then (Engine.editable? engine id).map (plug edge)
        else Engine.editable? engine id := by
  apply Engine.editable?_change
  apply EngineObject.plug_next

theorem editable?_unlink (engine : β) (id id' : ModuleId) :
    Engine.editable? (unlink engine id) id'
      = if id' = id then (Engine.editable? engine id').map EngineObject.disconnect
        else Engine.editable? engine id' := by
  apply Engine.editable?_change
  intro o
  exact .disconnect

theorem editable?_foldl_link (engine : β) (edges : List Edge) (id : ModuleId) :
    Engine.editable? (edges.foldl link engine) id
      = (Engine.editable? engine id).map fun o =>
          (edges.filter (·.source.module == id)).foldl (fun o edge => plug edge o) o := by
  induction edges generalizing engine with
  | nil => simp
  | cons edge rest ih =>
    rw [List.foldl_cons, ih, editable?_link, List.filter_cons]
    split
    . next heq => simp [heq, Function.comp_def]
    . next hne => simp [Ne.symm hne]

theorem editable?_foldl_unlink (engine : β) (ids : List ModuleId) (id : ModuleId) :
    Engine.editable? (ids.foldl unlink engine) id
      = (Engine.editable? engine id).map EngineObject.disconnect^[ids.count id] := by
  induction ids generalizing engine with
  | nil => simp
  | cons id' rest ih =>
    rw [List.foldl_cons, ih, editable?_unlink, List.count_cons]
    split
    . next heq => simp [heq, Function.comp_def]
    . next hne => simp [Ne.symm hne]

variable [LawfulObject ο]

theorem link_alike (engine : β) (edge : Edge) : Alike (link engine edge) engine := by
  apply Engine.change_alike
  apply EngineObject.plug_next

theorem unlink_alike (engine : β) (id : ModuleId) : Alike (unlink engine id) engine := by
  apply Engine.change_alike
  intro o
  exact .disconnect

theorem foldl_unlink_alike (engine : β) (ids : List ModuleId) :
    Alike (ids.foldl unlink engine) engine := by
  apply List.foldlRecOn (motive := fun e => Alike e engine) ids unlink (.refl engine)
  intro e h id _
  exact (unlink_alike e id).trans h

theorem disconnectAll_eq (engine : β) (ids : List ModuleId) :
    disconnectAll engine ids
      = (ids.countP fun id => (Engine.editable? engine id).isSome, ids.foldl unlink engine) := by
  apply Prod.ext
  . apply disconnectAll_fst (motive := fun e => Alike e engine) _ (.refl engine)
    . intro e h id
      exact h.isSome_editable? id
    . intro e id o o' ho hnext h
      exact (Engine.put_alike ho hnext).trans h
  . exact disconnectAll_snd engine ids

theorem wire_eq (engine : β) (c : Connection) :
    wire engine c = match fate engine c with
      | .ok edge => (.ok (), link engine edge)
      | .error cause => (.error cause, engine) := by
  unfold wire ends fate
  cases (outlet engine c.source).mapError (SkipCause.unresolved .source) with
  | error e => rfl
  | ok source =>
    cases (inlet engine c.target).mapError (SkipCause.unresolved .target) with
    | error e => rfl
    | ok target =>
      simp only [Except.ok_bind, pure, Except.pure]
      cases ho : Engine.editable? engine source.module with
      | none => rfl
      | some o =>
        rcases hconnect : EngineObject.connect o source.port target with ⟨e | ⟨⟩, o'⟩
        . -- The object that refuses the connection is put back as it was.
          rw [LawfulObject.refused hconnect] at hconnect
          simp [EngineObject.refusal?, hconnect, Except.error?, LawfulEngine.put_self ho]
        . simp [EngineObject.refusal?, hconnect, Except.error?, link, Engine.change, ho, plug]

theorem replay_go_eq (engine : β) (start : Nat) (wiring : Wiring) :
    replay.go engine start wiring
      = ⟨(wiredEdges engine wiring).length, skipped engine start wiring,
          (wiredEdges engine wiring).foldl link engine⟩ := by
  induction wiring generalizing engine start with
  | nil => rfl
  | cons c rest ih =>
    unfold replay.go
    rw [wire_eq]
    cases hfate : fate engine c with
    | error cause =>
      rw [wiredEdges_cons_of_error hfate, skipped_cons_of_error hfate]
      dsimp only
      rw [ih]
    | ok edge =>
      have halike := link_alike engine edge
      rw [wiredEdges_cons_of_ok hfate, skipped_cons_of_ok hfate]
      dsimp only
      -- The edge that is made here changes no answer, so `ih` speaks of `engine` as well.
      rw [ih, wiredEdges_congr halike, skipped_congr halike]
      rfl

theorem compile_eq (wiring : Wiring) (engine : β) :
    compile wiring engine
      = (⟨(Engine.ids engine).countP fun id => (Engine.editable? engine id).isSome,
            (wiredEdges engine wiring).length, skipped engine 0 wiring⟩,
          (wiredEdges engine wiring).foldl link ((Engine.ids engine).foldl unlink engine)) := by
  have halike := foldl_unlink_alike engine (Engine.ids engine)
  unfold compile teardown replay
  rw [disconnectAll_eq]
  dsimp only
  rw [replay_go_eq, wiredEdges_congr halike, skipped_congr halike]

theorem compile_report (wiring : Wiring) (engine : β) :
    (compile wiring engine).1
      = ⟨(Engine.ids engine).countP fun id => (Engine.editable? engine id).isSome,
          (wiredEdges engine wiring).length, skipped engine 0 wiring⟩ := by
  rw [compile_eq]

theorem compile_alike (wiring : Wiring) (engine : β) :
    Alike (compile wiring engine).2 engine := by
  apply compile_induction (motive := fun e => Alike e engine) _ (.refl engine)
  intro e id o o' ho hnext h
  exact (Engine.put_alike ho hnext).trans h

theorem compile_report_congr {a b : β} (h : Alike a b) (wiring : Wiring) :
    (compile wiring a).1 = (compile wiring b).1 := by
  rw [compile_report, compile_report, wiredEdges_congr h, skipped_congr h, h.ids]
  simp only [h.isSome_editable?]

theorem editable?_compile (wiring : Wiring) (engine : β) (id : ModuleId) :
    Engine.editable? (compile wiring engine).2 id
      = (Engine.editable? engine id).map fun o =>
          ((wiredEdges engine wiring).filter (·.source.module == id)).foldl
            (fun o edge => plug edge o)
            (EngineObject.disconnect^[(Engine.ids engine).count id] o) := by
  rw [compile_eq, editable?_foldl_link, editable?_foldl_unlink, Option.map_map]
  rfl

end Lawful

end Compile
end ModularSynth
