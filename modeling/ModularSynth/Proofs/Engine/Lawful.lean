import ModularSynth.Engine.Basic
import ModularSynth.Proofs.Except

/-!
This module contains what makes a compilation predictable. Neither a connection nor a disconnection
changes what an object answers, and a refused connection changes nothing at all (`LawfulObject`); an
object that is put back takes its own place and no other (`LawfulEngine`).
-/

namespace ModularSynth

namespace EngineObject

variable {ο : Type} [EngineObject ο]

/-- All that an object answers. The connections it has made are no part of it. -/
structure Face where
  hasOutput : String → Bool
  input? : String → Option Inlet
  slotCount : String → Nat
  slot? : String → UInt64 → Option Inlet
  param? : String → Option Inlet
  refusal? : String → Inlet → Option EngineError

def refusal? (o : ο) (port : String) (target : Inlet) : Option EngineError :=
  (connect o port target).1.error?

def face (o : ο) : Face where
  hasOutput := hasOutput o
  input? := input? o
  slotCount := slotCount o
  slot? := slot? o
  param? := param? o
  refusal? := refusal? o

/-- The object after it was given an edge to emit. -/
def plug (edge : Edge) (o : ο) : ο :=
  (connect o edge.source.port edge.target).2

/-- What one call of the compiler can make of an object. -/
inductive Next (o : ο) : ο → Prop
  | connect (port : String) (target : Inlet) : Next o (EngineObject.connect o port target).2
  | disconnect : Next o (EngineObject.disconnect o)

theorem plug_next (edge : Edge) (o : ο) : Next o (plug edge o) := by
  apply Next.connect

end EngineObject

open EngineObject (face Next)

class LawfulObject (ο : Type) [EngineObject ο] : Prop where
  face_next : ∀ {o o' : ο}, Next o o' → face o' = face o
  refused : ∀ {o o' : ο} {port : String} {target : Inlet} {e : EngineError},
    EngineObject.connect o port target = (.error e, o') → o' = o

class LawfulEngine (β : Type) (ο : outParam Type) [EngineObject ο] [Engine β ο] : Prop where
  object?_of_editable? : ∀ {engine : β} {id : ModuleId} {o : ο},
    Engine.editable? engine id = some o → Engine.object? engine id = some o
  ids_put : ∀ {engine : β} {id : ModuleId} {o o' : ο},
    Engine.editable? engine id = some o → Next o o' →
      Engine.ids (Engine.put engine id o') = Engine.ids engine
  sink_put : ∀ {engine : β} {id : ModuleId} {o o' : ο},
    Engine.editable? engine id = some o → Next o o' →
      Engine.sink (Engine.put engine id o') = Engine.sink engine
  object?_put : ∀ {engine : β} {id : ModuleId} {o o' : ο} (id' : ModuleId),
    Engine.editable? engine id = some o → Next o o' →
      Engine.object? (Engine.put engine id o') id'
        = if id' = id then some o' else Engine.object? engine id'
  editable?_put : ∀ {engine : β} {id : ModuleId} {o o' : ο} (id' : ModuleId),
    Engine.editable? engine id = some o → Next o o' →
      Engine.editable? (Engine.put engine id o') id'
        = if id' = id then some o' else Engine.editable? engine id'
  put_self : ∀ {engine : β} {id : ModuleId} {o : ο},
    Engine.editable? engine id = some o → Engine.put engine id o = engine

namespace Engine

variable {β ο : Type} [EngineObject ο] [Engine β ο]

/-- Two engines that give the compiler the same answers. -/
structure Alike (a b : β) : Prop where
  ids : ids a = ids b
  sink : sink a = sink b
  object? : ∀ id, (object? a id).map face = (object? b id).map face
  editable? : ∀ id, (editable? a id).map face = (editable? b id).map face

namespace Alike

theorem refl (engine : β) : Alike engine engine := by
  constructor <;> intros <;> rfl

theorem trans {a b c : β} (hab : Alike a b) (hbc : Alike b c) : Alike a c where
  ids := hab.ids.trans hbc.ids
  sink := hab.sink.trans hbc.sink
  object? := fun id => (hab.object? id).trans (hbc.object? id)
  editable? := fun id => (hab.editable? id).trans (hbc.editable? id)

theorem isSome_editable? {a b : β} (h : Alike a b) (id : ModuleId) :
    (Engine.editable? a id).isSome = (Engine.editable? b id).isSome := by
  have := congrArg Option.isSome (h.editable? id)
  simpa using this

end Alike

/-- The engine with one object changed, if there is an object to change. -/
def change (engine : β) (id : ModuleId) (f : ο → ο) : β :=
  match editable? engine id with
  | some o => put engine id (f o)
  | none => engine

section Change

variable [LawfulEngine β ο]

theorem editable?_change (engine : β) (id id' : ModuleId) {f : ο → ο} (hf : ∀ o, Next o (f o)) :
    editable? (change engine id f) id'
      = if id' = id then (editable? engine id').map f else editable? engine id' := by
  unfold change
  split
  . next o ho =>
    rw [LawfulEngine.editable?_put id' ho (hf o)]
    split
    . next heq => rw [heq, ho, Option.map_some]
    . rfl
  . next hnone =>
    split
    . next heq => rw [heq, hnone, Option.map_none]
    . rfl

theorem put_alike [LawfulObject ο] {engine : β} {id : ModuleId} {o o' : ο}
    (ho : editable? engine id = some o) (h : Next o o') : Alike (put engine id o') engine := by
  have hface : face o' = face o := LawfulObject.face_next h
  constructor
  . apply LawfulEngine.ids_put ho h
  . apply LawfulEngine.sink_put ho h
  . intro id'
    rw [LawfulEngine.object?_put id' ho h]
    split
    . next heq =>
      rw [heq, LawfulEngine.object?_of_editable? ho, Option.map_some, Option.map_some, hface]
    . rfl
  . intro id'
    rw [LawfulEngine.editable?_put id' ho h]
    split
    . next heq => rw [heq, ho, Option.map_some, Option.map_some, hface]
    . rfl

theorem change_alike [LawfulObject ο] (engine : β) (id : ModuleId) {f : ο → ο}
    (hf : ∀ o, Next o (f o)) : Alike (change engine id f) engine := by
  unfold change
  split
  . next o ho => exact put_alike ho (hf o)
  . exact .refl engine

end Change
end Engine
end ModularSynth
