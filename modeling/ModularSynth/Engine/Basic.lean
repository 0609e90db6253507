import ModularSynth.Rack

/-!
This module contains the boundary to an audio engine: the handles by which live processing objects
are wired, what an object answers and does (`EngineObject`), and how the objects of an engine are
found by module id (`Engine`).
-/

namespace ModularSynth

structure Outlet where
  module : ModuleId
  port : String
  deriving DecidableEq

namespace Outlet

def text (o : Outlet) : String :=
  s!"{o.module.text}.{o.port}"

/-- Outlets are ordered by module, then by port. -/
def order : Outlet → Outlet → Ordering :=
  compareLex (compareOn (·.module.text)) (compareOn (·.port))

instance : Std.TransCmp order := by
  unfold order
  infer_instance

theorem eq_of_order_eq {a b : Outlet} (h : order a b = .eq) : a = b := by
  simp only [order, compareLex, compareOn, Ordering.then_eq_eq, Std.LawfulEqCmp.compare_eq_iff_eq]
    at h
  cases a
  cases b
  simp_all [ModuleId.ext_iff]

end Outlet

inductive Inlet
  | input (module : ModuleId) (port : String)
  /-- One slot of a bank; the first has index 0. -/
  | slot (module : ModuleId) (port : String) (index : UInt64)
  | param (module : ModuleId) (param : String)
  | destination
  deriving DecidableEq

namespace Inlet

def text : Inlet → String
  | .input m name => s!"{m.text}.{name}"
  | .slot m name index => s!"{m.text}.{name}[{index}]"
  | .param m name => s!"{m.text}.{name}"
  | .destination => "destination"

def rank : Inlet → Nat
  | .input .. => 0
  | .slot .. => 1
  | .param .. => 2
  | .destination => 3

def owner? : Inlet → Option ModuleId
  | .input m _ => some m
  | .slot m _ _ => some m
  | .param m _ => some m
  | .destination => none

def name : Inlet → String
  | .input _ name => name
  | .slot _ name _ => name
  | .param _ name => name
  | .destination => ""

def index : Inlet → UInt64
  | .slot _ _ index => index
  | _ => 0

/-- Inlets are ordered by shape, and within a shape by module, name and index. -/
def order : Inlet → Inlet → Ordering :=
  compareLex (compareOn rank) <| compareLex (compareOn fun i => i.owner?.map (·.text)) <|
    compareLex (compareOn name) (compareOn index)

instance : Std.TransCmp order := by
  unfold order
  infer_instance

theorem eq_of_order_eq {a b : Inlet} (h : order a b = .eq) : a = b := by
  simp only [order, compareLex, compareOn, Ordering.then_eq_eq, Std.LawfulEqCmp.compare_eq_iff_eq]
    at h
  cases a <;> cases b <;> simp_all [rank, owner?, name, index, ModuleId.ext_iff]

end Inlet

structure Edge where
  source : Outlet
  target : Inlet
  deriving DecidableEq

namespace Edge

/-- Edges are ordered by source, then by target. -/
def order (a b : Edge) : Ordering :=
  (Outlet.order a.source b.source).then (Inlet.order a.target b.target)

end Edge

inductive EngineError
  | refused (module : ModuleId) (reason : String)
  /-- The object has not finished starting up. -/
  | notReady (module : ModuleId)
  deriving DecidableEq

def EngineError.message : EngineError → String
  | .refused m reason => s!"engine object '{m.text}' refused the connection: {reason}"
  | .notReady m => s!"engine object '{m.text}' is not ready"

/-- What a live processing object of type `ο` answers and does. -/
class EngineObject (ο : Type) where
  hasOutput : ο → String → Bool
  input? : ο → String → Option Inlet
  /-- The number of slots of a bank, 0 if there is no such bank. -/
  slotCount : ο → String → Nat
  slot? : ο → String → UInt64 → Option Inlet
  param? : ο → String → Option Inlet
  /-- The answer to a connection, and the object as it is then, also if it has refused. -/
  connect : ο → String → Inlet → Except EngineError Unit × ο
  disconnect : ο → ο

/--
An engine of type `β` whose objects have the type `ο`. Looking at an object and changing it are two
questions: an engine may answer the first and not the second.
-/
class Engine (β : Type) (ο : outParam Type) where
  /-- The ids under which objects are listed; an id may be listed twice or have no object. -/
  ids : β → List ModuleId
  /-- The object that answers for an id. -/
  object? : β → ModuleId → Option ο
  /-- The object that can be changed under an id. -/
  editable? : β → ModuleId → Option ο
  /-- Put a changed object back. -/
  put : β → ModuleId → ο → β
  sink : β → Inlet := fun _ => .destination
  moduleAdded : β → Module → β := fun engine _ => engine
  moduleRemoved : β → ModuleId → β := fun engine _ => engine

end ModularSynth
