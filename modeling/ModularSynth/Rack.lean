import ModularSynth.Schema

/-!
This module contains module ids, modules, and the rack: the modules of a patch in insertion order.
Everything that resolves or validates an address asks the rack for the schema of an id.
-/

namespace ModularSynth

def sinkName : String := "destination"

/-- The id of a module, unique within a rack. -/
@[ext]
structure ModuleId where
  text : String
  deriving DecidableEq

namespace ModuleId

/--
An id can be written in an address if it is not empty, does not hold the separator `/` and is not
the name of the global sink.
-/
def isValid (id : ModuleId) : Bool :=
  id.text != "" && !id.text.toList.contains '/' && id.text != sinkName

/-- Ids are ordered as their texts are: by code points. -/
def order : ModuleId → ModuleId → Ordering :=
  compareOn ModuleId.text

instance : Std.TransCmp order := by
  unfold order
  infer_instance

instance : Std.LawfulEqCmp order where
  compare_self := by simp [order, compareOn]
  eq_of_compare h := ModuleId.ext (Std.LawfulEqCmp.eq_of_compare h)

end ModuleId

structure Module where
  id : ModuleId
  schema : Schema
  deriving DecidableEq

/-- The kind of a module, which it has from its schema. -/
abbrev Module.kind (m : Module) : String := m.schema.kind

/-- Modules in insertion order. -/
abbrev Rack := List Module

namespace Rack

/-- The first module with that id. -/
def find? (rack : Rack) (id : ModuleId) : Option Module :=
  List.find? (·.id == id) rack

def schema? (rack : Rack) (id : ModuleId) : Option Schema :=
  (rack.find? id).map (·.schema)

/-- The rack without its first module of that id. -/
def erase (rack : Rack) (id : ModuleId) : Rack :=
  rack.eraseP (·.id == id)

def ids (rack : Rack) : List ModuleId :=
  rack.map (·.id)

end Rack
end ModularSynth
