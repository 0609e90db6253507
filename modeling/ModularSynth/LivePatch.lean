import ModularSynth.Patch

/-!
This module contains live patches: a patch together with the engine it drives. Every edit that
changes the patch is followed by a compilation, so the engine never lags behind the patch.
-/

namespace ModularSynth

/-- A patch, its engine, and the report of the last compilation. -/
structure LivePatch (β : Type) where
  patch : Patch
  engine : β
  report : Report

namespace LivePatch

variable {β ο : Type} [EngineObject ο] [Engine β ο]

def start (patch : Patch) (engine : β) : LivePatch β :=
  let (report, patch, engine) := patch.compile engine
  ⟨patch, engine, report⟩

def recompile (live : LivePatch β) : LivePatch β :=
  start live.patch live.engine

def propose (live : LivePatch β) (source target : String) :
    Except EditError Connection × LivePatch β :=
  match live.patch.propose source target with
  | (.ok c, patch) => (.ok c, start patch live.engine)
  | (.error e, patch) => (.error e, { live with patch := patch })

/-- Disconnect the endpoints of two texts; nothing is compiled if they were not connected. -/
def remove (live : LivePatch β) (source target : String) : Except EditError Bool × LivePatch β :=
  match live.patch.remove source target with
  | (.ok true, patch) => (.ok true, start patch live.engine)
  | (.ok false, patch) => (.ok false, { live with patch := patch })
  | (.error e, patch) => (.error e, { live with patch := patch })

/-- Add a module to the patch, then to the engine. -/
def addModule (live : LivePatch β) (id : ModuleId) (schema : Schema) :
    Except EditError Unit × LivePatch β :=
  match live.patch.addModule id schema with
  | (.ok m, patch) => (.ok (), start patch (Engine.moduleAdded live.engine m))
  | (.error e, patch) => (.error e, { live with patch := patch })

/-- Remove a module from the patch, then from the engine, and count the connections it had. -/
def removeModule (live : LivePatch β) (id : ModuleId) : Except EditError Nat × LivePatch β :=
  match live.patch.removeModule id with
  | (.ok purged, patch) => (.ok purged, start patch (Engine.moduleRemoved live.engine id))
  | (.error e, patch) => (.error e, { live with patch := patch })

end LivePatch
end ModularSynth
