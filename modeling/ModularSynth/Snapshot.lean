import ModularSynth.Patch

/-!
This module contains snapshots: the texts from which a patch can be made again.
-/

namespace ModularSynth

structure ModuleEntry where
  id : String
  kind : String
  deriving DecidableEq

/-- A connection to make, with the signal it carries. -/
structure ConnectionRecord where
  source : String
  target : String
  signal : Signal
  deriving DecidableEq

/-- The modules and connections of a patch, as texts and in insertion order. -/
structure Snapshot where
  modules : List ModuleEntry
  connections : List ConnectionRecord
  deriving DecidableEq

def Module.entry (m : Module) : ModuleEntry :=
  ⟨m.id.text, m.kind⟩

def Connection.record (c : Connection) : ConnectionRecord :=
  ⟨c.source.text, c.target.text, c.signal⟩

def Patch.snapshot (p : Patch) : Snapshot :=
  ⟨p.rack.map (·.entry), p.wiring.map (·.record)⟩

end ModularSynth
