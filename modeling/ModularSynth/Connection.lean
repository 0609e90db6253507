import ModularSynth.Endpoint

/-!
This module contains connections and the wiring of a patch: its connections in insertion order.
-/

namespace ModularSynth

/-- A link from one endpoint to another, with the signal its source emits. -/
structure Connection where
  source : Endpoint
  target : Endpoint
  signal : Signal
  deriving DecidableEq

namespace Connection

def links (c : Connection) (source target : Endpoint) : Bool :=
  c.source == source && c.target == target

def touches (c : Connection) (id : ModuleId) : Bool :=
  c.source.isOwnedBy id || c.target.isOwnedBy id

def text (c : Connection) : String :=
  s!"{c.source.text} → {c.target.text} ({c.signal.name})"

end Connection

/-- Connections in insertion order. -/
abbrev Wiring := List Connection

namespace Wiring

def linked (wiring : Wiring) (source target : Endpoint) : Bool :=
  wiring.any (·.links source target)

/-- The first connection with that target. -/
def occupant? (wiring : Wiring) (target : Endpoint) : Option Connection :=
  List.find? (·.target == target) wiring

/-- The wiring without its first connection from `source` to `target`. -/
def disconnect (wiring : Wiring) (source target : Endpoint) : Wiring :=
  wiring.eraseP (·.links source target)

def disconnectModule (wiring : Wiring) (id : ModuleId) : Wiring :=
  wiring.filter fun c => !c.touches id

def touching (wiring : Wiring) (id : ModuleId) : Nat :=
  wiring.countP (·.touches id)

end Wiring
end ModularSynth
