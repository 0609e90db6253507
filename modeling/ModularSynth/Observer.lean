import ModularSynth.Compile

/-!
This module contains the observers of a patch. After each compilation every observer gets the
connections of the patch and the ones that were skipped; nothing an observer does has an effect on
the patch.
-/

namespace ModularSynth

structure Event where
  connections : Wiring
  skips : List Skip
  deriving DecidableEq

/-- The events that were received since the log was last emptied, the earliest first. -/
abbrev EventLog := List Event

/-- An observer that adds up the connections and the skipped connections of all events. -/
structure Tally where
  connections : Nat
  skips : Nat
  deriving DecidableEq

def Tally.add (t : Tally) (e : Event) : Tally :=
  ⟨t.connections + e.connections.length, t.skips + e.skips.length⟩

/-- The observers of a patch, each kind in the order of registration. -/
structure Observers where
  logs : List EventLog
  tallies : List Tally
  deriving DecidableEq

namespace Observers

def none : Observers := ⟨[], []⟩

/-- Register an empty log; it is found under the number of logs before it. -/
def addLog (o : Observers) : Observers :=
  { o with logs := o.logs ++ [[]] }

/-- Register a tally; it is found under the number of tallies before it. -/
def addTally (o : Observers) : Observers :=
  { o with tallies := o.tallies ++ [⟨0, 0⟩] }

def notify (o : Observers) (e : Event) : Observers where
  logs := o.logs.map (· ++ [e])
  tallies := o.tallies.map (·.add e)

def take (o : Observers) (log : Nat) : EventLog × Observers :=
  ((o.logs[log]?).getD [], { o with logs := o.logs.set log [] })

end Observers
end ModularSynth
