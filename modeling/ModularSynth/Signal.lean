/-!
This module contains the kinds of signal a port carries, which kind may feed which, and the two
directions a port can have.
-/

namespace ModularSynth

inductive Signal
  | audio
  | cv
  | gate
  deriving DecidableEq

namespace Signal

def all : List Signal := [.audio, .cv, .gate]

def name : Signal → String
  | .audio => "audio"
  | .cv => "cv"
  | .gate => "gate"

def ofName? (s : String) : Option Signal :=
  all.find? (·.name == s)

/--
A source of the first kind may feed a sink of the second. Every kind feeds itself; besides that,
`cv` feeds `gate`, but not the other way round.
-/
def canDrive : Signal → Signal → Bool
  | .audio, .audio => true
  | .cv, .cv => true
  | .cv, .gate => true
  | .gate, .gate => true
  | _, _ => false

theorem ofName?_name (s : Signal) : ofName? s.name = some s := by
  cases s <;> decide

end Signal

inductive Direction
  | source
  | sink
  deriving DecidableEq

namespace Direction

def name : Direction → String
  | .source => "source"
  | .sink => "sink"

def ofName? (s : String) : Option Direction :=
  [source, sink].find? (·.name == s)

end Direction

inductive Side
  | source
  | target
  deriving DecidableEq

namespace Side

def name : Side → String
  | .source => "source"
  | .target => "target"

def ofName? (s : String) : Option Side :=
  [source, target].find? (·.name == s)

end Side
end ModularSynth
