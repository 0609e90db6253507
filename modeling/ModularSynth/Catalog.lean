import ModularSynth.Schema

/-!
This module contains the catalog of the module kinds a rack can hold, each with its schema and with
what a user is shown of it.
-/

namespace ModularSynth

inductive Category
  | source
  | filter
  | modulation
  | timeBased
  | utility
  deriving DecidableEq

namespace Category

def all : List Category := [.source, .filter, .modulation, .timeBased, .utility]

def name : Category → String
  | .source => "Source"
  | .filter => "Filter"
  | .modulation => "Modulation"
  | .timeBased => "Time-Based"
  | .utility => "Utility"

def description : Category → String
  | .source => "Oscillators, noise, and other signal generators"
  | .filter => "Filters, equalizers, and other spectral shapers"
  | .modulation => "Envelopes, LFOs, clocks, and other control sources"
  | .timeBased => "Delay, reverb, and other time-based effects"
  | .utility => "Amplifiers, mixers, and routing utilities"

end Category

structure Kind where
  name : String
  description : String
  category : Category
  schema : Schema
  deriving DecidableEq

/-- The identifier of a kind, which is that of its schema. -/
abbrev Kind.id (k : Kind) : String := k.schema.kind

/-- The number of slots of the `inputs` bank of a mixer. -/
def mixerChannels : UInt64 := 8

namespace Kind

def oscillator : Kind where
  name := "Oscillator"
  description := "Band-limited oscillator with pitch CV and hard sync"
  category := .source
  schema :=
    { kind := "oscillator"
      ports := [.sink "frequency_cv" .cv, .sink "sync_in" .gate, .source "audio_out" .audio]
      params := ["frequency", "detune", "level"] }

def noise : Kind where
  name := "Noise"
  description := "White noise generator"
  category := .source
  schema :=
    { kind := "noise"
      ports := [.source "audio_out" .audio]
      params := ["level"] }

def filter : Kind where
  name := "Filter"
  description := "Resonant state-variable filter with cutoff CV"
  category := .filter
  schema :=
    { kind := "filter"
      ports := [.sink "audio_in" .audio, .sink "cutoff_cv" .cv, .source "audio_out" .audio]
      params := ["frequency", "q", "gain"] }

def equalizer : Kind where
  name := "Equalizer"
  description := "Three-band equalizer"
  category := .filter
  schema :=
    { kind := "equalizer"
      ports := [.sink "audio_in" .audio, .source "audio_out" .audio]
      params := ["low_gain", "mid_gain", "high_gain"] }

def envelope : Kind where
  name := "Envelope"
  description := "ADSR envelope triggered by a gate"
  category := .modulation
  schema :=
    { kind := "envelope"
      ports := [.sink "gate_in" .gate, .source "cv_out" .cv]
      params := ["attack", "decay", "sustain", "release"] }

def lfo : Kind where
  name := "LFO"
  description := "Low-frequency oscillator with gate reset"
  category := .modulation
  schema :=
    { kind := "lfo"
      ports := [.sink "reset_in" .gate, .source "cv_out" .cv]
      params := ["rate", "depth"] }

def clock : Kind where
  name := "Clock"
  description := "Tempo-driven gate clock"
  category := .modulation
  schema :=
    { kind := "clock"
      ports := [.source "gate_out" .gate]
      params := ["tempo"] }

def delay : Kind where
  name := "Delay"
  description := "Feedback delay line"
  category := .timeBased
  schema :=
    { kind := "delay"
      ports := [.sink "audio_in" .audio, .source "audio_out" .audio]
      params := ["time", "feedback", "mix"] }

def reverb : Kind where
  name := "Reverb"
  description := "Algorithmic room reverb"
  category := .timeBased
  schema :=
    { kind := "reverb"
      ports := [.sink "audio_in" .audio, .source "audio_out" .audio]
      params := ["decay", "damping", "mix"] }

def amplifier : Kind where
  name := "Amplifier"
  description := "Voltage-controlled amplifier"
  category := .utility
  schema :=
    { kind := "amplifier"
      ports := [.sink "audio_in" .audio, .sink "gain_cv" .cv, .source "audio_out" .audio]
      params := ["gain"] }

def mixer : Kind where
  name := "Mixer"
  description := "Four-channel mixer with per-input gain"
  category := .utility
  schema :=
    { kind := "mixer"
      ports := [⟨"inputs", .sink, .audio, mixerChannels⟩, .source "audio_out" .audio]
      params := ["volume"] }

end Kind

abbrev Catalog := List Kind

inductive CatalogError
  | unknownKind (kind : String)
  deriving DecidableEq

def CatalogError.message : CatalogError → String
  | .unknownKind kind => s!"unknown module kind '{kind}'"

namespace Catalog

def builtin : Catalog :=
  [.oscillator, .noise, .filter, .equalizer, .envelope, .lfo, .clock, .delay, .reverb, .amplifier,
   .mixer]

def find? (catalog : Catalog) (kind : String) : Option Kind :=
  List.find? (·.id == kind) catalog

def schema? (catalog : Catalog) (kind : String) : Option Schema :=
  (catalog.find? kind).map (·.schema)

def schema (catalog : Catalog) (kind : String) : Except CatalogError Schema :=
  match catalog.schema? kind with
  | some schema => .ok schema
  | none => .error (.unknownKind kind)

def inCategory (catalog : Catalog) (category : Category) : Catalog :=
  catalog.filter (·.category == category)

def ids (catalog : Catalog) : List String :=
  catalog.map (·.id)

end Catalog
end ModularSynth
