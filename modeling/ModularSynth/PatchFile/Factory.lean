import ModularSynth.PatchFile.Basic
import ModularSynth.Text.Lowercase

/-!
This module contains the factory patches, which can be used without a file.
-/

namespace ModularSynth
namespace Factory

def init : PatchFile where
  name := "Init"
  description := some "Single oscillator straight to the output"
  modules := [⟨"osc-1", "oscillator"⟩]
  connections := [⟨"osc-1/audio_out", "destination"⟩]

def basicSubtractive : PatchFile where
  name := "Basic Subtractive"
  description := some "Oscillator through a filter and amplifier, LFO on cutoff"
  modules :=
    [⟨"osc-1", "oscillator"⟩, ⟨"filt-1", "filter"⟩, ⟨"amp-1", "amplifier"⟩, ⟨"lfo-1", "lfo"⟩]
  connections :=
    [⟨"osc-1/audio_out", "filt-1/audio_in"⟩, ⟨"filt-1/audio_out", "amp-1/audio_in"⟩,
     ⟨"amp-1/audio_out", "destination"⟩, ⟨"lfo-1/cv_out", "filt-1/frequency"⟩]

def mixerBank : PatchFile where
  name := "Mixer Bank"
  description := some "Two oscillators and a noise source summed on an eight-channel mixer"
  modules :=
    [⟨"osc-1", "oscillator"⟩, ⟨"osc-2", "oscillator"⟩, ⟨"noise-1", "noise"⟩, ⟨"mix-1", "mixer"⟩]
  connections :=
    [⟨"osc-1/audio_out", "mix-1/inputs/1"⟩, ⟨"osc-2/audio_out", "mix-1/inputs/2"⟩,
     ⟨"noise-1/audio_out", "mix-1/inputs/3"⟩, ⟨"mix-1/audio_out", "destination"⟩]

def gatedVoice : PatchFile where
  name := "Gated Voice"
  description :=
    some <| "Clock-triggered envelope shaping an amplifier, "
      ++ "clock also hard-syncs the oscillator"
  modules :=
    [⟨"clock-1", "clock"⟩, ⟨"env-1", "envelope"⟩, ⟨"osc-1", "oscillator"⟩, ⟨"amp-1", "amplifier"⟩]
  connections :=
    [⟨"clock-1/gate_out", "env-1/gate_in"⟩, ⟨"clock-1/gate_out", "osc-1/sync_in"⟩,
     ⟨"env-1/cv_out", "amp-1/gain_cv"⟩, ⟨"osc-1/audio_out", "amp-1/audio_in"⟩,
     ⟨"amp-1/audio_out", "destination"⟩]

def ambient : PatchFile where
  name := "Ambient"
  description := some "Detuned pad through a swept filter, delay and reverb"
  modules :=
    [⟨"osc-1", "oscillator"⟩, ⟨"osc-2", "oscillator"⟩, ⟨"mix-1", "mixer"⟩, ⟨"filt-1", "filter"⟩,
     ⟨"lfo-1", "lfo"⟩, ⟨"delay-1", "delay"⟩, ⟨"verb-1", "reverb"⟩]
  connections :=
    [⟨"osc-1/audio_out", "mix-1/inputs/1"⟩, ⟨"osc-2/audio_out", "mix-1/inputs/2"⟩,
     ⟨"mix-1/audio_out", "filt-1/audio_in"⟩, ⟨"filt-1/audio_out", "delay-1/audio_in"⟩,
     ⟨"delay-1/audio_out", "verb-1/audio_in"⟩, ⟨"verb-1/audio_out", "destination"⟩,
     ⟨"lfo-1/cv_out", "filt-1/cutoff_cv"⟩, ⟨"lfo-1/cv_out", "osc-2/detune"⟩]

def all : List (String × PatchFile) :=
  [("init", init), ("basic_subtractive", basicSubtractive), ("mixer_bank", mixerBank),
   ("gated_voice", gatedVoice), ("ambient", ambient)]

def ids : List String :=
  all.map (·.1)

/-- The factory patch of that identifier, else the one of that name. Case does not count. -/
def find? (name : String) : Option PatchFile :=
  let wanted := lowercase name
  let byId := all.find? fun (id, _) => lowercase id == wanted
  let byName := all.find? fun (_, file) => lowercase file.name == wanted
  (byId <|> byName).map (·.2)

end Factory
end ModularSynth
