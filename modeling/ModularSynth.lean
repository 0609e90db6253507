import ModularSynth.Catalog
import ModularSynth.Command.Run
import ModularSynth.Engine.PartialHost
import ModularSynth.Json.Codec
import ModularSynth.LivePatch
import ModularSynth.Main
import ModularSynth.PatchFile.Storage
import ModularSynth.Proofs.Patch
import ModularSynth.Proofs.Rebuild
import ModularSynth.Proofs.Reorder
import ModularSynth.Proofs.Wirable
import ModularSynth.Proofs.Engine.Fits
import ModularSynth.Proofs.Edits
import ModularSynth.Proofs.LivePatch
import ModularSynth.Proofs.Image
import ModularSynth.Proofs.Mirror
import ModularSynth.Proofs.Address
import ModularSynth.Proofs.Workbench
import ModularSynth.Proofs.Build
import ModularSynth.Proofs.Capture
import ModularSynth.Proofs.Issues
import ModularSynth.Proofs.Engine.Mute
import ModularSynth.Proofs.DryRun
import ModularSynth.Proofs.Engine.Host
import ModularSynth.Proofs.PartialHost
import ModularSynth.Proofs.Grammar
import ModularSynth.Proofs.Verdict
import ModularSynth.Proofs.EndpointText
import ModularSynth.Proofs.Denotation
import ModularSynth.Proofs.Interference
import ModularSynth.Proofs.Removal
import ModularSynth.Proofs.Effect
import ModularSynth.Proofs.Engine.Outcome
import ModularSynth.Proofs.SlotNumber
import ModularSynth.Proofs.Snapshot
import ModularSynth.Proofs.Engine.Sound
import ModularSynth.Proofs.Codec
import ModularSynth.Proofs.Observation
