import ModularSynth.Command.Run
import ModularSynth.Proofs.Capture
import ModularSynth.Proofs.Image
import ModularSynth.Proofs.Issues
import ModularSynth.Proofs.Engine.Mute

/-!
This module contains what the dry run of a patch file without problems comes to: the file is built,
and of its connections just those are skipped that a device emits which is said not to be ready.
-/

namespace ModularSynth

open Except (mapError_ok ok_bind)

namespace Command

theorem notReady_eq {bench : Bench} (hids : ∀ id d, bench.get? id = some d → d.id = id)
    {ids : List String} (h : ∀ id ∈ ids, (bench.get? ⟨id⟩).isSome) :
    notReady bench ids = .ok (bench.mute (ids.map ModuleId.mk)) := by
  induction ids generalizing bench with
  | nil => rw [notReady, List.map_nil, Bench.mute_nil]
  | cons id rest ih =>
    rcases List.forall_mem_cons.1 h with ⟨hid, hrest⟩
    rcases Option.isSome_iff_exists.1 hid with ⟨d, hd⟩
    have hready : bench.setReady ⟨id⟩ false
        = some (bench.insert ⟨id⟩ { d with ready := false }) := by
      rw [Bench.setReady, hd]
      rfl
    rw [notReady, hready]
    dsimp only
    rw [ih, List.map_cons, Bench.mute_insert hids hd]
    . intro id' d' hd'
      rw [SortedMap.get?_insert] at hd'
      split at hd'
      . next heq =>
        cases hd'
        rw [heq]
        exact hids _ d hd
      . exact hids id' d' hd'
    . intro id' hid'
      rw [SortedMap.get?_insert]
      split
      . rfl
      . exact hrest id' hid'

theorem checkFile_eq {file : PatchFile} {ids : List String} {p : Patch} {bench : Bench}
    (hissues : file.issues .builtin = []) (hbuild : file.build .builtin = .ok p)
    (hbench : notReady (.ofRack p.rack) ids = .ok bench) :
    checkFile file ids
      = .ok (unlines (compileSummary file (p.compile bench).2.1 (p.compile bench).2.2
          (p.compile bench).1)) := by
  rw [checkFile, hissues, hbuild, mapError_ok, if_neg (not_not_intro rfl), ok_bind, hbench,
    ok_bind]
  rfl

/-- Each module entry of a file that is built has a device on the bench for its rack. -/
theorem isSome_get?_ofRack {file : PatchFile} {p : Patch} (hbuild : file.build .builtin = .ok p)
    {id : String} (h : ∃ m ∈ file.modules, m.id = id) :
    ((Bench.ofRack p.rack).get? ⟨id⟩).isSome := by
  rcases h with ⟨entry, hentry, rfl⟩
  rw [← (PatchFile.of_build hbuild).1] at hentry
  rcases List.mem_map.1 hentry with ⟨m, hm, rfl⟩
  rw [Bench.get?_ofRack, Option.isSome_map, ← Rack.mem_ids_iff]
  exact List.mem_map_of_mem hm

/--
If a patch file has no problems and some of its modules are not ready, the file is built and its
check reports just those connections as skipped that are emitted by these modules. The live edges
are those of the other connections, each of them once.
-/
theorem checkFile_skips_notReady (file : PatchFile) (ids : List String)
    (hissues : file.issues .builtin = []) (hids : ∀ id ∈ ids, ∃ m ∈ file.modules, m.id = id) :
    ∃ p bench, file.build .builtin = .ok p ∧ notReady (.ofRack p.rack) ids = .ok bench ∧
      let muted := ids.map ModuleId.mk
      let report := (p.compile bench).1
      let after := (p.compile bench).2.2
      checkFile file ids
          = .ok (unlines (compileSummary file (p.compile bench).2.1 after report))
        ∧ List.Forall₂ (PatchFile.Denotes p) file.connections p.wiring
        ∧ report.skips = p.wiring.zipIdx.filterMap (fun x => x.1.mutedSkip? muted x.2)
        ∧ (after.liveEdges.map some).Perm
            ((p.wiring.filter (!·.isMuted muted)).map Connection.edge?)
        ∧ after.liveEdges.Nodup
        ∧ after.liveEdges.length = report.wired
        ∧ report.wired + report.skips.length = file.connections.length
        ∧ ∀ s ∈ report.skips, ∀ side e, s.cause ≠ .unresolved side e := by
  rcases (PatchFile.exists_build_iff .builtin file).2 hissues with ⟨p, hbuild⟩
  have hstorable : p.Storable .builtin := PatchFile.storable_build hbuild
  have hown : ∀ id d, (Bench.ofRack p.rack).get? id = some d → d.id = id := by
    intro id d hd
    exact Bench.id_of_get?_ofRack hd
  have hbench := notReady_eq hown fun id hid => isSome_get?_ofRack hbuild (hids id hid)
  refine ⟨p, _, hbuild, hbench, ?_⟩
  intro muted report after
  have hwired : p.wiring.WiredOn (.ofRack p.rack) :=
    hstorable.sound.wiring.wiredOn hstorable.made.distinctPorts (.ofRack p.rack)
  have hdenotes := (PatchFile.of_build hbuild).2
  have hreport : report = _ := Compile.compile_report p.wiring ((Bench.ofRack p.rack).mute muted)
  have hskips : report.skips = p.wiring.zipIdx.filterMap fun x => x.1.mutedSkip? muted x.2 := by
    rw [hreport]
    exact hwired.skipped_mute muted hown
  refine ⟨?_, hdenotes, hskips, ?_, ?_, ?_, ?_, ?_⟩
  . exact checkFile_eq hissues hbuild hbench
  . exact hwired.map_some_liveEdges_mute muted hown
  . exact hwired.liveEdges_mute_nodup muted hown hstorable.sound.wiring.apart
  . rw [hreport]
    exact (Bench.liveEdges_compile_of_ids (Bench.id_of_get?_mute muted hown) p.wiring).length_eq
  . rw [hdenotes.length_eq, hreport]
    exact Compile.length_wiredEdges_add_length_skipped p.wiring _
  . intro s hs side e
    rw [hskips] at hs
    rcases List.mem_filterMap.1 hs with ⟨x, -, hx⟩
    rcases Connection.cause_of_mutedSkip? hx with ⟨id, hcause⟩
    rw [hcause]
    exact nofun

/-- The mixer is still fed by all sources if it is not ready, but emits nothing. -/
theorem checkFile_skips_notReady_mixer :
    let file := Factory.mixerBank
    let ids := ["mix-1", "mix-1"]
    (file.issues .builtin = [] ∧ ∀ id ∈ ids, ∃ m ∈ file.modules, m.id = id)
      ∧ ∃ p bench, file.build .builtin = .ok p ∧ notReady (.ofRack p.rack) ids = .ok bench
        ∧ (p.compile bench).1.skips
            = [⟨3, ⟨.port ⟨"mix-1"⟩ "audio_out", .sink, .audio⟩, .engine (.notReady ⟨"mix-1"⟩)⟩]
        ∧ (p.compile bench).1.wired = 3 := by
  intro file ids
  have hissues : file.issues .builtin = [] := by decide +kernel
  have hids : ∀ id ∈ ids, ∃ m ∈ file.modules, m.id = id := by decide +kernel
  rcases checkFile_skips_notReady file ids hissues hids with
    ⟨p, bench, hbuild, hbench, -, -, hskips, -, -, -, hcount, -⟩
  have hmuted : (file.build .builtin).map (fun p =>
      p.wiring.zipIdx.filterMap fun x => x.1.mutedSkip? (ids.map ModuleId.mk) x.2)
        = .ok [⟨3, ⟨.port ⟨"mix-1"⟩ "audio_out", .sink, .audio⟩,
            .engine (.notReady ⟨"mix-1"⟩)⟩] := by
    decide +kernel
  rw [hbuild] at hmuted
  have hskips := hskips.trans (Except.ok.inj hmuted)
  refine ⟨⟨hissues, hids⟩, p, bench, hbuild, hbench, hskips, ?_⟩
  rw [hskips] at hcount
  exact Nat.add_right_cancel hcount

end Command
end ModularSynth
