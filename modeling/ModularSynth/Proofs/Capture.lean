import ModularSynth.Proofs.Build
import ModularSynth.Proofs.Catalog
import ModularSynth.Proofs.Patch

/-!
This module contains when a patch is built again from the file it was captured in: if no id of a
connected module has blanks at its ends, which the text of an address cannot hold. Patches that are
made of texts have no such connection.
-/

namespace ModularSynth

def Endpoint.Trimmed (e : Endpoint) : Prop :=
  ∀ id ∈ e.owner?, trimmed id.text = id.text

instance (e : Endpoint) : Decidable e.Trimmed :=
  inferInstanceAs (Decidable (∀ id ∈ e.owner?, trimmed id.text = id.text))

/-- No text denotes an endpoint of a module whose id has blanks at its ends. -/
theorem Address.trimmed_of_resolve {rack : Rack} {text : String} {a : Address} {e : Endpoint}
    (ha : Address.parse text = .ok a) (h : a.resolve rack = .ok e) : e.Trimmed := by
  intro id hid
  rw [owner?_of_resolve h] at hid
  exact (canonical_of_parse ha).trimmed hid

namespace Wiring

/-- No id of a connected module has blanks at its ends. -/
def Trimmed (wiring : Wiring) : Prop :=
  ∀ c ∈ wiring, c.source.Trimmed ∧ c.target.Trimmed

instance (wiring : Wiring) : Decidable wiring.Trimmed :=
  inferInstanceAs (Decidable (∀ c ∈ wiring, c.source.Trimmed ∧ c.target.Trimmed))

theorem Trimmed.sublist {wiring wiring' : Wiring} (h : wiring.Trimmed)
    (hsub : wiring'.Sublist wiring) : wiring'.Trimmed :=
  fun c hc => h c (hsub.mem hc)

end Wiring

namespace Patch

variable {p p' : Patch}

/-- The patches have the same modules, by id and kind, and the same connections. -/
def Alike (p p' : Patch) : Prop :=
  p.rack.map (·.entry) = p'.rack.map (·.entry) ∧ p.wiring = p'.wiring

def Edit.IsTextual : Edit → Prop
  | .connect .. => False
  | _ => True

theorem trimmed_of_endpoints {source target : String} {sourceEnd targetEnd : Endpoint}
    (h : p.endpoints source target = .ok (sourceEnd, targetEnd)) :
    sourceEnd.Trimmed ∧ targetEnd.Trimmed := by
  rcases endpoints_eq_ok_iff.1 h with ⟨a, b, ha, hb, hsource, htarget⟩
  exact ⟨Address.trimmed_of_resolve ha hsource, Address.trimmed_of_resolve hb htarget⟩

theorem trimmed_propose (hp : p.wiring.Trimmed) {source target : String} {c : Connection}
    (h : p.propose source target = (.ok c, p')) : p'.wiring.Trimmed := by
  rcases propose_eq_ok_iff.1 h with ⟨sourceEnd, targetEnd, hends, hvalidate, rfl⟩
  rcases validate_eq_ok_iff.1 hvalidate with ⟨rfl, rfl, -⟩
  intro d hd
  rcases List.mem_append.1 hd with hd | hd
  . exact hp d hd
  . rw [List.mem_singleton.1 hd]
    exact trimmed_of_endpoints hends

theorem trimmed_edit (hp : p.wiring.Trimmed) {e : Edit} (he : e.IsTextual) :
    (p.edit e).wiring.Trimmed := by
  -- Only a proposal adds a connection, and its ends are read from texts.
  cases e with
  | addModule id schema =>
    refine result_induction (motive := fun p' => p'.wiring.Trimmed) hp eq_of_addModule_error ?_
    intro _ _ h
    rcases addModule_eq_ok_iff.1 h with ⟨-, -, -, rfl⟩
    exact hp
  | removeModule id =>
    refine result_induction (motive := fun p' => p'.wiring.Trimmed) hp eq_of_removeModule_error ?_
    intro _ _ h
    rcases removeModule_eq_ok_iff.1 h with ⟨-, -, rfl⟩
    exact hp.sublist List.filter_sublist
  | propose source target =>
    refine result_induction (motive := fun p' => p'.wiring.Trimmed) hp eq_of_propose_error ?_
    intro _ _ h
    exact trimmed_propose hp h
  | connect source target => contradiction
  | remove source target => exact hp.sublist (p.wiring_remove_sublist source target)
  | disconnect source target => exact hp.sublist List.eraseP_sublist

section Texts

variable (h : p.Sound) (hrack : p.rack.Addressable)
include h hrack

theorem Sound.parse_text {e : Endpoint} (he : e.On p.rack) (htrim : e.Trimmed) :
    Address.parse e.text = .ok e.address := by
  apply Address.parse_text
  apply Endpoint.canonical_address hrack he
  intro id hid
  rcases he.mem_rack hid with ⟨m, hm, rfl⟩
  exact Address.isSegment_of_isValid (h.validIds m hm) (htrim m.id hid)

theorem Sound.endpoints_text {c : Connection} (hc : c ∈ p.wiring) (hsource : c.source.Trimmed)
    (htarget : c.target.Trimmed) :
    p.endpoints c.source.text c.target.text = .ok (c.source, c.target) := by
  have hadmissible := h.wiring.admissible c hc
  rcases hadmissible.receives with ⟨kind, hreceives, -⟩
  have hsourceOn := Endpoint.on_of_emits hrack.unambiguous hadmissible.emits
  have htargetOn := Endpoint.on_of_receives hreceives
  rw [endpoints_eq_ok_iff]
  refine ⟨c.source.address, c.target.address, ?_, ?_, ?_, ?_⟩
  . exact h.parse_text hrack hsourceOn hsource
  . exact h.parse_text hrack htargetOn htarget
  . exact Endpoint.resolve_address hrack.unambiguous hsourceOn
  . exact Endpoint.resolve_address hrack.unambiguous htargetOn

end Texts

/-- What a patch has to be for its file to hold all of it. -/
structure Storable (catalog : Catalog) (p : Patch) : Prop where
  sound : p.Sound
  made : p.rack.MadeFrom catalog
  trimmed : p.wiring.Trimmed

theorem empty_storable (catalog : Catalog) : empty.Storable catalog where
  sound := empty_sound
  made := by simp [empty, Rack.MadeFrom]
  trimmed := by simp [empty, Wiring.Trimmed]

end Patch

namespace PatchFile

theorem addModule_entry {catalog : Catalog} (hcatalog : catalog.Lawful) {p : Patch} {m : Module}
    (hmade : ∃ kind ∈ catalog, kind.schema = m.schema) (hvalid : m.id.isValid)
    (hnew : p.rack.find? m.id = none) :
    addModule catalog p m.entry = .ok { p with rack := p.rack ++ [m] } := by
  rcases hmade with ⟨kind, hkind, heq⟩
  have hschema : catalog.schema? m.entry.kind = some m.schema := by
    rw [← heq, ← hcatalog.schema? hkind, Kind.id, heq]
    rfl
  exact addModule_eq_ok_iff.2 ⟨m.schema, hschema, hvalid, hnew, rfl⟩

theorem foldlM_addModule {catalog : Catalog} (hcatalog : catalog.Lawful) {p : Patch} {rack : Rack}
    (hmade : rack.MadeFrom catalog) (hvalid : ∀ m ∈ rack, m.id.isValid)
    (hids : (Rack.ids (p.rack ++ rack)).Nodup) :
    (rack.map (·.entry)).foldlM (addModule catalog) p = .ok { p with rack := p.rack ++ rack } := by
  induction rack generalizing p with
  | nil =>
    rw [List.append_nil]
    rfl
  | cons m rest ih =>
    rcases List.forall_mem_cons.1 hvalid with ⟨hm, hrest⟩
    rcases List.forall_mem_cons.1 hmade with ⟨hkind, hmade⟩
    -- All ids together are distinct, so the next one is not in the rack yet.
    have hnew : p.rack.find? m.id = none := by
      rw [← Option.not_isSome_iff_eq_none, ← Rack.mem_ids_iff]
      intro hold
      rw [Rack.ids, List.map_append] at hids
      exact (List.nodup_append.1 hids).2.2 _ hold _ List.mem_cons_self rfl
    rw [List.map_cons, List.foldlM_cons, addModule_entry hcatalog hkind hm hnew, Except.ok_bind]
    rw [← List.singleton_append, ← List.append_assoc] at hids
    rw [ih hmade hrest hids, List.append_assoc]
    rfl

theorem addConnections_entries {p : Patch} {cs : List Connection} (index : Nat)
    (hvalid : Wiring.Valid p.rack (p.wiring ++ cs))
    (hread : ∀ c ∈ cs, p.endpoints c.source.text c.target.text = .ok (c.source, c.target)) :
    addConnections p index (cs.map (·.entry)) = .ok { p with wiring := p.wiring ++ cs } := by
  induction cs generalizing p index with
  | nil =>
    rw [List.append_nil]
    rfl
  | cons c rest ih =>
    rcases List.forall_mem_cons.1 hread with ⟨hc, hrest⟩
    rw [← List.singleton_append, ← List.append_assoc] at hvalid
    have hfirst := hvalid.sublist (List.sublist_append_left _ _)
    have hpropose := Patch.propose_eq_ok_iff.2
      ⟨_, _, hc, (Wiring.Valid.append_iff.1 hfirst).1, rfl⟩
    have hadd : addConnection p index c.entry = .ok { p with wiring := p.wiring ++ [c] } :=
      addConnection_eq_ok_iff.2 ⟨c, hpropose⟩
    rw [List.map_cons, addConnections, hadd, Except.ok_bind]
    -- The longer wiring is on the same rack, so the texts of the rest denote what they did.
    rw [ih (p := { p with wiring := p.wiring ++ [c] }) (index + 1) hvalid hrest, List.append_assoc]
    rfl

theorem build_ofPatch {catalog : Catalog} (hcatalog : catalog.Lawful) {p : Patch}
    (h : p.Storable catalog) (name : String) :
    (ofPatch name p).build catalog = .ok ⟨p.rack, p.wiring, .none⟩ := by
  have hmodules : (p.rack.map (·.entry)).foldlM (addModule catalog) .empty
      = .ok { Patch.empty with rack := p.rack } :=
    foldlM_addModule hcatalog h.made h.sound.validIds h.sound.distinctIds
  have htexts : ∀ c ∈ p.wiring,
      p.endpoints c.source.text c.target.text = .ok (c.source, c.target) :=
    fun c hc => h.sound.endpoints_text (h.made.addressable hcatalog) hc (h.trimmed c hc).1
      (h.trimmed c hc).2
  have hconnections := addConnections_entries (p := { Patch.empty with rack := p.rack }) 0
    h.sound.wiring htexts
  rw [build, ofPatch, hmodules, Except.ok_bind, hconnections]
  rfl

section Build

variable {catalog : Catalog} {p p' : Patch}

theorem storable_addModule (hp : p.Storable catalog) {m : ModuleEntry}
    (h : addModule catalog p m = .ok p') : p'.Storable catalog := by
  rcases addModule_eq_ok_iff.1 h with ⟨schema, hschema, hvalid, hnew, rfl⟩
  have hadd : p.addModule ⟨m.id⟩ schema
      = (.ok ⟨⟨m.id⟩, schema⟩, { p with rack := p.rack ++ [⟨⟨m.id⟩, schema⟩] }) :=
    Patch.addModule_eq_ok_iff.2 ⟨hvalid, hnew, rfl, rfl⟩
  refine ⟨hp.sound.change (Patch.addModule_change hadd), ?_, hp.trimmed⟩
  intro m hm
  rcases List.mem_append.1 hm with hm | hm
  . exact hp.made m hm
  . rw [List.mem_singleton.1 hm]
    rcases Option.map_eq_some_iff.1 hschema with ⟨kind, hkind, heq⟩
    exact ⟨kind, List.mem_of_find?_eq_some hkind, heq⟩

theorem storable_addConnection (hp : p.Storable catalog) {index : Nat} {c : ConnectionEntry}
    (h : addConnection p index c = .ok p') : p'.Storable catalog := by
  rcases addConnection_eq_ok_iff.1 h with ⟨made, hpropose⟩
  refine ⟨hp.sound.change (Patch.propose_change hpropose), ?_, ?_⟩
  . rcases Patch.propose_eq_ok_iff.1 hpropose with ⟨_, _, -, -, rfl⟩
    exact hp.made
  . exact Patch.trimmed_propose hp.trimmed hpropose

theorem storable_addConnections (hp : p.Storable catalog) {index : Nat}
    {cs : List ConnectionEntry} (h : addConnections p index cs = .ok p') :
    p'.Storable catalog := by
  induction cs generalizing p index with
  | nil =>
    cases h
    exact hp
  | cons c rest ih =>
    rcases Except.bind_eq_ok_iff.1 h with ⟨_, hadd, h⟩
    exact ih (storable_addConnection hp hadd) h

theorem storable_foldlM (hp : p.Storable catalog) {modules : List ModuleEntry}
    (h : modules.foldlM (addModule catalog) p = .ok p') : p'.Storable catalog := by
  induction modules generalizing p with
  | nil =>
    cases h
    exact hp
  | cons m rest ih =>
    rw [List.foldlM_cons] at h
    rcases Except.bind_eq_ok_iff.1 h with ⟨_, hadd, h⟩
    exact ih (storable_addModule hp hadd) h

theorem storable_build {file : PatchFile} (h : file.build catalog = .ok p) :
    p.Storable catalog := by
  rcases Except.bind_eq_ok_iff.1 h with ⟨_, hmodules, hconnections⟩
  exact storable_addConnections (storable_foldlM (Patch.empty_storable catalog) hmodules)
    hconnections

end Build

/--
A patch with modules of the built-in kinds is built again from its file exactly if no id of a
connected module has blanks at its ends. A patch that textual edits make of the empty one or of one
that was built is always built again, and its file then stays the same.
-/
theorem ofPatch_rebuilds (name : String) :
    (∀ edits : List Patch.Edit,
        let p := Patch.ofEdits edits
        p.rack.MadeFrom .builtin →
          ((∃ q, (ofPatch name p).build .builtin = .ok q ∧ q.Alike p) ↔ p.wiring.Trimmed))
      ∧ (∀ (start : Patch) (edits : List Patch.Edit),
          (start = .empty ∨ ∃ file : PatchFile, file.build .builtin = .ok start) →
          (∀ e ∈ edits, e.IsTextual) →
          let p := edits.foldl Patch.edit start
          p.rack.MadeFrom .builtin →
            ∃ q, (ofPatch name p).build .builtin = .ok q ∧ q.Alike p
              ∧ ofPatch name q = ofPatch name p) := by
  constructor
  . intro edits p hmade
    constructor
    . -- A patch that was built was made of texts, so its ids have lost their blanks.
      rintro ⟨q, hbuild, -, hwiring⟩
      rw [← hwiring]
      exact (storable_build hbuild).trimmed
    . intro htrim
      have hp : p.Storable .builtin := ⟨Patch.ofEdits_sound edits, hmade, htrim⟩
      exact ⟨_, build_ofPatch Catalog.builtin_lawful hp name, rfl, rfl⟩
  . intro start edits hstart hedits p hmade
    have hstart : start.Storable .builtin := by
      rcases hstart with rfl | ⟨file, hbuild⟩
      . exact Patch.empty_storable .builtin
      . exact storable_build hbuild
    have hp : p.Storable .builtin := by
      refine ⟨?_, hmade, ?_⟩
      . apply List.foldlRecOn edits Patch.edit hstart.sound
        intro p h e _
        exact h.change (Patch.edit_change p e)
      . apply List.foldlRecOn (motive := fun p => p.wiring.Trimmed) edits Patch.edit hstart.trimmed
        intro p h e he
        exact Patch.trimmed_edit h (hedits e he)
    exact ⟨_, build_ofPatch Catalog.builtin_lawful hp name, ⟨rfl, rfl⟩, rfl⟩

def feedMixer (id : ModuleId) : List Patch.Edit :=
  [.addModule id Kind.oscillator.schema, .addModule ⟨"mix"⟩ Kind.mixer.schema,
    .connect (.port id "audio_out") (.slot ⟨"mix"⟩ "inputs" 7)]

/-- An id may hold a blank but not end in one. Blanks in the texts of a file do not matter. -/
theorem ofPatch_rebuilds_mixer :
    let inner := Patch.ofEdits (feedMixer ⟨"osc 1"⟩)
    let outer := Patch.ofEdits (feedMixer ⟨"osc "⟩)
    let file : PatchFile := ⟨"Mixer", none, [⟨"osc", "oscillator"⟩, ⟨"mix", "mixer"⟩],
      [⟨" osc / audio_out", "mix/inputs/08 "⟩]⟩
    let start := Patch.ofEdits (feedMixer ⟨"osc"⟩)
    let edits := [Patch.Edit.propose "mix/audio_out" "destination",
      .remove "osc/audio_out" "mix/inputs/8"]
    let later := edits.foldl Patch.edit start
    (inner.rack.MadeFrom .builtin ∧ inner.wiring.length = 1
        ∧ ∃ q, (ofPatch "Mixer" inner).build .builtin = .ok q ∧ q.Alike inner)
      ∧ (outer.rack.MadeFrom .builtin ∧ outer.wiring.length = 1
        ∧ ¬∃ q, (ofPatch "Mixer" outer).build .builtin = .ok q ∧ q.Alike outer)
      ∧ (file.build .builtin = .ok start ∧ (∀ e ∈ edits, e.IsTextual)
        ∧ later.rack.MadeFrom .builtin ∧ later.wiring.length = 1
        ∧ ∃ q, (ofPatch "Mixer" later).build .builtin = .ok q ∧ q.Alike later
          ∧ ofPatch "Mixer" q = ofPatch "Mixer" later) := by
  intro inner outer file start edits later
  have hinner : inner.rack.MadeFrom .builtin := by decide +kernel
  have houter : outer.rack.MadeFrom .builtin := by decide +kernel
  have hlater : later.rack.MadeFrom .builtin := by decide +kernel
  have hbuild : file.build .builtin = .ok start := by decide +kernel
  have hedits : ∀ e ∈ edits, e.IsTextual := by simp [edits, Patch.Edit.IsTextual]
  refine ⟨⟨hinner, by decide +kernel, ?_⟩, ⟨houter, by decide +kernel, ?_⟩,
    hbuild, hedits, hlater, by decide +kernel, ?_⟩
  . apply ((ofPatch_rebuilds "Mixer").1 (feedMixer ⟨"osc 1"⟩) hinner).2
    decide +kernel
  . rw [(ofPatch_rebuilds "Mixer").1 (feedMixer ⟨"osc "⟩) houter]
    decide +kernel
  . exact (ofPatch_rebuilds "Mixer").2 start edits (.inr ⟨file, hbuild⟩) hedits hlater

end PatchFile

end ModularSynth
