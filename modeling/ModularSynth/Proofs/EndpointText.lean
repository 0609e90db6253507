import ModularSynth.Proofs.Capture

/-!
This module contains which endpoints of a patch are found by their texts, and which connections are
removed by them: those on modules whose ids have no blanks at their ends. A patch accepts other ids
as well, but the texts of such a module denote another module or none.
-/

namespace ModularSynth

/-- The endpoints that the schema of a module declares. A bank is declared slot by slot. -/
inductive Module.Declares (m : Module) : Endpoint → Prop
  | port {port : Port} (hport : port ∈ m.schema.ports) (hbank : port.isBank = false) :
    m.Declares (.port m.id port.name)
  | slot {port : Port} {index : UInt64} (hport : port ∈ m.schema.ports) (hbank : port.isBank)
    (hindex : index < port.slots) : m.Declares (.slot m.id port.name index)
  | param {name : String} (hname : name ∈ m.schema.params) : m.Declares (.param m.id name)

namespace Module.Declares

variable {m : Module} {e : Endpoint}

theorem owner?_eq (h : m.Declares e) : e.owner? = some m.id := by
  cases h <;> rfl

theorem on {rack : Rack} (h : m.Declares e) (hids : rack.ids.Nodup) (hm : m ∈ rack)
    (hports : (m.schema.ports.map (·.name)).Nodup) : e.On rack := by
  have hfind : rack.find? m.id = some m := List.find?_key_of_mem hids hm
  cases h with
  | @port port hport hbank =>
    have hnamed : m.schema.port? port.name = some port := List.find?_key_of_mem hports hport
    exact .port (Rack.port_eq_ok_iff.2 ⟨m, hfind, hnamed⟩) hbank
  | @slot port index hport hbank hindex =>
    have hnamed : m.schema.port? port.name = some port := List.find?_key_of_mem hports hport
    exact .slot (Rack.port_eq_ok_iff.2 ⟨m, hfind, hnamed⟩) hbank hindex
  | param hname =>
    apply Endpoint.On.param (Rack.schema_eq_ok_iff.2 ⟨m, hfind, rfl⟩)
    simpa [Schema.hasParam] using hname

end Module.Declares

namespace Patch

variable {p p' : Patch}

section Texts

variable (h : p.Sound) (hrack : p.rack.Addressable)
include h hrack

theorem endpoint_text_iff {e : Endpoint} (he : e.On p.rack) :
    p.rack.endpoint e.text = .ok e ↔ e.Trimmed := by
  rw [Rack.endpoint_eq_ok_iff]
  constructor
  . rintro ⟨a, ha, hresolve⟩
    exact Address.trimmed_of_resolve ha hresolve
  . intro htrim
    exact ⟨e.address, h.parse_text hrack he htrim, Endpoint.resolve_address hrack.unambiguous he⟩

theorem remove_text_iff {c : Connection} (hc : c ∈ p.wiring) :
    p.remove c.source.text c.target.text = (.ok true, { p with wiring := p.wiring.erase c }) ↔
      c.source.Trimmed ∧ c.target.Trimmed := by
  rw [remove_eq_ok_true_iff]
  constructor
  . rintro ⟨sourceEnd, targetEnd, hends, hlinked, heq⟩
    rcases linked_iff.1 hlinked with ⟨d, hd, rfl, rfl⟩
    -- The connection that was removed is the only one that is missing, so it is this one.
    have herase : p.wiring.erase c = p.wiring.erase d := by
      rw [← h.wiring.disconnect_eq_erase hd]
      exact congrArg Patch.wiring heq
    have heq : d = c := by
      apply Decidable.byContradiction
      intro hne
      apply h.wiring.nodup.not_mem_erase (a := d)
      rw [← herase]
      exact (h.wiring.nodup.mem_erase_iff).2 ⟨hne, hd⟩
    rw [heq] at hends
    exact trimmed_of_endpoints hends
  . rintro ⟨hsource, htarget⟩
    refine ⟨c.source, c.target, h.endpoints_text hrack hc hsource htarget, ?_, ?_⟩
    . exact linked_iff.2 ⟨c, hc, rfl, rfl⟩
    . rw [h.wiring.disconnect_eq_erase hc]

end Texts

/--
The texts of a patch with modules of the built-in kinds are good for the modules whose ids have no
blanks at their ends, and for no others: each endpoint of such a module is found by its text, and
each connection between such modules is removed by its two texts.
-/
theorem ofEdits_texts (edits : List Edit) (hmade : (ofEdits edits).rack.MadeFrom .builtin) :
    let p := ofEdits edits
    (∀ m ∈ p.rack, ∀ e, m.Declares e →
        (p.rack.endpoint e.text = .ok e ↔ trimmed m.id.text = m.id.text))
      ∧ (∀ c ∈ p.wiring,
          p.remove c.source.text c.target.text = (.ok true, { p with wiring := p.wiring.erase c })
            ↔ c.source.Trimmed ∧ c.target.Trimmed) := by
  intro p
  have hsound : p.Sound := ofEdits_sound edits
  have hrack := hmade.addressable Catalog.builtin_lawful
  constructor
  . intro m hm e he
    have hon := he.on hsound.distinctIds hm (hmade.distinctPorts m hm)
    rw [endpoint_text_iff hsound hrack hon, Endpoint.Trimmed, he.owner?_eq]
    simp
  . intro c hc
    exact remove_text_iff hsound hrack hc

/-- Two oscillators whose ids differ by a blank, both of them connected to the destination. -/
def twins : List Edit :=
  [.addModule ⟨"osc"⟩ Kind.oscillator.schema, .addModule ⟨" osc"⟩ Kind.oscillator.schema,
    .connect (.port ⟨"osc"⟩ "audio_out") .sink, .connect (.port ⟨" osc"⟩ "audio_out") .sink]

/-- The text of the output of one denotes that of the other, which the removal takes off. -/
theorem ofEdits_texts_twins :
    let p := ofEdits twins
    let e : Endpoint := .port ⟨" osc"⟩ "audio_out"
    let c : Connection := ⟨e, .sink, .audio⟩
    let other : Connection := ⟨.port ⟨"osc"⟩ "audio_out", .sink, .audio⟩
    p.rack.MadeFrom .builtin ∧ (∃ m ∈ p.rack, m.Declares e) ∧ p.wiring = [other, c]
      ∧ p.rack.endpoint e.text = .ok other.source
      ∧ p.remove e.text Endpoint.sink.text = (.ok true, { p with wiring := [c] }) := by
  refine ⟨by decide +kernel, ?_, by decide +kernel, by decide +kernel, by decide +kernel⟩
  have hport : Port.source "audio_out" .audio ∈ Kind.oscillator.schema.ports := by decide
  have hdeclares := Module.Declares.port (m := ⟨⟨" osc"⟩, Kind.oscillator.schema⟩) hport rfl
  exact ⟨_, by decide +kernel, hdeclares⟩

/-- An id may hold a blank inside it. The slots of a bank are found one by one. -/
theorem ofEdits_texts_mixer :
    let edits := [Edit.addModule ⟨"osc 1"⟩ Kind.oscillator.schema,
      .addModule ⟨"mix"⟩ Kind.mixer.schema,
      .connect (.port ⟨"osc 1"⟩ "audio_out") (.slot ⟨"mix"⟩ "inputs" 7)]
    let p := ofEdits edits
    let slot : Endpoint := .slot ⟨"mix"⟩ "inputs" 7
    p.rack.MadeFrom .builtin ∧ p.wiring.length = 1 ∧ slot.text = "mix/inputs/8"
      ∧ p.rack.endpoint slot.text = .ok slot
      ∧ p.remove "osc 1/audio_out" slot.text = (.ok true, { p with wiring := [] }) := by
  intro edits p slot
  have hmade : p.rack.MadeFrom .builtin := by decide +kernel
  have htexts := ofEdits_texts edits hmade
  refine ⟨hmade, by decide +kernel, by decide +kernel, ?_, ?_⟩
  . have hport : ⟨"inputs", .sink, .audio, mixerChannels⟩ ∈ Kind.mixer.schema.ports := by decide
    have hindex : (7 : UInt64) < mixerChannels := by decide
    have hdeclares := Module.Declares.slot (m := ⟨⟨"mix"⟩, Kind.mixer.schema⟩) hport rfl hindex
    apply (htexts.1 _ (by decide +kernel) slot hdeclares).2
    decide +kernel
  . apply (htexts.2 ⟨.port ⟨"osc 1"⟩ "audio_out", slot, .audio⟩ (by decide +kernel)).2
    decide +kernel

end Patch

end ModularSynth
