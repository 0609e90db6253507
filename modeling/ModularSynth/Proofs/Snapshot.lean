import ModularSynth.Snapshot
import ModularSynth.Proofs.Catalog
import ModularSynth.Proofs.Patch

/-!
This module contains that nothing is lost in a snapshot: the texts of the endpoints of a rack are
all different, so the records of a snapshot tell the connections of the patch.
-/

namespace ModularSynth

namespace Endpoint

variable {rack : Rack} {e e' : Endpoint}
variable (hrack : rack.Addressable) (hids : ∀ m ∈ rack, m.id.isValid)
include hrack hids

theorem On.separator_notMem (h : e.On rack) :
    ∀ name ∈ e.address.names, Address.separator ∉ name.toList := by
  have howner : ∀ id, e.owner? = some id → Address.separator ∉ id.text.toList := by
    intro id hid
    rcases h.mem_rack hid with ⟨m, hm, rfl⟩
    exact Address.separator_notMem_of_isValid (hids m hm)
  cases h with
  | port hport | slot hport =>
    simp [address, Address.names, howner _ rfl, (hrack.isSegment_port hport).notMem]
  | param hschema hparam =>
    simp [address, Address.names, howner _ rfl, (hrack.isSegment_param hschema hparam).notMem]
  | sink => simp [address, Address.names]

/-- A port and a parameter of one name would have the same text, but no module has both. -/
theorem On.eq_of_text_eq (h : e.On rack) (h' : e'.On rack) (htext : e.text = e'.text) :
    e = e' := by
  have haddress : e.address = e'.address :=
    Address.eq_of_text_eq (h.separator_notMem hrack hids) (h'.separator_notMem hrack hids) htext
  have hresolve := resolve_address hrack.unambiguous h
  rw [haddress, resolve_address hrack.unambiguous h', Except.ok.injEq] at hresolve
  exact hresolve.symm

end Endpoint

theorem Connection.Admissible.eq_of_record_eq {rack : Rack} {c d : Connection}
    (hrack : rack.Addressable) (hids : ∀ m ∈ rack, m.id.isValid) (hc : c.Admissible rack)
    (hd : d.Admissible rack) (h : c.record = d.record) : c = d := by
  rcases hc.receives with ⟨kind, hreceives, -⟩
  rcases hd.receives with ⟨kind', hreceives', -⟩
  rw [record, record, ConnectionRecord.mk.injEq] at h
  have hsource : c.source = d.source :=
    Endpoint.On.eq_of_text_eq hrack hids (Endpoint.on_of_emits hrack.unambiguous hc.emits)
      (Endpoint.on_of_emits hrack.unambiguous hd.emits) h.1
  have htarget : c.target = d.target :=
    Endpoint.On.eq_of_text_eq hrack hids (Endpoint.on_of_receives hreceives)
      (Endpoint.on_of_receives hreceives') h.2.1
  cases c
  cases d
  simp_all

namespace Patch

theorem map_entry_eq_iff {rack rack' : Rack} :
    rack.map (·.entry) = rack'.map (·.entry) ↔
      rack.map (fun m => (m.id, m.kind)) = rack'.map fun m => (m.id, m.kind) := by
  let toEntry : ModuleId × String → ModuleEntry := fun m => ⟨m.1.text, m.2⟩
  have hinj : Function.Injective toEntry := by
    rintro ⟨id, kind⟩ ⟨id', kind'⟩ heq
    rw [ModuleEntry.mk.injEq] at heq
    rw [Prod.mk.injEq, ModuleId.ext_iff]
    exact heq
  have hentry : ∀ rack : Rack,
      rack.map (·.entry) = (rack.map fun m => (m.id, m.kind)).map toEntry := by
    intro rack
    rw [List.map_map]
    rfl
  rw [hentry, hentry, (List.map_injective_iff.2 hinj).eq_iff]

/--
Patches with modules of the built-in kinds have the same snapshot exactly if they have the same
modules, by id and kind and in the same order, and the same connections.
-/
theorem ofEdits_snapshot_eq_iff (edits edits' : List Edit)
    (hmade : (ofEdits edits).rack.MadeFrom .builtin)
    (hmade' : (ofEdits edits').rack.MadeFrom .builtin) :
    let p := ofEdits edits
    let q := ofEdits edits'
    p.snapshot = q.snapshot ↔
      p.rack.map (fun m => (m.id, m.kind)) = q.rack.map (fun m => (m.id, m.kind))
        ∧ p.wiring = q.wiring := by
  intro p q
  have hp : p.Sound := ofEdits_sound edits
  have hq : q.Sound := ofEdits_sound edits'
  rw [snapshot, snapshot, Snapshot.mk.injEq, map_entry_eq_iff]
  constructor
  . rintro ⟨hmodules, hrecords⟩
    refine ⟨hmodules, ?_⟩
    have hrack : p.rack = q.rack := hmade.eq_of_kinds Catalog.builtin_lawful hmade' hmodules
    have haddressable := hmade.addressable Catalog.builtin_lawful
    apply List.eq_of_map_eq _ hrecords
    intro c hc d hd hrecord
    have hd := hq.wiring.admissible d hd
    rw [← hrack] at hd
    exact (hp.wiring.admissible c hc).eq_of_record_eq haddressable hp.validIds hd hrecord
  . rintro ⟨hmodules, hwiring⟩
    exact ⟨hmodules, by rw [hwiring]⟩

/-- The first two patches differ in how they are made; the last has another `osc` connected. -/
theorem ofEdits_snapshot_eq_iff_blanks :
    let modules : List Edit :=
      [.addModule ⟨"osc"⟩ Kind.oscillator.schema, .addModule ⟨" osc"⟩ Kind.oscillator.schema,
        .addModule ⟨"mix"⟩ Kind.mixer.schema]
    let p := ofEdits (modules ++ [.connect (.port ⟨"osc"⟩ "audio_out") (.slot ⟨"mix"⟩ "inputs" 7)])
    let q := ofEdits (.addModule ⟨"mix"⟩ Kind.lfo.schema :: .removeModule ⟨"mix"⟩ :: modules ++
      [.propose " osc/audio_out" "mix/inputs/08", .propose "mix/audio_out" "mix/inputs/1"])
    let r := ofEdits (modules ++ [.connect (.port ⟨" osc"⟩ "audio_out") (.slot ⟨"mix"⟩ "inputs" 7)])
    p.rack.MadeFrom .builtin ∧ q.rack.MadeFrom .builtin ∧ r.rack.MadeFrom .builtin
      ∧ p.snapshot = q.snapshot ∧ p.wiring = q.wiring
      ∧ p.wiring ≠ r.wiring ∧ p.snapshot ≠ r.snapshot := by
  intro modules p q r
  have hp : p.rack.MadeFrom .builtin := by decide +kernel
  have hq : q.rack.MadeFrom .builtin := by decide +kernel
  have hr : r.rack.MadeFrom .builtin := by decide +kernel
  have hsame : p.snapshot = q.snapshot := by decide +kernel
  have hother : p.wiring ≠ r.wiring := by decide +kernel
  refine ⟨hp, hq, hr, hsame, ((ofEdits_snapshot_eq_iff _ _ hp hq).1 hsame).2, hother, ?_⟩
  intro heq
  exact hother ((ofEdits_snapshot_eq_iff _ _ hp hr).1 heq).2

end Patch
end ModularSynth
