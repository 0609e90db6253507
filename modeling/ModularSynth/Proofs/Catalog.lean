import ModularSynth.Catalog
import ModularSynth.Proofs.List
import ModularSynth.Proofs.Resolve

/-!
This module contains what holds of the kinds of a catalog, and that it holds of the built-in ones.
-/

namespace ModularSynth
namespace Catalog

/-- The kinds have ids of their own, and addresses denote the endpoints of their modules. -/
structure Lawful (catalog : Catalog) : Prop where
  distinctIds : catalog.ids.Nodup
  addressable : ∀ kind ∈ catalog, kind.schema.Addressable

theorem Lawful.schema? {catalog : Catalog} (h : catalog.Lawful) {kind : Kind}
    (hkind : kind ∈ catalog) : catalog.schema? kind.id = some kind.schema := by
  rw [Catalog.schema?, find?, List.find?_key_of_mem h.distinctIds hkind]
  rfl

theorem Lawful.schema_eq_of_kind_eq {catalog : Catalog} (h : catalog.Lawful) {m m' : Module}
    (hm : ∃ kind ∈ catalog, kind.schema = m.schema)
    (hm' : ∃ kind ∈ catalog, kind.schema = m'.schema) (heq : m.kind = m'.kind) :
    m.schema = m'.schema := by
  rcases hm with ⟨kind, hkind, hschema⟩
  rcases hm' with ⟨kind', hkind', hschema'⟩
  have hid : kind.id = kind'.id := by
    rw [Kind.id, hschema, Kind.id, hschema']
    exact heq
  have hfind := h.schema? hkind
  rw [hid, h.schema? hkind', Option.some.injEq] at hfind
  rw [← hschema, ← hschema', hfind]

theorem builtin_lawful : builtin.Lawful where
  distinctIds := by decide
  addressable := by
    have hports : ∀ kind ∈ builtin, ∀ port ∈ kind.schema.ports,
        Address.IsSegment port.name.toList ∧ (port.direction = .source → port.isBank = false) := by
      decide
    have hparams : ∀ kind ∈ builtin, ∀ name ∈ kind.schema.params,
        Address.IsSegment name.toList ∧ kind.schema.port? name = none := by
      decide
    intro kind hkind
    constructor
    . exact fun port hport => (hports kind hkind port hport).1
    . exact fun name hname => (hparams kind hkind name hname).1
    . exact fun name hname => (hparams kind hkind name hname).2
    . exact fun port hport => (hports kind hkind port hport).2

theorem builtin_distinctPorts : ∀ kind ∈ builtin, (kind.schema.ports.map (·.name)).Nodup := by
  decide

end Catalog

/-- Each module has the schema of a kind of the catalog. -/
def Rack.MadeFrom (catalog : Catalog) (rack : Rack) : Prop :=
  ∀ m ∈ rack, ∃ kind ∈ catalog, kind.schema = m.schema

instance (catalog : Catalog) (rack : Rack) : Decidable (rack.MadeFrom catalog) :=
  inferInstanceAs (Decidable (∀ m ∈ rack, ∃ kind ∈ catalog, kind.schema = m.schema))

theorem Rack.MadeFrom.addressable {catalog : Catalog} (hcatalog : catalog.Lawful) {rack : Rack}
    (h : rack.MadeFrom catalog) : rack.Addressable := by
  intro m hm
  rcases h m hm with ⟨kind, hkind, heq⟩
  rw [← heq]
  exact hcatalog.addressable kind hkind

theorem Rack.MadeFrom.eq_of_kinds {catalog : Catalog} (hcatalog : catalog.Lawful)
    {rack rack' : Rack} (h : rack.MadeFrom catalog) (h' : rack'.MadeFrom catalog)
    (heq : rack.map (fun m => (m.id, m.kind)) = rack'.map fun m => (m.id, m.kind)) :
    rack = rack' := by
  apply List.eq_of_map_eq _ heq
  intro m hm m' hm' hsame
  rw [Prod.mk.injEq] at hsame
  rcases hsame with ⟨hid, hkind⟩
  have hschema := hcatalog.schema_eq_of_kind_eq (h m hm) (h' m' hm') hkind
  cases m
  cases m'
  simp_all

theorem Rack.MadeFrom.distinctPorts {rack : Rack} (h : rack.MadeFrom .builtin) :
    ∀ m ∈ rack, (m.schema.ports.map (·.name)).Nodup := by
  intro m hm
  rcases h m hm with ⟨kind, hkind, heq⟩
  rw [← heq]
  exact Catalog.builtin_distinctPorts kind hkind

end ModularSynth
