import Mathlib.Data.List.Forall2
import ModularSynth.PatchFile.Build
import ModularSynth.Proofs.Edits

/-!
This module contains what a patch file is built into: the module entries become the modules of the
rack and the connection entries become the connections of the wiring, one for each and in the order
of the file.
-/

namespace ModularSynth

open Except (bind_eq_ok_iff)

theorem Catalog.kind_of_schema? {catalog : Catalog} {kind : String} {schema : Schema}
    (h : catalog.schema? kind = some schema) : schema.kind = kind := by
  rcases Option.map_eq_some_iff.1 h with ⟨k, hk, rfl⟩
  simpa using List.find?_some hk

theorem Patch.endpoints_congr {p p' : Patch} (h : p'.rack = p.rack) (source target : String) :
    p'.endpoints source target = p.endpoints source target := by
  simp only [endpoints, resolve, h]

namespace PatchFile

variable {catalog : Catalog} {p p' : Patch}

theorem addModule_eq_ok_iff {m : ModuleEntry} :
    addModule catalog p m = .ok p' ↔
      ∃ schema, catalog.schema? m.kind = some schema ∧ (⟨m.id⟩ : ModuleId).isValid
        ∧ p.rack.find? ⟨m.id⟩ = none ∧ p' = { p with rack := p.rack ++ [⟨⟨m.id⟩, schema⟩] } := by
  rw [addModule]
  split
  . next hnone => simp [hnone]
  . next schema hschema =>
    have hadd : (∃ made, p.addModule ⟨m.id⟩ schema = (.ok made, p')) ↔
        (⟨m.id⟩ : ModuleId).isValid ∧ p.rack.find? ⟨m.id⟩ = none
          ∧ p' = { p with rack := p.rack ++ [⟨⟨m.id⟩, schema⟩] } := by
      simp [Patch.addModule_eq_ok_iff]
    rw [hschema]
    simp only [Option.some.injEq, exists_eq_left', ← hadd]
    split <;> simp_all

theorem addConnection_eq_ok_iff {index : Nat} {c : ConnectionEntry} :
    addConnection p index c = .ok p' ↔ ∃ made, p.propose c.source c.target = (.ok made, p') := by
  rw [addConnection]
  split <;> simp_all

/-- A connection entry denotes the endpoints of a connection. -/
def Denotes (p : Patch) (c : ConnectionEntry) (made : Connection) : Prop :=
  p.endpoints c.source c.target = .ok (made.source, made.target)

theorem of_foldlM_addModule {modules : List ModuleEntry}
    (h : modules.foldlM (addModule catalog) p = .ok p') :
    p'.wiring = p.wiring ∧ p'.rack.map (·.entry) = p.rack.map (·.entry) ++ modules := by
  induction modules generalizing p with
  | nil =>
    cases h
    simp
  | cons m rest ih =>
    rw [List.foldlM_cons] at h
    rcases bind_eq_ok_iff.1 h with ⟨_, hadd, h⟩
    rcases addModule_eq_ok_iff.1 hadd with ⟨schema, hschema, -, -, rfl⟩
    rcases ih h with ⟨hwiring, hrack⟩
    refine ⟨hwiring, ?_⟩
    have hentry : Module.entry ⟨⟨m.id⟩, schema⟩ = m := by
      rw [Module.entry, Module.kind, Catalog.kind_of_schema? hschema]
    rw [hrack, List.map_append, List.append_assoc, List.map_singleton, hentry,
      List.singleton_append]

theorem of_addConnections {index : Nat} {cs : List ConnectionEntry}
    (h : addConnections p index cs = .ok p') :
    p'.rack = p.rack ∧ ∃ made, p'.wiring = p.wiring ++ made ∧ List.Forall₂ (Denotes p) cs made := by
  induction cs generalizing p index with
  | nil =>
    cases h
    exact ⟨rfl, [], by simp, .nil⟩
  | cons c rest ih =>
    rcases bind_eq_ok_iff.1 h with ⟨_, hadd, h⟩
    rcases addConnection_eq_ok_iff.1 hadd with ⟨first, hpropose⟩
    rcases Patch.propose_eq_ok_iff.1 hpropose with ⟨sourceEnd, targetEnd, hends, hvalidate, rfl⟩
    rcases validate_eq_ok_iff.1 hvalidate with ⟨rfl, rfl, -⟩
    rcases ih h with ⟨hrack, made, hwiring, hmade⟩
    refine ⟨hrack, first :: made, ?_, .cons hends hmade⟩
    rw [hwiring, List.append_assoc, List.singleton_append]

theorem of_build {file : PatchFile} (h : file.build catalog = .ok p) :
    p.rack.map (·.entry) = file.modules ∧ List.Forall₂ (Denotes p) file.connections p.wiring := by
  rcases bind_eq_ok_iff.1 h with ⟨q, hmodules, hconnections⟩
  rcases of_foldlM_addModule hmodules with ⟨hwiring, hrack⟩
  rcases of_addConnections hconnections with ⟨hsame, made, hmade, hdenotes⟩
  constructor
  . rw [hsame]
    exact hrack
  . rw [hwiring] at hmade
    have heq : p.wiring = made := hmade
    rw [heq]
    apply hdenotes.imp
    intro c d hends
    rw [Denotes, Patch.endpoints_congr hsame]
    exact hends

end PatchFile
end ModularSynth
