import Mathlib.Data.List.Nodup
import ModularSynth.Resolve
import ModularSynth.Proofs.Except

/-!
This module contains what look-ups in a rack find, and which of them an added or an erased module
leaves alone.
-/

namespace ModularSynth
namespace Rack

open Except (bind_eq_ok_iff)

variable {rack : Rack} {id : ModuleId}

theorem mem_ids_iff : id ∈ rack.ids ↔ (rack.find? id).isSome := by
  simp [ids, find?]

theorem schema?_isSome_iff : (rack.schema? id).isSome ↔ (rack.find? id).isSome := by
  simp [schema?]

theorem schema_eq_ok_iff {schema : Schema} :
    rack.schema id = .ok schema ↔ ∃ m, rack.find? id = some m ∧ m.schema = schema := by
  unfold Rack.schema schema?
  cases rack.find? id <;> simp

theorem port_eq_ok_iff {name : String} {port : Port} :
    rack.port id name = .ok port ↔
      ∃ m, rack.find? id = some m ∧ m.schema.port? name = some port := by
  simp only [Rack.port, bind_eq_ok_iff, schema_eq_ok_iff]
  constructor
  . rintro ⟨_, ⟨m, hm, rfl⟩, hport⟩
    refine ⟨m, hm, ?_⟩
    split at hport
    . next h =>
      cases hport
      exact h
    . contradiction
  . rintro ⟨m, hm, hport⟩
    refine ⟨m.schema, ⟨m, hm, rfl⟩, ?_⟩
    rw [hport]

theorem schema?_isSome_of_schema {schema : Schema} (h : rack.schema id = .ok schema) :
    (rack.schema? id).isSome := by
  rcases schema_eq_ok_iff.1 h with ⟨m, hm, -⟩
  rw [schema?_isSome_iff, hm]
  rfl

theorem schema?_isSome_of_port {name : String} {port : Port} (h : rack.port id name = .ok port) :
    (rack.schema? id).isSome := by
  rcases port_eq_ok_iff.1 h with ⟨m, hm, -⟩
  rw [schema?_isSome_iff, hm]
  rfl

theorem id_of_find? {m : Module} (h : rack.find? id = some m) : m.id = id := by
  simpa using List.find?_some h

theorem find?_append (m : Module) (h : (rack.find? id).isSome) :
    find? (rack ++ [m]) id = rack.find? id := by
  rw [find?] at h
  rw [find?, List.find?_append, Option.or_of_isSome h]
  rfl

theorem find?_erase_of_ne {erased : ModuleId} (h : id ≠ erased) :
    (rack.erase erased).find? id = rack.find? id := by
  induction rack with
  | nil => rfl
  | cons m rest ih =>
    unfold erase find? at ih ⊢
    rw [List.eraseP_cons]
    cases hm : m.id == erased with
    | true =>
      rw [cond_true, List.find?_cons_of_neg]
      rw [eq_of_beq hm, beq_iff_eq]
      exact h.symm
    | false =>
      rw [cond_false, List.find?_cons, List.find?_cons]
      split
      . rfl
      . exact ih

theorem find?_erase_self (hids : rack.ids.Nodup) : (rack.erase id).find? id = none := by
  induction rack with
  | nil => rfl
  | cons m rest ih =>
    rw [ids, List.map_cons, List.nodup_cons] at hids
    unfold erase find? at ih ⊢
    rw [List.eraseP_cons]
    cases hm : m.id == id with
    | true =>
      rw [cond_true, List.find?_eq_none]
      intro m' hm' heq
      apply hids.1
      rw [eq_of_beq hm, ← eq_of_beq heq]
      exact List.mem_map_of_mem hm'
    | false =>
      rw [cond_false, List.find?_cons, hm]
      exact ih hids.2

theorem exists_erase (hids : rack.ids.Nodup) (h : (rack.find? id).isSome) :
    ∃ before m behind, rack = before ++ m :: behind ∧ m.id = id
      ∧ (∀ m' ∈ before ++ behind, m'.id ≠ id) ∧ rack.erase id = before ++ behind := by
  rcases Option.isSome_iff_exists.1 h with ⟨m, hm⟩
  have hid : m.id = id := id_of_find? hm
  rcases List.append_of_mem (List.mem_of_find?_eq_some hm) with ⟨before, behind, hrack⟩
  have hothers : ∀ m' ∈ before ++ behind, m'.id ≠ id := by
    rw [ids, hrack, List.map_append, List.map_cons, List.nodup_middle, List.nodup_cons, hid] at hids
    intro m' hm' heq
    apply hids.1
    rw [← heq, ← List.map_append]
    exact List.mem_map_of_mem hm'
  refine ⟨before, m, behind, hrack, hid, hothers, ?_⟩
  rw [erase, hrack, List.eraseP_append_right, List.eraseP_cons_of_pos]
  . simpa using hid
  . intro m' hm'
    simpa using hothers m' (List.mem_append_left _ hm')

theorem schema?_append (m : Module) (h : (rack.schema? id).isSome) :
    schema? (rack ++ [m]) id = rack.schema? id := by
  rw [schema?_isSome_iff] at h
  rw [schema?, find?_append m h, schema?]

theorem schema?_erase_of_ne {erased : ModuleId} (h : id ≠ erased) :
    (rack.erase erased).schema? id = rack.schema? id := by
  rw [schema?, find?_erase_of_ne h, schema?]

end Rack
end ModularSynth
