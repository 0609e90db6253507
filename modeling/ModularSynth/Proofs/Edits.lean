import ModularSynth.Patch
import ModularSynth.Proofs.Validation

/-!
This module contains when each edit of a patch succeeds and what it then makes of the patch.
-/

namespace ModularSynth
namespace Patch

open Except (bind_eq_ok_iff mapError_eq_ok_iff)

variable {p p' : Patch}

section Modules

variable {id : ModuleId} {schema : Schema} {fault : EditError}

theorem addModule_eq_ok_iff {m : Module} :
    p.addModule id schema = (.ok m, p') ↔
      id.isValid ∧ p.rack.find? id = none ∧ m = ⟨id, schema⟩
        ∧ p' = { p with rack := p.rack ++ [m] } := by
  rw [addModule]
  split
  . next hvalid => simp_all
  . next hvalid =>
    split
    . next hold =>
      rw [Option.isSome_iff_ne_none] at hold
      simp [hold]
    . next hnew =>
      have hvalid : id.isValid = true := by simpa using hvalid
      rw [Option.not_isSome_iff_eq_none] at hnew
      simp only [Prod.mk.injEq, Except.ok.injEq, hvalid, hnew, true_and]
      constructor
      . rintro ⟨rfl, rfl⟩
        exact ⟨rfl, rfl⟩
      . rintro ⟨rfl, rfl⟩
        exact ⟨rfl, rfl⟩

theorem removeModule_eq_ok_iff {purged : Nat} :
    p.removeModule id = (.ok purged, p') ↔
      (p.rack.find? id).isSome ∧ purged = p.wiring.touching id
        ∧ p' = { p with rack := p.rack.erase id, wiring := p.wiring.disconnectModule id } := by
  rw [removeModule]
  split
  . next hold => simp [hold, eq_comm]
  . next hnone => simp [hnone]

theorem eq_of_addModule_error (h : p.addModule id schema = (.error fault, p')) : p' = p := by
  rw [addModule] at h
  split at h
  . cases h
    rfl
  . split at h <;> cases h
    rfl

theorem eq_of_removeModule_error (h : p.removeModule id = (.error fault, p')) : p' = p := by
  rw [removeModule] at h
  split at h <;> cases h
  rfl

end Modules

section Endpoints

variable {source target : Endpoint}

theorem connect_eq_ok_iff {c : Connection} :
    p.connect source target = (.ok c, p') ↔
      validate p.rack p.wiring source target = .ok c
        ∧ p' = { p with wiring := p.wiring ++ [c] } := by
  rw [connect]
  cases hconnect : p.wiring.connect p.rack source target with
  | mk result wiring =>
    simp only [Prod.mk.injEq, mapError_eq_ok_iff]
    constructor
    . rintro ⟨rfl, rfl⟩
      rcases Wiring.connect_eq_ok_iff.1 hconnect with ⟨hvalidate, rfl⟩
      exact ⟨hvalidate, rfl⟩
    . rintro ⟨hvalidate, rfl⟩
      have hok := Wiring.connect_eq_ok_iff.2 ⟨hvalidate, rfl⟩
      rw [hconnect] at hok
      cases hok
      exact ⟨rfl, rfl⟩

theorem connect_eq_error_iff {fault : EditError} :
    p.connect source target = (.error fault, p') ↔
      (∃ rejection, validate p.rack p.wiring source target = .error rejection
          ∧ fault = .rejected rejection)
        ∧ p' = p := by
  rw [connect]
  cases hconnect : p.wiring.connect p.rack source target with
  | mk result wiring =>
    simp only [Prod.mk.injEq, Except.mapError_eq_error_iff]
    constructor
    . rintro ⟨⟨rejection, rfl, rfl⟩, rfl⟩
      rcases Wiring.connect_eq_error_iff.1 hconnect with ⟨hvalidate, rfl⟩
      exact ⟨⟨rejection, hvalidate, rfl⟩, rfl⟩
    . rintro ⟨⟨rejection, hvalidate, rfl⟩, rfl⟩
      have herror := Wiring.connect_eq_error_iff.2 ⟨hvalidate, rfl⟩
      rw [hconnect] at herror
      cases herror
      exact ⟨⟨rejection, rfl, rfl⟩, rfl⟩

theorem eq_of_connect_error {fault : EditError}
    (h : p.connect source target = (.error fault, p')) : p' = p := by
  exact (connect_eq_error_iff.1 h).2

end Endpoints

section Texts

variable {source target : String} {fault : EditError}

theorem endpoints_eq_ok_iff {sourceEnd targetEnd : Endpoint} :
    p.endpoints source target = .ok (sourceEnd, targetEnd) ↔
      ∃ a b, Address.parse source = .ok a ∧ Address.parse target = .ok b
        ∧ a.resolve p.rack = .ok sourceEnd ∧ b.resolve p.rack = .ok targetEnd := by
  simp only [endpoints, parse, resolve, bind_eq_ok_iff, mapError_eq_ok_iff, pure, Except.pure,
    Except.ok.injEq, Prod.mk.injEq]
  constructor
  . rintro ⟨a, ha, b, hb, _, hsource, _, htarget, rfl, rfl⟩
    exact ⟨a, b, ha, hb, hsource, htarget⟩
  . rintro ⟨a, b, ha, hb, hsource, htarget⟩
    exact ⟨a, ha, b, hb, _, hsource, _, htarget, rfl, rfl⟩

theorem propose_of_endpoints {sourceEnd targetEnd : Endpoint}
    (h : p.endpoints source target = .ok (sourceEnd, targetEnd)) :
    p.propose source target = p.connect sourceEnd targetEnd := by
  rw [propose, h]

theorem propose_of_endpoints_error (h : p.endpoints source target = .error fault) :
    p.propose source target = (.error fault, p) := by
  rw [propose, h]

theorem propose_eq_ok_iff {c : Connection} :
    p.propose source target = (.ok c, p') ↔
      ∃ sourceEnd targetEnd, p.endpoints source target = .ok (sourceEnd, targetEnd)
        ∧ validate p.rack p.wiring sourceEnd targetEnd = .ok c
        ∧ p' = { p with wiring := p.wiring ++ [c] } := by
  cases hends : p.endpoints source target with
  | error fault => simp [propose_of_endpoints_error hends]
  | ok ends =>
    rw [propose_of_endpoints hends, connect_eq_ok_iff]
    simp [Prod.ext_iff]

theorem propose_eq_error_iff_endpoints :
    p.propose source target = (.error fault, p') ↔
      (p.endpoints source target = .error fault
          ∨ ∃ sourceEnd targetEnd rejection, p.endpoints source target = .ok (sourceEnd, targetEnd)
              ∧ validate p.rack p.wiring sourceEnd targetEnd = .error rejection
              ∧ fault = .rejected rejection)
        ∧ p' = p := by
  cases hends : p.endpoints source target with
  | error fault' => simp [propose_of_endpoints_error hends, eq_comm]
  | ok ends =>
    rw [propose_of_endpoints hends, connect_eq_error_iff]
    simp [Prod.ext_iff]

theorem eq_of_propose_error (h : p.propose source target = (.error fault, p')) : p' = p := by
  exact (propose_eq_error_iff_endpoints.1 h).2

theorem remove_of_endpoints {sourceEnd targetEnd : Endpoint}
    (h : p.endpoints source target = .ok (sourceEnd, targetEnd)) :
    p.remove source target = (.ok (p.wiring.linked sourceEnd targetEnd),
      { p with wiring := p.wiring.disconnect sourceEnd targetEnd }) := by
  rcases endpoints_eq_ok_iff.1 h with ⟨a, b, ha, hb, hsource, htarget⟩
  simp only [remove, parse, ha, hb, Except.mapError_ok, hsource, htarget, disconnect]

/-- Everything a removal can do. -/
theorem remove_cases (p : Patch) (source target : String) :
    (∃ sourceEnd targetEnd, p.endpoints source target = .ok (sourceEnd, targetEnd)
        ∧ p.remove source target = (.ok (p.wiring.linked sourceEnd targetEnd),
            { p with wiring := p.wiring.disconnect sourceEnd targetEnd }))
      ∨ (∃ a b, Address.parse source = .ok a ∧ Address.parse target = .ok b
          ∧ p.remove source target = (.ok false, p))
      ∨ (∃ fault, Address.parse source = .error fault
          ∧ p.remove source target = (.error (.address .source fault), p))
      ∨ ∃ a fault, Address.parse source = .ok a ∧ Address.parse target = .error fault
          ∧ p.remove source target = (.error (.address .target fault), p) := by
  cases ha : Address.parse source with
  | error fault => exact .inr (.inr (.inl ⟨fault, rfl, by simp [remove, parse, ha]⟩))
  | ok a =>
    cases hb : Address.parse target with
    | error fault =>
      exact .inr (.inr (.inr ⟨a, fault, rfl, rfl, by simp [remove, parse, ha, hb]⟩))
    | ok b =>
      cases hsource : a.resolve p.rack with
      | error fault =>
        exact .inr (.inl ⟨a, b, rfl, rfl, by simp [remove, parse, ha, hb, hsource]⟩)
      | ok sourceEnd =>
        cases htarget : b.resolve p.rack with
        | error fault =>
          exact .inr (.inl ⟨a, b, rfl, rfl, by simp [remove, parse, ha, hb, hsource, htarget]⟩)
        | ok targetEnd =>
          have hends := endpoints_eq_ok_iff.2 ⟨a, b, ha, hb, hsource, htarget⟩
          exact .inl ⟨sourceEnd, targetEnd, hends, remove_of_endpoints hends⟩

/-- A removal says that it removed something only if both texts denote linked endpoints. -/
theorem remove_eq_ok_true_iff :
    p.remove source target = (.ok true, p') ↔
      ∃ sourceEnd targetEnd, p.endpoints source target = .ok (sourceEnd, targetEnd)
        ∧ p.wiring.linked sourceEnd targetEnd
        ∧ p' = { p with wiring := p.wiring.disconnect sourceEnd targetEnd } := by
  constructor
  . intro h
    rcases p.remove_cases source target with
      ⟨sourceEnd, targetEnd, hends, heq⟩ | ⟨_, _, -, -, heq⟩ | ⟨_, -, heq⟩ | ⟨_, _, -, -, heq⟩
    . rw [heq, Prod.mk.injEq, Except.ok.injEq] at h
      exact ⟨sourceEnd, targetEnd, hends, h.1, h.2.symm⟩
    all_goals
      rw [heq] at h
      cases h
  . rintro ⟨sourceEnd, targetEnd, hends, hlinked, rfl⟩
    rw [remove_of_endpoints hends, hlinked]

theorem remove_eq_error_iff :
    p.remove source target = (.error fault, p') ↔
      ((∃ f, Address.parse source = .error f ∧ fault = .address .source f)
        ∨ ∃ a f, Address.parse source = .ok a ∧ Address.parse target = .error f
          ∧ fault = .address .target f)
      ∧ p' = p := by
  rcases p.remove_cases source target with
    ⟨_, _, hends, heq⟩ | ⟨a, b, ha, hb, heq⟩ | ⟨f, hf, heq⟩ | ⟨a, f, ha, hf, heq⟩
  . rcases endpoints_eq_ok_iff.1 hends with ⟨a, b, ha, hb, -⟩
    simp [heq, ha, hb]
  . simp [heq, ha, hb]
  . simp [heq, hf, eq_comm]
  . simp [heq, ha, hf, eq_comm]

theorem wiring_remove_sublist (p : Patch) (source target : String) :
    (p.remove source target).2.wiring.Sublist p.wiring := by
  rcases p.remove_cases source target with
    ⟨_, _, -, heq⟩ | ⟨_, _, -, -, heq⟩ | ⟨_, -, heq⟩ | ⟨_, _, -, -, heq⟩ <;> rw [heq]
  exact List.eraseP_sublist

theorem rack_remove (p : Patch) (source target : String) :
    (p.remove source target).2.rack = p.rack := by
  rcases p.remove_cases source target with
    ⟨_, _, -, heq⟩ | ⟨_, _, -, -, heq⟩ | ⟨_, -, heq⟩ | ⟨_, _, -, -, heq⟩ <;> rw [heq]

theorem eq_of_remove_error (h : p.remove source target = (.error fault, p')) : p' = p := by
  exact (remove_eq_error_iff.1 h).2

end Texts

end Patch
end ModularSynth
