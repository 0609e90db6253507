import ModularSynth.Catalog
import ModularSynth.Proofs.Interference
import ModularSynth.Proofs.Patch
import ModularSynth.Proofs.Resolve

/-!
This module contains that a removal takes back a proposal, whatever texts name the endpoints: it
takes off the one connection of the endpoints, and changes nothing if they are not connected.
-/

namespace ModularSynth

theorem not_linked_of_validate {rack : Rack} {wiring : Wiring} {source target : Endpoint}
    {c : Connection} (h : validate rack wiring source target = .ok c) :
    wiring.linked source target = false := by
  rcases validate_eq_ok_iff.1 h with ⟨rfl, rfl, -, hfree⟩
  rw [← Bool.not_eq_true, linked_iff]
  rintro ⟨d, hd, hsource, htarget⟩
  exact hfree d hd ⟨htarget.symm, .inl hsource.symm⟩

namespace Patch

variable {p p' : Patch} {source target : String} {c : Connection}

theorem endpoints_eq_ok_iff_endpoint {sourceEnd targetEnd : Endpoint} :
    p.endpoints source target = .ok (sourceEnd, targetEnd) ↔
      p.rack.endpoint source = .ok sourceEnd ∧ p.rack.endpoint target = .ok targetEnd := by
  rw [endpoints_eq_ok_iff, Rack.endpoint_eq_ok_iff, Rack.endpoint_eq_ok_iff]
  constructor
  . rintro ⟨a, b, ha, hb, hsource, htarget⟩
    exact ⟨⟨a, ha, hsource⟩, ⟨b, hb, htarget⟩⟩
  . rintro ⟨⟨a, ha, hsource⟩, ⟨b, hb, htarget⟩⟩
    exact ⟨a, b, ha, hb, hsource, htarget⟩

section Proposed

variable (h : p.propose source target = (.ok c, p'))
include h

theorem endpoint_of_propose :
    p.rack.endpoint source = .ok c.source ∧ p.rack.endpoint target = .ok c.target := by
  rcases propose_eq_ok_iff.1 h with ⟨sourceEnd, targetEnd, hends, hvalidate, -⟩
  rcases validate_eq_ok_iff.1 hvalidate with ⟨rfl, rfl, -⟩
  exact endpoints_eq_ok_iff_endpoint.1 hends

theorem propose_append :
    validate p.rack p.wiring c.source c.target = .ok c
      ∧ p' = { p with wiring := p.wiring ++ [c] } := by
  rcases propose_eq_ok_iff.1 h with ⟨_, _, -, hvalidate, rfl⟩
  exact ⟨validate_ends hvalidate, rfl⟩

variable {source' target' : String}
variable (hends : p'.endpoints source' target' = .ok (c.source, c.target))
include hends

theorem remove_propose : p'.remove source' target' = (.ok true, p) := by
  rcases propose_append h with ⟨hvalidate, rfl⟩
  apply remove_eq_ok_true_iff.2
  refine ⟨c.source, c.target, hends, linked_iff.2 ⟨c, by simp, rfl, rfl⟩, ?_⟩
  dsimp only
  rw [Wiring.disconnect_append_cons (not_linked_of_validate hvalidate), List.append_nil]

theorem propose_propose :
    p'.propose source' target' = (.error (.rejected (.duplicate c.source c.target)), p') := by
  rcases propose_append h with ⟨hvalidate, rfl⟩
  -- The connection clashes with itself.
  have hclash := Wiring.validate_append_of_clashes hvalidate (d := c) ⟨rfl, .inl rfl⟩
  exact propose_eq_error_iff_endpoints.2 ⟨.inr ⟨_, _, _, hends, hclash, rfl⟩, rfl⟩

end Proposed

theorem remove_eq_ok_false (h : p.remove source target = (.ok false, p')) : p' = p := by
  rcases p.remove_cases source target with
    ⟨_, _, -, heq⟩ | ⟨_, _, -, -, heq⟩ | ⟨_, -, heq⟩ | ⟨_, _, -, -, heq⟩
  . rw [heq, Prod.mk.injEq, Except.ok.injEq] at h
    rw [← h.2, Wiring.disconnect_of_not_linked h.1]
  . cases heq.symm.trans h
    rfl
  all_goals cases heq.symm.trans h

theorem Sound.disconnect_eq (h : p.Sound) {before behind : Wiring}
    (hwiring : p.wiring = before ++ c :: behind) :
    p.wiring.disconnect c.source c.target = before ++ behind := by
  -- The connection is the only one of its endpoints, so it is the one that is found.
  have hvalid := h.wiring
  rw [hwiring] at hvalid ⊢
  exact Wiring.disconnect_append_cons hvalid.not_linked_before

theorem Sound.remove_eq_ok_true_iff (h : p.Sound) :
    p.remove source target = (.ok true, p') ↔
      ∃ before c behind, p.wiring = before ++ c :: behind
        ∧ p.rack.endpoint source = .ok c.source ∧ p.rack.endpoint target = .ok c.target
        ∧ p' = { p with wiring := before ++ behind } := by
  rw [Patch.remove_eq_ok_true_iff]
  constructor
  . rintro ⟨sourceEnd, targetEnd, hends, hlinked, rfl⟩
    rcases linked_iff.1 hlinked with ⟨c, hc, rfl, rfl⟩
    rcases List.append_of_mem hc with ⟨before, behind, hwiring⟩
    rcases endpoints_eq_ok_iff_endpoint.1 hends with ⟨hsource, htarget⟩
    refine ⟨before, c, behind, hwiring, hsource, htarget, ?_⟩
    rw [h.disconnect_eq hwiring]
  . rintro ⟨before, c, behind, hwiring, hsource, htarget, rfl⟩
    refine ⟨c.source, c.target, endpoints_eq_ok_iff_endpoint.2 ⟨hsource, htarget⟩, ?_, ?_⟩
    . exact linked_iff.2 ⟨c, by simp [hwiring], rfl, rfl⟩
    . rw [h.disconnect_eq hwiring]

/--
A removal takes back a proposal, however its endpoints are spelled, and proposing them again changes
nothing. Any removal takes off one connection of the patch, the one that its texts denote, or else
nothing at all, and it fails only for a text that is no address.
-/
theorem ofEdits_propose_remove (edits : List Edit) :
    let p := ofEdits edits
    (∀ source target c p', p.propose source target = (.ok c, p') →
        ∀ source' target', p.rack.endpoint source' = p.rack.endpoint source →
          p.rack.endpoint target' = p.rack.endpoint target →
            p'.remove source' target' = (.ok true, p)
              ∧ p'.propose source' target'
                  = (.error (.rejected (.duplicate c.source c.target)), p'))
      ∧ (∀ source target p', p.remove source target = (.ok true, p') ↔
          ∃ before c behind, p.wiring = before ++ c :: behind
            ∧ p.rack.endpoint source = .ok c.source ∧ p.rack.endpoint target = .ok c.target
            ∧ p' = { p with wiring := before ++ behind })
      ∧ (∀ source target, (¬∃ p', p.remove source target = (.ok true, p')) →
          p.edit (.remove source target) = p)
      ∧ (∀ source target e p', p.remove source target = (.error e, p') ↔
          ((∃ fault, Address.parse source = .error fault ∧ e = .address .source fault)
            ∨ ∃ a fault, Address.parse source = .ok a ∧ Address.parse target = .error fault
              ∧ e = .address .target fault)
          ∧ p' = p) := by
  intro p
  have hsound : p.Sound := ofEdits_sound edits
  refine ⟨?_, fun _ _ _ => hsound.remove_eq_ok_true_iff, ?_, fun _ _ _ _ => remove_eq_error_iff⟩
  . intro source target c p' h source' target' hsource htarget
    rcases endpoint_of_propose h with ⟨hsourceEnd, htargetEnd⟩
    have hrack : p'.rack = p.rack := by rw [(propose_append h).2]
    have hends : p'.endpoints source' target' = .ok (c.source, c.target) := by
      rw [endpoints_eq_ok_iff_endpoint, hrack, hsource, htarget]
      exact ⟨hsourceEnd, htargetEnd⟩
    exact ⟨remove_propose h hends, propose_propose h hends⟩
  . intro source target hnone
    refine result_induction (motive := fun p' => p' = p) rfl eq_of_remove_error ?_
    intro removed p' h
    cases removed with
    | true => exact absurd ⟨p', h⟩ hnone
    | false => exact remove_eq_ok_false h

/-- An output is given by its only slot and a slot with a sign, and both with blanks. -/
theorem ofEdits_propose_remove_mixer :
    let p := ofEdits [.addModule ⟨"osc"⟩ Kind.oscillator.schema,
      .addModule ⟨"mix"⟩ Kind.mixer.schema]
    let c : Connection := ⟨.port ⟨"osc"⟩ "audio_out", .slot ⟨"mix"⟩ "inputs" 7, .audio⟩
    let p' : Patch := { p with wiring := [c] }
    let source := " osc/audio_out / 01"
    let target := "mix/inputs/ +8"
    p.propose "osc/audio_out" "mix/inputs/8" = (.ok c, p')
      ∧ p.rack.endpoint source = p.rack.endpoint "osc/audio_out"
      ∧ p.rack.endpoint target = p.rack.endpoint "mix/inputs/8"
      ∧ p'.remove source target = (.ok true, p)
      ∧ p'.propose source target = (.error (.rejected (.duplicate c.source c.target)), p')
      ∧ (¬∃ q, p.remove source target = (.ok true, q))
      ∧ p.edit (.remove source target) = p := by
  intro p c p' source target
  have hpropose : p.propose "osc/audio_out" "mix/inputs/8" = (.ok c, p') := by decide +kernel
  have hsource : p.rack.endpoint source = p.rack.endpoint "osc/audio_out" := by decide +kernel
  have htarget : p.rack.endpoint target = p.rack.endpoint "mix/inputs/8" := by decide +kernel
  have hnone : ¬∃ q, p.remove source target = (.ok true, q) := by
    have hfalse : p.remove source target = (.ok false, p) := by decide +kernel
    rw [hfalse]
    rintro ⟨q, hq⟩
    cases hq
  have hremoval := ofEdits_propose_remove
    [.addModule ⟨"osc"⟩ Kind.oscillator.schema, .addModule ⟨"mix"⟩ Kind.mixer.schema]
  have hback := hremoval.1 _ _ c p' hpropose source target hsource htarget
  exact ⟨hpropose, hsource, htarget, hback.1, hback.2, hnone, hremoval.2.2.1 _ _ hnone⟩

end Patch
end ModularSynth
