import ModularSynth.Proofs.Proposal

/-!
This module contains what each edit does to a patch and what it leaves alone, depending on its
answer.
-/

namespace ModularSynth
namespace Patch

inductive Answer
  | added (m : Module)
  | purged (connections : Nat)
  | connected (c : Connection)
  | removed (linked : Bool)
  deriving DecidableEq

/-- The answer to an edit. What the edit makes of the patch is `Patch.edit`. -/
def answer (p : Patch) : Edit → Except EditError Answer
  | .addModule id schema => (p.addModule id schema).1.map .added
  | .removeModule id => (p.removeModule id).1.map .purged
  | .propose source target => (p.propose source target).1.map .connected
  | .connect source target => (p.connect source target).1.map .connected
  | .remove source target => (p.remove source target).1.map .removed
  | .disconnect source target => .ok (.removed (p.disconnect source target).1)

/-- What an edit that has been answered has done to a patch. -/
inductive Effect (p : Patch) : Edit → Except EditError Answer → Patch → Prop
  | failed (e : Edit) (fault : EditError) : Effect p e (.error fault) p
  | added {id : ModuleId} {schema : Schema} (hnew : ∀ m ∈ p.rack, m.id ≠ id) :
    Effect p (.addModule id schema) (.ok (.added ⟨id, schema⟩))
      { p with rack := p.rack ++ [⟨id, schema⟩] }
  | purged {m : Module} {before behind : Rack} (hrack : p.rack = before ++ m :: behind)
    (hothers : ∀ m' ∈ before ++ behind, m'.id ≠ m.id) :
    Effect p (.removeModule m.id)
      (.ok (.purged (p.wiring.countP fun c =>
        c.source.owner? = some m.id ∨ c.target.owner? = some m.id)))
      { p with
        rack := before ++ behind
        wiring := p.wiring.filter fun c =>
          c.source.owner? ≠ some m.id ∧ c.target.owner? ≠ some m.id }
  | proposed {source target : String} {c : Connection}
    (hsource : p.rack.endpoint source = .ok c.source)
    (htarget : p.rack.endpoint target = .ok c.target) :
    Effect p (.propose source target) (.ok (.connected c)) { p with wiring := p.wiring ++ [c] }
  | connected {c : Connection} :
    Effect p (.connect c.source c.target) (.ok (.connected c)) { p with wiring := p.wiring ++ [c] }
  | removed {source target : String} {c : Connection} {before behind : Wiring}
    (hwiring : p.wiring = before ++ c :: behind)
    (hsource : p.rack.endpoint source = .ok c.source)
    (htarget : p.rack.endpoint target = .ok c.target) :
    Effect p (.remove source target) (.ok (.removed true)) { p with wiring := before ++ behind }
  | notRemoved {source target : String}
    (hnone : ∀ c ∈ p.wiring, p.rack.endpoint source = .ok c.source →
      p.rack.endpoint target ≠ .ok c.target) :
    Effect p (.remove source target) (.ok (.removed false)) p
  | disconnected {c : Connection} {before behind : Wiring}
    (hwiring : p.wiring = before ++ c :: behind) :
    Effect p (.disconnect c.source c.target) (.ok (.removed true))
      { p with wiring := before ++ behind }
  | notDisconnected {source target : Endpoint}
    (hnone : ∀ c ∈ p.wiring, c.source = source → c.target ≠ target) :
    Effect p (.disconnect source target) (.ok (.removed false)) p

section Effect

variable {p p' : Patch}

theorem Effect.eq_of_error {e : Edit} {fault : EditError} (h : p.Effect e (.error fault) p') :
    p' = p := by
  cases h
  rfl

theorem effect_of_result {α : Type} {e : Edit} {f : α → Answer}
    {result : Except EditError α × Patch}
    (hfailed : ∀ {fault p'}, result = (.error fault, p') → p' = p)
    (h : ∀ {a p'}, result = (.ok a, p') → p.Effect e (.ok (f a)) p') :
    p.Effect e (result.1.map f) result.2 := by
  rcases result with ⟨fault | a, p'⟩
  . rw [hfailed rfl]
    exact .failed e fault
  . exact h rfl

theorem addModule_effect {id : ModuleId} {schema : Schema} {m : Module}
    (h : p.addModule id schema = (.ok m, p')) :
    p.Effect (.addModule id schema) (.ok (.added m)) p' := by
  rcases addModule_eq_ok_iff.1 h with ⟨-, hnew, rfl, rfl⟩
  apply Effect.added
  simpa [Rack.find?] using hnew

theorem Sound.removeModule_effect (hsound : p.Sound) {id : ModuleId} {purged : Nat}
    (h : p.removeModule id = (.ok purged, p')) :
    p.Effect (.removeModule id) (.ok (.purged purged)) p' := by
  rcases removeModule_eq_ok_iff.1 h with ⟨hold, rfl, rfl⟩
  rcases Rack.exists_erase hsound.distinctIds hold with
    ⟨before, m, behind, hrack, rfl, hothers, herase⟩
  rw [herase, Wiring.touching_eq, Wiring.disconnectModule_eq]
  exact .purged hrack hothers

theorem propose_effect {source target : String} {c : Connection}
    (h : p.propose source target = (.ok c, p')) :
    p.Effect (.propose source target) (.ok (.connected c)) p' := by
  rcases endpoint_of_propose h with ⟨hsource, htarget⟩
  rw [(propose_append h).2]
  exact .proposed hsource htarget

theorem connect_effect {source target : Endpoint} {c : Connection}
    (h : p.connect source target = (.ok c, p')) :
    p.Effect (.connect source target) (.ok (.connected c)) p' := by
  rcases connect_eq_ok_iff.1 h with ⟨hvalidate, rfl⟩
  rcases validate_eq_ok_iff.1 hvalidate with ⟨rfl, rfl, -⟩
  exact .connected

theorem Sound.remove_effect (hsound : p.Sound) {source target : String} {linked : Bool}
    (h : p.remove source target = (.ok linked, p')) :
    p.Effect (.remove source target) (.ok (.removed linked)) p' := by
  cases linked with
  | true =>
    rcases hsound.remove_eq_ok_true_iff.1 h with
      ⟨before, c, behind, hwiring, hsource, htarget, rfl⟩
    exact .removed hwiring hsource htarget
  | false =>
    rw [remove_eq_ok_false h]
    apply Effect.notRemoved
    intro c hc hsource htarget
    rcases List.append_of_mem hc with ⟨before, behind, hwiring⟩
    have hremoved := hsound.remove_eq_ok_true_iff.2
      ⟨before, c, behind, hwiring, hsource, htarget, rfl⟩
    rw [h] at hremoved
    cases hremoved

theorem Sound.disconnect_effect (hsound : p.Sound) (source target : Endpoint) :
    p.Effect (.disconnect source target) (p.answer (.disconnect source target))
      (p.edit (.disconnect source target)) := by
  rw [answer, edit, disconnect]
  cases hlinked : p.wiring.linked source target with
  | true =>
    rcases linked_iff.1 hlinked with ⟨c, hc, rfl, rfl⟩
    rcases List.append_of_mem hc with ⟨before, behind, hwiring⟩
    rw [hsound.disconnect_eq hwiring]
    exact .disconnected hwiring
  | false =>
    rw [Wiring.disconnect_of_not_linked hlinked]
    apply Effect.notDisconnected
    intro c hc hsource htarget
    rw [linked_iff.2 ⟨c, hc, hsource, htarget⟩] at hlinked
    contradiction

theorem Sound.effect (hsound : p.Sound) (e : Edit) : p.Effect e (p.answer e) (p.edit e) := by
  cases e with
  | addModule id schema => exact effect_of_result eq_of_addModule_error addModule_effect
  | removeModule id => exact effect_of_result eq_of_removeModule_error hsound.removeModule_effect
  | propose source target => exact effect_of_result eq_of_propose_error propose_effect
  | connect source target => exact effect_of_result eq_of_connect_error connect_effect
  | remove source target => exact effect_of_result eq_of_remove_error hsound.remove_effect
  | disconnect source target => exact hsound.disconnect_effect source target

end Effect

/--
After any edits and with any observers, each further edit changes no more than it is meant to, and
none if it fails. A connection can be made exactly if it can be proposed. The error of a proposal is
about the first thing that its texts lack.
-/
theorem ofEdits_effect (edits : List Edit) (observers : Observers) :
    let p : Patch := { ofEdits edits with observers := observers }
    (∀ e, p.Effect e (p.answer e) (p.edit e))
      ∧ (∀ e fault, p.answer e = .error fault → p.edit e = p)
      ∧ (∀ source target, p.canConnect source target ↔
          ∃ c p', p.propose source target = (.ok c, p'))
      ∧ ∀ source target fault p', p.propose source target = (.error fault, p') ↔
          (∃ d : Demand, d.FirstUnmet p source target ∧ d.Reports p source target fault)
            ∧ p' = p := by
  intro p
  have hedits := ofEdits_sound edits
  have hsound : p.Sound := ⟨hedits.validIds, hedits.distinctIds, hedits.wiring⟩
  refine ⟨hsound.effect, ?_, fun _ _ => canConnect_iff, fun _ _ _ _ => propose_eq_error_iff⟩
  intro e fault h
  have heffect := hsound.effect e
  rw [h] at heffect
  exact heffect.eq_of_error

/-- Neither text is an address, and the error is about the source. -/
theorem ofEdits_effect_mixer :
    let edits := [Edit.addModule ⟨"osc"⟩ Kind.oscillator.schema,
      .addModule ⟨"mix"⟩ Kind.mixer.schema, .propose "osc/audio_out" "mix/inputs/8"]
    let observers : Observers := ⟨[[]], [⟨3, 1⟩]⟩
    let p : Patch := { ofEdits edits with observers := observers }
    let fault := EditError.address .source (.malformed "osc")
    p.answer (.propose "osc" "mix/inputs/last") = .error fault
      ∧ p.edit (.propose "osc" "mix/inputs/last") = p
      ∧ (∃ d : Demand,
        d.FirstUnmet p "osc" "mix/inputs/last" ∧ d.Reports p "osc" "mix/inputs/last" fault)
      ∧ p.Effect (.removeModule ⟨"osc"⟩) (.ok (.purged 1))
        ⟨[⟨⟨"mix"⟩, Kind.mixer.schema⟩], [], observers⟩ := by
  intro edits observers p fault
  have hanswer : p.answer (.propose "osc" "mix/inputs/last") = .error fault := by decide +kernel
  have hpropose : p.propose "osc" "mix/inputs/last" = (.error fault, p) := by decide +kernel
  have hpurged : p.answer (.removeModule ⟨"osc"⟩) = .ok (.purged 1) := by decide +kernel
  have hleft : p.edit (.removeModule ⟨"osc"⟩)
      = ⟨[⟨⟨"mix"⟩, Kind.mixer.schema⟩], [], observers⟩ := by
    decide +kernel
  rcases ofEdits_effect edits observers with ⟨heffect, hunchanged, -, herror⟩
  refine ⟨hanswer, hunchanged _ _ hanswer, ((herror _ _ _ _).1 hpropose).1, ?_⟩
  rw [← hpurged, ← hleft]
  exact heffect _

end Patch
end ModularSynth
