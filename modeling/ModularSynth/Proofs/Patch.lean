import ModularSynth.Proofs.Edits
import ModularSynth.Proofs.Rack
import ModularSynth.Proofs.Wiring

/-!
This module contains what holds of a patch after any run of edits: the ids of its modules are valid
and distinct, and its wiring is valid on its rack as the rack is now.
-/

namespace ModularSynth
namespace Patch

inductive Edit
  | addModule (id : ModuleId) (schema : Schema)
  | removeModule (id : ModuleId)
  | propose (source target : String)
  | connect (source target : Endpoint)
  | remove (source target : String)
  | disconnect (source target : Endpoint)

def edit (p : Patch) : Edit → Patch
  | .addModule id schema => (p.addModule id schema).2
  | .removeModule id => (p.removeModule id).2
  | .propose source target => (p.propose source target).2
  | .connect source target => (p.connect source target).2
  | .remove source target => (p.remove source target).2
  | .disconnect source target => (p.disconnect source target).2

/-- The patch that is left of the empty one after some edits. -/
def ofEdits (edits : List Edit) : Patch :=
  edits.foldl edit .empty

/-- Everything an edit can do to a patch. -/
inductive Change (p : Patch) : Patch → Prop
  | nothing : Change p p
  | module (id : ModuleId) (schema : Schema) (hvalid : id.isValid) (hnew : p.rack.find? id = none) :
    Change p { p with rack := p.rack ++ [⟨id, schema⟩] }
  | noModule (id : ModuleId) (hold : (p.rack.find? id).isSome) :
    Change p { p with rack := p.rack.erase id, wiring := p.wiring.disconnectModule id }
  | connection (c : Connection) (hc : validate p.rack p.wiring c.source c.target = .ok c) :
    Change p { p with wiring := p.wiring ++ [c] }
  | noConnection (source target : Endpoint) :
    Change p { p with wiring := p.wiring.disconnect source target }

section Change

variable {p p' : Patch}

theorem addModule_change {id : ModuleId} {schema : Schema} {m : Module}
    (h : p.addModule id schema = (.ok m, p')) : p.Change p' := by
  rcases addModule_eq_ok_iff.1 h with ⟨hvalid, hnew, rfl, rfl⟩
  exact .module id schema hvalid hnew

theorem removeModule_change {id : ModuleId} {purged : Nat}
    (h : p.removeModule id = (.ok purged, p')) : p.Change p' := by
  rcases removeModule_eq_ok_iff.1 h with ⟨hold, -, rfl⟩
  exact .noModule id hold

theorem connect_change {source target : Endpoint} {c : Connection}
    (h : p.connect source target = (.ok c, p')) : p.Change p' := by
  rcases connect_eq_ok_iff.1 h with ⟨hvalidate, rfl⟩
  exact .connection c (validate_ends hvalidate)

theorem propose_change {source target : String} {c : Connection}
    (h : p.propose source target = (.ok c, p')) : p.Change p' := by
  rcases propose_eq_ok_iff.1 h with ⟨sourceEnd, targetEnd, -, hvalidate, rfl⟩
  exact .connection c (validate_ends hvalidate)

theorem remove_change {source target : String} {linked : Bool}
    (h : p.remove source target = (.ok linked, p')) : p.Change p' := by
  rcases p.remove_cases source target with
    ⟨sourceEnd, targetEnd, -, heq⟩ | ⟨_, _, -, -, heq⟩ | ⟨_, -, heq⟩ | ⟨_, _, -, -, heq⟩
  . cases heq.symm.trans h
    exact .noConnection sourceEnd targetEnd
  . cases heq.symm.trans h
    exact .nothing
  all_goals cases heq.symm.trans h

end Change

/-- A call that fails leaves the patch as it was, so it is enough to look at those that do not. -/
theorem result_induction {α : Type} {motive : Patch → Prop} {p : Patch}
    {result : Except EditError α × Patch} (hself : motive p)
    (hfailed : ∀ {fault p'}, result = (.error fault, p') → p' = p)
    (h : ∀ {a p'}, result = (.ok a, p') → motive p') : motive result.2 := by
  rcases result with ⟨_ | a, p'⟩
  . rw [hfailed rfl]
    exact hself
  . exact h rfl

theorem edit_change (p : Patch) (e : Edit) : p.Change (p.edit e) := by
  cases e with
  | addModule id schema => exact result_induction .nothing eq_of_addModule_error addModule_change
  | removeModule id => exact result_induction .nothing eq_of_removeModule_error removeModule_change
  | propose source target => exact result_induction .nothing eq_of_propose_error propose_change
  | connect source target => exact result_induction .nothing eq_of_connect_error connect_change
  | remove source target => exact result_induction .nothing eq_of_remove_error remove_change
  | disconnect source target => exact .noConnection source target

/-- A module of the rack was there before, or this edit has added it. -/
theorem mem_rack_edit {p : Patch} {e : Edit} {m : Module} :
    m ∈ (p.edit e).rack → m ∈ p.rack ∨ e = .addModule m.id m.schema := by
  cases e with
  | addModule id schema =>
    refine result_induction (motive := fun p' => m ∈ p'.rack → _) .inl eq_of_addModule_error ?_
    intro _ _ h hm
    rcases addModule_eq_ok_iff.1 h with ⟨-, -, rfl, rfl⟩
    apply (List.mem_append.1 hm).imp_right
    intro hm
    rw [List.mem_singleton.1 hm]
  | removeModule id =>
    refine result_induction (motive := fun p' => m ∈ p'.rack → _) .inl eq_of_removeModule_error ?_
    intro _ _ h hm
    rcases removeModule_eq_ok_iff.1 h with ⟨-, -, rfl⟩
    exact .inl (List.mem_of_mem_eraseP hm)
  | propose source target =>
    refine result_induction (motive := fun p' => m ∈ p'.rack → _) .inl eq_of_propose_error ?_
    intro _ _ h hm
    rcases propose_eq_ok_iff.1 h with ⟨_, _, -, -, rfl⟩
    exact .inl hm
  | connect source target =>
    refine result_induction (motive := fun p' => m ∈ p'.rack → _) .inl eq_of_connect_error ?_
    intro _ _ h hm
    rcases connect_eq_ok_iff.1 h with ⟨-, rfl⟩
    exact .inl hm
  | remove source target =>
    intro hm
    rw [edit, rack_remove] at hm
    exact .inl hm
  | disconnect source target => exact .inl

structure Sound (p : Patch) : Prop where
  validIds : ∀ m ∈ p.rack, m.id.isValid
  distinctIds : p.rack.ids.Nodup
  wiring : p.wiring.Valid p.rack

theorem empty_sound : empty.Sound where
  validIds := by simp [empty]
  distinctIds := .nil
  wiring := .nil

theorem Sound.change {p p' : Patch} (h : p.Sound) (hchange : p.Change p') : p'.Sound := by
  cases hchange with
  | nothing => exact h
  | module id schema hvalid hnew =>
    have hfresh : id ∉ p.rack.ids := by
      rw [Rack.mem_ids_iff, hnew]
      simp
    constructor
    . intro m hm
      cases List.mem_append.1 hm with
      | inl hm => exact h.validIds m hm
      | inr hm =>
        rw [List.mem_singleton.1 hm]
        exact hvalid
    . have hids : Rack.ids (p.rack ++ [⟨id, schema⟩]) = p.rack.ids ++ [id] := by
        simp [Rack.ids]
      rw [hids]
      apply List.nodup_append.2
      refine ⟨h.distinctIds, by simp, ?_⟩
      intro a ha b hb heq
      apply hfresh
      rw [← List.mem_singleton.1 hb, ← heq]
      exact ha
    . -- The new module comes behind the modules that the connections are on.
      apply h.wiring.congr
      intro c hc id hid
      apply Rack.schema?_append
      exact (h.wiring.admissible c hc).schema?_isSome hid
  | noModule id hold =>
    have hsub : (p.rack.erase id).Sublist p.rack := by apply List.eraseP_sublist
    constructor
    . intro m hm
      exact h.validIds m (hsub.mem hm)
    . exact h.distinctIds.sublist (hsub.map _)
    . -- No connection that is left is on the module, so none of them misses its schema.
      apply (h.wiring.disconnectModule id).congr
      intro c hc id' hid'
      apply Rack.schema?_erase_of_ne
      rintro rfl
      have htouch : ¬c.touches id' := by simpa using (List.mem_filter.1 hc).2
      rw [Connection.touches_iff, not_or] at htouch
      cases hid' with
      | inl hsource => exact htouch.1 hsource
      | inr htarget => exact htouch.2 htarget
  | connection c hc =>
    refine ⟨h.validIds, h.distinctIds, ?_⟩
    exact Wiring.Valid.append_iff.2 ⟨hc, h.wiring⟩
  | noConnection source target =>
    exact ⟨h.validIds, h.distinctIds, h.wiring.disconnect source target⟩

theorem ofEdits_sound (edits : List Edit) : (ofEdits edits).Sound := by
  apply List.foldlRecOn edits edit empty_sound
  intro p h e _
  exact h.change (edit_change p e)

/--
After any edits all ids are valid and distinct, and each connection is the one that validation finds
for its ends on the rack as it is now, beside all other connections.
-/
theorem ofEdits_consistent (edits : List Edit) :
    let p := ofEdits edits
    (∀ m ∈ p.rack, m.id.isValid)
      ∧ p.rack.ids.Nodup
      ∧ (∀ i c, p.wiring[i]? = some c →
          validate p.rack (p.wiring.eraseIdx i) c.source c.target = .ok c)
      ∧ (∀ c ∈ p.wiring, ∃ id name port kind,
          c.source = .port id name ∧ p.rack.port id name = .ok port
            ∧ port.direction = .source ∧ port.signal = c.signal
            ∧ c.target.receives p.rack = .ok kind ∧ kind.accepts c.signal
            ∧ c.target.owner? ≠ some id)
      ∧ p.wiring.Pairwise (fun c d => ¬(c.source = d.source ∧ c.target = d.target))
      ∧ p.wiring.Pairwise (fun c d => c.target.isSlot → c.target ≠ d.target) := by
  intro p
  have h : p.Sound := ofEdits_sound edits
  refine ⟨h.validIds, h.distinctIds, ?_, ?_, ?_, ?_⟩
  . intro i c hi
    exact h.wiring.validate_eraseIdx hi
  . intro c hc
    rcases h.wiring.admissible c hc with ⟨hemits, ⟨kind, hreceives, haccepts⟩, howners⟩
    rcases Endpoint.emits_eq_ok_iff.1 hemits with
      ⟨id, name, port, hsource, hport, hdirection, hsignal⟩
    refine ⟨id, name, port, kind, hsource, hport, hdirection, hsignal, hreceives, haccepts, ?_⟩
    rw [hsource] at howners
    exact howners.symm
  . apply h.wiring.apart.imp
    intro c d hapart hsame
    exact hapart ⟨hsame.2, .inl hsame.1⟩
  . apply h.wiring.apart.imp
    intro c d hapart hslot htarget
    exact hapart ⟨htarget, .inr hslot⟩

end Patch
end ModularSynth
