import Mathlib.Data.List.Perm.Basic
import ModularSynth.Proofs.Validation

/-!
This module contains when a wiring is valid on a rack, which no longer depends on the order in which
its connections were made: each connection is admissible and no two clash. Every edit of a wiring
keeps it valid, and a valid wiring can be made again in any order.
-/

namespace ModularSynth
namespace Wiring

section Disconnect

variable {wiring before behind : Wiring} {source target : Endpoint} {c : Connection}

theorem disconnect_of_not_linked (h : wiring.linked source target = false) :
    wiring.disconnect source target = wiring := by
  apply List.eraseP_of_forall_not
  intro d hd
  exact List.any_eq_false.1 h d hd

theorem disconnect_append_cons (h : before.linked c.source c.target = false) :
    Wiring.disconnect (before ++ c :: behind) c.source c.target = before ++ behind := by
  have hself : c.links c.source c.target = true := Connection.links_iff.2 ⟨rfl, rfl⟩
  rw [disconnect, List.eraseP_append_right _ (List.any_eq_false.1 h), List.eraseP_cons, hself,
    cond_true]

end Disconnect

section DisconnectModule

variable (wiring : Wiring) (id : ModuleId)

theorem touching_eq :
    wiring.touching id = wiring.countP fun c =>
      c.source.owner? = some id ∨ c.target.owner? = some id := by
  apply List.countP_congr
  intro c _
  rw [Connection.touches_iff, decide_eq_true_iff]

theorem disconnectModule_eq :
    wiring.disconnectModule id = wiring.filter fun c =>
      c.source.owner? ≠ some id ∧ c.target.owner? ≠ some id := by
  apply List.filter_congr
  intro c _
  apply Bool.eq_iff_iff.2
  rw [Bool.not_eq_true', ← Bool.not_eq_true, Connection.touches_iff, not_or, decide_eq_true_iff]

end DisconnectModule

structure Valid (rack : Rack) (wiring : Wiring) : Prop where
  admissible : ∀ c ∈ wiring, c.Admissible rack
  apart : wiring.Pairwise fun c d => ¬c.Clashes d

namespace Valid

variable {rack : Rack} {wiring wiring' : Wiring}

theorem nil : Valid rack [] where
  admissible := by simp
  apart := .nil

theorem sublist (h : wiring.Valid rack) (hsub : wiring'.Sublist wiring) : wiring'.Valid rack where
  admissible := fun c hc => h.admissible c (hsub.mem hc)
  apart := h.apart.sublist hsub

theorem perm (h : wiring.Valid rack) (hperm : wiring.Perm wiring') : wiring'.Valid rack where
  admissible := fun c hc => h.admissible c (hperm.mem_iff.2 hc)
  apart := by
    apply h.apart.perm hperm
    intro c d hcd hdc
    exact hcd hdc.symm

theorem cons_iff {c : Connection} :
    Valid rack (c :: wiring) ↔
      validate rack wiring c.source c.target = .ok c ∧ wiring.Valid rack := by
  rw [validate_eq_ok_iff]
  constructor
  . intro h
    rcases List.pairwise_cons.1 h.apart with ⟨hfree, hrest⟩
    have hc := h.admissible c List.mem_cons_self
    exact ⟨⟨rfl, rfl, hc, hfree⟩, h.sublist (List.sublist_cons_self c wiring)⟩
  . rintro ⟨⟨-, -, hc, hfree⟩, h⟩
    constructor
    . intro d hd
      cases List.mem_cons.1 hd with
      | inl heq => exact heq ▸ hc
      | inr hd => exact h.admissible d hd
    . exact List.pairwise_cons.2 ⟨hfree, h.apart⟩

theorem append_iff {c : Connection} :
    Valid rack (wiring ++ [c]) ↔
      validate rack wiring c.source c.target = .ok c ∧ wiring.Valid rack := by
  rw [← cons_iff]
  constructor
  . intro h
    exact h.perm (List.perm_append_singleton c wiring)
  . intro h
    exact h.perm (List.perm_append_singleton c wiring).symm

theorem validate_eraseIdx (h : wiring.Valid rack) {i : Nat} {c : Connection}
    (hi : wiring[i]? = some c) :
    validate rack (wiring.eraseIdx i) c.source c.target = .ok c := by
  rcases List.getElem?_eq_some_iff.1 hi with ⟨hlt, rfl⟩
  have := h.perm (List.getElem_cons_eraseIdx_perm hlt).symm
  exact (cons_iff.1 this).1

theorem congr {rack' : Rack} (h : wiring.Valid rack)
    (hrack : ∀ c ∈ wiring, ∀ id, c.source.owner? = some id ∨ c.target.owner? = some id →
      rack'.schema? id = rack.schema? id) : wiring.Valid rack' where
  admissible := fun c hc => (h.admissible c hc).congr (hrack c hc)
  apart := h.apart

theorem nodup (h : wiring.Valid rack) : wiring.Nodup := by
  apply h.apart.imp
  rintro c d hapart rfl
  exact hapart ⟨rfl, .inl rfl⟩

theorem not_linked_before {c : Connection} {before behind : Wiring}
    (h : Valid rack (before ++ c :: behind)) : before.linked c.source c.target = false := by
  rw [← Bool.not_eq_true, linked_iff]
  rintro ⟨d, hd, hsource, htarget⟩
  have hapart := (List.pairwise_append.1 h.apart).2.2 d hd c List.mem_cons_self
  exact hapart ⟨htarget, .inl hsource⟩

theorem disconnect_eq_erase (h : wiring.Valid rack) {c : Connection} (hc : c ∈ wiring) :
    wiring.disconnect c.source c.target = wiring.erase c := by
  rcases List.append_of_mem hc with ⟨before, behind, rfl⟩
  have hbefore := h.not_linked_before
  have hmem : c ∉ before := by
    intro hmem
    rw [linked_iff.2 ⟨c, hmem, rfl, rfl⟩] at hbefore
    contradiction
  rw [disconnect_append_cons hbefore, List.erase_append_right _ hmem, List.erase_cons_head]

theorem connect (h : wiring.Valid rack) {source target : Endpoint} {c : Connection}
    (hc : wiring.connect rack source target = (.ok c, wiring')) : wiring'.Valid rack := by
  rcases connect_eq_ok_iff.1 hc with ⟨hvalidate, rfl⟩
  rw [append_iff]
  exact ⟨validate_ends hvalidate, h⟩

theorem disconnect (h : wiring.Valid rack) (source target : Endpoint) :
    (wiring.disconnect source target).Valid rack := by
  apply h.sublist
  apply List.eraseP_sublist

theorem disconnectModule (h : wiring.Valid rack) (id : ModuleId) :
    (wiring.disconnectModule id).Valid rack := by
  apply h.sublist
  apply List.filter_sublist

end Valid

inductive Edit
  | connect (source target : Endpoint)
  | disconnect (source target : Endpoint)
  | disconnectModule (id : ModuleId)

def edit (rack : Rack) (wiring : Wiring) : Edit → Wiring
  | .connect source target => (wiring.connect rack source target).2
  | .disconnect source target => wiring.disconnect source target
  | .disconnectModule id => wiring.disconnectModule id

/-- The wiring that is left of the empty one after some edits. -/
def ofEdits (rack : Rack) (edits : List Edit) : Wiring :=
  edits.foldl (edit rack) []

theorem Valid.edit {rack : Rack} {wiring : Wiring} (h : wiring.Valid rack) (e : Edit) :
    (wiring.edit rack e).Valid rack := by
  cases e with
  | connect source target =>
    rw [Wiring.edit]
    cases hc : wiring.connect rack source target with
    | mk result wiring' =>
      cases result with
      | ok c => exact h.connect hc
      | error rejection =>
        rw [(connect_eq_error_iff.1 hc).2]
        exact h
  | disconnect source target => exact h.disconnect source target
  | disconnectModule id => exact h.disconnectModule id

theorem ofEdits_valid (rack : Rack) (edits : List Edit) : (ofEdits rack edits).Valid rack := by
  apply List.foldlRecOn edits (edit rack) Valid.nil
  intro wiring h e _
  exact h.edit e

/-- Connect the ends of some connections one after the other, until one of them is refused. -/
def connectAll (rack : Rack) (wiring : Wiring) : List Connection → Except Rejection Wiring
  | [] => .ok wiring
  | c :: rest =>
    match wiring.connect rack c.source c.target with
    | (.ok _, wiring) => connectAll rack wiring rest
    | (.error rejection, _) => .error rejection

theorem connectAll_of_valid {rack : Rack} {wiring : Wiring} {cs : List Connection}
    (h : Valid rack (wiring ++ cs)) : connectAll rack wiring cs = .ok (wiring ++ cs) := by
  induction cs generalizing wiring with
  | nil => rw [connectAll, List.append_nil]
  | cons c rest ih =>
    have hall : Valid rack ((wiring ++ [c]) ++ rest) := by
      rw [List.append_assoc]
      exact h
    have hfirst := hall.sublist (List.sublist_append_left _ _)
    have hc := connect_eq_ok_iff.2 ⟨(Valid.append_iff.1 hfirst).1, rfl⟩
    rw [connectAll, hc]
    dsimp only
    rw [ih hall, List.append_assoc]
    rfl

end Wiring
end ModularSynth
