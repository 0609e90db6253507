import ModularSynth.Proofs.Verdict
import ModularSynth.Proofs.Wiring

/-!
This module contains how connections get in each other's way. Validation reads the wiring for
clashes only, so a connection that is accepted stays so in a smaller wiring, and is refused beside
one more connection exactly if they link the same endpoints or share a slot. Of two proposals for
one slot the first is accepted, and all other proposals can be made in either order.
-/

namespace ModularSynth

namespace Connection

theorem clashes_iff {c d : Connection} :
    c.Clashes d ↔
      (c.source = d.source ∧ c.target = d.target) ∨ (c.target = d.target ∧ c.target.isSlot) := by
  rw [Clashes]
  constructor
  . rintro ⟨htarget, hsource | hslot⟩
    . exact .inl ⟨hsource, htarget⟩
    . exact .inr ⟨htarget, hslot⟩
  . rintro (⟨hsource, htarget⟩ | ⟨htarget, hslot⟩)
    . exact ⟨htarget, .inl hsource⟩
    . exact ⟨htarget, .inr hslot⟩

/-- An admissible connection is refused only for a connection of the wiring that it clashes with. -/
theorem Admissible.exists_clash {rack : Rack} {wiring : Wiring} {c : Connection}
    {rejection : Rejection} (h : c.Admissible rack)
    (hrefused : validate rack wiring c.source c.target = .error rejection) :
    ∃ d ∈ wiring, c.Clashes d ∧ rejection = .duplicate d.source c.target := by
  rcases h with ⟨hemits, ⟨kind, hreceives, haccepts⟩, howners⟩
  cases refusal_of_validate hrefused with
  | source hsource => simp [hemits] at hsource
  | target hsource htarget => simp [hreceives] at htarget
  | signal hsource htarget hfails =>
    rw [hemits] at hsource
    rw [hreceives] at htarget
    cases hsource
    cases htarget
    simp [haccepts] at hfails
  | linked hsource htarget haccepts hlinked =>
    rcases linked_iff.1 hlinked with ⟨d, hd, hsame, htarget⟩
    refine ⟨d, hd, ⟨htarget.symm, .inl hsame.symm⟩, ?_⟩
    rw [hsame]
  | @occupied signal kind d hsource htarget haccepts hlinked hslot hd =>
    have htarget : d.target = c.target := by simpa using List.find?_some hd
    exact ⟨d, List.mem_of_find?_eq_some hd, ⟨htarget.symm, .inr hslot⟩, rfl⟩
  | selfLoop hsource htarget haccepts hfree howner howner' =>
    exact absurd (howner.trans howner'.symm) howners

end Connection

namespace Wiring

variable {rack : Rack} {wiring wiring' : Wiring} {source target source' target' : Endpoint}
variable {c c' d : Connection}

section Validate

variable (h : validate rack wiring source target = .ok c)
include h

theorem validate_of_subset (hsub : ∀ d ∈ wiring', d ∈ wiring) :
    validate rack wiring' source target = .ok c := by
  rw [validate_eq_ok_iff] at h ⊢
  rcases h with ⟨hsource, htarget, hadmissible, hfree⟩
  exact ⟨hsource, htarget, hadmissible, fun d hd => hfree d (hsub d hd)⟩

theorem validate_append_eq_ok (hd : validate rack (wiring ++ [d]) source target = .ok c') :
    c' = c := by
  have hbefore := validate_of_subset hd (List.subset_append_left wiring [d])
  rw [h] at hbefore
  cases hbefore
  rfl

theorem validate_append_eq_ok_iff :
    validate rack (wiring ++ [d]) source target = .ok c ↔ ¬c.Clashes d := by
  rw [validate_eq_ok_iff] at h ⊢
  rcases h with ⟨hsource, htarget, hadmissible, hfree⟩
  constructor
  . rintro ⟨-, -, -, hfree'⟩
    exact hfree' d (by simp)
  . intro hd
    refine ⟨hsource, htarget, hadmissible, ?_⟩
    intro d' hd'
    rcases List.mem_append.1 hd' with hd' | hd'
    . exact hfree d' hd'
    . rw [List.mem_singleton.1 hd']
      exact hd

theorem eq_duplicate_of_append {rejection : Rejection}
    (hrefused : validate rack (wiring ++ [d]) source target = .error rejection) :
    rejection = .duplicate d.source target := by
  rcases validate_eq_ok_iff.1 h with ⟨rfl, rfl, hadmissible, hfree⟩
  rcases hadmissible.exists_clash hrefused with ⟨d', hd', hclash, rfl⟩
  -- It clashes with nothing that was there before.
  rcases List.mem_append.1 hd' with hd' | hd'
  . exact absurd hclash (hfree d' hd')
  . rw [List.mem_singleton.1 hd']

theorem validate_append_of_clashes (hclash : c.Clashes d) :
    validate rack (wiring ++ [d]) source target = .error (.duplicate d.source target) := by
  cases hvalidate : validate rack (wiring ++ [d]) source target with
  | error rejection => rw [eq_duplicate_of_append h hvalidate]
  | ok c' =>
    rw [validate_append_eq_ok h hvalidate, validate_append_eq_ok_iff h] at hvalidate
    contradiction

theorem edit_connect_of_ok : wiring.edit rack (.connect source target) = wiring ++ [c] := by
  rw [edit, connect_eq_ok_iff.2 ⟨h, rfl⟩]

end Validate

theorem edit_connect_of_error {rejection : Rejection}
    (h : validate rack wiring source target = .error rejection) :
    wiring.edit rack (.connect source target) = wiring := by
  rw [edit, connect_eq_error_iff.2 ⟨h, rfl⟩]

/-- The wiring that is left of two proposals, one after the other. -/
def proposeBoth (rack : Rack) (wiring : Wiring) (source target source' target' : Endpoint) :
    Wiring :=
  [Edit.connect source target, .connect source' target'].foldl (edit rack) wiring

section Both

variable (h : validate rack wiring source target = .ok c)
variable (h' : validate rack wiring source' target' = .ok c')
include h h'

theorem proposeBoth_of_clashes (hclash : c'.Clashes c) :
    wiring.proposeBoth rack source target source' target' = wiring ++ [c] := by
  rw [proposeBoth, List.foldl_cons, List.foldl_cons, List.foldl_nil, edit_connect_of_ok h]
  exact edit_connect_of_error (validate_append_of_clashes h' hclash)

theorem proposeBoth_of_not_clashes (hfree : ¬c'.Clashes c) :
    wiring.proposeBoth rack source target source' target' = wiring ++ [c] ++ [c'] := by
  rw [proposeBoth, List.foldl_cons, List.foldl_cons, List.foldl_nil, edit_connect_of_ok h]
  exact edit_connect_of_ok ((validate_append_eq_ok_iff h').2 hfree)

end Both

/--
A connection that is accepted is accepted in every smaller wiring as well. After another one that is
accepted too it is refused exactly if both are the same or share a slot, and then as a duplicate of
the other one. So the first of two sources for a free slot gets it, and two proposals of any other
kind can be made in either order.
-/
theorem validate_interference (h : validate rack wiring source target = .ok c) :
    (∀ wiring' : Wiring, (∀ d ∈ wiring', d ∈ wiring) →
        validate rack wiring' source target = .ok c)
      ∧ ∀ source' target' c', validate rack wiring source' target' = .ok c' →
          wiring.connect rack source' target' = (.ok c', wiring ++ [c'])
            ∧ ((∃ d, validate rack (wiring ++ [c']) source target = .ok d) ↔
                ¬(source = source' ∧ target = target') ∧ ¬(target = target' ∧ target.isSlot))
            ∧ (∀ rejection, validate rack (wiring ++ [c']) source target = .error rejection →
                rejection = .duplicate source' target)
            ∧ (target = target' → target.isSlot → source ≠ source' →
                wiring.proposeBoth rack source target source' target' = wiring ++ [c]
                  ∧ wiring.proposeBoth rack source' target' source target = wiring ++ [c'])
            ∧ (¬(target = target' ∧ target.isSlot ∧ source ≠ source') →
                (wiring.proposeBoth rack source target source' target').Perm
                  (wiring.proposeBoth rack source' target' source target)) := by
  refine ⟨fun _ => validate_of_subset h, ?_⟩
  intro source' target' c' h'
  rcases validate_eq_ok_iff.1 h with ⟨hsource, htarget, -⟩
  rcases validate_eq_ok_iff.1 h' with ⟨hsource', htarget', -⟩
  have hclashes : c.Clashes c' ↔
      (source = source' ∧ target = target') ∨ (target = target' ∧ target.isSlot) := by
    rw [Connection.clashes_iff, hsource, hsource', htarget, htarget']
  refine ⟨connect_eq_ok_iff.2 ⟨h', rfl⟩, ?_, ?_, ?_, ?_⟩
  . rw [← not_or, ← hclashes, ← validate_append_eq_ok_iff h]
    constructor
    . rintro ⟨d, hd⟩
      rw [← validate_append_eq_ok h hd]
      exact hd
    . intro hc
      exact ⟨c, hc⟩
  . intro rejection hrefused
    rw [← hsource']
    exact eq_duplicate_of_append h hrefused
  . intro hsame hslot _
    have hclash := hclashes.2 (.inr ⟨hsame, hslot⟩)
    exact ⟨proposeBoth_of_clashes h h' hclash.symm, proposeBoth_of_clashes h' h hclash⟩
  . intro hother
    by_cases hclash : c.Clashes c'
    . -- The proposals are the same, for they do not compete for a slot.
      have hsame : source = source' ∧ target = target' := by
        rcases hclashes.1 hclash with hsame | ⟨hsame, hslot⟩
        . exact hsame
        . refine ⟨?_, hsame⟩
          apply Decidable.byContradiction
          intro hne
          exact hother ⟨hsame, hslot, hne⟩
      rw [hsame.1, hsame.2]
    . rw [proposeBoth_of_not_clashes h h' fun hsymm => hclash hsymm.symm,
        proposeBoth_of_not_clashes h' h hclash, List.append_assoc, List.append_assoc]
      exact List.perm_append_comm.append_left wiring

/-- Two sources for the last slot of a mixer, and two for the destination. -/
theorem validate_interference_mixer :
    let rack : Rack := [⟨⟨"osc"⟩, Kind.oscillator.schema⟩, ⟨⟨"noise"⟩, Kind.noise.schema⟩,
      ⟨⟨"mix"⟩, Kind.mixer.schema⟩]
    let osc := Endpoint.port ⟨"osc"⟩ "audio_out"
    let noise := Endpoint.port ⟨"noise"⟩ "audio_out"
    let slot := Endpoint.slot ⟨"mix"⟩ "inputs" 7
    let wiring : Wiring := [⟨.port ⟨"mix"⟩ "audio_out", .sink, .audio⟩]
    validate rack wiring osc slot = .ok ⟨osc, slot, .audio⟩
      ∧ validate rack wiring noise slot = .ok ⟨noise, slot, .audio⟩
      ∧ validate rack wiring noise .sink = .ok ⟨noise, .sink, .audio⟩
      ∧ validate rack [] osc slot = .ok ⟨osc, slot, .audio⟩
      ∧ wiring.proposeBoth rack osc slot noise slot = wiring ++ [⟨osc, slot, .audio⟩]
      ∧ (wiring.proposeBoth rack osc slot noise .sink).Perm
          (wiring.proposeBoth rack noise .sink osc slot) := by
  intro rack osc noise slot wiring
  have hosc : validate rack wiring osc slot = .ok ⟨osc, slot, .audio⟩ := by decide +kernel
  have hnoise : validate rack wiring noise slot = .ok ⟨noise, slot, .audio⟩ := by decide +kernel
  have hsink : validate rack wiring noise .sink = .ok ⟨noise, .sink, .audio⟩ := by decide +kernel
  have hinterference := validate_interference hosc
  refine ⟨hosc, hnoise, hsink, hinterference.1 [] (by simp), ?_, ?_⟩
  . have hslots := (hinterference.2 _ _ _ hnoise).2.2.2.1
    exact (hslots rfl (by decide) (by decide)).1
  . exact (hinterference.2 _ _ _ hsink).2.2.2.2 (by decide)

end Wiring
end ModularSynth
