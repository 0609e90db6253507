import ModularSynth.PatchFile.Build
import ModularSynth.Proofs.Except
import ModularSynth.Proofs.List

/-!
This module contains what is collected when all items of a list are tried: the failure of each item
after all items before it. If an item that fails changes nothing, the others can be taken without
it.
-/

namespace ModularSynth
namespace PatchFile

variable {σ α ε ε' : Type} {step : σ → α → Option ε × σ} {run : σ → α → Except ε' σ} {f : ε → ε'}

/-- A trial makes the steps of a run. Where the run fails it tells why, and stays where it is. -/
def Tries (f : ε → ε') (run : σ → α → Except ε' σ) (step : σ → α → Option ε × σ) : Prop :=
  ∀ s a, (∃ s', step s a = (none, s') ∧ run s a = .ok s')
    ∨ ∃ e, step s a = (some e, s) ∧ run s a = .error (f e)

section Cons

variable {s s' : σ} {a : α}

theorem tryAll_cons_of_none (h : step s a = (none, s')) (rest : List α) :
    tryAll step s (a :: rest) = tryAll step s' rest := by
  rw [tryAll, h]

theorem tryAll_cons_of_some {e : ε} (h : step s a = (some e, s')) (rest : List α) :
    tryAll step s (a :: rest) = (e :: (tryAll step s' rest).1, (tryAll step s' rest).2) := by
  rw [tryAll, h]

end Cons

theorem tryAll_append (s : σ) (items items' : List α) :
    tryAll step s (items ++ items')
      = ((tryAll step s items).1 ++ (tryAll step (tryAll step s items).2 items').1,
          (tryAll step (tryAll step s items).2 items').2) := by
  induction items generalizing s with
  | nil => rfl
  | cons a rest ih =>
    rw [List.cons_append]
    rcases hstep : step s a with ⟨_ | e, s'⟩
    . rw [tryAll_cons_of_none hstep, tryAll_cons_of_none hstep, ih]
    . rw [tryAll_cons_of_some hstep, tryAll_cons_of_some hstep, ih]
      rfl

/-- A run that stops at the first failure fails with the first one that is collected. -/
theorem foldlM_eq_tryAll (h : Tries f run step) (s : σ) (items : List α) :
    items.foldlM run s
      = match (tryAll step s items).1 with
        | [] => .ok (tryAll step s items).2
        | e :: _ => .error (f e) := by
  induction items generalizing s with
  | nil => rfl
  | cons a rest ih =>
    rw [List.foldlM_cons]
    rcases h s a with ⟨s', hstep, hrun⟩ | ⟨e, hstep, hrun⟩
    . rw [tryAll_cons_of_none hstep, hrun, Except.ok_bind, ih]
    . rw [tryAll_cons_of_some hstep, hrun]
      rfl

variable (step) in
/-- What goes wrong at the item at a position, after the steps of all items before it. -/
def failure? (s : σ) (items : List α) (i : Nat) : Option ε := do
  let a ← items[i]?
  (step (tryAll step s (items.take i)).2 a).1

theorem failure?_eq_some_iff {s : σ} {items : List α} {i : Nat} {e : ε} :
    failure? step s items i = some e ↔
      ∃ a, items[i]? = some a ∧ (step (tryAll step s (items.take i)).2 a).1 = some e := by
  simp [failure?, Option.bind_eq_some_iff]

section Step

variable (s : σ) (items : List α) (n : Nat)

theorem tryAll_step :
    (tryAll step (tryAll step s (items.take n)).2 items[n]?.toList).1
      = (failure? step s items n).toList := by
  rw [failure?]
  cases items[n]? with
  | none => rfl
  | some a =>
    dsimp only [Option.toList_some, Option.bind_eq_bind, Option.bind_some]
    rcases hstep : step (tryAll step s (items.take n)).2 a with ⟨_ | e, s'⟩
    . rw [tryAll_cons_of_none hstep]
      rfl
    . rw [tryAll_cons_of_some hstep]
      rfl

variable {s items n} in
theorem tryAll_failed_step (h : Tries f run step) {e : ε}
    (hfailure : failure? step s items n = some e) :
    (tryAll step (tryAll step s (items.take n)).2 items[n]?.toList).2
      = (tryAll step s (items.take n)).2 := by
  rcases failure?_eq_some_iff.1 hfailure with ⟨a, ha, he⟩
  rcases h (tryAll step s (items.take n)).2 a with ⟨s', hstep, -⟩ | ⟨e', hstep, -⟩
  . rw [hstep] at he
    contradiction
  . rw [ha, Option.toList_some, tryAll_cons_of_some hstep]
    rfl

theorem tryAll_take :
    (tryAll step s (items.take n)).1 = (List.range n).filterMap (failure? step s items) := by
  induction n with
  | zero => rfl
  | succ n ih => rw [List.filterMap_range_succ, ← ih, List.take_add_one, tryAll_append, tryAll_step]

end Step

theorem tryAll_eq (s : σ) (items : List α) :
    (tryAll step s items).1 = (List.range items.length).filterMap (failure? step s items) := by
  rw [← tryAll_take, List.take_length]

/-- The items before position `n` of which nothing is reported. -/
def unreported (report? : Nat → Option ε) (items : List α) (n : Nat) : List α :=
  (List.range n).filterMap fun i =>
    match report? i with
    | none => items[i]?
    | some _ => none

section Unreported

variable {report? : Nat → Option ε} {items : List α} {n : Nat}

theorem unreported_succ_of_none (h : report? n = none) :
    unreported report? items (n + 1) = unreported report? items n ++ items[n]?.toList := by
  rw [unreported, List.filterMap_range_succ, h, unreported]

theorem unreported_succ_of_some {e : ε} (h : report? n = some e) :
    unreported report? items (n + 1) = unreported report? items n := by
  rw [unreported, List.filterMap_range_succ, h]
  exact List.append_nil _

end Unreported

theorem map_unreported {β : Type} (report? : Nat → Option ε) (items : List α) (f : α → β)
    (n : Nat) : (unreported report? items n).map f = unreported report? (items.map f) n := by
  rw [unreported, List.map_filterMap, unreported]
  congr
  funext i
  cases report? i with
  | none => rw [List.getElem?_map]
  | some e => rfl

/-- The run can make the steps of the items that are left, and they lead to where all steps lead. -/
theorem foldlM_unreported (h : Tries f run step) (s : σ) (items : List α) (n : Nat) :
    (unreported (failure? step s items) items n).foldlM run s
      = .ok (tryAll step s (items.take n)).2 := by
  induction n with
  | zero => rfl
  | succ n ih =>
    rw [List.take_add_one, tryAll_append]
    cases hfailure : failure? step s items n with
    | none =>
      rw [unreported_succ_of_none hfailure, List.foldlM_append, ih, Except.ok_bind,
        foldlM_eq_tryAll h, tryAll_step, hfailure]
      rfl
    | some e => rw [unreported_succ_of_some hfailure, ih, tryAll_failed_step h hfailure]

end PatchFile
end ModularSynth
