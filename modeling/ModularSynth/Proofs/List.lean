import Mathlib.Data.List.Forall2
import Mathlib.Data.List.Nodup
import Mathlib.Data.List.Perm.Basic

/-!
This module contains rules for lists that are taken apart by a key, by position or at a separator,
or cleared of repetitions.
-/

namespace List

variable {α κ : Type}

theorem find?_key_of_unique [DecidableEq κ] {key : α → κ} {items : List α} {a : α}
    (ha : a ∈ items) (h : ∀ b ∈ items, key b = key a → b = a) :
    items.find? (key · == key a) = some a := by
  cases hfind : items.find? (key · == key a) with
  | none => simpa using List.find?_eq_none.1 hfind a ha
  | some b =>
    have hkey : key b = key a := by simpa using List.find?_some hfind
    rw [h b (mem_of_find?_eq_some hfind) hkey]

theorem find?_key_of_mem [DecidableEq κ] {key : α → κ} {items : List α}
    (h : (items.map key).Nodup) {a : α} (ha : a ∈ items) :
    items.find? (key · == key a) = some a :=
  find?_key_of_unique ha fun _ hb hkey => inj_on_of_nodup_map h hb ha hkey

theorem flatMap_filter_perm [DecidableEq κ] {keys : List κ} (hkeys : keys.Nodup) (key : α → κ)
    {items : List α} (h : ∀ a ∈ items, key a ∈ keys) :
    (keys.flatMap fun k => items.filter (key · == k)).Perm items := by
  induction keys generalizing items with
  | nil =>
    cases items with
    | nil => exact .nil
    | cons a rest => exact absurd (h a mem_cons_self) not_mem_nil
  | cons k rest ih =>
    rcases nodup_cons.1 hkeys with ⟨hk, hrest⟩
    -- The groups behind the first one are those of the items that are not in it.
    have hothers : (rest.flatMap fun k' => items.filter (key · == k'))
        = rest.flatMap fun k' => (items.filter (!key · == k)).filter (key · == k') := by
      apply flatMap_congr
      intro k' hk'
      rw [filter_filter]
      apply filter_congr
      intro a _
      have hne : k' ≠ k := by
        rintro rfl
        exact hk hk'
      by_cases heq : key a = k' <;> simp [heq, hne]
    rw [flatMap_cons, hothers]
    refine Perm.trans ?_ (filter_append_perm (key · == k) items)
    apply Perm.append_left
    apply ih hrest
    intro a ha
    simp only [mem_filter, Bool.not_eq_true', beq_eq_false_iff_ne] at ha
    exact mem_of_ne_of_mem ha.2 (h a ha.1)

/-- Lists with the same images are the same, if no item of one has the image of another item. -/
theorem eq_of_map_eq {f : α → κ} {l l' : List α}
    (hf : ∀ a ∈ l, ∀ b ∈ l', f a = f b → a = b) (h : l.map f = l'.map f) : l = l' := by
  induction l generalizing l' with
  | nil => exact (map_eq_nil_iff.1 h.symm).symm
  | cons a rest ih =>
    cases l' with
    | nil => contradiction
    | cons b rest' =>
      rw [map_cons, map_cons, cons.injEq] at h
      rw [hf a mem_cons_self b mem_cons_self h.1, ih _ h.2]
      intro a' ha' b' hb'
      exact hf a' (mem_cons_of_mem a ha') b' (mem_cons_of_mem b hb')

theorem filterMap_range_succ (f : Nat → Option α) (n : Nat) :
    (range (n + 1)).filterMap f = (range n).filterMap f ++ (f n).toList := by
  rw [range_succ, filterMap_append, filterMap_cons]
  cases f n <;> rfl

/-- Items that know the positions they come from are found by position. -/
theorem find?_filterMap_range {f : Nat → Option α} {index? : α → Option Nat}
    (hindex : ∀ i a, f i = some a → index? a = some i) {n i : Nat} (hbound : n ≤ i → f i = none) :
    ((range n).filterMap f).find? (index? · == some i) = f i := by
  have hself : ∀ j, (f j).any (index? · == some i) = true → j = i := by
    intro j hj
    rcases (Option.any_eq_true _ _).1 hj with ⟨a, ha, heq⟩
    rw [hindex j a ha, beq_iff_eq, Option.some.injEq] at heq
    exact heq
  rw [find?_filterMap]
  cases hi : f i with
  | none =>
    rw [find?_eq_none.2, Option.bind_none]
    intro j _ hj
    rw [hself j hj, hi] at hj
    contradiction
  | some a =>
    have hlt : i < n := by
      apply Nat.lt_of_not_le
      intro hle
      rw [hbound hle] at hi
      contradiction
    have hfind : (range n).find? (fun j => (f j).any (index? · == some i)) = some i := by
      rw [find?_range_eq_some]
      refine ⟨?_, mem_range.2 hlt, ?_⟩
      . simp [hi, hindex i a hi]
      . intro j hj
        rw [Bool.not_eq_true', Bool.eq_false_iff]
        intro heq
        exact Nat.ne_of_lt hj (hself j heq)
    rw [hfind, Option.bind_some, hi]

theorem not_mem_of_mem_splitOn [BEq α] [LawfulBEq α] {a : α} {l part : List α}
    (h : part ∈ l.splitOn a) : a ∉ part := by
  induction l generalizing part with
  | nil =>
    rw [splitOn_nil, mem_singleton] at h
    rw [h]
    exact not_mem_nil
  | cons b l ih =>
    rw [splitOn_cons_eq_if_modifyHead] at h
    split at h
    . rcases mem_cons.1 h with rfl | h
      . exact not_mem_nil
      . exact ih h
    . next hne =>
      cases hparts : l.splitOn a with
      | nil => exact absurd hparts (splitOn_ne_nil a l)
      | cons first rest =>
        rw [hparts] at h ih
        rcases mem_cons.1 h with rfl | h
        . rw [mem_cons, not_or]
          refine ⟨?_, ih mem_cons_self⟩
          rintro rfl
          exact hne (beq_self_eq_true a)
        . exact ih (mem_cons_of_mem first h)

theorem splitOn_append_left [BEq α] [LawfulBEq α] {a : α} {before : List α} (h : a ∉ before)
    (l : List α) :
    ∃ first rest, l.splitOn a = first :: rest
      ∧ (before ++ l).splitOn a = (before ++ first) :: rest := by
  induction before with
  | nil =>
    rcases exists_cons_of_ne_nil (splitOn_ne_nil a l) with ⟨first, rest, heq⟩
    exact ⟨first, rest, heq, heq⟩
  | cons b before ih =>
    rw [mem_cons, not_or] at h
    rcases ih h.2 with ⟨first, rest, heq, hbefore⟩
    refine ⟨first, rest, heq, ?_⟩
    rw [cons_append, splitOn_cons_eq_if_modifyHead, hbefore, if_neg]
    . rfl
    . rw [beq_iff_eq]
      exact Ne.symm h.1

theorem splitOn_append_right [BEq α] [LawfulBEq α] {a : α} {after : List α} (h : a ∉ after)
    (l : List α) :
    ∃ rest last, l.splitOn a = rest ++ [last]
      ∧ (l ++ after).splitOn a = rest ++ [last ++ after] := by
  induction l with
  | nil => exact ⟨[], [], splitOn_nil a, splitOn_eq_singleton h⟩
  | cons b l ih =>
    rcases ih with ⟨rest, last, heq, hafter⟩
    rw [cons_append, splitOn_cons_eq_if_modifyHead, splitOn_cons_eq_if_modifyHead, heq, hafter]
    split
    . exact ⟨[] :: rest, last, rfl, rfl⟩
    . -- The item goes to the first part, which is the last one as well if it is the only one.
      cases rest with
      | nil => exact ⟨[], b :: last, rfl, rfl⟩
      | cons first rest => exact ⟨(b :: first) :: rest, last, rfl, rfl⟩

theorem Forall₂.exists_of_mem_left {β : Type} {R : α → β → Prop} {l : List α} {l' : List β}
    (h : Forall₂ R l l') {a : α} (ha : a ∈ l) : ∃ b ∈ l', R a b := by
  induction h with
  | nil => contradiction
  | cons hab _ ih =>
    rcases mem_cons.1 ha with rfl | ha
    . exact ⟨_, mem_cons_self, hab⟩
    . rcases ih ha with ⟨b, hb, hrel⟩
      exact ⟨b, mem_cons_of_mem _ hb, hrel⟩

section Repetitions

variable [BEq α] [LawfulBEq α]

theorem eraseRepsBy_loop_of_nodup {rest : List α} {a : α} (acc : List α)
    (h : (a :: rest).Nodup) :
    eraseRepsBy.loop (· == ·) a rest acc = acc.reverse ++ a :: rest := by
  induction rest generalizing a acc with
  | nil => simp [eraseRepsBy.loop]
  | cons b rest ih =>
    rcases nodup_cons.1 h with ⟨ha, hrest⟩
    have hne : (a == b) = false := by
      apply beq_eq_false_iff_ne.2
      rintro rfl
      exact ha mem_cons_self
    simp [eraseRepsBy.loop, hne, ih (a :: acc) hrest]

theorem eraseReps_of_nodup {l : List α} (h : l.Nodup) : l.eraseReps = l := by
  cases l with
  | nil => rfl
  | cons a rest => exact eraseRepsBy_loop_of_nodup [] h

end Repetitions

end List
