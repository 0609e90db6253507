import Mathlib.Data.List.Basic
import ModularSynth.SortedMap

/-!
This module contains what a look-up in a sorted map finds after each operation, and which keys each
operation leaves.
-/

namespace ModularSynth
namespace SortedMap

variable {κ α : Type} {order : κ → κ → Ordering}

theorem ne_of_order_eq_lt [Std.ReflCmp order] {a b : κ} (h : order a b = .lt) : a ≠ b := by
  rintro rfl
  have hself : order a a = .eq := Std.ReflCmp.compare_self
  rw [hself] at h
  contradiction

@[simp]
theorem get?_empty (k : κ) : (empty : SortedMap κ α order).get? k = none := by
  rfl

section LookUp

variable [Std.LawfulEqCmp order]

theorem get?_eq_some_iff {m : SortedMap κ α order} {k : κ} {a : α} :
    m.get? k = some a ↔ (k, a) ∈ m.entries := by
  rcases m with ⟨entries, ascending⟩
  simp only [get?, Option.map_eq_some_iff]
  induction entries with
  | nil => simp
  | cons entry rest ih =>
    rcases List.pairwise_cons.1 ascending with ⟨hentry, hrest⟩
    rw [List.find?_cons]
    split
    . next hk =>
      have hk : k = entry.1 := by
        simpa only [beq_iff_eq, Std.LawfulEqCmp.compare_eq_iff_eq] using hk
      subst hk
      have hnotMem : (entry.1, a) ∉ rest := by
        intro hmem
        exact ne_of_order_eq_lt (hentry _ hmem) rfl
      simp [Prod.ext_iff, hnotMem, eq_comm]
    . next hk =>
      have hk : k ≠ entry.1 := by
        simpa [Std.LawfulEqCmp.compare_eq_iff_eq] using hk
      rw [ih hrest, List.mem_cons]
      simp [Prod.ext_iff, hk]

theorem mem_keys_iff {m : SortedMap κ α order} {k : κ} :
    k ∈ m.keys ↔ (m.get? k).isSome := by
  simp [keys, Option.isSome_iff_exists, get?_eq_some_iff]

theorem nodup_keys (m : SortedMap κ α order) : m.keys.Nodup := by
  apply List.pairwise_map.2
  apply m.ascending.imp
  intro a b hlt
  exact ne_of_order_eq_lt hlt

theorem values_eq (m : SortedMap κ α order) : m.values = m.keys.filterMap m.get? := by
  rw [values, keys, List.filterMap_map, ← List.filterMap_eq_map]
  apply List.filterMap_congr
  intro e he
  exact (get?_eq_some_iff.2 he).symm

@[simp]
theorem get?_map (m : SortedMap κ α order) (f : α → α) (k : κ) :
    (m.map f).get? k = (m.get? k).map f := by
  apply Option.ext
  intro a
  rw [get?_eq_some_iff, Option.map_eq_some_iff]
  simp only [map, List.mem_map, get?_eq_some_iff]
  constructor
  . rintro ⟨e, he, heq⟩
    cases heq
    exact ⟨e.2, he, rfl⟩
  . rintro ⟨b, hb, rfl⟩
    exact ⟨_, hb, rfl⟩

theorem get?_filterKeys (m : SortedMap κ α order) (p : κ → Bool) (k : κ) :
    (m.filterKeys p).get? k = if p k then m.get? k else none := by
  apply Option.ext
  intro a
  rw [get?_eq_some_iff]
  split <;> simp_all [filterKeys, get?_eq_some_iff]

theorem get?_erase [DecidableEq κ] (m : SortedMap κ α order) (k k' : κ) :
    (m.erase k).get? k' = if k' = k then none else m.get? k' := by
  rw [erase, get?_filterKeys]
  by_cases heq : k' = k
  . subst heq
    simp
  . simp [heq, Ne.symm heq, Std.LawfulEqCmp.compare_eq_iff_eq]

end LookUp

section Insert

variable [Std.TransCmp order] [Std.LawfulEqCmp order]

theorem mem_insertEntry_iff {k : κ} {a : α} {entries : List (κ × α)}
    (ascending : entries.Pairwise fun a b => order a.1 b.1 = .lt) (e : κ × α) :
    e ∈ insertEntry order k a entries ↔ e = (k, a) ∨ e.1 ≠ k ∧ e ∈ entries := by
  induction entries with
  | nil => simp [insertEntry]
  | cons entry rest ih =>
    rcases List.pairwise_cons.1 ascending with ⟨hentry, hrest⟩
    -- The keys ascend, so once `k` has its place no key behind that place is `k`.
    have hbehind : (order k entry.1).isLE → ∀ b ∈ rest, k ≠ b.1 := by
      intro hk b hb
      exact ne_of_order_eq_lt (Std.TransCmp.lt_of_isLE_of_lt hk (hentry b hb))
    rw [insertEntry]
    split
    . next hk =>
      have hne := ne_of_order_eq_lt hk
      have := hbehind (by simp [hk])
      grind
    . next hk =>
      have heq : k = entry.1 := Std.LawfulEqCmp.eq_of_compare hk
      have := hbehind (by simp [hk])
      grind
    . next hk =>
      have hne := ne_of_order_eq_lt (Std.OrientedCmp.lt_of_gt hk)
      rw [List.mem_cons, ih hrest]
      grind

theorem get?_insert [DecidableEq κ] (m : SortedMap κ α order) (k k' : κ) (a : α) :
    (m.insert k a).get? k' = if k' = k then some a else m.get? k' := by
  apply Option.ext
  intro b
  rw [get?_eq_some_iff]
  simp only [insert, mem_insertEntry_iff m.ascending, Prod.mk.injEq]
  split
  . next heq => simp [heq, eq_comm]
  . next hne => simp [hne, get?_eq_some_iff]

theorem get?_insertIfNew [DecidableEq κ] (m : SortedMap κ α order) (k k' : κ) (a : α) :
    (m.insertIfNew k a).get? k' = (m.get? k').or (if k' = k then some a else none) := by
  unfold insertIfNew contains
  split
  . next hk =>
    split
    . next heq => rw [heq, Option.or_of_isSome hk]
    . rw [Option.or_none]
  . next hk =>
    rw [get?_insert]
    split
    . next heq =>
      rw [Option.not_isSome_iff_eq_none] at hk
      rw [heq, hk, Option.none_or]
    . rw [Option.or_none]

theorem get?_foldl_insert [DecidableEq κ] {β : Type} {key : β → κ} {f : β → α} {items : List β}
    {k : κ} {a : α} (h : ∀ b ∈ items, key b = k → f b = a) (m : SortedMap κ α order) :
    (items.foldl (fun m b => m.insert (key b) (f b)) m).get? k
      = if k ∈ items.map key then some a else m.get? k := by
  induction items generalizing m with
  | nil => rfl
  | cons b rest ih =>
    rcases List.forall_mem_cons.1 h with ⟨hb, hrest⟩
    rw [List.foldl_cons, ih hrest, get?_insert, List.map_cons]
    by_cases hk : k = key b
    . simp [← hk, hb hk.symm]
    . simp [hk]

theorem ext_get? {a b : SortedMap κ α order} (h : ∀ k, a.get? k = b.get? k) : a = b := by
  have hnodup : ∀ m : SortedMap κ α order, m.entries.Nodup := by
    intro m
    apply m.ascending.imp
    rintro e _ hlt rfl
    exact ne_of_order_eq_lt hlt rfl
  have hperm : a.entries.Perm b.entries := by
    rw [List.perm_ext_iff_of_nodup (hnodup a) (hnodup b)]
    rintro ⟨k, x⟩
    rw [← get?_eq_some_iff, ← get?_eq_some_iff, h]
  have hentries : a.entries = b.entries := by
    apply List.Perm.eq_of_pairwise _ a.ascending b.ascending hperm
    intro x y _ _ hxy hyx
    exact absurd rfl (ne_of_order_eq_lt (Std.TransCmp.lt_trans hxy hyx))
  cases a
  cases b
  congr

theorem insert_self [DecidableEq κ] {m : SortedMap κ α order} {k : κ} {a : α}
    (h : m.get? k = some a) : m.insert k a = m := by
  apply ext_get?
  intro k'
  rw [get?_insert]
  split
  . next heq => rw [heq, h]
  . rfl

theorem map_insert [DecidableEq κ] (m : SortedMap κ α order) (k : κ) (a : α) (f : α → α) :
    (m.insert k a).map f = (m.map f).insert k (f a) := by
  apply ext_get?
  intro k'
  rw [get?_map, get?_insert, get?_insert, get?_map]
  split <;> rfl

theorem keys_insertEntry_of_mem {k : κ} (a : α) {entries : List (κ × α)}
    (ascending : entries.Pairwise fun a b => order a.1 b.1 = .lt)
    (h : k ∈ entries.map (·.1)) :
    (insertEntry order k a entries).map (·.1) = entries.map (·.1) := by
  induction entries with
  | nil => simp at h
  | cons entry rest ih =>
    rcases List.pairwise_cons.1 ascending with ⟨hentry, hrest⟩
    rw [insertEntry]
    split
    . next hk =>
      -- A key below the first one is below them all, so it is none of them.
      exfalso
      rcases List.mem_map.1 h with ⟨b, hb, heq⟩
      rcases List.mem_cons.1 hb with rfl | hb
      . exact ne_of_order_eq_lt hk heq.symm
      . exact ne_of_order_eq_lt (Std.TransCmp.lt_trans hk (hentry b hb)) heq.symm
    . next hk =>
      rw [Std.LawfulEqCmp.eq_of_compare hk]
      rfl
    . next hk =>
      have hne := ne_of_order_eq_lt (Std.OrientedCmp.lt_of_gt hk)
      rw [List.map_cons, List.map_cons, ih hrest]
      simpa [hne.symm] using h

theorem keys_insert_of_mem (m : SortedMap κ α order) {k : κ} (a : α) (h : k ∈ m.keys) :
    (m.insert k a).keys = m.keys := by
  exact keys_insertEntry_of_mem a m.ascending h

end Insert

end SortedMap
end ModularSynth
