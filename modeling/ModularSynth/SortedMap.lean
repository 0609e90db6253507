/-!
This module contains finite maps whose entries are listed in ascending order of their keys. The
order of the keys is a parameter, so that the same map serves ids and names.
-/

namespace ModularSynth

/-- A finite map from `κ` to `α`, with entries in ascending order of keys. -/
structure SortedMap (κ α : Type) (order : κ → κ → Ordering) where
  entries : List (κ × α)
  ascending : entries.Pairwise fun a b => order a.1 b.1 = .lt

namespace SortedMap

variable {κ α : Type} {order : κ → κ → Ordering}

def empty : SortedMap κ α order :=
  ⟨[], .nil⟩

/-- Put an entry at its place in a list in ascending order, instead of one with the same key. -/
def insertEntry (order : κ → κ → Ordering) (k : κ) (a : α) : List (κ × α) → List (κ × α)
  | [] => [(k, a)]
  | entry :: rest =>
    match order k entry.1 with
    | .lt => (k, a) :: entry :: rest
    | .eq => (k, a) :: rest
    | .gt => entry :: insertEntry order k a rest

theorem mem_insertEntry {k : κ} {a : α} {entries : List (κ × α)} {e : κ × α}
    (h : e ∈ insertEntry order k a entries) : e = (k, a) ∨ e ∈ entries := by
  induction entries with
  | nil => simpa [insertEntry] using h
  | cons entry rest ih =>
    simp only [insertEntry] at h
    split at h
    . simpa using h
    . rcases List.mem_cons.1 h with h | h
      . exact .inl h
      . exact .inr (List.mem_cons_of_mem _ h)
    . rcases List.mem_cons.1 h with h | h
      . exact .inr (h ▸ List.mem_cons_self)
      . exact (ih h).imp_right (List.mem_cons_of_mem _)

theorem insertEntry_ascending [Std.TransCmp order] {k : κ} {a : α} {entries : List (κ × α)}
    (h : entries.Pairwise fun a b => order a.1 b.1 = .lt) :
    (insertEntry order k a entries).Pairwise fun a b => order a.1 b.1 = .lt := by
  induction entries with
  | nil => simp [insertEntry]
  | cons entry rest ih =>
    have ⟨hentry, hrest⟩ := List.pairwise_cons.1 h
    simp only [insertEntry]
    split
    case h_1 hk =>
      refine List.pairwise_cons.2 ⟨fun b hb => ?_, h⟩
      rcases List.mem_cons.1 hb with rfl | hb
      . exact hk
      . exact Std.TransCmp.lt_trans hk (hentry b hb)
    case h_2 hk =>
      refine List.pairwise_cons.2 ⟨fun b hb => ?_, hrest⟩
      exact Std.TransCmp.lt_of_eq_of_lt hk (hentry b hb)
    case h_3 hk =>
      refine List.pairwise_cons.2 ⟨fun b hb => ?_, ih hrest⟩
      rcases mem_insertEntry hb with rfl | hb
      . exact Std.OrientedCmp.lt_of_gt hk
      . exact hentry b hb

def filterKeys (m : SortedMap κ α order) (p : κ → Bool) : SortedMap κ α order :=
  ⟨m.entries.filter (p ·.1), m.ascending.filter _⟩

def erase (m : SortedMap κ α order) (k : κ) : SortedMap κ α order :=
  m.filterKeys (order k · != .eq)

def get? (m : SortedMap κ α order) (k : κ) : Option α :=
  (m.entries.find? (order k ·.1 == .eq)).map (·.2)

def contains (m : SortedMap κ α order) (k : κ) : Bool :=
  (m.get? k).isSome

def map (m : SortedMap κ α order) (f : α → α) : SortedMap κ α order :=
  ⟨m.entries.map fun e => (e.1, f e.2), List.pairwise_map.2 m.ascending⟩

def keys (m : SortedMap κ α order) : List κ :=
  m.entries.map (·.1)

/-- The values, in ascending order of their keys. -/
def values (m : SortedMap κ α order) : List α :=
  m.entries.map (·.2)

def size (m : SortedMap κ α order) : Nat :=
  m.entries.length

/-- The map with `a` at `k`, whether it had an entry for `k` or not. -/
def insert [Std.TransCmp order] (m : SortedMap κ α order) (k : κ) (a : α) :
    SortedMap κ α order :=
  ⟨insertEntry order k a m.entries, insertEntry_ascending m.ascending⟩

/-- The map with an entry for `k`, which keeps its value if there is one. -/
def insertIfNew [Std.TransCmp order] (m : SortedMap κ α order) (k : κ) (a : α) :
    SortedMap κ α order :=
  if m.contains k then m else m.insert k a

end SortedMap
end ModularSynth
