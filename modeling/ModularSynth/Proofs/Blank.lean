import Mathlib.Data.List.DropRight
import ModularSynth.Text.Blank

/-!
This module contains which texts are their own trim: those with no blank at either end. Trimming
leads to such a text, and putting a character between two of them leads to another.
-/

namespace ModularSynth
namespace Text

variable {cs : List Char}

theorem trimStart_eq_self_iff :
    trimStart cs = cs ↔ ∀ h : cs ≠ [], isBlank (cs.head h) = false := by
  cases cs with
  | nil => simp [trimStart]
  | cons c rest =>
    rw [trimStart, List.dropWhile_eq_self_iff]
    simp

theorem trimEnd_eq_self_iff :
    trimEnd cs = cs ↔ ∀ h : cs ≠ [], isBlank (cs.getLast h) = false := by
  have hdrop : trimEnd cs = cs.rdropWhile isBlank := rfl
  rw [hdrop, List.rdropWhile_eq_self_iff]
  simp

theorem trim_prefix_trimStart : trim cs <+: trimStart cs :=
  List.rdropWhile_prefix isBlank (trimStart cs)

theorem trim_eq_self_iff : trim cs = cs ↔ trimStart cs = cs ∧ trimEnd cs = cs := by
  constructor
  . intro h
    have hstart : trimStart cs = cs := by
      -- Nothing can be lost at the start, or the trim would be too short.
      apply (List.dropWhile_suffix isBlank).eq_of_length_le
      calc cs.length
        _ = (trim cs).length := by rw [h]
        _ ≤ (trimStart cs).length := trim_prefix_trimStart.length_le
    refine ⟨hstart, ?_⟩
    rw [trim, hstart] at h
    exact h
  . rintro ⟨hstart, hend⟩
    rw [trim, hstart, hend]

theorem trim_trim : trim (trim cs) = trim cs := by
  rw [trim_eq_self_iff]
  constructor
  . rw [trimStart_eq_self_iff]
    intro h
    rw [trim_prefix_trimStart.head h]
    apply List.head_dropWhile_not
  . exact List.rdropWhile_idempotent isBlank (trimStart cs)

theorem mem_of_mem_trim {c : Char} (h : c ∈ trim cs) : c ∈ cs :=
  (List.dropWhile_suffix isBlank).mem (trim_prefix_trimStart.mem h)

theorem trim_of_forall (h : ∀ c ∈ cs, isBlank c = false) : trim cs = cs := by
  rw [trim_eq_self_iff, trimStart_eq_self_iff, trimEnd_eq_self_iff]
  constructor
  . intro hne
    exact h _ (List.head_mem hne)
  . intro hne
    exact h _ (List.getLast_mem hne)

/-- What stands between two texts is not at the ends, so it may be a blank. -/
theorem trim_append_cons {as bs : List Char} (has : trim as = as) (hbs : trim bs = bs)
    (hne : as ≠ []) (hne' : bs ≠ []) (c : Char) : trim (as ++ c :: bs) = as ++ c :: bs := by
  rw [trim_eq_self_iff, trimStart_eq_self_iff, trimEnd_eq_self_iff] at *
  constructor
  . intro _
    rw [List.head_append_of_ne_nil hne]
    exact has.1 hne
  . intro _
    rw [List.getLast_append_of_ne_nil _ (List.cons_ne_nil c bs), List.getLast_cons hne']
    exact hbs.2 hne'

section Padding

variable {before after : List Char} (hbefore : isAllBlank before) (hafter : isAllBlank after)

include hbefore in
theorem trimStart_append_of_isAllBlank : trimStart (before ++ cs) = trimStart cs := by
  apply List.dropWhile_append_of_pos
  simpa [isAllBlank] using hbefore

include hafter in
theorem trimEnd_append_of_isAllBlank : trimEnd (cs ++ after) = trimEnd cs := by
  rw [← isAllBlank_reverse] at hafter
  rw [trimEnd, List.reverse_append, trimStart_append_of_isAllBlank hafter, trimEnd]

include hbefore in
theorem trim_append_left : trim (before ++ cs) = trim cs := by
  rw [trim, trimStart_append_of_isAllBlank hbefore, trim]

include hafter in
theorem trim_append_right : trim (cs ++ after) = trim cs := by
  cases hcs : isAllBlank cs with
  | true =>
    rw [trim_append_left hcs, trim_eq_nil_iff.2 hcs, trim_eq_nil_iff.2 hafter]
  | false =>
    have hne : (cs.dropWhile isBlank).isEmpty = false := by
      rw [← Bool.not_eq_true, List.isEmpty_iff, ← trimStart, trimStart_eq_nil_iff, hcs]
      exact Bool.false_ne_true
    rw [trim, trimStart, List.dropWhile_append, hne, if_neg Bool.false_ne_true,
      trimEnd_append_of_isAllBlank hafter]
    rfl

end Padding

/-- The first text is the second one with blanks around it. -/
def Padded (cs core : List Char) : Prop :=
  ∃ before after, isAllBlank before ∧ isAllBlank after ∧ cs = before ++ core ++ after

theorem padded_trim (cs : List Char) : Padded cs (trim cs) := by
  refine ⟨cs.takeWhile isBlank, (trimStart cs).rtakeWhile isBlank, ?_, ?_, ?_⟩
  . exact List.all_eq_true.2 fun c hc => List.mem_takeWhile_imp hc
  . exact List.all_eq_true.2 fun c hc => List.mem_rtakeWhile_imp hc
  . have hend : trim cs ++ (trimStart cs).rtakeWhile isBlank = trimStart cs :=
      List.rdropWhile_append_rtakeWhile
    rw [List.append_assoc, hend, trimStart, List.takeWhile_append_dropWhile]

theorem Padded.trim_eq {core : List Char} (h : Padded cs core) : trim cs = trim core := by
  rcases h with ⟨before, after, hbefore, hafter, rfl⟩
  rw [trim_append_right hafter, trim_append_left hbefore]

end Text

theorem trimmed_eq_self_iff {s : String} : trimmed s = s ↔ Text.trim s.toList = s.toList := by
  rw [trimmed, ← String.toList_inj, String.toList_ofList]

end ModularSynth
