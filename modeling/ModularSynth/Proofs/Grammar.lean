import ModularSynth.Proofs.Address

/-!
This module contains the grammar of addresses, and that reading follows it: which texts spell which
address, and what is reported of a text that spells none. Blanks at the ends of the whole text turn
out to be blanks around its first or last part, so the grammar only speaks of the latter.
-/

namespace ModularSynth

namespace Numeral

/-- The numerals of a number: digits with as many leading zeros as one likes, and maybe a `+`. -/
def Spells (cs : List Char) (n : UInt64) : Prop :=
  ∃ digits, (cs = digits ∨ cs = '+' :: digits) ∧ digits ≠ [] ∧ (∀ c ∈ digits, c.isDigit)
    ∧ value digits = n.toNat

theorem eq_unsigned (cs : List Char) : cs = unsigned cs ∨ cs = '+' :: unsigned cs := by
  unfold unsigned
  split
  . exact .inr rfl
  . exact .inl rfl

theorem read?_eq_some_iff {cs : List Char} {n : UInt64} : read? cs = some n ↔ Spells cs n := by
  constructor
  . intro h
    simp only [read?, Option.ite_none_right_eq_some, Bool.and_eq_true, Bool.not_eq_true',
      decide_eq_true_eq, Option.some.injEq] at h
    rcases h with ⟨⟨⟨hne, hdigits⟩, hlt⟩, rfl⟩
    refine ⟨unsigned cs, eq_unsigned cs, ?_, List.all_eq_true.1 hdigits, ?_⟩
    . rw [Ne, ← List.isEmpty_iff, hne]
      exact Bool.false_ne_true
    . exact (UInt64.toNat_ofNat_of_lt' hlt).symm
  . rintro ⟨digits, hcs, hne, hdigits, hvalue⟩
    have hunsigned : unsigned cs = digits := by
      rcases hcs with rfl | rfl
      . exact unsigned_eq_self hdigits
      . rfl
    simp only [read?, hunsigned, hvalue]
    simpa [hne, n.toNat_lt] using hdigits

end Numeral

namespace Address

open Text (Padded)

theorem isSegment_of_spells {digits : List Char} {n : UInt64} (h : Numeral.Spells digits n) :
    IsSegment digits := by
  rcases h with ⟨rest, hcs, hne, hrest, -⟩
  rcases hcs with rfl | rfl
  . exact isSegment_of_forall hne fun c hc => inSegment_of_isDigit (hrest c hc)
  . apply isSegment_of_forall (List.cons_ne_nil _ _)
    intro c hc
    rcases List.mem_cons.1 hc with rfl | hc
    . decide
    . exact inSegment_of_isDigit (hrest c hc)

/-- The parts of a text, without the blanks around them. -/
def parts (cs : List Char) : List (List Char) :=
  (cs.splitOn separator).map Text.trim

section Parts

variable {cs a b m n : List Char} {rest : List (List Char)}

theorem separator_notMem_of_isAllBlank (h : Text.isAllBlank cs) : separator ∉ cs := by
  intro hmem
  exact absurd (List.all_eq_true.1 h separator hmem) (by decide)

theorem isAllBlank_of_trim (h : IsSegment (Text.trim cs)) : Text.isAllBlank cs = false := by
  rw [← Bool.not_eq_true, ← Text.trim_eq_nil_iff]
  exact h.ne_nil

theorem parts_of_notMem (h : separator ∉ cs) : parts cs = [Text.trim cs] := by
  rw [parts, List.splitOn_eq_singleton h, List.map_singleton]

theorem parts_append_cons (h : separator ∉ a) (b : List Char) :
    parts (a ++ separator :: b) = Text.trim a :: parts b := by
  rw [parts, List.splitOn_append_cons_self_of_not_mem h, List.map_cons, parts]

theorem parts_eq_singleton (h : parts cs = [m]) : separator ∉ cs ∧ Text.trim cs = m := by
  rcases List.map_eq_singleton_iff.1 h with ⟨piece, hsplit, rfl⟩
  have hcs : [separator].intercalate (cs.splitOn separator) = cs :=
    List.intercalate_splitOn separator
  rw [hsplit, List.intercalate_singleton] at hcs
  rw [hcs] at hsplit
  refine ⟨List.not_mem_of_mem_splitOn (hsplit ▸ List.mem_singleton_self cs), ?_⟩
  rw [hcs]

theorem parts_eq_cons_cons (h : parts cs = m :: n :: rest) :
    ∃ a b, cs = a ++ separator :: b ∧ separator ∉ a ∧ Text.trim a = m ∧ parts b = n :: rest := by
  rcases List.map_eq_cons_iff.1 h with ⟨a, pieces, hsplit, rfl, hrest⟩
  have hpieces : ∀ piece ∈ cs.splitOn separator, separator ∉ piece :=
    fun piece hpiece => List.not_mem_of_mem_splitOn hpiece
  have hcs : [separator].intercalate (cs.splitOn separator) = cs :=
    List.intercalate_splitOn separator
  rw [hsplit] at hpieces hcs
  rcases List.map_eq_cons_iff.1 hrest with ⟨piece, pieces', rfl, -, -⟩
  rcases List.forall_mem_cons.1 hpieces with ⟨ha, hpieces⟩
  refine ⟨a, [separator].intercalate (piece :: pieces'), ?_, ha, rfl, ?_⟩
  . rw [← hcs, List.intercalate_cons_cons, List.append_assoc, List.singleton_append]
  . rw [parts, List.splitOn_intercalate separator hpieces (List.cons_ne_nil _ _), hrest]

theorem parts_of_padded (h : Padded cs m) : parts cs = parts m := by
  rcases h with ⟨before, after, hbefore, hafter, rfl⟩
  rcases List.splitOn_append_left (separator_notMem_of_isAllBlank hbefore) m with
    ⟨first, others, hm, hleft⟩
  rcases List.splitOn_append_right (separator_notMem_of_isAllBlank hafter) (before ++ m) with
    ⟨others', last, hleft', hright⟩
  calc parts (before ++ m ++ after)
    _ = parts (before ++ m) := by
      rw [parts, parts, hright, hleft', List.map_append, List.map_append, List.map_singleton,
        List.map_singleton, Text.trim_append_right hafter]
    _ = parts m := by
      rw [parts, parts, hleft, hm, List.map_cons, List.map_cons, Text.trim_append_left hbefore]

theorem parts_trim (cs : List Char) : parts (Text.trim cs) = parts cs :=
  (parts_of_padded (Text.padded_trim cs)).symm

theorem parts_segment (hcs : Padded cs m) (hm : IsSegment m) : parts cs = [m] := by
  rw [parts_of_padded hcs, parts_of_notMem hm.notMem, hm.trim_eq]

theorem parts_segment_cons (ha : Padded a m) (hm : IsSegment m) (b : List Char) :
    parts (a ++ separator :: b) = m :: parts b := by
  rcases parts_eq_singleton (parts_segment ha hm) with ⟨hmem, htrim⟩
  rw [parts_append_cons hmem, htrim]

/-- A text of several parts gets past all tests that come before its parts are counted. -/
theorem tests_of_parts (h : parts cs = m :: n :: rest) (hne : [] ∉ m :: n :: rest) :
    Text.trim cs ≠ [] ∧ Text.trim cs ≠ sinkName.toList
      ∧ ((Text.trim cs).splitOn separator).any Text.isAllBlank = false := by
  rw [← parts_trim] at h
  refine ⟨?_, ?_, ?_⟩
  . intro hnil
    simp [hnil, parts] at h
  . intro hsink
    rw [hsink, parts_of_notMem isSegment_sinkName.notMem] at h
    simp at h
  . rw [← h] at hne
    simpa [parts, Text.trim_eq_nil_iff] using hne

theorem ofTrimmed_of_two (h : parts cs = [m, n]) (hne : [] ∉ [m, n]) :
    ofTrimmed (Text.trim cs) = .ok (.named ⟨String.ofList m⟩ (String.ofList n)) := by
  rcases tests_of_parts h hne with ⟨hnil, hsink, hblank⟩
  rw [ofTrimmed, if_neg hnil, if_neg hsink]
  dsimp only
  rw [hblank, if_neg Bool.false_ne_true, ← parts, parts_trim, h]

theorem ofTrimmed_of_three {slot : List Char} (h : parts cs = [m, n, slot])
    (hne : [] ∉ [m, n, slot]) :
    ofTrimmed (Text.trim cs) = (Numeral.read? slot).elim
      (.error (.invalidSlot (String.ofList (Text.trim cs)) (String.ofList slot)))
      fun k => .ok (.slotted ⟨String.ofList m⟩ (String.ofList n) k) := by
  rcases tests_of_parts h hne with ⟨hnil, hsink, hblank⟩
  rw [ofTrimmed, if_neg hnil, if_neg hsink]
  dsimp only
  rw [hblank, if_neg Bool.false_ne_true, ← parts, parts_trim, h]
  dsimp only
  cases Numeral.read? slot with
  | some k => rfl
  | none => rfl

end Parts

/-- The grammar of addresses. -/
inductive Spells : List Char → Address → Prop
  | destination {cs : List Char} (hcs : Padded cs sinkName.toList) : Spells cs .destination
  | named {module : ModuleId} {name : String} {a b : List Char}
    (ha : Padded a module.text.toList) (hb : Padded b name.toList)
    (hmodule : IsSegment module.text.toList) (hname : IsSegment name.toList) :
    Spells (a ++ separator :: b) (.named module name)
  | slotted {module : ModuleId} {port : String} {slot : UInt64} {a b c digits : List Char}
    (ha : Padded a module.text.toList) (hb : Padded b port.toList) (hc : Padded c digits)
    (hmodule : IsSegment module.text.toList) (hport : IsSegment port.toList)
    (hslot : Numeral.Spells digits slot) :
    Spells (a ++ separator :: (b ++ separator :: c)) (.slotted module port slot)

/-- Three parts of which none is blank, but the last is no numeral; `slot` is what it is instead. -/
def Misnumbered (cs slot : List Char) : Prop :=
  ∃ a b c, cs = a ++ separator :: (b ++ separator :: c)
    ∧ (∀ part ∈ [a, b, c], separator ∉ part ∧ Text.isAllBlank part = false)
    ∧ slot = Text.trim c ∧ ∀ n, ¬Numeral.Spells slot n

section Spelled

variable {cs m n slot : List Char}

theorem spells_of_two (h : parts cs = [m, n]) (hm : IsSegment m) (hn : IsSegment n) :
    Spells cs (.named ⟨String.ofList m⟩ (String.ofList n)) := by
  rcases parts_eq_cons_cons h with ⟨a, b, rfl, -, rfl, hb⟩
  rcases parts_eq_singleton hb with ⟨-, rfl⟩
  apply Spells.named
  . simpa using Text.padded_trim a
  . simpa using Text.padded_trim b
  . simpa using hm
  . simpa using hn

theorem parts_eq_three (h : parts cs = [m, n, slot]) :
    ∃ a b c, cs = a ++ separator :: (b ++ separator :: c) ∧ (∀ part ∈ [a, b, c], separator ∉ part)
      ∧ Text.trim a = m ∧ Text.trim b = n ∧ Text.trim c = slot := by
  rcases parts_eq_cons_cons h with ⟨a, others, rfl, ha, htrima, hothers⟩
  rcases parts_eq_cons_cons hothers with ⟨b, c, rfl, hb, htrimb, hlast⟩
  rcases parts_eq_singleton hlast with ⟨hc, htrimc⟩
  refine ⟨a, b, c, rfl, ?_, htrima, htrimb, htrimc⟩
  simp [ha, hb, hc]

theorem spells_of_three {k : UInt64} (h : parts cs = [m, n, slot]) (hm : IsSegment m)
    (hn : IsSegment n) (hslot : Numeral.Spells slot k) :
    Spells cs (.slotted ⟨String.ofList m⟩ (String.ofList n) k) := by
  rcases parts_eq_three h with ⟨a, b, c, rfl, -, rfl, rfl, rfl⟩
  refine Spells.slotted ?_ ?_ (Text.padded_trim c) ?_ ?_ hslot
  . simpa using Text.padded_trim a
  . simpa using Text.padded_trim b
  . simpa using hm
  . simpa using hn

theorem misnumbered_of_three (h : parts cs = [m, n, slot])
    (hsegments : ∀ part ∈ [m, n, slot], IsSegment part) (hslot : ∀ k, ¬Numeral.Spells slot k) :
    Misnumbered cs slot := by
  rcases parts_eq_three h with ⟨a, b, c, rfl, hseparator, rfl, rfl, rfl⟩
  refine ⟨a, b, c, rfl, ?_, rfl, hslot⟩
  intro part hpart
  refine ⟨hseparator part hpart, isAllBlank_of_trim (hsegments (Text.trim part) ?_)⟩
  exact List.mem_map_of_mem (f := Text.trim) hpart

end Spelled

/-- Everything that can come of reading a text. -/
inductive Outcome (cs : List Char) : Except AddressError Address → Prop
  | blank (h : Text.isAllBlank cs) : Outcome cs (.error .empty)
  | address {a : Address} (h : Spells cs a) : Outcome cs (.ok a)
  | misnumbered {slot : List Char} (h : Misnumbered cs slot) :
    Outcome cs (.error (.invalidSlot (String.ofList (Text.trim cs)) (String.ofList slot)))
  | malformed : Outcome cs (.error (.malformed (String.ofList (Text.trim cs))))

theorem outcome (cs : List Char) : Outcome cs (ofTrimmed (Text.trim cs)) := by
  rw [ofTrimmed]
  split
  . next hblank => exact .blank (Text.trim_eq_nil_iff.1 hblank)
  . split
    . next hsink =>
      apply Outcome.address
      apply Spells.destination
      rw [← hsink]
      exact Text.padded_trim cs
    . dsimp only
      split
      . exact .malformed
      . next hblank =>
        have hsegments := isSegment_of_mem_map_trim (by simpa using hblank)
        rw [← parts, parts_trim] at hsegments ⊢
        split
        . next module name hparts =>
          rw [hparts] at hsegments
          simp only [List.forall_mem_cons] at hsegments
          exact .address (spells_of_two hparts hsegments.1 hsegments.2.1)
        . next module port slot hparts =>
          rw [hparts] at hsegments
          split
          . next n hn =>
            rw [Numeral.read?_eq_some_iff] at hn
            simp only [List.forall_mem_cons] at hsegments
            exact .address (spells_of_three hparts hsegments.1 hsegments.2.1 hn)
          . next hn =>
            apply Outcome.misnumbered
            apply misnumbered_of_three hparts hsegments
            intro n hspells
            rw [Numeral.read?_eq_some_iff.2 hspells] at hn
            contradiction
        . exact .malformed

theorem ofTrimmed_of_isAllBlank {cs : List Char} (h : Text.isAllBlank cs) :
    ofTrimmed (Text.trim cs) = .error .empty := by
  rw [ofTrimmed, if_pos (Text.trim_eq_nil_iff.2 h)]

theorem ofTrimmed_of_spells {cs : List Char} {a : Address} (h : Spells cs a) :
    ofTrimmed (Text.trim cs) = .ok a := by
  cases h with
  | destination hcs =>
    rw [hcs.trim_eq, isSegment_sinkName.trim_eq]
    rfl
  | @named module name a b ha hb hmodule hname =>
    have hparts : parts (a ++ separator :: b) = [module.text.toList, name.toList] := by
      rw [parts_segment_cons ha hmodule, parts_segment hb hname]
    rw [ofTrimmed_of_two hparts (by simp [hmodule.ne_nil, hname.ne_nil]), String.ofList_toList,
      String.ofList_toList]
  | @slotted module port slot a b c digits ha hb hc hmodule hport hslot =>
    have hdigits := isSegment_of_spells hslot
    have hparts : parts (a ++ separator :: (b ++ separator :: c))
        = [module.text.toList, port.toList, digits] := by
      rw [parts_segment_cons ha hmodule, parts_segment_cons hb hport, parts_segment hc hdigits]
    rw [ofTrimmed_of_three hparts (by simp [hmodule.ne_nil, hport.ne_nil, hdigits.ne_nil]),
      Numeral.read?_eq_some_iff.2 hslot, Option.elim_some, String.ofList_toList,
      String.ofList_toList]

theorem ofTrimmed_of_misnumbered {cs slot : List Char} (h : Misnumbered cs slot) :
    ofTrimmed (Text.trim cs)
      = .error (.invalidSlot (String.ofList (Text.trim cs)) (String.ofList slot)) := by
  rcases h with ⟨a, b, c, rfl, hplain, rfl, hslot⟩
  have hsegment : ∀ part ∈ [a, b, c], IsSegment (Text.trim part) :=
    fun part hpart => isSegment_trim (hplain part hpart).2 (hplain part hpart).1
  simp only [List.forall_mem_cons] at hsegment
  rcases hsegment with ⟨ha, hb, hc, -⟩
  have hparts : parts (a ++ separator :: (b ++ separator :: c))
      = [Text.trim a, Text.trim b, Text.trim c] := by
    rw [parts_segment_cons (Text.padded_trim a) ha, parts_segment_cons (Text.padded_trim b) hb,
      parts_segment (Text.padded_trim c) hc]
  have hread : Numeral.read? (Text.trim c) = none := by
    rw [Option.eq_none_iff_forall_ne_some]
    intro n hn
    exact hslot n (Numeral.read?_eq_some_iff.1 hn)
  rw [ofTrimmed_of_three hparts (by simp [ha.ne_nil, hb.ne_nil, hc.ne_nil]), hread,
    Option.elim_none]

/--
Reading follows the grammar. A text that spells no address is reported as empty if it is blank, with
its last part if that is no numeral behind two other parts, and as malformed else.
-/
theorem parse_spells (text : String) :
    (∀ a, parse text = .ok a ↔ Spells text.toList a)
      ∧ (parse text = .error .empty ↔ Text.isAllBlank text.toList)
      ∧ (∀ whole slot, parse text = .error (.invalidSlot whole slot) ↔
          whole = trimmed text ∧ Misnumbered text.toList slot.toList)
      ∧ (∀ whole, parse text = .error (.malformed whole) ↔
          whole = trimmed text ∧ ¬Text.isAllBlank text.toList
            ∧ (∀ a, ¬Spells text.toList a) ∧ ∀ slot, ¬Misnumbered text.toList slot) := by
  have houtcome : Outcome text.toList (parse text) := outcome text.toList
  refine ⟨?_, ?_, ?_, ?_⟩
  . intro a
    constructor
    . intro h
      rw [h] at houtcome
      cases houtcome with
      | address hspells => exact hspells
    . exact ofTrimmed_of_spells
  . constructor
    . intro h
      rw [h] at houtcome
      cases houtcome with
      | blank hblank => exact hblank
    . exact ofTrimmed_of_isAllBlank
  . intro whole slot
    constructor
    . intro h
      rw [h] at houtcome
      cases houtcome with
      | misnumbered hslot =>
        rw [String.toList_ofList]
        exact ⟨rfl, hslot⟩
    . rintro ⟨rfl, hslot⟩
      rw [parse, ofTrimmed_of_misnumbered hslot, String.ofList_toList]
      rfl
  . intro whole
    constructor
    . intro h
      rw [h] at houtcome
      cases houtcome with
      | malformed =>
        -- Any of the other readings would have been the one that was made.
        rw [parse] at h
        refine ⟨rfl, ?_, ?_, ?_⟩
        . intro hblank
          rw [ofTrimmed_of_isAllBlank hblank] at h
          cases h
        . intro a hspells
          rw [ofTrimmed_of_spells hspells] at h
          cases h
        . intro slot hslot
          rw [ofTrimmed_of_misnumbered hslot] at h
          cases h
    . rintro ⟨rfl, hblank, hspells, hslot⟩
      generalize parse text = result at houtcome
      cases houtcome with
      | blank h => exact absurd h hblank
      | address h => exact absurd h (hspells _)
      | misnumbered h => exact absurd h (hslot _)
      | malformed => rfl

end Address
end ModularSynth
