import ModularSynth.Address
import ModularSynth.Proofs.Blank
import ModularSynth.Proofs.List

/-!
This module contains which addresses are read back from their own text: those whose parts are
segments, texts without separators and without blanks at their ends.
-/

namespace ModularSynth
namespace Address

/-- A text that is read as itself between separators. -/
structure IsSegment (cs : List Char) : Prop where
  trim_eq : Text.trim cs = cs
  ne_nil : cs ≠ []
  notMem : separator ∉ cs

instance (cs : List Char) : Decidable (IsSegment cs) :=
  decidable_of_iff (Text.trim cs = cs ∧ cs ≠ [] ∧ separator ∉ cs)
    ⟨fun ⟨htrim, hne, hmem⟩ => ⟨htrim, hne, hmem⟩, fun h => ⟨h.trim_eq, h.ne_nil, h.notMem⟩⟩

theorem IsSegment.isAllBlank {cs : List Char} (h : IsSegment cs) : Text.isAllBlank cs = false := by
  rw [← Bool.not_eq_true, ← Text.trim_eq_nil_iff, h.trim_eq]
  exact h.ne_nil

theorem isSegment_trim {cs : List Char} (hblank : Text.isAllBlank cs = false)
    (hmem : separator ∉ cs) : IsSegment (Text.trim cs) where
  trim_eq := Text.trim_trim
  ne_nil := by
    rw [Ne, Text.trim_eq_nil_iff, hblank]
    exact Bool.false_ne_true
  notMem := fun h => hmem (Text.mem_of_mem_trim h)

theorem isSegment_of_mem_map_trim {cs : List Char}
    (h : (cs.splitOn separator).any Text.isAllBlank = false) :
    ∀ s ∈ (cs.splitOn separator).map Text.trim, IsSegment s := by
  intro s hs
  rcases List.mem_map.1 hs with ⟨part, hpart, rfl⟩
  apply isSegment_trim
  . exact Bool.eq_false_iff.2 (List.any_eq_false.1 h part hpart)
  . exact List.not_mem_of_mem_splitOn hpart

theorem isSegment_of_forall {cs : List Char} (hne : cs ≠ [])
    (h : ∀ c ∈ cs, Text.isBlank c = false ∧ c ≠ separator) : IsSegment cs where
  trim_eq := Text.trim_of_forall fun c hc => (h c hc).1
  ne_nil := hne
  notMem := fun hc => (h separator hc).2 rfl

theorem inSegment_of_isDigit {c : Char} (h : c.isDigit) :
    Text.isBlank c = false ∧ c ≠ separator := by
  constructor
  . have hblanks : Text.blanks.all (!·.isDigit) := by decide
    rw [← Bool.not_eq_true, Text.isBlank, List.contains_iff_mem]
    intro hblank
    have hdigit := List.all_eq_true.1 hblanks c hblank
    rw [h] at hdigit
    contradiction
  . rintro rfl
    exact absurd h (by decide)

theorem isSegment_write (n : UInt64) : IsSegment (Numeral.write n) := by
  apply isSegment_of_forall Numeral.write_ne_nil
  intro c hc
  exact inSegment_of_isDigit (Numeral.isDigit_of_mem_write hc)

theorem separator_notMem_of_isValid {id : ModuleId} (h : id.isValid) :
    separator ∉ id.text.toList := by
  simp only [ModuleId.isValid, Bool.and_eq_true, Bool.not_eq_true'] at h
  rw [← List.contains_iff_mem, Bool.not_eq_true]
  exact h.1.2

theorem isSegment_of_isValid {id : ModuleId} (h : id.isValid) (htrim : trimmed id.text = id.text) :
    IsSegment id.text.toList := by
  refine ⟨trimmed_eq_self_iff.1 htrim, ?_, separator_notMem_of_isValid h⟩
  simp only [ModuleId.isValid, Bool.and_eq_true, bne_iff_ne] at h
  rw [Ne, String.toList_eq_nil_iff]
  exact h.1.1

theorem isSegment_sinkName : IsSegment sinkName.toList := by
  decide

section Segments

variable {segments : List (List Char)} (hne : segments ≠ []) (h : ∀ s ∈ segments, IsSegment s)
include hne h

theorem splitOn_intercalate : ([separator].intercalate segments).splitOn separator = segments :=
  List.splitOn_intercalate separator (fun s hs => (h s hs).notMem) hne

theorem intercalate_ne_nil : [separator].intercalate segments ≠ [] := by
  intro hnil
  have hsplit := splitOn_intercalate hne h
  rw [hnil] at hsplit
  exact (h [] (by simp [← hsplit])).ne_nil rfl

theorem trim_intercalate :
    Text.trim ([separator].intercalate segments) = [separator].intercalate segments := by
  induction segments with
  | nil => contradiction
  | cons s rest ih =>
    rcases List.forall_mem_cons.1 h with ⟨hs, hrest⟩
    cases rest with
    | nil =>
      rw [List.intercalate_singleton]
      exact hs.trim_eq
    | cons s' rest =>
      have hne' : s' :: rest ≠ [] := List.cons_ne_nil s' rest
      rw [List.intercalate_cons_of_ne_nil hne', List.append_assoc, List.singleton_append]
      apply Text.trim_append_cons hs.trim_eq (ih hne' hrest) hs.ne_nil
      exact intercalate_ne_nil hne' hrest

end Segments

def segments : Address → List (List Char)
  | .destination => [sinkName.toList]
  | .named module name => [module.text.toList, name.toList]
  | .slotted module port slot => [module.text.toList, port.toList, Numeral.write slot]

theorem toList_text (a : Address) : a.text.toList = [separator].intercalate a.segments := by
  cases a with
  | destination => simp [text, segments]
  | named module name => simp [text, segments, toString, List.intercalate, separator]
  | slotted module port slot => simp [text, segments, toString, List.intercalate, separator]

theorem segments_ne_nil (a : Address) : a.segments ≠ [] := by
  cases a <;> exact List.cons_ne_nil _ _

def Canonical (a : Address) : Prop :=
  ∀ s ∈ a.segments, IsSegment s

theorem parse_text {a : Address} (h : a.Canonical) : parse a.text = .ok a := by
  have hne := intercalate_ne_nil a.segments_ne_nil h
  have hsplit := splitOn_intercalate a.segments_ne_nil h
  have hblank : a.segments.any Text.isAllBlank = false := by
    rw [List.any_eq_false]
    intro s hs
    rw [(h s hs).isAllBlank]
    exact Bool.false_ne_true
  have htrim : a.segments.map Text.trim = a.segments :=
    (List.map_congr_left fun s hs => (h s hs).trim_eq).trans (List.map_id _)
  rw [parse, toList_text, trim_intercalate a.segments_ne_nil h, ofTrimmed, if_neg hne, hsplit]
  split
  . next hsink =>
    -- The name of the sink has no separator, so it is no join of two or three parts.
    have hparts : a.segments = [sinkName.toList] := by
      rw [← hsplit, hsink]
      exact List.splitOn_eq_singleton isSegment_sinkName.notMem
    cases a with
    | destination => rfl
    | named | slotted => simp [segments] at hparts
  . next hsink =>
    dsimp only
    rw [hblank, htrim]
    cases a with
    | destination => exact absurd rfl hsink
    | named module name => simp [segments]
    | slotted module port slot => simp [segments, Numeral.read?_write]

theorem canonical_of_parse {text : String} {a : Address} (h : parse text = .ok a) :
    a.Canonical := by
  rw [parse, ofTrimmed] at h
  split at h
  . contradiction
  . split at h
    . cases h
      simpa [Canonical, segments] using isSegment_sinkName
    . dsimp only at h
      split at h
      . contradiction
      . next hblank =>
        have hparts := isSegment_of_mem_map_trim (by simpa using hblank)
        split at h
        . next module name heq =>
          cases h
          rw [heq] at hparts
          simpa [Canonical, segments] using hparts
        . next module port slot heq =>
          split at h
          . next n hn =>
            -- The slot may have been read from another numeral than the one written for it.
            cases h
            rw [heq] at hparts
            have := isSegment_write n
            simp_all [Canonical, segments]
          . contradiction
        . contradiction

/-- The texts an address holds. The name of the sink and the slot are written for it. -/
def names : Address → List String
  | .destination => []
  | .named module name => [module.text, name]
  | .slotted module port _ => [module.text, port]

theorem canonical_iff {a : Address} : a.Canonical ↔ ∀ name ∈ a.names, IsSegment name.toList := by
  cases a with
  | destination => simpa [Canonical, segments, names] using isSegment_sinkName
  | named module name => simp [Canonical, segments, names]
  | slotted module port slot => simp [Canonical, segments, names, isSegment_write]

section Separators

variable {a b : Address}

theorem segments_injective : Function.Injective segments := by
  intro a b h
  -- The shapes differ in the number of their segments.
  cases a with
  | destination =>
    cases b with
    | destination => rfl
    | named | slotted => simp [segments] at h
  | named module name =>
    cases b with
    | named module' name' =>
      simp only [segments, List.cons.injEq, String.toList_inj, and_true] at h
      rw [ModuleId.ext h.1, h.2]
    | destination | slotted => simp [segments] at h
  | slotted module port slot =>
    cases b with
    | slotted module' port' slot' =>
      simp only [segments, List.cons.injEq, String.toList_inj, and_true] at h
      rw [ModuleId.ext h.1, h.2.1, Numeral.write_injective h.2.2]
    | destination | named => simp [segments] at h

theorem separator_notMem_segments (h : ∀ name ∈ a.names, separator ∉ name.toList) :
    ∀ s ∈ a.segments, separator ∉ s := by
  cases a with
  | destination => simpa [segments] using isSegment_sinkName.notMem
  | named module name => simpa [segments, names] using h
  | slotted module port slot =>
    have hslot := (isSegment_write slot).notMem
    simp_all [segments, names]

theorem splitOn_text (h : ∀ name ∈ a.names, separator ∉ name.toList) :
    a.text.toList.splitOn separator = a.segments := by
  rw [toList_text]
  exact List.splitOn_intercalate separator (separator_notMem_segments h) a.segments_ne_nil

/-- The texts of addresses differ, if no name in them holds a separator. -/
theorem eq_of_text_eq (ha : ∀ name ∈ a.names, separator ∉ name.toList)
    (hb : ∀ name ∈ b.names, separator ∉ name.toList) (h : a.text = b.text) : a = b := by
  apply segments_injective
  rw [← splitOn_text ha, ← splitOn_text hb, h]

end Separators

/--
An address is read back from its own text exactly if the texts it holds are segments. That is so of
every address that is read from any text.
-/
theorem parse_text_eq_self_iff :
    (∀ a : Address, parse a.text = .ok a ↔ ∀ name ∈ a.names, IsSegment name.toList)
      ∧ (∀ (text : String) (a : Address), parse text = .ok a →
          (∀ name ∈ a.names, IsSegment name.toList) ∧ parse a.text = .ok a) := by
  constructor
  . intro a
    rw [← canonical_iff]
    constructor
    . exact canonical_of_parse
    . exact parse_text
  . intro text a h
    have hcanonical := canonical_of_parse h
    exact ⟨canonical_iff.1 hcanonical, parse_text hcanonical⟩

/-- Blanks around the parts, a sign and leading zeros are lost, blanks inside a part are kept. -/
theorem parse_text_eq_self_mixer :
    let a := Address.slotted ⟨"mixer 1"⟩ "inputs" 3
    parse " mixer 1 /\tinputs / +003 " = .ok a ∧ a.text = "mixer 1/inputs/3"
      ∧ parse "mixer 1/inputs/3" = .ok a := by
  intro a
  have hparse : parse " mixer 1 /\tinputs / +003 " = .ok a := by decide +kernel
  have htext : a.text = "mixer 1/inputs/3" := by decide +kernel
  refine ⟨hparse, htext, ?_⟩
  rw [← htext]
  exact (parse_text_eq_self_iff.2 _ a hparse).2

def module? : Address → Option ModuleId
  | .destination => none
  | .named module _ => some module
  | .slotted module _ _ => some module

theorem Canonical.trimmed {a : Address} (h : a.Canonical) {id : ModuleId}
    (hid : a.module? = some id) : trimmed id.text = id.text := by
  rw [trimmed_eq_self_iff]
  cases a with
  | destination => contradiction
  | named | slotted =>
    cases hid
    exact (h _ List.mem_cons_self).trim_eq

end Address
end ModularSynth
