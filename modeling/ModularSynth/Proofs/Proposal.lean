import ModularSynth.Proofs.Removal
import ModularSynth.Proofs.Verdict

/-!
This module contains why a proposal of two texts fails: the error is about the first thing that is
asked of the texts, of the addresses in them or of the endpoints of these, and is not so.
-/

namespace ModularSynth
namespace Patch

open Except (bind_eq_error_iff mapError_eq_ok_iff mapError_eq_error_iff)

/-- What is asked of two texts that are to be connected. -/
inductive Demand
  | parses (side : Side)
  | resolves (side : Side)
  | meets (r : Requirement)
  deriving DecidableEq

namespace Demand

/-- What is asked before. Both texts are read before either is resolved. -/
@[simp]
def before : Demand → List Demand
  | .parses .source => []
  | .parses .target => [.parses .source]
  | .resolves .source => [.parses .source, .parses .target]
  | .resolves .target => [.parses .source, .parses .target, .resolves .source]
  | .meets r =>
    [.parses .source, .parses .target, .resolves .source, .resolves .target]
      ++ r.before.map .meets

def Met (p : Patch) (source target : String) : Demand → Prop
  | .parses .source => ∃ a, Address.parse source = .ok a
  | .parses .target => ∃ a, Address.parse target = .ok a
  | .resolves .source => ∃ e, p.rack.endpoint source = .ok e
  | .resolves .target => ∃ e, p.rack.endpoint target = .ok e
  | .meets r =>
    ∃ sourceEnd targetEnd, p.rack.endpoint source = .ok sourceEnd
      ∧ p.rack.endpoint target = .ok targetEnd ∧ r.Met p.rack p.wiring sourceEnd targetEnd

/-- The first demand that two texts do not meet. -/
def FirstUnmet (p : Patch) (source target : String) (d : Demand) : Prop :=
  ¬d.Met p source target ∧ ∀ d' ∈ d.before, d'.Met p source target

/-- The errors that tell of a demand that is not met. An end is named as it was written. -/
inductive Reports (p : Patch) (source target : String) : Demand → EditError → Prop
  | sourceText {fault : AddressError} (h : Address.parse source = .error fault) :
    Reports p source target (.parses .source) (.address .source fault)
  | targetText {fault : AddressError} (h : Address.parse target = .error fault) :
    Reports p source target (.parses .target) (.address .target fault)
  | sourceEnd {a : Address} {fault : ResolveError} (ha : Address.parse source = .ok a)
    (h : a.resolve p.rack = .error fault) :
    Reports p source target (.resolves .source)
      (.rejected (.direction .source (trimmed source) (.unresolved fault)))
  | targetEnd {a : Address} {fault : ResolveError} (ha : Address.parse target = .ok a)
    (h : a.resolve p.rack = .error fault) :
    Reports p source target (.resolves .target)
      (.rejected (.direction .target (trimmed target) (.unresolved fault)))
  | rejection {sourceEnd targetEnd : Endpoint} {rejection : Rejection}
    (hsource : p.rack.endpoint source = .ok sourceEnd)
    (htarget : p.rack.endpoint target = .ok targetEnd)
    (h : validate p.rack p.wiring sourceEnd targetEnd = .error rejection) :
    Reports p source target (.meets rejection.requirement) (.rejected rejection)

end Demand

section Proposal

variable {p : Patch} {source target : String} {fault : EditError}

theorem canConnect_iff :
    p.canConnect source target ↔ ∃ c p', p.propose source target = (.ok c, p') := by
  simp only [propose_eq_ok_iff]
  unfold canConnect
  cases hends : p.endpoints source target with
  | error fault => simp
  | ok ends =>
    rcases ends with ⟨sourceEnd, targetEnd⟩
    simp [Wiring.canConnect]

theorem endpoints_eq_error_iff :
    p.endpoints source target = .error fault ↔
      (∃ f, Address.parse source = .error f ∧ fault = .address .source f)
      ∨ ∃ a, Address.parse source = .ok a
        ∧ ((∃ f, Address.parse target = .error f ∧ fault = .address .target f)
          ∨ ∃ b, Address.parse target = .ok b
            ∧ ((∃ f, a.resolve p.rack = .error f
                ∧ fault = .rejected (.direction .source (trimmed source) (.unresolved f)))
              ∨ ∃ e, a.resolve p.rack = .ok e ∧ ∃ f, b.resolve p.rack = .error f
                ∧ fault = .rejected (.direction .target (trimmed target) (.unresolved f)))) := by
  simp only [endpoints, parse, resolve, bind_eq_error_iff, mapError_eq_ok_iff,
    mapError_eq_error_iff, pure, Except.pure, reduceCtorEq, and_false, exists_false, or_false]

theorem endpoint_eq_ok_iff_of_parse {rack : Rack} {text : String} {a : Address}
    (ha : Address.parse text = .ok a) {e : Endpoint} :
    rack.endpoint text = .ok e ↔ a.resolve rack = .ok e := by
  simp [Rack.endpoint_eq_ok_iff, ha]

theorem Demand.firstUnmet_meets {sourceEnd targetEnd : Endpoint} {r : Requirement}
    (hends : p.endpoints source target = .ok (sourceEnd, targetEnd))
    (h : r.FirstUnmet p.rack p.wiring sourceEnd targetEnd) :
    (Demand.meets r).FirstUnmet p source target := by
  rcases endpoints_eq_ok_iff.1 hends with ⟨a, b, ha, hb, -⟩
  rcases endpoints_eq_ok_iff_endpoint.1 hends with ⟨hsource, htarget⟩
  constructor
  . rintro ⟨e, e', he, he', hmet⟩
    cases hsource.symm.trans he
    cases htarget.symm.trans he'
    exact h.1 hmet
  . intro d hd
    simp only [before, List.cons_append, List.nil_append, List.mem_cons, List.mem_map] at hd
    rcases hd with rfl | rfl | rfl | rfl | ⟨r', hr', rfl⟩
    . exact ⟨a, ha⟩
    . exact ⟨b, hb⟩
    . exact ⟨sourceEnd, hsource⟩
    . exact ⟨targetEnd, htarget⟩
    . exact ⟨sourceEnd, targetEnd, hsource, htarget, h.2 r' hr'⟩

theorem firstUnmet_of_propose {p' : Patch} (h : p.propose source target = (.error fault, p')) :
    ∃ d : Demand, d.FirstUnmet p source target ∧ d.Reports p source target fault := by
  rw [propose_eq_error_iff_endpoints, endpoints_eq_error_iff] at h
  rcases h.1 with
    (⟨f, hf, rfl⟩ | ⟨a, ha, ⟨f, hf, rfl⟩ | ⟨b, hb, ⟨f, hf, rfl⟩ | ⟨e, he, f, hf, rfl⟩⟩⟩)
    | ⟨sourceEnd, targetEnd, rejection, hends, hvalidate, rfl⟩
  . refine ⟨_, ?_, .sourceText hf⟩
    simp [Demand.FirstUnmet, Demand.Met, hf]
  . refine ⟨_, ?_, .targetText hf⟩
    simp [Demand.FirstUnmet, Demand.Met, ha, hf]
  . refine ⟨_, ?_, .sourceEnd ha hf⟩
    simp [Demand.FirstUnmet, Demand.Met, ha, hb, endpoint_eq_ok_iff_of_parse ha, hf]
  . refine ⟨_, ?_, .targetEnd hb hf⟩
    simp [Demand.FirstUnmet, Demand.Met, ha, hb, endpoint_eq_ok_iff_of_parse ha,
      endpoint_eq_ok_iff_of_parse hb, he, hf]
  . rcases endpoints_eq_ok_iff_endpoint.1 hends with ⟨hsource, htarget⟩
    refine ⟨_, ?_, .rejection hsource htarget hvalidate⟩
    exact Demand.firstUnmet_meets hends (refusal_of_validate hvalidate).firstUnmet

theorem propose_of_firstUnmet {d : Demand} (hfirst : d.FirstUnmet p source target)
    (h : d.Reports p source target fault) : p.propose source target = (.error fault, p) := by
  cases h with
  | sourceText h => simp [propose, endpoints, parse, h]
  | targetText h =>
    rcases hfirst.2 (.parses .source) (by simp) with ⟨a, ha⟩
    simp [propose, endpoints, parse, ha, h]
  | sourceEnd ha h =>
    rcases hfirst.2 (.parses .target) (by simp) with ⟨b, hb⟩
    simp [propose, endpoints, parse, resolve, ha, hb, h]
  | targetEnd hb h =>
    rcases hfirst.2 (.resolves .source) (by simp) with ⟨e, he⟩
    rcases Rack.endpoint_eq_ok_iff.1 he with ⟨a, ha, hresolve⟩
    simp [propose, endpoints, parse, resolve, ha, hb, hresolve, h]
  | rejection hsource htarget h =>
    have hends := endpoints_eq_ok_iff_endpoint.2 ⟨hsource, htarget⟩
    exact propose_eq_error_iff_endpoints.2 ⟨.inr ⟨_, _, _, hends, h, rfl⟩, rfl⟩

theorem propose_eq_error_iff {p' : Patch} :
    p.propose source target = (.error fault, p') ↔
      (∃ d : Demand, d.FirstUnmet p source target ∧ d.Reports p source target fault) ∧ p' = p := by
  constructor
  . intro h
    exact ⟨firstUnmet_of_propose h, eq_of_propose_error h⟩
  . rintro ⟨⟨d, hfirst, h⟩, rfl⟩
    exact propose_of_firstUnmet hfirst h

end Proposal

end Patch
end ModularSynth
