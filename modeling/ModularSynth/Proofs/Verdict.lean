import ModularSynth.Catalog
import ModularSynth.Proofs.Validation

/-!
This module contains what validation answers, told from the schemas of the rack: what is asked of
two endpoints and in which order, that they are connected if all of it is met, and that a rejection
is about the first thing that is not.
-/

namespace ModularSynth

open Except (bind_eq_ok_iff bind_eq_error_iff mapError_eq_error_iff mapError_eq_ok_iff)

namespace Endpoint

/-- An output, and its signal. -/
inductive IsOutput (rack : Rack) : Endpoint → Signal → Prop
  | port {id : ModuleId} {name : String} {m : Module} {port : Port}
    (hm : rack.find? id = some m) (hport : m.schema.port? name = some port)
    (hdirection : port.direction = .source) : IsOutput rack (.port id name) port.signal

/-- What can be the target of a connection, and as what. Only a bank has slots as targets. -/
inductive IsTarget (rack : Rack) : Endpoint → TargetKind → Prop
  | port {id : ModuleId} {name : String} {m : Module} {port : Port}
    (hm : rack.find? id = some m) (hport : m.schema.port? name = some port)
    (hdirection : port.direction = .sink) (hslots : port.slots ≤ 1) :
    IsTarget rack (.port id name) (.port port.signal)
  | slot {id : ModuleId} {name : String} {index : UInt64} {m : Module} {port : Port}
    (hm : rack.find? id = some m) (hport : m.schema.port? name = some port)
    (hdirection : port.direction = .sink) (hslots : 1 < port.slots) (hindex : index < port.slots) :
    IsTarget rack (.slot id name index) (.port port.signal)
  | param {id : ModuleId} {name : String} {m : Module}
    (hm : rack.find? id = some m) (hparam : name ∈ m.schema.params) :
    IsTarget rack (.param id name) .parameter
  | sink : IsTarget rack .sink .destination

theorem isOutput_iff {rack : Rack} {e : Endpoint} {signal : Signal} :
    e.IsOutput rack signal ↔ e.emits rack = .ok signal := by
  rw [emits_eq_ok_iff]
  constructor
  . rintro ⟨hm, hport, hdirection⟩
    exact ⟨_, _, _, rfl, Rack.port_eq_ok_iff.2 ⟨_, hm, hport⟩, hdirection, rfl⟩
  . rintro ⟨id, name, port, rfl, hport, hdirection, rfl⟩
    rcases Rack.port_eq_ok_iff.1 hport with ⟨m, hm, hport⟩
    exact .port hm hport hdirection

theorem isTarget_of_receives {rack : Rack} {e : Endpoint} {kind : TargetKind}
    (h : e.receives rack = .ok kind) : e.IsTarget rack kind := by
  cases e with
  | port id name =>
    rcases receives_port_eq_ok_iff.1 h with ⟨port, hport, hdirection, hbank, rfl⟩
    rcases Rack.port_eq_ok_iff.1 hport with ⟨m, hm, hport⟩
    apply IsTarget.port hm hport hdirection
    simpa [Port.isBank] using hbank
  | slot id name index =>
    rcases receives_slot_eq_ok_iff.1 h with ⟨port, hport, hdirection, hbank, hindex, rfl⟩
    rcases Rack.port_eq_ok_iff.1 hport with ⟨m, hm, hport⟩
    apply IsTarget.slot hm hport hdirection _ hindex
    simpa [Port.isBank] using hbank
  | param id name =>
    rcases receives_param_eq_ok_iff.1 h with ⟨schema, hschema, hparam, rfl⟩
    rcases Rack.schema_eq_ok_iff.1 hschema with ⟨m, hm, rfl⟩
    apply IsTarget.param hm
    simpa [Schema.hasParam] using hparam
  | sink =>
    cases h
    exact .sink

theorem isTarget_iff {rack : Rack} {e : Endpoint} {kind : TargetKind} :
    e.IsTarget rack kind ↔ e.receives rack = .ok kind := by
  refine ⟨?_, isTarget_of_receives⟩
  intro h
  cases h with
  | port hm hport hdirection hslots =>
    rw [receives_port_eq_ok_iff]
    refine ⟨_, Rack.port_eq_ok_iff.2 ⟨_, hm, hport⟩, hdirection, ?_, rfl⟩
    simpa [Port.isBank] using hslots
  | slot hm hport hdirection hslots hindex =>
    rw [receives_slot_eq_ok_iff]
    refine ⟨_, Rack.port_eq_ok_iff.2 ⟨_, hm, hport⟩, hdirection, ?_, hindex, rfl⟩
    simpa [Port.isBank] using hslots
  | param hm hparam =>
    rw [receives_param_eq_ok_iff]
    refine ⟨_, Rack.schema_eq_ok_iff.2 ⟨_, hm, rfl⟩, ?_, rfl⟩
    simpa [Schema.hasParam] using hparam
  | sink => rfl

end Endpoint

/-- Which signal may drive which target. -/
def Signal.Drives (signal : Signal) (kind : TargetKind) : Prop :=
  (signal, kind) ∈ [(.audio, .port .audio), (.cv, .port .cv), (.cv, .port .gate),
    (.gate, .port .gate), (.cv, .parameter), (.audio, .destination)]

theorem Signal.drives_iff {signal : Signal} {kind : TargetKind} :
    signal.Drives kind ↔ kind.accepts signal := by
  unfold Drives
  cases kind with
  | port sink => cases signal <;> cases sink <;> decide
  | parameter => cases signal <;> decide
  | destination => cases signal <;> decide

/-- What is asked of two endpoints that are to be connected. -/
inductive Requirement
  | source
  | target
  | signal
  | free
  | apart
  deriving DecidableEq

namespace Requirement

/-- What is asked before. -/
@[simp]
def before : Requirement → List Requirement
  | .source => []
  | .target => [.source]
  | .signal => [.source, .target]
  | .free => [.source, .target, .signal]
  | .apart => [.source, .target, .signal, .free]

theorem mem_before_of_ne {r r' : Requirement} (h : r ≠ r') : r ∈ r'.before ∨ r' ∈ r.before := by
  cases r <;> cases r' <;> simp_all [before]

def Met (rack : Rack) (wiring : Wiring) (source target : Endpoint) : Requirement → Prop
  | .source => ∃ signal, source.IsOutput rack signal
  | .target => ∃ kind, target.IsTarget rack kind
  | .signal =>
    ∃ signal kind, source.IsOutput rack signal ∧ target.IsTarget rack kind ∧ signal.Drives kind
  | .free =>
    (∀ c ∈ wiring, ¬(c.source = source ∧ c.target = target))
      ∧ (target.isSlot → ∀ c ∈ wiring, c.target ≠ target)
  | .apart => ∀ id, source.owner? = some id → target.owner? ≠ some id

/-- The first requirement that two endpoints do not meet. -/
def FirstUnmet (rack : Rack) (wiring : Wiring) (source target : Endpoint) (r : Requirement) :
    Prop :=
  ¬r.Met rack wiring source target ∧ ∀ r' ∈ r.before, r'.Met rack wiring source target

theorem FirstUnmet.unique {rack : Rack} {wiring : Wiring} {source target : Endpoint}
    {r r' : Requirement} (h : r.FirstUnmet rack wiring source target)
    (h' : r'.FirstUnmet rack wiring source target) : r = r' := by
  apply Decidable.byContradiction
  intro hne
  cases mem_before_of_ne hne with
  | inl hbefore => exact h.1 (h'.2 r hbefore)
  | inr hbefore => exact h'.1 (h.2 r' hbefore)

end Requirement

/-- The requirement that a rejection is about. -/
@[simp]
def Rejection.requirement : Rejection → Requirement
  | .direction .source .. => .source
  | .direction .target .. => .target
  | .incompatible .. => .signal
  | .duplicate .. => .free
  | .selfLoop .. => .apart

namespace Rule

variable {rack : Rack} {wiring : Wiring} {source target : Endpoint} {rejection : Rejection}

theorem direction_eq_error_iff :
    direction rack source target = .error rejection ↔
      (∃ fault, source.emits rack = .error fault
        ∧ rejection = .direction .source source.text fault)
      ∨ ∃ signal fault, source.emits rack = .ok signal ∧ target.receives rack = .error fault
        ∧ rejection = .direction .target target.text fault := by
  simp [direction, bind_eq_error_iff, pure, Except.pure]

theorem signal_eq_error_iff {s : Signal} {kind : TargetKind} :
    signal s kind = .error rejection ↔
      kind.accepts s = false ∧ rejection = .incompatible s kind := by
  rw [signal]
  split
  . next h => simp [h]
  . next h => simp [h, eq_comm]

theorem duplicate_eq_error_iff :
    duplicate wiring source target = .error rejection ↔
      (wiring.linked source target ∧ rejection = .duplicate source target)
      ∨ (wiring.linked source target = false ∧ target.isSlot
        ∧ ∃ c, wiring.occupant? target = some c ∧ rejection = .duplicate c.source target) := by
  rw [duplicate]
  split
  . next hlinked => simp [hlinked, @eq_comm _ rejection]
  . next hlinked =>
    split
    . next hslot =>
      split
      . next c hc => simp [hlinked, hslot, hc, @eq_comm _ rejection]
      . next hnone => simp [hlinked, hnone]
    . next hslot => simp [hlinked, hslot]

theorem selfLoop_eq_error_iff :
    selfLoop source target = .error rejection ↔
      ∃ id, source.owner? = some id ∧ target.owner? = some id ∧ rejection = .selfLoop id := by
  rw [selfLoop]
  cases source.owner? with
  | none => simp
  | some a =>
    cases target.owner? with
    | none => simp
    | some b =>
      dsimp only
      split
      . next heq => simp [heq, eq_comm]
      . next hne => simp [Ne.symm hne]

end Rule

/-- The ways in which validation refuses a connection, each with what it has found out before. -/
inductive Refusal (rack : Rack) (wiring : Wiring) (source target : Endpoint) : Rejection → Prop
  | source {fault : EndFault} (hsource : source.emits rack = .error fault) :
    Refusal rack wiring source target (.direction .source source.text fault)
  | target {signal : Signal} {fault : EndFault} (hsource : source.emits rack = .ok signal)
    (htarget : target.receives rack = .error fault) :
    Refusal rack wiring source target (.direction .target target.text fault)
  | signal {signal : Signal} {kind : TargetKind} (hsource : source.emits rack = .ok signal)
    (htarget : target.receives rack = .ok kind) (haccepts : kind.accepts signal = false) :
    Refusal rack wiring source target (.incompatible signal kind)
  | linked {signal : Signal} {kind : TargetKind} (hsource : source.emits rack = .ok signal)
    (htarget : target.receives rack = .ok kind) (haccepts : kind.accepts signal)
    (hlinked : wiring.linked source target) :
    Refusal rack wiring source target (.duplicate source target)
  | occupied {signal : Signal} {kind : TargetKind} {c : Connection}
    (hsource : source.emits rack = .ok signal) (htarget : target.receives rack = .ok kind)
    (haccepts : kind.accepts signal) (hlinked : wiring.linked source target = false)
    (hslot : target.isSlot) (hc : wiring.occupant? target = some c) :
    Refusal rack wiring source target (.duplicate c.source target)
  | selfLoop {signal : Signal} {kind : TargetKind} {id : ModuleId}
    (hsource : source.emits rack = .ok signal) (htarget : target.receives rack = .ok kind)
    (haccepts : kind.accepts signal) (hfree : Rule.duplicate wiring source target = .ok ())
    (howner : source.owner? = some id) (howner' : target.owner? = some id) :
    Refusal rack wiring source target (.selfLoop id)

theorem refusal_of_validate {rack : Rack} {wiring : Wiring} {source target : Endpoint}
    {rejection : Rejection} (h : validate rack wiring source target = .error rejection) :
    Refusal rack wiring source target rejection := by
  simp only [validate, bind_eq_error_iff, Prod.exists, Rule.direction_eq_error_iff,
    Rule.direction_eq_ok_iff, Rule.signal_eq_error_iff, Rule.signal_eq_ok_iff,
    Rule.duplicate_eq_error_iff, Rule.selfLoop_eq_error_iff, pure, Except.pure, reduceCtorEq,
    and_false, exists_false, or_false] at h
  rcases h with (⟨fault, hsource, rfl⟩ | ⟨signal, fault, hsource, htarget, rfl⟩)
    | ⟨signal, kind, ⟨hsource, htarget⟩, h⟩
  . exact .source hsource
  . exact .target hsource htarget
  . rcases h with ⟨haccepts, rfl⟩ | ⟨_, haccepts, h⟩
    . exact .signal hsource htarget haccepts
    . rcases h with (⟨hlinked, rfl⟩ | ⟨hlinked, hslot, c, hc, rfl⟩)
        | ⟨_, hfree, id, howner, howner', rfl⟩
      . exact .linked hsource htarget haccepts hlinked
      . exact .occupied hsource htarget haccepts hlinked hslot hc
      . exact .selfLoop hsource htarget haccepts hfree howner howner'

section Met

variable {rack : Rack} {wiring : Wiring} {source target : Endpoint}

namespace Requirement

@[simp]
theorem met_source_iff :
    Requirement.source.Met rack wiring source target ↔
      ∃ signal, source.emits rack = .ok signal := by
  simp only [Met, Endpoint.isOutput_iff]

@[simp]
theorem met_target_iff :
    Requirement.target.Met rack wiring source target ↔
      ∃ kind, target.receives rack = .ok kind := by
  simp only [Met, Endpoint.isTarget_iff]

theorem met_signal_iff {s : Signal} {kind : TargetKind} (hsource : source.emits rack = .ok s)
    (htarget : target.receives rack = .ok kind) :
    Requirement.signal.Met rack wiring source target ↔ kind.accepts s := by
  simp [Met, Endpoint.isOutput_iff, Endpoint.isTarget_iff, Signal.drives_iff, hsource, htarget]

@[simp]
theorem met_free_iff :
    Requirement.free.Met rack wiring source target ↔
      Rule.duplicate wiring source target = .ok () := by
  rw [Rule.duplicate_eq_ok_iff]
  constructor
  . rintro ⟨hpair, hslot⟩ d hd htarget
    refine ⟨fun hsource => hpair d hd ⟨hsource, htarget⟩, ?_⟩
    rw [← Bool.not_eq_true]
    intro h
    exact hslot h d hd htarget
  . intro h
    constructor
    . rintro d hd ⟨hsource, htarget⟩
      exact (h d hd htarget).1 hsource
    . intro hslot d hd htarget
      rw [(h d hd htarget).2] at hslot
      contradiction

@[simp]
theorem met_apart_iff :
    Requirement.apart.Met rack wiring source target ↔ Rule.selfLoop source target = .ok () := by
  constructor
  . intro happart
    cases h : Rule.selfLoop source target with
    | ok u => rfl
    | error rejection =>
      rcases Rule.selfLoop_eq_error_iff.1 h with ⟨id, hsource, htarget, -⟩
      exact absurd htarget (happart id hsource)
  . intro h id hsource htarget
    rw [Rule.selfLoop_eq_error_iff.2 ⟨id, hsource, htarget, rfl⟩] at h
    contradiction

end Requirement

open Requirement

theorem validate_eq_ok_iff_met {c : Connection} :
    validate rack wiring source target = .ok c ↔
      c.source = source ∧ c.target = target ∧ source.IsOutput rack c.signal
        ∧ ∀ r : Requirement, r.Met rack wiring source target := by
  rw [Endpoint.isOutput_iff]
  simp only [validate, bind_eq_ok_iff, Prod.exists, Rule.direction_eq_ok_iff, Rule.signal_eq_ok_iff]
  constructor
  . rintro ⟨signal, kind, ⟨hsource, htarget⟩, _, haccepts, _, hfree, _, happart, heq⟩
    cases heq
    refine ⟨rfl, rfl, hsource, ?_⟩
    intro r
    cases r with
    | source => exact met_source_iff.2 ⟨signal, hsource⟩
    | target => exact met_target_iff.2 ⟨kind, htarget⟩
    | signal => exact (met_signal_iff hsource htarget).2 haccepts
    | free => exact met_free_iff.2 hfree
    | apart => exact met_apart_iff.2 happart
  . rintro ⟨rfl, rfl, hsource, hmet⟩
    rcases met_target_iff.1 (hmet .target) with ⟨kind, htarget⟩
    have haccepts := (met_signal_iff hsource htarget).1 (hmet .signal)
    have hfree := met_free_iff.1 (hmet .free)
    have happart := met_apart_iff.1 (hmet .apart)
    exact ⟨c.signal, kind, ⟨hsource, htarget⟩, (), haccepts, (), hfree, (), happart, rfl⟩

theorem Refusal.firstUnmet {rejection : Rejection}
    (h : Refusal rack wiring source target rejection) :
    rejection.requirement.FirstUnmet rack wiring source target := by
  rw [FirstUnmet]
  cases h with
  | source hsource => simp [hsource]
  | target hsource htarget => simp [hsource, htarget]
  | signal hsource htarget haccepts =>
    simp [hsource, htarget, met_signal_iff hsource htarget, haccepts]
  | linked hsource htarget haccepts hlinked =>
    have hfree := Rule.duplicate_eq_error_iff.2 (.inl ⟨hlinked, rfl⟩)
    simp [hsource, htarget, met_signal_iff hsource htarget, haccepts, hfree]
  | occupied hsource htarget haccepts hlinked hslot hc =>
    have hfree := Rule.duplicate_eq_error_iff.2 (.inr ⟨hlinked, hslot, _, hc, rfl⟩)
    simp [hsource, htarget, met_signal_iff hsource htarget, haccepts, hfree]
  | selfLoop hsource htarget haccepts hfree howner howner' =>
    have happart := Rule.selfLoop_eq_error_iff.2 ⟨_, howner, howner', rfl⟩
    simp [hsource, htarget, met_signal_iff hsource htarget, haccepts, hfree, happart]

end Met

/--
Two endpoints are connected if they meet all that is asked of them, and else the rejection is about
the first thing they do not meet. A duplicate is reported as a connection of the wiring: as the very
one that was proposed if that is there, and as the one in the slot if another is.
-/
theorem validate_verdict (rack : Rack) (wiring : Wiring) (source target : Endpoint) :
    (∀ c, validate rack wiring source target = .ok c ↔
        c.source = source ∧ c.target = target ∧ source.IsOutput rack c.signal
          ∧ ∀ r : Requirement, r.Met rack wiring source target)
      ∧ (∀ r : Requirement,
          (∃ rejection, validate rack wiring source target = .error rejection
            ∧ rejection.requirement = r) ↔ r.FirstUnmet rack wiring source target)
      ∧ (∀ a b, validate rack wiring source target = .error (.duplicate a b) →
          b = target ∧ (∃ c ∈ wiring, c.source = a ∧ c.target = b)
            ∧ ((∃ c ∈ wiring, c.source = source ∧ c.target = target) → a = source)
            ∧ ((∀ c ∈ wiring, ¬(c.source = source ∧ c.target = target)) →
                target.isSlot ∧ ∃ c, wiring.occupant? target = some c ∧ c.source = a)) := by
  refine ⟨fun c => validate_eq_ok_iff_met, ?_, ?_⟩
  . intro r
    constructor
    . rintro ⟨rejection, h, rfl⟩
      exact (refusal_of_validate h).firstUnmet
    . intro hr
      cases h : validate rack wiring source target with
      | ok c => exact absurd ((validate_eq_ok_iff_met.1 h).2.2.2 r) hr.1
      | error rejection =>
        exact ⟨rejection, rfl, (refusal_of_validate h).firstUnmet.unique hr⟩
  . intro a b h
    cases refusal_of_validate h with
    | linked hsource htarget haccepts hlinked =>
      rw [linked_iff] at hlinked
      refine ⟨rfl, hlinked, fun _ => rfl, ?_⟩
      intro hnone
      rcases hlinked with ⟨c, hc, hends⟩
      exact absurd hends (hnone c hc)
    | @occupied signal kind c hsource htarget haccepts hlinked hslot hc =>
      have htarget : c.target = target := by simpa using List.find?_some hc
      have hmem : c ∈ wiring := List.mem_of_find?_eq_some hc
      refine ⟨rfl, ⟨c, hmem, rfl, htarget⟩, ?_, fun _ => ⟨hslot, c, hc, rfl⟩⟩
      intro hsome
      rw [linked_iff.2 hsome] at hlinked
      contradiction

/-- The second source of a slot is told which one is there already. -/
theorem validate_verdict_mixer :
    let rack : Rack := [⟨⟨"osc"⟩, Kind.oscillator.schema⟩, ⟨⟨"noise"⟩, Kind.noise.schema⟩,
      ⟨⟨"mix"⟩, Kind.mixer.schema⟩]
    let slot := Endpoint.slot ⟨"mix"⟩ "inputs" 7
    let wiring : Wiring := [⟨.port ⟨"osc"⟩ "audio_out", slot, .audio⟩]
    validate rack wiring (.port ⟨"noise"⟩ "audio_out") slot
        = .error (.duplicate (.port ⟨"osc"⟩ "audio_out") slot)
      ∧ slot.isSlot
      ∧ ∃ c, wiring.occupant? slot = some c ∧ c.source = .port ⟨"osc"⟩ "audio_out" := by
  intro rack slot wiring
  let noise := Endpoint.port ⟨"noise"⟩ "audio_out"
  have hvalidate : validate rack wiring noise slot
      = .error (.duplicate (.port ⟨"osc"⟩ "audio_out") slot) := by decide +kernel
  have hverdict := (validate_verdict rack wiring noise slot).2.2 _ _ hvalidate
  exact ⟨hvalidate, hverdict.2.2.2 (by decide +kernel)⟩

end ModularSynth
