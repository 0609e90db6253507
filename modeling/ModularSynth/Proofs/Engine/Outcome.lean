import ModularSynth.Catalog
import ModularSynth.Proofs.Rebuild
import ModularSynth.Proofs.Resolve

/-!
This module contains which failures a compilation on a bench can report. The devices of the bench
may be any devices at all; of the connections it is only known that validation took them once.
-/

namespace ModularSynth

open Compile (object outlet inlet fate)

/-- Validation took each connection, on some rack and beside some wiring. -/
def Wiring.Validated (wiring : Wiring) : Prop :=
  ∀ c ∈ wiring, ∃ rack before, validate rack before c.source c.target = .ok c

namespace Bench

/-- Why the device of a source does not have the output. -/
inductive SourceFault (bench : Bench) (id : ModuleId) (port : String) : ResolveError → Prop
  | noModule (hd : bench.get? id = none) : SourceFault bench id port (.unknownModule id)
  | noOutput {d : Device} (hd : bench.get? id = some d) (hport : port ∉ d.outputs) :
    SourceFault bench id port (.unknownPort id port)

/-- Why the device of a target does not have the input, slot or parameter. -/
inductive TargetFault (bench : Bench) : Endpoint → ResolveError → Prop
  | noModule {e : Endpoint} {id : ModuleId} (howner : e.owner? = some id)
    (hd : bench.get? id = none) : TargetFault bench e (.unknownModule id)
  | noInput {id : ModuleId} {port : String} {d : Device} (hd : bench.get? id = some d)
    (hport : port ∉ d.inputs) : TargetFault bench (.port id port) (.unknownPort id port)
  | noBank {id : ModuleId} {port : String} {index : UInt64} {d : Device}
    (hd : bench.get? id = some d)
    (hbank : d.banks.get? port = none ∨ d.banks.get? port = some []) :
    TargetFault bench (.slot id port index) (.unknownPort id port)
  | noSlot {id : ModuleId} {port : String} {index number : UInt64} {d : Device}
    {gains : List SlotGain} (hd : bench.get? id = some d) (hbank : d.banks.get? port = some gains)
    (hgains : gains ≠ []) (hindex : gains.length ≤ index.toNat)
    (hnumber : number.toNat = index.toNat + 1) :
    TargetFault bench (.slot id port index) (.slotOutOfRange id port number gains.length)
  | noParam {id : ModuleId} {name : String} {d : Device} (hd : bench.get? id = some d)
    (hparam : name ∉ d.params) : TargetFault bench (.param id name) (.unknownParam id name)

/-- What becomes of a connection from a port; the first fault is reported. -/
inductive Outcome (bench : Bench) (id : ModuleId) (port : String) (target : Endpoint) :
    Option SkipCause → Prop
  | source {error : ResolveError} (hsource : SourceFault bench id port error) :
    Outcome bench id port target (some (.unresolved .source error))
  | target {error : ResolveError} (hsource : ∀ e, ¬SourceFault bench id port e)
    (htarget : TargetFault bench target error) :
    Outcome bench id port target (some (.unresolved .target error))
  | notReady {d : Device} (hsource : ∀ e, ¬SourceFault bench id port e)
    (htarget : ∀ e, ¬TargetFault bench target e) (hd : bench.get? id = some d)
    (hready : d.ready = false) : Outcome bench id port target (some (.engine (.notReady d.id)))
  | wired {d : Device} (hsource : ∀ e, ¬SourceFault bench id port e)
    (htarget : ∀ e, ¬TargetFault bench target e) (hd : bench.get? id = some d)
    (hready : d.ready) : Outcome bench id port target none

section Faults

variable {bench : Bench} {id : ModuleId} {d : Device} {error : ResolveError}

theorem outlet_eq_error_iff {port : String} :
    outlet bench (.port id port) = .error error ↔ SourceFault bench id port error := by
  cases hd : bench.get? id with
  | none =>
    rw [outlet, object_of_get?_eq_none hd, Except.error_bind, Except.error.injEq]
    constructor
    . rintro rfl
      exact .noModule hd
    . intro h
      cases h with
      | noModule => rfl
      | noOutput hd' => simp [hd] at hd'
  | some d =>
    have houtput : EngineObject.hasOutput d port ↔ port ∈ d.outputs := List.contains_iff_mem
    rw [outlet, object_of_get?_eq_some hd, Except.ok_bind]
    constructor
    . intro h
      split at h
      . contradiction
      . next hport =>
        cases h
        exact .noOutput hd (mt houtput.2 hport)
    . intro h
      cases h with
      | noModule hd' => simp [hd] at hd'
      | noOutput hd' hport =>
        cases hd.symm.trans hd'
        rw [if_neg (mt houtput.1 hport)]

theorem targetFault_of_inlet_slot (hd : bench.get? id = some d) {port : String} {index : UInt64}
    (hindex : (slotNumber index).toNat = index.toNat + 1)
    (h : inlet bench (.slot id port index) = .error error) :
    TargetFault bench (.slot id port index) error := by
  rw [inlet_slot hd rfl] at h
  cases hbank : d.banks.get? port with
  | none =>
    rw [hbank, if_pos (by rfl)] at h
    cases h
    exact .noBank hd (.inl hbank)
  | some gains =>
    rw [hbank, Option.getD_some] at h
    split at h
    . next hnil =>
      cases h
      rw [hnil] at hbank
      exact .noBank hd (.inr hbank)
    . next hgains =>
      split at h
      . contradiction
      . next hslot =>
        cases h
        exact .noSlot hd hbank hgains (List.getElem?_eq_none_iff.1 hslot) hindex

theorem targetFault_of_inlet {e : Endpoint}
    (hindex : ∀ id port index, e = .slot id port index →
      (slotNumber index).toNat = index.toNat + 1)
    (h : inlet bench e = .error error) : TargetFault bench e error := by
  cases howner : e.owner? with
  | none => cases e <;> contradiction
  | some id =>
    cases hd : bench.get? id with
    | none =>
      rw [inlet_of_noModule howner hd] at h
      cases h
      exact .noModule howner hd
    | some d =>
      cases e with
      | sink => contradiction
      | port id port =>
        cases howner
        rw [inlet_port hd] at h
        split at h
        . contradiction
        . next hport =>
          cases h
          exact .noInput hd hport
      | slot id port index =>
        cases howner
        exact targetFault_of_inlet_slot hd (hindex id port index rfl) h
      | param id name =>
        cases howner
        rw [inlet_param hd] at h
        split at h
        . contradiction
        . next hparam =>
          cases h
          exact .noParam hd hparam

theorem inlet_of_targetFault {e : Endpoint} (h : TargetFault bench e error) :
    inlet bench e = .error error := by
  cases h with
  | noModule howner hd => exact inlet_of_noModule howner hd
  | noInput hd hport => rw [inlet_port hd, if_neg hport]
  | noParam hd hparam => rw [inlet_param hd, if_neg hparam]
  | noBank hd hbank =>
    rw [inlet_slot hd rfl]
    rcases hbank with hbank | hbank <;> simp [hbank]
  | noSlot hd hbank hgains hindex hnumber =>
    have hnumber := slotNumber_eq_of_toNat hnumber
    simp [inlet_slot hd rfl, hbank, hgains, hindex, hnumber]

end Faults

section Fate

variable {bench : Bench} {id : ModuleId} {port : String}

theorem Outcome.unique {target : Endpoint} {cause cause' : Option SkipCause}
    (h : Outcome bench id port target cause) (h' : Outcome bench id port target cause') :
    cause = cause' := by
  cases h with
  | source hfault =>
    cases h' with
    | source hfault' =>
      have houtlet := outlet_eq_error_iff.2 hfault
      rw [outlet_eq_error_iff.2 hfault', Except.error.injEq] at houtlet
      rw [houtlet]
    | target hsource | notReady hsource | wired hsource => exact absurd hfault (hsource _)
  | target hsource hfault =>
    cases h' with
    | source hfault' => exact absurd hfault' (hsource _)
    | target _ hfault' =>
      have hinlet := inlet_of_targetFault hfault
      rw [inlet_of_targetFault hfault', Except.error.injEq] at hinlet
      rw [hinlet]
    | notReady _ htarget | wired _ htarget => exact absurd hfault (htarget _)
  | notReady hsource htarget hd hready =>
    cases h' with
    | source hfault' => exact absurd hfault' (hsource _)
    | target _ hfault' => exact absurd hfault' (htarget _)
    | notReady _ _ hd' =>
      cases hd.symm.trans hd'
      rfl
    | wired _ _ hd' hready' =>
      cases hd.symm.trans hd'
      simp [hready] at hready'
  | wired hsource htarget hd hready =>
    cases h' with
    | source hfault' => exact absurd hfault' (hsource _)
    | target _ hfault' => exact absurd hfault' (htarget _)
    | notReady _ _ hd' hready' =>
      cases hd.symm.trans hd'
      simp [hready] at hready'
    | wired => rfl

theorem outcome_fate (bench : Bench) {c : Connection} (hc : c.source = .port id port)
    (hindex : ∀ id port index, c.target = .slot id port index →
      (slotNumber index).toNat = index.toNat + 1) :
    Outcome bench id port c.target (fate bench c).error? := by
  unfold fate
  rw [hc]
  cases houtlet : outlet bench (.port id port) with
  | error error => exact .source (outlet_eq_error_iff.1 houtlet)
  | ok source =>
    have hsource : ∀ e, ¬SourceFault bench id port e := by
      intro e hfault
      simp [outlet_eq_error_iff.2 hfault] at houtlet
    cases hinlet : inlet bench c.target with
    | error error => exact .target hsource (targetFault_of_inlet hindex hinlet)
    | ok target =>
      have htarget : ∀ e, ¬TargetFault bench c.target e := by
        intro e hfault
        simp [inlet_of_targetFault hfault] at hinlet
      cases hd : bench.get? id with
      | none => exact absurd (.noModule hd) (hsource _)
      | some d =>
        have hport : d.hasOutput port := by
          rw [Device.hasOutput, List.contains_iff_mem]
          by_contra hport
          exact hsource _ (.noOutput hd hport)
        have heditable : Engine.editable? bench id = some d := hd
        cases Compile.eq_port_of_outlet houtlet
        simp only [Except.mapError_ok, Except.ok_bind, heditable, Device.refusal?_eq, hport]
        cases hready : d.ready with
        | false => exact .notReady hsource htarget hd hready
        | true => exact .wired hsource htarget hd hready

end Fate

end Bench

theorem Wiring.Validated.ends {wiring : Wiring} (h : wiring.Validated) {c : Connection}
    (hc : c ∈ wiring) :
    (∃ id port, c.source = .port id port) ∧ ∀ id port index, c.target = .slot id port index →
      (slotNumber index).toNat = index.toNat + 1 := by
  rcases h c hc with ⟨rack, before, hvalidate⟩
  rcases validate_eq_ok_iff.1 hvalidate with ⟨-, -, hadmissible, -⟩
  constructor
  . rcases Endpoint.emits_eq_ok_iff.1 hadmissible.emits with ⟨id, port, -, hsource, -⟩
    exact ⟨id, port, hsource⟩
  . intro id port index htarget
    rcases hadmissible.receives with ⟨kind, hreceives, -⟩
    rw [htarget] at hreceives
    cases Endpoint.on_of_receives hreceives with
    | slot _ _ hindex => exact toNat_slotNumber_of_lt hindex

theorem Bench.exists_editable?_of_outlet {bench : Bench} {e : Endpoint} {source : Outlet}
    (h : outlet bench e = .ok source) : ∃ d, Engine.editable? bench source.module = some d := by
  rw [Compile.eq_port_of_outlet h] at h
  cases hd : bench.get? source.module with
  | none => simp [outlet_eq_error_iff.2 (.noModule hd)] at h
  | some d => exact ⟨d, hd⟩

theorem Bench.outcome_of_mem_skips {wiring : Wiring} (h : wiring.Validated) {bench : Bench}
    {s : Skip} (hs : s ∈ (compile wiring bench).1.skips) :
    ∃ id port target, Outcome bench id port target (some s.cause) := by
  rw [Compile.compile_report] at hs
  rcases (Compile.mem_skipped_iff bench).1 hs with ⟨hget, hfate⟩
  rcases h.ends (List.mem_of_getElem? hget) with ⟨⟨id, port, hsource⟩, hindex⟩
  have houtcome := outcome_fate bench hsource hindex
  rw [hfate] at houtcome
  exact ⟨id, port, s.connection.target, houtcome⟩

/--
What a compilation on a bench reports for each connection that validation took at any time, whatever
the devices of the bench. A device that is not ready is named by its own id, which is that of the
source if each device is kept under its id. A connection of which nothing is reported is counted as
wired, and its edge is live. All other causes of a skip are out of reach.
-/
theorem Bench.compile_outcome {wiring : Wiring} (h : wiring.Validated) (bench : Bench) :
    let report := (compile wiring bench).1
    let after := (compile wiring bench).2
    (∀ (i : Nat) (c : Connection), wiring[i]? = some c →
        ∃ id port, c.source = .port id port
          ∧ (∀ cause, report.cause? i = cause ↔ Outcome bench id port c.target cause)
          ∧ ((∀ id d, bench.get? id = some d → d.id = id) →
              ∀ id', report.cause? i = some (.engine (.notReady id')) → id' = id)
          ∧ (report.cause? i = none →
              ∃ d e, after.get? id = some d ∧ bench.edge? c = some e ∧ e ∈ d.live))
      ∧ report.wired = (report.wiredOf wiring).length
      ∧ (∀ s ∈ report.skips,
          (∀ id reason, s.cause ≠ .engine (.refused id reason))
            ∧ ∀ side error, s.cause = .unresolved side error →
              (∀ text, error ≠ .notEmitting text)
                ∧ (∀ id port slots, error ≠ .slotRequired id port slots)
                ∧ (∀ id port, error ≠ .notMultiSlot id port)
                ∧ ∀ id name, error ≠ .unknownTarget id name)
      ∧ ∀ (bench : Bench) (c : Connection) source target, outlet bench c.source = .ok source →
          inlet bench c.target = .ok target →
            ∃ d, Engine.editable? bench source.module = some d := by
  intro report after
  refine ⟨?_, Compile.wired_eq_length_wiredOf wiring bench, ?_, ?_⟩
  . intro i c hc
    rcases h.ends (List.mem_of_getElem? hc) with ⟨⟨id, port, hsource⟩, hindex⟩
    have houtcome := outcome_fate bench hsource hindex
    have hcause : report.cause? i = (fate bench c).error? := Compile.cause?_compile hc
    rw [← hcause] at houtcome
    refine ⟨id, port, hsource, ?_, ?_, ?_⟩
    . intro cause
      constructor
      . rintro rfl
        exact houtcome
      . exact houtcome.unique
    . intro hids id' hnotReady
      rw [hnotReady] at houtcome
      cases houtcome with
      | notReady _ _ hd => exact hids _ _ hd
    . intro hnone
      rcases exists_live_of_mem_wiredOf (Report.mem_wiredOf_of_cause?_eq_none hc hnone) with
        ⟨id', d, e, howner, hd, hedge, he⟩
      rw [hsource] at howner
      cases howner
      exact ⟨d, e, hd, hedge, he⟩
  . intro s hs
    rcases outcome_of_mem_skips h hs with ⟨id, port, target, houtcome⟩
    constructor
    . intro id' reason hcause
      rw [hcause] at houtcome
      cases houtcome
    . intro side error hcause
      rw [hcause] at houtcome
      cases houtcome with
      | source hfault => cases hfault <;> simp
      | target _ hfault => cases hfault <;> simp
  . intro bench c source target houtlet _
    exact exists_editable?_of_outlet houtlet

/-- The mixer has two slots only, and there is no device for the noise. -/
theorem Bench.compile_outcome_mixer :
    let slot : Endpoint := .slot ⟨"mix"⟩ "inputs" 7
    let wiring : Wiring := [⟨.port ⟨"osc"⟩ "audio_out", slot, .audio⟩,
      ⟨.port ⟨"noise"⟩ "audio_out", .sink, .audio⟩, ⟨.port ⟨"osc"⟩ "audio_out", .sink, .audio⟩]
    let osc := (Device.new ⟨"osc"⟩).withOutput "audio_out"
    let mix := (Device.new ⟨"mix"⟩).withBank "inputs" 2
    let bench := Bench.add (.add .empty osc) mix
    wiring.Validated
      ∧ Outcome bench ⟨"osc"⟩ "audio_out" slot
        (some (.unresolved .target (.slotOutOfRange ⟨"mix"⟩ "inputs" 8 2)))
      ∧ Outcome bench ⟨"noise"⟩ "audio_out" .sink
        (some (.unresolved .source (.unknownModule ⟨"noise"⟩)))
      ∧ Outcome bench ⟨"osc"⟩ "audio_out" .sink none
      ∧ (compile wiring bench).1.wired = 1
      ∧ ∃ d, (compile wiring bench).2.get? ⟨"osc"⟩ = some d
          ∧ ⟨⟨⟨"osc"⟩, "audio_out"⟩, .destination⟩ ∈ d.live := by
  intro slot wiring osc mix bench
  let rack : Rack := [⟨⟨"osc"⟩, Kind.oscillator.schema⟩, ⟨⟨"mix"⟩, Kind.mixer.schema⟩]
  have hvalidated : wiring.Validated := by
    simp only [Wiring.Validated, wiring, List.forall_mem_cons]
    refine ⟨⟨rack, [], ?_⟩, ⟨[⟨⟨"noise"⟩, Kind.noise.schema⟩], [], ?_⟩, ⟨rack, [], ?_⟩, nofun⟩
    . decide +kernel
    . decide +kernel
    . decide +kernel
  rcases compile_outcome hvalidated bench with ⟨hall, hwired, -⟩
  have houtcome : ∀ i id port target signal cause,
      wiring[i]? = some ⟨.port id port, target, signal⟩ →
        (compile wiring bench).1.cause? i = cause → Outcome bench id port target cause := by
    intro i id port target signal cause hc hcause
    rcases hall i _ hc with ⟨_, _, hsource, hiff, -⟩
    cases hsource
    exact (hiff cause).1 hcause
  refine ⟨hvalidated, ?_, ?_, ?_, ?_, ?_⟩
  . exact houtcome 0 _ _ _ _ _ rfl (by decide +kernel)
  . exact houtcome 1 _ _ _ _ _ rfl (by decide +kernel)
  . exact houtcome 2 _ _ _ _ _ rfl (by decide +kernel)
  . rw [hwired]
    decide +kernel
  . rcases hall 2 _ rfl with ⟨_, _, hsource, -, -, hlive⟩
    cases hsource
    rcases hlive (by decide +kernel) with ⟨d, e, hd, hedge, he⟩
    have hdestination : bench.edge? ⟨.port ⟨"osc"⟩ "audio_out", .sink, .audio⟩
        = some ⟨⟨⟨"osc"⟩, "audio_out"⟩, .destination⟩ := by
      decide +kernel
    cases hedge.symm.trans hdestination
    exact ⟨d, hd, he⟩

end ModularSynth
