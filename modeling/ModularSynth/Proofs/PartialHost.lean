import ModularSynth.Proofs.Report
import ModularSynth.Proofs.Engine.Host

/-!
This module contains what a compilation makes of a host that answers only in part. The report counts
each listed id that answers, what a locked or hidden device or a stub should emit is skipped, and
every other device ends with the edges of its own connections that are wired.
-/

namespace ModularSynth
namespace Host

open Compile (inlet replay unlink wire wiredBy)

variable {σ : Type}

section Object

variable {host : Host σ} {id : ModuleId}

theorem object_of_stub {s : σ} (h : host.stubs.get? id = some s) :
    Compile.object host id = .ok (.stub id s) := by
  have hobject : Engine.object? host id = some (.stub id s) := by
    show host.object? id = _
    rw [object?, h]
  rw [Compile.object, hobject]

theorem object_of_noStub (h : host.stubs.get? id = none) :
    Compile.object host id = (Compile.object host.bench id).map .device := by
  have hobject : Engine.object? host id = (Engine.object? host.bench id).map .device := by
    show host.object? id = _
    rw [object?, h]
    rfl
  rw [Compile.object, hobject, Compile.object]
  cases Engine.object? host.bench id <;> rfl

end Object

variable [Stub σ]

/--
The handle is one that the host has for the endpoint: its own sink, what the bench has where no stub
is in front of it, or what a stub answers, as it was given or as it has come to be.
-/
inductive Lands (host : Host σ) : Endpoint → Inlet → Prop
  | sink : host.Lands .sink host.sink
  | device {e : Endpoint} {id : ModuleId} {i : Inlet} (howner : e.owner? = some id)
    (hstub : host.stubs.get? id = none) (hi : host.bench.handle? e = some i) : host.Lands e i
  | input {id : ModuleId} {s s' : σ} {port : String} {i : Inlet}
    (hstub : host.stubs.get? id = some s) (h : Stub.Becomes id s s')
    (hi : Stub.input? id s' port = some i) : host.Lands (.port id port) i
  | slot {id : ModuleId} {s s' : σ} {port : String} {index : UInt64} {i : Inlet}
    (hstub : host.stubs.get? id = some s) (h : Stub.Becomes id s s')
    (hslots : Stub.slotCount id s' port ≠ 0) (hi : Stub.slot? id s' port index = some i) :
    host.Lands (.slot id port index) i
  | param {id : ModuleId} {s s' : σ} {name : String} {i : Inlet}
    (hstub : host.stubs.get? id = some s) (h : Stub.Becomes id s s')
    (hi : Stub.param? id s' name = some i) : host.Lands (.param id name) i

theorem Lands.eq_sink {host : Host σ} {i : Inlet} (h : host.Lands .sink i) : i = host.sink := by
  cases h with
  | sink => rfl
  | device howner => contradiction

/-- Where a bench names its handles by the endpoints, an endpoint without a stub has its own one. -/
theorem Lands.eq_inlet {host : Host σ} (hgenuine : host.bench.Genuine) {e : Endpoint}
    {id : ModuleId} {i : Inlet} (h : host.Lands e i) (howner : e.owner? = some id)
    (hstub : host.stubs.get? id = none) : i = e.inlet := by
  cases h with
  | sink => contradiction
  | device _ _ hi => exact (hgenuine.inlet_eq hi).symm
  | input hs | slot hs | param hs =>
    cases howner
    rw [hstub] at hs
    contradiction

/-- The edge is one that a device of that name lays for the connection. -/
structure Lays (host : Host σ) (name : ModuleId) (c : Connection) (e : Edge) : Prop where
  source : e.source = ⟨name, c.source.name⟩
  target : host.Lands c.target e.target

theorem inlet_of_noStub {host : Host σ} {id : ModuleId} {e : Endpoint} (howner : e.owner? = some id)
    (h : host.stubs.get? id = none) : inlet host e = inlet host.bench e := by
  cases e with
  | port | slot | param =>
    cases howner
    rw [inlet, inlet, object_of_noStub h]
    cases Compile.object host.bench id <;> rfl
  | sink => contradiction

theorem lands_of_stub {host other : Host σ} {id : ModuleId} {s s₀ : σ} {e : Endpoint} {i : Inlet}
    (howner : e.owner? = some id) (hs : host.stubs.get? id = some s)
    (hs₀ : other.stubs.get? id = some s₀) (hbecomes : Stub.Becomes id s₀ s)
    (hi : inlet host e = .ok i) : other.Lands e i := by
  cases e with
  | port =>
    cases howner
    rw [inlet, object_of_stub hs, Except.ok_bind] at hi
    split at hi
    . next hinput =>
      cases hi
      exact .input hs₀ hbecomes hinput
    . contradiction
  | slot =>
    cases howner
    rw [inlet, object_of_stub hs, Except.ok_bind] at hi
    dsimp only at hi
    split at hi
    . contradiction
    . next hslots =>
      split at hi
      . next hslot =>
        cases hi
        exact .slot hs₀ hbecomes hslots hslot
      . contradiction
  | param =>
    cases howner
    rw [inlet, object_of_stub hs, Except.ok_bind] at hi
    split at hi
    . next hparam =>
      cases hi
      exact .param hs₀ hbecomes hparam
    . contradiction
  | sink => contradiction

/-- What is found at any time of a compilation is a handle of the host that was given. -/
theorem Keeps.lands {host other : Host σ} (h : host.Keeps other) {e : Endpoint} {i : Inlet}
    (hi : inlet host e = .ok i) : other.Lands e i := by
  cases howner : e.owner? with
  | none =>
    cases e with
    | sink =>
      cases hi
      show other.Lands .sink host.sink
      rw [h.sink]
      exact .sink
    | port | slot | param => contradiction
  | some id =>
    cases hs : host.stubs.get? id with
    | none =>
      rw [inlet_of_noStub howner hs, ← Bench.handle?_eq_some_iff, Bench.handle?_congr h.bare] at hi
      exact .device howner (h.get?_stubs_eq_none.1 hs) hi
    | some s =>
      rcases h.stubs id s hs with ⟨s₀, hs₀, hbecomes⟩
      exact lands_of_stub howner hs hs₀ hbecomes hi

/-- All that wiring a connection does: it is skipped, or a device that is not shielded emits it. -/
theorem wire_cases (host : Host σ) (c : Connection) :
    (∃ cause after, wire host c = (.error cause, after) ∧ after.bench = host.bench)
      ∨ ∃ (source : Outlet) (target : Inlet) (d : Device),
        c.source = .port source.module source.port
        ∧ host.isShielded source.module = false ∧ host.bench.get? source.module = some d
        ∧ inlet host c.target = .ok target
        ∧ wire host c = (.ok (), host.put source.module (.device
            { d with
              live := d.live ++ [⟨⟨d.id, source.port⟩, target⟩]
              connects := d.connects + 1 })) := by
  unfold wire
  split
  . exact .inl ⟨_, _, rfl, rfl⟩
  . next source target hends =>
    simp only [Compile.ends, Except.bind_eq_ok_iff, Except.mapError_eq_ok_iff] at hends
    rcases hends with ⟨source', hsource, target', htarget, hends⟩
    cases hends
    split
    . exact .inl ⟨_, _, rfl, rfl⟩
    . next o ho =>
      rcases editable?_cases ho with ⟨d, rfl, hshield, hd⟩ | ⟨s, rfl, hs⟩
      . rcases d.connect_cases source.port target with ⟨-, -, heq⟩ | ⟨e, heq⟩
        . refine .inr ⟨source, target, d, Compile.eq_port_of_outlet hsource, hshield, hd, htarget,
            ?_⟩
          simp only [EngineObject.connect, heq]
          rfl
        . refine .inl ⟨.engine e, host.put source.module (.device d), ?_, SortedMap.insert_self hd⟩
          simp only [EngineObject.connect, heq]
          rfl
      . exact .inl ⟨_, _, rfl, rfl⟩

section Teardown

theorem get?_unlink {host : Host σ} {id : ModuleId} (h : host.isShielded id = false)
    (id' : ModuleId) :
    (unlink host id').bench.get? id
      = if id = id' then (host.bench.get? id).map Device.disconnect else host.bench.get? id := by
  rw [Compile.unlink, Engine.change]
  cases ho : Engine.editable? host id' with
  | none =>
    show host.bench.get? id = _
    split
    . next heq =>
      rw [← heq, editable?_of_not_isShielded h, Option.map_eq_none_iff] at ho
      rw [ho]
      rfl
    . rfl
  | some o =>
    rcases editable?_cases ho with ⟨d, rfl, -, hd⟩ | ⟨s, rfl, hs⟩
    . show (host.bench.insert id' d.disconnect).get? id = _
      rw [SortedMap.get?_insert]
      split
      . next heq =>
        rw [heq, hd]
        rfl
      . rfl
    . have hne : id ≠ id' := by
        rintro rfl
        rw [(isShielded_eq_false_iff.1 h).2] at hs
        contradiction
      rw [if_neg hne]
      rfl

/-- A device that is not shielded and is listed emits nothing after the teardown. -/
theorem Keeps.live_foldl_unlink {host other : Host σ} (h : host.Keeps other) {id : ModuleId}
    (hid : other.isShielded id = false) {d : Device} (hd : host.bench.get? id = some d)
    {ids : List ModuleId} (hlive : d.live = [] ∨ id ∈ ids) :
    ∃ d', (ids.foldl unlink host).bench.get? id = some d' ∧ d'.id = d.id ∧ d'.live = [] := by
  induction ids generalizing host d with
  | nil => exact ⟨d, hd, rfl, by simpa using hlive⟩
  | cons id' rest ih =>
    have hnext := get?_unlink ((h.isShielded id).trans hid) id'
    rw [List.foldl_cons]
    by_cases heq : id = id'
    . rw [if_pos heq, hd, Option.map_some] at hnext
      exact ih (d := d.disconnect) (unlink_keeps h id') hnext (.inl rfl)
    . rw [if_neg heq, hd] at hnext
      refine ih (unlink_keeps h id') hnext ?_
      simpa [heq] using hlive

end Teardown

section Replay

variable {host other : Host σ} (h : host.Keeps other)
include h

/-- A replay adds to a device an edge for each of its connections that it wires. -/
theorem Keeps.live_replay {id : ModuleId} {d : Device} (hd : host.bench.get? id = some d)
    (start : Nat) (wiring : Wiring) :
    ∃ d' edges, (replay.go host start wiring).engine.bench.get? id = some d'
      ∧ d'.id = d.id ∧ d'.live = d.live ++ edges
      ∧ List.Forall₂ (other.Lays d.id)
          ((wiredBy host wiring).filter (·.source.isOwnedBy id)) edges := by
  induction wiring generalizing host d start with
  | nil => exact ⟨d, [], hd, rfl, (List.append_nil _).symm, .nil⟩
  | cons c rest ih =>
    have hnext := wire_keeps h c
    rcases host.wire_cases c with ⟨cause, after, hwire, hbench⟩
      | ⟨source, target, d₀, hsource, hshield, hd₀, htarget, hwire⟩
    . rw [hwire] at hnext
      rw [Compile.replay_go_cons_of_error hwire, Compile.wiredBy_cons_of_error hwire]
      refine ih hnext ?_ (start + 1)
      rw [hbench, hd]
    . rw [hwire] at hnext
      rw [Compile.replay_go_cons_of_ok hwire, Compile.wiredBy_cons_of_ok hwire, List.filter_cons]
      have howned : c.source.isOwnedBy id = (source.module == id) := by
        rw [hsource]
        rfl
      have hget := SortedMap.get?_insert host.bench source.module id
        { d₀ with
          live := d₀.live ++ [⟨⟨d₀.id, source.port⟩, target⟩]
          connects := d₀.connects + 1 }
      rw [howned]
      by_cases heq : id = source.module
      . rw [if_pos heq] at hget
        rw [heq, hd₀] at hd
        cases hd
        rcases ih hnext hget (start + 1) with ⟨d', edges, hd', hname, hlive, hedges⟩
        refine ⟨d', _ :: edges, hd', hname, hlive.trans (List.append_assoc _ _ _), ?_⟩
        rw [if_pos (beq_iff_eq.2 heq.symm)]
        refine .cons ⟨?_, h.lands htarget⟩ hedges
        rw [hsource]
        rfl
      . rw [if_neg heq, hd] at hget
        rw [if_neg (by simpa using Ne.symm heq)]
        exact ih hnext hget (start + 1)

/-- What is wired leaves a device that is not shielded. -/
theorem Keeps.source_of_mem_wiredBy {wiring : Wiring} {c : Connection}
    (hc : c ∈ wiredBy host wiring) :
    ∃ source : Outlet, c.source = .port source.module source.port
      ∧ other.isShielded source.module = false ∧ (other.bench.get? source.module).isSome := by
  induction wiring generalizing host with
  | nil => contradiction
  | cons c' rest ih =>
    have hnext := wire_keeps h c'
    rcases host.wire_cases c' with ⟨cause, after, hwire, -⟩
      | ⟨source, target, d, hsource, hshield, hd, -, hwire⟩
    . rw [hwire] at hnext
      rw [Compile.wiredBy_cons_of_error hwire] at hc
      exact ih hnext hc
    . rw [hwire] at hnext
      rw [Compile.wiredBy_cons_of_ok hwire] at hc
      rcases List.mem_cons.1 hc with rfl | hc
      . refine ⟨source, hsource, (h.isShielded _).symm.trans hshield, ?_⟩
        rw [← Bench.isSome_get?_of_bare_eq h.bare, hd]
        rfl
      . exact ih hnext hc

end Replay

variable (wiring : Wiring) (host : Host σ)

theorem tornDown_compile :
    (compile wiring host).1.tornDown
      = (Engine.ids host).countP fun id => (Engine.editable? host id).isSome := by
  apply Compile.disconnectAll_fst (motive := fun after : Host σ => after.Keeps host) put_keeps
    (.refl host)
  intro e h id
  exact h.isSome_editable? id

variable {host}

theorem live_compile {id : ModuleId} (hid : host.isShielded id = false) {d : Device}
    (hd : host.bench.get? id = some d) :
    ∃ d', (compile wiring host).2.bench.get? id = some d' ∧ d'.id = d.id
      ∧ List.Forall₂ (host.Lays d.id)
          (((compile wiring host).1.wiredOf wiring).filter (·.source.isOwnedBy id)) d'.live := by
  have hmem : id ∈ Engine.ids host := by
    apply List.mem_append_left
    apply List.mem_append_left
    rw [SortedMap.mem_keys_iff, hd]
    rfl
  have htorn := (Keeps.refl host).live_foldl_unlink hid hd (.inr hmem)
  rw [← Compile.disconnectAll_snd] at htorn
  rcases htorn with ⟨d₁, hd₁, hname₁, hlive₁⟩
  rcases (teardown_keeps host).live_replay hd₁ 0 wiring with ⟨d', edges, hd', hname, hlive, hlays⟩
  rw [hlive₁, List.nil_append] at hlive
  rw [hname₁] at hname hlays
  refine ⟨d', hd', hname, ?_⟩
  rw [Compile.wiredOf_eq_wiredBy, hlive]
  exact hlays

theorem exists_edge_of_mem_wiredOf {wiring : Wiring} {c : Connection}
    (hc : c ∈ (compile wiring host).1.wiredOf wiring) :
    ∃ (source : Outlet) (d d' : Device) (e : Edge), c.source = .port source.module source.port
      ∧ host.bench.get? source.module = some d
      ∧ (compile wiring host).2.bench.get? source.module = some d' ∧ d'.id = d.id
      ∧ e ∈ d'.live ∧ host.Lays d.id c e := by
  have hwired := hc
  rw [Compile.wiredOf_eq_wiredBy] at hwired
  rcases (teardown_keeps host).source_of_mem_wiredBy hwired with ⟨source, hsource, hid, hsome⟩
  rcases Option.isSome_iff_exists.1 hsome with ⟨d, hd⟩
  rcases live_compile wiring hid hd with ⟨d', hd', hname, hlays⟩
  have howned : c.source.isOwnedBy source.module := by
    rw [hsource]
    exact beq_self_eq_true _
  rcases hlays.exists_of_mem_left (List.mem_filter.2 ⟨hc, howned⟩) with ⟨e, he, hlay⟩
  exact ⟨source, d, d', e, hsource, hd, hd', hname, he, hlay⟩

theorem exists_skip_of_isShielded {wiring : Wiring} {id : ModuleId} (h : host.isShielded id)
    {i : Nat} {c : Connection} (hc : wiring[i]? = some c) (howner : c.source.isOwnedBy id) :
    ∃ s ∈ (compile wiring host).1.skips, s.index = i ∧ s.connection = c := by
  cases hcause : (compile wiring host).1.cause? i with
  | some cause =>
    rw [Report.cause?_eq_some_iff (Compile.skips_ascending wiring host)] at hcause
    rcases hcause with ⟨s, hs, rfl, -⟩
    have hget := Compile.getElem?_of_mem_skips hs
    rw [hc] at hget
    exact ⟨s, hs, rfl, (Option.some.inj hget).symm⟩
  | none =>
    have hwired := Report.mem_wiredOf_of_cause?_eq_none hc hcause
    rw [Compile.wiredOf_eq_wiredBy] at hwired
    rcases (teardown_keeps host).source_of_mem_wiredBy hwired with ⟨source, hsource, hid, -⟩
    rw [hsource] at howner
    have heq : source.module = id := eq_of_beq howner
    rw [heq, h] at hid
    contradiction

/--
A compilation changes nothing of a host but stubs, which may come to answer differently, and devices
that are neither locked nor hidden: these end with an edge for each of their connections that is
wired, in the order of the wiring. The others emit nothing new, and each of their connections is
reported as skipped. Where devices have the handles of their modules, a connection to an endpoint
without a stub is laid as the edge that it names.
-/
theorem compile_partial (wiring : Wiring) (host : Host σ) :
    let report := (compile wiring host).1
    let after := (compile wiring host).2
    after.Keeps host
      ∧ report.tornDown = (Engine.ids host).countP (fun id => (Engine.editable? host id).isSome)
      ∧ report.wired + report.skips.length = wiring.length
      ∧ report.wired = (report.wiredOf wiring).length
      ∧ report.skips.Pairwise (fun s t => s.index < t.index)
      ∧ (∀ s ∈ report.skips, wiring[s.index]? = some s.connection)
      ∧ (∀ id, host.isShielded id →
          after.bench.get? id = host.bench.get? id
            ∧ ∀ i c, wiring[i]? = some c → c.source.isOwnedBy id →
                ∃ s ∈ report.skips, s.index = i ∧ s.connection = c)
      ∧ (∀ id d, host.isShielded id = false → host.bench.get? id = some d →
          ∃ d', after.bench.get? id = some d' ∧ d'.id = d.id
            ∧ List.Forall₂ (host.Lays d.id)
                ((report.wiredOf wiring).filter (·.source.isOwnedBy id)) d'.live)
      ∧ (∀ c ∈ report.wiredOf wiring, c.target = .sink →
          ∃ id d, c.source.owner? = some id ∧ after.bench.get? id = some d
            ∧ ⟨⟨d.id, c.source.name⟩, host.sink⟩ ∈ d.live)
      ∧ (host.bench.Genuine → ∀ c ∈ report.wiredOf wiring, ∀ id, c.target.owner? = some id →
          host.stubs.get? id = none → ∃ e d, c.edge? = some e
            ∧ after.bench.get? e.source.module = some d ∧ e ∈ d.live) := by
  intro report after
  have hkeeps := compile_keeps host wiring
  refine ⟨hkeeps, tornDown_compile wiring host, Compile.wired_add_length_skips wiring host,
    Compile.wired_eq_length_wiredOf wiring host, Compile.skips_ascending wiring host, ?_, ?_, ?_,
    ?_, ?_⟩
  . intro s hs
    exact Compile.getElem?_of_mem_skips hs
  . intro id hid
    refine ⟨hkeeps.shielded id hid, ?_⟩
    intro i c hc howner
    exact exists_skip_of_isShielded hid hc howner
  . intro id d hid hd
    exact live_compile wiring hid hd
  . intro c hc htarget
    rcases exists_edge_of_mem_wiredOf hc with ⟨source, d, d', e, hsource, -, hd', hname, he, hlay⟩
    have hlands := hlay.target
    rw [htarget] at hlands
    refine ⟨source.module, d', ?_, hd', ?_⟩
    . rw [hsource]
      rfl
    . rw [hname, ← hlay.source, ← hlands.eq_sink]
      exact he
  . intro hgenuine c hc id howner hstub
    rcases exists_edge_of_mem_wiredOf hc with ⟨source, d, d', e, hsource, hd, hd', -, he, hlay⟩
    have hedge : c.edge? = some e := by
      rw [Connection.edge?_eq_some_iff, ← hlay.target.eq_inlet hgenuine howner hstub, hlay.source,
        (hgenuine _ d hd).named, hsource]
      exact ⟨rfl, rfl⟩
    have hmodule : e.source.module = source.module := by
      rw [hlay.source]
      exact (hgenuine _ d hd).named
    refine ⟨e, d', hedge, ?_, he⟩
    rw [hmodule]
    exact hd'

end Host
end ModularSynth
