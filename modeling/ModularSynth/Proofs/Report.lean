import ModularSynth.Proofs.Compile
import ModularSynth.Proofs.List

/-!
This module contains what a report says about the positions of a wiring: which connections were
wired, and why the others were not.
-/

namespace ModularSynth

namespace Report

/-- Why the connection at a position was skipped; nothing if it was wired. -/
def cause? (r : Report) (index : Nat) : Option SkipCause :=
  (r.skips.find? (·.index == index)).map (·.cause)

/-- The connections of a wiring that the report does not list as skipped. -/
def wiredOf (r : Report) (wiring : Wiring) : List Connection :=
  (wiring.zipIdx.filter fun x => (r.cause? x.2).isNone).map (·.1)

theorem cause?_eq_some_iff {r : Report} (h : r.skips.Pairwise fun s t => s.index < t.index)
    {index : Nat} {cause : SkipCause} :
    r.cause? index = some cause ↔ ∃ s ∈ r.skips, s.index = index ∧ s.cause = cause := by
  rw [cause?, Option.map_eq_some_iff]
  constructor
  . rintro ⟨s, hs, hcause⟩
    refine ⟨s, List.mem_of_find?_eq_some hs, ?_, hcause⟩
    simpa using List.find?_some hs
  . rintro ⟨s, hs, rfl, hcause⟩
    have hnodup : (r.skips.map (·.index)).Nodup := by
      apply List.pairwise_map.2
      apply h.imp
      intro s t hlt
      exact Nat.ne_of_lt hlt
    exact ⟨s, List.find?_key_of_mem hnodup hs, hcause⟩

theorem mem_of_mem_wiredOf {r : Report} {wiring : Wiring} {c : Connection}
    (h : c ∈ r.wiredOf wiring) : c ∈ wiring := by
  rw [wiredOf, List.mem_map] at h
  rcases h with ⟨x, hx, rfl⟩
  exact List.fst_mem_of_mem_zipIdx (List.mem_of_mem_filter hx)

theorem mem_wiredOf_of_cause?_eq_none {r : Report} {wiring : Wiring} {i : Nat} {c : Connection}
    (hc : wiring[i]? = some c) (hnone : r.cause? i = none) : c ∈ r.wiredOf wiring := by
  rw [wiredOf, List.mem_map]
  refine ⟨(c, i), List.mem_filter.2 ⟨?_, ?_⟩, rfl⟩
  . rw [List.mem_zipIdx_iff_getElem?]
    exact hc
  . rw [hnone]
    rfl

end Report

namespace Compile

variable {β ο : Type} [EngineObject ο] [Engine β ο]

/-- The connections that a replay wires, in their order. -/
def wiredBy (engine : β) : Wiring → Wiring
  | [] => []
  | c :: rest =>
    match wire engine c with
    | (.ok (), engine) => c :: wiredBy engine rest
    | (.error _, engine) => wiredBy engine rest

section Replay

section Cons

variable {engine engine' : β} {c : Connection}

theorem wiredBy_cons_of_ok (h : wire engine c = (.ok (), engine')) (rest : Wiring) :
    wiredBy engine (c :: rest) = c :: wiredBy engine' rest := by
  rw [wiredBy, h]

theorem wiredBy_cons_of_error {cause : SkipCause} (h : wire engine c = (.error cause, engine'))
    (rest : Wiring) : wiredBy engine (c :: rest) = wiredBy engine' rest := by
  rw [wiredBy, h]

theorem replay_go_cons_of_ok (h : wire engine c = (.ok (), engine')) (start : Nat)
    (rest : Wiring) :
    replay.go engine start (c :: rest)
      = { replay.go engine' (start + 1) rest with
          wired := (replay.go engine' (start + 1) rest).wired + 1 } := by
  rw [replay.go, h]

theorem replay_go_cons_of_error {cause : SkipCause} (h : wire engine c = (.error cause, engine'))
    (start : Nat) (rest : Wiring) :
    replay.go engine start (c :: rest)
      = { replay.go engine' (start + 1) rest with
          skips := ⟨start, c, cause⟩ :: (replay.go engine' (start + 1) rest).skips } := by
  rw [replay.go, h]

end Cons

variable (engine : β) (start : Nat) (wiring : Wiring)

theorem replay_go_wired :
    (replay.go engine start wiring).wired = (wiredBy engine wiring).length := by
  induction wiring generalizing engine start with
  | nil => rfl
  | cons c rest ih =>
    rcases hwire : wire engine c with ⟨cause | ⟨⟩, engine'⟩
    . rw [replay_go_cons_of_error hwire, wiredBy_cons_of_error hwire]
      exact ih engine' (start + 1)
    . rw [replay_go_cons_of_ok hwire, wiredBy_cons_of_ok hwire]
      exact congrArg (· + 1) (ih engine' (start + 1))

theorem replay_go_length :
    (replay.go engine start wiring).wired + (replay.go engine start wiring).skips.length
      = wiring.length := by
  induction wiring generalizing engine start with
  | nil => rfl
  | cons c rest ih =>
    rcases hwire : wire engine c with ⟨cause | ⟨⟩, engine'⟩
    . have hrest := ih engine' (start + 1)
      rw [replay_go_cons_of_error hwire]
      simp only [List.length_cons]
      omega
    . have hrest := ih engine' (start + 1)
      rw [replay_go_cons_of_ok hwire]
      simp only [List.length_cons]
      omega

variable {engine start wiring} in
theorem getElem?_of_mem_replay_go {s : Skip} (hs : s ∈ (replay.go engine start wiring).skips) :
    ∃ i, s.index = start + i ∧ wiring[i]? = some s.connection := by
  induction wiring generalizing engine start with
  | nil => contradiction
  | cons c rest ih =>
    have hrest : ∀ {engine' : β}, s ∈ (replay.go engine' (start + 1) rest).skips →
        ∃ i, s.index = start + i ∧ (c :: rest)[i]? = some s.connection := by
      intro engine' hs
      rcases ih hs with ⟨i, hindex, hget⟩
      exact ⟨i + 1, by omega, hget⟩
    rcases hwire : wire engine c with ⟨cause | ⟨⟩, engine'⟩
    . rw [replay_go_cons_of_error hwire] at hs
      rcases List.mem_cons.1 hs with rfl | hs
      . exact ⟨0, rfl, rfl⟩
      . exact hrest hs
    . rw [replay_go_cons_of_ok hwire] at hs
      exact hrest hs

theorem replay_go_ascending :
    (replay.go engine start wiring).skips.Pairwise fun s t => s.index < t.index := by
  induction wiring generalizing engine start with
  | nil => exact .nil
  | cons c rest ih =>
    rcases hwire : wire engine c with ⟨cause | ⟨⟩, engine'⟩
    . rw [replay_go_cons_of_error hwire]
      refine List.pairwise_cons.2 ⟨?_, ih engine' (start + 1)⟩
      intro s hs
      rcases getElem?_of_mem_replay_go hs with ⟨i, hindex, -⟩
      dsimp only
      omega
    . rw [replay_go_cons_of_ok hwire]
      exact ih engine' (start + 1)

/-- The positions that are not skipped are those of the connections that are wired. -/
theorem filter_replay_go :
    ((wiring.zipIdx start).filter fun x =>
        ((replay.go engine start wiring).skips.find? (·.index == x.2)).isNone).map (·.1)
      = wiredBy engine wiring := by
  induction wiring generalizing engine start with
  | nil => rfl
  | cons c rest ih =>
    have hlater : ∀ x ∈ rest.zipIdx (start + 1), start ≠ x.2 := by
      intro x hx
      have := List.le_snd_of_mem_zipIdx hx
      omega
    rcases hwire : wire engine c with ⟨cause | ⟨⟩, engine'⟩
    . rw [replay_go_cons_of_error hwire, wiredBy_cons_of_error hwire, ← ih engine' (start + 1),
        List.zipIdx_cons, List.filter_cons_of_neg (by simp)]
      congr 1
      apply List.filter_congr
      intro x hx
      rw [List.find?_cons_of_neg]
      simpa using hlater x hx
    . have hnone : (replay.go engine' (start + 1) rest).skips.find? (·.index == start) = none := by
        rw [List.find?_eq_none]
        intro s hs heq
        rcases getElem?_of_mem_replay_go hs with ⟨i, hindex, -⟩
        have heq : s.index = start := eq_of_beq heq
        omega
      rw [replay_go_cons_of_ok hwire, wiredBy_cons_of_ok hwire, ← ih engine' (start + 1),
        List.zipIdx_cons, List.filter_cons_of_pos (by simp [hnone]), List.map_cons]

end Replay

section Compile

variable (wiring : Wiring) (engine : β)

theorem skips_ascending :
    (compile wiring engine).1.skips.Pairwise fun s t => s.index < t.index := by
  apply replay_go_ascending

variable {wiring engine} in
theorem getElem?_of_mem_skips {s : Skip} (hs : s ∈ (compile wiring engine).1.skips) :
    wiring[s.index]? = some s.connection := by
  rcases getElem?_of_mem_replay_go hs with ⟨i, hindex, hget⟩
  rw [hindex, Nat.zero_add]
  exact hget

theorem wired_add_length_skips :
    (compile wiring engine).1.wired + (compile wiring engine).1.skips.length = wiring.length := by
  apply replay_go_length

theorem wiredOf_eq_wiredBy :
    (compile wiring engine).1.wiredOf wiring = wiredBy (teardown engine).2 wiring := by
  rw [← filter_replay_go _ 0 wiring, Report.wiredOf]
  simp only [Report.cause?, Option.isNone_map]
  rfl

theorem wired_eq_length_wiredOf :
    (compile wiring engine).1.wired = ((compile wiring engine).1.wiredOf wiring).length := by
  rw [wiredOf_eq_wiredBy]
  apply replay_go_wired

end Compile

section Skipped

variable (engine : β)

theorem skip?_eq_some_iff {c : Connection} {index : Nat} {s : Skip} :
    skip? engine c index = some s ↔
      s.index = index ∧ s.connection = c ∧ fate engine c = .error s.cause := by
  unfold skip?
  split
  . next hfate => simp [hfate]
  . next cause hfate =>
    rcases s with ⟨i, d, cause'⟩
    simp [hfate, eq_comm]

theorem mem_skipped_iff {wiring : Wiring} {s : Skip} :
    s ∈ skipped engine 0 wiring ↔
      wiring[s.index]? = some s.connection ∧ fate engine s.connection = .error s.cause := by
  simp only [skipped, List.mem_filterMap, List.mem_zipIdx_iff_getElem?, skip?_eq_some_iff]
  constructor
  . rintro ⟨x, hget, hindex, hconnection, hfate⟩
    rw [hindex, hconnection]
    exact ⟨hget, hfate⟩
  . rintro ⟨hget, hfate⟩
    exact ⟨(s.connection, s.index), hget, rfl, rfl, hfate⟩

end Skipped

section Lawful

variable [LawfulObject ο] [LawfulEngine β ο] {wiring : Wiring} {engine : β}

theorem length_wiredEdges_add_length_skipped (wiring : Wiring) (engine : β) :
    (wiredEdges engine wiring).length + (skipped engine 0 wiring).length = wiring.length := by
  have hlength := wired_add_length_skips wiring engine
  rw [compile_report] at hlength
  exact hlength

theorem cause?_compile_eq_some_iff {index : Nat} {cause : SkipCause} :
    (compile wiring engine).1.cause? index = some cause ↔
      ∃ c, wiring[index]? = some c ∧ fate engine c = .error cause := by
  rw [Report.cause?_eq_some_iff (skips_ascending wiring engine), compile_report]
  simp only [mem_skipped_iff]
  constructor
  . rintro ⟨s, ⟨hget, hfate⟩, rfl, rfl⟩
    exact ⟨s.connection, hget, hfate⟩
  . rintro ⟨c, hget, hfate⟩
    exact ⟨⟨index, c, cause⟩, ⟨hget, hfate⟩, rfl, rfl⟩

theorem cause?_compile {index : Nat} {c : Connection} (hc : wiring[index]? = some c) :
    (compile wiring engine).1.cause? index = (fate engine c).error? := by
  apply Option.ext
  intro cause
  rw [cause?_compile_eq_some_iff, Except.error?_eq_some_iff]
  simp [hc]

theorem cause?_compile_alone {a b : β} (h : Engine.Alike a b) {index : Nat} {c : Connection}
    (hc : wiring[index]? = some c) :
    (compile wiring a).1.cause? index = (compile [c] b).1.cause? 0 := by
  rw [cause?_compile hc, cause?_compile (by rfl), fate_congr h]

theorem wiredOf_compile :
    (compile wiring engine).1.wiredOf wiring = wiring.filter fun c => (fate engine c).isOk := by
  have hwired : ∀ x ∈ wiring.zipIdx,
      ((compile wiring engine).1.cause? x.2).isNone = (fate engine x.1).isOk := by
    intro x hx
    rw [List.mem_zipIdx_iff_getElem?] at hx
    apply Bool.eq_iff_iff.2
    rw [Option.isNone_iff_eq_none, Option.eq_none_iff_forall_ne_some]
    simp only [ne_eq, cause?_compile_eq_some_iff, hx, Option.some.injEq, exists_eq_left']
    cases fate engine x.1 with
    | error cause => simp
    | ok edge => simp
  unfold Report.wiredOf
  rw [List.filter_congr hwired]
  have := List.filter_map (f := Prod.fst) (p := fun c => (fate engine c).isOk) (l := wiring.zipIdx)
  rw [List.zipIdx_map_fst] at this
  exact this.symm

end Lawful

end Compile
end ModularSynth
