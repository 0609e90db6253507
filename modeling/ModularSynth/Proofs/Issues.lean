import ModularSynth.Proofs.Build
import ModularSynth.Proofs.TryAll

/-!
This module contains what the problems of a patch file say about building it. A build fails with the
first of them, and the file is built once the entries they name are left out.
-/

namespace ModularSynth

/-- The error of a build that stops at a problem. -/
def Issue.buildError : Issue → BuildError
  | .unknownKind m kind => .unknownKind m kind
  | .module _ e => .edit e
  | .connection index source target e => .connection index source target e

namespace PatchFile

open Except (bind_eq_ok_iff)

section Build

variable {catalog : Catalog} {p p' : Patch}

theorem tryModule_tries : Tries Issue.buildError (addModule catalog) (tryModule catalog) := by
  intro p m
  rw [tryModule, addModule]
  cases catalog.schema? m.kind with
  | none => exact .inr ⟨_, rfl, rfl⟩
  | some schema =>
    dsimp only
    rcases hadd : p.addModule ⟨m.id⟩ schema with ⟨e | made, p'⟩
    . rw [Patch.eq_of_addModule_error hadd]
      exact .inr ⟨_, rfl, rfl⟩
    . exact .inl ⟨_, rfl, rfl⟩

/-- Add a connection that comes with its position. -/
def addNumbered (p : Patch) (c : ConnectionEntry × Nat) : Except BuildError Patch :=
  addConnection p c.2 c.1

theorem tryConnection_tries : Tries Issue.buildError addNumbered tryConnection := by
  intro p c
  rw [tryConnection, addNumbered, addConnection]
  rcases hpropose : p.propose c.1.source c.1.target with ⟨e | made, p'⟩
  . rw [Patch.eq_of_propose_error hpropose]
    exact .inr ⟨_, rfl, rfl⟩
  . exact .inl ⟨_, rfl, rfl⟩

theorem addConnections_eq (index : Nat) (cs : List ConnectionEntry) :
    addConnections p index cs = (cs.zipIdx index).foldlM addNumbered p := by
  induction cs generalizing p index with
  | nil => rfl
  | cons c rest ih =>
    rw [addConnections, List.zipIdx_cons, List.foldlM_cons, addNumbered]
    cases addConnection p index c with
    | error e => rfl
    | ok q => rw [Except.ok_bind, Except.ok_bind, ih]

theorem tryModule_eq_some {m : ModuleEntry} {issue : Issue}
    (h : (tryModule catalog p m).1 = some issue) :
    issue = .unknownKind m.id m.kind ∨ ∃ e, issue = .module m.id e := by
  rw [tryModule] at h
  split at h
  . cases h
    exact .inl rfl
  . split at h <;> cases h
    exact .inr ⟨_, rfl⟩

theorem tryConnection_eq_some {c : ConnectionEntry × Nat} {issue : Issue}
    (h : (tryConnection p c).1 = some issue) :
    ∃ e, p.propose c.1.source c.1.target = (.error e, p)
      ∧ issue = .connection c.2 c.1.source c.1.target e := by
  rw [tryConnection] at h
  split at h <;> cases h
  next e p' hpropose =>
    refine ⟨e, ?_, rfl⟩
    rw [hpropose, Patch.eq_of_propose_error hpropose]

/-- The position of a connection is part of the problem it has, but not of whether it has one. -/
theorem addConnections_of_foldlM {cs : List (ConnectionEntry × Nat)} (index : Nat)
    (h : cs.foldlM addNumbered p = .ok p') : addConnections p index (cs.map (·.1)) = .ok p' := by
  induction cs generalizing p index with
  | nil =>
    cases h
    rfl
  | cons c rest ih =>
    rw [List.foldlM_cons] at h
    rcases bind_eq_ok_iff.1 h with ⟨q, hc, h⟩
    have hadd : addConnection p index c.1 = .ok q := by
      rw [addConnection_eq_ok_iff]
      exact addConnection_eq_ok_iff.1 hc
    rw [List.map_cons, addConnections, hadd, Except.ok_bind, ih (index + 1) h]

end Build

/-- The patch a file is tried on, with all modules that can be added. -/
def tried (catalog : Catalog) (file : PatchFile) : Patch :=
  (tryAll (tryModule catalog) .empty file.modules).2

variable (catalog : Catalog) (file : PatchFile)

/-- The part of a file up to some module. -/
def upTo (n : Nat) : PatchFile :=
  { file with modules := file.modules.take n, connections := [] }

/-- What is reported of the module entry at a position: the problem the file has with that entry
that it has not without it and what comes behind it. -/
def moduleIssue? (i : Nat) : Option Issue :=
  ((file.upTo (i + 1)).issues catalog)[((file.upTo i).issues catalog).length]?

/-- What is reported of the connection entry at a position. -/
def connectionIssue? (i : Nat) : Option Issue :=
  (file.issues catalog).find? (·.connectionIndex? == some i)

/-- The module entries of which nothing is reported, and such connection entries before `n`. -/
def retainedBefore (n : Nat) : PatchFile :=
  { file with
    modules := unreported (file.moduleIssue? catalog) file.modules file.modules.length
    connections := unreported (file.connectionIssue? catalog) file.connections n }

/-- The entries of which nothing is reported. -/
def retained : PatchFile :=
  file.retainedBefore catalog file.connections.length

theorem moduleIssue?_eq :
    file.moduleIssue? catalog = failure? (tryModule catalog) .empty file.modules := by
  have hissues : ∀ n, (file.upTo n).issues catalog
      = (List.range n).filterMap (failure? (tryModule catalog) .empty file.modules) := by
    intro n
    rw [issues, ← tryAll_take]
    exact List.append_nil _
  funext i
  rw [moduleIssue?, hissues, hissues, List.filterMap_range_succ, List.getElem?_append_right]
  . cases failure? (tryModule catalog) .empty file.modules i <;> simp
  . exact Nat.le_refl _

theorem issues_eq :
    file.issues catalog
      = (List.range file.modules.length).filterMap (file.moduleIssue? catalog)
        ++ (List.range file.connections.length).filterMap
            (failure? tryConnection (file.tried catalog) file.connections.zipIdx) := by
  have hlength : file.connections.zipIdx.length = file.connections.length := List.length_zipIdx
  rw [moduleIssue?_eq, ← tryAll_eq, ← hlength, ← tryAll_eq]
  rfl

theorem moduleIssue?_eq_some {i : Nat} {issue : Issue}
    (h : file.moduleIssue? catalog i = some issue) :
    ∃ m, file.modules[i]? = some m
      ∧ (issue = .unknownKind m.id m.kind ∨ ∃ e, issue = .module m.id e) := by
  rw [moduleIssue?_eq, failure?_eq_some_iff] at h
  rcases h with ⟨m, hm, hstep⟩
  exact ⟨m, hm, tryModule_eq_some hstep⟩

theorem connectionFailure?_eq_some {i : Nat} {issue : Issue}
    (h : failure? tryConnection (file.tried catalog) file.connections.zipIdx i = some issue) :
    let p := (tryAll tryConnection (file.tried catalog) (file.connections.zipIdx.take i)).2
    ∃ c e, file.connections[i]? = some c ∧ issue = .connection i c.source c.target e
      ∧ p.propose c.source c.target = (.error e, p) := by
  rw [failure?_eq_some_iff] at h
  rcases h with ⟨x, hx, hstep⟩
  rw [List.getElem?_zipIdx, Option.map_eq_some_iff] at hx
  rcases hx with ⟨c, hc, rfl⟩
  rcases tryConnection_eq_some hstep with ⟨e, hpropose, hissue⟩
  rw [Nat.zero_add] at hissue
  exact ⟨c, e, hc, hissue, hpropose⟩

theorem connectionIssue?_eq :
    file.connectionIssue? catalog
      = failure? tryConnection (file.tried catalog) file.connections.zipIdx := by
  funext i
  rw [connectionIssue?, issues_eq, List.find?_append, List.find?_eq_none.2, Option.none_or]
  . apply List.find?_filterMap_range
    . intro j issue h
      rcases connectionFailure?_eq_some catalog file h with ⟨c, e, -, rfl, -⟩
      rfl
    . intro hle
      rw [failure?, List.getElem?_eq_none]
      . rfl
      . rw [List.length_zipIdx]
        exact hle
  . -- No problem of a module has the position of a connection.
    intro issue hissue
    rcases List.mem_filterMap.1 hissue with ⟨j, -, h⟩
    rcases moduleIssue?_eq_some catalog file h with ⟨m, -, rfl | ⟨e, rfl⟩⟩ <;>
      simp [Issue.connectionIndex?]

theorem build_eq :
    match file.issues catalog with
    | [] => ∃ p, file.build catalog = .ok p
    | issue :: _ => file.build catalog = .error issue.buildError := by
  rw [issues, build, foldlM_eq_tryAll tryModule_tries]
  dsimp only
  cases (tryAll (tryModule catalog) .empty file.modules).1 with
  | cons issue rest => rfl
  | nil =>
    rw [List.nil_append]
    dsimp only
    rw [Except.ok_bind, addConnections_eq, foldlM_eq_tryAll tryConnection_tries]
    split
    . next h =>
      rw [h]
      exact ⟨_, rfl⟩
    . next h => rw [h]

theorem exists_build_iff : (∃ p, file.build catalog = .ok p) ↔ file.issues catalog = [] := by
  have hbuild := build_eq catalog file
  cases hissues : file.issues catalog with
  | nil =>
    rw [hissues] at hbuild
    simp [hbuild]
  | cons issue rest =>
    rw [hissues] at hbuild
    simp [hbuild]

theorem build_retainedBefore (n : Nat) :
    (file.retainedBefore catalog n).build catalog
      = .ok (tryAll tryConnection (file.tried catalog) (file.connections.zipIdx.take n)).2 := by
  have hmodules : (file.retainedBefore catalog n).modules.foldlM (addModule catalog) .empty
      = .ok (file.tried catalog) := by
    rw [retainedBefore, moduleIssue?_eq, foldlM_unreported tryModule_tries, List.take_length]
    rfl
  have hconnections : (file.retainedBefore catalog n).connections
      = (unreported (file.connectionIssue? catalog) file.connections.zipIdx n).map (·.1) := by
    rw [map_unreported, List.zipIdx_map_fst]
    rfl
  rw [build, hmodules, Except.ok_bind, hconnections, connectionIssue?_eq]
  apply addConnections_of_foldlM
  apply foldlM_unreported tryConnection_tries

/--
A file is built if it has no problems, and else the build fails with the first of them.
-/
theorem build_agrees_issues :
    ((∃ p, file.build catalog = .ok p) ↔ file.issues catalog = [])
      ∧ ∀ e, file.build catalog = .error e →
          ∃ issue, (file.issues catalog).head? = some issue ∧ issue.buildError = e := by
  refine ⟨exists_build_iff catalog file, ?_⟩
  intro e herror
  have hbuild := build_eq catalog file
  cases hissues : file.issues catalog with
  | nil =>
    rw [hissues] at hbuild
    rcases hbuild with ⟨p, hp⟩
    rw [hp] at herror
    contradiction
  | cons issue rest =>
    rw [hissues] at hbuild
    rw [hbuild] at herror
    cases herror
    exact ⟨issue, rfl, rfl⟩

/--
What is reported belongs to single entries: it lists what is reported of each module and then of
each connection, in the order of the file. A connection that is reported fails in just this way on
the patch of what was retained before it. What is retained has no problems, and it is built into
the modules and connections that its entries stand for.
-/
theorem issues_retained :
    file.issues catalog
        = (List.range file.modules.length).filterMap (file.moduleIssue? catalog)
          ++ (List.range file.connections.length).filterMap (file.connectionIssue? catalog)
      ∧ (∀ i issue, file.moduleIssue? catalog i = some issue →
          ∃ m, file.modules[i]? = some m
            ∧ (issue = .unknownKind m.id m.kind ∨ ∃ e, issue = .module m.id e))
      ∧ (∀ i issue, file.connectionIssue? catalog i = some issue →
          ∃ c e p, file.connections[i]? = some c ∧ issue = .connection i c.source c.target e
            ∧ (file.retainedBefore catalog i).build catalog = .ok p
            ∧ p.propose c.source c.target = (.error e, p))
      ∧ (file.retained catalog).issues catalog = []
      ∧ ∃ p, (file.retained catalog).build catalog = .ok p
          ∧ p.rack.map (·.entry) = (file.retained catalog).modules
          ∧ List.Forall₂ (Denotes p) (file.retained catalog).connections p.wiring := by
  have hbuild := build_retainedBefore catalog file file.connections.length
  refine ⟨?_, ?_, ?_, ?_, _, hbuild, of_build hbuild⟩
  . rw [connectionIssue?_eq, issues_eq]
  . intro i issue h
    exact moduleIssue?_eq_some catalog file h
  . intro i issue h
    rw [connectionIssue?_eq] at h
    rcases connectionFailure?_eq_some catalog file h with ⟨c, e, hc, hissue, hpropose⟩
    exact ⟨c, e, _, hc, hissue, build_retainedBefore catalog file i, hpropose⟩
  . exact (exists_build_iff catalog (file.retained catalog)).1 ⟨_, hbuild⟩

/-- The second `a` and the kind `fuzz` go, and with the latter the connection that needs it. -/
example :
    let file : PatchFile := ⟨"Test", none,
      [⟨"a", "oscillator"⟩, ⟨"a", "lfo"⟩, ⟨"f", "fuzz"⟩, ⟨"b", "filter"⟩],
      [⟨"a/audio_out", "f/audio_in"⟩, ⟨"a/audio_out", "b/audio_in"⟩]⟩
    file.retained .builtin = ⟨"Test", none, [⟨"a", "oscillator"⟩, ⟨"b", "filter"⟩],
      [⟨"a/audio_out", "b/audio_in"⟩]⟩ := by
  decide +kernel

end PatchFile
end ModularSynth
