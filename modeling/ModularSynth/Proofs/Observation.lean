import Mathlib.Logic.Function.Basic
import ModularSynth.Proofs.Effect

/-!
This module contains that observers hear of every compilation and have no influence. In a session a
patch is edited and compiled for any number of engines, while observers are registered and logs are
emptied. What a log has given away so far and what it still holds are one event for each compilation
since it was registered, and without its observers the session goes the same way.
-/

namespace ModularSynth

namespace Observers

/-- What a log holds; a log that is not registered holds nothing. -/
def content (o : Observers) (log : Nat) : EventLog :=
  (o.logs[log]?).getD []

variable (o : Observers) {log : Nat}

theorem content_of_length_le (h : o.logs.length ≤ log) : o.content log = [] := by
  simp [content, h]

theorem content_notify (h : log < o.logs.length) (e : Event) :
    (o.notify e).content log = o.content log ++ [e] := by
  simp [content, notify, h]

theorem content_addLog : o.addLog.content log = o.content log := by
  simp only [content, addLog, List.getElem?_append]
  split
  . rfl
  . next h =>
    rw [List.getElem?_eq_none (Nat.le_of_not_lt h)]
    cases log - o.logs.length <;> rfl

theorem content_take_self : (o.take log).2.content log = [] := by
  simp only [content, take, List.getElem?_set_self']
  cases o.logs[log]? <;> rfl

theorem content_take_of_ne {log' : Nat} (h : log' ≠ log) :
    (o.take log').2.content log = o.content log := by
  simp [content, take, h]

end Observers

namespace Patch

def observedBy (p : Patch) (observers : Observers) : Patch :=
  { p with observers := observers }

section ObservedBy

variable (p : Patch) (o : Observers)

theorem addModule_observedBy (id : ModuleId) (schema : Schema) :
    (p.observedBy o).addModule id schema
      = ((p.addModule id schema).1, (p.addModule id schema).2.observedBy o) := by
  cases hvalid : id.isValid <;> cases hold : p.rack.find? id <;>
    simp [addModule, observedBy, hvalid, hold]

theorem removeModule_observedBy (id : ModuleId) :
    (p.observedBy o).removeModule id
      = ((p.removeModule id).1, (p.removeModule id).2.observedBy o) := by
  cases hold : p.rack.find? id <;> simp [removeModule, observedBy, hold]

theorem propose_observedBy (source target : String) :
    (p.observedBy o).propose source target
      = ((p.propose source target).1, (p.propose source target).2.observedBy o) := by
  have hends : (p.observedBy o).endpoints source target = p.endpoints source target := rfl
  rw [propose, propose, hends]
  cases p.endpoints source target <;> rfl

theorem remove_observedBy (source target : String) :
    (p.observedBy o).remove source target
      = ((p.remove source target).1, (p.remove source target).2.observedBy o) := by
  simp only [remove, observedBy]
  cases parse .source source with
  | error e => rfl
  | ok sourceAddress =>
    cases parse .target target with
    | error e => rfl
    | ok targetAddress =>
      dsimp only
      cases sourceAddress.resolve p.rack with
      | error e => rfl
      | ok sourceEnd => cases targetAddress.resolve p.rack <;> rfl

end ObservedBy

section Edit

variable (p : Patch) (o : Observers) (e : Edit)

theorem answer_observedBy : (p.observedBy o).answer e = p.answer e := by
  cases e with
  | addModule id schema => rw [answer, answer, addModule_observedBy]
  | removeModule id => rw [answer, answer, removeModule_observedBy]
  | propose source target => rw [answer, answer, propose_observedBy]
  | connect source target => rfl
  | remove source target => rw [answer, answer, remove_observedBy]
  | disconnect source target => rfl

theorem edit_observedBy : (p.observedBy o).edit e = (p.edit e).observedBy o := by
  cases e with
  | addModule id schema => rw [edit, edit, addModule_observedBy]
  | removeModule id => rw [edit, edit, removeModule_observedBy]
  | propose source target => rw [edit, edit, propose_observedBy]
  | connect source target => rfl
  | remove source target => rw [edit, edit, remove_observedBy]
  | disconnect source target => rfl

theorem observers_edit : (p.edit e).observers = p.observers := by
  -- A patch is observed by the observers it has.
  have h := congrArg observers (edit_observedBy p p.observers e)
  exact h

end Edit
end Patch

/-- A patch and the engines it is compiled for. -/
structure Session {ι : Type} (β : ι → Type) where
  patch : Patch
  engines : (i : ι) → β i

namespace Session

inductive Call {ι : Type} (β : ι → Type)
  | edit (e : Patch.Edit)
  | compile (i : ι)
  /-- Anything that is done to an engine, depending on the modules and connections there are. -/
  | rework (i : ι) (f : Rack → Wiring → β i → β i)
  /-- Register an empty log. -/
  | log
  /-- Register a tally. -/
  | tally
  /-- Empty a log; nothing happens if none has the number. -/
  | take (log : Nat)

inductive Answer
  | edited (answer : Except EditError Patch.Answer)
  | compiled (report : Report)
  | reworked
  | registered
  | taken (log : Nat) (events : EventLog)

/-- The calls that are about observers only. -/
def Call.isObserving {ι : Type} {β : ι → Type} : Call β → Bool
  | .log => true
  | .tally => true
  | .take _ => true
  | _ => false

def Call.isCompile {ι : Type} {β : ι → Type} : Call β → Bool
  | .compile _ => true
  | _ => false

/-- What an answer hands over of the events of a log. -/
def Answer.taken? (log : Nat) : Answer → List Event
  | .taken log' events => if log' = log then events else []
  | _ => []

variable {ι : Type} {β : ι → Type}

def content (s : Session β) (log : Nat) : EventLog :=
  s.patch.observers.content log

def unobserved (s : Session β) : Session β :=
  { s with patch := s.patch.observedBy .none }

section Calls

variable {ο : ι → Type} [DecidableEq ι] [(i : ι) → EngineObject (ο i)]
  [(i : ι) → Engine (β i) (ο i)]

/-- The answer to a call and what is there after it. -/
def call (s : Session β) : Call β → Answer × Session β
  | .edit e => (.edited (s.patch.answer e), { s with patch := s.patch.edit e })
  | .compile i =>
    let (report, patch, engine) := s.patch.compile (s.engines i)
    (.compiled report, ⟨patch, Function.update s.engines i engine⟩)
  | .rework i f =>
    let engine := f s.patch.rack s.patch.wiring (s.engines i)
    (.reworked, { s with engines := Function.update s.engines i engine })
  | .log => (.registered, { s with patch := s.patch.observedBy s.patch.observers.addLog })
  | .tally => (.registered, { s with patch := s.patch.observedBy s.patch.observers.addTally })
  | .take log =>
    let (events, observers) := s.patch.observers.take log
    (.taken log events, { s with patch := s.patch.observedBy observers })

def run (s : Session β) (calls : List (Call β)) : Session β :=
  calls.foldl (fun s c => (s.call c).2) s

/-- The calls one by one, as their answers and the sessions they are made in. -/
def trace (s : Session β) : List (Call β) → List (Session β × Answer)
  | [] => []
  | c :: calls => (s, (s.call c).1) :: trace (s.call c).2 calls

end Calls

/-- The event a call is for the observers; only compilations are events. -/
def event : Session β × Answer → List Event
  | (s, .compiled report) => [⟨s.patch.wiring, report.skips⟩]
  | _ => []

/-- What there is to see of a call but for observers. -/
def shown? : Session β × Answer → Option (Session β × Answer)
  | (_, .registered) => none
  | (_, .taken _ _) => none
  | (s, answer) => some (s.unobserved, answer)

section Observation

variable {ο : ι → Type} [DecidableEq ι] [(i : ι) → EngineObject (ο i)]
  [(i : ι) → Engine (β i) (ο i)]

theorem run_append (s : Session β) (calls calls' : List (Call β)) :
    s.run (calls ++ calls') = (s.run calls).run calls' := by
  exact List.foldl_append

theorem trace_append (s : Session β) (calls calls' : List (Call β)) :
    s.trace (calls ++ calls') = s.trace calls ++ (s.run calls).trace calls' := by
  induction calls generalizing s with
  | nil => rfl
  | cons c calls ih => exact congrArg _ (ih (s.call c).2)

/-- The number of the log that would be registered next. -/
def nextLog (s : Session β) : Nat :=
  s.patch.observers.logs.length

theorem nextLog_le_call (s : Session β) (c : Call β) : s.nextLog ≤ (s.call c).2.nextLog := by
  cases c with
  | edit e => simp [nextLog, call, Patch.observers_edit]
  | compile i => simp [nextLog, call, Patch.compile, Observers.notify]
  | rework i f => exact Nat.le_refl _
  | log => simp [nextLog, call, Patch.observedBy, Observers.addLog]
  | tally => exact Nat.le_refl _
  | take log => simp [nextLog, call, Patch.observedBy, Observers.take]

theorem nextLog_le_run (s : Session β) (calls : List (Call β)) :
    s.nextLog ≤ (s.run calls).nextLog := by
  induction calls generalizing s with
  | nil => exact Nat.le_refl _
  | cons c calls ih => exact Nat.le_trans (nextLog_le_call s c) (ih (s.call c).2)

/-- A call hands over or leaves what was in a log, and adds its event if there is one. -/
theorem content_call (s : Session β) (c : Call β) {log : Nat} (h : log < s.nextLog) :
    (s.call c).1.taken? log ++ (s.call c).2.content log
      = s.content log ++ event (s, (s.call c).1) := by
  cases c with
  | edit e => simp [call, Answer.taken?, event, content, Patch.observers_edit]
  | compile i => exact Observers.content_notify _ h _
  | rework i f => exact (List.append_nil _).symm
  | log => exact (Observers.content_addLog _).trans (List.append_nil _).symm
  | tally => exact (List.append_nil _).symm
  | take log' =>
    show (if log' = log then s.content log' else []) ++ (s.patch.observers.take log').2.content log
      = s.content log ++ []
    split
    . next heq => rw [heq, Observers.content_take_self]
    . next hne => rw [Observers.content_take_of_ne _ hne, List.append_nil, List.nil_append, content]

theorem content_run (s : Session β) (calls : List (Call β)) {log : Nat} (h : log < s.nextLog) :
    (s.trace calls).flatMap (·.2.taken? log) ++ (s.run calls).content log
      = s.content log ++ (s.trace calls).flatMap event := by
  induction calls generalizing s with
  | nil => simp [trace, run]
  | cons c calls ih =>
    have hcalls := ih (s.call c).2 (Nat.lt_of_lt_of_le h (nextLog_le_call s c))
    calc (s.trace (c :: calls)).flatMap (·.2.taken? log) ++ (s.run (c :: calls)).content log
      _ = (s.call c).1.taken? log ++ (((s.call c).2.trace calls).flatMap (·.2.taken? log)
            ++ ((s.call c).2.run calls).content log) := List.append_assoc ..
      _ = ((s.call c).1.taken? log ++ (s.call c).2.content log)
            ++ ((s.call c).2.trace calls).flatMap event := by rw [hcalls, List.append_assoc]
      _ = s.content log ++ (s.trace (c :: calls)).flatMap event := by
        rw [content_call s c h, trace, List.flatMap_cons, List.append_assoc]

theorem taken?_call (s : Session β) (c : Call β) {log : Nat} (h : s.nextLog ≤ log) :
    (s.call c).1.taken? log = [] := by
  cases c with
  | take log' =>
    show (if log' = log then s.content log' else []) = []
    split
    . next heq =>
      rw [heq]
      exact Observers.content_of_length_le _ h
    . rfl
  | _ => rfl

theorem taken?_trace (s : Session β) (calls : List (Call β)) {log : Nat}
    (h : (s.run calls).nextLog ≤ log) : (s.trace calls).flatMap (·.2.taken? log) = [] := by
  induction calls generalizing s with
  | nil => rfl
  | cons c calls ih =>
    have hc := Nat.le_trans (nextLog_le_call s c) (nextLog_le_run (s.call c).2 calls)
    rw [trace, List.flatMap_cons, taken?_call s c (Nat.le_trans hc h), ih _ h, List.nil_append]

theorem length_event_call (s : Session β) (c : Call β) :
    (event (s, (s.call c).1)).length = if c.isCompile then 1 else 0 := by
  cases c <;> rfl

theorem length_event_trace (s : Session β) (calls : List (Call β)) :
    ((s.trace calls).flatMap event).length = calls.countP Call.isCompile := by
  induction calls generalizing s with
  | nil => rfl
  | cons c calls ih =>
    rw [trace, List.flatMap_cons, List.length_append, length_event_call, ih, List.countP_cons,
      Nat.add_comm]

section Unobserved

variable (s : Session β) {c : Call β}

theorem unobserved_call_of_isObserving (h : c.isObserving = true) :
    (s.call c).2.unobserved = s.unobserved := by
  cases c with
  | edit e => contradiction
  | compile i => contradiction
  | rework i f => contradiction
  | log => rfl
  | tally => rfl
  | take log => rfl

theorem call_unobserved (h : c.isObserving = false) :
    s.unobserved.call c = ((s.call c).1, (s.call c).2.unobserved) := by
  cases c with
  | edit e =>
    rw [call, unobserved, Patch.answer_observedBy, Patch.edit_observedBy]
    rfl
  | compile i => rfl
  | rework i f => rfl
  | log => contradiction
  | tally => contradiction
  | take log => contradiction

theorem shown?_call : shown? (s, (s.call c).1)
    = if c.isObserving then none else some (s.unobserved, (s.call c).1) := by
  cases c <;> rfl

end Unobserved

theorem run_unobserved (s : Session β) (calls : List (Call β)) :
    (s.run calls).unobserved = s.unobserved.run (calls.filter (!·.isObserving)) := by
  induction calls generalizing s with
  | nil => rfl
  | cons c calls ih =>
    cases h : c.isObserving with
    | true =>
      rw [List.filter_cons_of_neg (by simp [h]), ← unobserved_call_of_isObserving s h]
      exact ih _
    | false =>
      rw [List.filter_cons_of_pos (by simp [h])]
      refine (ih _).trans ?_
      rw [run, run, List.foldl_cons, call_unobserved s h]

theorem trace_unobserved (s : Session β) (calls : List (Call β)) :
    (s.trace calls).filterMap shown? = s.unobserved.trace (calls.filter (!·.isObserving)) := by
  induction calls generalizing s with
  | nil => rfl
  | cons c calls ih =>
    rw [trace, List.filterMap_cons, shown?_call, ih]
    cases h : c.isObserving with
    | true => simp [h, unobserved_call_of_isObserving s h]
    | false => simp [h, trace, call_unobserved s h]

/--
What was taken from a log since it was registered, followed by what is left in it, are the events of
the compilations since then, one for each: the connections at the time and the ones that were
skipped. Without observers the other calls get the same answers, with the same connections and the
same engines all along.
-/
theorem trace_observed (s : Session β) :
    (∀ before after,
        let log := (s.run before).nextLog
        let calls := before ++ .log :: after
        let events := ((s.run (before ++ [.log])).trace after).flatMap event
        (s.trace calls).flatMap (·.2.taken? log) ++ (s.run calls).content log = events
          ∧ events.length = after.countP Call.isCompile)
      ∧ ∀ calls,
        let others := calls.filter (!·.isObserving)
        (s.trace calls).filterMap shown? = s.unobserved.trace others
          ∧ (s.run calls).unobserved = s.unobserved.run others := by
  refine ⟨?_, ?_⟩
  . intro before after log calls events
    let start := s.run (before ++ [.log])
    have hstart : start = ((s.run before).call .log).2 := run_append s before [.log]
    have hlog : log < start.nextLog := by
      rw [hstart]
      simp [log, nextLog, call, Patch.observedBy, Observers.addLog]
    have hempty : start.content log = [] := by
      rw [hstart]
      exact (Observers.content_addLog _).trans (Observers.content_of_length_le _ (Nat.le_refl _))
    -- No log has the number before this one is registered, so nothing was taken under it.
    have hbefore : (s.trace (before ++ [.log])).flatMap (·.2.taken? log) = [] := by
      rw [trace_append, List.flatMap_append, taken?_trace s before (Nat.le_refl _)]
      rfl
    have hcalls : calls = before ++ [.log] ++ after := by simp [calls]
    have htrace : s.trace calls = s.trace (before ++ [.log]) ++ start.trace after := by
      rw [hcalls, trace_append]
    have hrun : s.run calls = start.run after := by
      rw [hcalls, run_append]
    refine ⟨?_, length_event_trace start after⟩
    rw [htrace, hrun, List.flatMap_append, hbefore, List.nil_append, content_run start after hlog,
      hempty, List.nil_append]
  . intro calls others
    exact ⟨trace_unobserved s calls, run_unobserved s calls⟩

end Observation

end Session
end ModularSynth
