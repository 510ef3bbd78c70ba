import FaultTolerance.Proofs.Bulkhead.Resizing
import FaultTolerance.Stack.Layer

/-! An adaptive bulkhead together with its callers.

Time passes before each step of a run, so the readings of a run never decrease. Beside the adaptive
bulkhead stand its callers, as they stand beside any bulkhead, everything that it has reported, and
the readings at which its limit was evaluated. A call that ends gives its permit back before it is
recorded (`Ending.apply_eq`), and others may come between the two. `Effect` lists what a step can
do, and a property that survives its five cases survives every run. -/
namespace FaultTolerance.Adaptive
open Bulkhead (Caller inFlight)
variable {ε ν : Type}

/-! ### Calls -/

/-- How a call that holds a permit ends. -/
inductive Ending (ε : Type) where
  | success (elapsed : Duration)
  | error (elapsed : Duration) (e : ε)
  /-- It never ran, was dropped or panicked. -/
  | cancelled

/-- Whether the record of a call evaluates the limit. -/
def evaluates (a : Adaptive ε) (now : Nat) (elapsed : Duration) (failed : Bool) : Bool :=
  (a.observed now elapsed failed).isDue now &&
    (a.observed now elapsed failed).window.view.isMeaningful

namespace Ending

def apply [Fault ε] (a : Adaptive ε) (now : Nat) : Ending ε → Adaptive ε × List Notice × Bool
  | success elapsed => a.onSuccess now elapsed
  | error elapsed e => a.onError now elapsed e
  | cancelled => (a.release, [], true)

/-- What is recorded of an ending, how long the call took and whether it failed. An ignored error
and a cancelled call count as nothing. -/
def outcome? (c : Config ε) : Ending ε → Option (Duration × Bool)
  | success elapsed => some (elapsed, false)
  | error elapsed e => if c.isIgnored e then none else some (elapsed, c.isRecordedFailure e)
  | cancelled => none

/-- What is reported of an ending. -/
def event? [Fault ε] (c : Config ε) : Ending ε → Option Event
  | success elapsed => some (.success elapsed)
  | error elapsed e =>
    if c.isIgnored e then some (.ignoredError elapsed (Fault.text e))
    else if c.isRecordedFailure e then some (.error elapsed (Fault.text e))
    else some (.success elapsed)
  | cancelled => none

/-- The first half of an ending: the permit goes back. -/
def giveBack (a : Adaptive ε) : Ending ε → Adaptive ε × List Notice
  | success _ | error _ _ => a.complete
  | cancelled => (a.release, [])

/-- The second half: the call is reported, and recorded if it counts. -/
def report [Fault ε] (a : Adaptive ε) (now : Nat) (ending : Ending ε) :
    Adaptive ε × List Notice × Bool :=
  let reported := (ending.event? a.config).toList.map .own
  match ending.outcome? a.config with
  | none => (a, reported, true)
  | some (elapsed, failed) =>
    let (a, adjusted, settled) := a.record now elapsed failed
    (a, reported ++ adjusted, settled)

/-- Whether an ending evaluates the limit once the permit is back. -/
def evaluates (a : Adaptive ε) (now : Nat) (ending : Ending ε) : Bool :=
  (ending.outcome? a.config).any fun (elapsed, failed) => a.evaluates now elapsed failed

def ofOutcome (elapsed : Duration) : Except ε ν → Ending ε
  | .ok _ => success elapsed
  | .error e => error elapsed e

end Ending

inductive Step (ε : Type) where
  /-- Somebody comes for a permit and does not wait. -/
  | ask
  /-- Somebody comes for a permit and may wait on the timer. -/
  | come (timer : Nat)
  /-- A waiter looks again. -/
  | poll (caller timer : Nat)
  /-- A waiter is dropped. -/
  | abandon (caller : Nat)
  | finish (caller : Nat) (ending : Ending ε)
  /-- The permit of a call goes back, and others come before it is recorded. -/
  | giveBack (caller : Nat) (ending : Ending ε)
  /-- A call is recorded whose permit went back before. -/
  | report (ending : Ending ε)
  /-- Reads the metrics. -/
  | look

/-- What a step records. -/
def Step.outcome? (c : Config ε) : Step ε → Option (Duration × Bool)
  | finish _ ending | report ending => ending.outcome? c
  | ask | come _ | poll _ _ | abandon _ | giveBack _ _ | look => none

structure Input (ε : Type) where
  /-- The ticks that the clock moves on before the step. -/
  passed : Nat := 0
  step : Step ε

structure Ledger (ε : Type) where
  adaptive : Adaptive ε
  /-- The reading of the clock. -/
  now : Nat
  callers : List Caller := []
  /-- What was reported, the earliest first. -/
  notices : List Notice := []
  /-- When the limit was evaluated, the earliest first. -/
  evaluations : List Nat := []

namespace Ledger

/-- The evaluations after one more, if there was one. -/
def evaluationsAfter (s : Ledger ε) (evaluated : Bool) : List Nat :=
  if evaluated then s.evaluations ++ [s.now] else s.evaluations

def act [Timer] [Fault ε] (s : Ledger ε) : Step ε → Ledger ε
  | .ask =>
    let (a, notices, admitted) := s.adaptive.tryAcquire
    { s with
      adaptive := a
      callers := s.callers ++ [.answered (.inl admitted)]
      notices := s.notices ++ notices }
  | .come timer =>
    let (a, notices, answer) := s.adaptive.start timer
    { s with
      adaptive := a
      callers := s.callers ++ [.answered answer]
      notices := s.notices ++ notices }
  | .poll caller timer =>
    match s.callers[caller]? with
    | some (.waiting w) =>
      let (a, notices, answer) := s.adaptive.poll timer w
      { s with
        adaptive := a
        callers := s.callers.set caller (.answered answer)
        notices := s.notices ++ notices }
    | _ => s
  | .abandon caller =>
    match s.callers[caller]? with
    | some (.waiting _) => { s with callers := s.callers.set caller .gone }
    | _ => s
  | .finish caller ending =>
    match s.callers[caller]? with
    | some .running =>
      let (a, notices, _) := ending.apply s.adaptive s.now
      { s with
        adaptive := a
        callers := s.callers.set caller .gone
        notices := s.notices ++ notices
        evaluations := s.evaluationsAfter (ending.evaluates s.adaptive.release s.now) }
    | _ => s
  | .giveBack caller ending =>
    match s.callers[caller]? with
    | some .running =>
      let (a, notices) := ending.giveBack s.adaptive
      { s with
        adaptive := a
        callers := s.callers.set caller .gone
        notices := s.notices ++ notices }
    | _ => s
  | .report ending =>
    let (a, notices, _) := ending.report s.adaptive s.now
    { s with
      adaptive := a
      notices := s.notices ++ notices
      evaluations := s.evaluationsAfter (ending.evaluates s.adaptive s.now) }
  | .look => { s with adaptive := s.adaptive.refresh s.now }

def next [Timer] [Fault ε] (s : Ledger ε) (i : Input ε) : Ledger ε :=
  { s with now := s.now + i.passed }.act i.step

end Ledger

/-! ### Reported limits -/

/-- The limits before and after a reported change. -/
def Notice.change? : Notice → Option (Nat × Nat)
  | .own (.limitChanged before after) => some (before, after)
  | _ => none

def changesOf (notices : List Notice) : List (Nat × Nat) := notices.filterMap Notice.change?

theorem changesOf_append (before after : List Notice) :
    changesOf (before ++ after) = changesOf before ++ changesOf after := List.filterMap_append

theorem changesOf_permits (events : List Bulkhead.Event) :
    changesOf (events.map .permits) = [] := by
  simp [changesOf, Notice.change?]

/-! ### The two halves of an ending -/

section Endings
variable (a : Adaptive ε) (now : Nat) {elapsed : Duration} {failed : Bool}

/-- A call is observed, and evaluates the limit if it is time. -/
theorem record_of_evaluates (h : a.evaluates now elapsed failed = true) :
    a.record now elapsed failed =
      (a.observed now elapsed failed).evaluate now (a.observed now elapsed failed).window.view
        (smooth a.latency elapsed a.config.latencySmoothing) := if_pos h

theorem record_of_not_evaluates (h : a.evaluates now elapsed failed = false) :
    a.record now elapsed failed = (a.observed now elapsed failed, [], true) :=
  if_neg (Bool.not_eq_true _ ▸ h)

namespace Ending
variable (ending : Ending ε)

theorem giveBack_fst : (ending.giveBack a).1 = a.release := by
  cases ending <;> rfl

theorem giveBack_changes : changesOf (ending.giveBack a).2 = [] := by
  cases ending with
  | success _ | error _ _ => exact changesOf_permits _
  | cancelled => rfl

variable [Fault ε]

theorem event?_changes (c : Config ε) : changesOf ((ending.event? c).toList.map .own) = [] := by
  cases ending with
  | success _ | cancelled => rfl
  | error elapsed e =>
    unfold event?
    dsimp only
    (repeat' split) <;> rfl

theorem report_of_none {ending : Ending ε} (h : ending.outcome? a.config = none) :
    ending.report a now = (a, (ending.event? a.config).toList.map .own, true) := by
  unfold report
  rw [h]

theorem report_of_some {ending : Ending ε} (h : ending.outcome? a.config = some (elapsed, failed)) :
    ending.report a now =
      ((a.record now elapsed failed).1,
        (ending.event? a.config).toList.map .own ++ (a.record now elapsed failed).2.1,
        (a.record now elapsed failed).2.2) := by
  unfold report
  rw [h]

/-- **A call that ends gives its permit back before it is recorded.** -/
theorem apply_eq :
    ending.apply a now =
      ((ending.report a.release now).1,
        (ending.giveBack a).2 ++ (ending.report a.release now).2.1,
        (ending.report a.release now).2.2) := by
  cases ending with
  | success elapsed => rfl
  | cancelled => rfl
  | error elapsed e =>
    have hconfig : a.release.config = a.config := rfl
    show a.onError now elapsed e = _
    unfold onError report outcome? event?
    rw [hconfig]
    dsimp only
    cases a.config.isIgnored e with
    | true => rfl
    | false => cases a.config.isRecordedFailure e <;> rfl

end Ending

end Endings

/-! ### What a step does -/

/-- What a step does to the adaptive bulkhead and to the number of callers that run, which changes
of the limit it reports, and whether it evaluates the limit. -/
inductive Effect (a : Adaptive ε) (now running : Nat) (i : Step ε) :
    Adaptive ε → List (Nat × Nat) → Bool → Nat → Prop
  | idle : Effect a now running i a [] false running
  /-- Permits are taken or given back. -/
  | permits {m : Bulkhead} {left : Nat} (h : Bulkhead.Effect .ask a.bulkhead running m left)
    (hconfig : m.config = a.bulkhead.config) :
    Effect a now running i { a with bulkhead := m } [] false left
  | looked (hlook : i = .look) : Effect a now running i (a.refresh now) [] false running
  /-- A call is recorded, once its permit is back. -/
  | recorded {m : Bulkhead} {left : Nat} {elapsed : Duration} {failed : Bool}
    (h : Bulkhead.Effect .ask a.bulkhead running m left) (hconfig : m.config = a.bulkhead.config)
    (houtcome : i.outcome? a.config = some (elapsed, failed)) :
    Effect a now running i (observed { a with bulkhead := m } now elapsed failed) [] false left
  | evaluated {m : Bulkhead} {left : Nat} {elapsed : Duration} {failed : Bool}
    (h : Bulkhead.Effect .ask a.bulkhead running m left) (hconfig : m.config = a.bulkhead.config)
    (houtcome : i.outcome? a.config = some (elapsed, failed))
    (hevaluates : evaluates { a with bulkhead := m } now elapsed failed = true) :
    Effect a now running i (record { a with bulkhead := m } now elapsed failed).1
      (changesOf (record { a with bulkhead := m } now elapsed failed).2.1) true left

section Effects
variable {a : Adaptive ε} {m : Bulkhead} {running left : Nat} {i : Step ε}

/-- Somebody is answered, and nothing else happens. -/
theorem Effect.answered {answer : Bool ⊕ Bulkhead.Waiter}
    (h : Bulkhead.Answered a.bulkhead m answer) (now running : Nat) (i : Step ε) :
    Effect a now running i { a with bulkhead := m } [] false
      (running + (decide (Caller.answered answer = .running)).toNat) :=
  .permits (h.effect running) h.config_eq

theorem Ending.report_effect [Fault ε] {ending : Ending ε}
    (h : Bulkhead.Effect .ask a.bulkhead running m left) (hconfig : m.config = a.bulkhead.config)
    (hi : i.outcome? a.config = ending.outcome? a.config) (now : Nat) :
    Effect a now running i (ending.report { a with bulkhead := m } now).1
      (changesOf (ending.report { a with bulkhead := m } now).2.1)
      (ending.evaluates { a with bulkhead := m } now) left := by
  unfold evaluates
  cases houtcome : ending.outcome? a.config with
  | none =>
    rw [report_of_none { a with bulkhead := m } now houtcome, event?_changes]
    exact .permits h hconfig
  | some outcome =>
    obtain ⟨elapsed, failed⟩ := outcome
    rw [report_of_some { a with bulkhead := m } now houtcome, changesOf_append, event?_changes,
      List.nil_append]
    dsimp only [Option.any_some]
    cases hevaluates : Adaptive.evaluates { a with bulkhead := m } now elapsed failed with
    | true => exact .evaluated h hconfig (hi.trans houtcome) hevaluates
    | false =>
      rw [record_of_not_evaluates _ _ hevaluates]
      exact .recorded h hconfig (hi.trans houtcome)

end Effects

/-! ### What is written down -/

/-- A step has been carried out and written down. -/
structure Told (s t : Ledger ε) (i : Step ε) : Prop where
  now_eq : t.now = s.now
  effect : ∃ changes evaluated,
    Effect s.adaptive s.now (inFlight s.callers) i t.adaptive changes evaluated
      (inFlight t.callers) ∧
    changesOf t.notices = changesOf s.notices ++ changes ∧
    t.evaluations = s.evaluationsAfter evaluated

section Steps
variable {s : Ledger ε} {m : Bulkhead} {answer : Bool ⊕ Bulkhead.Waiter}

theorem Told.idle (s : Ledger ε) (i : Step ε) : Told s s i where
  now_eq := rfl
  effect := ⟨[], false, .idle, (List.append_nil _).symm, rfl⟩

/-- Somebody has been answered, and the reports of that were written down. -/
theorem Told.answered (h : Bulkhead.Answered s.adaptive.bulkhead m answer) {callers : List Caller}
    (hcallers : inFlight callers =
      inFlight s.callers + (decide (Caller.answered answer = .running)).toNat)
    (events : List Bulkhead.Event) (i : Step ε) :
    Told s
      { s with
        adaptive := { s.adaptive with bulkhead := m }
        callers := callers
        notices := s.notices ++ events.map .permits } i where
  now_eq := rfl
  effect := by
    refine ⟨[], false, ?_, ?_, rfl⟩
    · dsimp only
      rw [hcallers]
      exact .answered h ..
    · dsimp only
      rw [changesOf_append, changesOf_permits]

/-- The permit of a caller that runs goes back. -/
theorem returned {caller : Nat} (hold : s.callers[caller]? = some .running) :
    Bulkhead.Effect .ask s.adaptive.bulkhead (inFlight s.callers) s.adaptive.bulkhead.release
      (inFlight (s.callers.set caller .gone)) := by
  have hcount := Bulkhead.inFlight_change hold .gone
  simp only [reduceCtorEq, decide_false, Bool.toNat_false, Nat.add_zero, decide_true,
    Bool.toNat_true] at hcount
  rw [← hcount]
  exact .returned _

theorem Ledger.act_told [Timer] [Fault ε] (s : Ledger ε) (i : Step ε) : Told s (s.act i) i := by
  have hrelease := Bulkhead.release_config s.adaptive.bulkhead
  cases i with
  | ask =>
    exact .answered s.adaptive.bulkhead.tryAcquire_answered (Bulkhead.inFlight_enter _)
      s.adaptive.bulkhead.tryAcquire.2.1 .ask
  | come timer =>
    exact .answered (Bulkhead.Waiter.poll_answered ⟨s.adaptive.bulkhead.deadlineAt timer⟩ _ timer)
      (Bulkhead.inFlight_enter _) (s.adaptive.bulkhead.start timer).2.1 (.come timer)
  | poll caller timer =>
    unfold act
    dsimp only
    split
    case h_1 w hold =>
      exact .answered (w.poll_answered _ timer) (Bulkhead.inFlight_change hold _)
        (w.poll s.adaptive.bulkhead timer).2.1 _
    case h_2 => exact .idle s _
  | abandon caller =>
    unfold act
    dsimp only
    split
    case h_1 w hold =>
      have hcount := Bulkhead.inFlight_change hold .gone
      simp only [reduceCtorEq, decide_false, Bool.toNat_false, Nat.add_zero] at hcount
      refine ⟨rfl, [], false, ?_, (List.append_nil _).symm, rfl⟩
      dsimp only
      rw [hcount]
      exact .idle
    case h_2 => exact .idle s _
  | finish caller ending =>
    unfold act
    dsimp only
    split
    case h_1 hold =>
      refine ⟨rfl, changesOf (ending.report s.adaptive.release s.now).2.1, _, ?_, ?_, rfl⟩
      · dsimp only
        rw [ending.apply_eq]
        exact Ending.report_effect (returned hold) hrelease rfl _
      · rw [changesOf_append, ending.apply_eq, changesOf_append, ending.giveBack_changes,
          List.nil_append]
    case h_2 => exact .idle s _
  | giveBack caller ending =>
    unfold act
    dsimp only
    split
    case h_1 hold =>
      refine ⟨rfl, [], false, ?_, ?_, rfl⟩
      · dsimp only
        rw [ending.giveBack_fst]
        exact .permits (returned hold) hrelease
      · rw [changesOf_append, ending.giveBack_changes]
    case h_2 => exact .idle s _
  | report ending =>
    exact ⟨rfl, _, _, Ending.report_effect (.idle _) rfl rfl _, changesOf_append .., rfl⟩
  | look => exact ⟨rfl, [], false, .looked rfl, (List.append_nil _).symm, rfl⟩

end Steps

/-! ### Calls through a layer -/

/-- A call through an adaptive bulkhead ends with its outcome and the time since it was let in, or
is cancelled; a waiter that is dropped takes nothing along. -/
theorem layer_ends [Fault ε] (a : Adaptive ε) (now since : Nat) (hold : Stack.Hold)
    (wait : Stack.Wait) :
    (∀ outcome : Except ε ν, (Stack.Layer.leave now (.inFlight since) outcome (.adaptive a)).1 =
      .adaptive ((Ending.ofOutcome (Stack.Layer.since since now) outcome).apply a now).1) ∧
    (Stack.Layer.abandon hold (.adaptive a : Stack.Layer ε ν)).1 =
      .adaptive (Ending.cancelled.apply a now).1 ∧
    Stack.Layer.cancel wait (.adaptive a : Stack.Layer ε ν) = .adaptive a := by
  refine ⟨fun outcome => ?_, rfl, rfl⟩
  cases outcome <;> rfl

end FaultTolerance.Adaptive
