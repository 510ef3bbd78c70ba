import FaultTolerance.Stack.World

/-!
What a caller does to an instance by hand, without sending a call through it: ask for admission,
report how a call went, or change the instance. An action that an instance does not know leaves it
as it is.
-/

namespace FaultTolerance.Stack

inductive Action (ε ν : Type) where
  | tryAcquire
  /-- Asks a limiter for permissions, and would wait for them. -/
  | request (permits : Nat)
  /-- Books permissions of a limiter without waiting. -/
  | reserve (permits : Nat)
  /-- Gives an admission back without an outcome. -/
  | release
  /-- Gives the permit of a finished call back. -/
  | complete
  | success (elapsed : Duration)
  | failure (elapsed : Duration) (e : ε)
  | result (elapsed : Duration) (v : ν)
  /-- Reports the outcome of an attempt to a retry, with the number of attempts so far. -/
  | attempt (attempts : Nat) (outcome : Except ε ν)
  | force (state : Breaker.State)
  | reset
  | drain
  | changeLimit (limit : Nat)
  | changeTimeout (timeout : Duration)
  | configure (config : Bulkhead.Config)

inductive Reply where
  | done
  | granted
  | refused (e : Error)
  | reserved (wait : Option Duration)
  | decided (d : Retry.Decision)
  /-- A change that cannot be made. -/
  | invalid (e : Error)
  /-- The action breaks off, because a counter would leave its range. -/
  | broken
  deriving DecidableEq, Repr

def Reply.isGranted : Reply → Bool
  | granted => true
  | _ => false

namespace Layer

variable {ε ν : Type} [Fault ε]

/-- An answer to a request for admission. -/
def answered (admitted : Bool) (refusal : Error) : Reply :=
  if admitted then .granted else .refused refusal

def actBreaker (now : Nat) (b : Breaker ε ν) :
    Action ε ν → Breaker ε ν × List Breaker.Event × Reply
  | .tryAcquire =>
    let (b, events, admitted) := b.tryAcquire now
    (b, events, answered admitted b.refusal)
  | .release => (b.release, [], .done)
  | .success elapsed =>
    let (b, events) := b.onSuccess now elapsed
    (b, events, .done)
  | .failure elapsed e =>
    let (b, events) := b.onError now elapsed e
    (b, events, .done)
  | .result elapsed v =>
    let (b, events) := b.onResult now elapsed v
    (b, events, .done)
  | .force state =>
    let (b, events) := b.force now state
    (b, events, .done)
  | .reset =>
    let (b, events) := b.reset now
    (b, events, .done)
  | _ => (b, [], .done)

/-- The limiter after a change, if it can be made. -/
def changed (l : Limiter) : Except Error Limiter → Limiter × List Limiter.Event × Reply
  | .ok l => (l, [], .done)
  | .error e => (l, [], .invalid e)

def actLimiter (now : Nat) (l : Limiter) : Action ε ν → Limiter × List Limiter.Event × Reply
  | .tryAcquire =>
    let (l, events, decision) := l.request now 1
    (l, events, answered decision.isGranted l.refusal)
  | .request permits =>
    let (l, events, decision) := l.request now permits
    (l, events, answered decision.isGranted l.refusal)
  | .reserve permits =>
    let (l, events, wait) := l.reserve now permits
    (l, events, .reserved wait)
  | .drain =>
    let (l, events) := l.drain now
    (l, events, .done)
  | .changeLimit limit => changed l (l.changeLimit limit)
  | .changeTimeout timeout => changed l (l.changeTimeout timeout)
  | _ => (l, [], .done)

def actBulkhead (b : Bulkhead) : Action ε ν → Bulkhead × List Bulkhead.Event × Reply
  | .tryAcquire =>
    let (b, events, acquired) := b.tryAcquire
    (b, events, answered acquired b.refusal)
  | .release => (b.release, [], .done)
  | .complete =>
    let (b, events) := b.complete
    (b, events, .done)
  | .configure config =>
    match b.configure config with
    | .ok b => (b, [], .done)
    | .error (.invalid e) => (b, [], .invalid e)
    | .error .overflow => (b, [], .broken)
  | _ => (b, [], .done)

def actAdaptive (now : Nat) (a : Adaptive ε) :
    Action ε ν → Adaptive ε × List Adaptive.Notice × Reply
  | .tryAcquire =>
    let (a, notices, acquired) := a.tryAcquire
    (a, notices, answered acquired a.refusal)
  | .release => (a.release, [], .done)
  | .success elapsed =>
    let (a, notices, settled) := a.onSuccess now elapsed
    (a, notices, if settled then .done else .broken)
  | .failure elapsed e =>
    let (a, notices, settled) := a.onError now elapsed e
    (a, notices, if settled then .done else .broken)
  | _ => (a, [], .done)

def actRetry (r : Retry ε ν) : Action ε ν → Retry ε ν × List Retry.Event × Reply
  | .attempt attempts outcome =>
    let (r, events, decision) := r.onOutcome attempts outcome
    (r, events, .decided decision)
  | _ => (r, [], .done)

/-- Carries an action out on an instance. -/
def act (now : Nat) (action : Action ε ν) : Layer ε ν → Layer ε ν × List Report × Reply
  | breaker b =>
    let (b, events, reply) := actBreaker now b action
    (breaker b, events.map .breaker, reply)
  | limiter l =>
    let (l, events, reply) := actLimiter now l action
    (limiter l, events.map .limiter, reply)
  | bulkhead b =>
    let (b, events, reply) := actBulkhead b action
    (bulkhead b, events.map .bulkhead, reply)
  | adaptive a =>
    let (a, notices, reply) := actAdaptive now a action
    (adaptive a, notices.map .adaptive, reply)
  | retry r =>
    let (r, events, reply) := actRetry r action
    (retry r, events.map .retry, reply)

end Layer

/-- Carries an action out on the layer at a position. -/
def World.act {ε ν : Type} [Fault ε] (w : World ε ν) (i : Nat) (action : Action ε ν) :
    World ε ν × Reply :=
  match w.layers[i]? with
  | none => (w, .done)
  | some layer =>
    let (layer, reports, reply) := layer.act w.now action
    (w.put i layer reports, reply)

end FaultTolerance.Stack
