import FaultTolerance.Breaker.Basic
import FaultTolerance.Limiter.Basic
import FaultTolerance.Bulkhead
import FaultTolerance.Adaptive.Basic
import FaultTolerance.Retry
import FaultTolerance.Stack.Report

/-!
The five primitives as layers around a call.

A call enters a layer, which admits it, refuses it or lets it wait. While the call is inside, the
layer has a `Hold` on it. The call leaves with its outcome, and a retry may send it in again; a
call that panics or is dropped is abandoned, which gives the hold back and records nothing.
-/

namespace FaultTolerance.Stack

inductive Layer (ε ν : Type) where
  | breaker (b : Breaker ε ν)
  | limiter (l : Limiter)
  | bulkhead (b : Bulkhead)
  | adaptive (a : Adaptive ε)
  | retry (r : Retry ε ν)

/-- What a layer keeps for a call that is inside of it. -/
inductive Hold where
  | nothing
  /-- An admission of a breaker, which may be a probe, and when the call began. -/
  | admission (since : Nat)
  | permit
  /-- A permit of an adaptive bulkhead, and when the call began. -/
  | inFlight (since : Nat)
  /-- The attempts that a retry has seen. -/
  | attempts (count : Nat)
  deriving DecidableEq, Repr

/-- What a call outside of a layer waits for. -/
inductive Wait where
  | reservation (p : Limiter.Pending)
  | permit (w : Bulkhead.Waiter)
  /-- The wait between two attempts. -/
  | backoff (attempts due : Nat)
  deriving DecidableEq, Repr

/-- When the timer ends a wait, if it does. -/
def Wait.due [Timer] : Wait → Option Nat
  | .reservation p => some p.due
  | .permit w => w.deadline.map Timer.expiry
  | .backoff _ due => some due

inductive Entry where
  | admitted (h : Hold)
  | waiting (w : Wait)
  | refused (e : Error)
  deriving DecidableEq, Repr

inductive Exit where
  | done
  /-- Another attempt after a wait. -/
  | again (attempts : Nat) (wait : Duration)
  /-- The layer breaks off while it takes the outcome in, and the call ends there. -/
  | broken
  deriving DecidableEq, Repr

namespace Layer

variable {ε ν : Type}

section Timed
variable [Timer]

/-- A call whose thread waits for the answer of the layer, with the time that it sleeps. Nobody else
acts in the meantime. -/
def enterBlocking (now timer : Nat) :
    Layer ε ν → Layer ε ν × List Report × (Hold ⊕ Error) × Duration
  | breaker b =>
    let (b, events, admitted) := b.tryAcquire now
    (breaker b, events.map .breaker,
      if admitted then .inl (.admission now) else .inr b.refusal, .zero)
  | limiter l =>
    let (l, events, decision) := l.request now 1
    (limiter l, events.map .limiter,
      if decision.isGranted then .inl .nothing else .inr l.refusal, decision.wait)
  | bulkhead b =>
    let (b, events, acquired, slept) := b.acquire timer
    (bulkhead b, events.map .bulkhead, if acquired then .inl .permit else .inr b.refusal, slept)
  | adaptive a =>
    let (a, notices, acquired, slept) := a.acquire timer
    (adaptive a, notices.map .adaptive,
      if acquired then .inl (.inFlight now) else .inr a.refusal, slept)
  | retry r => (retry r, [], .inl (.attempts 0), .zero)

/-- The answer of a limiter as an entry. -/
def ofReservation (l : Limiter) : Bool ⊕ Limiter.Pending → Entry
  | .inl true => .admitted .nothing
  | .inl false => .refused l.refusal
  | .inr p => .waiting (.reservation p)

/-- The answer of a bulkhead as an entry. -/
def ofPermit (hold : Hold) (refusal : Error) : Bool ⊕ Bulkhead.Waiter → Entry
  | .inl true => .admitted hold
  | .inl false => .refused refusal
  | .inr w => .waiting (.permit w)

/-- A call comes to a layer. -/
def enter (now timer : Nat) : Layer ε ν → Layer ε ν × List Report × Entry
  | breaker b =>
    let (b, events, admitted) := b.tryAcquire now
    (breaker b, events.map .breaker,
      if admitted then .admitted (.admission now) else .refused b.refusal)
  | limiter l =>
    let (l, events, answer) := l.start now timer 1
    (limiter l, events.map .limiter, ofReservation l answer)
  | bulkhead b =>
    let (b, events, answer) := b.start timer
    (bulkhead b, events.map .bulkhead, ofPermit .permit b.refusal answer)
  | adaptive a =>
    let (a, notices, answer) := a.start timer
    (adaptive a, notices.map .adaptive, ofPermit (.inFlight now) a.refusal answer)
  | retry r => (retry r, [], .admitted (.attempts 0))

/-- A waiting call looks again. -/
def resume (now timer : Nat) (w : Wait) : Layer ε ν → Layer ε ν × List Report × Entry
  | limiter l =>
    match w with
    | .reservation p =>
      let (l, answer) := p.poll l timer
      (limiter l, [], ofReservation l answer)
    | w => (limiter l, [], .waiting w)
  | bulkhead b =>
    match w with
    | .permit w =>
      let (b, events, answer) := w.poll b timer
      (bulkhead b, events.map .bulkhead, ofPermit .permit b.refusal answer)
    | w => (bulkhead b, [], .waiting w)
  | adaptive a =>
    match w with
    | .permit w =>
      let (a, notices, answer) := a.poll timer w
      (adaptive a, notices.map .adaptive, ofPermit (.inFlight now) a.refusal answer)
    | w => (adaptive a, [], .waiting w)
  | retry r =>
    match w with
    | .backoff attempts due =>
      (retry r, [], if due ≤ timer then .admitted (.attempts attempts) else .waiting w)
    | w => (retry r, [], .waiting w)
  | breaker b => (breaker b, [], .waiting w)

end Timed

/-- A waiting call is dropped. -/
def cancel (w : Wait) : Layer ε ν → Layer ε ν
  | limiter l =>
    match w with
    | .reservation p => limiter (p.cancel l)
    | _ => limiter l
  | l => l

/-- The time since a reading. -/
def since (start now : Nat) : Duration := ⟨now - start⟩

/-- A call that was inside comes back with its outcome. -/
def leave [Fault ε] (now : Nat) (h : Hold) (outcome : Except ε ν) :
    Layer ε ν → Layer ε ν × List Report × Exit
  | breaker b =>
    match h with
    | .admission start =>
      let (b, events) := b.onOutcome now (since start now) outcome
      (breaker b, events.map .breaker, .done)
    | _ => (breaker b, [], .done)
  | limiter l => (limiter l, [], .done)
  | bulkhead b =>
    let (b, events) := b.complete
    (bulkhead b, events.map .bulkhead, .done)
  | adaptive a =>
    match h with
    | .inFlight start =>
      let (a, notices, settled) := a.onOutcome now (since start now) outcome
      (adaptive a, notices.map .adaptive, if settled then .done else .broken)
    | _ => (adaptive a, [], .done)
  | retry r =>
    match h with
    | .attempts count =>
      match r.onOutcome (count + 1) outcome with
      | (r, events, .retry wait) => (retry r, events.map .retry, .again (count + 1) wait)
      | (r, events, .stop) => (retry r, events.map .retry, .done)
    | _ => (retry r, [], .done)

/-- A call that was inside panics or is dropped. -/
def abandon (h : Hold) : Layer ε ν → Layer ε ν × List Report
  | breaker b =>
    match h with
    | .admission _ => (breaker b.release, [])
    | _ => (breaker b, [])
  | bulkhead b =>
    let (b, events) := b.complete
    (bulkhead b, events.map .bulkhead)
  | adaptive a => (adaptive a.release, [])
  | l => (l, [])

/-- How often a layer sends a call in again at most. -/
def patience : Layer ε ν → Nat
  | retry r => r.config.maxAttempts
  | _ => 0

/-- The error of a call that a layer does not let in. -/
def refusal : Layer ε ν → Error
  | breaker b => b.refusal
  | limiter l => l.refusal
  | bulkhead b => b.refusal
  | adaptive a => a.refusal
  | retry r => .requestNotPermitted r.name

/-- Lets go of what is no longer recent. -/
def refresh (now : Nat) : Layer ε ν → Layer ε ν
  | breaker b => breaker (b.refresh now)
  | adaptive a => adaptive (a.refresh now)
  | l => l

def name : Layer ε ν → String
  | breaker b => b.name
  | limiter l => l.name
  | bulkhead b => b.name
  | adaptive a => a.name
  | retry r => r.name

def describe : Layer ε ν → String
  | breaker b => b.describe
  | limiter l => l.describe
  | bulkhead b => b.describe
  | adaptive a => a.describe
  | retry r => r.describe

def describeConfig : Layer ε ν → String
  | breaker b => b.config.describe
  | limiter l => l.config.describe
  | bulkhead b => b.config.describe
  | adaptive a => a.config.describe
  | retry r => r.config.describe

end Layer

end FaultTolerance.Stack
