import FaultTolerance.Proofs.Limiter.Cycles
import FaultTolerance.Proofs.Run

/-! A limiter with the callers that wait on it and a ledger of what it has granted.

An `Input` lets time pass and then carries out one step, so the readings of a run never decrease.
Every granted request is written down with the reading at which it was granted and the wait that it
was told; a caller that is dropped while it waits has its grant struck out. `act_preserves` is the
rule by which a property of the limiter and its grants is shown to survive any step: only a request,
a refund, a drain and a change of the configuration have to be looked at. -/
namespace FaultTolerance.Limiter

/-- A granted request. Readings count from the start of cycle zero. -/
structure Grant where
  permits : Nat
  grantedAt : Nat
  wait : Nat
  /-- The suspended caller that may still give it back. -/
  caller : Option Nat := none
  deriving DecidableEq, Repr

/-- When the permissions are used. -/
def Grant.use (g : Grant) : Nat := g.grantedAt + g.wait

def Grant.cycle (g : Grant) (period : Nat) : Nat := g.use / period

/-- The permissions of all grants. -/
def booked (grants : List Grant) : Nat := grants.foldr (fun g total => g.permits + total) 0

/-- The permissions of the grants that are used in cycles up to `c`. -/
def bookedThrough (period : Nat) (grants : List Grant) (c : Nat) : Nat :=
  booked (grants.filter (·.cycle period ≤ c))

/-- The number of grants that are used in the cycle `c`. -/
def usesIn (period : Nat) (grants : List Grant) (c : Nat) : Nat :=
  grants.countP (·.cycle period = c)

/-- The wait that a granted request is told. -/
def Decision.wait? : Decision → Option Nat
  | .ready => some 0
  | .later wait => some wait.nanos
  | .refused _ => none

inductive Step where
  /-- Books without waiting. -/
  | reserve (permits : Nat)
  /-- Asks and sleeps on the spot. -/
  | request (permits : Nat)
  /-- Asks on behalf of a new suspended caller; callers are numbered in order. -/
  | start (permits : Nat)
  | poll (caller : Nat)
  | drop (caller : Nat)
  | drain
  | changeLimit (limit : Nat)
  | changeTimeout (timeout : Duration)
  /-- Reads the metrics. -/
  | look
  deriving DecidableEq, Repr

/-- The permissions that a step asks for. -/
def Step.permits? : Step → Option Nat
  | reserve permits | request permits | start permits => some permits
  | _ => none

structure Input where
  /-- The ticks that the clock moves on before the step. -/
  passed : Nat := 0
  /-- The nanoseconds that the timer moves on before the step. -/
  ticked : Nat := 0
  step : Step
  deriving DecidableEq, Repr

structure Ledger where
  limiter : Limiter
  now : Nat
  timer : Nat := 0
  grants : List Grant := []
  waiting : List (Nat × Pending) := []
  /-- The number of suspended callers so far. -/
  started : Nat := 0
  deriving DecidableEq, Repr

namespace Ledger

/-- Takes over a limiter that has answered a request, and writes the grant down if it is one. -/
def enter (s : Ledger) (l : Limiter) (permits : Nat) (caller : Option Nat) (wait : Option Nat) :
    Ledger :=
  { s with
    limiter := l
    grants := match wait with
      | some wait => ⟨permits, s.limiter.age s.now, wait, caller⟩ :: s.grants
      | none => s.grants }

/-- The limiter after a change of its configuration, or as it is when the change is invalid. -/
def changed (l : Limiter) (result : Except Error Limiter) : Limiter := result.toOption.getD l

def act [Timer] (s : Ledger) : Step → Ledger
  | .reserve permits =>
    let (l, _, wait) := s.limiter.reserve s.now permits
    s.enter l permits none (wait.map (·.nanos))
  | .request permits =>
    let (l, _, decision) := s.limiter.request s.now permits
    s.enter l permits none decision.wait?
  | .start permits =>
    let wait := (s.limiter.request s.now permits).2.2.wait?
    let (l, _, answer) := s.limiter.start s.now s.timer permits
    { s.enter l permits (some s.started) wait with
      started := s.started + 1
      waiting := match answer with
        | .inl _ => s.waiting
        | .inr p => (s.started, p) :: s.waiting }
  | .poll caller =>
    match s.waiting.lookup caller with
    | none => s
    | some p =>
      match p.poll s.limiter s.timer with
      | (l, .inl _) =>
        { s with limiter := l, waiting := s.waiting.filter (·.1 ≠ caller) }
      | (l, .inr _) => { s with limiter := l }
  | .drop caller =>
    match s.waiting.lookup caller with
    | none => s
    | some p =>
      { s with
        limiter := p.cancel s.limiter
        grants := s.grants.filter (·.caller ≠ some caller)
        waiting := s.waiting.filter (·.1 ≠ caller) }
  | .drain => { s with limiter := (s.limiter.drain s.now).1 }
  | .changeLimit limit => { s with limiter := changed s.limiter (s.limiter.changeLimit limit) }
  | .changeTimeout timeout =>
    { s with limiter := changed s.limiter (s.limiter.changeTimeout timeout) }
  | .look => s

/-- Lets the clock and the timer move on. -/
def pass (s : Ledger) (i : Input) : Ledger :=
  { s with now := s.now + i.passed, timer := s.timer + i.ticked }

def next [Timer] (s : Ledger) (i : Input) : Ledger := (s.pass i).act i.step

def run [Timer] (s : Ledger) (inputs : List Input) : Ledger := inputs.foldl next s

theorem act_now [Timer] (s : Ledger) (step : Step) : (s.act step).now = s.now := by
  cases step <;> simp only [act] <;> (try split) <;> (try split) <;> rfl

end Ledger

/-! ### What a request does -/

variable (l : Limiter) (now : Nat)

/-- The wait that a request would be told now. -/
def quote (permits : Nat) : Nat := (l.rollOver now).waitFor now permits

theorem request_fst (permits : Nat) :
    (l.request now permits).1 = l.next now permits l.config.timeout.ticks := by
  unfold request
  dsimp only
  split
  · rfl
  · split <;> rfl

/-- A request is granted if its wait fits the timeout. -/
theorem request_wait? (permits : Nat) :
    (l.request now permits).2.2.wait? =
      if l.quote now permits ≤ l.config.timeout.ticks then some (l.quote now permits)
      else none := by
  have hwait : (l.next now permits l.config.timeout.ticks).wait = l.quote now permits := rfl
  unfold request
  dsimp only
  rw [hwait]
  by_cases hzero : l.quote now permits = 0
  · rw [if_pos hzero, if_pos (by omega), hzero]
    rfl
  · rw [if_neg hzero]
    split <;> rfl

theorem reserve_fst (permits : Nat) :
    (l.reserve now permits).1 = (l.request now permits).1 := by
  unfold reserve
  split <;> next h => rw [h]

/-- A reservation answers the wait of the request that it makes. -/
theorem reserve_wait (permits : Nat) :
    (l.reserve now permits).2.2.map (·.nanos) = (l.request now permits).2.2.wait? := by
  unfold reserve
  split <;> next h => rw [h]; rfl

/-- A caller that may sleep gets the answer of the request, at once or when it has slept. -/
theorem start_request [Timer] (timer permits : Nat) :
    ((l.request now permits).2.2.wait = .zero ∧
      l.start now timer permits = ((l.request now permits).1, (l.request now permits).2.1,
        .inl (l.request now permits).2.2.isGranted)) ∨
      ∃ due, l.start now timer permits =
        ({ (l.request now permits).1 with waiting := (l.request now permits).1.waiting + 1 },
          (l.request now permits).2.1,
          .inr ⟨permits, (l.request now permits).2.2.isGranted, due⟩) := by
  rcases hrequest : l.request now permits with ⟨m, events, _ | wait | timeout⟩ <;>
    simp only [start, hrequest]
  · exact .inl ⟨rfl, rfl⟩
  · by_cases hnone : wait.nanos = 0
    · exact .inl ⟨congrArg Duration.mk hnone, by rw [if_pos hnone]; rfl⟩
    · exact .inr ⟨_, by rw [if_neg hnone]; rfl⟩
  · by_cases hnone : timeout.nanos = 0
    · exact .inl ⟨congrArg Duration.mk hnone, by rw [if_pos hnone]; rfl⟩
    · exact .inr ⟨_, by rw [if_neg hnone]; rfl⟩

/-- Two limiters with the same count of the same cycle, whoever waits on them. -/
structure SameBooks (l m : Limiter) : Prop where
  origin : m.origin = l.origin
  config : m.config = l.config
  cycle : m.cycle = l.cycle
  permissions : m.permissions = l.permissions

theorem SameBooks.refl (l : Limiter) : SameBooks l l := ⟨rfl, rfl, rfl, rfl⟩

theorem start_sameBooks [Timer] (timer permits : Nat) :
    SameBooks (l.request now permits).1 (l.start now timer permits).1 := by
  rcases l.start_request now timer permits with ⟨-, hstart⟩ | ⟨_, hstart⟩
  · rw [hstart]
    exact .refl _
  · rw [hstart]
    exact ⟨rfl, rfl, rfl, rfl⟩

theorem Pending.poll_sameBooks (p : Pending) (timer : Nat) : SameBooks l (p.poll l timer).1 := by
  unfold Pending.poll
  split <;> exact ⟨rfl, rfl, rfl, rfl⟩

theorem Pending.cancel_sameBooks (p : Pending) :
    SameBooks (if p.granted then l.refund p.permits else l) (p.cancel l) := by
  unfold Pending.cancel
  cases p.granted <;> exact ⟨rfl, rfl, rfl, rfl⟩

theorem Config.limit_pos {c : Config} (h : c.validate = .ok ()) : 0 < c.limitForPeriod := by
  obtain ⟨hlimit, _⟩ := ok_of_bind h
  exact Nat.pos_of_ne_zero (bne_iff_ne.mp (of_require hlimit))

/-- A change of the configuration leaves the count alone, and does nothing if it is invalid. -/
theorem changed_configure (c : Config) :
    Ledger.changed l (l.configure c) = l ∨
      c.validate = .ok () ∧ Ledger.changed l (l.configure c) = { l with config := c } := by
  unfold Ledger.changed configure
  cases h : c.validate with
  | error e => exact .inl rfl
  | ok _ => exact .inr ⟨rfl, rfl⟩

namespace Ledger

/-- **What has to be looked at to see that a step keeps a property of the limiter and its
grants.** -/
theorem act_preserves [Timer] {P : Limiter → List Grant → Prop} (s : Ledger) (step : Step)
    (same : ∀ {l m : Limiter} {grants : List Grant}, SameBooks l m → P l grants → P m grants)
    (asked : ∀ permits caller, step.permits? = some permits →
      P (s.limiter.next s.now permits s.limiter.config.timeout.ticks)
        (s.enter s.limiter permits caller
          (if s.limiter.quote s.now permits ≤ s.limiter.config.timeout.ticks then
            some (s.limiter.quote s.now permits) else none)).grants)
    (dropped : ∀ caller p, step = .drop caller → s.waiting.lookup caller = some p →
      P (if p.granted then s.limiter.refund p.permits else s.limiter)
        (s.grants.filter (·.caller ≠ some caller)))
    (drained : step = .drain → P (s.limiter.drain s.now).1 s.grants)
    (relimited : ∀ n, step = .changeLimit n → 0 < n →
      P { s.limiter with config := { s.limiter.config with limitForPeriod := n } } s.grants)
    (retimed : ∀ d, step = .changeTimeout d →
      P { s.limiter with config := { s.limiter.config with timeout := d } } s.grants)
    (h : P s.limiter s.grants) : P (s.act step).limiter (s.act step).grants := by
  cases step with
  | reserve permits =>
    have hasked := asked permits none rfl
    rw [← request_fst, ← request_wait?, ← reserve_fst, ← reserve_wait] at hasked
    exact hasked
  | request permits =>
    have hasked := asked permits none rfl
    rw [← request_fst, ← request_wait?] at hasked
    exact hasked
  | start permits =>
    have hasked := asked permits (some s.started) rfl
    rw [← request_fst, ← request_wait?] at hasked
    exact same (start_sameBooks _ _ _ _) hasked
  | poll caller =>
    simp only [act]
    split
    · exact h
    · next p _ =>
      have hpoll := same (p.poll_sameBooks s.limiter s.timer) h
      split <;> next heq => rw [heq] at hpoll; exact hpoll
  | drop caller =>
    simp only [act]
    split
    · exact h
    · next p hp => exact same (p.cancel_sameBooks s.limiter) (dropped caller p rfl hp)
  | drain => exact drained rfl
  | changeLimit n =>
    simp only [act, changeLimit]
    rcases changed_configure s.limiter { s.limiter.config with limitForPeriod := n } with
      hc | ⟨hvalid, hc⟩
    · rw [hc]
      exact h
    · rw [hc]
      exact relimited n rfl (Config.limit_pos hvalid)
  | changeTimeout d =>
    simp only [act, changeTimeout]
    rcases changed_configure s.limiter { s.limiter.config with timeout := d } with hc | ⟨-, hc⟩
    · rw [hc]
      exact h
    · rw [hc]
      exact retimed d rfl
  | look => exact h

end Ledger

end FaultTolerance.Limiter
