import FaultTolerance.Proofs.Run
import FaultTolerance.Stack.Layer

/-! Permits are conserved.

The counter of a bulkhead says how many permits are left, not who holds the others. Beside the
bulkhead stand its callers: those that wait for a permit, on a thread or as a suspended future,
those that run with one, and those that are gone, be it that they were refused, gave up waiting or
gave their permit back. `Conserved` is the law: the counter is the limit less the callers that run.
It survives limits that change in both directions. A release that belongs to nobody (`Step.loose`)
breaks it, but does not take the counter beyond the limit.

The main theorem is **`permits_conserved`**. -/
namespace FaultTolerance.Bulkhead

/-! ### Callers -/

inductive Caller where
  | waiting (w : Waiter)
  /-- It holds a permit. -/
  | running
  | gone
  deriving DecidableEq, Repr

/-- What a caller is after it has asked. -/
def Caller.answered : Bool ⊕ Waiter → Caller
  | .inl true => .running
  | .inl false => .gone
  | .inr w => .waiting w

def inFlight (callers : List Caller) : Nat := callers.countP (· = .running)

inductive Step where
  /-- Somebody comes for a permit and does not wait. -/
  | ask
  /-- Somebody comes for a permit and may wait on the timer. -/
  | come (timer : Nat)
  /-- A waiter looks again. -/
  | poll (caller timer : Nat)
  /-- A waiter is dropped. -/
  | abandon (caller : Nat)
  /-- A call ends, by return, error, panic or cancellation: its permit goes back, with a report or
  without one. -/
  | finish (caller : Nat) (reported : Bool)
  | configure (config : Config)
  /-- A permit is given back that belongs to nobody. -/
  | loose (reported : Bool)

namespace Step

def isPaired : Step → Bool
  | loose _ => false
  | _ => true

/-- The greatest limit that the counter reads as it is. -/
def greatestLimit : Nat := 0x7FFFFFFFFFFFFFFF

def inRange : Step → Bool
  | configure config => config.maxConcurrentCalls ≤ greatestLimit
  | _ => true

end Step

open Step (greatestLimit)

def giveBack (b : Bulkhead) (reported : Bool) : Bulkhead :=
  if reported then b.complete.1 else b.release

structure Ledger where
  bulkhead : Bulkhead
  callers : List Caller := []

namespace Ledger

def next [Timer] (s : Ledger) : Step → Ledger
  | .ask =>
    let (b, _, admitted) := s.bulkhead.tryAcquire
    { bulkhead := b, callers := s.callers ++ [.answered (.inl admitted)] }
  | .come timer =>
    let (b, _, answer) := s.bulkhead.start timer
    { bulkhead := b, callers := s.callers ++ [.answered answer] }
  | .poll caller timer =>
    match s.callers[caller]? with
    | some (.waiting w) =>
      let (b, _, answer) := w.poll s.bulkhead timer
      { bulkhead := b, callers := s.callers.set caller (.answered answer) }
    | _ => s
  | .abandon caller =>
    match s.callers[caller]? with
    | some (.waiting _) => { s with callers := s.callers.set caller .gone }
    | _ => s
  | .finish caller reported =>
    match s.callers[caller]? with
    | some .running =>
      { bulkhead := s.bulkhead.giveBack reported, callers := s.callers.set caller .gone }
    | _ => s
  | .configure config =>
    match s.bulkhead.configure config with
    | .ok b => { s with bulkhead := b }
    | .error _ => s
  | .loose reported => { s with bulkhead := s.bulkhead.giveBack reported }

end Ledger

/-! ### The counter -/

theorem Config.capacity_of_le {c : Config} (h : c.maxConcurrentCalls ≤ greatestLimit) :
    c.capacity = c.maxConcurrentCalls := by
  unfold greatestLimit at h
  unfold capacity
  apply Int.bmod_eq_of_le <;> omega

/-- A limit beyond the range of the counter reads as a smaller one. -/
theorem Config.capacity_le (c : Config) : c.capacity ≤ c.maxConcurrentCalls := by
  unfold capacity
  rw [Int.bmod_def]
  split <;> omega

theorem Config.capacity_le_greatestLimit (c : Config) : c.capacity ≤ greatestLimit := by
  unfold capacity greatestLimit
  rw [Int.bmod_def]
  split <;> omega

/-! ### Steps of the bulkhead -/

variable {b m : Bulkhead} {answer : Bool ⊕ Waiter}

/-- What the bulkhead is after somebody has asked, and what it has answered. -/
inductive Answered (b : Bulkhead) : Bulkhead → Bool ⊕ Waiter → Prop
  | served (hfree : 0 < b.available) :
    Answered b { b with available := b.available - 1 } (.inl true)
  | unserved {answer : Bool ⊕ Waiter} (hnone : b.available ≤ 0) (hanswer : answer ≠ .inl true) :
    Answered b b answer

theorem Answered.admitted_iff (h : Answered b m answer) :
    answer = .inl true ↔ 0 < b.available := by
  cases h with
  | served hfree => simp [hfree]
  | unserved hnone hanswer => simp [hanswer, hnone]

theorem take?_of_pos (h : 0 < b.available) :
    b.take? = some { b with available := b.available - 1 } := if_pos h

theorem take?_of_nonpos (h : b.available ≤ 0) : b.take? = none := if_neg (Int.not_lt.mpr h)

theorem tryAcquire_answered (b : Bulkhead) : Answered b b.tryAcquire.1 (.inl b.tryAcquire.2.2) := by
  unfold tryAcquire
  rcases Int.lt_or_le 0 b.available with hfree | hnone
  · rw [take?_of_pos hfree]
    exact .served hfree
  · rw [take?_of_nonpos hnone]
    exact .unserved hnone nofun

theorem Waiter.poll_answered [Timer] (w : Waiter) (b : Bulkhead) (timer : Nat) :
    Answered b (w.poll b timer).1 (w.poll b timer).2.2 := by
  unfold Waiter.poll
  rcases Int.lt_or_le 0 b.available with hfree | hnone
  · rw [take?_of_pos hfree]
    exact .served hfree
  · rw [take?_of_nonpos hnone]
    dsimp only
    split <;> exact .unserved hnone nofun

theorem giveBack_eq (b : Bulkhead) (reported : Bool) : b.giveBack reported = b.release := by
  cases reported <;> rfl

theorem configure_of_validate {config : Config} (hvalid : config.validate = .ok ()) :
    b.configure config =
      if fits (config.capacity - b.config.capacity) &&
          fits (b.available + (config.capacity - b.config.capacity)) then
        .ok { b with
          config, available := b.available + (config.capacity - b.config.capacity) }
      else .error .overflow := by
  have hpassed : Except.mapError Obstacle.invalid (.ok ()) = pure () := rfl
  unfold configure
  rw [hvalid, hpassed, pure_bind]
  rfl

/-- What a new limit that is taken over does to the counter. -/
theorem configure_ok {config : Config} (h : b.configure config = .ok m) :
    m.config = config ∧ m.available = b.available + (config.capacity - b.config.capacity) := by
  cases hvalid : config.validate with
  | error e =>
    unfold configure at h
    rw [hvalid] at h
    cases h
  | ok _ =>
    rw [configure_of_validate hvalid] at h
    split at h
    case isTrue =>
      cases h
      exact ⟨rfl, rfl⟩
    case isFalse => cases h

/-- A valid limit is taken over if the counter stays in its range. -/
theorem configure_of_fits {config : Config} (hvalid : config.validate = .ok ())
    (hgrowth : fits (config.capacity - b.config.capacity))
    (hfits : fits (b.available + (config.capacity - b.config.capacity))) :
    ∃ m, b.configure config = .ok m := by
  rw [configure_of_validate hvalid, hgrowth, hfits]
  exact ⟨_, rfl⟩

/-! ### What a step does -/

/-- What a step does to the bulkhead and to the number of callers that run. -/
inductive Effect (i : Step) (b : Bulkhead) : Nat → Bulkhead → Nat → Prop
  | idle (running : Nat) : Effect i b running b running
  | taken (running : Nat) (hfree : 0 < b.available) :
    Effect i b running { b with available := b.available - 1 } (running + 1)
  | returned (left : Nat) : Effect i b (left + 1) b.release left
  | loose (running : Nat) {reported : Bool} (hstep : i = .loose reported) :
    Effect i b running b.release running
  | configured (running : Nat) {config : Config} {m : Bulkhead} (hstep : i = .configure config)
    (hok : b.configure config = .ok m) : Effect i b running m running

section InFlight
variable {callers : List Caller}

theorem inFlight_enter (c : Caller) :
    inFlight (callers ++ [c]) = inFlight callers + (decide (c = .running)).toNat :=
  countP_enter ..

theorem inFlight_change {caller : Nat} {old : Caller} (hold : callers[caller]? = some old)
    (new : Caller) :
    inFlight (callers.set caller new) + (decide (old = .running)).toNat =
      inFlight callers + (decide (new = .running)).toNat :=
  countP_change _ hold new

end InFlight

theorem Caller.answered_eq_running : Caller.answered answer = .running ↔ answer = .inl true := by
  rcases answer with (_ | _) | _ <;> simp [Caller.answered]

theorem Answered.effect {i : Step} (h : Answered b m answer) (running : Nat) :
    Effect i b running m (running + (decide (Caller.answered answer = .running)).toNat) := by
  simp only [Caller.answered_eq_running]
  cases h with
  | served hfree => exact .taken running hfree
  | unserved _ hanswer =>
    rw [decide_eq_false hanswer]
    exact .idle running

theorem Ledger.next_effect [Timer] (s : Ledger) (i : Step) :
    Effect i s.bulkhead (inFlight s.callers) (s.next i).bulkhead (inFlight (s.next i).callers) := by
  cases i with
  | ask =>
    have h := (tryAcquire_answered s.bulkhead).effect (i := .ask) (inFlight s.callers)
    rwa [← inFlight_enter] at h
  | come timer =>
    have h := (Waiter.poll_answered ⟨s.bulkhead.deadlineAt timer⟩ s.bulkhead timer).effect
      (i := .come timer) (inFlight s.callers)
    rwa [← inFlight_enter] at h
  | poll caller timer =>
    unfold next
    dsimp only
    split
    case h_1 w hold =>
      have h := (w.poll_answered s.bulkhead timer).effect
        (i := .poll caller timer) (inFlight s.callers)
      rwa [← inFlight_change hold] at h
    case h_2 => exact .idle _
  | abandon caller =>
    unfold next
    dsimp only
    split
    case h_1 w hold =>
      have hcount := inFlight_change hold .gone
      simp only [reduceCtorEq, decide_false, Bool.toNat_false, Nat.add_zero] at hcount
      rw [hcount]
      exact .idle _
    case h_2 => exact .idle _
  | finish caller reported =>
    unfold next
    dsimp only
    split
    case h_1 hold =>
      have hcount := inFlight_change hold .gone
      simp only [reduceCtorEq, decide_false, Bool.toNat_false, Nat.add_zero, decide_true,
        Bool.toNat_true] at hcount
      rw [giveBack_eq, ← hcount]
      exact .returned _
    case h_2 => exact .idle _
  | configure config =>
    unfold next
    dsimp only
    split
    case h_1 b hok => exact .configured _ rfl hok
    case h_2 => exact .idle _
  | loose reported =>
    unfold next
    dsimp only
    rw [giveBack_eq]
    exact .loose _ rfl

/-! ### The laws -/

section Laws
variable {i : Step} {running left : Nat}

/-- No more permits are left than the limit allows. -/
structure Within (b : Bulkhead) : Prop where
  le : b.available ≤ b.config.capacity

/-- Nothing is given back beyond the limit. -/
theorem Effect.within (h : Effect i b running m left) (hb : b.Within) : m.Within := by
  cases h with
  | idle _ => exact hb
  | taken _ _ => exact ⟨Int.le_trans (Int.sub_le_self _ (by decide)) hb.le⟩
  | returned _ | loose _ _ =>
    unfold release
    split
    case isTrue => exact hb
    case isFalse hout => exact ⟨Int.not_le.mp hout⟩
  | configured _ _ hok =>
    have hle := hb.le
    obtain ⟨hconfig, havailable⟩ := configure_ok hok
    constructor
    rw [hconfig, havailable]
    omega

/-- The counter is what the limit reads as, less the callers that run. -/
structure Counted (b : Bulkhead) (running : Nat) : Prop where
  counter : b.available = b.config.capacity - running
  running_le : running ≤ greatestLimit

theorem Effect.counted (h : Effect i b running m left) (hpaired : i.isPaired)
    (hb : Counted b running) : Counted m left := by
  obtain ⟨hcounter, hrunning⟩ := hb
  have hgreatest := b.config.capacity_le_greatestLimit
  cases h with
  | idle _ => exact ⟨hcounter, hrunning⟩
  | taken _ hfree =>
    refine ⟨?_, by omega⟩
    show b.available - 1 = b.config.capacity - (running + 1 : Nat)
    omega
  | returned _ =>
    have hout : ¬ b.config.capacity ≤ b.available := by omega
    unfold release
    rw [if_neg hout]
    refine ⟨?_, by omega⟩
    show b.available + 1 = b.config.capacity - left
    omega
  | loose _ hstep =>
    subst hstep
    cases hpaired
  | configured _ _ hok =>
    obtain ⟨hconfig, havailable⟩ := configure_ok hok
    refine ⟨?_, hrunning⟩
    rw [hconfig]
    omega

theorem Effect.limit_le (h : Effect i b running m left) (hrange : i.inRange)
    (hb : b.config.maxConcurrentCalls ≤ greatestLimit) :
    m.config.maxConcurrentCalls ≤ greatestLimit := by
  cases h with
  | idle _ | taken _ _ => exact hb
  | returned _ | loose _ _ =>
    unfold release
    split <;> exact hb
  | configured _ hstep hok =>
    subst hstep
    rw [(configure_ok hok).1]
    exact of_decide_eq_true hrange

/-- The counter is the limit less the callers that run. -/
structure Conserved (b : Bulkhead) (running : Nat) : Prop where
  limit_le : b.config.maxConcurrentCalls ≤ greatestLimit
  counter : b.available = b.config.maxConcurrentCalls - running
  running_le : running ≤ greatestLimit

theorem conserved_iff_counted (hlimit : b.config.maxConcurrentCalls ≤ greatestLimit) :
    Conserved b running ↔ Counted b running := by
  have hcapacity := Config.capacity_of_le hlimit
  constructor
  · rintro ⟨_, hcounter, hrunning⟩
    exact ⟨hcapacity ▸ hcounter, hrunning⟩
  · rintro ⟨hcounter, hrunning⟩
    exact ⟨hlimit, hcapacity ▸ hcounter, hrunning⟩

theorem Effect.conserved (h : Effect i b running m left) (hpaired : i.isPaired)
    (hrange : i.inRange) (hb : Conserved b running) : Conserved m left := by
  have hlimit := h.limit_le hrange hb.limit_le
  have hcounted := (conserved_iff_counted hb.limit_le).mp hb
  exact (conserved_iff_counted hlimit).mpr (h.counted hpaired hcounted)

/-- Only a limit below the number of callers that run takes the counter below zero. -/
theorem Effect.shrinks (h : Effect i b running m left) (hrange : i.inRange)
    (hb : Conserved b running) (hfree : 0 ≤ b.available) (hspent : m.available < 0) :
    ∃ config, i = .configure config ∧ config.maxConcurrentCalls < running := by
  obtain ⟨hlimit, hcounter, hrunning⟩ := hb
  cases h with
  | idle _ => omega
  | taken _ hpos =>
    have hnext : b.available - 1 < 0 := hspent
    omega
  | returned _ | loose _ _ =>
    unfold release at hspent
    split at hspent
    · omega
    · have hnext : b.available + 1 < 0 := hspent
      omega
  | @configured _ config _ hstep hok =>
    subst hstep
    have hle : config.maxConcurrentCalls ≤ greatestLimit := of_decide_eq_true hrange
    obtain ⟨_, havailable⟩ := configure_ok hok
    rw [Config.capacity_of_le hlimit, Config.capacity_of_le hle] at havailable
    exact ⟨config, rfl, by omega⟩

theorem fits_iff {n : Int} : fits n ↔ -0x8000000000000000 ≤ n ∧ n < 0x8000000000000000 := by
  unfold fits
  simp

/-- Every valid limit within the range of the counter is taken over. -/
theorem Conserved.configure (h : Conserved b running) {config : Config}
    (hvalid : config.validate = .ok ()) (hle : config.maxConcurrentCalls ≤ greatestLimit) :
    ∃ m, b.configure config = .ok m := by
  obtain ⟨hlimit, hcounter, hrunning⟩ := h
  apply configure_of_fits hvalid
  all_goals
    rw [fits_iff, Config.capacity_of_le hlimit, Config.capacity_of_le hle]
    unfold greatestLimit at hlimit hle hrunning
    omega

end Laws

/-! ### Runs -/

theorem Ledger.run_within [Timer] (s : Ledger) (steps : List Step) (h : s.bulkhead.Within) :
    (steps.foldl next s).bulkhead.Within := by
  refine List.foldlRecOn (motive := fun s => Within s.bulkhead) steps next h fun s h i _ => ?_
  exact (s.next_effect i).within h

theorem Ledger.run_conserved [Timer] (s : Ledger) (steps : List Step)
    (hsteps : ∀ i ∈ steps, i.isPaired ∧ i.inRange)
    (h : Conserved s.bulkhead (inFlight s.callers)) :
    Conserved (steps.foldl next s).bulkhead (inFlight (steps.foldl next s).callers) := by
  refine List.foldlRecOn (motive := fun s => Conserved s.bulkhead (inFlight s.callers))
    steps next h fun s h i hi => ?_
  obtain ⟨hpaired, hrange⟩ := hsteps i hi
  exact (s.next_effect i).conserved hpaired hrange h

theorem new_eq_ok {name : String} {config : Config} (h : new name config = .ok b) :
    b.config = config ∧ b.available = config.capacity := by
  obtain ⟨_, hb⟩ := ok_of_bind h
  cases hb
  constructor <;> dsimp only

theorem new_of_validate (name : String) {config : Config} (hvalid : config.validate = .ok ())
    (hle : config.maxConcurrentCalls ≤ greatestLimit) :
    new name config = .ok { name, config, available := config.maxConcurrentCalls } := by
  unfold new
  rw [hvalid, Config.capacity_of_le hle]
  rfl

/-- **Permits are conserved.** Whatever happens, the counter does not exceed the limit. While every
permit that is given back is somebody's and the limits are in the range of the counter, the counter
is the limit less the callers that run: it is negative if there are more of them than the limit
allows, and only a smaller limit makes it so. Whoever is answered at once is let in exactly if fewer
run than the limit allows. When nobody runs every permit is free. Every valid limit is taken
over. -/
theorem permits_conserved [Timer] {name : String} {config : Config}
    (hnew : new name config = .ok b) (steps : List Step) :
    let s := steps.foldl Ledger.next { bulkhead := b }
    let limit := s.bulkhead.config.maxConcurrentCalls
    let running := inFlight s.callers
    s.bulkhead.available ≤ limit ∧
      (config.maxConcurrentCalls ≤ greatestLimit → (∀ i ∈ steps, i.isPaired ∧ i.inRange) →
        s.bulkhead.available = limit - running ∧
        (s.bulkhead.available < 0 ↔ limit < running) ∧
        (∀ i, i.inRange → 0 ≤ s.bulkhead.available → (s.next i).bulkhead.available < 0 →
          ∃ config, i = .configure config ∧ config.maxConcurrentCalls < running) ∧
        (s.bulkhead.tryAcquire.2.2 = true ↔ running < limit) ∧
        (∀ timer, (s.bulkhead.start timer).2.2 = .inl true ↔ running < limit) ∧
        (∀ (w : Waiter) timer, (w.poll s.bulkhead timer).2.2 = .inl true ↔ running < limit) ∧
        (.running ∉ s.callers → s.bulkhead.metrics = ⟨limit, limit⟩) ∧
        ∀ config, config.validate = .ok () → config.maxConcurrentCalls ≤ greatestLimit →
          ∃ m, s.bulkhead.configure config = .ok m ∧ m.config = config) := by
  intro s limit running
  obtain ⟨rfl, hfull⟩ := new_eq_ok hnew
  refine ⟨?_, fun hlimit hsteps => ?_⟩
  -- The end of the run is any state with these laws; it is not to be computed.
  · have hwithin : s.bulkhead.Within := Ledger.run_within _ steps ⟨Int.le_of_eq hfull⟩
    clear_value s
    exact Int.le_trans hwithin.le (Config.capacity_le _)
  · have hstart : Conserved b 0 := by
      refine ⟨hlimit, ?_, Nat.zero_le _⟩
      rw [hfull, Config.capacity_of_le hlimit, Int.natCast_zero, Int.sub_zero]
    have h : Conserved s.bulkhead running := Ledger.run_conserved _ steps hsteps hstart
    clear_value s
    have hcounter : s.bulkhead.available = limit - running := h.counter
    have hfree : 0 < s.bulkhead.available ↔ running < limit := by omega
    refine ⟨hcounter, by omega, fun i hrange => (s.next_effect i).shrinks hrange h, ?_,
      fun timer => ?_, fun w timer => ?_, fun hnobody => ?_, fun config hvalid hle => ?_⟩
    · rw [← hfree, ← s.bulkhead.tryAcquire_answered.admitted_iff, Sum.inl.injEq]
    · rw [← hfree]
      exact (Waiter.poll_answered _ _ timer).admitted_iff
    · rw [← hfree]
      exact (w.poll_answered _ timer).admitted_iff
    · have hnone : running = 0 := List.countP_eq_zero.mpr fun c hc => by
        rw [decide_eq_true_eq]
        rintro rfl
        exact hnobody hc
      have havailable : s.bulkhead.available = limit := by omega
      show Metrics.mk s.bulkhead.available.toNat limit = _
      rw [havailable, Int.toNat_natCast]
    · obtain ⟨m, hok⟩ := h.configure hvalid hle
      exact ⟨m, hok, (configure_ok hok).1⟩

def pool : Bulkhead :=
  { name := "pool", config := { maxConcurrentCalls := 2, maxWait := ⟨10⟩ }, available := 2 }

/-- Two run and two wait when the limit shrinks. One waiter is dropped, the other is let in when
both calls have ended, and the limit grows again. -/
def squeezed : List Step :=
  [.ask, .ask, .come 0, .come 0, .configure { maxConcurrentCalls := 1 }, .ask, .abandon 2,
    .finish 0 true, .poll 3 1, .finish 1 false, .poll 3 2, .configure { maxConcurrentCalls := 3 }]

theorem squeezed_conserved :
    let s := squeezed.foldl Ledger.next { bulkhead := pool }
    s.callers = [.gone, .gone, .gone, .running, .gone] ∧ s.bulkhead.available = 2 ∧
      s.bulkhead.tryAcquire.2.2 = true ∧
      ∀ timer, (s.bulkhead.start timer).2.2 = .inl true := by
  have hnew : new "pool" pool.config = .ok pool := new_of_validate "pool" rfl (by decide)
  obtain ⟨_, h⟩ := permits_conserved hnew squeezed
  obtain ⟨hcounter, _, _, htry, hstart, _⟩ := h (by decide) (by decide)
  intro s
  have hcallers : s.callers = [.gone, .gone, .gone, .running, .gone] := by decide +kernel
  have hlimit : s.bulkhead.config.maxConcurrentCalls = 3 := by decide +kernel
  have hfree : inFlight s.callers < s.bulkhead.config.maxConcurrentCalls := by
    rw [hcallers, hlimit]
    decide
  refine ⟨hcallers, ?_, htry.mpr hfree, fun timer => (hstart timer).mpr hfree⟩
  rw [hcounter, hcallers, hlimit]
  rfl

/-! ### Calls through a layer -/

/-- However a call that a bulkhead has let in is over, its permit goes back with a report, and a
waiter that is dropped takes nothing along. -/
theorem layer_gives_back {ε ν : Type} [Fault ε] (b : Bulkhead) (now : Nat) (hold : Stack.Hold)
    (wait : Stack.Wait) :
    (∀ outcome : Except ε ν, (Stack.Layer.leave now hold outcome (.bulkhead b)).1 =
      .bulkhead (b.giveBack true)) ∧
    (Stack.Layer.abandon hold (.bulkhead b : Stack.Layer ε ν)).1 = .bulkhead (b.giveBack true) ∧
    Stack.Layer.cancel wait (.bulkhead b : Stack.Layer ε ν) = .bulkhead b :=
  ⟨fun _ => rfl, rfl, rfl⟩

end FaultTolerance.Bulkhead
