import FaultTolerance.Adaptive.Basic
import FaultTolerance.Proofs.Bulkhead.Permits

/-! What the end of a call does to the permits of an adaptive bulkhead.

The permit of the call goes back first. Then an evaluation may ask for another limit, which the
counter follows or, past its range, does not (`Resized`). Nothing else that a finished call feeds
touches the permits. While limits and permits are in its range, the counter follows every new limit
(`Ranged`). -/
namespace FaultTolerance

namespace Bulkhead
open Step (greatestLimit)
variable {b m : Bulkhead}

theorem Answered.config_eq {answer : Bool ⊕ Waiter} (h : Answered b m answer) :
    m.config = b.config := by
  cases h <;> rfl

theorem release_config (b : Bulkhead) : b.release.config = b.config := by
  simp only [release]
  split <;> rfl

/-- The counter can follow every limit that it reads as it is. -/
structure Ranged (b : Bulkhead) : Prop where
  limit_le : b.config.maxConcurrentCalls ≤ greatestLimit
  within : b.Within
  inUse_le : b.config.capacity - b.available ≤ greatestLimit

theorem Answered.ranged {answer : Bool ⊕ Waiter} (h : Answered b m answer) (hb : b.Ranged) :
    m.Ranged := by
  obtain ⟨hlimit, ⟨hwithin⟩, hinUse⟩ := hb
  have hcapacity := Config.capacity_of_le hlimit
  cases h with
  | served hfree =>
    refine ⟨hlimit, ⟨?_⟩, ?_⟩ <;> dsimp only <;> omega
  | unserved _ _ => exact ⟨hlimit, ⟨hwithin⟩, hinUse⟩

theorem Ranged.release (hb : b.Ranged) : b.release.Ranged := by
  obtain ⟨hlimit, ⟨hwithin⟩, hinUse⟩ := hb
  simp only [Bulkhead.release]
  split
  case isTrue => exact ⟨hlimit, ⟨hwithin⟩, hinUse⟩
  case isFalse => refine ⟨hlimit, ⟨?_⟩, ?_⟩ <;> dsimp only <;> omega

/-- A new limit leaves the number of permits in use as it is. -/
theorem configure_inUse {config : Config} (h : b.configure config = .ok m) :
    m.config.capacity - m.available = b.config.capacity - b.available := by
  obtain ⟨hconfig, havailable⟩ := configure_ok h
  rw [hconfig, havailable]
  omega

theorem Ranged.configure {config : Config} (hle : config.maxConcurrentCalls ≤ greatestLimit)
    (h : b.configure config = .ok m) (hb : b.Ranged) : m.Ranged := by
  have hinUse := configure_inUse h
  have hkept := hb.inUse_le
  have hwithin := hb.within.le
  refine ⟨?_, ⟨?_⟩, ?_⟩
  · rw [(configure_ok h).1]
    exact hle
  · omega
  · omega

theorem Ranged.configure_ne_overflow {config : Config}
    (hle : config.maxConcurrentCalls ≤ greatestLimit) (hb : b.Ranged) :
    b.configure config ≠ .error .overflow := by
  intro hover
  cases hvalid : config.validate with
  | error e =>
    simp only [Bulkhead.configure, hvalid] at hover
    cases hover
  | ok _ =>
    have hold := Config.capacity_of_le hb.limit_le
    have hnew := Config.capacity_of_le hle
    have hlimit := hb.limit_le
    have hwithin := hb.within.le
    have hinUse := hb.inUse_le
    simp only [greatestLimit] at hle hlimit hinUse
    have hgrowth : fits (config.capacity - b.config.capacity) := by
      simp only [fits, Bool.and_eq_true, decide_eq_true_eq]
      omega
    have hfits : fits (b.available + (config.capacity - b.config.capacity)) := by
      simp only [fits, Bool.and_eq_true, decide_eq_true_eq]
      omega
    obtain ⟨m, hok⟩ := configure_of_fits hvalid hgrowth hfits
    rw [hok] at hover
    cases hover

end Bulkhead

namespace Adaptive
open Bulkhead.Step (greatestLimit)
variable {ε ν : Type}

/-- What can become of the permits when a limit is evaluated, and whether the counter could
follow. -/
inductive Resized (config : Config ε) (b : Bulkhead) : Bulkhead → Bool → Prop
  | kept : Resized config b b true
  | resized {m : Bulkhead} {limit : Nat}
    (hle : limit ≤ max config.minConcurrentCalls config.maxConcurrentCalls)
    (hok : b.configure { maxConcurrentCalls := limit, maxWait := config.maxWait } = .ok m) :
    Resized config b m true
  | stuck {limit : Nat}
    (hle : limit ≤ max config.minConcurrentCalls config.maxConcurrentCalls)
    (hover : b.configure { maxConcurrentCalls := limit, maxWait := config.maxWait } =
      .error .overflow) : Resized config b b false

theorem Resized.maxWait_eq {config : Config ε} {b m : Bulkhead} {settled : Bool}
    (h : Resized config b m settled) :
    m.config.maxWait = b.config.maxWait ∨ m.config.maxWait = config.maxWait := by
  cases h with
  | kept | stuck _ _ => exact .inl rfl
  | resized _ hok =>
    obtain ⟨hconfig, -⟩ := Bulkhead.configure_ok hok
    exact .inr (by rw [hconfig])

theorem propose_le (config : Config ε) (phase : Phase) (limit : Nat) (breached : Bool) :
    propose config phase limit breached ≤
      max config.minConcurrentCalls config.maxConcurrentCalls := by
  simp only [propose]
  omega

/-- The bulkhead with one more call in its window and in its latency. -/
def observed (a : Adaptive ε) (now : Nat) (elapsed : Duration) (failed : Bool) : Adaptive ε :=
  { a with
    window := a.window.record now
      ⟨.classify failed (a.config.slowCallDuration.nanos ≤ elapsed.nanos), elapsed⟩
    latency := some (smooth a.latency elapsed a.config.latencySmoothing) }

/-- A call is observed before the limit is evaluated. -/
theorem record_eq (a : Adaptive ε) (now : Nat) (elapsed : Duration) (failed : Bool) :
    a.record now elapsed failed =
      if (a.observed now elapsed failed).isDue now &&
          (a.observed now elapsed failed).window.view.isMeaningful then
        (a.observed now elapsed failed).evaluate now (a.observed now elapsed failed).window.view
          (smooth a.latency elapsed a.config.latencySmoothing)
      else (a.observed now elapsed failed, [], true) :=
  rfl

section Outcome
variable (a : Adaptive ε) (now limit : Nat) (elapsed : Duration)

theorem resize_config : (a.resize limit).1.config = a.config := by
  simp only [resize]
  (repeat' split) <;> rfl

theorem resize_resized
    (hle : limit ≤ max a.config.minConcurrentCalls a.config.maxConcurrentCalls) :
    Resized a.config a.bulkhead (a.resize limit).1.bulkhead (a.resize limit).2.2 := by
  simp only [resize]
  split
  case isTrue => exact .kept
  case isFalse =>
    split
    case h_1 m hok => exact .resized hle hok
    case h_2 => exact .kept
    case h_3 hover => exact .stuck hle hover

theorem record_config (failed : Bool) : (a.record now elapsed failed).1.config = a.config := by
  simp only [record_eq]
  split
  · exact resize_config ..
  · rfl

theorem finish_config (failed : Bool) (event : Event) :
    (a.finish now elapsed failed event).1.config = a.config :=
  record_config a.release now elapsed failed

theorem evaluate_resized (view : Snapshot) (latency : Float) :
    Resized a.config a.bulkhead (a.evaluate now view latency).1.bulkhead
      (a.evaluate now view latency).2.2 :=
  resize_resized { a with
    phase := a.phase.after (breached a.config view latency)
    lastAdjustment := now
    window := a.window.reset now } _ (propose_le ..)

theorem record_resized (failed : Bool) :
    Resized a.config a.bulkhead (a.record now elapsed failed).1.bulkhead
      (a.record now elapsed failed).2.2 := by
  simp only [record_eq]
  split
  · exact evaluate_resized (a.observed now elapsed failed) ..
  · exact .kept

theorem finish_resized (failed : Bool) (event : Event) :
    Resized a.config a.bulkhead.release (a.finish now elapsed failed event).1.bulkhead
      (a.finish now elapsed failed event).2.2 :=
  record_resized a.release now elapsed failed

variable [Fault ε] (outcome : Except ε ν)

theorem onOutcome_config : (a.onOutcome now elapsed outcome).1.config = a.config := by
  cases outcome with
  | ok v => exact record_config ..
  | error e =>
    simp only [onOutcome, onError]
    (repeat' split) <;> first | rfl | exact record_config ..

/-- **A finished call gives its permit back before the limit is evaluated.** -/
theorem onOutcome_resized :
    Resized a.config a.bulkhead.release (a.onOutcome now elapsed outcome).1.bulkhead
      (a.onOutcome now elapsed outcome).2.2 := by
  cases outcome with
  | ok v => exact finish_resized ..
  | error e =>
    simp only [onOutcome, onError]
    (repeat' split) <;> first | exact .kept | exact finish_resized ..

end Outcome

/-! ### Limits in range -/

/-- The counter reads all limits of the bulkhead as they are. -/
structure Ranged (a : Adaptive ε) : Prop where
  min_le : a.config.minConcurrentCalls ≤ greatestLimit
  max_le : a.config.maxConcurrentCalls ≤ greatestLimit
  permits : a.bulkhead.Ranged

/-- The counter follows every limit that an evaluation asks for. -/
theorem Resized.ranged {config : Config ε} {b m : Bulkhead} {settled : Bool}
    (h : Resized config b m settled) (hmin : config.minConcurrentCalls ≤ greatestLimit)
    (hmax : config.maxConcurrentCalls ≤ greatestLimit) (hb : b.Ranged) :
    m.Ranged ∧ settled = true := by
  cases h with
  | kept => exact ⟨hb, rfl⟩
  | resized hle hok => exact ⟨hb.configure (by dsimp only; omega) hok, rfl⟩
  | stuck hle hover => exact absurd hover (hb.configure_ne_overflow (by dsimp only; omega))

/-- A new limit keeps the counter in its range. -/
theorem Ranged.resized {a m : Adaptive ε} {b : Bulkhead} {settled : Bool} (ha : a.Ranged)
    (hconfig : m.config = a.config) (hb : b.Ranged) (h : Resized a.config b m.bulkhead settled) :
    m.Ranged ∧ settled = true := by
  obtain ⟨hpermits, hsettled⟩ := h.ranged ha.min_le ha.max_le hb
  exact ⟨⟨hconfig ▸ ha.min_le, hconfig ▸ ha.max_le, hpermits⟩, hsettled⟩

end Adaptive

end FaultTolerance
