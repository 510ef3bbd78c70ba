import FaultTolerance.Proofs.Limiter.Ledger
import FaultTolerance.Proofs.Stack.Moves

/-! The two doors of a layer.

A call that blocks its thread is answered once (`Layer.enterBlocking`); a call that may be suspended
is answered at once or told to wait, and looks again later (`Layer.enter`, `Layer.resume`). The
primitives implement the two on their own. Here they are compared: the thread is told what a
suspended call is told that nobody comes before (`Layer.comesThrough`). -/
namespace FaultTolerance

namespace Bulkhead
variable [Timer] {b m : Bulkhead} {timer : Nat} {events : List Event} {acquired : Bool}
  {slept : Duration}

theorem start_of_free {next : Bulkhead} (htake : b.take? = some next) :
    b.start timer = (next, [.callPermitted], .inl true) := by
  simp only [start, Waiter.poll, htake]

theorem start_of_full (htake : b.take? = none) :
    b.start timer =
      if (b.deadlineAt timer).any (Timer.expiry · ≤ timer) then (b, [.callRejected], .inl false)
      else (b, [], .inr ⟨b.deadlineAt timer⟩) := by
  simp only [start, Waiter.poll, htake]

/-- Only who does not want to wait is past its deadline when it comes. -/
theorem maxWait_of_expired {deadline : Nat} (hdeadline : b.deadlineAt timer = some deadline)
    (hpassed : Timer.expiry deadline ≤ timer) : b.config.maxWait = .zero := by
  have hdue : timer + b.config.maxWait.nanos = deadline := by
    unfold deadlineAt at hdeadline
    split at hdeadline
    · exact Option.some.inj hdeadline
    · cases hdeadline
  have hreached := Timer.le_expiry deadline
  have hnanos : b.config.maxWait.nanos = 0 := by omega
  exact congrArg Duration.mk hnanos

/-- A caller that blocks its thread is told what a caller is told that looks at once, and again when
its deadline has passed. Without a deadline it is turned away. -/
theorem acquire_cases (hblocked : b.acquire timer = (m, events, acquired, slept)) :
    (slept = .zero ∧ b.start timer = (m, events, .inl acquired)) ∨
      ∃ waiter, m = b ∧ acquired = false ∧ b.start timer = (b, [], .inr waiter) ∧
        ((∃ due, (Stack.Wait.permit waiter).due = some due ∧
            ∀ later, due ≤ later → waiter.poll b later = (b, events, .inl false)) ∨
          (Stack.Wait.permit waiter).due = none ∧ events = [] ∧ slept = .zero) := by
  cases htake : b.take? with
  | some next =>
    simp only [acquire, tryAcquire, htake] at hblocked
    cases hblocked
    exact .inl ⟨rfl, start_of_free htake⟩
  | none =>
    have hstart : b.start timer = _ := start_of_full htake
    simp only [acquire, tryAcquire, htake] at hblocked
    cases hdeadline : b.deadlineAt timer with
    | none =>
      rw [hdeadline] at hblocked hstart
      cases hblocked
      exact .inr ⟨_, rfl, rfl, hstart, .inr ⟨rfl, rfl, rfl⟩⟩
    | some deadline =>
      rw [hdeadline] at hblocked hstart
      cases hblocked
      by_cases hpassed : Timer.expiry deadline ≤ timer
      · refine .inl ⟨maxWait_of_expired hdeadline hpassed, ?_⟩
        rw [hstart, Option.any_some, if_pos (decide_eq_true hpassed)]
      · rw [Option.any_some, if_neg (by rwa [decide_eq_true_iff])] at hstart
        refine .inr ⟨_, rfl, rfl, hstart, .inl ⟨Timer.expiry deadline, rfl, fun later hover => ?_⟩⟩
        simp only [Waiter.poll, htake, Option.any_some, decide_eq_true hover, if_true]

end Bulkhead

namespace Stack
variable {ε ν : Type}

/-- What a call is told when its waiting is over. -/
def Entry.ofAnswer : Hold ⊕ Error → Entry
  | .inl h => .admitted h
  | .inr e => .refused e

namespace Layer

theorem ofReservation_inl (l : Limiter) (granted : Bool) :
    ofReservation l (.inl granted) =
      .ofAnswer (if granted then .inl .nothing else .inr l.refusal) := by
  cases granted <;> rfl

theorem ofPermit_inl (hold : Hold) (e : Error) (acquired : Bool) :
    ofPermit hold e (.inl acquired) = .ofAnswer (if acquired then .inl hold else .inr e) := by
  cases acquired <;> rfl

variable [Timer] {now timer : Nat}

/-- How a call that blocks its thread comes to the answer of a layer, in the steps of a call that
may be suspended. -/
inductive ComesThrough (layer : Layer ε ν) (now timer : Nat) :
    Layer ε ν × List Report × (Hold ⊕ Error) × Duration → Prop
  | atOnce {m : Layer ε ν} {reports : List Report} {answer : Hold ⊕ Error}
    (henter : layer.enter now timer = (m, reports, .ofAnswer answer)) :
    ComesThrough layer now timer (m, reports, answer, .zero)
  /-- It sleeps, and is answered when it wakes up. -/
  | wakes {k m : Layer ε ν} {first rest : List Report} {wait : Wait} {due : Nat}
    {answer : Hold ⊕ Error} {slept : Duration}
    (henter : layer.enter now timer = (k, first, .waiting wait)) (hdue : wait.due = some due)
    (hresume : ∀ later timer, due ≤ timer →
      k.resume later timer wait = (m, rest, .ofAnswer answer)) :
    ComesThrough layer now timer (m, first ++ rest, answer, slept)
  /-- It would wait for what no timer brings. -/
  | cutOff {k : Layer ε ν} {first : List Report} {wait : Wait}
    (henter : layer.enter now timer = (k, first, .waiting wait)) (hnever : wait.due = none) :
    ComesThrough layer now timer (k, first, .inr k.refusal, .zero)

theorem breaker_comesThrough (b : Breaker ε ν) :
    ComesThrough (breaker b) now timer ((breaker b).enterBlocking now timer) := by
  simp only [enterBlocking]
  refine .atOnce ?_
  simp only [enter]
  cases (b.tryAcquire now).2.2 <;> rfl

theorem limiter_comesThrough (l : Limiter) :
    ComesThrough (limiter l : Layer ε ν) now timer
      ((limiter l : Layer ε ν).enterBlocking now timer) := by
  simp only [enterBlocking]
  rcases l.start_request now timer 1 with ⟨hwait, hstart⟩ | ⟨due, hstart⟩
  · rw [hwait]
    refine .atOnce ?_
    simp only [enter, hstart, ofReservation_inl]
  · rw [← List.append_nil ((l.request now 1).2.1.map Report.limiter)]
    have henter : (limiter l : Layer ε ν).enter now timer =
        (limiter { (l.request now 1).1 with waiting := (l.request now 1).1.waiting + 1 },
          (l.request now 1).2.1.map .limiter,
          .waiting (.reservation ⟨1, (l.request now 1).2.2.isGranted, due⟩)) := by
      simp only [enter, hstart]
      rfl
    refine .wakes henter rfl fun later timer hover => ?_
    simp only [resume, Limiter.Pending.poll, if_pos hover, Nat.add_sub_cancel, ofReservation_inl]

theorem bulkhead_comesThrough (b : Bulkhead) :
    ComesThrough (bulkhead b : Layer ε ν) now timer
      ((bulkhead b : Layer ε ν).enterBlocking now timer) := by
  rcases hblocked : b.acquire timer with ⟨m, events, acquired, slept⟩
  simp only [enterBlocking, hblocked]
  rcases Bulkhead.acquire_cases hblocked with
    ⟨rfl, hstart⟩ | ⟨waiter, rfl, rfl, hstart, ⟨due, hdue, hpoll⟩ | ⟨hnever, rfl, rfl⟩⟩
  · refine .atOnce ?_
    simp only [enter, hstart, ofPermit_inl]
  · have henter : (bulkhead m : Layer ε ν).enter now timer =
        (bulkhead m, [], .waiting (.permit waiter)) := by
      simp only [enter, hstart]
      rfl
    refine .wakes henter hdue fun later timer hover => ?_
    simp only [resume, hpoll timer hover, ofPermit_inl]
  · exact .cutOff (by simp only [enter, hstart]; rfl) hnever

theorem adaptive_comesThrough (a : Adaptive ε) :
    ComesThrough (adaptive a : Layer ε ν) now timer
      ((adaptive a : Layer ε ν).enterBlocking now timer) := by
  rcases hblocked : a.bulkhead.acquire timer with ⟨m, events, acquired, slept⟩
  simp only [enterBlocking, Adaptive.acquire, hblocked]
  rcases Bulkhead.acquire_cases hblocked with
    ⟨rfl, hstart⟩ | ⟨waiter, rfl, rfl, hstart, ⟨due, hdue, hpoll⟩ | ⟨hnever, rfl, rfl⟩⟩
  · refine .atOnce ?_
    simp only [enter, Adaptive.start, hstart, ofPermit_inl]
  · have henter : (adaptive a : Layer ε ν).enter now timer =
        (adaptive a, [], .waiting (.permit waiter)) := by
      simp only [enter, Adaptive.start, hstart]
      rfl
    refine .wakes henter hdue fun later timer hover => ?_
    simp only [resume, Adaptive.poll, hpoll timer hover, ofPermit_inl, Bool.false_eq_true, if_false]
  · exact .cutOff (by simp only [enter, Adaptive.start, hstart]; rfl) hnever

/-- **The two doors of a layer agree.** A call that blocks its thread is answered like a call that
may be suspended and that nobody comes before: at once, or when its time has come. If no time ever
comes, it is turned away. -/
theorem comesThrough (layer : Layer ε ν) (now timer : Nat) :
    ComesThrough layer now timer (layer.enterBlocking now timer) := by
  cases layer with
  | breaker b => exact breaker_comesThrough b
  | limiter l => exact limiter_comesThrough l
  | bulkhead b => exact bulkhead_comesThrough b
  | adaptive a => exact adaptive_comesThrough a
  | retry r => exact .atOnce rfl

end Layer

end Stack

end FaultTolerance
