import Mathlib.Logic.Relation
import FaultTolerance.Stack.Action
import FaultTolerance.Stack.Blocking
import FaultTolerance.Stack.Suspended

/-! What calls do to the instances that they run through.

A call does one thing after the other with one layer after the other (`Deal`), and in between its
operation runs and time passes. What every deal keeps of a layer is kept in every world that is
reached in such steps (`Reaches.all`). What one attempt inside a layer comes to is stated case by
case for calls that block (`around`) and for calls that are suspended (`surround`). -/
namespace FaultTolerance

namespace Retry
variable {ε ν : Type} [Fault ε] (r : Retry ε ν) (attempts : Nat) (outcome : Except ε ν)

theorem onOutcome_config : (r.onOutcome attempts outcome).1.config = r.config := by
  cases outcome <;> simp only [onOutcome, onResult, onError, retryOrGiveUp] <;>
    (repeat' split) <;> rfl

/-- Another attempt is decided on only while there is one left, and nothing is counted for it. -/
theorem onOutcome_retry {r m : Retry ε ν} {attempts : Nat} {outcome : Except ε ν}
    {events : List Event} {wait : Duration}
    (h : r.onOutcome attempts outcome = (m, events, .retry wait)) :
    m = { r with draws := r.draws.drop 1 } ∧ attempts < r.config.maxAttempts := by
  have hgiveUp (text : String)
      (h : r.retryOrGiveUp attempts text = (m, events, .retry wait)) :
      m = { r with draws := r.draws.drop 1 } ∧ attempts < r.config.maxAttempts := by
    simp only [retryOrGiveUp] at h
    split at h
    case isTrue hleft =>
      cases h
      exact ⟨rfl, hleft⟩
    case isFalse => cases h
  cases outcome with
  | ok v =>
    simp only [onOutcome, onResult] at h
    (repeat' split at h) <;> first | exact hgiveUp _ h | cases h
  | error e =>
    simp only [onOutcome, onError] at h
    (repeat' split at h) <;> first | exact hgiveUp _ h | cases h

end Retry

namespace Stack

/-- What is done with a layer: by a call, or by hand. -/
inductive Deal (ε ν : Type) where
  | enter
  | resume (timer : Nat) (wait : Wait)
  | cancel (wait : Wait)
  | leave (h : Hold) (outcome : Except ε ν)
  | abandon (h : Hold)
  | act (action : Action ε ν)

/-- Whether it is a call that deals with the layer. -/
def Deal.isOfCall {ε ν : Type} : Deal ε ν → Bool
  | act _ => false
  | _ => true

/-- The five primitives. -/
inductive Kind where
  | breaker
  | limiter
  | bulkhead
  | adaptive
  | retry
  deriving DecidableEq, Repr

/-- What a call at the door of a layer may wait for. -/
def Wait.isAtDoorOf : Wait → Kind → Bool
  | reservation _, .limiter => true
  | permit _, .bulkhead | permit _, .adaptive => true
  | _, _ => false

/-- Whether it is the wait between two attempts. -/
def Wait.isBackoff : Wait → Bool
  | backoff .. => true
  | _ => false

theorem Wait.eq_backoff {wait : Wait} (h : wait.isBackoff) : ∃ n due, wait = backoff n due := by
  cases wait with
  | backoff n due => exact ⟨n, due, rfl⟩
  | reservation _ | permit _ => cases h

theorem Wait.not_isBackoff {wait : Wait} {kind : Kind} (h : wait.isAtDoorOf kind) :
    wait.isBackoff = false := by
  cases wait with
  | backoff _ _ => cases h
  | reservation _ | permit _ => rfl

namespace Layer
variable {ε ν : Type}

def kind : Layer ε ν → Kind
  | breaker _ => .breaker
  | limiter _ => .limiter
  | bulkhead _ => .bulkhead
  | adaptive _ => .adaptive
  | retry _ => .retry

section Deals
variable [Timer] [Fault ε]

/-- The layer after a deal, and what it reports. -/
def deal (now timer : Nat) : Deal ε ν → Layer ε ν → Layer ε ν × List Report
  | .enter, layer => ((layer.enter now timer).1, (layer.enter now timer).2.1)
  | .resume timer wait, layer =>
    ((layer.resume now timer wait).1, (layer.resume now timer wait).2.1)
  | .cancel wait, layer => (layer.cancel wait, [])
  | .leave h outcome, layer => ((layer.leave now h outcome).1, (layer.leave now h outcome).2.1)
  | .abandon h, layer => layer.abandon h
  | .act action, layer => ((layer.act now action).1, (layer.act now action).2.1)

theorem kind_deal (layer : Layer ε ν) (now timer : Nat) (d : Deal ε ν) :
    (layer.deal now timer d).1.kind = layer.kind := by
  cases layer <;> cases d <;> simp only [deal, enter, resume, cancel, leave, abandon, act] <;>
    (repeat' split) <;> rfl

theorem patience_deal (layer : Layer ε ν) (now timer : Nat) (d : Deal ε ν) :
    (layer.deal now timer d).1.patience = layer.patience := by
  cases layer with
  | breaker _ | limiter _ | bulkhead _ | adaptive _ =>
    cases d <;> simp only [deal, enter, resume, cancel, leave, abandon, act] <;>
      (repeat' split) <;> rfl
  | retry r =>
    cases d with
    | enter | cancel _ | abandon _ => rfl
    | resume timer wait => cases wait <;> rfl
    | leave h outcome =>
      cases h with
      | attempts count =>
        have hconfig := r.onOutcome_config (count + 1) outcome
        simp only [deal, leave]
        split <;> next heq => rw [heq] at hconfig; exact congrArg (·.maxAttempts) hconfig
      | nothing | admission _ | permit | inFlight _ => rfl
    | act action =>
      cases action with
      | attempt attempts outcome =>
        exact congrArg (·.maxAttempts) (r.onOutcome_config attempts outcome)
      | _ => rfl

omit [Timer] in
/-- Only a retry sends a call in again, while it has attempts left. It uses a draw for the wait. -/
theorem leave_again {layer m : Layer ε ν} {now n : Nat} {h : Hold} {outcome : Except ε ν}
    {reports : List Report} {wait : Duration}
    (hleave : layer.leave now h outcome = (m, reports, .again n wait)) :
    ∃ r count, layer = .retry r ∧ h = .attempts count ∧ n = count + 1 ∧
      n < r.config.maxAttempts ∧ m = .retry { r with draws := r.draws.drop 1 } := by
  cases layer with
  | retry r =>
    cases h with
    | attempts count =>
      simp only [leave] at hleave
      split at hleave
      case h_1 k events wait hdecided =>
        cases hleave
        obtain ⟨rfl, hleft⟩ := Retry.onOutcome_retry hdecided
        exact ⟨_, count, rfl, rfl, rfl, hleft, rfl⟩
      case h_2 => cases hleave
    | nothing | admission _ | permit | inFlight _ => cases hleave
  | adaptive a =>
    cases h <;> simp only [leave] at hleave
    case inFlight start =>
      cases hsettled : (a.onOutcome now (since start now) outcome).2.2 <;>
        simp [hsettled] at hleave
    all_goals cases hleave
  | breaker b => cases h <;> cases hleave
  | limiter _ | bulkhead _ => cases hleave

end Deals

theorem ofReservation_waiting {l : Limiter} {answer : Bool ⊕ Limiter.Pending} {wait : Wait}
    (h : ofReservation l answer = .waiting wait) :
    ∃ p, answer = .inr p ∧ wait = .reservation p := by
  cases answer with
  | inl granted => cases granted <;> cases h
  | inr p =>
    cases h
    exact ⟨p, rfl, rfl⟩

theorem ofPermit_waiting {hold : Hold} {e : Error} {answer : Bool ⊕ Bulkhead.Waiter} {wait : Wait}
    (h : ofPermit hold e answer = .waiting wait) : ∃ w, answer = .inr w ∧ wait = .permit w := by
  cases answer with
  | inl granted => cases granted <;> cases h
  | inr w =>
    cases h
    exact ⟨w, rfl, rfl⟩

theorem pending_poll_waiting {p q : Limiter.Pending} {l : Limiter} {timer : Nat}
    (h : (p.poll l timer).2 = .inr q) : q = p ∧ timer < p.due := by
  simp only [Limiter.Pending.poll] at h
  split at h
  case isTrue => cases h
  case isFalse hearly =>
    cases h
    exact ⟨rfl, Nat.lt_of_not_le hearly⟩

theorem lt_of_not_any_le {deadline? : Option Nat} {wake : Nat → Nat} {timer due : Nat}
    (hearly : ¬ (deadline?.any fun deadline => wake deadline ≤ timer) = true)
    (hdue : deadline?.map wake = some due) : timer < due := by
  cases deadline? with
  | none => cases hdue
  | some deadline =>
    cases hdue
    exact Nat.lt_of_not_le fun hle => hearly (decide_eq_true hle)

variable [Timer]

theorem waiter_poll_waiting {w v : Bulkhead.Waiter} {b : Bulkhead} {timer : Nat}
    (h : (w.poll b timer).2.2 = .inr v) :
    v = w ∧ ∀ due, (Wait.permit w).due = some due → timer < due := by
  simp only [Bulkhead.Waiter.poll] at h
  split at h
  · cases h
  · split at h
    case isTrue => cases h
    case isFalse hearly =>
      cases h
      exact ⟨rfl, fun due hdue => lt_of_not_any_le hearly hdue⟩

/-- Whoever has to wait at the door waits for the layer. -/
theorem enter_waiting {layer : Layer ε ν} {now timer : Nat} {wait : Wait}
    (h : (layer.enter now timer).2.2 = .waiting wait) : wait.isAtDoorOf layer.kind := by
  cases layer with
  | breaker b =>
    simp only [enter] at h
    split at h <;> cases h
  | limiter l =>
    rcases hstart : l.start now timer 1 with ⟨k, events, answer⟩
    simp only [enter, hstart] at h
    obtain ⟨_, _, rfl⟩ := ofReservation_waiting h
    rfl
  | bulkhead b =>
    rcases hstart : b.start timer with ⟨k, events, answer⟩
    simp only [enter, hstart] at h
    obtain ⟨_, _, rfl⟩ := ofPermit_waiting h
    rfl
  | adaptive a =>
    rcases hstart : a.start timer with ⟨k, notices, answer⟩
    simp only [enter, hstart] at h
    obtain ⟨_, _, rfl⟩ := ofPermit_waiting h
    rfl
  | retry r => cases h

/-- Whoever goes on waiting waits for the same, and at the door its time has not come. -/
theorem resume_waiting {layer : Layer ε ν} {now timer : Nat} {wait next : Wait}
    (h : (layer.resume now timer wait).2.2 = .waiting next) :
    next = wait ∧ (wait.isAtDoorOf layer.kind → ∀ due, wait.due = some due → timer < due) := by
  have hother {a b : Wait} (h : Entry.waiting a = .waiting b) (hnot : ¬ a.isAtDoorOf layer.kind) :
      b = a ∧ (a.isAtDoorOf layer.kind → ∀ due, a.due = some due → timer < due) := by
    cases h
    exact ⟨rfl, fun hdoor => absurd hdoor hnot⟩
  cases layer with
  | breaker _ => cases wait <;> exact hother h nofun
  | retry r =>
    cases wait with
    | reservation _ | permit _ => exact hother h nofun
    | backoff n due =>
      simp only [resume] at h
      split at h
      case isTrue => cases h
      case isFalse => exact hother h nofun
  | limiter l =>
    cases wait with
    | reservation p =>
      rcases hpoll : p.poll l timer with ⟨k, answer⟩
      simp only [resume, hpoll] at h
      obtain ⟨q, rfl, rfl⟩ := ofReservation_waiting h
      obtain ⟨rfl, hearly⟩ := pending_poll_waiting (congrArg Prod.snd hpoll)
      refine ⟨rfl, fun _ due hdue => ?_⟩
      cases hdue
      exact hearly
    | permit _ | backoff _ _ => exact hother h nofun
  | bulkhead b =>
    cases wait with
    | permit w =>
      rcases hpoll : w.poll b timer with ⟨k, events, answer⟩
      simp only [resume, hpoll] at h
      obtain ⟨v, rfl, rfl⟩ := ofPermit_waiting h
      obtain ⟨rfl, hearly⟩ := waiter_poll_waiting (congrArg (·.2.2) hpoll)
      exact ⟨rfl, fun _ => hearly⟩
    | reservation _ | backoff _ _ => exact hother h nofun
  | adaptive a =>
    cases wait with
    | permit w =>
      rcases hpoll : w.poll a.bulkhead timer with ⟨k, events, answer⟩
      simp only [resume, Adaptive.poll, hpoll] at h
      obtain ⟨v, rfl, rfl⟩ := ofPermit_waiting h
      obtain ⟨rfl, hearly⟩ := waiter_poll_waiting (congrArg (·.2.2) hpoll)
      exact ⟨rfl, fun _ => hearly⟩
    | reservation _ | backoff _ _ => exact hother h nofun

/-- The wait between two attempts changes no layer, and only a retry ends it. -/
theorem resume_backoff (layer : Layer ε ν) (now timer n due : Nat) :
    layer.resume now timer (.backoff n due) = (layer, [], .waiting (.backoff n due)) ∨
      layer.resume now timer (.backoff n due) = (layer, [], .admitted (.attempts n)) := by
  cases layer with
  | retry r =>
    by_cases hdue : due ≤ timer
    · exact .inr (by simp only [resume, if_pos hdue])
    · exact .inl (by simp only [resume, if_neg hdue])
  | breaker _ | limiter _ | bulkhead _ | adaptive _ => exact .inl rfl

end Layer

theorem Ending.eq_panicked {ε ν : Type} {e : Ending ε ν} (h : e.outcome? = none) :
    e = .panicked := by
  cases e with
  | returned _ | failed _ => cases h
  | panicked => rfl

namespace World
variable {ε ν : Type}

/-! ### The parts of a world -/

def setTimer (w : World ε ν) (timer : Nat) : World ε ν := { w with timer }

def setClock (w : World ε ν) (clock : Clock) : World ε ν := { w with clock }

section Parts
variable (w : World ε ν) (i timer : Nat) (layer : Layer ε ν) (reports : List Report) (d : Duration)

@[simp] theorem put_layers : (w.put i layer reports).layers = w.layers.set i layer := rfl

@[simp] theorem setTimer_layers : (w.setTimer timer).layers = w.layers := rfl

theorem pass_eq : ∃ clock, w.pass d = w.setClock clock := by
  by_cases h : w.live = true ∧ d ≠ .zero
  · exact ⟨w.clock.advance d, if_pos h⟩
  · exact ⟨w.clock, if_neg h⟩

@[simp] theorem pass_zero : w.pass .zero = w := if_neg fun h => h.2 rfl

end Parts

section Present
variable {w : World ε ν} {i : Nat} {layer : Layer ε ν} (hi : w.layers[i]? = some layer)
include hi

theorem enter_of_getElem? [Timer] :
    w.enter i = (w.put i (layer.enter w.now w.timer).1 (layer.enter w.now w.timer).2.1,
      (layer.enter w.now w.timer).2.2) := by
  simp only [enter, hi]

theorem resumeAt_of_getElem? [Timer] (timer : Nat) (wait : Wait) :
    w.resumeAt i timer wait =
      (w.put i (layer.resume w.now timer wait).1 (layer.resume w.now timer wait).2.1,
        (layer.resume w.now timer wait).2.2) := by
  simp only [resumeAt, hi]

theorem leave_of_getElem? [Fault ε] (h : Hold) (outcome : Except ε ν) :
    w.leave i h outcome =
      (w.put i (layer.leave w.now h outcome).1 (layer.leave w.now h outcome).2.1,
        (layer.leave w.now h outcome).2.2) := by
  simp only [leave, hi]

end Present

/-- Every instance has a property, which may depend on its position. -/
def All (Q : Nat → Layer ε ν → Prop) (w : World ε ν) : Prop :=
  ∀ i layer, w.layers[i]? = some layer → Q i layer

theorem All.put {Q : Nat → Layer ε ν → Prop} {w : World ε ν} (h : w.All Q) {i : Nat}
    {layer : Layer ε ν} (hlayer : Q i layer) (reports : List Report) :
    (w.put i layer reports).All Q := by
  intro j other hj
  rw [put_layers, List.getElem?_set] at hj
  split at hj
  case isTrue hij =>
    split at hj
    · cases hj
      exact hij ▸ hlayer
    · cases hj
  case isFalse => exact h j other hj

variable [Timer] [Fault ε]

/-- Deals with the layer at a position, if there is one. -/
def deal (w : World ε ν) (i : Nat) (d : Deal ε ν) : World ε ν :=
  match w.layers[i]? with
  | none => w
  | some layer => w.put i (layer.deal w.now w.timer d).1 (layer.deal w.now w.timer d).2

theorem deal_runs (w : World ε ν) (i : Nat) (d : Deal ε ν) : (w.deal i d).runs = w.runs := by
  simp only [deal]
  cases w.layers[i]? <;> rfl

theorem deal_getElem?_self (w : World ε ν) (i : Nat) (d : Deal ε ν) :
    (w.deal i d).layers[i]? = w.layers[i]?.map fun layer => (layer.deal w.now w.timer d).1 := by
  simp only [deal]
  cases hi : w.layers[i]? with
  | none => exact hi
  | some layer =>
    obtain ⟨hlt, -⟩ := List.getElem?_eq_some_iff.mp hi
    rw [put_layers, List.getElem?_set_self hlt, Option.map_some]

theorem deal_getElem?_ne (w : World ε ν) {i j : Nat} (hij : i ≠ j) (d : Deal ε ν) :
    (w.deal i d).layers[j]? = w.layers[j]? := by
  simp only [deal]
  cases w.layers[i]? with
  | none => rfl
  | some layer => rw [put_layers, List.getElem?_set_ne hij]

section Deals
variable (w : World ε ν) (i timer : Nat) (wait : Wait) (h : Hold) (outcome : Except ε ν)
  (action : Action ε ν)

theorem enter_eq_deal : (w.enter i).1 = w.deal i .enter := by
  simp only [enter, deal]
  cases w.layers[i]? <;> rfl

theorem resumeAt_eq_deal : (w.resumeAt i timer wait).1 = w.deal i (.resume timer wait) := by
  simp only [resumeAt, deal]
  cases w.layers[i]? <;> rfl

theorem cancel_eq_deal : w.cancel i wait = w.deal i (.cancel wait) := by
  simp only [cancel, deal]
  cases w.layers[i]? <;> rfl

theorem leave_eq_deal : (w.leave i h outcome).1 = w.deal i (.leave h outcome) := by
  simp only [leave, deal]
  cases w.layers[i]? <;> rfl

theorem abandon_eq_deal : w.abandon i h = w.deal i (.abandon h) := by
  simp only [abandon, deal]
  cases w.layers[i]? <;> rfl

theorem act_eq_deal : (w.act i action).1 = w.deal i (.act action) := by
  simp only [act, deal]
  cases w.layers[i]? <;> rfl

variable {w i timer wait h outcome} {m : World ε ν}

theorem eq_deal_of_enter {entry : Entry} (hdoor : w.enter i = (m, entry)) :
    m = w.deal i .enter := by
  rw [← enter_eq_deal, hdoor]

theorem eq_deal_of_resumeAt {entry : Entry} (hdoor : w.resumeAt i timer wait = (m, entry)) :
    m = w.deal i (.resume timer wait) := by
  rw [← resumeAt_eq_deal, hdoor]

theorem eq_deal_of_leave {exit : Exit} (hleave : w.leave i h outcome = (m, exit)) :
    m = w.deal i (.leave h outcome) := by
  rw [← leave_eq_deal, hleave]

end Deals

/-! ### Steps -/

/-- One step of a world in which only such deals are made. -/
inductive Step (P : Deal ε ν → Prop) (w : World ε ν) : World ε ν → Prop
  | deal (i : Nat) {d : Deal ε ν} (hd : P d) : Step P w (w.deal i d)
  | run : Step P w w.beginRun
  | clock (c : Clock) : Step P w (w.setClock c)
  | timer (t : Nat) : Step P w (w.setTimer t)

/-- The worlds that are reached while only such deals are made. -/
abbrev Reaches (P : Deal ε ν → Prop) : World ε ν → World ε ν → Prop :=
  Relation.ReflTransGen (Step P)

section Reaches
variable {P : Deal ε ν → Prop} {w m : World ε ν}

theorem Reaches.weaken {P' : Deal ε ν → Prop} (hweak : ∀ d, P d → P' d) (h : Reaches P w m) :
    Reaches P' w m := by
  refine Relation.ReflTransGen.mono (fun _ _ hstep => ?_) _ _ h
  cases hstep with
  | deal i hd => exact .deal i (hweak _ hd)
  | run => exact .run
  | clock c => exact .clock c
  | timer t => exact .timer t

theorem Reaches.deal (h : Reaches P w m) (i : Nat) {d : Deal ε ν} (hd : P d) :
    Reaches P w (m.deal i d) :=
  h.tail (.deal i hd)

theorem Reaches.pass (h : Reaches P w m) (d : Duration) : Reaches P w (m.pass d) := by
  obtain ⟨clock, hpass⟩ := m.pass_eq d
  rw [hpass]
  exact h.tail (.clock clock)

theorem Step.live_eq (h : Step P w m) : m.live = w.live := by
  cases h with
  | deal i hd =>
    simp only [World.deal]
    cases w.layers[i]? <;> rfl
  | run | clock _ | timer _ => rfl

theorem Reaches.live_eq (h : Reaches P w m) : m.live = w.live := by
  induction h with
  | refl => rfl
  | tail _ hstep ih => exact hstep.live_eq.trans ih

theorem Step.all {Q : Nat → Layer ε ν → Prop}
    (hkept : ∀ now timer i (d : Deal ε ν) (layer : Layer ε ν),
      P d → Q i layer → Q i (layer.deal now timer d).1)
    (h : Step P w m) (hw : w.All Q) : m.All Q := by
  cases h with
  | @deal i d hd =>
    simp only [World.deal]
    cases hi : w.layers[i]? with
    | none => exact hw
    | some layer => exact hw.put (hkept _ _ i d layer hd (hw i layer hi)) _
  | run | clock _ | timer _ => exact hw

/-- **What every deal keeps of a layer is kept in every world that is reached.** -/
theorem Reaches.all {Q : Nat → Layer ε ν → Prop}
    (hkept : ∀ now timer i (d : Deal ε ν) (layer : Layer ε ν),
      P d → Q i layer → Q i (layer.deal now timer d).1)
    (h : Reaches P w m) (hw : w.All Q) : m.All Q := by
  induction h with
  | refl => exact hw
  | tail _ hstep ih => exact hstep.all hkept ih

/-- What no deal changes of a layer is the same in every world that is reached. -/
theorem Reaches.map_eq {α : Type} {f : Layer ε ν → α}
    (hkept : ∀ now timer (d : Deal ε ν) (layer : Layer ε ν),
      P d → f (layer.deal now timer d).1 = f layer)
    (h : Reaches P w m) : m.layers.map f = w.layers.map f := by
  induction h with
  | refl => rfl
  | @tail k m _ hstep ih =>
    rw [← ih]
    cases hstep with
    | @deal i d hd =>
      simp only [World.deal]
      cases hi : k.layers[i]? with
      | none => rfl
      | some layer =>
        obtain ⟨hlt, rfl⟩ := List.getElem?_eq_some_iff.mp hi
        simp only [put_layers, List.map_set, hkept _ _ d _ hd]
        rw [← List.getElem_map f (h := by simpa using hlt), List.set_getElem_self]
    | run | clock _ | timer _ => rfl

theorem Reaches.getElem?_map_eq {α : Type} {f : Layer ε ν → α}
    (hkept : ∀ now timer (d : Deal ε ν) (layer : Layer ε ν),
      P d → f (layer.deal now timer d).1 = f layer)
    (h : Reaches P w m) (i : Nat) : m.layers[i]?.map f = w.layers[i]?.map f := by
  rw [← List.getElem?_map, ← List.getElem?_map, h.map_eq hkept]

/-- An instance stays what it is. -/
theorem Reaches.kind_eq (h : Reaches P w m) (i : Nat) :
    m.layers[i]?.map Layer.kind = w.layers[i]?.map Layer.kind :=
  h.getElem?_map_eq (fun now timer d layer _ => layer.kind_deal now timer d) i

theorem Reaches.patience_eq (h : Reaches P w m) (i : Nat) : m.patience i = w.patience i :=
  congrArg (·.getD 0)
    (h.getElem?_map_eq (fun now timer d layer _ => layer.patience_deal now timer d) i)

end Reaches

/-! ### Calls -/

/-- What calls reach. -/
abbrev Leads : World ε ν → World ε ν → Prop := Reaches (·.isOfCall)

section Calls
variable {w m k : World ε ν} {i n : Nat} {h : Hold} {e : Ending ε ν} {outcome : Except ε ν}
  {wait : Duration}

/-! #### One attempt of a blocking call -/

section Around
omit [Timer]
variable {inner : World ε ν → World ε ν × Ending ε ν} {fuel : Nat}

theorem around_panicked (hinner : inner w = (m, .panicked)) :
    around i inner fuel h w = (m.abandon i h, .panicked) := by
  rw [around.eq_def, hinner]

theorem around_done (hinner : inner w = (m, e)) (houtcome : e.outcome? = some outcome)
    (hleave : m.leave i h outcome = (k, .done)) : around i inner fuel h w = (k, e) := by
  cases e <;> cases houtcome <;> rw [around.eq_def, hinner] <;> simp only [hleave]

theorem around_broken (hinner : inner w = (m, e)) (houtcome : e.outcome? = some outcome)
    (hleave : m.leave i h outcome = (k, .broken)) :
    around i inner fuel h w = (k, .panicked) := by
  cases e <;> cases houtcome <;> rw [around.eq_def, hinner] <;> simp only [hleave]

theorem around_again (hinner : inner w = (m, e)) (houtcome : e.outcome? = some outcome)
    (hleave : m.leave i h outcome = (k, .again n wait)) :
    around i inner (fuel + 1) h w = around i inner fuel (.attempts n) (k.pass wait) := by
  cases e <;> cases houtcome <;> rw [around.eq_def, hinner] <;> simp only [hleave]

end Around

/-! #### One attempt of a suspended call -/

section Surround
variable {inner : World ε ν → World ε ν × Progress ε ν} {fuel : Nat}

theorem surround_suspended (s : Suspended ε ν) :
    surround i inner fuel h (m, .inr s) = (m, .inr (.within h s)) := by
  rw [surround.eq_def]

theorem surround_panicked :
    surround i inner fuel h (m, .inl .panicked) = (m.abandon i h, .inl .panicked) := by
  rw [surround.eq_def]

theorem surround_done (houtcome : e.outcome? = some outcome)
    (hleave : m.leave i h outcome = (k, .done)) :
    surround i inner fuel h (m, .inl e) = (k, .inl e) := by
  cases e <;> cases houtcome <;> rw [surround.eq_def] <;> simp only [hleave]

theorem surround_broken (houtcome : e.outcome? = some outcome)
    (hleave : m.leave i h outcome = (k, .broken)) :
    surround i inner fuel h (m, .inl e) = (k, .inl .panicked) := by
  cases e <;> cases houtcome <;> rw [surround.eq_def] <;> simp only [hleave]

theorem surround_again (houtcome : e.outcome? = some outcome)
    (hleave : m.leave i h outcome = (k, .again n wait))
    (hover : Timer.wakeAt k.timer wait ≤ k.timer) :
    surround i inner (fuel + 1) h (m, .inl e) =
      surround i inner fuel (.attempts n) (inner k) := by
  cases e <;> cases houtcome <;> rw [surround.eq_def] <;> simp only [hleave, if_pos hover]

theorem surround_waits (houtcome : e.outcome? = some outcome)
    (hleave : m.leave i h outcome = (k, .again n wait))
    (hwaits : ¬ Timer.wakeAt k.timer wait ≤ k.timer) :
    surround i inner fuel h (m, .inl e) =
      (k, .inr (.waiting (.backoff n (Timer.wakeAt k.timer wait)))) := by
  cases e <;> cases houtcome <;> rw [surround.eq_def] <;> simp only [hleave, if_neg hwaits]

end Surround

/-! #### Where calls lead -/

section Leads

omit [Timer] [Fault ε] in
/-- A layer that is put back changes nothing. -/
theorem put_self {layer : Layer ε ν} (hlayer : w.layers[i]? = some layer) :
    w.put i layer [] = w := by
  obtain ⟨hlt, rfl⟩ := List.getElem?_eq_some_iff.mp hlayer
  simp only [put, List.set_getElem_self, List.map_nil, List.append_nil]

omit [Fault ε] in
theorem resumeAt_backoff (w : World ε ν) (i timer n due : Nat) :
    w.resumeAt i timer (.backoff n due) = (w, .waiting (.backoff n due)) ∨
      w.resumeAt i timer (.backoff n due) = (w, .admitted (.attempts n)) := by
  cases hi : w.layers[i]? with
  | none => exact .inl (by simp only [resumeAt, hi])
  | some layer =>
    rcases layer.resume_backoff w.now timer n due with hresume | hresume
    · exact .inl (by simp only [resumeAt, hi, hresume, put_self hi])
    · exact .inr (by simp only [resumeAt, hi, hresume, put_self hi])

omit [Timer] [Fault ε] in
theorem cancel_backoff (w : World ε ν) (i n due : Nat) : w.cancel i (.backoff n due) = w := by
  cases hi : w.layers[i]? with
  | none => simp only [cancel, hi]
  | some layer => cases layer <;> simp only [cancel, hi, Layer.cancel, put_self hi]

omit [Timer] in
/-- Only a retry sends a call in again, and nothing of it changes but the draws that it has left. -/
theorem leave_again (hleave : w.leave i h outcome = (m, .again n wait)) :
    ∃ count r, h = .attempts count ∧ n = count + 1 ∧ n < w.patience i ∧
      w.layers[i]? = some (.retry r) ∧
      m.layers = w.layers.set i (.retry { r with draws := r.draws.drop 1 }) := by
  cases hi : w.layers[i]? with
  | none => simp [leave, hi] at hleave
  | some layer =>
    obtain ⟨rfl, hexit⟩ := Prod.mk.inj ((leave_of_getElem? hi h outcome).symm.trans hleave)
    rcases hleft : layer.leave w.now h outcome with ⟨next, reports, exit⟩
    rw [hleft] at hexit
    cases hexit
    obtain ⟨r, count, rfl, rfl, rfl, hpatience, rfl⟩ := Layer.leave_again hleft
    refine ⟨count, r, rfl, rfl, ?_, rfl, rfl⟩
    simp only [patience, hi, Option.map_some, Option.getD_some]
    exact hpatience

omit [Fault ε] in
/-- A retry ends the wait between two attempts when it is over. -/
theorem resumeAt_over {timer due : Nat} (hretry : w.layers[i]?.map Layer.kind = some .retry)
    (hover : due ≤ timer) :
    w.resumeAt i timer (.backoff n due) = (w, .admitted (.attempts n)) := by
  obtain ⟨layer, hi, hkind⟩ := Option.map_eq_some_iff.mp hretry
  cases layer with
  | retry r => simp only [resumeAt, hi, Layer.resume, if_pos hover, put_self hi]
  | breaker _ | limiter _ | bulkhead _ | adaptive _ => cases hkind

theorem enter_leads (w : World ε ν) (i : Nat) : Leads w (w.enter i).1 := by
  rw [enter_eq_deal]
  exact .single (.deal i rfl)

theorem resumeAt_leads (w : World ε ν) (i timer : Nat) (wait : Wait) :
    Leads w (w.resumeAt i timer wait).1 := by
  rw [resumeAt_eq_deal]
  exact .single (.deal i rfl)

theorem cancel_leads (w : World ε ν) (i : Nat) (wait : Wait) : Leads w (w.cancel i wait) := by
  rw [cancel_eq_deal]
  exact .single (.deal i rfl)

theorem leave_leads (w : World ε ν) (i : Nat) (h : Hold) (outcome : Except ε ν) :
    Leads w (w.leave i h outcome).1 := by
  rw [leave_eq_deal]
  exact .single (.deal i rfl)

theorem left_leads {exit : Exit} (hleave : w.leave i h outcome = (m, exit)) : Leads w m :=
  (congrArg Prod.fst hleave).subst (w.leave_leads i h outcome)

theorem abandon_leads (w : World ε ν) (i : Nat) (h : Hold) : Leads w (w.abandon i h) := by
  rw [abandon_eq_deal]
  exact .single (.deal i rfl)

theorem endRun_leads (w : World ε ν) (run : Run ε ν) : Leads w (w.endRun run).1 :=
  .single (.clock _)

end Leads

end Calls

end World

end Stack

end FaultTolerance
