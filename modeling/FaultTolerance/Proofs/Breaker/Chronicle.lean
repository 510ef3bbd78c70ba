import FaultTolerance.Proofs.Breaker.Calls

/-! What is done to a breaker, and what it reports of it.

A chronicle has one entry for each act: when it was done, in which state, what the breaker reported
and what it answered. `Effect` lists what an act can do. Of the state of a breaker an act changes
nothing, or takes it along one transition or two (`Course`), and the links of that course are the
changes of state that are reported (`Effect.course`); what is proved of a chronicle elsewhere is
proved by cases on these. -/
namespace FaultTolerance.Breaker
variable {ε ν : Type}

/-! ### Acts -/

/-- What is done to a breaker. -/
inductive Act (ε ν : Type) where
  /-- Asks for admission. -/
  | ask
  /-- Reports how a call ended, or gives its admission back. -/
  | report (ending : Ending ε ν)
  | force (target : State)
  | reset
  /-- Reads the metrics. -/
  | look

structure Deed (ε ν : Type) where
  /-- The reading of the clock. -/
  now : Nat
  act : Act ε ν

/-- The transition that an act asks for. -/
def Act.request? : Act ε ν → Option Trigger
  | force target => some (.force target)
  | reset => some .reset
  | ask | report _ | look => none

def Act.isReset : Act ε ν → Bool
  | reset => true
  | _ => false

/-- What an act reports after the change of state that it asks for. -/
def Act.closing : Act ε ν → List Event
  | reset => [.reset]
  | _ => []

/-- What is kept of an outcome. -/
def Config.measure (c : Config ε ν) (elapsed : Duration) (failed : Bool) : Measurement :=
  ⟨.classify failed (c.slowCallDuration.nanos ≤ elapsed.nanos), elapsed⟩

/-- What is kept of an ending. An ignored error counts as nothing, a returned value and any other
error count as failed or not as the configuration has it. -/
def Ending.measurement? (c : Config ε ν) : Ending ε ν → Option Measurement
  | success elapsed => some (c.measure elapsed false)
  | error elapsed e =>
    if c.isIgnored e then none else some (c.measure elapsed (c.isRecordedFailure e))
  | result elapsed v => some (c.measure elapsed (c.isFailedResult v))
  | release => none

/-- What is kept of an act. -/
def Act.measurement? (c : Config ε ν) : Act ε ν → Option Measurement
  | report ending => ending.measurement? c
  | ask | force _ | reset | look => none

/-- Whether an event tells how a call ended. -/
def Event.isOutcome : Event → Bool
  | success .. | error .. | ignoredError .. => true
  | _ => false

/-- The breaker after an act, what it reports and what it answers to a request for admission. -/
def act [Fault ε] (b : Breaker ε ν) (now : Nat) : Act ε ν → Breaker ε ν × List Event × Option Bool
  | .ask =>
    let (b, events, admitted) := b.tryAcquire now
    (b, events, some admitted)
  | .report ending =>
    let (b, events) := ending.apply b now
    (b, events, none)
  | .force target =>
    let (b, events) := b.force now target
    (b, events, none)
  | .reset =>
    let (b, events) := b.reset now
    (b, events, none)
  | .look => (b.refresh now, [], none)

theorem act_force [Fault ε] (b : Breaker ε ν) (now : Nat) (target : State) :
    b.act now (.force target) = ((b.force now target).1, (b.force now target).2, none) := rfl

theorem act_reset [Fault ε] (b : Breaker ε ν) (now : Nat) :
    b.act now .reset = ((b.reset now).1, (b.reset now).2, none) := rfl

/-! ### What an act can do -/

/-- What can become of a breaker that something is done to, and what it reports and answers. -/
inductive Effect (b : Breaker ε ν) (now : Nat) :
    Act ε ν → Breaker ε ν → List Event → Option Bool → Prop
  | asked {m events admitted} (h : Admission b now m events admitted) :
    Effect b now .ask m events (some admitted)
  /-- The admission of a call is given back. -/
  | returned {ending events} (hnone : ending.measurement? b.config = none)
    (hevents : ∀ e ∈ events, e.isOutcome) : Effect b now (.report ending) b.release events none
  | reported {ending x event m events} (hx : ending.measurement? b.config = some x)
    (hevent : event.isOutcome) (h : Recording b now x event m events) :
    Effect b now (.report ending) m events none
  | moved {a trigger target} (hrequest : a.request? = some trigger)
    (htarget : transition b.state trigger = some target) :
    Effect b now a (b.moved now trigger target) (b.changeEvents target ++ a.closing) none
  /-- The state that is asked for is the current one. -/
  | idle : Effect b now (.force b.state) b [] none
  | looked : Effect b now .look (b.refresh now) [] none

theorem Ending.apply_effect [Fault ε] {b : Breaker ε ν} (hc : b.config.Sound) (now : Nat)
    (ending : Ending ε ν) :
    Effect b now (.report ending) (ending.apply b now).1 (ending.apply b now).2 none := by
  cases ending with
  | success elapsed => exact .reported rfl rfl (record_recording hc now elapsed false _)
  | error elapsed e =>
    have happly : (error elapsed e : Ending ε ν).apply b now = b.onError now elapsed e := rfl
    rw [happly]
    unfold onError
    by_cases hignored : b.config.isIgnored e = true
    · rw [if_pos hignored]
      exact .returned (if_pos hignored) (by simp [Event.isOutcome])
    · have hx (failed : Bool) (hfailed : b.config.isRecordedFailure e = failed) :
          (error elapsed e : Ending ε ν).measurement? b.config =
            some (b.measured elapsed failed) := by
        rw [← hfailed]
        exact if_neg hignored
      rw [if_neg hignored]
      cases hfailed : b.config.isRecordedFailure e with
      | true => exact .reported (hx true hfailed) rfl (record_recording hc now elapsed true _)
      | false => exact .reported (hx false hfailed) rfl (record_recording hc now elapsed false _)
  | result elapsed v =>
    have happly : (result elapsed v : Ending ε ν).apply b now = b.onResult now elapsed v := rfl
    have hx (failed : Bool) (hfailed : b.config.isFailedResult v = failed) :
        (result elapsed v : Ending ε ν).measurement? b.config =
          some (b.measured elapsed failed) := by
      rw [← hfailed]
      rfl
    rw [happly]
    unfold onResult
    cases hfailed : b.config.isFailedResult v with
    | true => exact .reported (hx true hfailed) rfl (record_recording hc now elapsed true _)
    | false => exact .reported (hx false hfailed) rfl (record_recording hc now elapsed false _)
  | release => exact .returned rfl nofun

theorem transition_force {state target : State} (h : state ≠ target) :
    transition state (.force target) = some target := by
  cases state <;> cases target <;> first | rfl | exact absurd rfl h

theorem transition_force_self (state : State) : transition state (.force state) = none := by
  cases state <;> rfl

theorem of_transition_force {state wanted target : State}
    (h : transition state (.force wanted) = some target) : target = wanted ∧ state ≠ wanted := by
  by_cases hsame : state = wanted
  · rw [hsame, transition_force_self] at h
    cases h
  · rw [transition_force hsame] at h
    exact ⟨(Option.some.inj h).symm, hsame⟩

theorem transition_reset (state : State) : transition state .reset = some .closed := by
  cases state <;> rfl

/-- Asking for the current state does nothing. -/
theorem force_state {b : Breaker ε ν} (hc : b.config.Sound) (now : Nat) :
    b.force now b.state = (b, []) :=
  moveIf_of_none now _ hc (transition_force_self _) none

/-- **Every act has one of these effects.** -/
theorem act_effect [Fault ε] {b : Breaker ε ν} (hc : b.config.Sound) (now : Nat) (a : Act ε ν) :
    Effect b now a (b.act now a).1 (b.act now a).2.1 (b.act now a).2.2 := by
  cases a with
  | ask => exact .asked (tryAcquire_admission hc)
  | report ending => exact ending.apply_effect hc now
  | force target =>
    rw [act_force]
    by_cases hsame : b.state = target
    · subst hsame
      rw [force_state hc]
      exact .idle
    · have htarget := transition_force hsame
      have hforce : b.force now target =
          (b.moved now (.force target) target, b.changeEvents target ++ []) := by
        unfold force
        rw [moveIf_of_transition now _ hc htarget, List.append_nil]
        rfl
      rw [hforce]
      exact .moved rfl htarget
  | reset =>
    have htarget := transition_reset b.state
    have hreset : b.reset now =
        (b.moved now .reset .closed, b.changeEvents .closed ++ [.reset]) := by
      unfold Breaker.reset
      rw [moveIf_of_transition now _ hc htarget]
      rfl
    rw [act_reset, hreset]
    exact .moved rfl htarget
  | look => exact .looked

/-! ### Changes of state -/

/-- A change of state that was reported. -/
structure Link where
  now : Nat
  /-- Whether a request has caused it. -/
  requested : Bool
  start : State
  target : State
  deriving DecidableEq, Repr

/-- The change of state that an event reports. -/
def Event.link? (now : Nat) (requested : Bool) : Event → Option Link
  | stateTransition start target => some ⟨now, requested, start, target⟩
  | _ => none

/-- The changes of state among some events. -/
def linksOf (now : Nat) (requested : Bool) (events : List Event) : List Link :=
  events.filterMap (Event.link? now requested)

section Links
variable {now : Nat} {requested : Bool}

@[simp] theorem linksOf_append (first later : List Event) :
    linksOf now requested (first ++ later) =
      linksOf now requested first ++ linksOf now requested later := List.filterMap_append

theorem linksOf_outcome {event : Event} (h : event.isOutcome) (rest : List Event) :
    linksOf now requested (event :: rest) = linksOf now requested rest := by
  cases event with
  | success | error | ignoredError => rfl
  | _ => cases h

theorem linksOf_outcomes {events : List Event} (h : ∀ e ∈ events, e.isOutcome) :
    linksOf now requested events = [] := by
  induction events with
  | nil => rfl
  | cons event rest ih =>
    rw [linksOf_outcome (h event (List.mem_cons_self ..))]
    exact ih fun e he => h e (List.mem_cons_of_mem _ he)

@[simp] theorem linksOf_ratesExceeded (b : Breaker ε ν) (view : Snapshot) :
    linksOf now requested (b.ratesExceeded view) = [] := by
  unfold ratesExceeded
  split <;> split <;> rfl

@[simp] theorem linksOf_breach (b : Breaker ε ν) (breach : Option Snapshot) :
    linksOf now requested ((breach.map b.ratesExceeded).getD []) = [] := by
  cases breach with
  | none => rfl
  | some view => exact linksOf_ratesExceeded b view

theorem linksOf_changeEvents {b : Breaker ε ν} {target : State} (h : b.state ≠ target) :
    linksOf now requested (b.changeEvents target) = [⟨now, requested, b.state, target⟩] := by
  unfold changeEvents
  rw [if_neg h]
  rfl

theorem linksOf_changeEvents_of_eq {b : Breaker ε ν} {target : State} (h : b.state = target) :
    linksOf now requested (b.changeEvents target) = [] := by
  unfold changeEvents
  rw [if_pos h]
  rfl

/-- An outcome that is decided on is reported with one change of state. -/
theorem linksOf_verdict {event : Event} (h : event.isOutcome) (b : Breaker ε ν)
    (breach : Option Snapshot) (start target : State) :
    linksOf now requested
      (event :: (breach.map b.ratesExceeded).getD [] ++ [.stateTransition start target]) =
        [⟨now, requested, start, target⟩] := by
  rw [List.cons_append, linksOf_outcome h, linksOf_append, linksOf_breach]
  rfl

@[simp] theorem linksOf_closing (a : Act ε ν) : linksOf now requested a.closing = [] := by
  cases a <;> rfl

end Links

/-! ### The course of an act -/

/-- No verdict is made on request. -/
theorem isRequest_of_verdict {b : Breaker ε ν} {now : Nat} {trigger : Trigger}
    (hv : b.verdict? now = some trigger) : trigger.isRequest = false := by
  unfold verdict? at hv
  split at hv <;> (repeat' split at hv) <;> cases hv <;> rfl

/-- Two breakers that differ at most in their counters and in the window. -/
structure SameState (b m : Breaker ε ν) : Prop where
  config : m.config = b.config
  state : m.state = b.state
  generation : m.cell.generation = b.cell.generation
  enteredAt : m.cell.enteredAt = b.cell.enteredAt
  openUntil : m.cell.openUntil = b.cell.openUntil
  attempts : m.cell.attempts = b.cell.attempts
  draws : m.draws = b.draws

theorem SameState.refl (b : Breaker ε ν) : SameState b b := ⟨rfl, rfl, rfl, rfl, rfl, rfl, rfl⟩

theorem SameState.release (b : Breaker ε ν) : SameState b b.release := by
  unfold Breaker.release
  split <;> constructor <;> rfl

/-- The transitions that take one breaker to another, with the changes of state and the number of
those that lead from closed to closed. -/
inductive Course (now : Nat) (requested : Bool) (b : Breaker ε ν) :
    Breaker ε ν → List Link → Nat → Prop
  | begin : Course now requested b b [] 0
  | settle {m k links n} (h : Course now requested b m links n) (hsame : SameState m k) :
    Course now requested b k links n
  | change {m links n start target} (h : Course now requested b m links n) (trigger : Trigger)
    (htrigger : trigger.isRequest = requested) (hstart : m.state = start)
    (htarget : transition start trigger = some target) (hchange : start ≠ target) :
    Course now requested b (m.moved now trigger target)
      (links ++ [⟨now, requested, start, target⟩]) n
  /-- A closed breaker is reset. -/
  | renew {m links n} (h : Course now requested b m links n) (hclosed : m.state = .closed) :
    Course now requested b (m.moved now .reset .closed) links (n + 1)

namespace Course
variable {b m : Breaker ε ν} {now : Nat} {events : List Event}

theorem of_admission {admitted : Bool} (h : Admission b now m events admitted) :
    Course now false b m (linksOf now false events) 0 := by
  cases h with
  | passed _ => exact .begin
  | forced _ | early _ _ | noProbe _ _ _ | probe _ _ _ =>
    exact .settle .begin ⟨rfl, rfl, rfl, rfl, rfl, rfl, rfl⟩
  | firstProbe hopened _ => exact .change .begin .openWaitElapsed rfl hopened rfl (by decide)
  | expired hhalf _ _ =>
    have hexpired : Course now false b _ _ 0 :=
      .change .begin .halfOpenWaitElapsed rfl hhalf rfl (by decide)
    exact .settle hexpired ⟨rfl, rfl, rfl, rfl, rfl, rfl, rfl⟩
  | renewed hhalf _ _ =>
    have hexpired : Course now false b _ _ 0 :=
      .change .begin .halfOpenWaitElapsed rfl hhalf rfl (by decide)
    exact .change hexpired .openWaitElapsed rfl rfl rfl (by decide)

theorem of_recording {x : Measurement} {event : Event} (hevent : event.isOutcome)
    (h : Recording b now x event m events) :
    Course now false b m (linksOf now false events) 0 := by
  cases h with
  | ignored _ => exact .begin
  | kept _ _ _ =>
    rw [linksOf_outcome hevent]
    exact .settle .begin ⟨rfl, rfl, rfl, rfl, rfl, rfl, rfl⟩
  | watched _ =>
    have hnone : linksOf now false (event ::
        if (b.noted now x).flagged.cell.rateExceeded && !b.cell.rateExceeded then
          (b.noted now x).ratesExceeded (b.noted now x).cell.window.view else []) = [] := by
      rw [linksOf_outcome hevent]
      split
      · exact linksOf_ratesExceeded _ _
      · rfl
    rw [hnone]
    exact .settle .begin ⟨rfl, rfl, rfl, rfl, rfl, rfl, rfl⟩
  | decided trigger target hv htarget hchange _ =>
    have hnoted : Course now false b (b.noted now x) [] 0 :=
      .settle .begin ⟨rfl, rfl, rfl, rfl, rfl, rfl, rfl⟩
    rw [linksOf_verdict hevent]
    exact .change hnoted trigger (isRequest_of_verdict hv) rfl htarget hchange

end Course

/-- The number of times that an act resets a breaker that is closed. -/
def Act.renewals (state : State) (a : Act ε ν) : Nat := (a.isReset && state = .closed).toNat

/-- **The changes of state that an act reports are those that it makes.** -/
theorem Effect.course {b m : Breaker ε ν} {now : Nat} {a : Act ε ν} {events : List Event}
    {answer : Option Bool} (h : Effect b now a m events answer) :
    Course now a.request?.isSome b m (linksOf now a.request?.isSome events)
      (a.renewals b.state) := by
  cases h with
  | asked h => exact .of_admission h
  | returned _ hevents =>
    rw [linksOf_outcomes hevents]
    exact .settle .begin (.release b)
  | reported _ hevent h => exact .of_recording hevent h
  | @moved a trigger target hrequest htarget =>
    rw [linksOf_append, linksOf_closing, List.append_nil]
    cases a with
    | ask | report _ | look => cases hrequest
    | force wanted =>
      cases hrequest
      obtain ⟨rfl, hchange⟩ := of_transition_force htarget
      rw [linksOf_changeEvents hchange]
      exact .change .begin _ rfl rfl htarget hchange
    | reset =>
      cases hrequest
      rw [transition_reset] at htarget
      cases htarget
      by_cases hclosed : b.state = .closed
      · rw [hclosed, linksOf_changeEvents_of_eq hclosed]
        exact .renew .begin hclosed
      · have hnone : (Act.reset : Act ε ν).renewals b.state = 0 := by
          unfold Act.renewals
          simp [hclosed]
        rw [hnone, linksOf_changeEvents hclosed]
        exact .change .begin _ rfl rfl (transition_reset _) hclosed
  | idle => exact .begin
  | looked => exact .settle .begin ⟨rfl, rfl, rfl, rfl, rfl, rfl, rfl⟩

theorem Course.config_eq {b m : Breaker ε ν} {now : Nat} {requested : Bool} {links : List Link}
    {n : Nat} (h : Course now requested b m links n) : m.config = b.config := by
  induction h with
  | begin => rfl
  | settle _ hsame ih => exact hsame.config.trans ih
  | change _ _ _ _ _ _ ih | renew _ _ ih => exact ih

/-! ### Chronicles -/

/-- What was done, and what came of it. -/
structure Entry (ε ν : Type) extends Deed ε ν where
  /-- The state of the breaker before it. -/
  before : State
  events : List Event
  /-- The answer to a request for admission. -/
  answer : Option Bool

/-- The changes of state that an entry tells of. -/
def Entry.links (e : Entry ε ν) : List Link := linksOf e.now e.act.request?.isSome e.events

structure Chronicle (ε ν : Type) where
  breaker : Breaker ε ν
  /-- The oldest first. -/
  entries : List (Entry ε ν) := []

/-- The changes of state that some entries tell of. -/
def linksIn (entries : List (Entry ε ν)) : List Link := entries.flatMap Entry.links

theorem linksIn_concat (entries : List (Entry ε ν)) (e : Entry ε ν) :
    linksIn (entries ++ [e]) = linksIn entries ++ e.links := by
  unfold linksIn
  rw [List.flatMap_append, List.flatMap_singleton]

namespace Chronicle

/-- Nothing has happened yet. -/
def blank (b : Breaker ε ν) : Chronicle ε ν := { breaker := b }

def links (s : Chronicle ε ν) : List Link := linksIn s.entries

/-- All events, the oldest first. -/
def events (s : Chronicle ε ν) : List Event := s.entries.flatMap (·.events)

variable [Fault ε]

def next (s : Chronicle ε ν) (d : Deed ε ν) : Chronicle ε ν :=
  let (b, events, answer) := s.breaker.act d.now d.act
  { breaker := b, entries := s.entries ++ [{ d with before := s.breaker.state, events, answer }] }

def run (s : Chronicle ε ν) (deeds : List (Deed ε ν)) : Chronicle ε ν := deeds.foldl next s

/-- **What every effect keeps holds of every chronicle.** -/
theorem run_induction {P : Breaker ε ν → List (Entry ε ν) → Prop} {name : String}
    {config : Config ε ν} {start : Nat} {draws : Draws} {b : Breaker ε ν}
    (hnew : Breaker.new name config start draws = .ok b) (hblank : P b [])
    (hstep : ∀ b m entries e, b.config = config → P b entries → e.before = b.state →
      Effect b e.now e.act m e.events e.answer → P m (entries ++ [e]))
    (deeds : List (Deed ε ν)) {s : Chronicle ε ν} (hs : (blank b).run deeds = s) :
    s.breaker.config = config ∧ P s.breaker s.entries := by
  obtain ⟨hsound, hb⟩ := new_eq_ok hnew
  have hconfig : b.config = config := by rw [hb]
  rw [← hs]
  refine List.foldlRecOn
    (motive := fun t : Chronicle ε ν => t.breaker.config = config ∧ P t.breaker t.entries)
    deeds next ⟨hconfig, hblank⟩ fun t ht d _ => ?_
  obtain ⟨hsame, hp⟩ := ht
  have heffect := act_effect (by rwa [hsame]) d.now d.act
  exact ⟨heffect.course.config_eq.trans hsame, hstep _ _ _ _ hsame hp rfl heffect⟩

theorem run_config {name : String} {config : Config ε ν} {start : Nat} {b : Breaker ε ν}
    {draws : Draws} (hnew : Breaker.new name config start draws = .ok b)
    (deeds : List (Deed ε ν)) {s : Chronicle ε ν}
    (hs : (blank b).run deeds = s) : s.breaker.config = config :=
  (run_induction (P := fun _ _ => True) hnew trivial (fun _ _ _ _ _ _ _ _ => trivial) deeds hs).1

end Chronicle

end FaultTolerance.Breaker
