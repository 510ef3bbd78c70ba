import FaultTolerance.Proofs.Breaker.Moves
import FaultTolerance.Proofs.Run

/-! A breaker together with the calls that it has admitted.

Calls are numbered in the order of their admission. Each keeps the generation that admitted it and
what has become of it, which the breaker itself does not know: an outcome is written to the window
that is there when it comes, and a probe goes back to the cell that is there when the call gives
it up. A call ends once; whatever else it does then has no effect. -/
namespace FaultTolerance.Breaker
variable {ε ν : Type}

/-- What has become of a call. -/
inductive Fate where
  | running
  /-- Released, cancelled or ended with an ignored error. -/
  | givenBack
  /-- Its outcome was recorded in that generation. -/
  | recorded (generation : Nat)
  /-- Its outcome came while none is recorded. -/
  | unrecorded
  deriving DecidableEq, Repr

structure Call where
  /-- The generation that admitted it. -/
  generation : Nat
  fate : Fate := .running
  deriving DecidableEq, Repr

/-- Whether a transition is made on request. -/
def Trigger.isRequest : Trigger → Bool
  | reset | force _ => true
  | _ => false

theorem State.eq_disabled {state : State} (h : state.recordsOutcomes = false) :
    state = .disabled := by
  cases state with
  | disabled => rfl
  | closed | opened | halfOpen | forcedOpen | metricsOnly => cases h

/-- How a call ends. -/
inductive Ending (ε ν : Type) where
  | success (elapsed : Duration)
  | error (elapsed : Duration) (e : ε)
  | result (elapsed : Duration) (v : ν)
  /-- It does not run, or is cancelled. -/
  | release

inductive Step (ε ν : Type) where
  /-- Asks for admission. -/
  | ask
  | finish (call : Nat) (ending : Ending ε ν)
  | force (target : State)
  | reset
  /-- Reads the metrics. -/
  | look

structure Input (ε ν : Type) where
  /-- The reading of the clock. -/
  now : Nat
  step : Step ε ν

structure Ledger (ε ν : Type) where
  breaker : Breaker ε ν
  calls : List Call := []

namespace Ending

/-- Whether an ending gives the call's admission back. -/
def givesBack (c : Config ε ν) : Ending ε ν → Bool
  | release => true
  | error _ e => c.isIgnored e
  | success _ | result _ _ => false

def apply [Fault ε] (b : Breaker ε ν) (now : Nat) : Ending ε ν → Breaker ε ν × List Event
  | success elapsed => b.onSuccess now elapsed
  | error elapsed e => b.onError now elapsed e
  | result elapsed v => b.onResult now elapsed v
  | release => (b.release, [])

def fate (b : Breaker ε ν) (ending : Ending ε ν) : Fate :=
  if ending.givesBack b.config then .givenBack
  else if b.state.recordsOutcomes then .recorded b.cell.generation
  else .unrecorded

variable [Fault ε] (b : Breaker ε ν) (now : Nat) (ending : Ending ε ν)

theorem apply_of_givesBack (h : ending.givesBack b.config) :
    (ending.apply b now).1 = b.release := by
  cases ending with
  | release => rfl
  | error elapsed e =>
    have hignored : b.config.isIgnored e = true := h
    show (b.onError now elapsed e).1 = b.release
    unfold onError
    rw [if_pos hignored]
  | success _ | result _ _ => cases h

/-- Every other ending is recorded. -/
theorem apply_of_not_givesBack (h : ending.givesBack b.config = false) :
    ∃ elapsed failed event, ending.apply b now = b.record now elapsed failed event := by
  cases ending with
  | release => cases h
  | success elapsed => exact ⟨elapsed, false, _, rfl⟩
  | error elapsed e =>
    have hignored : ¬ b.config.isIgnored e = true := Bool.not_eq_true _ ▸ h
    have happly : (error elapsed e : Ending ε ν).apply b now = b.onError now elapsed e := rfl
    rw [happly]
    unfold onError
    rw [if_neg hignored]
    split
    · exact ⟨elapsed, true, _, rfl⟩
    · exact ⟨elapsed, false, _, rfl⟩
  | result elapsed v =>
    have happly : (result elapsed v : Ending ε ν).apply b now = b.onResult now elapsed v := rfl
    rw [happly]
    unfold onResult
    split
    · exact ⟨elapsed, true, _, rfl⟩
    · exact ⟨elapsed, false, _, rfl⟩

end Ending

namespace Ledger

/-- A breaker that has admitted nobody yet. -/
def fresh (b : Breaker ε ν) : Ledger ε ν := { breaker := b }

variable [Fault ε]

def next (s : Ledger ε ν) (i : Input ε ν) : Ledger ε ν :=
  match i.step with
  | .ask =>
    let (b, _, admitted) := s.breaker.tryAcquire i.now
    { breaker := b
      calls := if admitted then s.calls ++ [{ generation := b.cell.generation }] else s.calls }
  | .finish call ending =>
    match s.calls[call]? with
    | some ⟨generation, .running⟩ =>
      { breaker := (ending.apply s.breaker i.now).1
        calls := s.calls.set call ⟨generation, ending.fate s.breaker⟩ }
    | _ => s
  | .force target => { s with breaker := (s.breaker.force i.now target).1 }
  | .reset => { s with breaker := (s.breaker.reset i.now).1 }
  | .look => { s with breaker := s.breaker.refresh i.now }

def run (s : Ledger ε ν) (inputs : List (Input ε ν)) : Ledger ε ν := inputs.foldl next s

/-- What is not done by a call leaves the calls alone. -/
theorem next_force {s : Ledger ε ν} {i : Input ε ν} {target : State}
    (hstep : i.step = .force target) :
    s.next i = { s with breaker := (s.breaker.force i.now target).1 } := by
  unfold next
  rw [hstep]

theorem next_reset {s : Ledger ε ν} {i : Input ε ν} (hstep : i.step = .reset) :
    s.next i = { s with breaker := (s.breaker.reset i.now).1 } := by
  unfold next
  rw [hstep]

theorem next_look {s : Ledger ε ν} {i : Input ε ν} (hstep : i.step = .look) :
    s.next i = { s with breaker := s.breaker.refresh i.now } := by
  unfold next
  rw [hstep]

/-- A call that does not run any more cannot end. -/
theorem next_of_not_running {s : Ledger ε ν} {i : Input ε ν} {call : Nat} {ending : Ending ε ν}
    (hstep : i.step = .finish call ending)
    (hcall : ¬ ∃ generation, s.calls[call]? = some ⟨generation, .running⟩) : s.next i = s := by
  unfold next
  simp only [hstep]
  split
  · next generation hrunning => exact absurd ⟨generation, hrunning⟩ hcall
  · rfl

/-- A call that is given back. -/
theorem next_of_givesBack {s : Ledger ε ν} {i : Input ε ν} {call generation : Nat}
    {ending : Ending ε ν} (hstep : i.step = .finish call ending)
    (hcall : s.calls[call]? = some ⟨generation, .running⟩)
    (hback : ending.givesBack s.breaker.config) :
    s.next i =
      { breaker := s.breaker.release, calls := s.calls.set call ⟨generation, .givenBack⟩ } := by
  unfold next Ending.fate
  simp only [hstep, hcall, ending.apply_of_givesBack s.breaker i.now hback, if_pos hback]

/-- The outcome of any other call is recorded, unless the breaker is disabled. -/
theorem next_of_not_givesBack {s : Ledger ε ν} {i : Input ε ν} {call generation : Nat}
    {ending : Ending ε ν} (hc : s.breaker.config.Sound) (hstep : i.step = .finish call ending)
    (hcall : s.calls[call]? = some ⟨generation, .running⟩)
    (hback : ending.givesBack s.breaker.config = false) :
    (s.breaker.state = .disabled ∧
      s.next i = { s with calls := s.calls.set call ⟨generation, .unrecorded⟩ }) ∨
    ∃ m event b events, Recording s.breaker i.now m event b events ∧
      s.breaker.state.recordsOutcomes ∧
      s.next i =
        { breaker := b
          calls := s.calls.set call ⟨generation, .recorded s.breaker.cell.generation⟩ } := by
  obtain ⟨elapsed, failed, event, happly⟩ := ending.apply_of_not_givesBack s.breaker i.now hback
  have hrecording := record_recording hc i.now elapsed failed event
  unfold next Ending.fate
  simp only [hstep, hcall, happly, hback, Bool.false_eq_true, if_false]
  cases hrecords : s.breaker.state.recordsOutcomes with
  | true => exact .inr ⟨_, event, _, _, hrecording, rfl, rfl⟩
  | false =>
    left
    rw [record_eq, hrecords]
    exact ⟨State.eq_disabled hrecords, rfl⟩

/-- **What has to be looked at to see that a step keeps a property of a breaker and its calls.** -/
theorem next_preserves {P : Breaker ε ν → List Call → Prop} (s : Ledger ε ν) (i : Input ε ν)
    (hc : s.breaker.config.Sound)
    (admitted : ∀ b events, Admission s.breaker i.now b events true →
      P b (s.calls ++ [{ generation := b.cell.generation }]))
    (refused : ∀ b events, Admission s.breaker i.now b events false → P b s.calls)
    (returned : ∀ call ending generation, i.step = .finish call ending →
      s.calls[call]? = some ⟨generation, .running⟩ → ending.givesBack s.breaker.config →
      P s.breaker.release (s.calls.set call ⟨generation, .givenBack⟩))
    (recorded : ∀ call ending generation m event b events, i.step = .finish call ending →
      s.calls[call]? = some ⟨generation, .running⟩ → s.breaker.state.recordsOutcomes →
      Recording s.breaker i.now m event b events →
      P b (s.calls.set call ⟨generation, .recorded s.breaker.cell.generation⟩))
    (missed : ∀ call generation, s.calls[call]? = some ⟨generation, .running⟩ →
      s.breaker.state = .disabled → P s.breaker (s.calls.set call ⟨generation, .unrecorded⟩))
    (moved : ∀ trigger target, trigger.isRequest →
      transition s.breaker.state trigger = some target →
      P (s.breaker.moved i.now trigger target) s.calls)
    (looked : P (s.breaker.refresh i.now) s.calls)
    (h : P s.breaker s.calls) : P (s.next i).breaker (s.next i).calls := by
  have hmoved (trigger : Trigger) (hrequest : trigger.isRequest) :
      P (s.breaker.moveIf i.now trigger).1 s.calls := by
    cases htarget : transition s.breaker.state trigger with
    | none =>
      rw [moveIf_of_none i.now trigger hc htarget]
      exact h
    | some target =>
      rw [moveIf_of_transition i.now trigger hc htarget]
      exact moved trigger target hrequest htarget
  cases hstep : i.step with
  | ask =>
    have hadmission : Admission s.breaker i.now _ _ _ := tryAcquire_admission hc
    unfold next
    simp only [hstep]
    cases hanswer : (s.breaker.tryAcquire i.now).2.2 with
    | true =>
      rw [hanswer] at hadmission
      exact admitted _ _ hadmission
    | false =>
      rw [hanswer] at hadmission
      exact refused _ _ hadmission
  | finish call ending =>
    by_cases hrunning : ∃ generation, s.calls[call]? = some ⟨generation, .running⟩
    · obtain ⟨generation, hcall⟩ := hrunning
      cases hback : ending.givesBack s.breaker.config with
      | true =>
        rw [next_of_givesBack hstep hcall hback]
        exact returned call ending generation hstep hcall hback
      | false =>
        rcases next_of_not_givesBack hc hstep hcall hback with
          ⟨hdisabled, hnext⟩ | ⟨m, event, b, events, hrecording, hrecords, hnext⟩
        · rw [hnext]
          exact missed call generation hcall hdisabled
        · rw [hnext]
          exact recorded call ending generation m event b events hstep hcall hrecords hrecording
    · rw [next_of_not_running hstep hrunning]
      exact h
  | force target =>
    rw [next_force hstep]
    exact hmoved (.force target) rfl
  | reset =>
    rw [next_reset hstep]
    exact hmoved .reset rfl
  | look =>
    rw [next_look hstep]
    exact looked

/-! ### Configuration and dates -/

theorem next_config (s : Ledger ε ν) (i : Input ε ν) (hc : s.breaker.config.Sound) :
    (s.next i).breaker.config = s.breaker.config := by
  apply next_preserves (P := fun b _ => b.config = s.breaker.config) s i hc
  · intro b events hadmission
    exact hadmission.config_eq
  · intro b events hadmission
    exact hadmission.config_eq
  · intro call ending generation _ _ _
    exact s.breaker.release_config
  · intro call ending generation m event b events _ _ _ hrecording
    exact hrecording.config_eq
  · intro call generation _ _
    rfl
  · intro trigger target _ _
    rfl
  · rfl
  · rfl

end Ledger

/-- No call was admitted or recorded in a generation that is still to come. -/
structure Dated (b : Breaker ε ν) (calls : List Call) : Prop where
  admitted : ∀ c ∈ calls, c.generation ≤ b.cell.generation
  recorded : ∀ c ∈ calls, ∀ g, c.fate = .recorded g → g ≤ b.cell.generation

namespace Dated
variable {b m : Breaker ε ν} {calls : List Call}

theorem nil (b : Breaker ε ν) : Dated b [] :=
  ⟨fun _ hc => absurd hc List.not_mem_nil, fun _ hc => absurd hc List.not_mem_nil⟩

theorem later (h : Dated b calls) (hle : b.cell.generation ≤ m.cell.generation) : Dated m calls :=
  ⟨fun c hc => Nat.le_trans (h.admitted c hc) hle,
    fun c hc g hg => Nat.le_trans (h.recorded c hc g hg) hle⟩

theorem enter (h : Dated b calls) (hle : b.cell.generation ≤ m.cell.generation) :
    Dated m (calls ++ [{ generation := m.cell.generation }]) := by
  have hlater := h.later hle
  constructor
  · intro c hc
    rcases List.mem_append.mp hc with hold | hnew
    · exact hlater.admitted c hold
    · exact Nat.le_of_eq (congrArg Call.generation (List.mem_singleton.mp hnew))
  · intro c hc g hg
    rcases List.mem_append.mp hc with hold | hnew
    · exact hlater.recorded c hold g hg
    · rw [List.mem_singleton.mp hnew] at hg
      cases hg

theorem finish (h : Dated b calls) (hle : b.cell.generation ≤ m.cell.generation)
    {call generation : Nat} (hcall : calls[call]? = some ⟨generation, .running⟩) {fate : Fate}
    (hfate : ∀ g, fate = .recorded g → g ≤ b.cell.generation) :
    Dated m (calls.set call ⟨generation, fate⟩) := by
  have hlater := h.later hle
  have hbegun := hlater.admitted _ (List.mem_of_getElem? hcall)
  constructor
  · intro c hc
    rcases List.mem_or_eq_of_mem_set hc with hold | rfl
    · exact hlater.admitted c hold
    · exact hbegun
  · intro c hc g hg
    rcases List.mem_or_eq_of_mem_set hc with hold | rfl
    · exact hlater.recorded c hold g hg
    · exact Nat.le_trans (hfate g hg) hle

end Dated

theorem Ledger.next_dated [Fault ε] (s : Ledger ε ν) (i : Input ε ν)
    (hc : s.breaker.config.Sound) (h : Dated s.breaker s.calls) :
    Dated (s.next i).breaker (s.next i).calls := by
  apply next_preserves (P := Dated) s i hc
  · intro b events hadmission
    exact h.enter hadmission.generation_le
  · intro b events hadmission
    exact h.later hadmission.generation_le
  · intro call ending generation _ hcall _
    exact h.finish (Nat.le_of_eq s.breaker.release_generation.symm) hcall fun _ hg => nomatch hg
  · intro call ending generation m event b events _ hcall _ hrecording
    exact h.finish hrecording.generation_le hcall fun g hg => by
      cases hg
      exact Nat.le_refl _
  · intro call generation hcall _
    exact h.finish (Nat.le_refl _) hcall fun _ hg => nomatch hg
  · intro trigger target _ _
    exact h.later (Nat.le_succ _)
  · exact h.later (Nat.le_refl _)
  · exact h

/-! ### Counting calls -/

/-- Nobody has come from a generation that is still to be entered. -/
theorem Dated.countP_of_lt {b : Breaker ε ν} {calls : List Call} {generation : Nat}
    {p : Call → Bool} (h : Dated b calls) (hlt : b.cell.generation < generation)
    (hp : ∀ c, p c → c.generation = generation) : calls.countP p = 0 := by
  refine List.countP_eq_zero.mpr fun c hc => ?_
  intro hcounted
  have hle := h.admitted c hc
  have heq := hp c hcounted
  omega

/-- A call that ends counts as what it ends as, and no longer as running. -/
theorem countP_finish (p : Call → Bool) {calls : List Call} {call generation : Nat}
    (hcall : calls[call]? = some ⟨generation, .running⟩) (fate : Fate) :
    (calls.set call ⟨generation, fate⟩).countP p + (p ⟨generation, .running⟩).toNat =
      calls.countP p + (p ⟨generation, fate⟩).toNat :=
  countP_change p hcall _

/-! ### A small breaker -/

/-- A breaker that opens on the first failure and lets one probe through. -/
def strict : Config Error Unit :=
  { windowSize := 1, minimumCalls := 1, permittedProbes := 1, openWait := .fixed ⟨10⟩ }

def strictBreaker : Breaker Error Unit :=
  { name := "strict", config := strict, cell := strict.freshCell 0 .closed 0 0 false none }

end FaultTolerance.Breaker
