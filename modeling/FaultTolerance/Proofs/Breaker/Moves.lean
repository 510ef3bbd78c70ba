import FaultTolerance.Breaker.Basic

/-! What each operation of a breaker can do, case by case.

A validated configuration always lets a new cell be made, so a transition that applies succeeds
(`move_eq`) and `moved` is what it leads to. `Admission` lists what can become of a breaker that is
asked for admission, and `Recording` what can become of one that is told an outcome; what is proved
of a step elsewhere is proved by cases on these. -/
namespace FaultTolerance.Breaker
variable {ε ν : Type}

/-- Windows can be made: neither of their sizes is zero. -/
structure Config.Sound (c : Config ε ν) : Prop where
  windowSize_pos : 0 < c.windowSize
  probes_pos : 0 < c.permittedProbes

theorem Config.sound_of_validate {c : Config ε ν} {draw : Float} (h : c.validate draw = .ok ()) :
    c.Sound := by
  obtain ⟨_, h⟩ := ok_of_bind h
  obtain ⟨_, h⟩ := ok_of_bind h
  obtain ⟨_, h⟩ := ok_of_bind h
  obtain ⟨hsize, h⟩ := ok_of_bind h
  obtain ⟨_, h⟩ := ok_of_bind h
  obtain ⟨hprobes, _⟩ := ok_of_bind h
  have hsize := of_require hsize
  have hprobes := of_require hprobes
  simp only [bne_iff_ne] at hsize hprobes
  exact ⟨Nat.pos_of_ne_zero hsize, Nat.pos_of_ne_zero hprobes⟩

/-! ### Transitions -/

/-- The empty window of a state that is entered now. -/
def Config.freshWindow (c : Config ε ν) (now : Nat) (state : State) : Window :=
  if state = .halfOpen then
    { calls := .count (.empty c.permittedProbes)
      size := c.permittedProbes
      minimumCalls := c.permittedProbes }
  else
    { calls := match c.windowKind with
        | .countBased => .count (.empty c.windowSize)
        | .timeBased => .timed (.empty c.windowSize (secondsOf now))
      size := c.windowSize
      minimumCalls := c.effectiveMinimum }

/-- The cell of a state that is entered now. The draw tells only in the open state. -/
def Config.freshCell (c : Config ε ν) (now : Nat) (state : State) (generation attempts : Nat)
    (reserveProbe : Bool) (inherited : Option Window) (draw : Float := Draws.middle.next) : Cell :=
  { state, generation, attempts
    window := inherited.getD (c.freshWindow now state)
    enteredAt := now
    openUntil := if state = .opened then addTicks now (c.openWait.wait attempts draw).ticks else 0
    probes := if reserveProbe then c.permittedProbes - 1 else c.permittedProbes }

theorem Cell.enter_eq {c : Config ε ν} (hc : c.Sound) (now : Nat) (state : State)
    (generation attempts : Nat) (reserveProbe : Bool) (inherited : Option Window) (draw : Float) :
    Cell.enter c now state generation attempts reserveProbe inherited draw =
      .ok (c.freshCell now state generation attempts reserveProbe inherited draw) := by
  have hsize : c.windowSize ≠ 0 := Nat.ne_of_gt hc.windowSize_pos
  have hprobes : c.permittedProbes ≠ 0 := Nat.ne_of_gt hc.probes_pos
  cases inherited with
  | some window => rfl
  | none =>
    unfold enter Config.freshCell Config.freshWindow
    by_cases hs : state = .halfOpen
    · simp [hs, Window.countBased, Ring.ofCapacity, hprobes, bind, Except.bind, pure, Except.pure]
    · cases c.windowKind <;>
        simp [hs, Window.ofKind, Window.countBased, Window.timeBased, Ring.ofCapacity, hsize,
          bind, Except.bind, pure, Except.pure]

theorem new_eq_ok {name : String} {config : Config ε ν} {now : Nat} {draws : Draws}
    {b : Breaker ε ν} (h : Breaker.new name config now draws = .ok b) :
    config.Sound ∧
      b = { name, config, cell := config.freshCell now .closed 0 0 false none,
            draws := draws.drop 1 } := by
  obtain ⟨hvalid, hcell⟩ := ok_of_bind h
  have hsound := Config.sound_of_validate hvalid
  rw [Cell.enter_eq hsound] at hcell
  exact ⟨hsound, (Except.ok.inj hcell).symm⟩

/-- The breaker after a transition. -/
def moved (b : Breaker ε ν) (now : Nat) (trigger : Trigger) (target : State) : Breaker ε ν :=
  { b with
    cell := b.config.freshCell now target (b.cell.generation + 1)
      (attemptsAfter b.cell.attempts target) (trigger = .openWaitElapsed)
      (if target = .opened then some b.cell.window else none) b.draws.next
    draws := drawsAfter b.draws target }

/-- The report of a change of state. -/
def changeEvents (b : Breaker ε ν) (target : State) : List Event :=
  if b.state = target then [] else [.stateTransition b.state target]

section Move
variable (b : Breaker ε ν) (now : Nat) (trigger : Trigger) (target : State)

@[simp] theorem moved_config : (b.moved now trigger target).config = b.config := rfl

@[simp] theorem moved_generation :
    (b.moved now trigger target).cell.generation = b.cell.generation + 1 := rfl

theorem moved_probes (h : trigger ≠ .openWaitElapsed) :
    (b.moved now trigger target).cell.probes = b.config.permittedProbes := by
  unfold moved Config.freshCell
  rw [decide_eq_false h]
  rfl

theorem moved_probes_openWaitElapsed :
    (b.moved now .openWaitElapsed target).cell.probes = b.config.permittedProbes - 1 := rfl

variable {b} (hc : b.config.Sound)
include hc

/-- A transition that applies succeeds. -/
theorem move_eq (breach : Option Snapshot) :
    b.move now trigger breach =
      (transition b.state trigger).map fun target =>
        (b.moved now trigger target,
          (breach.map b.ratesExceeded).getD [] ++ b.changeEvents target) := by
  unfold move
  cases transition b.state trigger with
  | none => rfl
  | some target =>
    simp only [Option.bind_eq_bind, Option.bind_some, Option.map_some, Cell.enter_eq hc]
    rfl

theorem moveIf_of_transition {target : State} (htarget : transition b.state trigger = some target)
    (breach : Option Snapshot) :
    b.moveIf now trigger breach =
      (b.moved now trigger target,
        (breach.map b.ratesExceeded).getD [] ++ b.changeEvents target) := by
  unfold moveIf
  rw [move_eq now trigger hc, htarget]
  rfl

theorem moveIf_of_none (htarget : transition b.state trigger = none) (breach : Option Snapshot) :
    b.moveIf now trigger breach = (b, []) := by
  unfold moveIf
  rw [move_eq now trigger hc, htarget]
  rfl

end Move

/-! ### Admission -/

/-- What can become of a breaker that is asked for admission: the breaker after it, the events and
the answer. -/
inductive Admission (b : Breaker ε ν) (now : Nat) : Breaker ε ν → List Event → Bool → Prop
  | passed (h : b.state = .closed ∨ b.state = .disabled ∨ b.state = .metricsOnly) :
    Admission b now b [] true
  | forced (h : b.state = .forcedOpen) : Admission b now b.refuse.1 [.callNotPermitted] false
  | early (h : b.state = .opened) (hwait : now < b.cell.openUntil) :
    Admission b now b.refuse.1 [.callNotPermitted] false
  /-- The open wait is over. -/
  | firstProbe (h : b.state = .opened) (hwait : b.cell.openUntil ≤ now) :
    Admission b now (b.moved now .openWaitElapsed .halfOpen) [.stateTransition .opened .halfOpen]
      true
  | probe (h : b.state = .halfOpen) (hlasts : b.halfOpenExpired now = false)
    (hfree : 0 < b.cell.probes) :
    Admission b now { b with cell := { b.cell with probes := b.cell.probes - 1 } } [] true
  | noProbe (h : b.state = .halfOpen) (hlasts : b.halfOpenExpired now = false)
    (hnone : b.cell.probes = 0) : Admission b now b.refuse.1 [.callNotPermitted] false
  /-- The half-open state has lasted too long, and the new open wait begins. -/
  | expired (h : b.state = .halfOpen) (hlasts : b.halfOpenExpired now = true)
    (hwait : now < (b.moved now .halfOpenWaitElapsed .opened).cell.openUntil) :
    Admission b now (b.moved now .halfOpenWaitElapsed .opened).refuse.1
      [.stateTransition .halfOpen .opened, .callNotPermitted] false
  /-- The new open wait is over at once. -/
  | renewed (h : b.state = .halfOpen) (hlasts : b.halfOpenExpired now = true)
    (hwait : (b.moved now .halfOpenWaitElapsed .opened).cell.openUntil ≤ now) :
    Admission b now
      ((b.moved now .halfOpenWaitElapsed .opened).moved now .openWaitElapsed .halfOpen)
      [.stateTransition .halfOpen .opened, .stateTransition .opened .halfOpen] true

section Admit
variable {b : Breaker ε ν} {now : Nat}

theorem admitWithin_decided {rounds : Nat} {m : Breaker ε ν} {events : List Event}
    {admitted : Bool} (h : b.round now = .decided m events admitted) :
    admitWithin now (rounds + 1) b = (m, events, admitted) := by
  unfold admitWithin
  rw [h]

theorem admitWithin_again {rounds : Nat} {m : Breaker ε ν} {events : List Event}
    (h : b.round now = .again m events) :
    admitWithin now (rounds + 1) b =
      ((admitWithin now rounds m).1, events ++ (admitWithin now rounds m).2.1,
        (admitWithin now rounds m).2.2) := by
  rw [admitWithin, h]

theorem round_early (h : b.state = .opened) (hwait : now < b.cell.openUntil) :
    b.round now = .decided b.refuse.1 [.callNotPermitted] false := by
  unfold round
  rw [h]
  simp only [if_pos hwait]
  rfl

/-- A probe that is left is handed out. -/
theorem round_probe (h : b.state = .halfOpen) (hlasts : b.halfOpenExpired now = false)
    (hfree : 0 < b.cell.probes) :
    b.round now =
      .decided { b with cell := { b.cell with probes := b.cell.probes - 1 } } [] true := by
  unfold round takeProbe
  rw [h, hlasts]
  simp only [Bool.false_eq_true, if_false, if_pos hfree]

theorem round_noProbe (h : b.state = .halfOpen) (hlasts : b.halfOpenExpired now = false)
    (hnone : b.cell.probes = 0) : b.round now = .decided b.refuse.1 [.callNotPermitted] false := by
  unfold round takeProbe
  rw [h, hlasts]
  simp only [Bool.false_eq_true, if_false, hnone, Nat.lt_irrefl]
  rfl

variable (hc : b.config.Sound)
include hc

theorem round_firstProbe (h : b.state = .opened) (hwait : b.cell.openUntil ≤ now) :
    b.round now =
      .decided (b.moved now .openWaitElapsed .halfOpen) [.stateTransition .opened .halfOpen]
        true := by
  have hmove : b.move now .openWaitElapsed =
      some (b.moved now .openWaitElapsed .halfOpen, [.stateTransition .opened .halfOpen]) := by
    rw [move_eq now _ hc]
    unfold changeEvents
    rw [h]
    rfl
  unfold round
  rw [h]
  simp only [if_neg (Nat.not_lt.mpr hwait), hmove]

theorem round_expired (h : b.state = .halfOpen) (hlasts : b.halfOpenExpired now = true) :
    b.round now =
      .again (b.moved now .halfOpenWaitElapsed .opened) [.stateTransition .halfOpen .opened] := by
  have hmove : b.move now .halfOpenWaitElapsed =
      some (b.moved now .halfOpenWaitElapsed .opened, [.stateTransition .halfOpen .opened]) := by
    rw [move_eq now _ hc]
    unfold changeEvents
    rw [h]
    rfl
  unfold round
  rw [h]
  simp only [hlasts, if_true, hmove]

/-- **Every answer to a request for admission is one of these.** -/
theorem tryAcquire_admission :
    Admission b now (b.tryAcquire now).1 (b.tryAcquire now).2.1 (b.tryAcquire now).2.2 := by
  unfold tryAcquire
  cases hs : b.state with
  | closed | disabled | metricsOnly =>
    have hround : b.round now = .decided b [] true := by simp only [round, hs]
    rw [admitWithin_decided hround]
    exact .passed (by simp [hs])
  | forcedOpen =>
    have hround : b.round now = .decided b.refuse.1 [.callNotPermitted] false := by
      simp only [round, hs]
      rfl
    rw [admitWithin_decided hround]
    exact .forced hs
  | opened =>
    rcases Nat.lt_or_ge now b.cell.openUntil with hwait | hwait
    · rw [admitWithin_decided (round_early hs hwait)]
      exact .early hs hwait
    · rw [admitWithin_decided (round_firstProbe hc hs hwait)]
      exact .firstProbe hs hwait
  | halfOpen =>
    cases hlasts : b.halfOpenExpired now with
    | false =>
      rcases Nat.eq_zero_or_pos b.cell.probes with hnone | hfree
      · rw [admitWithin_decided (round_noProbe hs hlasts hnone)]
        exact .noProbe hs hlasts hnone
      · rw [admitWithin_decided (round_probe hs hlasts hfree)]
        exact .probe hs hlasts hfree
    | true =>
      -- The second round looks at a state that has just become open.
      have hopened : (b.moved now .halfOpenWaitElapsed .opened).state = .opened := rfl
      have hsound : (b.moved now .halfOpenWaitElapsed .opened).config.Sound := hc
      rw [admitWithin_again (round_expired hc hs hlasts)]
      rcases Nat.lt_or_ge now (b.moved now .halfOpenWaitElapsed .opened).cell.openUntil with
        hwait | hwait
      · rw [admitWithin_decided (round_early hopened hwait)]
        exact .expired hs hlasts hwait
      · rw [admitWithin_decided (round_firstProbe hsound hopened hwait)]
        exact .renewed hs hlasts hwait

omit hc in
theorem tryAcquire_probe (h : b.state = .halfOpen) (hlasts : b.halfOpenExpired now = false)
    (hfree : 0 < b.cell.probes) :
    b.tryAcquire now = ({ b with cell := { b.cell with probes := b.cell.probes - 1 } }, [], true) :=
  admitWithin_decided (round_probe h hlasts hfree)

end Admit

/-- No half-open state is over when it begins. -/
theorem halfOpenExpired_enteredAt (b : Breaker ε ν) :
    b.halfOpenExpired b.cell.enteredAt = false := by
  unfold halfOpenExpired Duration.ticks
  rw [Nat.sub_self]
  by_cases h : b.config.maxHalfOpenWait.nanos = 0
  · simp [h]
  · simp [h, lastTick]

theorem Admission.generation_le {b m : Breaker ε ν} {now : Nat} {events : List Event}
    {admitted : Bool} (h : Admission b now m events admitted) :
    b.cell.generation ≤ m.cell.generation := by
  cases h with
  | passed | forced | early | probe | noProbe => exact Nat.le_refl _
  | firstProbe => exact Nat.le_succ _
  | expired => exact Nat.le_succ _
  | renewed => exact Nat.le_trans (Nat.le_succ _) (Nat.le_succ _)

theorem Admission.config_eq {b m : Breaker ε ν} {now : Nat} {events : List Event}
    {admitted : Bool} (h : Admission b now m events admitted) : m.config = b.config := by
  cases h <;> rfl

/-! ### Outcomes -/

/-- The breaker with one more measurement in its window. -/
def noted (b : Breaker ε ν) (now : Nat) (m : Measurement) : Breaker ε ν :=
  { b with cell := { b.cell with window := b.cell.window.record now m } }

/-- The breaker that remembers whether the latest outcome left a rate at its threshold. -/
def flagged (b : Breaker ε ν) : Breaker ε ν :=
  { b with cell := { b.cell with rateExceeded := b.exceedsThresholds b.cell.window.view } }

/-- What the window decides after an outcome. -/
def verdict? (b : Breaker ε ν) (now : Nat) : Option Trigger :=
  match b.state with
  | .closed =>
    if b.exceedsThresholds b.cell.window.view then some .thresholdsExceeded else none
  | .halfOpen =>
    if b.halfOpenExpired now then some .halfOpenWaitElapsed
    else if b.config.permittedProbes ≤ b.cell.window.view.totals.calls then
      if b.exceedsThresholds b.cell.window.view then some .probesFailed else some .probesPassed
    else none
  | _ => none

/-- The view that a verdict is reported with. -/
def breach? (b : Breaker ε ν) : Trigger → Option Snapshot
  | .thresholdsExceeded | .probesFailed => some b.cell.window.view
  | _ => none

/-- Acts on the latest outcome in the window. -/
def settle (b : Breaker ε ν) (now : Nat) : Breaker ε ν × List Event :=
  let view := b.cell.window.view
  let exceeded := b.exceedsThresholds view
  match b.state with
  | .closed => if exceeded then b.moveIf now .thresholdsExceeded view else (b, [])
  | .halfOpen =>
    if b.halfOpenExpired now then b.moveIf now .halfOpenWaitElapsed
    else if b.config.permittedProbes ≤ view.totals.calls then
      if exceeded then b.moveIf now .probesFailed view else b.moveIf now .probesPassed
    else (b, [])
  | .metricsOnly =>
    (b.flagged, if exceeded && !b.cell.rateExceeded then b.ratesExceeded view else [])
  | .opened | .forcedOpen | .disabled => (b, [])

@[simp] theorem noted_state (b : Breaker ε ν) (now : Nat) (m : Measurement) :
    (b.noted now m).state = b.state := rfl

/-- What is kept of an outcome. -/
def measured (b : Breaker ε ν) (elapsed : Duration) (failed : Bool) : Measurement :=
  ⟨.classify failed (b.config.slowCallDuration.nanos ≤ elapsed.nanos), elapsed⟩

/-- An outcome is written to the window before anything is decided. -/
theorem record_eq (b : Breaker ε ν) (now : Nat) (elapsed : Duration) (failed : Bool)
    (event : Event) :
    b.record now elapsed failed event =
      if !b.state.recordsOutcomes then (b, [])
      else
        (((b.noted now (b.measured elapsed failed)).settle now).1,
          event :: ((b.noted now (b.measured elapsed failed)).settle now).2) :=
  rfl

section Settle
variable {b : Breaker ε ν} {now : Nat}

theorem settle_of_verdict {trigger : Trigger} (hv : b.verdict? now = some trigger) :
    b.settle now = b.moveIf now trigger (b.breach? trigger) := by
  unfold verdict? at hv
  unfold settle
  cases hs : b.state with
  | closed =>
    simp only [hs] at hv ⊢
    split at hv
    · next hex =>
      cases hv
      rw [if_pos hex]
      rfl
    · cases hv
  | halfOpen =>
    simp only [hs] at hv ⊢
    repeat' split at hv
    all_goals cases hv
    · next hlasts => rw [if_pos hlasts]; rfl
    · next hlasts hfull hex => rw [if_neg hlasts, if_pos hfull, if_pos hex]; rfl
    · next hlasts hfull hex => rw [if_neg hlasts, if_pos hfull, if_neg hex]; rfl
  | metricsOnly | opened | forcedOpen | disabled =>
    simp only [hs] at hv
    cases hv

theorem settle_of_none (hwatch : b.state ≠ .metricsOnly) (hv : b.verdict? now = none) :
    b.settle now = (b, []) := by
  unfold verdict? at hv
  unfold settle
  cases hs : b.state with
  | closed =>
    simp only [hs] at hv ⊢
    split at hv
    · cases hv
    · next hex => rw [if_neg hex]
  | halfOpen =>
    simp only [hs] at hv ⊢
    repeat' split at hv
    all_goals cases hv
    next hlasts hfull => rw [if_neg hlasts, if_neg hfull]
  | metricsOnly => exact absurd hs hwatch
  | opened | forcedOpen | disabled => rfl

/-- A half-open state that lasts is decided when the permitted number of outcomes is there. -/
theorem verdict?_halfOpen (hopen : b.state = .halfOpen) (hlasts : b.halfOpenExpired now = false) :
    b.verdict? now =
      if b.config.permittedProbes ≤ b.cell.window.view.totals.calls then
        if b.exceedsThresholds b.cell.window.view then some .probesFailed else some .probesPassed
      else none := by
  unfold verdict?
  rw [hopen]
  simp only [hlasts, Bool.false_eq_true, if_false]

/-- Without a verdict a half-open state lasts and waits for more outcomes. -/
theorem lt_of_verdict?_eq_none (hopen : b.state = .halfOpen) (hv : b.verdict? now = none) :
    b.cell.window.view.totals.calls < b.config.permittedProbes := by
  cases hlasts : b.halfOpenExpired now with
  | true =>
    unfold verdict? at hv
    rw [hopen] at hv
    simp [hlasts] at hv
  | false =>
    rw [verdict?_halfOpen hopen hlasts] at hv
    split at hv
    · split at hv <;> cases hv
    · next hfew => exact Nat.lt_of_not_le hfew

/-- Every verdict applies to the state that it is made in, and none leads to a half-open state. -/
theorem transition_of_verdict {trigger : Trigger} (hv : b.verdict? now = some trigger) :
    ∃ target, transition b.state trigger = some target ∧ b.state ≠ target ∧
      target ≠ .halfOpen := by
  unfold verdict? at hv
  cases hs : b.state with
  | closed =>
    simp only [hs] at hv
    split at hv
    · cases hv
      exact ⟨.opened, rfl, by decide, by decide⟩
    · cases hv
  | halfOpen =>
    simp only [hs] at hv
    repeat' split at hv
    all_goals cases hv
    · exact ⟨.opened, rfl, by decide, by decide⟩
    · exact ⟨.opened, rfl, by decide, by decide⟩
    · exact ⟨.closed, rfl, by decide, by decide⟩
  | metricsOnly | opened | forcedOpen | disabled =>
    simp only [hs] at hv
    cases hv

end Settle

/-- What can become of a breaker that is told a recorded outcome, and what it reports. -/
inductive Recording (b : Breaker ε ν) (now : Nat) (m : Measurement) (event : Event) :
    Breaker ε ν → List Event → Prop
  | ignored (h : b.state = .disabled) : Recording b now m event b []
  | kept (h : b.state ≠ .disabled) (hwatch : b.state ≠ .metricsOnly)
    (hv : (b.noted now m).verdict? now = none) : Recording b now m event (b.noted now m) [event]
  | watched (h : b.state = .metricsOnly) :
    Recording b now m event (b.noted now m).flagged
      (event :: if (b.noted now m).flagged.cell.rateExceeded && !b.cell.rateExceeded then
        (b.noted now m).ratesExceeded (b.noted now m).cell.window.view else [])
  | decided (trigger : Trigger) (target : State) (hv : (b.noted now m).verdict? now = some trigger)
    (htarget : transition b.state trigger = some target) (hchange : b.state ≠ target)
    (hdecided : target ≠ .halfOpen) :
    Recording b now m event ((b.noted now m).moved now trigger target)
      (event :: (((b.noted now m).breach? trigger).map (b.noted now m).ratesExceeded).getD [] ++
        [.stateTransition b.state target])

/-- **Every recorded outcome has one of these effects.** -/
theorem record_recording {b : Breaker ε ν} (hc : b.config.Sound) (now : Nat) (elapsed : Duration)
    (failed : Bool) (event : Event) :
    Recording b now (b.measured elapsed failed) event
      (b.record now elapsed failed event).1 (b.record now elapsed failed event).2 := by
  rw [record_eq]
  generalize b.measured elapsed failed = m
  by_cases hdisabled : b.state = .disabled
  · rw [if_pos (by rw [hdisabled]; rfl)]
    exact .ignored hdisabled
  · rw [if_neg (by cases hs : b.state <;> first | exact absurd hs hdisabled | decide)]
    by_cases hwatch : b.state = .metricsOnly
    · have hsettle : (b.noted now m).settle now = ((b.noted now m).flagged,
          if (b.noted now m).flagged.cell.rateExceeded && !b.cell.rateExceeded then
            (b.noted now m).ratesExceeded (b.noted now m).cell.window.view else []) := by
        unfold settle
        rw [noted_state, hwatch]
        rfl
      rw [hsettle]
      exact .watched hwatch
    · cases hv : (b.noted now m).verdict? now with
      | none =>
        rw [settle_of_none (b := b.noted now m) hwatch hv]
        exact .kept hdisabled hwatch hv
      | some trigger =>
        obtain ⟨target, htarget, hchange, hdecided⟩ := transition_of_verdict hv
        have hsound : (b.noted now m).config.Sound := hc
        rw [settle_of_verdict hv, moveIf_of_transition now trigger hsound htarget]
        unfold changeEvents
        rw [if_neg hchange]
        exact .decided trigger target hv htarget hchange hdecided

theorem Recording.generation_le {b m : Breaker ε ν} {now : Nat} {x : Measurement} {event : Event}
    {events : List Event} (h : Recording b now x event m events) :
    b.cell.generation ≤ m.cell.generation := by
  cases h with
  | ignored | kept | watched => exact Nat.le_refl _
  | decided => exact Nat.le_succ _

theorem Recording.config_eq {b m : Breaker ε ν} {now : Nat} {x : Measurement} {event : Event}
    {events : List Event} (h : Recording b now x event m events) : m.config = b.config := by
  cases h <;> rfl

theorem release_config (b : Breaker ε ν) : b.release.config = b.config := by
  unfold release
  split <;> rfl

theorem release_generation (b : Breaker ε ν) :
    b.release.cell.generation = b.cell.generation := by
  unfold release
  split <;> rfl

theorem release_window (b : Breaker ε ν) : b.release.cell.window = b.cell.window := by
  unfold release
  split <;> rfl

theorem release_state (b : Breaker ε ν) : b.release.state = b.state := by
  unfold release
  split <;> rfl

end FaultTolerance.Breaker
