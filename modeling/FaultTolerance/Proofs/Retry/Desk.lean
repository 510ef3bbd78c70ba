import FaultTolerance.Proofs.Retry.Turns
import FaultTolerance.Proofs.Run

/-! Callers of one retry.

At a `Desk` stand the callers of a retry, with a script each that says what the runs of its
operation do. A caller that blocks its thread makes one attempt after the other, and others act in
between. A caller that is suspended is started, polled and dropped whenever one likes. What is seen
of a caller is what the world notes while it goes on (`Comes`). Whatever it does, it is at a stage
of its own script afterwards, and the retry has counted it if it has ended (`Lands`). -/
namespace FaultTolerance.Retry
open Stack
variable {ε ν : Type}

/-! ### The desk -/

/-- What a note shows of a call. -/
def Sight.ofNote? : Note → Option Sight
  | .ran _ => some .ran
  | .reported _ (.retry event) => some (.told event)
  | .reported _ _ => none

/-- What has been seen in a world since an earlier one. -/
def seenSince (w m : World ε ν) : List Sight :=
  (m.trace.drop w.trace.length).filterMap Sight.ofNote?

structure Call (ε ν : Type) where
  /-- What the runs of its operation do, from the first one on. -/
  script : Nat → Run ε ν
  manner : Manner
  /-- Runs of its operation so far. -/
  runs : Nat := 0
  /-- What was seen of it, with the time. -/
  log : List (Nat × Sight) := []

namespace Call

def endings (c : Call ε ν) (n : Nat) : Ending ε ν := (c.script n).ending

/-- The operation of a call that goes on in a world. -/
def operation (c : Call ε ν) (w : World ε ν) (run : Nat) : Run ε ν :=
  c.script (c.runs + (run - w.runs))

/-- How a call came, and what it brought along. -/
def comer (c : Call ε ν) : Manner × (Nat → Run ε ν) := (c.manner, c.script)

/-- A call that went on in a world until there was another one, and then slept. -/
def after (c : Call ε ν) (w m : World ε ν) (slept : List Sight := []) : Call ε ν :=
  { c with
    runs := c.runs + (m.runs - w.runs)
    log := c.log ++ stamped m.timer (seenSince w m ++ slept) }

end Call

inductive Doing (ε ν : Type) where
  /-- It has its thread, or sleeps on it, inside of the retry. -/
  | blocks (h : Hold)
  | suspended (s : Suspended ε ν)
  | ended (e : Ending ε ν)
  | dropped

def Doing.ofProgress : Progress ε ν → Doing ε ν
  | .inl e => ended e
  | .inr s => suspended s

structure Caller (ε ν : Type) extends Call ε ν where
  doing : Doing ε ν

/-- Where a caller is counted, if it has come to its end. -/
def Caller.counter? (config : Config ε ν) (c : Caller ε ν) : Option Counter :=
  match c.doing with
  | .ended e => e.outcome?.bind (config.counter? c.runs)
  | .blocks _ | .suspended _ | .dropped => none

structure Desk (ε ν : Type) where
  world : World ε ν
  callers : List (Caller ε ν) := []

inductive Input (ε ν : Type) where
  /-- The clock is set, and the timer moves on by so many ticks. -/
  | time (clock : Clock) (ticks : Nat)
  /-- Somebody comes and blocks its thread. -/
  | execute (script : Nat → Run ε ν)
  /-- A caller that blocks its thread makes its next attempt. -/
  | attempt (caller : Nat)
  /-- Somebody comes who may be suspended. -/
  | start (script : Nat → Run ε ν)
  | poll (caller : Nat)
  | drop (caller : Nat)

/-- Whether nobody acts but the caller. -/
def Input.isFor (i : Nat) : Input ε ν → Prop
  | time _ _ => True
  | attempt caller | poll caller => caller = i
  | execute _ | start _ | drop _ => False

namespace Desk
variable [Fault ε]

/-- One attempt of a caller that blocks its thread. -/
def attempt (w : World ε ν) (c : Call ε ν) (h : Hold) : World ε ν × Caller ε ν :=
  match w.turn (c.script c.runs) h with
  | (m, .inl e) => (m, { toCall := c.after w m, doing := .ended e })
  | (m, .inr (n, wait)) =>
    (m, { toCall := c.after w m [.slept wait], doing := .blocks (.attempts n) })

/-- A suspended call has gone on. -/
def wentOn (w : World ε ν) (c : Call ε ν) (result : World ε ν × Progress ε ν) :
    World ε ν × Caller ε ν :=
  (result.1, { toCall := c.after w result.1, doing := .ofProgress result.2 })

def next [Timer] (d : Desk ε ν) : Input ε ν → Desk ε ν
  | .time clock ticks =>
    { d with world := { d.world with clock, timer := d.world.timer + ticks } }
  | .execute script =>
    let c : Call ε ν := { script, manner := .blocking }
    match d.world.enterBlocking 0 with
    | (m, .inl h) =>
      { world := m, callers := d.callers ++ [{ toCall := c, doing := .blocks h }] }
    | (m, .inr e) =>
      { world := m
        callers := d.callers ++ [{ toCall := c, doing := .ended (.failed (Fault.ofRefusal e)) }] }
  | .attempt i =>
    match d.callers[i]? with
    | some { toCall := c, doing := .blocks h } =>
      let (m, c) := attempt d.world c h
      { world := m, callers := d.callers.set i c }
    | _ => d
  | .start script =>
    let c : Call ε ν := { script, manner := .suspending }
    let (m, c) := wentOn d.world c (World.start (c.operation d.world) [0] d.world)
    { world := m, callers := d.callers ++ [c] }
  | .poll i =>
    match d.callers[i]? with
    | some { toCall := c, doing := .suspended s } =>
      let (m, c) := wentOn d.world c (World.poll (c.operation d.world) [0] s d.world)
      { world := m, callers := d.callers.set i c }
    | _ => d
  | .drop i =>
    match d.callers[i]? with
    | some { toCall := c, doing := .suspended s } =>
      let m := d.world.drop [0] s
      { world := m, callers := d.callers.set i { toCall := c.after d.world m, doing := .dropped } }
    | _ => d

end Desk

/-! ### From one world to another -/

/-- What has been seen in a world since an earlier one, and how many runs began. No time has
passed. -/
structure Since (w m : World ε ν) (sights : List Sight) (runs : Nat) : Prop where
  timer_eq : m.timer = w.timer
  notes : ∃ notes, m.trace = w.trace ++ notes ∧ notes.filterMap Sight.ofNote? = sights
  runs_eq : m.runs = w.runs + runs

section Since
variable {w m : World ε ν} {sights : List Sight} {runs : Nat}

theorem Since.refl (w : World ε ν) : Since w w [] 0 :=
  ⟨rfl, ⟨[], (List.append_nil _).symm, rfl⟩, rfl⟩

theorem Since.seenSince_eq (h : Since w m sights runs) : seenSince w m = sights := by
  obtain ⟨notes, htrace, rfl⟩ := h.notes
  rw [seenSince, htrace, List.drop_left]

theorem Since.beginRun (h : Since w m sights runs) :
    Since w m.beginRun (sights ++ [.ran]) (runs + 1) := by
  obtain ⟨notes, htrace, rfl⟩ := h.notes
  refine ⟨h.timer_eq, ⟨notes ++ [.ran m.runs], ?_, ?_⟩, ?_⟩
  · rw [← List.append_assoc, ← htrace]
    rfl
  · rw [List.filterMap_append]
    rfl
  · exact congrArg (· + 1) h.runs_eq

theorem Since.setClock (h : Since w m sights runs) (clock : Clock) :
    Since w (m.setClock clock) sights runs :=
  ⟨h.timer_eq, h.notes, h.runs_eq⟩

/-- What a retry reports is seen. -/
theorem Since.put (h : Since w m sights runs) (i : Nat) (layer : Layer ε ν) (events : List Event) :
    Since w (m.put i layer (events.map .retry)) (sights ++ events.map .told) runs := by
  obtain ⟨notes, htrace, rfl⟩ := h.notes
  refine ⟨h.timer_eq, ⟨notes ++ (events.map Report.retry).map (.reported i), ?_, ?_⟩, h.runs_eq⟩
  · rw [← List.append_assoc, ← htrace]
    rfl
  · rw [List.filterMap_append, List.map_map, List.filterMap_map]
    exact congrArg (_ ++ ·) (congrFun (List.filterMap_eq_map (f := Sight.told)) events)

end Since

/-! ### What callers do -/

/-- What a caller does at a stage. -/
inductive Fits (script : Nat → Run ε ν) : Manner → Stage ε ν → Doing ε ν → Prop
  | blocks (n : Nat) : Fits script .blocking (.ready n 0) (.blocks (.attempts n))
  | waits (n due : Nat) :
    Fits script .suspending (.ready (n + 1) due) (.suspended (.waiting (.backoff (n + 1) due)))
  | operates (n : Nat) {due : Option Nat} (hdue : due = none → (script n).stalls = true) :
    Fits script .suspending (.running n)
      (.suspended (.within (.attempts n) (.operating due (script n))))
  | ended (m : Manner) (n : Nat) (e : Ending ε ν) : Fits script m (.ended n e) (.ended e)

/-- What may still come, for attempts that are left. -/
def Stage.left (max : Nat) : Stage ε ν → Nat
  | ready n _ => 2 * (max - n)
  | running n => 2 * (max - n) - 1
  | ended .. => 0

section Fits
variable {script : Nat → Run ε ν} {m : Manner} {stage : Stage ε ν} {s : Suspended ε ν}

theorem Fits.of_blocks {h : Hold} (hfits : Fits script m stage (.blocks h)) :
    m = .blocking ∧ ∃ n, stage = .ready n 0 ∧ h = .attempts n := by
  cases hfits with
  | blocks n => exact ⟨rfl, n, rfl, rfl⟩

theorem Fits.of_suspended (hfits : Fits script m stage (.suspended s)) : m = .suspending := by
  cases hfits with
  | waits n due | operates n hdue => rfl

theorem Fits.not_dropped : ¬ Fits script m stage .dropped := nofun

/-- A call whose runs come back is suspended only until its timer goes off. -/
theorem Fits.due_eq [Timer] (hfits : Fits script m stage (.suspended s))
    (hback : ∀ n, (script n).stalls = false) : ∃ due, s.due = some due := by
  cases hfits with
  | waits n due => exact ⟨due, rfl⟩
  | @operates n due hdue =>
    cases due with
    | none =>
      have hstalls := hdue rfl
      rw [hback n] at hstalls
      cases hstalls
    | some due => exact ⟨due, rfl⟩

/-- Nothing is left behind by a call that is dropped. -/
theorem Fits.drop_eq {r : Retry ε ν} {w : World ε ν} (hfits : Fits script m stage (.suspended s))
    (hw : w.layers = [.retry r]) : w.drop [0] s = w := by
  cases hfits with
  | waits n due => exact World.cancel_backoff _ _ _ _
  | operates n hdue => exact World.abandon_single hw _

theorem Fits.of_waits {n due : Nat}
    (hfits : Fits script m stage (.suspended (.waiting (.backoff n due)))) :
    m = .suspending ∧ ∃ k, n = k + 1 ∧ stage = .ready (k + 1) due := by
  cases hfits with
  | waits k due => exact ⟨rfl, k, rfl, rfl⟩

theorem Fits.of_ended {e : Ending ε ν} (hfits : Fits script m stage (.ended e)) :
    ∃ n, stage = .ended n e := by
  cases hfits with
  | ended _ n _ => exact ⟨n, rfl⟩

theorem Fits.counter?_eq {config : Config ε ν} {c : Caller ε ν}
    (h : Fits c.script c.manner stage c.doing) (hruns : c.runs = stage.runs) :
    c.counter? config = stage.counter? config := by
  rw [Caller.counter?]
  generalize c.doing = doing, c.manner = manner at h
  cases h with
  | blocks n | waits n due | operates n hdue => rfl
  | ended _ n e =>
    dsimp only
    rw [hruns]
    rfl

theorem Fits.left_pos {max : Nat} (hfits : Fits script m stage (.suspended s))
    (hleft : stage.earlier < max) : 0 < stage.left max := by
  cases hfits with
  | waits n due | operates n hdue =>
    simp only [Stage.left, Stage.earlier] at hleft ⊢
    omega

end Fits

/-! ### One caller -/

/-- Where nothing has been drawn. -/
theorem layers_spent {r : Retry ε ν} {w : World ε ν} (hw : w.layers = [.retry r]) :
    ∃ count, w.layers = [.retry (r.spent count)] := ⟨0, by rwa [spent_zero]⟩

variable [Timer] [Fault ε]

/-- A call has come to a stage since it went on in a world, and may sleep there. -/
def Comes (config : Config ε ν) (draws : Draws) (c : Call ε ν) (w m : World ε ν)
    (slept : List Sight) (stage : Stage ε ν) : Prop :=
  ∃ sights runs, Since w m sights runs ∧ c.runs + runs = stage.runs ∧
    Way config c.manner draws c.endings stage (c.log ++ stamped w.timer (sights ++ slept))

section Comes
variable {config : Config ε ν} {draws : Draws} {c : Call ε ν} {w m : World ε ν}
  {stage : Stage ε ν} {slept : List Sight} {n due : Nat} {outcome : Except ε ν}

theorem Comes.refl (h : Way config c.manner draws c.endings stage c.log)
    (hruns : c.runs = stage.runs) (w : World ε ν) : Comes config draws c w w [] stage := by
  refine ⟨[], 0, .refl w, hruns, ?_⟩
  rwa [List.append_nil, stamped_nil, List.append_nil]

theorem Comes.timer_eq (h : Comes config draws c w m slept stage) : m.timer = w.timer := by
  obtain ⟨_, _, hsince, -, -⟩ := h
  exact hsince.timer_eq

theorem Comes.operation_eq (h : Comes config draws c w m slept stage) :
    c.operation w m.runs = c.script stage.runs := by
  obtain ⟨sights, runs, hsince, hruns, -⟩ := h
  rw [Call.operation, hsince.runs_eq, Nat.add_sub_cancel_left, hruns]

theorem Comes.setClock (h : Comes config draws c w m slept stage) (clock : Clock) :
    Comes config draws c w (m.setClock clock) slept stage := by
  obtain ⟨sights, runs, hsince, hruns, hpath⟩ := h
  exact ⟨sights, runs, hsince.setClock clock, hruns, hpath⟩

theorem Comes.begins (h : Comes config draws c w m [] (.ready n due)) (hdue : due ≤ w.timer) :
    Comes config draws c w m.beginRun [] (.running n) := by
  obtain ⟨sights, runs, hsince, hruns, hpath⟩ := h
  refine ⟨_, _, hsince.beginRun, congrArg (· + 1) hruns, ?_⟩
  rw [List.append_nil] at hpath ⊢
  rw [stamped_append, ← List.append_assoc]
  exact hpath.begins hdue

theorem Comes.again (h : Comes config draws c w m [] (.running n))
    (houtcome : (c.endings n).outcome? = some outcome) (hopen : config.isFinal outcome = false)
    (hleft : n + 1 < config.maxAttempts) (index : Nat) {wait : Duration}
    (hwait : config.interval.wait (n + 1) (draws index) = wait) (layer : Layer ε ν) :
    Comes config draws c w
      (m.put 0 layer [.retry (.retry (n + 1) wait (textOf outcome))])
      (c.manner.sleeps wait) (.ready (n + 1) (c.manner.due w.timer wait)) := by
  obtain ⟨sights, runs, hsince, hruns, hpath⟩ := h
  refine ⟨_, _, hsince.put 0 layer [_], hruns, ?_⟩
  rw [List.append_nil] at hpath
  rw [List.append_assoc, stamped_append, ← List.append_assoc]
  exact hpath.again houtcome hopen hleft index hwait

theorem Comes.ends (h : Comes config draws c w m [] (.running n))
    (houtcome : (c.endings n).outcome? = some outcome)
    (hstop : config.isFinal outcome = true ∨ config.maxAttempts ≤ n + 1) (layer : Layer ε ν) :
    Comes config draws c w (m.put 0 layer ((config.closing (n + 1) outcome).map .retry)) []
      (.ended (n + 1) (c.endings n)) := by
  obtain ⟨sights, runs, hsince, hruns, hpath⟩ := h
  refine ⟨_, _, hsince.put 0 layer _, hruns, ?_⟩
  have hfarewell : config.farewell (n + 1) (c.endings n) =
      (config.closing (n + 1) outcome).map .told := by
    rw [Config.farewell, houtcome, Option.elim_some]
  have hends : config.isEndedBy (c.endings n) = true ∨ config.maxAttempts ≤ n + 1 := by
    rwa [Config.isEndedBy, houtcome, Option.all_some]
  rw [List.append_nil] at hpath ⊢
  rw [stamped_append, ← List.append_assoc, ← hfarewell]
  exact hpath.ends hends

theorem Comes.panics (h : Comes config draws c w m [] (.running n))
    (hpanics : (c.endings n).outcome? = none) :
    Comes config draws c w m [] (.ended (n + 1) (c.endings n)) := by
  obtain ⟨sights, runs, hsince, hruns, hpath⟩ := h
  refine ⟨sights, runs, hsince, hruns, ?_⟩
  have hends : config.isEndedBy (c.endings n) = true := by
    rw [Config.isEndedBy, hpanics, Option.all_none]
  have hfarewell : config.farewell (n + 1) (c.endings n) = [] := by
    rw [Config.farewell, hpanics, Option.elim_none, List.map_nil]
  have hlast : Way config c.manner draws c.endings _ (_ ++ stamped w.timer _) :=
    hpath.ends (.inl hends)
  rwa [hfarewell, stamped_nil, List.append_nil] at hlast

/-- An outcome ends a call and is counted, or another attempt follows. The wait for it uses the next
draw of the retry. -/
theorem Comes.told {r : Retry ε ν} (hm : m.layers = [.retry r])
    (hdraws : r.DrawsFrom draws)
    (h : Comes r.config draws c w m [] (.running n))
    (houtcome : (c.endings n).outcome? = some outcome) :
    (∃ k, m.leave 0 (.attempts n) outcome = (k, .done) ∧
      k.layers = [.retry (r.counted ((Stage.ended (n + 1) (c.endings n)).counter? r.config))] ∧
        Comes r.config draws c w k [] (.ended (n + 1) (c.endings n))) ∨
      ∃ k wait, m.leave 0 (.attempts n) outcome = (k, .again (n + 1) wait) ∧
        k.layers = [.retry (r.spent 1)] ∧ n + 1 < r.config.maxAttempts ∧
          Comes r.config draws c w k (c.manner.sleeps wait)
            (.ready (n + 1) (c.manner.due w.timer wait)) := by
  by_cases hstop : r.config.isFinal outcome = true ∨ r.config.maxAttempts ≤ n + 1
  · refine .inl ⟨_, World.leave_final hm hstop, ?_, h.ends houtcome hstop _⟩
    rw [World.put_single hm, Stage.counter?, houtcome, Option.bind_some]
  · obtain ⟨hopen, hleft⟩ :
        r.config.isFinal outcome = false ∧ n + 1 < r.config.maxAttempts := by
      simpa using hstop
    obtain ⟨used, hused⟩ := hdraws
    have hwait : r.config.interval.wait (n + 1) (draws used) =
        r.config.interval.wait (n + 1) r.draws.next := by
      rw [hused, Draws.next_drop]
    exact .inr ⟨_, _, World.leave_open hm hopen hleft, World.put_single hm _ _, hleft,
      h.again houtcome hopen hleft used hwait _⟩

end Comes

/-- A suspended call has come to a stage with no more than so much left, and the retry has counted
it if it has ended. -/
structure Arrives (draws : Draws) (r : Retry ε ν) (c : Call ε ν) (w : World ε ν) (bound : Nat)
    (result : World ε ν × Progress ε ν) (stage : Stage ε ν) : Prop where
  comes : Comes r.config draws c w result.1 [] stage
  fits : Fits c.script .suspending stage (.ofProgress result.2)
  layers : ∃ count,
    result.1.layers = [.retry ((r.spent count).counted (stage.counter? r.config))]
  left_le : stage.left r.config.maxAttempts ≤ bound

section Arrivals
variable {draws : Draws} {r : Retry ε ν} {c : Call ε ν} {w : World ε ν} {bound more : Nat}
  {result : World ε ν × Progress ε ν} {stage : Stage ε ν}

theorem Arrives.mono (h : Arrives draws r c w bound result stage) (hle : bound ≤ more) :
    Arrives draws r c w more result stage :=
  { h with left_le := Nat.le_trans h.left_le hle }

/-- What a retry has drawn in between does not matter. -/
theorem Arrives.of_spent {count : Nat} (h : Arrives draws (r.spent count) c w bound result stage) :
    Arrives draws r c w bound result stage := by
  obtain ⟨hcomes, hfits, ⟨later, hlayers⟩, hleft⟩ := h
  rw [spent_spent] at hlayers
  exact ⟨hcomes, hfits, ⟨_, hlayers⟩, hleft⟩

end Arrivals

section Suspended
variable {draws : Draws} {r : Retry ε ν} {c : Call ε ν} {w m : World ε ν}
  {n due fuel bound : Nat}
  (hmanner : c.manner = .suspending) (hdraws : r.DrawsFrom draws)

/-- What comes of an attempt comes of it when it begins as well. -/
theorem Comes.attempted {inner : World ε ν → World ε ν × Progress ε ν}
    (hw : m.layers = [.retry r]) (h : Comes r.config draws c w m [] (.ready n due))
    (hdue : due ≤ w.timer) (hbound : 2 * (r.config.maxAttempts - n) - 1 ≤ bound)
    (hends : ∀ k : World ε ν, k.layers = [.retry r] → Comes r.config draws c w k [] (.running n) →
      ∃ stage, Arrives draws r c w bound
        (World.surround 0 inner fuel (.attempts n) (k, .inl (c.endings n))) stage) :
    ∃ stage, Arrives draws r c w bound
      (World.surround 0 inner fuel (.attempts n) (m.startRun (c.operation w m.runs))) stage := by
  have hrun : c.operation w m.runs = c.script n := h.operation_eq
  rw [hrun]
  rcases m.startRun_cases (c.script n) with ⟨due, hstalls, hstart⟩ | ⟨clock, hstart⟩
  · rw [hstart, World.surround_suspended]
    exact ⟨.running n, h.begins hdue, .operates n hstalls, layers_spent hw, hbound⟩
  · rw [hstart]
    exact hends _ hw ((h.begins hdue).setClock clock)

include hmanner hdraws

/-- A run that has ended is followed by others for as long as the retry goes on at once. -/
theorem Comes.settled (hw : m.layers = [.retry r])
    (h : Comes r.config draws c w m [] (.running n)) (hfuel : r.config.maxAttempts ≤ n + 1 + fuel) :
    ∃ stage, Arrives draws r c w (2 * (r.config.maxAttempts - (n + 1)))
      (World.surround 0 (World.start (c.operation w) []) fuel (.attempts n)
        (m, .inl (c.endings n))) stage := by
  induction fuel using Nat.strongRecOn generalizing r m n with
  | ind fuel ih =>
    cases houtcome : (c.endings n).outcome? with
    | none =>
      have hcomes := h.panics houtcome
      rw [Ending.eq_panicked houtcome] at hcomes ⊢
      rw [World.surround_panicked, World.abandon_single hw]
      exact ⟨_, hcomes, .ended _ _ _, layers_spent hw, Nat.zero_le _⟩
    | some outcome =>
      rcases h.told hw hdraws houtcome with
        ⟨k, hleave, hk, hcomes⟩ | ⟨k, wait, hleave, hk, hleft, hcomes⟩
      · rw [World.surround_done houtcome hleave]
        exact ⟨_, hcomes, .ended _ _ _, layers_spent hk, Nat.zero_le _⟩
      · rw [hmanner] at hcomes
        have htimer := hcomes.timer_eq
        by_cases hover : Timer.wakeAt k.timer wait ≤ k.timer
        · -- The timer would go off at once, so the next attempt is made without a pause.
          obtain ⟨fuel, rfl⟩ : ∃ less, fuel = less + 1 := ⟨fuel - 1, by omega⟩
          rw [World.surround_again houtcome hleave hover]
          rw [htimer] at hover
          suffices ∃ stage, Arrives draws (r.spent 1) c w _ _ stage from
            this.imp fun _ harrives => harrives.of_spent
          refine Comes.attempted hk hcomes hover (by simp only [spent_config]; omega)
            fun m hm hrunning => ?_
          obtain ⟨stage, harrives⟩ :=
            ih fuel (Nat.lt_succ_self _) (hdraws.spent 1) hm hrunning
              (by simp only [spent_config]; omega)
          exact ⟨stage, harrives.mono (by simp only [spent_config]; omega)⟩
        · rw [World.surround_waits houtcome hleave hover]
          refine ⟨_, hcomes, ?_, ⟨1, hk⟩, Nat.le_refl _⟩
          rw [Manner.due, ← htimer]
          exact .waits _ _

/-- A suspended call that may make its next attempt. -/
theorem Comes.attempts (hw : m.layers = [.retry r])
    (h : Comes r.config draws c w m [] (.ready n due)) (hdue : due ≤ w.timer) :
    ∃ stage, Arrives draws r c w (2 * (r.config.maxAttempts - n) - 1)
      (World.surround 0 (World.start (c.operation w) []) (m.patience 0) (.attempts n)
        (World.start (c.operation w) [] m)) stage := by
  refine Comes.attempted hw h hdue (Nat.le_refl _) fun k hk hrunning => ?_
  have hfuel : r.config.maxAttempts ≤ n + 1 + m.patience 0 := by
    rw [World.patience_single hw]
    omega
  obtain ⟨stage, harrives⟩ := hrunning.settled hmanner hdraws hk hfuel
  exact ⟨stage, harrives.mono (by omega)⟩

/-- A call that is started. -/
theorem start_arrives (hw : w.layers = [.retry r]) (hfresh : c.runs = 0) (hlog : c.log = []) :
    ∃ stage, Arrives draws r c w (2 * r.config.maxAttempts - 1)
      (World.start (c.operation w) [0] w) stage := by
  have hcomes : Comes r.config draws c w w [] (.ready 0 0) := .refl (hlog ▸ Way.here) hfresh w
  obtain ⟨stage, harrives⟩ := hcomes.attempts hmanner hdraws hw (Nat.zero_le _)
  rw [World.start, World.enter_single hw, World.proceed]
  exact ⟨stage, harrives⟩

/-- A call that is polled when its wait is over makes its next attempt. -/
theorem poll_over (hw : w.layers = [.retry r]) (h : Comes r.config draws c w w [] (.ready n due))
    (hover : due ≤ w.timer) :
    ∃ stage, Arrives draws r c w (2 * (r.config.maxAttempts - n) - 1)
      (World.poll (c.operation w) [0] (.waiting (.backoff n due)) w) stage := by
  rw [World.poll, World.resumeAt_over (congrArg _ (World.getElem?_of_single hw)) hover,
    World.proceed]
  exact h.attempts hmanner hdraws hw hover

/-- A call that is polled. If its time has come and its run comes back, it gets ahead. -/
theorem poll_arrives {s : Suspended ε ν} {stage : Stage ε ν} (hw : w.layers = [.retry r])
    (hpath : Way r.config c.manner draws c.endings stage c.log) (hruns : c.runs = stage.runs)
    (hfits : Fits c.script .suspending stage (.suspended s))
    (hbound : stage.left r.config.maxAttempts ≤ bound ∨
      (∃ due, s.due = some due ∧ due ≤ w.timer) ∧ (∀ n, (c.script n).stalls = false) ∧
        stage.left r.config.maxAttempts - 1 ≤ bound) :
    ∃ next, Arrives draws r c w bound (World.poll (c.operation w) [0] s w) next := by
  have hcomes : Comes r.config draws c w w [] stage := .refl hpath hruns w
  have hfuel (n : Nat) : r.config.maxAttempts ≤ n + 1 + w.patience 0 := by
    rw [World.patience_single hw]
    omega
  cases hfits with
  | waits n due =>
    by_cases hover : due ≤ w.timer
    · obtain ⟨next, harrives⟩ := poll_over hmanner hdraws hw hcomes hover
      refine ⟨next, harrives.mono ?_⟩
      simp only [Stage.left] at hbound
      omega
    · rw [World.poll, World.resumeAt_early hw hover, World.proceed]
      refine ⟨_, hcomes, .waits n due, layers_spent hw, hbound.resolve_right ?_⟩
      rintro ⟨⟨_, hdue, hle⟩, -⟩
      cases hdue
      exact hover hle
  | @operates n due hstalls =>
    have hends (clock : Clock) : ∃ next, Arrives draws r c w bound
        (World.surround 0 (World.start (c.operation w) []) (w.patience 0) (.attempts n)
          (w.setClock clock, .inl (c.endings n))) next := by
      obtain ⟨next, harrives⟩ :=
        (hcomes.setClock clock).settled hmanner hdraws (m := w.setClock clock) hw (hfuel n)
      refine ⟨next, harrives.mono ?_⟩
      simp only [Stage.left] at hbound
      omega
    rw [World.poll]
    cases due with
    | none =>
      have hstays : World.poll (c.operation w) [] (.operating none (c.script n)) w =
          (w, .inr (.operating none (c.script n))) := rfl
      rw [hstays, World.surround_suspended]
      refine ⟨_, hcomes, .operates n hstalls, layers_spent hw, hbound.resolve_right ?_⟩
      rintro ⟨⟨_, hdue, -⟩, -⟩
      cases hdue
    | some due =>
      rw [World.poll]
      rcases w.sleepUntil_cases due (c.script n) with
        ⟨hearly, hsleeps⟩ | ⟨hstalls, hsleeps⟩ | ⟨clock, hsleeps⟩
      · rw [hsleeps, World.surround_suspended]
        refine ⟨_, hcomes, .operates n nofun, layers_spent hw, hbound.resolve_right ?_⟩
        rintro ⟨⟨_, hdue, hle⟩, -⟩
        cases hdue
        exact absurd hle (Nat.not_le_of_lt hearly)
      · rw [hsleeps, World.surround_suspended]
        refine ⟨_, hcomes, .operates n fun _ => hstalls, layers_spent hw,
          hbound.resolve_right ?_⟩
        rintro ⟨-, hback, -⟩
        rw [hback n] at hstalls
        cases hstalls
      · rw [hsleeps]
        exact hends clock

end Suspended

/-- A call that has come to a stage of its script. -/
structure Call.Follows (config : Config ε ν) (draws : Draws) (c : Call ε ν) (stage : Stage ε ν) :
    Prop where
  way : Way config c.manner draws c.endings stage c.log
  runs_eq : c.runs = stage.runs

/-- A call of which less may still come than before has made another attempt. -/
theorem Call.Follows.lt_runs {config : Config ε ν} {draws : Draws} {c : Call ε ν}
    {stage : Stage ε ν} {n : Nat} (h : c.Follows config draws stage)
    (hpos : 0 < config.maxAttempts) (hleft : n < config.maxAttempts)
    (hopen : ∀ j < n, config.isEndedBy (c.endings j) = false)
    (hless : stage.left config.maxAttempts < 2 * (config.maxAttempts - n)) : n < c.runs := by
  rw [h.runs_eq]
  cases stage with
  | ready k due | running k =>
    simp only [Stage.left, Stage.runs] at hless ⊢
    omega
  | ended k e =>
    obtain ⟨hlast, -⟩ := h.way.ended_eq hpos
    rw [Stage.runs, hlast]
    exact Config.lt_attempts hopen hleft

theorem Comes.follows {config : Config ε ν} {draws : Draws} {c : Call ε ν} {w m : World ε ν}
    {slept : List Sight} {stage : Stage ε ν} (h : Comes config draws c w m slept stage) :
    (c.after w m slept).Follows config draws stage := by
  obtain ⟨sights, runs, hsince, hruns, hpath⟩ := h
  constructor
  · rw [Call.after, hsince.seenSince_eq, hsince.timer_eq]
    exact hpath
  · rw [← hruns, Call.after, hsince.runs_eq, Nat.add_sub_cancel_left]

/-- A caller that went on has come to a stage with no more than so much left, and the retry has
counted it if it has ended. -/
structure Lands (draws : Draws) (r : Retry ε ν) (bound : Nat) (result : World ε ν × Caller ε ν)
    (stage : Stage ε ν) : Prop where
  follows : result.2.Follows r.config draws stage
  fits : Fits result.2.script result.2.manner stage result.2.doing
  layers : ∃ count,
    result.1.layers = [.retry ((r.spent count).counted (result.2.counter? r.config))]
  left_le : stage.left r.config.maxAttempts ≤ bound

section Landings
variable {draws : Draws} {r : Retry ε ν} {c : Call ε ν} {w : World ε ν} {n bound : Nat}
  {stage : Stage ε ν}

theorem Lands.of_stage {result : World ε ν × Caller ε ν}
    (hfollows : result.2.Follows r.config draws stage)
    (hfits : Fits result.2.script result.2.manner stage result.2.doing)
    (hlayers : ∃ count,
      result.1.layers = [.retry ((r.spent count).counted (stage.counter? r.config))])
    (hleft : stage.left r.config.maxAttempts ≤ bound) : Lands draws r bound result stage :=
  ⟨hfollows, hfits, by rwa [hfits.counter?_eq hfollows.runs_eq], hleft⟩

theorem Arrives.lands {result : World ε ν × Progress ε ν} (hmanner : c.manner = .suspending)
    (h : Arrives draws r c w bound result stage) :
    Lands draws r bound (Desk.wentOn w c result) stage := by
  have hfits : Fits c.script c.manner stage (.ofProgress result.2) := by
    rw [hmanner]
    exact h.fits
  exact .of_stage h.comes.follows hfits h.layers h.left_le

/-- An attempt of a caller that blocks its thread is one of its script. -/
theorem attempt_lands (hw : w.layers = [.retry r]) (hmanner : c.manner = .blocking)
    (hdraws : r.DrawsFrom draws) (h : c.Follows r.config draws (.ready n 0)) :
    ∃ stage, Lands draws r (2 * (r.config.maxAttempts - (n + 1)))
      (Desk.attempt w c (.attempts n)) stage := by
  have hrun : c.script c.runs = c.script n := congrArg c.script h.runs_eq
  have hrunning : Comes r.config draws c w (w.beginRun.endRun (c.script n)).1 [] (.running n) :=
    ((Comes.refl h.way h.runs_eq w).begins (Nat.zero_le _)).setClock _
  have hlayers : (w.beginRun.endRun (c.script n)).1.layers = [.retry r] := hw
  cases houtcome : (c.endings n).outcome? with
  | none =>
    have hturn := World.turn_panicked (w := w) (h := .attempts n) houtcome
    rw [World.abandon_single hlayers] at hturn
    refine ⟨.ended (n + 1) (c.endings n), ?_⟩
    rw [Desk.attempt, hrun, hturn]
    refine .of_stage (hrunning.panics houtcome).follows (.ended _ _ _) ?_ (Nat.zero_le _)
    rw [Stage.counter?, houtcome, Option.bind_none]
    exact layers_spent hlayers
  | some outcome =>
    rcases hrunning.told hlayers hdraws houtcome with
      ⟨k, hleave, hk, hcomes⟩ | ⟨k, wait, hleave, hk, hleft, hcomes⟩
    · refine ⟨.ended (n + 1) (c.endings n), ?_⟩
      rw [Desk.attempt, hrun, World.turn_done houtcome hleave]
      exact .of_stage hcomes.follows (.ended _ _ _) (layers_spent hk) (Nat.zero_le _)
    · rw [hmanner] at hcomes
      have hfits : Fits c.script c.manner (.ready (n + 1) 0) (.blocks (.attempts (n + 1))) := by
        rw [hmanner]
        exact .blocks _
      obtain ⟨clock, hpass⟩ := k.pass_eq wait
      refine ⟨.ready (n + 1) 0, ?_⟩
      rw [Desk.attempt, hrun, World.turn_again houtcome hleave, hpass]
      exact .of_stage (hcomes.setClock clock).follows hfits ⟨1, hk⟩ (Nat.le_refl _)

end Landings

end FaultTolerance.Retry
