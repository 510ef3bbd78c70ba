import FaultTolerance.Proofs.Adaptive.Calls
import FaultTolerance.Proofs.Window.LastSeconds

/-! The limit of an adaptive bulkhead stays where it may be and moves only when it may.

`Leads` says that reported changes are the way the limit has gone, and `Governed` is the invariant:
the limit lies between its bounds, the counter is the limit less the callers that run, and
evaluations lie apart. An evaluation is due once the adjustment interval has passed, as far as the
clock can tell: an interval that is longer than the clock can show is cut to what it can show, and
so evaluations are less than such an interval apart (`cut_interval_passes`).

The main theorem is **`limit_governed`**. -/
namespace FaultTolerance

/-- An emptied window has nothing counted and nothing stored. -/
theorem Window.recount_reset (w : Window) (now : Nat) : (w.reset now).recount = ({}, {}) := by
  unfold reset
  cases w.calls with
  | count c => rfl
  | timed t =>
    show (({} : Totals), (TimedWindow.empty t.buckets.size (secondsOf now)).recount) = _
    unfold TimedWindow.recount TimedWindow.empty
    rw [Array.toList_replicate, List.map_replicate, Totals.sum_replicate]

/-- A counter that is the limit less the callers that run is in its range. -/
theorem Bulkhead.Conserved.ranged {b : Bulkhead} {running : Nat}
    (h : Bulkhead.Conserved b running) : b.Ranged := by
  obtain ⟨hlimit, hcounter, hrunning⟩ := h
  have hcapacity := Bulkhead.Config.capacity_of_le hlimit
  refine ⟨hlimit, ⟨?_⟩, ?_⟩ <;> omega

namespace Adaptive
open Bulkhead (inFlight)
open Bulkhead.Step (greatestLimit)
variable {ε : Type}

/-! ### Configurations -/

/-- The bounds of the limit are in order, and the window can be made. -/
structure Config.Sound (c : Config ε) : Prop where
  min_pos : 0 < c.minConcurrentCalls
  min_le : c.minConcurrentCalls ≤ c.initialConcurrentCalls
  le_max : c.initialConcurrentCalls ≤ c.maxConcurrentCalls
  windowSize_pos : 0 < c.windowSize

theorem Config.sound_of_validate {c : Config ε} (h : c.validate = .ok ()) : c.Sound := by
  obtain ⟨hmin, h⟩ := ok_of_bind h
  obtain ⟨horder, h⟩ := ok_of_bind h
  obtain ⟨_, h⟩ := ok_of_bind h
  obtain ⟨_, h⟩ := ok_of_bind h
  obtain ⟨hsize, _⟩ := ok_of_bind h
  have hmin := of_require hmin
  have horder := of_require horder
  have hsize := of_require hsize
  simp only [bne_iff_ne, Bool.and_eq_true, decide_eq_true_eq] at hmin horder hsize
  exact ⟨Nat.pos_of_ne_zero hmin, horder.1, horder.2, Nat.pos_of_ne_zero hsize.1⟩

/-- What a new adaptive bulkhead is. -/
theorem new_of_validate (name : String) {c : Config ε} (now : Nat) (hvalid : c.validate = .ok ())
    (hmax : c.maxConcurrentCalls ≤ greatestLimit) :
    ∃ window, new name c now = .ok
      { name, config := c, window, lastAdjustment := now
        bulkhead := { name
                      config := { maxConcurrentCalls := c.initialConcurrentCalls
                                  maxWait := c.maxWait }
                      available := c.initialConcurrentCalls } } := by
  have hsound := Config.sound_of_validate hvalid
  have hpos : c.initialConcurrentCalls ≠ 0 :=
    Nat.ne_of_gt (Nat.lt_of_lt_of_le hsound.min_pos hsound.min_le)
  have hpermits : Bulkhead.new name
      { maxConcurrentCalls := c.initialConcurrentCalls, maxWait := c.maxWait } = .ok _ :=
    Bulkhead.new_of_validate name (if_pos (bne_iff_ne.mpr hpos))
      (Nat.le_trans hsound.le_max hmax)
  have hwindow : ∃ w, Window.ofKind c.windowKind c.windowSize c.effectiveMinimum now = .ok w := by
    unfold Window.ofKind
    split
    · exact ⟨_, Window.countBased_eq hsound.windowSize_pos _⟩
    · exact ⟨_, Window.timeBased_eq hsound.windowSize_pos ..⟩
  obtain ⟨w, hw⟩ := hwindow
  refine ⟨w, ?_⟩
  unfold new
  rw [hvalid, hpermits, hw]
  rfl

/-! ### Evaluations -/

/-- Changes of the limit that begin at one limit and end at another, each at the limit that the one
before it has led to, and away from it. -/
inductive Leads (start : Nat) : List (Nat × Nat) → Nat → Prop
  | nowhere : Leads start [] start
  | further {changes : List (Nat × Nat)} {before after : Nat} (h : Leads start changes before)
    (hne : before ≠ after) : Leads start (changes ++ [(before, after)]) after

section Evaluations
variable (a : Adaptive ε) (now limit : Nat)

/-- A new limit is all that is new, and it is the one that was asked for. -/
theorem resize_limit : (a.resize limit).1 = { a with bulkhead := (a.resize limit).1.bulkhead } ∧
    ((a.resize limit).1.limit = a.limit ∨ (a.resize limit).1.limit = limit) := by
  unfold resize
  split
  case isTrue => exact ⟨rfl, .inl rfl⟩
  case isFalse =>
    split
    case h_1 m hok => exact ⟨rfl, .inr (by rw [Adaptive.limit, (Bulkhead.configure_ok hok).1])⟩
    case h_2 | h_3 => exact ⟨rfl, .inl rfl⟩

/-- A new limit is reported. -/
theorem resize_leads {start : Nat} {changes : List (Nat × Nat)}
    (h : Leads start changes a.limit) :
    Leads start (changes ++ changesOf (a.resize limit).2.1) (a.resize limit).1.limit := by
  unfold resize
  split
  case isTrue => rwa [changesOf, List.filterMap_nil, List.append_nil]
  case isFalse hne =>
    split
    case h_1 m hok =>
      have hlimit : Adaptive.limit { a with bulkhead := m } = limit := by
        rw [Adaptive.limit, (Bulkhead.configure_ok hok).1]
      rw [hlimit]
      exact .further h (Ne.symm hne)
    case h_2 | h_3 => rwa [changesOf, List.filterMap_nil, List.append_nil]

theorem le_propose (config : Config ε) (phase : Phase) (breached : Bool) :
    config.minConcurrentCalls ≤ propose config phase limit breached := Nat.le_max_left ..

end Evaluations

/-- What an evaluation leaves. -/
structure Evaluated (a m : Adaptive ε) (now : Nat) : Prop where
  config_eq : m.config = a.config
  lastAdjustment_eq : m.lastAdjustment = now
  window_empty : m.window.recount = ({}, {})
  /-- The limit is the old one or lies between the bounds. -/
  limit_between : m.limit = a.limit ∨ a.config.minConcurrentCalls ≤ m.limit ∧
    m.limit ≤ max a.config.minConcurrentCalls a.config.maxConcurrentCalls

theorem evaluate_evaluated (a : Adaptive ε) (now : Nat) (view : Snapshot) (latency : Float) :
    Evaluated a (a.evaluate now view latency).1 now := by
  unfold evaluate
  dsimp only
  generalize hlimit : propose a.config a.phase a.limit (breached a.config view latency) = limit
  obtain ⟨hrest, hreached⟩ := resize_limit
    { a with
      phase := a.phase.after (breached a.config view latency)
      lastAdjustment := now
      window := a.window.reset now } limit
  refine ⟨?_, ?_, ?_, ?_⟩
  · rw [hrest]
  · rw [hrest]
  · rw [hrest]
    exact a.window.recount_reset now
  · rcases hreached with hsame | hnew
    · exact .inl hsame
    · rw [hnew, ← hlimit]
      exact .inr ⟨le_propose .., propose_le ..⟩

/-- A record that evaluates the limit was due, and reports the change that it makes. -/
theorem record_evaluated {a : Adaptive ε} {now : Nat} {elapsed : Duration} {failed : Bool}
    (h : a.evaluates now elapsed failed = true) :
    a.isDue now = true ∧ Evaluated a (a.record now elapsed failed).1 now ∧
      ∀ {start before}, Leads start before a.limit → Leads start
        (before ++ changesOf (a.record now elapsed failed).2.1)
        (a.record now elapsed failed).1.limit := by
  obtain ⟨hdue, -⟩ := (Bool.and_eq_true ..).mp h
  rw [record_of_evaluates a now h]
  obtain ⟨hconfig, hlast, hempty, hbetween⟩ := evaluate_evaluated (a.observed now elapsed failed)
    now (a.observed now elapsed failed).window.view
    (smooth a.latency elapsed a.config.latencySmoothing)
  exact ⟨hdue, ⟨hconfig, hlast, hempty, hbetween⟩, fun hleads => resize_leads _ _ hleads⟩

/-! ### Steps -/

section Steps
variable {a m : Adaptive ε} {now running left : Nat} {i : Step ε} {changes : List (Nat × Nat)}

/-- A new limit within the range of the counter is one more change of a bulkhead's
configuration. -/
theorem Resized.conserved {config : Config ε} {b m : Bulkhead} {settled : Bool}
    (h : Resized config b m settled)
    (hmax : max config.minConcurrentCalls config.maxConcurrentCalls ≤ greatestLimit)
    (hb : Bulkhead.Conserved b running) : Bulkhead.Conserved m running := by
  cases h with
  | kept | stuck => exact hb
  | resized hle hok =>
    exact (Bulkhead.Effect.configured running rfl hok).conserved rfl
      (decide_eq_true (Nat.le_trans hle hmax)) hb

theorem Effect.conserved {evaluated : Bool} (h : Effect a now running i m changes evaluated left)
    (hmax : max a.config.minConcurrentCalls a.config.maxConcurrentCalls ≤ greatestLimit)
    (ha : Bulkhead.Conserved a.bulkhead running) : Bulkhead.Conserved m.bulkhead left := by
  cases h with
  | idle | looked _ => exact ha
  | permits h _ | recorded h _ _ => exact h.conserved rfl rfl ha
  | @evaluated m _ _ _ h _ _ _ =>
    exact (record_resized { a with bulkhead := m } ..).conserved hmax (h.conserved rfl rfl ha)

/-- Without an evaluation the limit and the phase stay. -/
theorem Effect.unevaluated (h : Effect a now running i m changes false left) :
    m.config = a.config ∧ m.limit = a.limit ∧ m.phase = a.phase ∧
      m.lastAdjustment = a.lastAdjustment ∧ changes = [] := by
  cases h with
  | idle | looked _ => exact ⟨rfl, rfl, rfl, rfl, rfl⟩
  | permits _ hconfig | recorded _ hconfig _ =>
    exact ⟨rfl, congrArg (·.maxConcurrentCalls) hconfig, rfl, rfl, rfl⟩

/-- An evaluation was due, and reports the change that it makes. -/
theorem Effect.evaluation (h : Effect a now running i m changes true left) :
    a.isDue now = true ∧ Evaluated a m now ∧
      ∀ {start before}, Leads start before a.limit → Leads start (before ++ changes) m.limit := by
  cases h with
  | @evaluated m _ _ _ _ hconfig _ hevaluates =>
    have hlimit : limit { a with bulkhead := m } = a.limit :=
      congrArg (·.maxConcurrentCalls) hconfig
    obtain ⟨hdue, ⟨hsame, hlast, hempty, hbetween⟩, hleads⟩ := record_evaluated hevaluates
    rw [hlimit] at hbetween hleads
    exact ⟨hdue, ⟨hsame, hlast, hempty, hbetween⟩, hleads⟩

/-- What records nothing leaves the window, the latency, the phase and the limit alone, unless
somebody looks at the window. -/
theorem Effect.quiet {evaluated : Bool} (h : Effect a now running i m changes evaluated left)
    (hnone : i.outcome? a.config = none) (hlook : i ≠ .look) :
    m = { a with bulkhead := m.bulkhead } ∧ m.limit = a.limit ∧ evaluated = false := by
  cases h with
  | idle => exact ⟨rfl, rfl, rfl⟩
  | permits _ hconfig => exact ⟨rfl, congrArg (·.maxConcurrentCalls) hconfig, rfl⟩
  | looked h => exact absurd h hlook
  | recorded _ _ houtcome | evaluated _ _ houtcome _ =>
    rw [hnone] at houtcome
    cases houtcome

/-- The counter follows every limit that the record of a call asks for. -/
theorem Ranged.report_settles [Fault ε] (ha : a.Ranged) (now : Nat) (ending : Ending ε) :
    (ending.report a now).2.2 = true := by
  cases houtcome : ending.outcome? a.config with
  | none => rw [ending.report_of_none a now houtcome]
  | some outcome =>
    rw [ending.report_of_some a now houtcome]
    exact ((record_resized a ..).ranged ha.min_le ha.max_le ha.permits).2

theorem Ranged.apply_settles [Fault ε] (ha : a.Ranged) (now : Nat) (ending : Ending ε) :
    (ending.apply a now).2.2 = true := by
  have hreleased : a.release.Ranged := ⟨ha.min_le, ha.max_le, ha.permits.release⟩
  rw [ending.apply_eq]
  exact hreleased.report_settles now ending

end Steps

/-! ### Runs -/

/-- What holds at every moment of a run. -/
structure Governed (config : Config ε) (start : Nat) (s : Ledger ε) : Prop where
  config_eq : s.adaptive.config = config
  min_le : config.minConcurrentCalls ≤ s.adaptive.limit
  le_max : s.adaptive.limit ≤ config.maxConcurrentCalls
  conserved : Bulkhead.Conserved s.adaptive.bulkhead (inFlight s.callers)
  leads : Leads config.initialConcurrentCalls (changesOf s.notices) s.adaptive.limit
  spaced : (start :: s.evaluations).Pairwise
    fun earlier later => earlier + config.adjustmentInterval.ticks ≤ later
  adjusted : ∀ reading ∈ start :: s.evaluations, reading ≤ s.adaptive.lastAdjustment
  adjusted_le : s.adaptive.lastAdjustment ≤ s.now

namespace Governed
variable {config : Config ε} {start : Nat} {s t : Ledger ε}

theorem max_le (h : Governed config start s) :
    max config.minConcurrentCalls config.maxConcurrentCalls = config.maxConcurrentCalls :=
  Nat.max_eq_right (Nat.le_trans h.min_le h.le_max)

theorem told {i : Step ε} (hmax : config.maxConcurrentCalls ≤ greatestLimit)
    (h : Governed config start s) (htold : Told s t i) : Governed config start t := by
  obtain ⟨hnow, changes, evaluated, heffect, hnotices, hevaluations⟩ := htold
  have hbounds := h.max_le
  obtain ⟨hconfig, hmin, hle, hconserved, hleads, hspaced, hadjusted, hpast⟩ := h
  subst hconfig
  have hconserved := heffect.conserved (hbounds.symm ▸ hmax) hconserved
  cases evaluated with
  | false =>
    obtain ⟨hconfig, hlimit, -, hlast, rfl⟩ := heffect.unevaluated
    have hevaluations : t.evaluations = s.evaluations := hevaluations
    rw [List.append_nil] at hnotices
    refine ⟨hconfig, ?_, ?_, hconserved, ?_, ?_, ?_, ?_⟩
    · rwa [hlimit]
    · rwa [hlimit]
    · rwa [hlimit, hnotices]
    · rwa [hevaluations]
    · rwa [hevaluations, hlast]
    · rwa [hlast, hnow]
  | true =>
    obtain ⟨hdue, ⟨hconfig, hlast, -, hlimit⟩, hfurther⟩ := heffect.evaluation
    have hevaluations : t.evaluations = s.evaluations ++ [s.now] := hevaluations
    rw [hbounds] at hlimit
    have hdue := of_decide_eq_true hdue
    refine ⟨hconfig, ?_, ?_, hconserved, ?_, ?_, ?_, ?_⟩
    · rcases hlimit with hsame | hnew
      · rwa [hsame]
      · exact hnew.1
    · rcases hlimit with hsame | hnew
      · rwa [hsame]
      · exact hnew.2
    · rw [hnotices]
      exact hfurther hleads
    · rw [hevaluations, ← List.cons_append]
      refine List.pairwise_append.mpr ⟨hspaced, List.pairwise_singleton .., ?_⟩
      intro earlier hearlier later hlater
      rw [List.mem_singleton.mp hlater]
      have := hadjusted earlier hearlier
      omega
    · rw [hevaluations, ← List.cons_append, hlast]
      intro reading hreading
      rcases List.mem_append.mp hreading with hold | hnew
      · exact Nat.le_trans (hadjusted reading hold) hpast
      · exact Nat.le_of_eq (List.mem_singleton.mp hnew)
    · rw [hlast, hnow]

theorem next [Timer] [Fault ε] (hmax : config.maxConcurrentCalls ≤ greatestLimit)
    (h : Governed config start s) (i : Input ε) : Governed config start (s.next i) := by
  have hlater : Governed config start { s with now := s.now + i.passed } :=
    { h with adjusted_le := Nat.le_trans h.adjusted_le (Nat.le_add_right ..) }
  exact hlater.told hmax (Ledger.act_told _ i.step)

theorem run [Timer] [Fault ε] (hmax : config.maxConcurrentCalls ≤ greatestLimit)
    (h : Governed config start s) (inputs : List (Input ε)) :
    Governed config start (inputs.foldl Ledger.next s) := by
  induction inputs generalizing s with
  | nil => exact h
  | cons i rest ih => exact ih (h.next hmax i)

theorem new [Fault ε] (name : String) (start : Nat) (hvalid : config.validate = .ok ())
    (hmax : config.maxConcurrentCalls ≤ greatestLimit) :
    ∃ a, Adaptive.new name config start = .ok a ∧
      Governed config start { adaptive := a, now := start } := by
  have hsound := Config.sound_of_validate hvalid
  obtain ⟨w, hnew⟩ := new_of_validate name start hvalid hmax
  refine ⟨_, hnew, ?_⟩
  exact {
    config_eq := rfl
    min_le := hsound.min_le
    le_max := hsound.le_max
    conserved := ⟨Nat.le_trans hsound.le_max hmax, (Int.sub_zero _).symm, Nat.zero_le _⟩
    leads := .nowhere
    spaced := List.pairwise_singleton ..
    adjusted := fun reading hreading => Nat.le_of_eq (List.mem_singleton.mp hreading)
    adjusted_le := Nat.le_refl _ }

theorem ranged (hmax : config.maxConcurrentCalls ≤ greatestLimit) (h : Governed config start s) :
    s.adaptive.Ranged where
  min_le := h.config_eq ▸ Nat.le_trans (Nat.le_trans h.min_le h.le_max) hmax
  max_le := h.config_eq ▸ hmax
  permits := h.conserved.ranged

end Governed

/-- **The limit is governed.** A valid adaptive bulkhead whose limits are in the range of the
counter can be made. Whatever its callers do, its limit lies between the bounds, the counter is the
limit less the callers that run, and the reported changes lead from the initial limit to the current
one. Two evaluations, and the making and the first one, are an adjustment interval apart, which is
cut to what the clock can show. Nothing else changes the limit or the phase; each of them empties
the window, and the counter follows every limit that they ask for. What records nothing, such as an
ignored error or a cancelled call, leaves the window, the latency, the phase and the limit alone,
and evaluates nothing. -/
theorem limit_governed [Timer] [Fault ε] {config : Config ε} (name : String) (start : Nat)
    (hvalid : config.validate = .ok ()) (hmax : config.maxConcurrentCalls ≤ greatestLimit) :
    ∃ a, new name config start = .ok a ∧ ∀ inputs : List (Input ε),
      let s := inputs.foldl Ledger.next { adaptive := a, now := start }
      (config.minConcurrentCalls ≤ s.adaptive.limit ∧
        s.adaptive.limit ≤ config.maxConcurrentCalls) ∧
      s.adaptive.bulkhead.available = s.adaptive.limit - inFlight s.callers ∧
      Leads config.initialConcurrentCalls (changesOf s.notices) s.adaptive.limit ∧
      ((start :: s.evaluations).Pairwise fun earlier later =>
        earlier + min config.adjustmentInterval.nanos lastTick ≤ later) ∧
      (∀ now (ending : Ending ε),
        (ending.apply s.adaptive now).2.2 = true ∧ (ending.report s.adaptive now).2.2 = true) ∧
      ∀ i : Input ε,
        ((s.next i).evaluations = s.evaluations ∧
            (s.next i).adaptive.limit = s.adaptive.limit ∧
            (s.next i).adaptive.phase = s.adaptive.phase ∨
          (s.next i).evaluations = s.evaluations ++ [(s.next i).now] ∧
            (s.next i).adaptive.window.recount = ({}, {})) ∧
        (i.step.outcome? config = none → i.step ≠ .look →
          (s.next i).adaptive = { s.adaptive with bulkhead := (s.next i).adaptive.bulkhead } ∧
            (s.next i).adaptive.limit = s.adaptive.limit ∧
            (s.next i).evaluations = s.evaluations) := by
  obtain ⟨a, hnew, hstart⟩ := Governed.new name start hvalid hmax
  refine ⟨a, hnew, fun inputs => ?_⟩
  intro s
  have h : Governed config start s := hstart.run hmax inputs
  clear_value s
  have hranged := h.ranged hmax
  refine ⟨⟨h.min_le, h.le_max⟩, h.conserved.counter, h.leads, h.spaced, fun now ending =>
    ⟨hranged.apply_settles now ending, hranged.report_settles now ending⟩, fun i => ?_⟩
  obtain ⟨hnow, changes, evaluated, heffect, -, hevaluations⟩ :=
    Ledger.act_told { s with now := s.now + i.passed } i.step
  have hnow : (s.next i).now = s.now + i.passed := hnow
  refine ⟨?_, fun hnone hlook => ?_⟩
  · cases evaluated with
    | false =>
      obtain ⟨-, hlimit, hphase, -⟩ := heffect.unevaluated
      exact .inl ⟨hevaluations, hlimit, hphase⟩
    | true =>
      refine .inr ⟨?_, heffect.evaluation.2.1.window_empty⟩
      rw [hnow]
      exact hevaluations
  · rw [← h.config_eq] at hnone
    obtain ⟨hrest, hlimit, rfl⟩ := heffect.quiet hnone hlook
    exact ⟨hrest, hlimit, hevaluations⟩

/-- Every recorded call evaluates the limit if it is time. -/
def brisk (interval : Duration) : Config Error :=
  { windowSize := 1, minimumCalls := 1, adjustmentInterval := interval }

def search (interval : Duration) : Adaptive Error where
  name := "search"
  config := brisk interval
  bulkhead := { name := "search", config := { maxConcurrentCalls := 2 }, available := 2 }
  window := { calls := .count (.empty 1), size := 1, minimumCalls := 1 }
  lastAdjustment := 0

theorem brisk_valid (interval : Duration) : (brisk interval).validate = .ok () := by
  show (brisk .zero).validate = .ok ()
  decide +kernel

theorem search_new (interval : Duration) :
    new "search" (brisk interval) 0 = .ok (search interval) := by
  have hpermits : Bulkhead.new "search" { maxConcurrentCalls := 2 } =
      .ok (search interval).bulkhead := Bulkhead.new_of_validate "search" rfl (by decide)
  unfold new
  rw [brisk_valid]
  unfold brisk
  dsimp only
  rw [hpermits]
  rfl

/-- Two run and a third one is refused. The first one ends too early for an evaluation and the
second one just in time, but somebody else has its permit before it is recorded. -/
def rush : List (Input Error) :=
  [⟨0, .ask⟩, ⟨0, .come 0⟩, ⟨0, .come 0⟩, ⟨9, .finish 0 (.success ⟨1⟩)⟩, ⟨0, .ask⟩,
    ⟨1, .giveBack 1 (.error ⟨2⟩ .concurrentModification)⟩, ⟨0, .ask⟩,
    ⟨0, .report (.error ⟨2⟩ .concurrentModification)⟩]

theorem rush_governed :
    let s := rush.foldl Ledger.next { adaptive := search ⟨10⟩, now := 0 }
    s.evaluations = [10] ∧ 2 ≤ s.adaptive.limit ∧ s.adaptive.limit ≤ 25 ∧
      s.adaptive.bulkhead.available = s.adaptive.limit - 2 ∧
      Leads 2 (changesOf s.notices) s.adaptive.limit ∧
      ∀ passed, (s.next ⟨passed, .finish 3 .cancelled⟩).adaptive.limit = s.adaptive.limit := by
  obtain ⟨a, hnew, h⟩ := limit_governed "search" 0 (brisk_valid ⟨10⟩) (by decide)
  cases hnew.symm.trans (search_new ⟨10⟩)
  obtain ⟨⟨hmin, hle⟩, hcounter, hleads, _, _, hsteps⟩ := h rush
  intro s
  have hcallers : s.callers = [.gone, .gone, .gone, .running, .running] := by decide +kernel
  have hevaluations : s.evaluations = [10] := by decide +kernel
  have hcounter : s.adaptive.bulkhead.available = s.adaptive.limit - inFlight s.callers := hcounter
  rw [hcallers] at hcounter
  refine ⟨hevaluations, hmin, hle, hcounter, hleads, fun passed => ?_⟩
  exact ((hsteps ⟨passed, .finish 3 .cancelled⟩).2 rfl nofun).2.1

/-- The clock goes as far as it can while one call runs. -/
def late : List (Input Error) := [⟨lastTick, .ask⟩, ⟨0, .finish 0 (.success ⟨1⟩)⟩]

/-- The longest interval is cut to what the clock can show, and the limit is evaluated before it has
passed. -/
theorem cut_interval_passes :
    (brisk .longest).validate = .ok () ∧ (brisk .longest).maxConcurrentCalls ≤ greatestLimit ∧
      new "search" (brisk .longest) 0 = .ok (search .longest) ∧
      let s := late.foldl Ledger.next { adaptive := search .longest, now := 0 }
      s.now ≤ lastTick ∧ ¬ (0 :: s.evaluations).Pairwise fun earlier later =>
        earlier + (brisk .longest).adjustmentInterval.nanos ≤ later := by
  refine ⟨brisk_valid _, by decide, search_new _, ?_⟩
  intro s
  have hevaluations : s.evaluations = [lastTick] := by decide +kernel
  have hnow : s.now = lastTick := by decide +kernel
  rw [hevaluations, hnow, List.pairwise_pair]
  exact ⟨Nat.le_refl _, by decide⟩

end Adaptive

end FaultTolerance
