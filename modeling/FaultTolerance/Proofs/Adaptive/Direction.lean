import FaultTolerance.Proofs.Adaptive.Control
import FaultTolerance.Proofs.Adaptive.Scaling

/-! Where evaluations move the limit of an adaptive bulkhead.

A breach multiplies the limit by a factor below one and rounds up, so a small limit is led to
itself: a factor leaves alone the limits up to its resting one, which is one for factors of a half
at most. Without a breach a limit falls only if a growth factor of exactly one leads it through
single precision, which does not have it. What the evaluations of a run make of the limit is told
by their verdicts alone (`Governed.run_control`), and breaches that go on lead every limit to the
least one or to the resting one, whichever is greater.

The main theorem is **`breaches_lower_to_resting`**. -/
namespace FaultTolerance.Adaptive
open Bulkhead.Step (greatestLimit)
variable {ε : Type}

/-! ### Proposals -/

/-- The factors lie where they may lie. -/
structure Config.Factored (c : Config ε) : Prop where
  increase_ge : 1.0 ≤ c.increaseFactor
  decrease_pos : 0.0 < c.decreaseFactor
  decrease_lt : c.decreaseFactor < 1.0

theorem Config.factored_of_validate {c : Config ε} (h : c.validate = .ok ()) : c.Factored := by
  obtain ⟨_, h⟩ := ok_of_bind h
  obtain ⟨_, h⟩ := ok_of_bind h
  obtain ⟨_, h⟩ := ok_of_bind h
  obtain ⟨_, h⟩ := ok_of_bind h
  obtain ⟨_, h⟩ := ok_of_bind h
  obtain ⟨_, h⟩ := ok_of_bind h
  obtain ⟨hincrease, h⟩ := ok_of_bind h
  obtain ⟨hdecrease, _⟩ := ok_of_bind h
  have hincrease := of_require hincrease
  have hdecrease := of_require hdecrease
  rw [Bool.and_eq_true] at hdecrease
  exact ⟨of_decide_eq_true hincrease, of_decide_eq_true hdecrease.1,
    of_decide_eq_true hdecrease.2⟩

/-- Where breaches that go on lead the limits above it. -/
def Config.lowest (c : Config ε) : Nat := max c.minConcurrentCalls (resting c.decreaseFactor)

section Proposals
variable {config : Config ε} {limit : Nat}

/-- **A breach lowers the limits above the lowest one, and no other.** -/
theorem propose_breach (hsound : config.Sound) (hfactored : config.Factored) (phase : Phase)
    (hlast : config.maxConcurrentCalls ≤ lastTick) (hmin : config.minConcurrentCalls ≤ limit)
    (hmax : limit ≤ config.maxConcurrentCalls) :
    propose config phase limit true ≤ limit ∧
      (propose config phase limit true < limit ↔ config.lowest < limit) ∧
      min limit config.lowest ≤ propose config phase limit true := by
  obtain ⟨-, hpos, hone⟩ := hfactored
  have hlimit : 0 < limit := Nat.lt_of_lt_of_le hsound.min_pos hmin
  have hword := Nat.le_trans hmax hlast
  have hle := scaled_le hpos hone hlimit hword
  have hkept := scaled_eq_self_iff hpos hone hlimit hword
  have hpropose : propose config phase limit true = max config.minConcurrentCalls
    (min (scaled limit config.decreaseFactor) config.maxConcurrentCalls) := rfl
  rw [hpropose]
  unfold Config.lowest
  by_cases hrest : limit ≤ resting config.decreaseFactor
  · have := hkept.mpr hrest
    omega
  · have := resting_le_scaled hpos hone (Nat.le_of_not_le hrest) hword
    have : scaled limit config.decreaseFactor ≠ limit := fun heq => hrest (hkept.mp heq)
    omega

/-- Without a breach the limit falls only in single precision. -/
theorem propose_calm (hlast : config.maxConcurrentCalls ≤ lastTick)
    (phase : Phase) (hmin : config.minConcurrentCalls ≤ limit)
    (hmax : limit ≤ config.maxConcurrentCalls) :
    propose config phase limit false < limit ↔ phase = .slowStart ∧
      config.minConcurrentCalls < limit ∧ scaled limit config.increaseFactor < limit := by
  have hlastTick : lastTick = 0xFFFFFFFFFFFFFFFF := rfl
  cases phase with
  | slowStart =>
    have hpropose : propose config .slowStart limit false = max config.minConcurrentCalls
      (min (scaled limit config.increaseFactor) config.maxConcurrentCalls) := rfl
    rw [hpropose]
    simp only [true_and]
    omega
  | congestionAvoidance =>
    have hpropose : propose config .congestionAvoidance limit false =
      max config.minConcurrentCalls
        (min (min (limit + config.increaseStep) 0xFFFFFFFFFFFFFFFF) config.maxConcurrentCalls) :=
      rfl
    rw [hpropose]
    simp only [reduceCtorEq, false_and, iff_false]
    omega

end Proposals

/-! ### Verdicts -/

/-- What an evaluation reads and sets. -/
def control (a : Adaptive ε) : Phase × Nat := (a.phase, a.limit)

/-- What an evaluation with a verdict makes of a phase and a limit. -/
def judge (config : Config ε) (before : Phase × Nat) (breach : Bool) : Phase × Nat :=
  (before.1.after breach, propose config before.1 before.2 breach)

/-- Enough breaches lead to the lowest limit, or leave a limit below it alone. -/
theorem breaches_lower {config : Config ε} (hsound : config.Sound) (hfactored : config.Factored)
    (hlast : config.maxConcurrentCalls ≤ lastTick) {phase : Phase} {limit : Nat}
    {verdicts : List Bool} (hbreaches : ∀ breach ∈ verdicts, breach = true)
    (hmin : config.minConcurrentCalls ≤ limit) (hmax : limit ≤ config.maxConcurrentCalls)
    (henough : limit ≤ verdicts.length + config.lowest) :
    (verdicts.foldl (judge config) (phase, limit)).2 = min limit config.lowest := by
  induction verdicts generalizing phase limit with
  | nil =>
    rw [List.length_nil, Nat.zero_add] at henough
    exact (Nat.min_eq_left henough).symm
  | cons breach rest ih =>
    obtain rfl := hbreaches breach List.mem_cons_self
    obtain ⟨hle, hlower, hlowest⟩ := propose_breach hsound hfactored phase hlast hmin hmax
    have hleast := le_propose limit config phase true
    -- A limit above the lowest one has fallen by one at least, so one breach less is enough for it.
    rw [List.length_cons] at henough
    have hrest := @ih (phase.after true) _
      (fun breach hbreach => hbreaches breach (List.mem_cons_of_mem _ hbreach))
      hleast (Nat.le_trans hle hmax) (by omega)
    rw [List.foldl_cons]
    refine hrest.trans ?_
    omega

/-- Whether the record of a call finds a breach, if it evaluates the limit. -/
def verdict? (a : Adaptive ε) (now : Nat) (elapsed : Duration) (failed : Bool) : Option Bool :=
  if a.evaluates now elapsed failed then
    some (breached a.config (a.observed now elapsed failed).window.view
      (smooth a.latency elapsed a.config.latencySmoothing))
  else none

def Ending.verdict? (a : Adaptive ε) (now : Nat) (ending : Ending ε) : Option Bool :=
  (ending.outcome? a.config).bind fun (elapsed, failed) => a.verdict? now elapsed failed

/-- The verdict of a step that evaluates the limit. -/
def Ledger.verdict? (s : Ledger ε) : Step ε → Option Bool
  | .finish caller ending =>
    match s.callers[caller]? with
    | some .running => ending.verdict? s.adaptive.release s.now
    | _ => none
  | .report ending => ending.verdict? s.adaptive s.now
  | .ask | .come _ | .poll _ _ | .abandon _ | .giveBack _ _ | .look => none

/-- The verdicts of a run, the earliest first. -/
def Ledger.verdicts [Timer] [Fault ε] (s : Ledger ε) : List (Input ε) → List Bool
  | [] => []
  | i :: rest =>
    (verdict? { s with now := s.now + i.passed } i.step).toList ++ (s.next i).verdicts rest

section Finished
variable [Timer] [Fault ε] (s : Ledger ε) {caller : Nat} (ending : Ending ε)

theorem Ledger.finish_of_running (hold : s.callers[caller]? = some .running) :
    (s.act (.finish caller ending)).adaptive = (ending.apply s.adaptive s.now).1 ∧
      s.verdict? (.finish caller ending) = ending.verdict? s.adaptive.release s.now := by
  unfold act verdict?
  dsimp only
  rw [hold]
  exact ⟨rfl, rfl⟩

theorem Ledger.finish_of_not_running (hold : s.callers[caller]? ≠ some .running) :
    s.act (.finish caller ending) = s ∧ s.verdict? (.finish caller ending) = none := by
  unfold act verdict?
  dsimp only
  generalize s.callers[caller]? = found at hold
  match found, hold with
  | none, _ | some (.waiting _), _ | some .gone, _ => exact ⟨rfl, rfl⟩
  | some .running, hold => exact absurd rfl hold

end Finished

section Steps
variable {a : Adaptive ε}

/-- The counter takes a limit in its range over. -/
theorem Ranged.resize_reaches {limit : Nat} (ha : a.Ranged) (hpos : 0 < limit)
    (hle : limit ≤ greatestLimit) : (a.resize limit).1.limit = limit := by
  unfold resize
  split
  case isTrue heq => exact heq.symm
  case isFalse =>
    split
    case h_1 m hok => rw [Adaptive.limit, (Bulkhead.configure_ok hok).1]
    case h_2 hinvalid =>
      have hvalid : Bulkhead.Config.validate
          { maxConcurrentCalls := limit, maxWait := a.config.maxWait } = .ok () :=
        if_pos (bne_iff_ne.mpr (Nat.ne_of_gt hpos))
      rw [Bulkhead.configure_of_validate hvalid] at hinvalid
      split at hinvalid <;> cases hinvalid
    case h_3 hover => exact absurd hover (ha.permits.configure_ne_overflow hle)

/-- An evaluation sets the phase and the limit by its verdict. -/
theorem Ranged.evaluate_control (ha : a.Ranged) (hpos : 0 < a.config.minConcurrentCalls)
    (now : Nat) (view : Snapshot) (latency : Float) :
    control (a.evaluate now view latency).1 =
      judge a.config a.control (breached a.config view latency) := by
  unfold evaluate
  dsimp only
  generalize hbreach : breached a.config view latency = breach
  have hpropose := propose_le a.config a.phase a.limit breach
  have hleast := le_propose a.limit a.config a.phase breach
  have hmin := ha.min_le
  have hmax := ha.max_le
  have hranged : Ranged { a with
      phase := a.phase.after breach
      lastAdjustment := now
      window := a.window.reset now } := ⟨hmin, hmax, ha.permits⟩
  obtain ⟨hrest, -⟩ := resize_limit { a with
      phase := a.phase.after breach
      lastAdjustment := now
      window := a.window.reset now } (propose a.config a.phase a.limit breach)
  refine Prod.ext ?_ (hranged.resize_reaches (by omega) (by omega))
  unfold control
  rw [hrest]
  rfl

theorem Ranged.record_control (ha : a.Ranged) (hpos : 0 < a.config.minConcurrentCalls)
    (now : Nat) (elapsed : Duration) (failed : Bool) :
    control (a.record now elapsed failed).1 =
      (a.verdict? now elapsed failed).elim a.control (judge a.config a.control) := by
  unfold verdict?
  cases hevaluates : a.evaluates now elapsed failed with
  | true =>
    have hobserved : Ranged (a.observed now elapsed failed) := ⟨ha.min_le, ha.max_le, ha.permits⟩
    rw [record_of_evaluates a now hevaluates, hobserved.evaluate_control hpos]
    rfl
  | false =>
    rw [record_of_not_evaluates a now hevaluates]
    rfl

theorem Ranged.report_control [Fault ε] (ha : a.Ranged) (hpos : 0 < a.config.minConcurrentCalls)
    (now : Nat) (ending : Ending ε) :
    control (ending.report a now).1 =
      (ending.verdict? a now).elim a.control (judge a.config a.control) := by
  unfold Ending.verdict?
  cases houtcome : ending.outcome? a.config with
  | none =>
    rw [ending.report_of_none a now houtcome]
    rfl
  | some outcome =>
    rw [ending.report_of_some a now houtcome, ha.record_control hpos]
    rfl

/-- What evaluates nothing leaves the phase and the limit alone. -/
theorem Told.control_of_unevaluated {s t : Ledger ε} {i : Step ε} (h : Told s t i)
    (hnone : t.evaluations = s.evaluations) : t.adaptive.control = s.adaptive.control := by
  obtain ⟨-, changes, evaluated, heffect, -, hevaluations⟩ := h
  cases evaluated with
  | false =>
    obtain ⟨-, hlimit, hphase, -⟩ := heffect.unevaluated
    exact Prod.ext hphase hlimit
  | true =>
    rw [hnone] at hevaluations
    exact absurd (congrArg List.length hevaluations) (by simp [Ledger.evaluationsAfter])

end Steps

/-! ### Runs -/

section Runs
variable [Timer] [Fault ε] {config : Config ε} {start : Nat} {s : Ledger ε}

theorem Governed.act_control (hpos : 0 < config.minConcurrentCalls)
    (hmax : config.maxConcurrentCalls ≤ greatestLimit) (h : Governed config start s)
    (i : Step ε) :
    (s.act i).adaptive.control =
      (s.verdict? i).elim s.adaptive.control (judge config s.adaptive.control) := by
  have hranged := h.ranged hmax
  have htold := s.act_told i
  obtain rfl := h.config_eq
  cases i with
  | ask | come _ | look => exact htold.control_of_unevaluated rfl
  | poll caller _ | abandon caller | giveBack caller _ =>
    refine htold.control_of_unevaluated ?_
    unfold Ledger.act
    dsimp only
    split <;> rfl
  | finish caller ending =>
    by_cases hold : s.callers[caller]? = some .running
    · obtain ⟨hact, hverdict⟩ := s.finish_of_running ending hold
      have hreleased : s.adaptive.release.Ranged :=
        ⟨hranged.min_le, hranged.max_le, hranged.permits.release⟩
      have hcontrol : s.adaptive.release.control = s.adaptive.control :=
        Prod.ext rfl (congrArg (·.maxConcurrentCalls) (Bulkhead.release_config _))
      rw [hact, hverdict, ending.apply_eq, hreleased.report_control hpos, hcontrol]
      rfl
    · obtain ⟨hact, hverdict⟩ := s.finish_of_not_running ending hold
      rw [hact, hverdict]
      rfl
  | report ending => exact hranged.report_control hpos s.now ending

/-- **The verdicts of a run tell what becomes of the phase and the limit.** -/
theorem Governed.run_control (hpos : 0 < config.minConcurrentCalls)
    (hmax : config.maxConcurrentCalls ≤ greatestLimit) (h : Governed config start s)
    (inputs : List (Input ε)) :
    (inputs.foldl Ledger.next s).adaptive.control =
      (s.verdicts inputs).foldl (judge config) s.adaptive.control := by
  induction inputs generalizing s with
  | nil => rfl
  | cons i rest ih =>
    have hlater : Governed config start { s with now := s.now + i.passed } :=
      { h with adjusted_le := Nat.le_trans h.adjusted_le (Nat.le_add_right ..) }
    have hstep : (s.next i).adaptive.control = _ := hlater.act_control hpos hmax i.step
    rw [List.foldl_cons, ih (h.next hmax i), Ledger.verdicts, List.foldl_append, hstep]
    cases Ledger.verdict? { s with now := s.now + i.passed } i.step <;> rfl

end Runs

/-- **Breaches lower the limit to the resting one.** For every valid configuration whose limits are
words of 64 bits: a breach never raises a limit between the bounds, and lowers it exactly if it lies
above the least limit and above the resting one of the factor, which is one exactly for factors of a
half at most. Without a breach such a limit falls exactly if it is multiplied, lies above the least
one and its product is less in single precision, for which the factor has to be one and the limit to
have more than 24 places. If the limits are in the range of the counter, the verdicts of the
evaluations tell what becomes of the limit of an adaptive bulkhead, whatever its callers do; and
from every state that can be reached, enough evaluations that all find a breach lead a limit above
the least and the resting one to the greater of both, and leave any other one alone. -/
theorem breaches_lower_to_resting [Timer] [Fault ε] {config : Config ε} (name : String)
    (start : Nat) (hvalid : config.validate = .ok ())
    (hlast : config.maxConcurrentCalls ≤ lastTick) :
    let rest := resting config.decreaseFactor
    let lowest := max config.minConcurrentCalls rest
    (0 < rest ∧ rest < 2 ^ 24 ∧ (rest = 1 ↔ config.decreaseFactor ≤ 0.5)) ∧
    (∀ phase limit, config.minConcurrentCalls ≤ limit → limit ≤ config.maxConcurrentCalls →
      propose config phase limit true ≤ limit ∧
      (propose config phase limit true < limit ↔ lowest < limit) ∧
      (propose config phase limit false < limit ↔ phase = .slowStart ∧
        config.minConcurrentCalls < limit ∧ scaled limit config.increaseFactor < limit) ∧
      (scaled limit config.increaseFactor < limit →
        config.increaseFactor ≤ 1.0 ∧ 2 ^ 24 < limit)) ∧
    (config.maxConcurrentCalls ≤ greatestLimit → ∃ a, new name config start = .ok a ∧
      ∀ inputs later : List (Input ε),
        let s := inputs.foldl Ledger.next { adaptive := a, now := start }
        let t := later.foldl Ledger.next s
        t.adaptive.control = (s.verdicts later).foldl (judge config) s.adaptive.control ∧
        ((∀ breach ∈ s.verdicts later, breach = true) →
          s.adaptive.limit ≤ (s.verdicts later).length + lowest →
          t.adaptive.limit = min s.adaptive.limit lowest)) := by
  have hsound := Config.sound_of_validate hvalid
  have hfactored := Config.factored_of_validate hvalid
  have hpos := hfactored.decrease_pos
  have hone := hfactored.decrease_lt
  intro rest lowest
  refine ⟨⟨resting_pos hpos hone, resting_lt hpos hone, resting_eq_one_iff hpos hone⟩,
    fun phase limit hmin hmax => ?_, fun hrange => ?_⟩
  · obtain ⟨hle, hlower, -⟩ := propose_breach hsound hfactored phase hlast hmin hmax
    exact ⟨hle, hlower, propose_calm hlast phase hmin hmax,
      of_scaled_lt hfactored.increase_ge (Nat.lt_of_lt_of_le hsound.min_pos hmin)
        (Nat.le_trans hmax hlast)⟩
  · obtain ⟨a, hnew, hstart⟩ := Governed.new name start hvalid hrange
    refine ⟨a, hnew, fun inputs later => ?_⟩
    intro s t
    have h : Governed config start s := hstart.run hrange inputs
    have hcontrol := h.run_control hsound.min_pos hrange later
    refine ⟨hcontrol, fun hbreaches henough => ?_⟩
    exact (congrArg Prod.snd hcontrol).trans
      (breaches_lower hsound hfactored hlast hbreaches h.min_le h.le_max henough)

/-- Every recorded call evaluates the limit, and a breach multiplies it by a factor. -/
def wary (factor : Float32) : Config Error :=
  { initialConcurrentCalls := 9, windowSize := 1, minimumCalls := 1, adjustmentInterval := .zero
    decreaseFactor := factor }

def lookup (factor : Float32) : Adaptive Error where
  name := "lookup"
  config := wary factor
  bulkhead := { name := "lookup", config := { maxConcurrentCalls := 9 }, available := 9 }
  window := { calls := .count (.empty 1), size := 1, minimumCalls := 1 }
  lastAdjustment := 0

theorem lookup_new {factor : Float32} (hvalid : (wary factor).validate = .ok ()) :
    new "lookup" (wary factor) 0 = .ok (lookup factor) := by
  have hpermits : Bulkhead.new "lookup" { maxConcurrentCalls := 9 } =
      .ok (lookup factor).bulkhead := Bulkhead.new_of_validate "lookup" rfl (by decide)
  unfold new
  rw [hvalid]
  unfold wary
  dsimp only
  rw [hpermits]
  rfl

/-- Calls that fail, one after the other. -/
def failures (n : Nat) : List (Input Error) :=
  (List.range n).flatMap fun caller =>
    [⟨0, .ask⟩, ⟨0, .finish caller (.error ⟨1⟩ .concurrentModification)⟩]

/-- Halves lead down to the least limit. -/
theorem halves_lower : (wary 0.5).validate = .ok () ∧
    (wary 0.5).maxConcurrentCalls ≤ greatestLimit ∧
    new "lookup" (wary 0.5) 0 = .ok (lookup 0.5) ∧
      let t := (failures 7).foldl Ledger.next { adaptive := lookup 0.5, now := 0 }
      t.adaptive.limit = 2 := by
  have hvalid : (wary 0.5).validate = .ok () := by decide +kernel
  obtain ⟨⟨-, -, hrest⟩, -, hruns⟩ := breaches_lower_to_resting "lookup" 0 hvalid (by decide)
  obtain ⟨a, hnew, h⟩ := hruns (by decide)
  cases hnew.symm.trans (lookup_new hvalid)
  have hverdicts : Ledger.verdicts { adaptive := lookup 0.5, now := 0 } (failures 7) =
      List.replicate 7 true := by decide +kernel
  have hone : resting (wary 0.5).decreaseFactor = 1 := hrest.mpr (by decide +kernel)
  obtain ⟨-, hlower⟩ := h [] (failures 7)
  rw [hone] at hlower
  refine ⟨hvalid, by decide, hnew, hlower ?_ ?_⟩
  · show ∀ breach ∈ Ledger.verdicts { adaptive := lookup 0.5, now := 0 } (failures 7), _
    rw [hverdicts]
    exact fun breach hbreach => List.eq_of_mem_replicate hbreach
  · show 9 ≤ (Ledger.verdicts { adaptive := lookup 0.5, now := 0 } (failures 7)).length + _
    rw [hverdicts]
    decide

/-- Nine tenths of nine are nine. -/
theorem nine_stays : (wary 0.9).validate = .ok () ∧ (wary 0.9).minConcurrentCalls < 9 ∧
    9 ≤ (wary 0.9).maxConcurrentCalls ∧ ∀ phase, propose (wary 0.9) phase 9 true = 9 := by
  refine ⟨?_, by decide, by decide, fun phase => ?_⟩
  · decide +kernel
  · cases phase <;> decide +kernel

end FaultTolerance.Adaptive
