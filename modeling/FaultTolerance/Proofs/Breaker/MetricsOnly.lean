import FaultTolerance.Proofs.Breaker.Trail
import FaultTolerance.Proofs.Breaker.Rates
import FaultTolerance.Proofs.Window.LastSeconds

/-! A breaker that only watches reports when its rates rise.

A metrics-only breaker admits everybody and never moves on its own. Its window, by number or by
time, is used by the outcomes that it is told and by the looks at its metrics (`usesIn`), and counts
those that are recent (`Config.recent`). Whether the latest outcome has left a rate at its threshold
is all that it remembers besides (`Watching`), so that it reports a breach at the outcomes that
begin one and at no others (`Watching.recording`).

The main theorem is **`metrics_only_rising_edges`**. -/
namespace FaultTolerance

/-! ### Windows of either kind -/

namespace Window

def Use.isRecord : Use → Bool
  | record _ _ => true
  | look _ | recount | reset _ => false

end Window

namespace Breaker
variable {ε ν : Type}

open Window (Use recorded remember History)

/-- The outcomes that a window counts which was begun then and used since: by number the last ones,
by time those of the last seconds. -/
def Config.recent (c : Config ε ν) (entered : Nat) (uses : List Use) : List Measurement :=
  match c.windowKind with
  | .countBased => (recorded uses).rtake c.windowSize
  | .timeBased => (uses.foldl History.next (.begin entered)).within c.windowSize

/-- At the latest outcome among some uses a rate stood at its threshold. -/
def Config.Breached (c : Config ε ν) (entered : Nat) (uses : List Use) : Prop :=
  c.Trips (c.recent entered (uses.rdropWhile (!·.isRecord)))

instance (c : Config ε ν) (entered : Nat) (uses : List Use) : Decidable (c.Breached entered uses) :=
  inferInstanceAs (Decidable (c.Trips _))

/-- What is reported of the rates when an outcome comes: those that stand at their thresholds with
it, if none did at the latest outcome before. -/
def Config.risen (c : Config ε ν) (entered : Nat) (uses : List Use) (now : Nat) (x : Measurement) :
    List Event :=
  let recent := c.recent entered (uses ++ [.record now x])
  if c.Trips recent ∧ ¬ c.Breached entered uses then c.breachEvents recent else []

/-- A window of a configuration that was begun then and used since. -/
structure Follows (w : Window) (c : Config ε ν) (entered : Nat) (uses : List Use) : Prop where
  minimumCalls_eq : w.minimumCalls = c.effectiveMinimum
  last : c.windowKind = .countBased → w.CountsLast c.windowSize (recorded uses)
  seconds : c.windowKind = .timeBased →
    w.CountsRecent c.windowSize (uses.foldl History.next (.begin entered))

section Follows
variable {w : Window} {c : Config ε ν} {entered : Nat} {uses : List Use}

theorem Follows.fresh (hc : c.Sound) (now : Nat) {state : State} (hstate : state ≠ .halfOpen) :
    Follows (c.freshWindow now state) c now [] := by
  unfold Config.freshWindow
  rw [if_neg hstate]
  refine ⟨rfl, fun hkind => ?_, fun hkind => ?_⟩
  · refine ⟨.empty c.windowSize, ?_, ?_⟩
    · simp only [hkind]
    · show CountWindow.Tracks _ _ (([] : List Measurement).rtake c.windowSize)
      rw [List.rtake_nil]
      exact .empty hc.windowSize_pos
  · refine .empty hc.windowSize_pos now ?_
    simp only [hkind]

theorem Follows.use (h : Follows w c entered uses) (u : Use) :
    Follows (w.use u) c entered (uses ++ [u]) := by
  refine ⟨(Window.use_minimumCalls w u).trans h.minimumCalls_eq, fun hkind => ?_, fun hkind => ?_⟩
  · unfold recorded
    rw [List.foldl_append]
    exact (h.last hkind).after_use u
  · rw [List.foldl_append]
    exact (h.seconds hkind).after_use u

theorem Follows.view (h : Follows w c entered uses) :
    w.view = ⟨.ofList (c.recent entered uses), c.effectiveMinimum⟩ := by
  unfold Config.recent
  cases hkind : c.windowKind with
  | countBased => rw [(h.last hkind).view, h.minimumCalls_eq]
  | timeBased => rw [(h.seconds hkind).view, h.minimumCalls_eq]

theorem breached_record (now : Nat) (x : Measurement) :
    c.Breached entered (uses ++ [.record now x]) ↔
      c.Trips (c.recent entered (uses ++ [.record now x])) := by
  unfold Config.Breached
  rw [List.rdropWhile_concat_neg _ _ _ (by simp [Use.isRecord])]

theorem breached_look (now : Nat) :
    c.Breached entered (uses ++ [.look now]) ↔ c.Breached entered uses := by
  unfold Config.Breached
  rw [List.rdropWhile_concat_pos _ _ _ rfl]

/-- Before the first outcome nothing is breached. -/
theorem not_breached_nil (hrated : c.Rated) (entered : Nat) : ¬ c.Breached entered [] := by
  have hnone : c.recent entered [] = [] := by
    unfold Config.recent
    split
    · exact List.rtake_nil _
    · rfl
  intro hbreached
  have htrips : c.Trips (c.recent entered []) := hbreached
  rw [hnone] at htrips
  exact absurd hrated.effectiveMinimum_pos (Nat.not_lt.mpr htrips.1)

end Follows

/-! ### What is done while a breaker watches -/

/-- Whether an act asks for no other state. -/
def Act.stays : Act ε ν → Bool
  | force target => target = .metricsOnly
  | reset => false
  | ask | report _ | look => true

/-- What an act does to the window. -/
def Act.use? (c : Config ε ν) (now : Nat) : Act ε ν → Option Use
  | report ending => (ending.measurement? c).map (.record now)
  | look => some (.look now)
  | ask | force _ | reset => none

theorem Act.use?_report (c : Config ε ν) (now : Nat) (ending : Ending ε ν) :
    (Act.report ending).use? c now = (ending.measurement? c).map (.record now) := rfl

/-- What some deeds do to the window. -/
def usesIn (c : Config ε ν) (deeds : List (Deed ε ν)) : List Use :=
  deeds.filterMap fun d => d.act.use? c d.now

/-- Whether an event tells of a rate at its threshold. -/
def Event.isRate : Event → Bool
  | failureRateExceeded _ | slowCallRateExceeded _ => true
  | _ => false

theorem Event.not_isRate_of_isOutcome {event : Event} (h : event.isOutcome) :
    event.isRate = false := by
  cases event with
  | success | error | ignoredError => rfl
  | _ => cases h

/-- A breaker that has been watching since then, with what has been done to its window. -/
structure Watching (b : Breaker ε ν) (c : Config ε ν) (entered : Nat) (uses : List Use) : Prop where
  config_eq : b.config = c
  state_eq : b.state = .metricsOnly
  window : Follows b.cell.window c entered uses
  rateExceeded_iff : b.cell.rateExceeded ↔ c.Breached entered uses

section Watching
variable {b m : Breaker ε ν} {c : Config ε ν} {now entered : Nat} {uses : List Use}
  {a : Act ε ν} {events : List Event} {answer : Option Bool}

theorem not_automatic_metricsOnly (start : State) : (start, State.metricsOnly) ∉ automatic := by
  cases start <;> decide

/-- Only a request leads to a metrics-only state. -/
theorem Effect.entered_metricsOnly (h : Effect b now a m events answer)
    (hwatch : m.state = .metricsOnly) (hentered : m.cell.generation ≠ b.cell.generation) :
    ∃ trigger, m = b.moved now trigger .metricsOnly := by
  cases h with
  | asked h =>
    cases h with
    | passed _ | forced _ | early _ _ | probe _ _ _ | noProbe _ _ _ => exact absurd rfl hentered
    | firstProbe _ _ | expired _ _ _ | renewed _ _ _ => cases hwatch
  | returned _ _ => exact absurd b.release_generation hentered
  | reported _ _ h =>
    cases h with
    | ignored _ | kept _ _ _ | watched _ => exact absurd rfl hentered
    | decided trigger target hv htarget _ _ =>
      cases hwatch
      have hautomatic := automatic_of_transition (isRequest_of_verdict hv) htarget
      exact absurd hautomatic (not_automatic_metricsOnly _)
  | moved _ _ =>
    cases hwatch
    exact ⟨_, rfl⟩
  | idle | looked => exact absurd rfl hentered

/-- A breaker that begins to watch has an empty window and no breach behind it. -/
theorem Watching.moved (hc : b.config.Sound) (hrated : b.config.Rated) (now : Nat)
    (trigger : Trigger) : Watching (b.moved now trigger .metricsOnly) b.config now [] where
  config_eq := rfl
  state_eq := rfl
  window := by
    have hwatch : State.metricsOnly ≠ .halfOpen := by decide
    exact Follows.fresh hc now hwatch
  rateExceeded_iff := iff_of_false nofun (not_breached_nil hrated now)

theorem release_of_ne_halfOpen (h : b.state ≠ .halfOpen) : b.release = b := by
  unfold release
  rw [decide_eq_false h]
  rfl

/-- An outcome is counted. A breach is reported when it begins, with the rates that make it. -/
theorem Watching.recording (h : Watching b c entered uses) (hrated : c.Rated) {x : Measurement}
    {event : Event} (hrecording : Recording b now x event m events) :
    Watching m c entered (uses ++ [.record now x]) ∧ m.cell.generation = b.cell.generation ∧
      events = event :: c.risen entered uses now x := by
  have hwindow : Follows (b.noted now x).cell.window c entered (uses ++ [.record now x]) :=
    h.window.use (.record now x)
  have hexceeds : (b.noted now x).exceedsThresholds (b.noted now x).cell.window.view = true ↔
      c.Trips (c.recent entered (uses ++ [.record now x])) := by
    rw [hwindow.view]
    exact exceedsThresholds_ofList h.config_eq hrated hrated.effectiveMinimum_pos
  have hflag : (b.noted now x).flagged.cell.rateExceeded =
      (b.noted now x).exceedsThresholds (b.noted now x).cell.window.view := rfl
  cases hrecording with
  | watched _ =>
    refine ⟨⟨h.config_eq, h.state_eq, hwindow, ?_⟩, rfl, ?_⟩
    · rw [hflag, hexceeds, breached_record]
    · rw [hflag]
      refine congrArg _ (ite_congr ?_ (fun hbegins => ?_) fun _ => rfl)
      · rw [Bool.and_eq_true, Bool.not_eq_true', ← Bool.not_eq_true, hexceeds, h.rateExceeded_iff]
      · rw [hwindow.view]
        exact ratesExceeded_ofList h.config_eq hrated.effectiveMinimum_pos hbegins.1.1
  | ignored hother => cases h.state_eq.symm.trans hother
  | kept _ hother _ => exact absurd h.state_eq hother
  | decided trigger target hv _ _ _ =>
    have hnone : (b.noted now x).verdict? now = none := by
      unfold verdict?
      rw [noted_state, h.state_eq]
    cases hnone.symm.trans hv

theorem Event.filter_isRate_outcomes {events : List Event} (h : ∀ e ∈ events, e.isOutcome) :
    events.filter Event.isRate = [] := by
  refine List.filter_eq_nil_iff.mpr fun e he => ?_
  rw [Event.not_isRate_of_isOutcome (h e he)]
  decide

theorem Config.filter_isRate_risen (c : Config ε ν) (entered : Nat) (uses : List Use) (now : Nat)
    (x : Measurement) :
    (c.risen entered uses now x).filter Event.isRate = c.risen entered uses now x := by
  unfold risen breachEvents
  dsimp only
  split
  · split <;> split <;> rfl
  · rfl

/-- Whatever is done to it short of asking for another state, it watches on, and it reports a rate
at its threshold when an outcome lets one rise. -/
theorem Watching.effect (h : Watching b c entered uses) (hrated : c.Rated)
    (heffect : Effect b now a m events answer) (hstays : a.stays) :
    Watching m c entered (uses ++ (a.use? c now).toList) ∧
      m.cell.generation = b.cell.generation ∧
      events.filter Event.isRate = (a.measurement? c).elim [] (c.risen entered uses now) := by
  have hidle : Watching b c entered (uses ++ []) := by rwa [List.append_nil]
  cases heffect with
  | asked hadmission =>
    cases hadmission with
    | passed _ => exact ⟨hidle, rfl, rfl⟩
    | forced hother | early hother _ | firstProbe hother _ | probe hother _ _ | noProbe hother _ _
    | expired hother _ _ | renewed hother _ _ => cases h.state_eq.symm.trans hother
  | returned hnone hevents =>
    rw [h.config_eq] at hnone
    rw [release_of_ne_halfOpen (by simp [h.state_eq]), Act.use?_report, Act.measurement?, hnone]
    exact ⟨hidle, rfl, Event.filter_isRate_outcomes hevents⟩
  | reported hx hevent hrecording =>
    rw [h.config_eq] at hx
    rw [Act.use?_report, Act.measurement?, hx]
    obtain ⟨hwatching, hgeneration, rfl⟩ := h.recording hrated hrecording
    refine ⟨hwatching, hgeneration, ?_⟩
    rw [List.filter_cons_of_neg (by simp [Event.not_isRate_of_isOutcome hevent])]
    exact c.filter_isRate_risen ..
  | moved hrequest htarget =>
    cases a with
    | force target =>
      cases hrequest
      rw [of_decide_eq_true hstays, h.state_eq] at htarget
      cases htarget
    | reset => cases hstays
    | ask | report _ | look => cases hrequest
  | idle => exact ⟨hidle, rfl, rfl⟩
  | looked =>
    refine ⟨⟨h.config_eq, h.state_eq, h.window.use (.look now), ?_⟩, rfl, rfl⟩
    exact h.rateExceeded_iff.trans (breached_look now).symm

theorem Watching.tryAcquire_eq (h : Watching b c entered uses) (now : Nat) :
    b.tryAcquire now = (b, [], true) := by
  have hround : b.round now = .decided b [] true := by simp only [round, h.state_eq]
  exact admitWithin_decided hround

end Watching

/-! ### The law -/

theorem usesIn_cons (c : Config ε ν) (d : Deed ε ν) (rest : List (Deed ε ν)) :
    usesIn c (d :: rest) = (d.act.use? c d.now).toList ++ usesIn c rest := by
  unfold usesIn
  rw [List.filterMap_cons]
  cases d.act.use? c d.now <;> rfl

/-- A breaker watches on through whatever is done that asks for no other state. -/
theorem Watching.run [Fault ε] {s : Chronicle ε ν} {c : Config ε ν} {entered : Nat}
    {uses : List Use} (h : Watching s.breaker c entered uses) (hc : c.Sound) (hrated : c.Rated)
    (later : List (Deed ε ν)) (hstays : ∀ d ∈ later, d.act.stays) :
    Watching (s.run later).breaker c entered (uses ++ usesIn c later) ∧
      (s.run later).breaker.cell.generation = s.breaker.cell.generation := by
  induction later generalizing s uses with
  | nil => exact ⟨by rwa [usesIn, List.filterMap_nil, List.append_nil], rfl⟩
  | cons d rest ih =>
    have heffect := act_effect (by rwa [h.config_eq]) d.now d.act
    obtain ⟨hnext, hsame, _⟩ := h.effect hrated heffect (hstays d (List.mem_cons_self ..))
    obtain ⟨hrun, hgeneration⟩ :=
      ih (s := s.next d) hnext fun e he => hstays e (List.mem_cons_of_mem _ he)
    rw [usesIn_cons, ← List.append_assoc]
    exact ⟨hrun, hgeneration.trans hsame⟩

/-- **A metrics-only breaker reports rising edges.** Let a breaker come to the metrics-only state
from another one, whatever was done to it before, and then let anything be done to it that does not
ask for another state, at any readings of the clock. It stays in that state and generation, admits
every caller, and shows the outcomes that are recent in a window that was empty when it came there.
Whatever is done next changes neither, and reports rates at their thresholds if and only if it tells
an outcome with which the recent ones are enough and a rate of theirs stands at its threshold, while
at the latest outcome in this state before, if there was one, that was not so; and then it reports
exactly the rates that do. Before the first outcome nothing counts as breached. -/
theorem metrics_only_rising_edges [Fault ε] {name : String} {config : Config ε ν} {start : Nat}
    {draws : Draws} {b : Breaker ε ν} (hnew : Breaker.new name config start draws = .ok b)
    (deeds : List (Deed ε ν)) {s : Chronicle ε ν} (hs : (Chronicle.blank b).run deeds = s)
    (d : Deed ε ν)
    (hwatch : (s.next d).breaker.state = .metricsOnly)
    (hentered : (s.next d).breaker.cell.generation ≠ s.breaker.cell.generation)
    (later : List (Deed ε ν)) (hstays : ∀ e ∈ later, e.act.stays) :
    let t := (s.next d).run later
    let uses := usesIn config later
    let shown (uses : List Use) : Snapshot :=
      ⟨.ofList (config.recent d.now uses), config.effectiveMinimum⟩
    t.breaker.state = .metricsOnly ∧
      t.breaker.cell.generation = (s.next d).breaker.cell.generation ∧
      t.breaker.metrics.snapshot = shown uses ∧
      (∀ now, t.breaker.tryAcquire now = (t.breaker, [], true)) ∧
      (∀ now (a : Act ε ν), a.stays →
        let after := t.breaker.act now a
        after.1.state = .metricsOnly ∧
          after.1.cell.generation = t.breaker.cell.generation ∧
          after.1.metrics.snapshot = shown (uses ++ (a.use? config now).toList) ∧
          after.2.1.filter Event.isRate =
            (a.measurement? config).elim [] (config.risen d.now uses now)) ∧
      ¬ config.Breached d.now [] := by
  obtain ⟨hc, _⟩ := new_eq_ok hnew
  have hrated := rated_of_new hnew
  obtain rfl := Chronicle.run_config hnew deeds hs
  have heffect := act_effect hc d.now d.act
  obtain ⟨trigger, hm⟩ := heffect.entered_metricsOnly hwatch hentered
  have hbegun : Watching (s.next d).breaker s.breaker.config d.now [] := by
    show Watching (s.breaker.act d.now d.act).1 _ _ _
    rw [hm]
    exact .moved hc hrated d.now trigger
  intro t uses shown
  obtain ⟨h, hgeneration⟩ := hbegun.run hc hrated later hstays
  rw [List.nil_append] at h
  refine ⟨h.state_eq, hgeneration, h.window.view, h.tryAcquire_eq, fun now a ha => ?_,
    not_breached_nil hrated d.now⟩
  have hnext := act_effect (b := t.breaker) (by rwa [h.config_eq]) now a
  obtain ⟨hafter, hsame, hrates⟩ := h.effect hrated hnext ha
  exact ⟨hafter.state_eq, hsame, hafter.window.view, hrates⟩

/-- A failure, a look at the metrics, and a success that pushes the failure out of the window. -/
def calmed : List (Deed Error Unit) :=
  [⟨4, .report (.error ⟨1⟩ .concurrentModification)⟩, ⟨5, .look⟩, ⟨6, .report (.success ⟨1⟩)⟩]

/-- A second failure in a row is not reported as a breach, but the one after the success is. -/
theorem calmed_rises_again :
    let s := (Chronicle.blank strictBreaker).next ⟨3, .force .metricsOnly⟩
    let failure : Act Error Unit := .report (.error ⟨1⟩ .concurrentModification)
    s.breaker.state = .metricsOnly ∧
      ((s.run (calmed.take 2)).breaker.act 7 failure).2.1.filter Event.isRate = [] ∧
      ((s.run calmed).breaker.act 7 failure).2.1.filter Event.isRate =
        [.failureRateExceeded 100.0] ∧
      ((s.run calmed).breaker.act 7 failure).1.state = .metricsOnly := by
  have hnew : Breaker.new "strict" strict 0 = .ok strictBreaker := rfl
  have hwatch : ((Chronicle.blank strictBreaker).next ⟨3, .force .metricsOnly⟩).breaker.state =
      .metricsOnly := rfl
  have hentered : ((Chronicle.blank strictBreaker).next
      ⟨3, .force .metricsOnly⟩).breaker.cell.generation ≠
        (Chronicle.blank strictBreaker).breaker.cell.generation := by
    decide
  obtain ⟨_, _, _, _, hbefore, _⟩ := metrics_only_rising_edges hnew [] rfl
    ⟨3, .force .metricsOnly⟩ hwatch hentered (calmed.take 2) (by decide)
  obtain ⟨_, _, _, _, hafter, _⟩ := metrics_only_rising_edges hnew [] rfl
    ⟨3, .force .metricsOnly⟩ hwatch hentered calmed (by decide)
  have hquiet := (hbefore 7 (.report (.error ⟨1⟩ .concurrentModification)) rfl).2.2.2
  obtain ⟨hstate, _, _, hrises⟩ := hafter 7 (.report (.error ⟨1⟩ .concurrentModification)) rfl
  refine ⟨hwatch, hquiet.trans ?_, hrises.trans ?_, hstate⟩
  · decide +kernel
  · decide +kernel

end Breaker

end FaultTolerance
