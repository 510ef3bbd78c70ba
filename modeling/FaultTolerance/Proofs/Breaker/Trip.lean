import FaultTolerance.Proofs.Breaker.Chronicle
import FaultTolerance.Proofs.Breaker.Rates

/-! A breaker trips at the first outcome that calls for it.

The outcomes since a breaker came to its state are read off its chronicle (`Chronicle.outcomes`). A
closed breaker whose window goes by number shows the last of them, and no earlier outcome has called
for a verdict, since it would not be closed any more; a half-open breaker shows all of them, which
are fewer than its probes (`Heard`). So the next outcome decides as the list of them does
(`trips_at_first`). -/
namespace FaultTolerance

/-! ### Windows that show some outcomes -/

theorem rtake_of_length_le {α : Type} {l : List α} {n : Nat} (h : l.length ≤ n) :
    l.rtake n = l := by
  unfold List.rtake
  rw [Nat.sub_eq_zero_of_le h]
  rfl

/-- A window by number that shows the last of some outcomes. -/
structure Window.Shows (w : Window) (size minimumCalls : Nat) (ms : List Measurement) : Prop where
  counts : w.CountsLast size ms
  minimumCalls_eq : w.minimumCalls = minimumCalls

namespace Window.Shows
variable {w : Window} {size minimumCalls : Nat} {ms : List Measurement}

theorem empty (hsize : 0 < size) (minimumCalls : Nat) :
    Shows { calls := .count (.empty size), size, minimumCalls } size minimumCalls [] := by
  refine ⟨⟨.empty size, rfl, ?_⟩, rfl⟩
  rw [List.rtake_nil]
  exact .empty hsize

theorem record (h : w.Shows size minimumCalls ms) (now : Nat) (x : Measurement) :
    (w.record now x).Shows size minimumCalls (ms ++ [x]) :=
  ⟨h.counts.after_use (.record now x),
    (use_minimumCalls w (.record now x)).trans h.minimumCalls_eq⟩

theorem refresh (h : w.Shows size minimumCalls ms) (now : Nat) :
    (w.refresh now).Shows size minimumCalls ms :=
  ⟨h.counts.after_use (.look now), (use_minimumCalls w (.look now)).trans h.minimumCalls_eq⟩

theorem view (h : w.Shows size minimumCalls ms) :
    w.view = ⟨.ofList (ms.rtake size), minimumCalls⟩ := by
  rw [h.counts.view, h.minimumCalls_eq]

end Window.Shows

namespace Breaker
variable {ε ν : Type}

/-! ### The outcomes since a change of state -/

/-- Whether an act leads to another state or begins the current one anew. -/
def Act.turns (a : Act ε ν) (links : List Link) : Bool := a.isReset || !links.isEmpty

def Entry.turns (e : Entry ε ν) : Bool := e.act.turns e.links

/-- The outcomes that some entries tell of since the latest of them that turns. -/
def outcomesIn (c : Config ε ν) (entries : List (Entry ε ν)) : List Measurement :=
  (entries.rtakeWhile (!·.turns)).filterMap (·.act.measurement? c)

/-- The outcomes that were reported since the breaker came to its state, the oldest first. -/
def Chronicle.outcomes (s : Chronicle ε ν) : List Measurement :=
  outcomesIn s.breaker.config s.entries

/-- The outcomes since a change of state after one more act, with the changes that it makes. -/
def heardAfter (c : Config ε ν) (ms : List Measurement) (a : Act ε ν) (links : List Link) :
    List Measurement :=
  if a.turns links then [] else ms ++ (a.measurement? c).toList

theorem outcomesIn_concat (c : Config ε ν) (entries : List (Entry ε ν)) (e : Entry ε ν) :
    outcomesIn c (entries ++ [e]) = heardAfter c (outcomesIn c entries) e.act e.links := by
  have hturns : e.turns = e.act.turns e.links := rfl
  unfold outcomesIn heardAfter
  rw [List.rtakeWhile_concat, hturns]
  cases e.act.turns e.links with
  | true => rfl
  | false =>
    rw [if_pos (by decide), if_neg (by decide), List.filterMap_append]
    cases hx : e.act.measurement? c <;> simp [hx]

/-! ### What a breaker has heard -/

/-- The empty window of a closed breaker. -/
theorem Config.ofKind_eq {c : Config ε ν} (hc : c.Sound) (now : Nat) :
    Window.ofKind c.windowKind c.windowSize c.effectiveMinimum now =
      .ok (c.freshWindow now .closed) := by
  unfold Window.ofKind Config.freshWindow
  cases c.windowKind with
  | countBased => exact Window.countBased_eq hc.windowSize_pos _
  | timeBased => exact if_neg (Nat.ne_of_gt hc.windowSize_pos)

/-- A breaker whose window shows the outcomes since it came to its state, none of which has called
for a verdict yet. -/
structure Heard (b : Breaker ε ν) (ms : List Measurement) : Prop where
  closed : b.state = .closed → b.config.windowKind = .countBased →
    b.cell.window.Shows b.config.windowSize b.config.effectiveMinimum ms ∧
      ∀ j ≤ ms.length, ¬ b.config.Trips ((ms.take j).rtake b.config.windowSize)
  halfOpen : b.state = .halfOpen →
    b.cell.window.Shows b.config.permittedProbes b.config.permittedProbes ms ∧
      ms.length < b.config.permittedProbes

theorem noted_config (b : Breaker ε ν) (now : Nat) (x : Measurement) :
    (b.noted now x).config = b.config := rfl

theorem verdict?_closed {b : Breaker ε ν} (hclosed : b.state = .closed) (now : Nat) :
    b.verdict? now =
      if b.exceedsThresholds b.cell.window.view then some .thresholdsExceeded else none := by
  unfold verdict?
  rw [hclosed]

namespace Heard
variable {b m : Breaker ε ν} {ms : List Measurement} {now : Nat}

/-- In the other states nothing is asked of the window. -/
theorem other (hclosed : b.state ≠ .closed) (hhalf : b.state ≠ .halfOpen) : Heard b ms :=
  ⟨fun h => absurd h hclosed, fun h => absurd h hhalf⟩

/-- With a new window nothing was heard. -/
theorem fresh (now : Nat) (hc : b.config.Sound) (hrated : b.config.Rated)
    (hwindow : b.cell.window = b.config.freshWindow now b.state) : Heard b [] := by
  unfold Config.freshWindow at hwindow
  constructor
  · intro hclosed hkind
    rw [hclosed, hkind] at hwindow
    rw [hwindow]
    refine ⟨.empty hc.windowSize_pos _, fun j _ htrips => ?_⟩
    rw [List.take_nil, List.rtake_nil] at htrips
    exact absurd hrated.effectiveMinimum_pos (Nat.not_lt.mpr htrips.1)
  · intro hhalf
    rw [hhalf] at hwindow
    rw [hwindow]
    exact ⟨.empty hc.probes_pos _, hc.probes_pos⟩

theorem moved (hc : b.config.Sound) (hrated : b.config.Rated) (trigger : Trigger)
    (target : State) : Heard (b.moved now trigger target) [] := by
  by_cases hopened : target = .opened
  · have hstate : (b.moved now trigger target).state = .opened := hopened
    exact .other (by simp [hstate]) (by simp [hstate])
  · refine .fresh now hc hrated ?_
    show (if target = .opened then some b.cell.window else none).getD _ = _
    rw [if_neg hopened]
    rfl

/-- Only the counters have changed. -/
theorem settle (h : Heard b ms) (hsame : SameState b m)
    (hwindow : m.cell.window = b.cell.window) : Heard m ms := by
  constructor
  · rw [hsame.state, hsame.config, hwindow]
    exact h.closed
  · rw [hsame.state, hsame.config, hwindow]
    exact h.halfOpen

theorem refresh (h : Heard b ms) : Heard (b.refresh now) ms := by
  constructor
  · intro hclosed hkind
    obtain ⟨hshows, hnever⟩ := h.closed hclosed hkind
    exact ⟨hshows.refresh now, hnever⟩
  · intro hhalf
    obtain ⟨hshows, hfew⟩ := h.halfOpen hhalf
    exact ⟨hshows.refresh now, hfew⟩

/-! ### The next outcome -/

theorem closed_view (h : Heard b ms) (hclosed : b.state = .closed)
    (hkind : b.config.windowKind = .countBased) (x : Measurement) :
    (b.noted now x).cell.window.view =
      ⟨.ofList ((ms ++ [x]).rtake b.config.windowSize), b.config.effectiveMinimum⟩ :=
  ((h.closed hclosed hkind).1.record now x).view

/-- No outcome of a half-open state is left out. -/
theorem halfOpen_rtake (h : Heard b ms) (hhalf : b.state = .halfOpen) (x : Measurement) :
    (ms ++ [x]).rtake b.config.permittedProbes = ms ++ [x] := by
  apply rtake_of_length_le
  rw [List.length_append]
  exact (h.halfOpen hhalf).2

theorem halfOpen_view (h : Heard b ms) (hhalf : b.state = .halfOpen) (x : Measurement) :
    (b.noted now x).cell.window.view = ⟨.ofList (ms ++ [x]), b.config.permittedProbes⟩ := by
  rw [← h.halfOpen_rtake hhalf x]
  exact ((h.halfOpen hhalf).1.record now x).view

theorem closed_verdict (h : Heard b ms) (hrated : b.config.Rated) (hclosed : b.state = .closed)
    (hkind : b.config.windowKind = .countBased) (now : Nat) (x : Measurement) :
    (b.noted now x).verdict? now =
      if b.config.Trips ((ms ++ [x]).rtake b.config.windowSize) then some .thresholdsExceeded
      else none := by
  rw [verdict?_closed (b := b.noted now x) hclosed, h.closed_view hclosed hkind]
  exact if_congr (exceedsThresholds_ofList rfl hrated hrated.effectiveMinimum_pos) rfl rfl

theorem halfOpen_verdict (h : Heard b ms) (hc : b.config.Sound) (hrated : b.config.Rated)
    (hhalf : b.state = .halfOpen) (hlasts : b.halfOpenExpired now = false) (x : Measurement) :
    (b.noted now x).verdict? now =
      if (ms ++ [x]).length < b.config.permittedProbes then none
      else if b.config.Breaches (ms ++ [x]) then some .probesFailed else some .probesPassed := by
  rw [verdict?_halfOpen (b := b.noted now x) hhalf hlasts, h.halfOpen_view hhalf,
    Totals.calls_ofList, noted_config]
  by_cases hfull : b.config.permittedProbes ≤ (ms ++ [x]).length
  · have hexceeds : (b.noted now x).exceedsThresholds
        ⟨.ofList (ms ++ [x]), b.config.permittedProbes⟩ ↔ _ :=
      exceedsThresholds_ofList rfl hrated hc.probes_pos
    rw [if_pos hfull, if_neg (Nat.not_lt.mpr hfull)]
    exact if_congr (hexceeds.trans (and_iff_right hfull)) rfl rfl
  · rw [if_neg hfull, if_pos (Nat.lt_of_not_le hfull)]

/-- An outcome that decides nothing is heard. -/
theorem noted (h : Heard b ms) (hrated : b.config.Rated) {x : Measurement}
    (hv : (b.noted now x).verdict? now = none) : Heard (b.noted now x) (ms ++ [x]) := by
  constructor
  · intro hclosed hkind
    have hstate : b.state = .closed := hclosed
    obtain ⟨hshows, hnever⟩ := h.closed hstate hkind
    refine ⟨hshows.record now x, fun j hj => ?_⟩
    rcases Nat.lt_or_ge ms.length j with hlast | hearlier
    · rw [List.take_of_length_le (by rw [List.length_append]; exact hlast)]
      intro htrips
      have htrips : b.config.Trips ((ms ++ [x]).rtake b.config.windowSize) := htrips
      rw [h.closed_verdict hrated hstate hkind, if_pos htrips] at hv
      cases hv
    · rw [List.take_append_of_le_length hearlier]
      exact hnever j hearlier
  · intro hhalf
    have hstate : b.state = .halfOpen := hhalf
    have hfew := lt_of_verdict?_eq_none hhalf hv
    rw [h.halfOpen_view hstate, Totals.calls_ofList] at hfew
    exact ⟨(h.halfOpen hstate).1.record now x, hfew⟩

end Heard

/-! ### What an act lets it hear -/

section Effects
variable {b m : Breaker ε ν} {c : Config ε ν} {ms : List Measurement} {now : Nat} {a : Act ε ν}
  {events : List Event} {answer : Option Bool} {links : List Link}

theorem Heard.turned (h : Heard b []) (hturns : a.turns links = true) :
    Heard b (heardAfter c ms a links) := by
  unfold heardAfter
  rwa [if_pos hturns]

theorem turns_of_quiet (hrequest : a.request? = none) (hlinks : links = []) :
    a.turns links = false := by
  rw [hlinks]
  cases a with
  | reset => cases hrequest
  | ask | report _ | force _ | look => rfl

theorem Heard.quiet (h : Heard b ms) (hrequest : a.request? = none)
    (hx : a.measurement? c = none) (hlinks : links = []) : Heard b (heardAfter c ms a links) := by
  unfold heardAfter
  rw [turns_of_quiet hrequest hlinks, hx]
  show Heard b (ms ++ [])
  rwa [List.append_nil]

theorem Heard.told (x : Measurement) (h : Heard b (ms ++ [x])) (hrequest : a.request? = none)
    (hx : a.measurement? c = some x) (hlinks : links = []) : Heard b (heardAfter c ms a links) := by
  unfold heardAfter
  rw [turns_of_quiet hrequest hlinks, hx]
  exact h

theorem Heard.admission (h : Heard b ms) (hc : b.config.Sound) (hrated : b.config.Rated)
    {admitted : Bool} (hadmission : Admission b now m events admitted) :
    Heard m (heardAfter c ms .ask (linksOf now false events)) := by
  cases hadmission with
  | passed _ => exact h.quiet rfl rfl rfl
  | forced _ | early _ _ | noProbe _ _ _ | probe _ _ _ =>
    exact Heard.quiet (h.settle ⟨rfl, rfl, rfl, rfl, rfl, rfl, rfl⟩ rfl) rfl rfl rfl
  | firstProbe _ _ => exact (Heard.moved hc hrated _ _).turned rfl
  | expired _ _ _ =>
    refine Heard.turned (.other ?_ ?_) rfl
    · intro hclosed
      cases hclosed
    · intro hhalf
      cases hhalf
  | renewed _ _ _ =>
    refine Heard.turned ?_ rfl
    exact .moved (b := b.moved now .halfOpenWaitElapsed .opened) hc hrated _ _

theorem Heard.recording (h : Heard b ms) (hc : b.config.Sound) (hrated : b.config.Rated)
    {ending : Ending ε ν} {x : Measurement} (hx : ending.measurement? c = some x) {event : Event}
    (hevent : event.isOutcome) (hrecording : Recording b now x event m events) :
    Heard m (heardAfter c ms (.report ending) (linksOf now false events)) := by
  cases hrecording with
  | ignored hdisabled => exact .other (by simp [hdisabled]) (by simp [hdisabled])
  | kept _ _ hv => exact (h.noted hrated hv).told x rfl hx (linksOf_outcome hevent [])
  | watched hwatch =>
    have hstate : (b.noted now x).flagged.state = .metricsOnly := hwatch
    exact .other (by simp [hstate]) (by simp [hstate])
  | decided _ _ _ _ _ _ =>
    rw [linksOf_verdict hevent]
    exact (Heard.moved (b := b.noted now x) hc hrated _ _).turned rfl

/-- What is heard is kept up with. -/
theorem Effect.heard (heffect : Effect b now a m events answer) (hc : b.config.Sound)
    (hrated : b.config.Rated) (h : Heard b ms) :
    Heard m (heardAfter b.config ms a (linksOf now a.request?.isSome events)) := by
  cases heffect with
  | asked hadmission => exact h.admission hc hrated hadmission
  | returned hnone hevents =>
    exact Heard.quiet (h.settle (.release b) b.release_window) rfl hnone (linksOf_outcomes hevents)
  | reported hx hevent hrecording => exact h.recording hc hrated hx hevent hrecording
  | @moved a trigger target hrequest htarget =>
    refine Heard.turned (.moved hc hrated _ _) ?_
    cases a with
    | ask | report _ | look => cases hrequest
    | force wanted =>
      cases hrequest
      obtain ⟨rfl, hchange⟩ := of_transition_force htarget
      rw [linksOf_append, linksOf_changeEvents hchange]
      rfl
    | reset => rfl
  | idle =>
    show Heard b (ms ++ [])
    rwa [List.append_nil]
  | looked => exact Heard.quiet h.refresh rfl rfl rfl

end Effects

/-! ### The verdict -/

/-- The outcome of a call is recorded. -/
theorem Ending.apply_recording [Fault ε] {b : Breaker ε ν} (hc : b.config.Sound) (now : Nat)
    {ending : Ending ε ν} {x : Measurement} (hx : ending.measurement? b.config = some x) :
    ∃ event : Event, event.isOutcome ∧
      Recording b now x event (ending.apply b now).1 (ending.apply b now).2 := by
  have heffect := ending.apply_effect hc now
  generalize (ending.apply b now).1 = m, (ending.apply b now).2 = events at heffect ⊢
  cases heffect with
  | returned hnone _ =>
    rw [hx] at hnone
    cases hnone
  | reported hx' hevent h =>
    rw [hx] at hx'
    cases hx'
    exact ⟨_, hevent, h⟩
  | moved hrequest _ => cases hrequest

/-- What becomes of a breaker that opens on some outcomes, the last of which is reported now: it
reports the rates that reach their thresholds and then the change of state, and shows the outcomes
from then on. -/
structure OpensOn (c : Config ε ν) (start : State) (minimumCalls : Nat) (ms : List Measurement)
    (event : Event) (after : Breaker ε ν × List Event) : Prop where
  state_eq : after.1.state = .opened
  events_eq : after.2 = event :: c.breachEvents ms ++ [.stateTransition start .opened]
  snapshot_eq : ∀ now, (after.1.refresh now).metrics.snapshot = ⟨.ofList ms, minimumCalls⟩

section Verdict
variable {b m : Breaker ε ν} {ms : List Measurement} {now : Nat} {x : Measurement} {event : Event}
  {events : List Event}

/-- A breaker that opens keeps the window that it has opened on. -/
theorem OpensOn.of_moved {trigger : Trigger} {size minimumCalls : Nat}
    (hbreach : (b.noted now x).breach? trigger = some (b.noted now x).cell.window.view)
    (hshows : (b.noted now x).cell.window.Shows size minimumCalls ms) (hpos : 0 < minimumCalls)
    (henough : minimumCalls ≤ (ms.rtake size).length) :
    OpensOn b.config b.state minimumCalls (ms.rtake size) event
      ((b.noted now x).moved now trigger .opened,
        event :: (((b.noted now x).breach? trigger).map (b.noted now x).ratesExceeded).getD [] ++
          [.stateTransition b.state .opened]) where
  state_eq := rfl
  events_eq := by
    rw [hbreach, hshows.view]
    show event :: (b.noted now x).ratesExceeded _ ++ _ = _
    rw [ratesExceeded_ofList rfl hpos henough]
    rfl
  snapshot_eq later := (hshows.refresh later).view

/-- A recorded outcome on which nothing is decided is noted and reported. -/
theorem Recording.of_none (h : Recording b now x event m events)
    (hrecords : b.state ≠ .disabled ∧ b.state ≠ .metricsOnly)
    (hv : (b.noted now x).verdict? now = none) : m = b.noted now x ∧ events = [event] := by
  cases h with
  | ignored hdisabled => exact absurd hdisabled hrecords.1
  | watched hwatch => exact absurd hwatch hrecords.2
  | kept _ _ _ => exact ⟨rfl, rfl⟩
  | decided _ _ hsome _ _ _ => cases hv.symm.trans hsome

/-- A verdict is acted on, and reported with what has led to it. -/
theorem Recording.of_some (h : Recording b now x event m events)
    (hrecords : b.state ≠ .disabled ∧ b.state ≠ .metricsOnly) {trigger : Trigger} {target : State}
    (hv : (b.noted now x).verdict? now = some trigger)
    (htarget : transition b.state trigger = some target) :
    m = (b.noted now x).moved now trigger target ∧
      events =
        event :: (((b.noted now x).breach? trigger).map (b.noted now x).ratesExceeded).getD [] ++
          [.stateTransition b.state target] := by
  cases h with
  | ignored hdisabled => exact absurd hdisabled hrecords.1
  | watched hwatch => exact absurd hwatch hrecords.2
  | kept _ _ hnone => cases hnone.symm.trans hv
  | decided _ _ hsome hmade _ _ =>
    cases hsome.symm.trans hv
    cases hmade.symm.trans htarget
    exact ⟨rfl, rfl⟩

theorem Heard.closed_recording (h : Heard b ms) (hrated : b.config.Rated)
    (hclosed : b.state = .closed) (hkind : b.config.windowKind = .countBased)
    (hrecording : Recording b now x event m events) :
    if b.config.Trips ((ms ++ [x]).rtake b.config.windowSize) then
      OpensOn b.config .closed b.config.effectiveMinimum ((ms ++ [x]).rtake b.config.windowSize)
        event (m, events)
    else m.state = .closed ∧ events = [event] := by
  have hverdict := h.closed_verdict hrated hclosed hkind now x
  have hrecords : b.state ≠ .disabled ∧ b.state ≠ .metricsOnly := by simp [hclosed]
  split
  · next htrips =>
    rw [if_pos htrips] at hverdict
    obtain ⟨rfl, rfl⟩ := hrecording.of_some hrecords hverdict (by rw [hclosed]; rfl)
    rw [← hclosed]
    exact .of_moved rfl ((h.closed hclosed hkind).1.record now x) hrated.effectiveMinimum_pos
      htrips.1
  · next hcalm =>
    rw [if_neg hcalm] at hverdict
    obtain ⟨rfl, rfl⟩ := hrecording.of_none hrecords hverdict
    exact ⟨hclosed, rfl⟩

theorem Heard.halfOpen_recording (h : Heard b ms) (hc : b.config.Sound) (hrated : b.config.Rated)
    (hhalf : b.state = .halfOpen) (hlasts : b.halfOpenExpired now = false)
    (hrecording : Recording b now x event m events) :
    if (ms ++ [x]).length < b.config.permittedProbes then m.state = .halfOpen ∧ events = [event]
    else if b.config.Breaches (ms ++ [x]) then
      OpensOn b.config .halfOpen b.config.permittedProbes (ms ++ [x]) event (m, events)
    else
      m.state = .closed ∧ events = [event, .stateTransition .halfOpen .closed] ∧
        Window.ofKind b.config.windowKind b.config.windowSize b.config.effectiveMinimum now =
          .ok m.cell.window := by
  have hverdict := h.halfOpen_verdict hc hrated hhalf hlasts x
  have hrecords : b.state ≠ .disabled ∧ b.state ≠ .metricsOnly := by simp [hhalf]
  split
  · next hfew =>
    rw [if_pos hfew] at hverdict
    obtain ⟨rfl, rfl⟩ := hrecording.of_none hrecords hverdict
    exact ⟨hhalf, rfl⟩
  · next hfull =>
    rw [if_neg hfull] at hverdict
    split
    · next hbreach =>
      rw [if_pos hbreach] at hverdict
      obtain ⟨rfl, rfl⟩ := hrecording.of_some hrecords hverdict (by rw [hhalf]; rfl)
      have hall := h.halfOpen_rtake hhalf x
      have henough : b.config.permittedProbes ≤
          ((ms ++ [x]).rtake b.config.permittedProbes).length := by
        rw [hall]
        exact Nat.le_of_not_lt hfull
      rw [← hhalf, ← hall]
      exact .of_moved rfl ((h.halfOpen hhalf).1.record now x) hc.probes_pos henough
    · next hpassed =>
      rw [if_neg hpassed] at hverdict
      obtain ⟨rfl, rfl⟩ := hrecording.of_some hrecords hverdict (by rw [hhalf]; rfl)
      rw [hhalf]
      exact ⟨rfl, rfl, Config.ofKind_eq hc now⟩

/-- Without an outcome or a request a closed breaker stays closed, and a half-open one half-open for
as long as it lasts. -/
theorem Effect.state_eq {a : Act ε ν} {answer : Option Bool} (h : Effect b now a m events answer)
    (hrequest : a.request? = none) (hx : a.measurement? b.config = none)
    (hlasts : b.state = .closed ∨ b.state = .halfOpen ∧ b.halfOpenExpired now = false) :
    m.state = b.state := by
  have hopened : b.state ≠ .opened := by
    rcases hlasts with hclosed | ⟨hhalf, _⟩
    · rw [hclosed]
      decide
    · rw [hhalf]
      decide
  have hshort (hhalf : b.state = .halfOpen) : b.halfOpenExpired now = false := by
    rcases hlasts with hclosed | ⟨_, hshort⟩
    · rw [hhalf] at hclosed
      cases hclosed
    · exact hshort
  cases h with
  | asked hadmission =>
    cases hadmission with
    | passed _ | forced _ | early _ _ | noProbe _ _ _ | probe _ _ _ => rfl
    | firstProbe h _ => exact absurd h hopened
    | expired hhalf hover _ | renewed hhalf hover _ =>
      rw [hshort hhalf] at hover
      cases hover
  | returned _ _ => exact b.release_state
  | reported hsome _ _ => cases hx.symm.trans hsome
  | moved hsome _ =>
    rw [hrequest] at hsome
    cases hsome
  | idle | looked => rfl

end Verdict

/-- **A breaker trips at the first outcome that calls for it.** Let a breaker be closed, and its
window go by number. At none of the outcomes since it closed have the last ones, as many as the
window holds, called for it to open. At the next outcome it opens if and only if the last ones call
for it now: it reports the rates that reach their thresholds and then the change of state, and shows
what it has opened on. Otherwise it reports the outcome alone. A half-open breaker that lasts
decides when there are as many outcomes as probes, and on all of them: it opens if a rate reaches
its threshold, and closes with a new window if none does. Nothing but an outcome makes either of
them change its state unasked. -/
theorem trips_at_first [Fault ε] {name : String} {config : Config ε ν} {start : Nat} {draws : Draws}
    {b : Breaker ε ν} (hnew : Breaker.new name config start draws = .ok b) (deeds : List (Deed ε ν))
    {s : Chronicle ε ν} (hs : (Chronicle.blank b).run deeds = s) :
    (config.windowKind = .countBased → s.breaker.state = .closed →
      (∀ j ≤ s.outcomes.length,
        ¬ config.Trips ((s.outcomes.take j).rtake config.windowSize)) ∧
      ∀ now (ending : Ending ε ν) x, ending.measurement? config = some x →
        let after := ending.apply s.breaker now
        let recent := (s.outcomes ++ [x]).rtake config.windowSize
        ∃ event : Event, event.isOutcome ∧
          if config.Trips recent then
            OpensOn config .closed config.effectiveMinimum recent event after
          else after.1.state = .closed ∧ after.2 = [event]) ∧
    (s.breaker.state = .halfOpen →
      s.outcomes.length < config.permittedProbes ∧
      ∀ now (ending : Ending ε ν) x, s.breaker.halfOpenExpired now = false →
        ending.measurement? config = some x →
        let after := ending.apply s.breaker now
        let all := s.outcomes ++ [x]
        ∃ event : Event, event.isOutcome ∧
          if all.length < config.permittedProbes then
            after.1.state = .halfOpen ∧ after.2 = [event]
          else if config.Breaches all then
            OpensOn config .halfOpen config.permittedProbes all event after
          else
            after.1.state = .closed ∧ after.2 = [event, .stateTransition .halfOpen .closed] ∧
              Window.ofKind config.windowKind config.windowSize config.effectiveMinimum now =
                .ok after.1.cell.window) ∧
    ∀ now (a : Act ε ν), a.request? = none → a.measurement? config = none →
      (s.breaker.state = .closed ∨
        s.breaker.state = .halfOpen ∧ s.breaker.halfOpenExpired now = false) →
      (s.breaker.act now a).1.state = s.breaker.state := by
  obtain ⟨hvalid, _⟩ := ok_of_bind hnew
  have hc := Config.sound_of_validate hvalid
  have hrated := Config.rated_of_validate hvalid
  have hblank : Heard b [] := by
    obtain ⟨_, rfl⟩ := new_eq_ok hnew
    exact .fresh start hc hrated rfl
  obtain ⟨hconfig, h⟩ := Chronicle.run_induction
    (P := fun b entries => Heard b (outcomesIn config entries)) hnew hblank
    (fun b m entries e hsame hheard _ heffect => by
      subst hsame
      rw [outcomesIn_concat]
      exact heffect.heard hc hrated hheard) deeds hs
  subst hconfig
  refine ⟨fun hkind hclosed => ⟨(h.closed hclosed hkind).2, fun now ending x hx => ?_⟩,
    fun hhalf => ⟨(h.halfOpen hhalf).2, fun now ending x hlasts hx => ?_⟩,
    fun now a hrequest hx hlasts => (act_effect hc now a).state_eq hrequest hx hlasts⟩
  · obtain ⟨event, hevent, hrecording⟩ := Ending.apply_recording hc now hx
    exact ⟨event, hevent, h.closed_recording hrated hclosed hkind hrecording⟩
  · obtain ⟨event, hevent, hrecording⟩ := Ending.apply_recording hc now hx
    exact ⟨event, hevent, h.halfOpen_recording hc hrated hhalf hlasts hrecording⟩

/-- A breaker that asks for two failures in a row, of calls and of probes. -/
def tolerant : Config Error Unit :=
  { strict with
    failureRateThreshold := 100.0, windowSize := 2, minimumCalls := 5, permittedProbes := 2 }

def tolerantBreaker : Breaker Error Unit :=
  { name := "tolerant", config := tolerant, cell := tolerant.freshCell 0 .closed 0 0 false none }

/-- A success and a failure. -/
def wavering : List (Deed Error Unit) :=
  [⟨1, .report (.success ⟨1⟩)⟩, ⟨2, .report (.error ⟨1⟩ .concurrentModification)⟩]

/-- The next failure opens the breaker, and a probe fails. -/
def probing : List (Deed Error Unit) :=
  wavering ++ [⟨3, .report (.error ⟨1⟩ .concurrentModification)⟩, ⟨13, .ask⟩, ⟨14, .ask⟩,
    ⟨15, .report (.error ⟨1⟩ .concurrentModification)⟩]

/-- The failure that pushes the success out of the window trips the breaker, and a probe that
succeeds after one that failed closes it. -/
theorem tolerant_trips :
    let s := (Chronicle.blank tolerantBreaker).run wavering
    let t := (Chronicle.blank tolerantBreaker).run probing
    s.breaker.state = .closed ∧ t.breaker.state = .halfOpen ∧
      (∃ event : Event, event.isOutcome ∧
        OpensOn tolerant .closed 2 [⟨.failure, ⟨1⟩⟩, ⟨.failure, ⟨1⟩⟩] event
          (Ending.apply s.breaker 3 (.error ⟨1⟩ .concurrentModification))) ∧
      (Ending.apply t.breaker 16 (.success ⟨1⟩)).1.state = .closed := by
  have hnew : Breaker.new "tolerant" tolerant 0 = .ok tolerantBreaker := rfl
  have hclosed : ((Chronicle.blank tolerantBreaker).run wavering).breaker.state = .closed := by
    decide +kernel
  have hhalf : ((Chronicle.blank tolerantBreaker).run probing).breaker.state = .halfOpen := by
    decide +kernel
  refine ⟨hclosed, hhalf, ?_, ?_⟩
  · obtain ⟨event, hevent, hverdict⟩ := ((trips_at_first hnew wavering rfl).1 rfl hclosed).2 3
      (.error ⟨1⟩ .concurrentModification) ⟨.failure, ⟨1⟩⟩ rfl
    have htrips : tolerant.Trips [⟨.failure, ⟨1⟩⟩, ⟨.failure, ⟨1⟩⟩] := by
      decide +kernel
    have hrecent : List.rtake (((Chronicle.blank tolerantBreaker).run wavering).outcomes ++
        [⟨.failure, ⟨1⟩⟩]) tolerant.windowSize = [⟨.failure, ⟨1⟩⟩, ⟨.failure, ⟨1⟩⟩] := by
      decide +kernel
    rw [hrecent, if_pos htrips] at hverdict
    exact ⟨event, hevent, hverdict⟩
  · obtain ⟨_, _, hverdict⟩ := ((trips_at_first hnew probing rfl).2.1 hhalf).2 16
      (.success ⟨1⟩) ⟨.success, ⟨1⟩⟩ (by decide +kernel) rfl
    have hall : ((Chronicle.blank tolerantBreaker).run probing).outcomes ++ [⟨.success, ⟨1⟩⟩] =
        [⟨.failure, ⟨1⟩⟩, ⟨.success, ⟨1⟩⟩] := by
      decide +kernel
    rw [hall, if_neg (by decide), if_neg (by decide +kernel)] at hverdict
    exact hverdict.1

end Breaker

end FaultTolerance
