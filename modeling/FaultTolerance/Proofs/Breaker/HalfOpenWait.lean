import FaultTolerance.Proofs.Breaker.OpenWait
import FaultTolerance.Proofs.Breaker.Trip

/-! When a half-open state is over.

A half-open state lasts from the change of state that has led to it (`Entered`) for the longest wait
of the configuration, as far as the clock can show it, and for ever if that is zero. Until then the
clock decides nothing (`Effect.lasts`). From then on whoever asks first, or tells an outcome, finds
it over: the breaker opens once more, whatever its probes have shown, and a request is looked at
again in the new open state (`GivesWay`). So a request is decided in two rounds at most
(`decidedIn_le_two`).

The main theorem is **`half_open_gives_way`**. -/
namespace FaultTolerance.Breaker
variable {ε ν : Type}

/-! ### Rounds -/

/-- A request for admission is decided in so many rounds. -/
inductive DecidedIn (now : Nat) : Nat → Breaker ε ν → Prop
  | last {b m : Breaker ε ν} {events : List Event} {admitted : Bool}
    (h : b.round now = .decided m events admitted) : DecidedIn now 1 b
  | again {b m : Breaker ε ν} {events : List Event} {rounds : Nat}
    (h : b.round now = .again m events) (hm : DecidedIn now rounds m) : DecidedIn now (rounds + 1) b

section Rounds
variable {b : Breaker ε ν} {now n : Nat}

/-- Rounds beyond those that it takes change nothing. -/
theorem DecidedIn.admitWithin_add (h : DecidedIn now n b) (extra : Nat) :
    admitWithin now (n + extra) b = admitWithin now n b := by
  induction h with
  | last h => rw [Nat.add_comm 1 extra, admitWithin_decided h, admitWithin_decided h]
  | again h _ ih => rw [Nat.add_right_comm, admitWithin_again h, admitWithin_again h, ih]

theorem DecidedIn.tryAcquire_eq (h : DecidedIn now n b) (hn : n ≤ 3) {rounds : Nat}
    (hrounds : n ≤ rounds) : admitWithin now rounds b = b.tryAcquire now := by
  obtain ⟨extra, rfl⟩ := Nat.exists_eq_add_of_le hrounds
  obtain ⟨spare, hspare⟩ := Nat.exists_eq_add_of_le hn
  unfold tryAcquire
  rw [hspare, h.admitWithin_add, h.admitWithin_add]

theorem decidedIn_opened (hc : b.config.Sound) (h : b.state = .opened) (now : Nat) :
    DecidedIn now 1 b := by
  rcases Nat.lt_or_ge now b.cell.openUntil with hwait | hwait
  · exact .last (round_early h hwait)
  · exact .last (round_firstProbe hc h hwait)

theorem decidedIn_le_two (hc : b.config.Sound) (now : Nat) : ∃ n ≤ 2, DecidedIn now n b := by
  cases hs : b.state with
  | closed | disabled | metricsOnly =>
    have hround : b.round now = .decided b [] true := by simp only [round, hs]
    exact ⟨1, by decide, .last hround⟩
  | forcedOpen =>
    have hround : b.round now = .decided b.refuse.1 [.callNotPermitted] false := by
      simp only [round, hs]
      rfl
    exact ⟨1, by decide, .last hround⟩
  | opened => exact ⟨1, by decide, decidedIn_opened hc hs now⟩
  | halfOpen =>
    cases hlasts : b.halfOpenExpired now with
    | false =>
      rcases Nat.eq_zero_or_pos b.cell.probes with hnone | hfree
      · exact ⟨1, by decide, .last (round_noProbe hs hlasts hnone)⟩
      · exact ⟨1, by decide, .last (round_probe hs hlasts hfree)⟩
    | true =>
      have hopened : DecidedIn now 1 (b.moved now .halfOpenWaitElapsed .opened) :=
        decidedIn_opened (b := b.moved now .halfOpenWaitElapsed .opened) hc rfl now
      exact ⟨2, Nat.le_refl _, .again (round_expired hc hs hlasts) hopened⟩

end Rounds

/-! ### The end of a half-open state -/

/-- A half-open state that was entered then is over now. -/
def Config.HalfOpenOver (c : Config ε ν) (entered now : Nat) : Prop :=
  c.maxHalfOpenWait.nanos ≠ 0 ∧ entered + c.maxHalfOpenWait.ticks ≤ now

instance (c : Config ε ν) (entered now : Nat) : Decidable (c.HalfOpenOver entered now) :=
  inferInstanceAs (Decidable (_ ∧ _))

theorem halfOpenExpired_iff {b : Breaker ε ν} {now : Nat} :
    b.halfOpenExpired now = true ↔ b.config.HalfOpenOver b.cell.enteredAt now := by
  unfold halfOpenExpired Config.HalfOpenOver
  rw [Bool.and_eq_true, bne_iff_ne, decide_eq_true_iff]
  refine and_congr_right fun hlimited => ?_
  have hpos : 0 < b.config.maxHalfOpenWait.ticks := by
    unfold Duration.ticks lastTick
    omega
  omega

/-- A breaker that came to its state with the last of some changes of state. Only a closed one may
have been there before it. -/
def Entered (b : Breaker ε ν) (links : List Link) : Prop :=
  b.state ≠ .closed →
    ∃ l, links.getLast? = some l ∧ l.target = b.state ∧ b.cell.enteredAt = l.now

theorem Entered.course {b m : Breaker ε ν} {now : Nat} {requested : Bool} {links before : List Link}
    {n : Nat} (h : Course now requested b m links n) (hbefore : Entered b before) :
    Entered m (before ++ links) := by
  induction h with
  | begin => rwa [List.append_nil]
  | settle _ hsame ih =>
    unfold Entered
    rw [hsame.state, hsame.enteredAt]
    exact ih
  | change _ _ _ _ _ _ _ =>
    intro _
    rw [← List.append_assoc]
    exact ⟨_, List.getLast?_concat, rfl, rfl⟩
  | renew _ _ _ => exact fun hclosed => absurd rfl hclosed

namespace Chronicle
variable [Fault ε] {name : String} {config : Config ε ν} {start : Nat} {b : Breaker ε ν}
  {s : Chronicle ε ν} {draws : Draws}

/-- What is known of a breaker from its chronicle: how often it has opened in a row, since when it
is in its state, and what it has heard there. -/
theorem run_known (hnew : Breaker.new name config start draws = .ok b) (deeds : List (Deed ε ν))
    (hs : (blank b).run deeds = s) :
    s.breaker.config = config ∧ Waits draws s.breaker s.links ∧ Entered s.breaker s.links ∧
      Heard s.breaker s.outcomes := by
  obtain ⟨hc, hb⟩ := new_eq_ok hnew
  have hrated := rated_of_new hnew
  have hclosed : Entered b [] := by
    rw [hb]
    exact fun hother => absurd rfl hother
  have hfresh : Heard b [] := by
    rw [hb]
    exact .fresh start hc hrated rfl
  obtain ⟨hconfig, hwaits, hentered, hheard⟩ := run_induction
    (P := fun b entries => Waits draws b (linksIn entries) ∧ Entered b (linksIn entries) ∧
      Heard b (outcomesIn config entries)) hnew
    ⟨.blank hnew, hclosed, hfresh⟩
    (fun b m entries e hsame ⟨hwaits, hentered, hheard⟩ _ heffect => by
      subst hsame
      rw [linksIn_concat, outcomesIn_concat]
      exact ⟨.course heffect.course hwaits, .course heffect.course hentered,
        heffect.heard hc hrated hheard⟩) deeds hs
  refine ⟨hconfig, hwaits, hentered, ?_⟩
  unfold outcomes
  rwa [hconfig]

theorem next_links (s : Chronicle ε ν) (d : Deed ε ν) :
    (s.next d).links =
      s.links ++ linksOf d.now d.act.request?.isSome (s.breaker.act d.now d.act).2.1 :=
  linksIn_concat ..

end Chronicle

/-! ### What happens then -/

/-- What a request for admission makes of a breaker whose half-open state is over, if this is the
new open wait. It opens once more and refuses the caller, unless the wait is over at once: then the
caller takes the first probe of a new half-open state. -/
structure GivesWay (b : Breaker ε ν) (now : Nat) (wait : Duration)
    (after : Breaker ε ν × List Event × Bool) : Prop where
  attempts_eq : after.1.cell.attempts = attemptsAfter b.cell.attempts .opened
  refused : ¬ (wait.ticks = 0 ∨ lastTick ≤ now) →
    after.2 = ([.stateTransition .halfOpen .opened, .callNotPermitted], false) ∧
      after.1.metrics =
        { state := .opened
          generation := b.cell.generation + 1
          snapshot := b.metrics.snapshot
          rejected := b.rejected + 1
          remainingProbes := 0 }
  renewed : wait.ticks = 0 ∨ lastTick ≤ now →
    after.2 =
        ([.stateTransition .halfOpen .opened, .stateTransition .opened .halfOpen], true) ∧
      after.1.metrics =
        { state := .halfOpen
          generation := b.cell.generation + 2
          snapshot := ⟨{}, b.config.permittedProbes⟩
          rejected := b.rejected
          remainingProbes := b.config.permittedProbes - 1 }

section Over
variable {b m : Breaker ε ν} {now : Nat}

/-- A wait is over at once if it is none or the clock cannot show its end. -/
theorem addTicks_le_iff (now wait : Nat) : addTicks now wait ≤ now ↔ wait = 0 ∨ lastTick ≤ now := by
  unfold addTicks
  generalize lastTick = last
  omega

/-- The first outcome makes the breaker open, whatever it is. -/
theorem Recording.of_expired (hhalf : b.state = .halfOpen) (hover : b.halfOpenExpired now = true)
    {x : Measurement} {event : Event} {events : List Event}
    (h : Recording b now x event m events) :
    m = (b.noted now x).moved now .halfOpenWaitElapsed .opened ∧
      events = [event, .stateTransition .halfOpen .opened] := by
  have hverdict : (b.noted now x).verdict? now = some .halfOpenWaitElapsed := by
    have hover : (b.noted now x).halfOpenExpired now = true := hover
    unfold verdict?
    rw [noted_state, hhalf]
    exact if_pos hover
  obtain ⟨hm, hevents⟩ := h.of_some (by simp [hhalf]) hverdict (by rw [hhalf]; rfl)
  rw [hhalf] at hevents
  exact ⟨hm, hevents⟩

/-- Until then nothing but an outcome or a request changes the state. -/
theorem Effect.lasts {a : Act ε ν} {events : List Event} {answer : Option Bool}
    (h : Effect b now a m events answer) (hrequest : a.request? = none)
    (hx : a.measurement? b.config = none) (hhalf : b.state = .halfOpen)
    (hlasts : b.halfOpenExpired now = false) :
    SameState b m ∧ linksOf now false events = [] := by
  cases h with
  | asked hadmission =>
    cases hadmission with
    | probe _ _ _ | noProbe _ _ _ => exact ⟨⟨rfl, rfl, rfl, rfl, rfl, rfl, rfl⟩, rfl⟩
    | expired _ hover _ | renewed _ hover _ => cases hlasts.symm.trans hover
    | forced hother | early hother _ | firstProbe hother _ => cases hhalf.symm.trans hother
    | passed hother => simp [hhalf] at hother
  | returned _ hevents => exact ⟨.release b, linksOf_outcomes hevents⟩
  | reported hsome _ _ => cases hx.symm.trans hsome
  | moved hsome _ => cases hrequest.symm.trans hsome
  | idle | looked => exact ⟨⟨rfl, rfl, rfl, rfl, rfl, rfl, rfl⟩, rfl⟩

/-- Until then an outcome decides as the outcomes do. -/
theorem Heard.halfOpen_state {ms : List Measurement} (h : Heard b ms) (hc : b.config.Sound)
    (hrated : b.config.Rated) (hhalf : b.state = .halfOpen) (hlasts : b.halfOpenExpired now = false)
    {x : Measurement} {event : Event} {events : List Event}
    (hrecording : Recording b now x event m events) :
    m.state =
      if (ms ++ [x]).length < b.config.permittedProbes then .halfOpen
      else if b.config.Breaches (ms ++ [x]) then .opened else .closed := by
  have hdecided := h.halfOpen_recording hc hrated hhalf hlasts hrecording
  split at hdecided
  · next hfew => rw [if_pos hfew, hdecided.1]
  · next hfull =>
    rw [if_neg hfull]
    split at hdecided
    · next hbreach => rw [if_pos hbreach, hdecided.state_eq]
    · next hpassed => rw [if_neg hpassed, hdecided.1]

theorem Admission.givesWay {events : List Event} {admitted : Bool}
    (h : Admission b now m events admitted) (hhalf : b.state = .halfOpen)
    (hover : b.halfOpenExpired now = true) :
    GivesWay b now (b.config.openWait.wait (attemptsAfter b.cell.attempts .opened) b.draws.next)
      (m, events, admitted) := by
  have huntil : (b.moved now .halfOpenWaitElapsed .opened).cell.openUntil =
      addTicks now
        (b.config.openWait.wait (attemptsAfter b.cell.attempts .opened) b.draws.next).ticks := rfl
  cases h with
  | expired _ _ hwait =>
    rw [huntil, ← Nat.not_le, addTicks_le_iff] at hwait
    exact ⟨rfl, fun _ => ⟨rfl, rfl⟩, fun hnone => absurd hnone hwait⟩
  | renewed _ _ hwait =>
    rw [huntil, addTicks_le_iff] at hwait
    exact ⟨rfl, fun hlong => absurd hwait hlong, fun _ => ⟨rfl, rfl⟩⟩
  | probe _ hlasts _ | noProbe _ hlasts _ => cases hlasts.symm.trans hover
  | forced hother | early hother _ | firstProbe hother _ => cases hhalf.symm.trans hother
  | passed hother => simp [hhalf] at hother

/-- Either way it has opened once. -/
theorem GivesWay.opensInRow_eq {wait : Duration} {after : Breaker ε ν × List Event × Bool}
    (h : GivesWay b now wait after) (links : List Link) :
    opensInRow (links ++ linksOf now false after.2.1) = opensInRow links + 1 := by
  have hopened : opensInRow (links ++ [⟨now, false, .halfOpen, .opened⟩]) = _ :=
    opensInRow_opened rfl
  by_cases hwait : wait.ticks = 0 ∨ lastTick ≤ now
  · rw [(h.renewed hwait).1, ← hopened]
    show opensInRow (links ++ ([⟨now, false, .halfOpen, .opened⟩] ++ [_])) = _
    rw [← List.append_assoc]
    exact opensInRow_halfOpen rfl
  · rw [(h.refused hwait).1]
    exact hopened

end Over

/-! ### The law -/

/-- **A half-open state that has lasted too long gives way.** Whatever was done to a breaker, a
request for admission is decided in three rounds at most, and more of them would change nothing.

A half-open breaker was last moved to half-open. Once the longest wait has passed since then, as far
as the clock can show it, a request makes the breaker open, with one more open period in a row: the
caller is refused, unless the new wait is over at once, as it is if it is none or the clock stands
at its last reading; then the caller takes the first probe of a new generation. The next outcome
makes it open as well, whatever the outcomes are. Before that, and always if the longest wait is
zero, neither a request nor a look nor a call that is given back changes the state at any reading,
and an outcome decides by what the outcomes since then are. -/
theorem half_open_gives_way [Fault ε] {name : String} {config : Config ε ν} {start : Nat}
    {draws : Draws} {b : Breaker ε ν} (hnew : Breaker.new name config start draws = .ok b)
    (deeds : List (Deed ε ν)) {s : Chronicle ε ν} (hs : (Chronicle.blank b).run deeds = s) :
    (∀ now, ∃ n ≤ 3, DecidedIn now n s.breaker ∧
      ∀ rounds, n ≤ rounds → admitWithin now rounds s.breaker = s.breaker.tryAcquire now) ∧
    (s.breaker.state = .halfOpen →
      ∃ l, s.links.getLast? = some l ∧ l.target = .halfOpen ∧
      (∀ now, config.HalfOpenOver l.now now →
        let t := s.next ⟨now, .ask⟩
        let periods := min (opensInRow s.links + 1) attemptLimit
        let wait := config.openWait.wait periods (draws (openings s.links + 1))
        GivesWay s.breaker now wait (s.breaker.tryAcquire now) ∧
          opensInRow t.links = opensInRow s.links + 1 ∧ t.breaker.cell.attempts = periods) ∧
      (∀ now (ending : Ending ε ν) x, config.HalfOpenOver l.now now →
        ending.measurement? config = some x →
        let t := s.next ⟨now, .report ending⟩
        t.breaker.state = .opened ∧
          t.breaker.cell.generation = s.breaker.cell.generation + 1 ∧
          opensInRow t.links = opensInRow s.links + 1 ∧
          ∃ event : Event, event.isOutcome ∧
            (ending.apply s.breaker now).2 = [event, .stateTransition .halfOpen .opened]) ∧
      (∀ now (a : Act ε ν), ¬ config.HalfOpenOver l.now now →
        a.request? = none → a.measurement? config = none →
        let t := s.next ⟨now, a⟩
        t.breaker.state = .halfOpen ∧ t.links = s.links ∧
          t.breaker.cell.generation = s.breaker.cell.generation) ∧
      ∀ now (ending : Ending ε ν) x, ¬ config.HalfOpenOver l.now now →
        ending.measurement? config = some x →
        (s.next ⟨now, .report ending⟩).breaker.state =
          if (s.outcomes ++ [x]).length < config.permittedProbes then .halfOpen
          else if config.Breaches (s.outcomes ++ [x]) then .opened else .closed) := by
  obtain ⟨hc, _⟩ := new_eq_ok hnew
  have hrated := rated_of_new hnew
  obtain ⟨rfl, hwaits, hentered, hheard⟩ := Chronicle.run_known hnew deeds hs
  refine ⟨fun now => ?_, fun hhalf => ?_⟩
  · obtain ⟨n, hn, hdecided⟩ := decidedIn_le_two hc now
    have hthree : n ≤ 3 := Nat.le_succ_of_le hn
    exact ⟨n, hthree, hdecided, fun _ => hdecided.tryAcquire_eq hthree⟩
  obtain ⟨l, hlast, htarget, hsince⟩ := hentered (by simp [hhalf])
  have hover (now : Nat) :
      s.breaker.halfOpenExpired now = true ↔ s.breaker.config.HalfOpenOver l.now now := by
    rw [halfOpenExpired_iff, hsince]
  have hlasts (now : Nat) (h : ¬ s.breaker.config.HalfOpenOver l.now now) :
      s.breaker.halfOpenExpired now = false := Bool.eq_false_iff.mpr (mt (hover now).mp h)
  have hperiods : attemptsAfter s.breaker.cell.attempts .opened =
      min (opensInRow s.links + 1) attemptLimit := by
    rw [hwaits.attempts_eq]
    exact (attemptsAfter_opensInRow (l := ⟨0, false, .halfOpen, .opened⟩)).trans
      (by rw [opensInRow_opened rfl])
  refine ⟨l, hlast, htarget.trans hhalf, fun now hlate => ?_, fun now ending x hlate hx => ?_,
    fun now a hearly hrequest hx => ?_, fun now ending x hearly hx => ?_⟩
  · have hgives := (tryAcquire_admission hc).givesWay hhalf ((hover now).mpr hlate)
    have hlinks := s.next_links ⟨now, .ask⟩
    rw [hperiods, hwaits.draws_eq] at hgives
    intro t periods wait
    refine ⟨hgives, ?_, hgives.attempts_eq.trans hperiods⟩
    rw [hlinks]
    exact hgives.opensInRow_eq s.links
  · obtain ⟨event, hevent, hrecording⟩ := Ending.apply_recording hc now hx
    obtain ⟨hm, hevents⟩ := hrecording.of_expired hhalf ((hover now).mpr hlate)
    have hlinks := s.next_links ⟨now, .report ending⟩
    intro t
    have ht : t.breaker = _ := hm
    refine ⟨by rw [ht]; rfl, by rw [ht]; rfl, ?_, event, hevent, hevents⟩
    rw [hlinks]
    show opensInRow (s.links ++ linksOf now false (ending.apply s.breaker now).2) = _
    rw [hevents, linksOf_outcome hevent]
    exact opensInRow_opened rfl
  · have heffect := act_effect hc now a
    have hlinks := s.next_links ⟨now, a⟩
    obtain ⟨hsame, hquiet⟩ := heffect.lasts hrequest hx hhalf (hlasts now hearly)
    rw [hrequest] at hlinks
    refine ⟨hsame.state.trans hhalf, ?_, hsame.generation⟩
    rw [hlinks]
    show s.links ++ linksOf now false _ = _
    rw [hquiet, List.append_nil]
  · obtain ⟨event, hevent, hrecording⟩ := Ending.apply_recording hc now hx
    exact hheard.halfOpen_state hc hrated hhalf (hlasts now hearly) hrecording

/-- A breaker that leaves ten nanoseconds to its one probe. -/
def hasty : Config Error Unit := { strict with maxHalfOpenWait := ⟨10⟩ }

def hastyBreaker : Breaker Error Unit :=
  { name := "hasty", config := hasty, cell := hasty.freshCell 0 .closed 0 0 false none }

/-- It opens at five, and lets a probe through at fifteen. -/
def tried : List (Deed Error Unit) :=
  [⟨5, .report (.error ⟨5⟩ .concurrentModification)⟩, ⟨15, .ask⟩]

/-- A probe that passes closes the breaker at twenty-four, and comes too late at twenty-five. -/
theorem hasty_gives_way :
    let s := (Chronicle.blank hastyBreaker).run tried
    s.breaker.state = .halfOpen ∧ (s.next ⟨24, .ask⟩).breaker.state = .halfOpen ∧
      (s.next ⟨24, .report (.success ⟨1⟩)⟩).breaker.state = .closed ∧
      (s.next ⟨25, .report (.success ⟨1⟩)⟩).breaker.state = .opened ∧
      (s.breaker.tryAcquire 25).2 =
        ([.stateTransition .halfOpen .opened, .callNotPermitted], false) := by
  have hhalf : ((Chronicle.blank hastyBreaker).run tried).breaker.state = .halfOpen := by
    decide +kernel
  have hlinks : ((Chronicle.blank hastyBreaker).run tried).links =
      [⟨5, false, .closed, .opened⟩, ⟨15, false, .opened, .halfOpen⟩] := by
    decide +kernel
  have houtcomes : ((Chronicle.blank hastyBreaker).run tried).outcomes = [] := by
    decide +kernel
  obtain ⟨l, hlast, _, hasked, htold, hquiet, hverdict⟩ :=
    (half_open_gives_way (show Breaker.new "hasty" hasty 0 = .ok hastyBreaker from rfl) tried rfl).2
      hhalf
  rw [hlinks] at hlast hasked
  cases hlast
  refine ⟨hhalf, (hquiet 24 .ask (by decide) rfl rfl).1, ?_,
    (htold 25 (.success ⟨1⟩) ⟨.success, ⟨1⟩⟩ (by decide) rfl).1,
    ((hasked 25 (by decide)).1.refused (by decide)).1⟩
  rw [hverdict 24 (.success ⟨1⟩) ⟨.success, ⟨1⟩⟩ (by decide) rfl, houtcomes]
  decide +kernel

/-- **The clock cannot show every wait.** At its last reading, long after the half-open state is
over, the new open wait of ten nanoseconds is over at once, so that the caller is let in; and the
longest wait there is, cut to what the clock can show, is over then too. -/
theorem half_open_at_last_tick :
    let s := (Chronicle.blank hastyBreaker).run [⟨0, .force .halfOpen⟩]
    s.breaker.state = .halfOpen ∧ 0 + hasty.maxHalfOpenWait.nanos ≤ lastTick ∧
      hasty.openWait.wait (opensInRow s.links + 1) = ⟨10⟩ ∧
      (s.breaker.tryAcquire lastTick).2.2 = true ∧
      ∃ b, Breaker.new "endless" { strict with maxHalfOpenWait := .longest } 0 = .ok b ∧
        let t := (Chronicle.blank b).run [⟨0, .force .halfOpen⟩]
        t.breaker.state = .halfOpen ∧ lastTick < 0 + Duration.longest.nanos ∧
          (t.next ⟨lastTick, .ask⟩).breaker.cell.generation = t.breaker.cell.generation + 2 := by
  refine ⟨rfl, by decide, rfl, ?_, _, rfl, rfl, by decide, ?_⟩
  · decide +kernel
  · decide +kernel

end FaultTolerance.Breaker
