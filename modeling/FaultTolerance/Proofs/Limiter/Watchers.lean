import FaultTolerance.Proofs.Limiter.Refills

/-! Those who look at a limiter, and those who ask in vain, leave no trace.

The stored state of a limiter shows when somebody last rolled it over, the answers do not. `Alike`
says of two limiters that whoever looks from a reading on finds the same books in both. Requests,
drains and new timeouts keep limiters alike and are answered the same by both
(`decisions_eq`); a new limit does not, as it meets the stored state.

An idle step (`Idle`) looks, polls, asks for nothing, asks in vain, or takes off a caller that was
refused. It rolls over at most, so a run of such steps leaves a limiter like the one that it found
(`IdleRun.undisturbed`), and two of them that end at one reading come to the same
(**`watchers_leave_no_trace`**). What is owed has to leave room for a limit in the range of a count:
past that, how often a limiter was looked at does show (**`watchers_leave_a_trace`**). -/
namespace FaultTolerance.Limiter

/-! ### The same books -/

namespace SameBooks
variable {l m k : Limiter}

theorem symm (h : SameBooks l m) : SameBooks m l :=
  ⟨h.origin.symm, h.config.symm, h.cycle.symm, h.permissions.symm⟩

theorem trans (h : SameBooks l m) (hm : SameBooks m k) : SameBooks l k :=
  ⟨hm.origin.trans h.origin, hm.config.trans h.config, hm.cycle.trans h.cycle,
    hm.permissions.trans h.permissions⟩

theorem solvent (h : SameBooks l m) {more : Nat} (hl : l.Solvent more) : m.Solvent more := by
  unfold Solvent debt at *
  rw [h.limit, h.permissions]
  exact hl

theorem rollOver (h : SameBooks l m) (now : Nat) : SameBooks (l.rollOver now) (m.rollOver now) := by
  have hcurrent := h.currentCycle now
  unfold Limiter.rollOver
  rw [hcurrent, h.cycle]
  split
  · exact ⟨h.origin, h.config, rfl, by rw [h.permissions, h.config]⟩
  · exact h

theorem refund (h : SameBooks l m) (permits : Nat) :
    SameBooks (l.refund permits) (m.refund permits) := by
  refine ⟨h.origin, h.config, h.cycle, ?_⟩
  show min (m.permissions + permits) _ = min (l.permissions + permits) _
  rw [h.permissions, h.config]

theorem waitFor (h : SameBooks l m) (now permits : Nat) :
    m.waitFor now permits = l.waitFor now permits := by
  unfold Limiter.waitFor untilNextCycle age
  rw [h.permissions, h.config, h.cycle, h.origin]

end SameBooks

/-! ### Limiters that nobody can tell apart -/

/-- Whoever looks at the reading `now` or later finds the same books. -/
def Alike (now : Nat) (l m : Limiter) : Prop :=
  ∀ t, now ≤ t → SameBooks (l.rollOver t) (m.rollOver t)

theorem SameBooks.alike {l m : Limiter} (h : SameBooks l m) (now : Nat) : Alike now l m :=
  fun t _ => h.rollOver t

/-- A roll-over that somebody makes is found by nobody. -/
theorem alike_rollOver {l : Limiter} (h : l.Solvent 0) (now : Nat) :
    Alike now l (l.rollOver now) := by
  intro t ht
  rw [rollOver_rollOver h ht]
  exact .refl _

namespace Alike
variable {l m k : Limiter} {now : Nat}

theorem symm (h : Alike now l m) : Alike now m l := fun t ht => (h t ht).symm

theorem trans (h : Alike now l m) (hm : Alike now m k) : Alike now l k :=
  fun t ht => (h t ht).trans (hm t ht)

theorem later (h : Alike now l m) {t : Nat} (ht : now ≤ t) : Alike t l m :=
  fun u hu => h u (Nat.le_trans ht hu)

theorem config (h : Alike now l m) : m.config = l.config := by
  have hseen := (h now (Nat.le_refl _)).config
  rwa [rollOver_config, rollOver_config] at hseen

theorem metrics (h : Alike now l m) :
    (m.metrics now).available = (l.metrics now).available ∧
      (m.metrics now).cycle = (l.metrics now).cycle :=
  ⟨(h now (Nat.le_refl _)).permissions, (h now (Nat.le_refl _)).cycle⟩

theorem quote (h : Alike now l m) (permits : Nat) : m.quote now permits = l.quote now permits :=
  (h now (Nat.le_refl _)).waitFor now permits

theorem next (h : Alike now l m) (permits timeout : Nat) :
    SameBooks (l.next now permits timeout) (m.next now permits timeout) := by
  have hseen := h now (Nat.le_refl _)
  have hquote := h.quote permits
  refine ⟨hseen.origin, hseen.config, hseen.cycle, ?_⟩
  show (if m.quote now permits ≤ timeout then _ else _) =
    (if l.quote now permits ≤ timeout then _ else _)
  rw [hquote, hseen.permissions]

theorem drain (h : Alike now l m) : SameBooks (l.drain now).1 (m.drain now).1 := by
  have hnext := h.next 0 0
  refine ⟨hnext.origin, hnext.config, hnext.cycle, ?_⟩
  show min (m.next now 0 0).permissions 0 = min (l.next now 0 0).permissions 0
  rw [hnext.permissions]

/-- A request is answered the same. -/
theorem decision (h : Alike now l m) (permits : Nat) :
    (m.request now permits).2.2 = (l.request now permits).2.2 := by
  have hl : (l.next now permits l.config.timeout.ticks).wait = l.quote now permits := rfl
  have hm : (m.next now permits m.config.timeout.ticks).wait = m.quote now permits := rfl
  unfold request
  dsimp only
  rw [hl, hm, h.quote, h.config]
  split
  · rfl
  · split <;> rfl

/-- Permissions may be given back before the roll-overs that are due or after them. -/
theorem refund (h : Alike now l m) (hl : l.Solvent 0) (hm : m.Solvent 0) (permits : Nat) :
    Alike now (l.refund permits) (m.refund permits) := by
  intro t ht
  rw [rollOver_refund hl, rollOver_refund hm]
  exact (h t ht).refund permits

theorem retimed (h : Alike now l m) (timeout : Duration) :
    Alike now (l.retimed timeout) (m.retimed timeout) := by
  intro t ht
  have hseen := h t ht
  rw [retimed_rollOver, retimed_rollOver]
  refine ⟨hseen.origin, ?_, hseen.cycle, hseen.permissions⟩
  show { (m.rollOver t).config with timeout } = { (l.rollOver t).config with timeout }
  rw [hseen.config]

end Alike

/-! ### Steps that keep limiters alike -/

theorem Decision.isGranted_eq (d : Decision) : d.isGranted = d.wait?.isSome := by
  cases d <;> rfl

/-- A request is refused if its wait is longer than the timeout. -/
theorem request_isGranted (l : Limiter) (now permits : Nat) :
    (l.request now permits).2.2.isGranted =
      decide (l.quote now permits ≤ l.config.timeout.ticks) := by
  rw [Decision.isGranted_eq, request_wait?]
  split
  · next h => exact (decide_eq_true h).symm
  · next h => exact (decide_eq_false h).symm

/-- A request that takes nothing rolls over and nothing else. -/
theorem next_sameBooks {l : Limiter} {now permits timeout : Nat}
    (h : permits = 0 ∨ timeout < l.quote now permits) :
    SameBooks (l.rollOver now) (l.next now permits timeout) := by
  refine ⟨rfl, rfl, rfl, ?_⟩
  show (if l.quote now permits ≤ timeout then (l.rollOver now).permissions - permits
    else (l.rollOver now).permissions) = _
  split
  · next hle =>
    obtain rfl : permits = 0 := h.resolve_right (Nat.not_lt.mpr hle)
    exact Int.sub_zero _
  · rfl

/-- A valid configuration stays valid with any timeout, and an invalid one invalid. -/
theorem changed_timeout (l : Limiter) (timeout : Duration) :
    Ledger.changed l (l.changeTimeout timeout) =
      match l.config.validate with
      | .ok _ => l.retimed timeout
      | .error _ => l := by
  unfold Ledger.changed changeTimeout configure
  have hsame : { l.config with timeout }.validate = l.config.validate := rfl
  rw [hsame]
  cases l.config.validate <;> rfl

namespace Ledger

/-- Whatever asks for permissions does the same to the books. -/
theorem act_asked [Timer] (s : Ledger) {step : Step} {permits : Nat}
    (h : step.permits? = some permits) :
    SameBooks (s.limiter.next s.now permits s.limiter.config.timeout.ticks)
      (s.act step).limiter := by
  rw [← request_fst]
  cases step with
  | reserve _ =>
    cases h
    rw [← reserve_fst]
    exact .refl _
  | request _ =>
    cases h
    exact .refl _
  | start _ =>
    cases h
    exact start_sameBooks ..
  | poll _ | drop _ | drain | changeLimit _ | changeTimeout _ | look => cases h

theorem act_poll_sameBooks [Timer] (s : Ledger) (caller : Nat) :
    SameBooks s.limiter (s.act (.poll caller)).limiter := by
  simp only [act]
  split
  · exact .refl _
  · next p _ =>
    have hpoll := p.poll_sameBooks s.limiter s.timer
    split <;> next heq => rw [heq] at hpoll; exact hpoll

/-- Whatever leaves the limit alone and gives nothing back keeps two limiters alike. -/
theorem act_alike [Timer] {s t : Ledger} (hnow : t.now = s.now)
    (h : Alike s.now s.limiter t.limiter)
    {step : Step} (hkeeps : step.keeps) :
    Alike s.now (s.act step).limiter (t.act step).limiter := by
  cases hask : step.permits? with
  | some permits =>
    have hs := s.act_asked hask
    have ht := t.act_asked hask
    rw [hnow, h.config] at ht
    exact ((hs.symm.trans (h.next permits _)).trans ht).alike s.now
  | none =>
    cases step with
    | reserve _ | request _ | start _ => cases hask
    | drop _ | changeLimit _ => cases hkeeps
    | poll caller =>
      have hs := (s.act_poll_sameBooks caller).symm.alike s.now
      exact (hs.trans h).trans ((t.act_poll_sameBooks caller).alike s.now)
    | drain =>
      simp only [act]
      rw [hnow]
      exact h.drain.alike s.now
    | changeTimeout timeout =>
      simp only [act, changed_timeout]
      rw [h.config]
      split
      · exact h.retimed timeout
      · exact h
    | look => exact h

/-! ### Answers -/

/-- What a step is answered if it asks for permissions. A reservation and a suspended caller are
told what the request that they make is told. -/
def decision? (s : Ledger) (i : Input) : Option Decision :=
  i.step.permits?.map fun permits => (s.limiter.request (s.pass i).now permits).2.2

/-- The answers to the requests of a run, in the order of the run. -/
def decisions [Timer] (s : Ledger) : List Input → List Decision
  | [] => []
  | i :: rest => (s.decision? i).toList ++ (s.next i).decisions rest

/-- **Limiters that are alike give the same answers** as long as the limit stays and nothing is
given back. -/
theorem decisions_eq [Timer] {s t : Ledger} (hnow : t.now = s.now)
    (h : Alike s.now s.limiter t.limiter)
    (later : List Input) (hkeeps : ∀ i ∈ later, i.step.keeps) :
    t.decisions later = s.decisions later := by
  induction later generalizing s t with
  | nil => rfl
  | cons i rest ih =>
    have hpassed : (t.pass i).now = (s.pass i).now := congrArg (· + i.passed) hnow
    have hlater : Alike (s.pass i).now (s.pass i).limiter (t.pass i).limiter :=
      h.later (Nat.le_add_right ..)
    have hanswer : t.decision? i = s.decision? i := by
      unfold decision?
      rw [hpassed]
      congr 1
      funext permits
      exact hlater.decision permits
    have hacted := act_alike hpassed hlater (hkeeps i (List.mem_cons_self ..))
    rw [← act_now (s.pass i) i.step] at hacted
    have hrest := ih (s := s.next i) (t := t.next i) (by
      unfold next
      rw [act_now, act_now, hpassed]) hacted fun j hj => hkeeps j (List.mem_cons_of_mem _ hj)
    unfold decisions
    rw [hanswer, hrest]

/-! ### Idle steps -/

/-- A step that wants nothing, gets nothing and gives nothing back. -/
def Idle (s : Ledger) : Step → Prop
  | .reserve permits | .request permits | .start permits =>
    permits = 0 ∨ (s.limiter.request s.now permits).2.2.isGranted = false
  | .drop caller => ∀ p ∈ s.waiting.lookup caller, p.granted = false
  | .poll _ | .look => True
  | .drain | .changeLimit _ | .changeTimeout _ => False

instance decidableIdle (s : Ledger) : (step : Step) → Decidable (s.Idle step)
  | .reserve permits | .request permits | .start permits =>
    inferInstanceAs (Decidable (permits = 0 ∨ _ = false))
  | .drop caller => inferInstanceAs (Decidable (∀ p ∈ s.waiting.lookup caller, p.granted = false))
  | .poll _ | .look => inferInstanceAs (Decidable True)
  | .drain | .changeLimit _ | .changeTimeout _ => inferInstanceAs (Decidable False)

/-- A run of idle steps, however much time passes between them. -/
def IdleRun [Timer] (s : Ledger) : List Input → Prop
  | [] => True
  | i :: rest => (s.pass i).Idle i.step ∧ IdleRun (s.next i) rest

instance decidableIdleRun [Timer] :
    (s : Ledger) → (inputs : List Input) → Decidable (s.IdleRun inputs)
  | _, [] => inferInstanceAs (Decidable True)
  | s, i :: rest =>
    have := decidableIdleRun (s.next i) rest
    inferInstanceAs (Decidable ((s.pass i).Idle i.step ∧ IdleRun (s.next i) rest))

theorem Idle.asked {s : Ledger} {step : Step} (h : s.Idle step) {permits : Nat}
    (hask : step.permits? = some permits) :
    permits = 0 ∨ s.limiter.config.timeout.ticks < s.limiter.quote s.now permits := by
  have hvain : permits = 0 ∨ (s.limiter.request s.now permits).2.2.isGranted = false := by
    cases step with
    | reserve _ | request _ | start _ =>
      cases hask
      exact h
    | poll _ | drop _ | drain | changeLimit _ | changeTimeout _ | look => cases hask
  rw [request_isGranted] at hvain
  exact hvain.imp_right fun hlate => Nat.not_le.mp (of_decide_eq_false hlate)

/-- An idle step rolls over at most. -/
theorem Idle.sameBooks [Timer] {s : Ledger} {step : Step} (h : s.Idle step) :
    SameBooks s.limiter (s.act step).limiter ∨
      SameBooks (s.limiter.rollOver s.now) (s.act step).limiter := by
  cases hask : step.permits? with
  | some permits => exact .inr ((next_sameBooks (h.asked hask)).trans (s.act_asked hask))
  | none =>
    left
    cases step with
    | reserve _ | request _ | start _ => cases hask
    | drain | changeLimit _ | changeTimeout _ => exact h.elim
    | poll caller => exact s.act_poll_sameBooks caller
    | drop caller =>
      simp only [act]
      split
      · exact .refl _
      · next p hp =>
        have hcancel := p.cancel_sameBooks s.limiter
        rw [h p hp] at hcancel
        exact hcancel
    | look => exact .refl _

/-- What time and idle steps leave of a ledger. -/
structure Undisturbed (s t : Ledger) : Prop where
  now_le : s.now ≤ t.now
  solvent : t.limiter.Solvent 0
  alike : Alike t.now s.limiter t.limiter

theorem Idle.undisturbed [Timer] {s : Ledger} {i : Input} (h : (s.pass i).Idle i.step)
    (hs : s.limiter.Solvent 0) : s.Undisturbed (s.next i) := by
  have hnow : (s.next i).now = s.now + i.passed := act_now ..
  refine ⟨by omega, ?_, ?_⟩
  · rcases h.sameBooks with hsame | hrolled
    · exact hsame.solvent hs
    · exact hrolled.solvent (Solvent.rollOver hs)
  · rw [hnow]
    rcases h.sameBooks with hsame | hrolled
    · exact hsame.alike _
    · exact (alike_rollOver hs _).trans (hrolled.alike _)

theorem IdleRun.undisturbed [Timer] {s : Ledger} {inputs : List Input} (h : s.IdleRun inputs)
    (hs : s.limiter.Solvent 0) : s.Undisturbed (s.run inputs) := by
  induction inputs generalizing s with
  | nil => exact ⟨Nat.le_refl _, hs, fun t _ => .refl _⟩
  | cons i rest ih =>
    have hfirst := Idle.undisturbed h.1 hs
    have hrest := ih h.2 hfirst.solvent
    exact ⟨Nat.le_trans hfirst.now_le hrest.now_le, hrest.solvent,
      (hfirst.alike.later hrest.now_le).trans hrest.alike⟩

/-- **Those who look and those who ask in vain leave no trace.** Two runs of idle steps from one
state that end at one reading leave the same count in the same cycle: every cycle that has begun
meanwhile has brought its limit once, and the count was cut to one limit. Whatever is asked
afterwards, both give the same answers, as long as the limit stays and nothing is given back. -/
theorem watchers_leave_no_trace [Timer] {s : Ledger} (hsolvent : s.limiter.Solvent 0)
    {one other : List Input} (hone : s.IdleRun one) (hother : s.IdleRun other)
    (hend : (s.run other).now = (s.run one).now) :
    let now := (s.run one).now
    let elapsed := s.limiter.currentCycle now - s.limiter.cycle
    let seen := (s.run one).limiter.metrics now
    seen.available =
        (if elapsed = 0 then s.limiter.permissions
          else min (s.limiter.permissions + s.limiter.limit * elapsed) s.limiter.limit) ∧
      seen.cycle = s.limiter.cycle + elapsed ∧
      ((s.run other).limiter.metrics now).available = seen.available ∧
      ((s.run other).limiter.metrics now).cycle = seen.cycle ∧
      ∀ later : List Input, (∀ i ∈ later, i.step.keeps) →
        (s.run other).decisions later = (s.run one).decisions later := by
  have hfirst := hone.undisturbed hsolvent
  have hsecond := hother.undisturbed hsolvent
  have halike : Alike (s.run one).now (s.run one).limiter (s.run other).limiter :=
    hfirst.alike.symm.trans (hend ▸ hsecond.alike)
  have hseen := hfirst.alike.metrics
  have hsame := halike.metrics
  refine ⟨hseen.1.trans (metrics_available_eq hsolvent), hseen.2.trans metrics_cycle_eq, hsame.1,
    hsame.2, fun later hkeeps => decisions_eq hend halike later hkeeps⟩

/-- Seven of two permissions are booked. -/
def inDebt : Ledger :=
  (fresh ⟨"pairs", pairs, 5, 0, 2, 0, 0⟩ 5).run [⟨0, 0, .reserve 7⟩, ⟨1, 0, .changeTimeout ⟨12⟩⟩]

/-- In the second and the third cycle, somebody looks, somebody books nothing, and two ask for more
than there is in time. -/
def busy : List Input :=
  [⟨9, 0, .look⟩, ⟨3, 0, .start 0⟩, ⟨4, 0, .reserve 3⟩, ⟨1, 1000000, .start 4⟩, ⟨3, 0, .drop 1⟩,
    ⟨19, 0, .poll 0⟩]

theorem watched_gives_same_answers :
    ((inDebt.run busy).limiter.metrics 45).available = 2 ∧
      (inDebt.run busy).decisions [⟨0, 0, .drain⟩, ⟨2, 0, .start 1⟩] =
        (inDebt.run [⟨39, 0, .look⟩]).decisions [⟨0, 0, .drain⟩, ⟨2, 0, .start 1⟩] := by
  have hsolvent : inDebt.limiter.Solvent 0 := run_solvent (by decide)
  have hbusy : inDebt.IdleRun busy := by decide
  have hlook : inDebt.IdleRun [⟨39, 0, .look⟩] := by decide
  have htrace := watchers_leave_no_trace hsolvent hbusy hlook (by decide)
  exact ⟨htrace.1, (htrace.2.2.2.2 _ (by decide)).symm⟩

/-- What a request makes of the limiter that is deep in debt. -/
theorem outspent_asked [Timer] {s : Ledger} (hbooks : SameBooks outspent s.limiter)
    (hnow : s.now = 0) {step : Step} {permits : Nat} (hask : step.permits? = some permits)
    (passed : Nat) :
    SameBooks (outspent.next passed permits lastTick) (s.next ⟨passed, 0, step⟩).limiter := by
  have hthen : (s.pass ⟨passed, 0, step⟩).now = passed :=
    (congrArg (· + passed) hnow).trans (Nat.zero_add passed)
  have htimeout : s.limiter.config.timeout.ticks = lastTick :=
    congrArg (·.timeout.ticks) hbooks.config
  have hasked := (s.pass ⟨passed, 0, step⟩).act_asked hask
  rw [hthen] at hasked
  exact ((hbooks.alike passed).next permits lastTick).trans (htimeout ▸ hasked)

/-- One permission for every microsecond, taken in the first one. -/
def soleTaken : Limiter :=
  { name := "sole", config := { limitForPeriod := 1, refreshPeriod := ⟨1000⟩, timeout := .zero }
    origin := 0, permissions := 0 }

/-- **Watchers can leave a trace** where a refill is cut to what a count can show: of a limiter that
is deep enough in debt, one that looks for the first time when 2³¹ + 1 cycles have passed sees less
than one that has booked nothing just before. They can do so, too, where the clock passes its end
and begins anew: a limiter that has been asked in vain in the second cycle is served in the first
one again. -/
theorem watchers_leave_a_trace :
    (∃ s : Ledger, s.ReachedSince 0 ∧ ∃ one other, s.IdleRun one ∧ s.IdleRun other ∧
      (s.run other).now = (s.run one).now ∧
      ((s.run one).limiter.metrics (s.run one).now).available <
        ((s.run other).limiter.metrics (s.run other).now).available) ∧
    (soleTaken.reserve 1000 2).2.2 = none ∧
      (Clock.mk 1000).advance ⟨lastTick + 1 - 1000⟩ = ⟨0⟩ ∧
      (soleTaken.reserve 0 1).2.2 = none ∧
      ((soleTaken.reserve 1000 2).1.reserve 0 1).2.2 = some .zero := by
  refine ⟨?_, by decide, by decide, by decide, by decide⟩
  obtain ⟨s, hreached, hnow, hbooks⟩ := outspent_reached
  -- The number of cycles stays a variable: it is not to be counted down.
  obtain ⟨late, hlate⟩ : ∃ late : Nat, late = 2 ^ 31 := ⟨_, rfl⟩
  have hbooked : SameBooks (outspent.next late 0 lastTick)
      (s.next ⟨late, 0, .reserve 0⟩).limiter := outspent_asked hbooks hnow rfl late
  have hend : s.now + (late + 1) = late + 1 := by omega
  refine ⟨s, hreached, [⟨late + 1, 0, .look⟩], [⟨late, 0, .reserve 0⟩, ⟨1, 0, .look⟩],
    And.intro trivial trivial, And.intro (.inl rfl) (And.intro trivial trivial), rfl, ?_⟩
  show (s.limiter.metrics (s.now + (late + 1))).available <
    ((s.next ⟨late, 0, .reserve 0⟩).limiter.metrics (s.now + (late + 1))).available
  rw [hend, ((hbooks.alike (late + 1)).metrics).1, ((hbooked.alike (late + 1)).metrics).1, hlate]
  decide +kernel

end Ledger

end FaultTolerance.Limiter
