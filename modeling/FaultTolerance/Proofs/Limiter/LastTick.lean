import FaultTolerance.Proofs.Limiter.Refills

/-! Requests that are served at once.

Where readings stop at the last tick, the next cycle seems to begin at once, so whatever that cycle
would bring is served without a wait (**`served_at_once_iff`**). At any other reading a request is
served at once only if its permissions are there. Whether it can be carried out at all is a matter
of words of 64 bits: they hold what is computed for it until as much has been asked for as a count
can show. -/
namespace FaultTolerance.Limiter

/-! ### The last tick -/

section LastTick
variable {l : Limiter} {now permits : Nat}

/-- The next cycle begins where it does, or seems to begin at the last tick. -/
theorem untilNextCycle_eq (l : Limiter) (now : Nat) :
    l.untilNextCycle now = min ((l.cycle + 1) * l.period) lastTick - l.age now := by
  have hboundary : mulTicks (addTicks l.cycle 1) l.period =
      min ((l.cycle + 1) * l.period) lastTick := by
    unfold mulTicks addTicks
    by_cases hcount : l.cycle + 1 ≤ lastTick
    · rw [Nat.min_eq_left hcount]
    · have hlate : lastTick ≤ lastTick * l.period := Nat.le_mul_of_pos_right _ l.period_pos
      have hlater : lastTick * l.period ≤ (l.cycle + 1) * l.period :=
        Nat.mul_le_mul_right _ (by omega)
      rw [Nat.min_eq_right (Nat.le_of_not_le hcount)]
      omega
  unfold untilNextCycle
  exact congrArg (· - l.age now) hboundary

/-- The next cycle seems to have begun at the last tick and only then. -/
theorem untilNextCycle_eq_zero_iff (hreached : l.currentCycle now ≤ l.cycle)
    (hage : l.age now ≤ lastTick) : l.untilNextCycle now = 0 ↔ l.age now = lastTick := by
  have hahead := age_lt_next hreached
  rw [untilNextCycle_eq]
  omega

theorem fullCycles_eq_zero_iff {missing : Int} {limit : Nat} (hpos : 0 < limit) :
    fullCycles missing limit = 0 ↔ missing ≤ 0 := by
  unfold fullCycles
  rw [Nat.div_eq_zero_iff]
  omega

theorem waitFor_eq_zero_iff (hpos : 0 < l.limit) (hreached : l.currentCycle now ≤ l.cycle)
    (hage : l.age now ≤ lastTick) :
    l.waitFor now permits = 0 ↔ permits ≤ l.permissions ∨
      l.age now = lastTick ∧ permits ≤ l.permissions + l.limit := by
  have hperiod : 0 < l.config.period := l.period_pos
  unfold waitFor
  by_cases hthere : (permits : Int) ≤ l.permissions
  · rw [if_pos hthere]
    exact iff_of_true rfl (.inl hthere)
  · have hcycles : mulTicks (fullCycles (permits - (l.permissions + l.limit)) l.limit)
        l.config.period = 0 ↔ permits - (l.permissions + l.limit) ≤ 0 := by
      rw [← fullCycles_eq_zero_iff hpos]
      have hlast : lastTick ≠ 0 := by decide
      have hzero := @Nat.mul_eq_zero l.config.period
        (fullCycles (permits - (l.permissions + l.limit)) l.limit)
      unfold mulTicks
      omega
    have hboundary := untilNextCycle_eq_zero_iff hreached hage
    have hlast : lastTick ≠ 0 := by decide
    rw [if_neg hthere]
    simp only [limit] at *
    unfold addTicks
    omega

theorem quote_eq_zero_iff_there (hpos : 0 < l.limit) (hnow : now ≤ lastTick) :
    l.quote now permits = 0 ↔ permits ≤ (l.metrics now).available ∨
      l.origin = 0 ∧ now = lastTick ∧ permits ≤ (l.metrics now).available + l.limit := by
  have hage : l.age now ≤ lastTick := Nat.le_trans (Nat.sub_le ..) hnow
  have hlast : l.age now = lastTick ↔ l.origin = 0 ∧ now = lastTick := by
    have hpositive : 0 < lastTick := by decide
    unfold age
    omega
  have hpos : 0 < (l.rollOver now).limit := by rwa [rollOver_limit]
  have hrolled : (l.rollOver now).age now ≤ lastTick := by rwa [rollOver_age]
  have hwait : (l.rollOver now).waitFor now permits = 0 ↔ _ :=
    waitFor_eq_zero_iff hpos (l.rollOver_reached now) hrolled
  rw [rollOver_limit, rollOver_age, hlast, and_assoc] at hwait
  exact hwait

theorem request_ready_iff (l : Limiter) (now permits : Nat) :
    (l.request now permits).2.2 = .ready ↔ l.quote now permits = 0 := by
  have hwait : (l.next now permits l.config.timeout.ticks).wait = l.quote now permits := rfl
  unfold request
  dsimp only
  rw [hwait]
  split
  · next hzero => exact iff_of_true rfl hzero
  · next hlater => split <;> exact iff_of_false nofun hlater

theorem reserve_zero_iff (l : Limiter) (now permits : Nat) :
    (l.reserve now permits).2.2 = some .zero ↔ l.quote now permits = 0 := by
  rw [reserve_answer]
  split
  · exact ⟨fun heq => congrArg Duration.nanos (Option.some.inj heq),
      fun heq => congrArg (fun nanos => some (Duration.mk nanos)) heq⟩
  · exact iff_of_false nofun (by omega)

end LastTick

/-! ### Runs -/

/-- A step that names no more permissions than a word can hold. -/
def Step.isWord : Step → Bool
  | reserve permits | request permits | start permits | changeLimit permits =>
    permits ≤ mostPermits
  | poll _ | drop _ | drain | changeTimeout _ | look => true

namespace Ledger

/-- The limit and the count of a limiter, from above. -/
theorem run_le_mostPermits [Timer] {s : Ledger} {inputs : List Input}
    (hwords : ∀ i ∈ inputs, i.step.isWord)
    (h : s.limiter.limit ≤ mostPermits ∧ s.limiter.permissions ≤ (mostPermits : Int)) :
    (s.run inputs).limiter.limit ≤ mostPermits ∧
      (s.run inputs).limiter.permissions ≤ (mostPermits : Int) := by
  refine List.foldlRecOn (motive := fun s => s.limiter.limit ≤ mostPermits ∧
    s.limiter.permissions ≤ (mostPermits : Int)) inputs next h ?_
  intro s h i hi
  have hrolled (t : Nat) : (s.limiter.rollOver t).permissions ≤ mostPermits := by
    have hlimit : s.limiter.config.limitForPeriod ≤ mostPermits := h.1
    unfold rollOver
    split
    · exact Int.le_trans (Int.min_le_right ..) (Int.ofNat_le.mpr hlimit)
    · exact h.2
  have hasked (t permits timeout : Nat) :
      (s.limiter.next t permits timeout).permissions ≤ mostPermits :=
    Int.le_trans (next_permissions_le ..) (hrolled t)
  apply act_preserves (P := fun l _ => l.limit ≤ mostPermits ∧ l.permissions ≤ (mostPermits : Int))
    (s.pass i) i.step
  · intro l m _ hs hl
    rw [hs.limit, hs.permissions]
    exact hl
  · intro permits _ _
    rw [next_limit]
    exact ⟨h.1, hasked ..⟩
  · intro _ p _ _
    split
    · exact ⟨h.1, Int.le_trans (Int.min_le_right ..) (Int.ofNat_le.mpr h.1)⟩
    · exact h
  · intro _
    refine ⟨?_, Int.le_trans (Int.min_le_left ..) (hasked (s.pass i).now 0 0)⟩
    exact Nat.le_trans (Nat.le_of_eq (next_limit s.limiter (s.pass i).now 0 0)) h.1
  · intro n hn _
    have hword := hwords i hi
    rw [hn] at hword
    exact ⟨of_decide_eq_true hword, h.2⟩
  · intro _ _
    exact h
  · exact h

end Ledger

/-- **A request is served at once if its permissions are there, or at the last tick.** Whatever has
been done with a limiter and whatever the clock reads: no request and no reservation is served
without a wait unless its permissions are available in the current cycle, except at the last reading
of the clock with a limiter that was made at its first one. There the next cycle seems to begin at
once, and whatever it would bring is served. What is computed for a request fits into words of 64
bits, and nothing is divided by zero, exactly if the debt that the request leads to is below 2⁶³;
and it is until so many permissions have been asked for. -/
theorem served_at_once_iff [Timer] {name : String} {config : Config} {start : Nat} {first : Limiter}
    (hnew : Limiter.new name config start = .ok first) (inputs : List Input)
    (hlimit : config.limitForPeriod ≤ mostPermits) (hwords : ∀ i ∈ inputs, i.step.isWord)
    {now permits : Nat} (hnow : now ≤ lastTick) (hpermits : permits ≤ mostPermits) :
    let s := (Ledger.fresh first start).run inputs
    let l := s.limiter
    let available := (l.metrics now).available
    let atOnce := (permits : Int) ≤ available ∨
      start = 0 ∧ now = lastTick ∧ permits ≤ available + l.limit
    ((l.request now permits).2.2 = .ready ↔ atOnce) ∧
      ((l.reserve now permits).2.2 = some .zero ↔ atOnce) ∧
      (s.InRange → ∀ timeout, l.next? now permits timeout =
        if permits - available < countLimit then some (l.next now permits timeout) else none) ∧
      (Ledger.asked inputs + permits < countLimit →
        s.InRange ∧ permits - available < countLimit) := by
  intro s l available atOnce
  have hreached : ReachedSince start l := ⟨name, config, first, inputs, hnew, rfl⟩
  obtain ⟨horigin, hpos⟩ := hreached.upkeep
  have hfirst := (new_eq_ok hnew).2
  have hmost : l.limit ≤ mostPermits ∧ l.permissions ≤ (mostPermits : Int) := by
    apply Ledger.run_le_mostPermits hwords
    rw [hfirst]
    exact ⟨hlimit, Int.ofNat_le.mpr hlimit⟩
  have hquote : l.quote now permits = 0 ↔ atOnce := by
    rw [quote_eq_zero_iff_there hpos hnow, horigin]
  refine ⟨(l.request_ready_iff now permits).trans hquote,
    (l.reserve_zero_iff now permits).trans hquote, fun hrange timeout => ?_, fun hfew => ?_⟩
  · exact InWords.next?_eq ⟨hpos, hmost.1, hrange, hmost.2⟩ hpermits now timeout
  · have hnone : first.debt = 0 := by
      rw [hfirst]
      exact Int.toNat_of_nonpos (Int.neg_nonpos_of_nonneg (Int.natCast_nonneg _))
    have hdebt : l.debt ≤ first.debt + Ledger.asked inputs :=
      (Ledger.fresh first start).run_debt_le inputs
    have hrolled : (l.rollOver now).debt ≤ l.debt := l.debt_rollOver_le now
    have havailable : available = (l.rollOver now).permissions := rfl
    unfold Ledger.InRange
    show -countLimit ≤ l.permissions ∧ _
    unfold debt at *
    omega

/-- A permission for every tick, and nobody is refused. -/
def patient : Config := { limitForPeriod := 1, refreshPeriod := ⟨1⟩, timeout := .longest }

/-- What 2³¹ of the greatest requests have left of it. -/
def outgrown : Limiter :=
  { name := "patient", config := patient, origin := 0, permissions := -9223372034707292159 }

/-- A word is outgrown by 2³¹ of the greatest requests. -/
theorem reservations_outgrow_words [Timer] : ∃ inputs : List Input, (∀ i ∈ inputs, i.step.isWord) ∧
    let s := (Ledger.fresh ⟨"patient", patient, 0, 0, 1, 0, 0⟩ 0).run inputs
    s.InRange ∧ ∀ timeout, s.limiter.next? 0 mostPermits timeout = none := by
  obtain ⟨many, hmany⟩ : ∃ many : Nat, many = 2 ^ 31 := ⟨_, rfl⟩
  obtain ⟨-, wait, hlimiter⟩ := Ledger.run_reservations many mostPermits
    (s := Ledger.fresh ⟨"patient", patient, 0, 0, 1, 0, 0⟩ 0) (by decide) (by decide)
  have hspent : ((Ledger.fresh ⟨"patient", patient, 0, 0, 1, 0, 0⟩ 0).run
      (List.replicate many ⟨0, 0, .reserve mostPermits⟩)).limiter = { outgrown with wait } := by
    rw [hlimiter, hmany]
    rfl
  refine ⟨List.replicate many ⟨0, 0, .reserve mostPermits⟩, fun i hi => ?_, ?_⟩
  · rw [List.eq_of_mem_replicate hi]
    decide
  intro s
  have hfirst : outgrown.InWords := ⟨by decide, by decide, by decide, by decide⟩
  have hwords : s.limiter.InWords := by
    rw [hspent]
    exact ⟨hfirst.limit_pos, hfirst.limit_le, hfirst.le_permissions, hfirst.permissions_le⟩
  refine ⟨hwords.le_permissions, fun timeout => ?_⟩
  have hrolled : s.limiter.rollOver 0 = s.limiter := by
    rw [hspent]
    exact rollOver_of_le _ _ (Nat.le_of_eq (Nat.zero_div _))
  rw [hwords.next?_eq (Nat.le_refl _), hrolled, hspent]
  exact if_neg (show ¬ (mostPermits : Int) - outgrown.permissions < countLimit by decide)

/-- One permission for every ten ticks. -/
def sparse : Config := { limitForPeriod := 1, refreshPeriod := ⟨10⟩, timeout := .zero }

/-- A moment before the last tick a limiter still tells the truth. -/
theorem spent_serves_nobody :
    let l := ((Ledger.fresh ⟨"sparse", sparse, 0, 0, 1, 0, 0⟩ 0).run
      [⟨lastTick - 1, 0, .reserve 1⟩]).limiter
    (l.request (lastTick - 1) 1).2.2 ≠ .ready ∧ (l.reserve (lastTick - 1) 1).2.2 ≠ some .zero ∧
      ∀ timeout, l.next? (lastTick - 1) 1 timeout = some (l.next (lastTick - 1) 1 timeout) := by
  obtain ⟨hrequest, hreserve, hnext, -⟩ := served_at_once_iff
    (show Limiter.new "sparse" sparse 0 = .ok ⟨"sparse", sparse, 0, 0, 1, 0, 0⟩ from rfl)
    [⟨lastTick - 1, 0, .reserve 1⟩] (by decide) (by decide)
    (show lastTick - 1 ≤ lastTick by decide) (show 1 ≤ mostPermits by decide)
  refine ⟨?_, ?_, ?_⟩
  · rw [Ne, hrequest]
    decide
  · rw [Ne, hreserve]
    decide
  · intro timeout
    rw [hnext (by decide)]
    exact if_pos (by decide)

/-- At the last tick it serves one permission after the other. -/
theorem last_tick_serves_for_free :
    let l := ((Ledger.fresh ⟨"sparse", sparse, 0, 0, 1, 0, 0⟩ 0).run
      [⟨lastTick, 0, .reserve 1⟩]).limiter
    Limiter.new "sparse" sparse 0 = .ok ⟨"sparse", sparse, 0, 0, 1, 0, 0⟩ ∧
      (l.metrics lastTick).available = 0 ∧ (l.request lastTick 1).2.2 = .ready := by
  refine ⟨rfl, ?_, ?_⟩ <;> decide

end FaultTolerance.Limiter
