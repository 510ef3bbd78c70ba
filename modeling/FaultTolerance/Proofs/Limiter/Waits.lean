import FaultTolerance.Proofs.Limiter.RateSafety
import FaultTolerance.Proofs.Limiter.Words

/-! The wait that a request is told is exact.

Two computations meet here: the wait, which counts whole cycles with a division, and the roll-over,
which refills the count when somebody looks. The count that a look finds is negative exactly if the
standing of the cycle is (`rollOver_nonneg_iff`), and the standing covers a request from the cycle
on that brings it (`le_standing_iff`), which begins when the wait is over (`wait_le_iff`). So once
the permissions are taken, looks find a debt for as long as the wait lasts and none afterwards
(**`reserve_waits_exactly`**). -/
namespace FaultTolerance.Limiter

/-! ### What a look finds -/

/-- A refill is all that its cycles bring, or the most that a count can show. -/
theorem refill_eq_or (cycles limit : Nat) :
    refill cycles limit = limit * cycles ∨ refill cycles limit = countLimit - 1 := by
  have hnonneg := cutRefill_nonneg cycles limit
  by_cases hfew : (cycles : Int) ≤ countLimit - 1
  · rw [Int.min_eq_left hfew] at hnonneg
    unfold refill clampCount
    rw [Int.min_eq_left hfew, Int.mul_comm (limit : Int)]
    simp only [countLimit] at *
    omega
  · rcases Nat.eq_zero_or_pos limit with hnone | hpos
    · left
      unfold refill clampCount
      rw [hnone, Int.natCast_zero, Int.mul_zero, Int.zero_mul]
      rfl
    · right
      have hmany : (countLimit - 1) * 1 ≤ (countLimit - 1) * (limit : Int) :=
        Int.mul_le_mul_of_nonneg_left (by omega) (by decide)
      have hcut : min (cycles : Int) (countLimit - 1) = countLimit - 1 :=
        Int.min_eq_right (by omega)
      unfold refill clampCount
      rw [hcut]
      simp only [countLimit] at *
      omega

/-- A refill that is cut lifts any debt that the count can show. -/
theorem refill_nonneg_iff {n : Int} (h : -countLimit < n) (cycles limit : Nat) :
    0 ≤ n + refill cycles limit ↔ 0 ≤ n + (limit : Int) * cycles := by
  have hle := refill_le cycles limit
  refine ⟨fun hn => by omega, fun hn => ?_⟩
  rcases refill_eq_or cycles limit with hall | hmost
  · rwa [hall]
  · omega

/-- A look finds a debt exactly if the standing of the cycle is one. -/
theorem rollOver_nonneg_iff {l : Limiter} (h : -countLimit < l.permissions) (now : Nat) :
    0 ≤ (l.rollOver now).permissions ↔ 0 ≤ l.standing (max l.cycle (l.currentCycle now)) := by
  unfold rollOver
  split
  · next hlt =>
    have hrefill := refill_nonneg_iff h (l.currentCycle now - l.cycle) l.config.limitForPeriod
    have h0 := refill_nonneg (l.currentCycle now - l.cycle) l.config.limitForPeriod
    have hpassed : ((max l.cycle (l.currentCycle now) : Nat) : Int) - l.cycle =
        (l.currentCycle now - l.cycle : Nat) := by omega
    unfold standing
    rw [hpassed]
    simp only [limit, clampCount, countLimit] at *
    omega
  · rw [Nat.max_eq_left (by omega), standing_cycle]

/-! ### When the permissions are there -/

section Waits
variable {l : Limiter} {now permits : Nat}

/-- The standing covers a request from the cycle on that brings what is missing of it. -/
theorem le_standing_iff (hl : 0 < l.limit) (h : l.permissions < permits) (c : Nat) :
    permits ≤ l.standing c ↔ l.bringing permits ≤ c := by
  have hbefore := standing_pred_bringing_lt hl h
  constructor
  · intro hcovers
    apply Nat.le_of_not_lt
    intro hlt
    have hmono := standing_mono (l := l) (Nat.le_sub_one_of_lt hlt)
    omega
  · intro hle
    exact Int.le_trans (le_standing_bringing hl permits) (standing_mono hle)

/-- The wait is over when a cycle has come whose standing covers the request. -/
theorem wait_le_iff (hl : 0 < l.limit) (horigin : l.origin ≤ now)
    (hreached : l.currentCycle now ≤ l.cycle)
    (hend : l.permissions < permits → l.bringing permits * l.period ≤ lastTick) (later : Nat) :
    l.waitFor now permits ≤ later ↔
      permits ≤ l.standing (max l.cycle (l.currentCycle (now + later))) := by
  by_cases h : (permits : Int) ≤ l.permissions
  · have hzero : l.waitFor now permits = 0 := if_pos h
    have hmono := standing_mono (l := l) (Nat.le_max_left l.cycle (l.currentCycle (now + later)))
    rw [standing_cycle] at hmono
    exact iff_of_true (by omega) (by omega)
  · have huse := useAt_of_lt hreached (by omega) (hend (by omega))
    have hnext : l.cycle + 1 ≤ l.bringing permits := Nat.le_add_right ..
    have hage : l.age (now + later) = l.age now + later := by
      unfold age
      omega
    have hbegun : l.bringing permits ≤ l.currentCycle (now + later) ↔
        l.bringing permits * l.period ≤ l.age now + later := by
      rw [← hage]
      exact Nat.le_div_iff_mul_le l.period_pos
    rw [le_standing_iff hl (by omega), ← huse] at *
    unfold useAt at hbegun
    omega

end Waits

/-! ### Requests -/

section Requests
variable (l : Limiter) (now permits : Nat)

/-- The limiter after a request whose permissions are taken, however long they take to come. -/
def taken : Limiter :=
  { l.rollOver now with permissions := (l.rollOver now).permissions - permits }

theorem taken_standing (c : Nat) :
    (l.taken now permits).standing c = (l.rollOver now).standing c - permits := by
  exact Int.add_right_comm _ (-(permits : Int)) _

theorem rollOver_reached :
    (l.rollOver now).currentCycle now ≤ (l.rollOver now).cycle := by
  rw [rollOver_currentCycle, rollOver_cycle]
  exact Nat.le_max_right ..

/-- A limiter that has reached the cycle of the clock is seen as it is. -/
theorem metrics_available (h : l.currentCycle now ≤ l.cycle) :
    (l.metrics now).available = l.permissions := by
  show (l.rollOver now).permissions = l.permissions
  rw [rollOver_of_le l now h]

theorem quote_le_lastTick : l.quote now permits ≤ lastTick := by
  unfold quote waitFor
  split
  · exact Nat.zero_le _
  · exact addTicks_le ..

theorem quote_le_ticks_iff (d : Duration) :
    l.quote now permits ≤ d.ticks ↔ l.quote now permits ≤ d.nanos := by
  have hle := l.quote_le_lastTick now permits
  unfold Duration.ticks
  omega

theorem reserve_answer :
    (l.reserve now permits).2.2 =
      if l.quote now permits ≤ l.config.timeout.nanos then some ⟨l.quote now permits⟩
      else none := by
  have hwait := (l.reserve_wait now permits).trans (l.request_wait? now permits)
  simp only [quote_le_ticks_iff] at hwait
  cases hanswer : (l.reserve now permits).2.2 with
  | none =>
    rw [hanswer] at hwait
    split at hwait
    · cases hwait
    · next hlate => rw [if_neg hlate]
  | some wait =>
    rw [hanswer] at hwait
    split at hwait
    · next hfits =>
      rw [if_pos hfits]
      exact congrArg (fun nanos => some (Duration.mk nanos)) (Option.some.inj hwait)
    · cases hwait

/-- A reservation takes its permissions or leaves the count alone. -/
theorem reserve_limiter :
    (l.reserve now permits).1 =
      if l.quote now permits ≤ l.config.timeout.nanos then
        { l.taken now permits with wait := l.quote now permits }
      else { l.rollOver now with wait := l.quote now permits } := by
  have hnext : l.next now permits l.config.timeout.ticks =
      { l.rollOver now with
        wait := l.quote now permits
        permissions := if l.quote now permits ≤ l.config.timeout.ticks then
          (l.rollOver now).permissions - permits else (l.rollOver now).permissions } := rfl
  rw [reserve_fst, request_fst, hnext]
  simp only [quote_le_ticks_iff]
  split <;> rfl

/-- In words a reservation can be made exactly if the count can show the debt that it would lead
to. -/
theorem InWords.reserve_fits {l : Limiter} (h : l.InWords) {permits : Nat}
    (hpermits : permits ≤ mostPermits) (now : Nat) :
    (-countLimit < (l.taken now permits).permissions →
      l.next? now permits l.config.timeout.ticks = some (l.reserve now permits).1) ∧
    (¬ -countLimit < (l.taken now permits).permissions →
      l.next? now permits l.config.timeout.ticks = none) := by
  have hdebt : permits - (l.rollOver now).permissions < countLimit ↔
      -countLimit < (l.taken now permits).permissions := by
    unfold taken
    dsimp only
    omega
  rw [h.next?_eq hpermits, reserve_fst, request_fst]
  simp only [hdebt]
  exact ⟨fun hrange => if_pos hrange, fun hrange => if_neg hrange⟩

section Exact
variable {l now permits}
  (hl : 0 < l.limit) (horigin : l.origin ≤ now)
  (hend : (l.rollOver now).permissions < permits →
    (l.rollOver now).bringing permits * l.period ≤ lastTick)
include hl horigin hend

theorem quote_le_iff (later : Nat) :
    l.quote now permits ≤ later ↔ permits ≤ (l.rollOver now).standing
      (max (l.rollOver now).cycle ((l.rollOver now).currentCycle (now + later))) :=
  wait_le_iff (by rwa [rollOver_limit]) (by rwa [rollOver_origin]) (l.rollOver_reached now)
    (by rwa [rollOver_period]) later

/-- Once the permissions are taken the count is in debt for as long as the wait lasts. -/
theorem taken_nonneg_iff (hrange : -countLimit < (l.taken now permits).permissions) (later : Nat) :
    0 ≤ ((l.taken now permits).metrics (now + later)).available ↔ l.quote now permits ≤ later := by
  have hlook := rollOver_nonneg_iff hrange (now + later)
  rw [taken_standing] at hlook
  refine hlook.trans (Iff.trans ?_ (quote_le_iff hl horigin hend later).symm)
  exact Int.sub_nonneg

theorem quote_eq_zero_iff :
    l.quote now permits = 0 ↔ permits ≤ (l.metrics now).available := by
  have hcovered := quote_le_iff hl horigin hend 0
  rw [Nat.add_zero, Nat.max_eq_left (l.rollOver_reached now), standing_cycle] at hcovered
  exact Nat.le_zero_eq _ ▸ hcovered

end Exact
end Requests

/-! ### Limiters in use -/

/-- A limiter that has come out of some run since it was made. -/
def ReachedSince [Timer] (start : Nat) (l : Limiter) : Prop :=
  ∃ name config first inputs, Limiter.new name config start = .ok first ∧
    ((Ledger.fresh first start).run inputs).limiter = l

theorem Config.validate_eq_ok {c : Config} :
    c.validate = .ok () ↔ 0 < c.limitForPeriod ∧ 0 < c.refreshPeriod.nanos := by
  unfold Config.validate require
  by_cases hlimit : c.limitForPeriod = 0
  · rw [hlimit]
    exact iff_of_false nofun (by omega)
  · rw [if_pos (bne_iff_ne.mpr hlimit)]
    show (if _ then _ else _) = _ ↔ _
    split
    · next h =>
      exact iff_of_true rfl ⟨Nat.pos_of_ne_zero hlimit, Nat.pos_of_ne_zero (bne_iff_ne.mp h)⟩
    · next h =>
      exact iff_of_false nofun fun hpos => h (bne_iff_ne.mpr (Nat.ne_of_gt hpos.2))

/-- No step moves the start of cycle zero or makes the configuration invalid. -/
theorem ReachedSince.setup [Timer] {start : Nat} {l : Limiter} (h : ReachedSince start l) :
    l.origin = start ∧ l.config.validate = .ok () := by
  obtain ⟨name, config, first, inputs, hnew, rfl⟩ := h
  refine List.foldlRecOn (motive := fun s => s.limiter.origin = start ∧
    s.limiter.config.validate = .ok ()) inputs Ledger.next ?_ ?_
  · rw [(new_eq_ok hnew).2]
    exact ⟨rfl, (ok_of_bind hnew).1⟩
  intro s h i _
  apply Ledger.act_preserves
    (P := fun l _ => l.origin = start ∧ l.config.validate = .ok ()) (s.pass i) i.step
  · intro l m _ hs hl
    rw [hs.origin, hs.config]
    exact hl
  · intro permits _ _
    rw [next_config]
    exact ⟨((s.pass i).limiter.rollOver_origin _).trans h.1, h.2⟩
  · intro _ p _ _
    split
    · exact h
    · exact h
  · intro _
    exact ⟨((s.pass i).limiter.rollOver_origin _).trans h.1,
      ((s.pass i).limiter.rollOver_config _).symm ▸ h.2⟩
  · intro n _ hn
    exact ⟨h.1, Config.validate_eq_ok.mpr ⟨hn, (Config.validate_eq_ok.mp h.2).2⟩⟩
  · intro _ _
    exact h
  · exact h

theorem ReachedSince.upkeep [Timer] {start : Nat} {l : Limiter} (h : ReachedSince start l) :
    l.origin = start ∧ 0 < l.limit := ⟨h.setup.1, Config.limit_pos h.setup.2⟩

/-- **Waits of reservations are exact.** Whatever has been done with a limiter and whatever the
clock reads, the wait that a request is told is over at the first reading at which the count, were
its permissions taken, is no longer in debt. A reservation whose wait fits the timeout answers that
wait and takes exactly its permissions; any other is refused and takes none. It answers no wait
exactly if its permissions are there. The cycle that is waited for has to begin within the range of
the clock, and the debt to be within the range of the count: exactly then words of 64 bits hold all
that is computed for the reservation. -/
theorem reserve_waits_exactly [Timer] {start now permits : Nat} {l : Limiter}
    (h : ReachedSince start l)
    (hnow : start ≤ now)
    (hend : (l.rollOver now).permissions < permits →
      (l.rollOver now).bringing permits * l.period ≤ lastTick) :
    let (after, _, answer) := l.reserve now permits
    let wait := after.wait
    let available := (l.metrics now).available
    let inRange := -countLimit < (l.taken now permits).permissions
    (inRange → ∀ later,
      0 ≤ ((l.taken now permits).metrics (now + later)).available ↔ wait ≤ later) ∧
    (l.InWords → permits ≤ mostPermits →
      (inRange → l.next? now permits l.config.timeout.ticks = some after) ∧
      (¬ inRange → l.next? now permits l.config.timeout.ticks = none)) ∧
    (if wait ≤ l.config.timeout.nanos then
      answer = some ⟨wait⟩ ∧ (after.metrics now).available = available - permits ∧
        after = { l.taken now permits with wait }
    else
      answer = none ∧ (after.metrics now).available = available ∧
        after = { l.rollOver now with wait }) ∧
    (answer = some .zero ↔ permits ≤ available) := by
  obtain ⟨rfl, hl⟩ := h.upkeep
  have hzero := quote_eq_zero_iff hl hnow hend
  have hdebt := taken_nonneg_iff hl hnow hend
  have hanswer := l.reserve_answer now permits
  have hafter := l.reserve_limiter now permits
  have hreached := l.rollOver_reached now
  have hwords (h : l.InWords) (hpermits : permits ≤ mostPermits) := h.reserve_fits hpermits now
  generalize l.reserve now permits = result at *
  obtain ⟨after, events, answer⟩ := result
  dsimp only at hanswer hafter hwords ⊢
  by_cases hfits : l.quote now permits ≤ l.config.timeout.nanos
  · rw [if_pos hfits] at hanswer hafter
    subst hafter
    rw [if_pos hfits]
    refine ⟨hdebt, hwords, ⟨hanswer, metrics_available _ _ hreached, rfl⟩, ?_⟩
    rw [← hzero, hanswer]
    exact ⟨fun heq => congrArg Duration.nanos (Option.some.inj heq),
      fun heq => congrArg (fun nanos => some (Duration.mk nanos)) heq⟩
  · rw [if_neg hfits] at hanswer hafter
    subst hafter
    rw [if_neg hfits]
    refine ⟨hdebt, hwords, ⟨hanswer, metrics_available _ _ hreached, rfl⟩, ?_⟩
    rw [← hzero, hanswer]
    exact iff_of_false nofun (by omega)

/-- Five of two permissions have been booked before the limit was raised to three. -/
def raised : Limiter :=
  ((Ledger.fresh ⟨"pairs", pairs, 5, 0, 2, 0, 0⟩ 5).run
    [⟨3, 0, .reserve 5⟩, ⟨4, 0, .changeLimit 3⟩]).limiter

theorem raised_waits_exactly :
    (raised.reserve 13 4).2.2 = some ⟨22⟩ ∧
      (∀ later, 0 ≤ ((raised.taken 13 4).metrics (13 + later)).available ↔ 22 ≤ later) ∧
      raised.next? 13 4 raised.config.timeout.ticks = some (raised.reserve 13 4).1 := by
  have hreached : ReachedSince 5 raised := ⟨"pairs", pairs, _, _, rfl, rfl⟩
  have hend : (raised.rollOver 13).permissions < (4 : Nat) →
      (raised.rollOver 13).bringing 4 * raised.period ≤ lastTick := by decide
  have hwords : raised.InWords := ⟨by decide, by decide, by decide, by decide⟩
  obtain ⟨hdebt, hfits, hgranted, -⟩ :=
    reserve_waits_exactly hreached (show 5 ≤ 13 by decide) hend
  exact ⟨hgranted.1, hdebt (by decide), (hfits hwords (by decide)).1 (by decide)⟩

end FaultTolerance.Limiter
