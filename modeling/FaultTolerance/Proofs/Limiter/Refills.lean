import FaultTolerance.Proofs.Limiter.Waits

/-! What refills come to, in however many steps they are made.

A roll-over cuts twice: the refill to what a count can show, and the count to the limit. As long as
the limit and the debt together stay within the range of a count (`Solvent`), and so they do until
as much has been asked for as a count can show (`Ledger.run_solvent`), neither cut is felt
afterwards: rolling over in two steps is rolling over in one (`rollOver_rollOver`), and permissions
that are given back before a roll-over or after it come to the same (`rollOver_refund`).

All of this is for one limit. A change of the configuration does not roll over first, so cycles that
nobody has looked at before the change bring the new limit, the current cycle among them. What is
seen stays the same exactly if no such cycle is pending (**`limit_change_keeps_count_iff`**). -/
namespace FaultTolerance.Limiter

/-- A refill is all that its cycles bring, cut to the most that a count can show. -/
theorem refill_eq (cycles limit : Nat) :
    refill cycles limit = min ((limit : Int) * cycles) (countLimit - 1) := by
  have hle := refill_le cycles limit
  have hshown : refill cycles limit ≤ countLimit - 1 := by
    unfold refill clampCount
    simp only [countLimit]
    omega
  rcases refill_eq_or cycles limit with hall | hmost
  · omega
  · omega

/-! ### Roll-overs that are exact -/

section Solvent
variable (l : Limiter)

/-- The permissions that are booked ahead. -/
def debt : Nat := (-l.permissions).toNat

/-- The limit, the debt and so many more permissions together stay within the range of a count. -/
def Solvent (more : Nat) : Prop := (l.limit : Int) + l.debt + more < countLimit

instance (more : Nat) : Decidable (l.Solvent more) :=
  inferInstanceAs (Decidable ((l.limit : Int) + l.debt + more < countLimit))

/-- A roll-over does not deepen the debt. -/
theorem debt_rollOver_le (now : Nat) : (l.rollOver now).debt ≤ l.debt := by
  have hbrought := refill_nonneg (l.currentCycle now - l.cycle) l.config.limitForPeriod
  unfold debt rollOver
  split
  · simp only [clampCount, countLimit]
    omega
  · exact Nat.le_refl _

theorem debt_next_le (now permits timeout : Nat) :
    (l.next now permits timeout).debt ≤ l.debt + permits := by
  have hrolled := l.debt_rollOver_le now
  unfold debt next at *
  dsimp only
  split <;> omega

theorem debt_drain_le (now : Nat) : (l.drain now).1.debt ≤ l.debt := by
  have hnext := l.debt_next_le now 0 0
  unfold debt drain at *
  dsimp only
  omega

theorem debt_refund_le (permits : Nat) : (l.refund permits).debt ≤ l.debt := by
  unfold debt refund
  dsimp only
  omega

variable {l} {now : Nat}

theorem Solvent.none {more : Nat} (h : l.Solvent more) : l.Solvent 0 := by
  unfold Solvent at *
  omega

/-- A count that falls by what there is room for leaves the limiter solvent. -/
theorem Solvent.fall {more : Nat} (h : l.Solvent more) {m : Limiter} (hlimit : m.limit = l.limit)
    (hfall : l.permissions - more ≤ m.permissions) : m.Solvent 0 := by
  unfold Solvent debt at *
  rw [hlimit]
  omega

/-- Every cycle that has passed brings its limit once, and the count is cut to one limit. -/
theorem rollOver_of_lt (h : l.Solvent 0) (hlt : l.cycle < l.currentCycle now) :
    l.rollOver now =
      { l with
        cycle := l.currentCycle now
        permissions :=
          min (l.permissions + l.limit * (l.currentCycle now - l.cycle : Nat)) l.limit } := by
  have hcut : min (clampCount (l.permissions + refill (l.currentCycle now - l.cycle) l.limit))
      l.limit = min (l.permissions + l.limit * (l.currentCycle now - l.cycle : Nat)) l.limit := by
    have hone : (l.limit : Int) * 1 ≤ l.limit * (l.currentCycle now - l.cycle : Nat) :=
      Int.mul_le_mul_of_nonneg_left (by omega) (by omega)
    rw [refill_eq]
    simp only [Solvent, debt, clampCount, countLimit] at *
    omega
  unfold rollOver
  rw [if_pos hlt, ← hcut]
  rfl

/-- The count that is seen: one limit for every cycle that has begun, cut to one limit. -/
theorem metrics_available_eq (h : l.Solvent 0) :
    (l.metrics now).available =
      if l.currentCycle now - l.cycle = 0 then l.permissions
      else min (l.permissions + l.limit * (l.currentCycle now - l.cycle : Nat)) l.limit := by
  show (l.rollOver now).permissions = _
  split
  · rw [rollOver_of_le l now (by omega)]
  · rw [rollOver_of_lt h (by omega)]

theorem metrics_cycle_eq :
    (l.metrics now).cycle = l.cycle + (l.currentCycle now - l.cycle) := by
  show (l.rollOver now).cycle = _
  rw [rollOver_cycle]
  omega

theorem Solvent.rollOver {more : Nat} (h : l.Solvent more) : (l.rollOver now).Solvent more := by
  have hle := l.debt_rollOver_le now
  unfold Solvent at *
  rw [rollOver_limit]
  omega

theorem Solvent.refund {more : Nat} (h : l.Solvent more) (permits : Nat) :
    (l.refund permits).Solvent more := by
  have hle := l.debt_refund_le permits
  have hlimit : (l.refund permits).limit = l.limit := rfl
  unfold Solvent at *
  rw [hlimit]
  omega

/-- **Rolling over in two steps is rolling over in one.** -/
theorem rollOver_rollOver (h : l.Solvent 0) {t u : Nat} (htu : t ≤ u) :
    (l.rollOver t).rollOver u = l.rollOver u := by
  have hmono := l.currentCycle_mono htu
  by_cases hfirst : l.cycle < l.currentCycle t
  · have hcycle : (l.rollOver t).cycle = l.currentCycle t := by
      rw [rollOver_cycle]
      omega
    by_cases hsecond : l.currentCycle t < l.currentCycle u
    · have hbrought : (l.limit : Int) * (l.currentCycle t - l.cycle : Nat) +
          l.limit * (l.currentCycle u - l.currentCycle t : Nat) =
            l.limit * (l.currentCycle u - l.cycle : Nat) := by
        rw [← Int.mul_add]
        congr 1
        omega
      have hlater : (0 : Int) ≤ l.limit * (l.currentCycle u - l.currentCycle t : Nat) :=
        Int.mul_nonneg (by omega) (by omega)
      have hone : (l.limit : Int) * 1 ≤ l.limit * (l.currentCycle u - l.currentCycle t : Nat) :=
        Int.mul_le_mul_of_nonneg_left (by omega) (by omega)
      have hpermissions : (l.rollOver t).permissions =
          min (l.permissions + l.limit * (l.currentCycle t - l.cycle : Nat)) l.limit := by
        rw [rollOver_of_lt h hfirst]
      rw [rollOver_of_lt h.rollOver (by rw [hcycle, rollOver_currentCycle]; exact hsecond),
        rollOver_of_lt h (Nat.lt_trans hfirst hsecond), rollOver_currentCycle, rollOver_limit,
        hcycle, hpermissions, rollOver_of_lt h hfirst]
      congr 1
      omega
    · -- Both readings fall into one cycle.
      have hsame : l.currentCycle u = l.currentCycle t := by omega
      rw [rollOver_of_le _ u (by rw [rollOver_currentCycle, hcycle]; omega)]
      unfold Limiter.rollOver
      rw [hsame]
  · rw [rollOver_of_le l t (by omega)]

/-- **Giving permissions back and rolling over commute.** -/
theorem rollOver_refund (h : l.Solvent 0) (permits : Nat) :
    (l.refund permits).rollOver now = (l.rollOver now).refund permits := by
  by_cases hlt : l.cycle < l.currentCycle now
  · have hone : (l.limit : Int) * 1 ≤ l.limit * (l.currentCycle now - l.cycle : Nat) :=
      Int.mul_le_mul_of_nonneg_left (by omega) (by omega)
    have hgiven : (l.refund permits).cycle < (l.refund permits).currentCycle now := hlt
    rw [rollOver_of_lt (h.refund permits) hgiven, rollOver_of_lt h hlt]
    simp only [Limiter.refund, limit, currentCycle, age] at *
    congr 1
    omega
  · rw [rollOver_of_le l now (by omega)]
    exact rollOver_of_le (l.refund permits) now (Nat.le_of_not_lt hlt)

end Solvent

/-! ### Runs that stay solvent -/

namespace Ledger

/-- The permissions that a run asks for altogether, granted or not. -/
def asked (inputs : List Input) : Nat :=
  inputs.foldr (fun i total => i.step.permits?.getD 0 + total) 0

/-- Only what is asked for deepens the debt. -/
theorem act_debt_le [Timer] (s : Ledger) (step : Step) :
    (s.act step).limiter.debt ≤ s.limiter.debt + step.permits?.getD 0 := by
  apply act_preserves (P := fun l _ => l.debt ≤ s.limiter.debt + step.permits?.getD 0) s step
  · intro l m _ hs hl
    unfold debt at *
    rw [hs.permissions]
    exact hl
  · intro permits _ hask
    rw [hask]
    exact debt_next_le ..
  · intro _ p _ _
    have hback := s.limiter.debt_refund_le p.permits
    split <;> omega
  · exact fun _ => Nat.le_trans (debt_drain_le ..) (Nat.le_add_right ..)
  · exact fun _ _ _ => Nat.le_add_right ..
  · exact fun _ _ => Nat.le_add_right ..
  · exact Nat.le_add_right ..

theorem run_debt_le [Timer] (s : Ledger) (inputs : List Input) :
    (s.run inputs).limiter.debt ≤ s.limiter.debt + asked inputs := by
  induction inputs generalizing s with
  | nil => exact Nat.le_refl _
  | cons i rest ih =>
    have hfirst : (s.next i).limiter.debt ≤ s.limiter.debt + i.step.permits?.getD 0 :=
      (s.pass i).act_debt_le i.step
    have hrest : ((s.next i).run rest).limiter.debt ≤ (s.next i).limiter.debt + asked rest := ih _
    have hall : asked (i :: rest) = i.step.permits?.getD 0 + asked rest := rfl
    show ((s.next i).run rest).limiter.debt ≤ _
    omega

/-- **A limiter is solvent until it has been asked for as much as a count can show.** -/
theorem run_solvent [Timer] {s : Ledger} {inputs : List Input} {more : Nat}
    (h : ((s.run inputs).limiter.limit : Int) + s.limiter.debt + asked inputs + more < countLimit) :
    (s.run inputs).limiter.Solvent more := by
  have hdebt := s.run_debt_le inputs
  unfold Solvent
  omega

/-! ### A run that does not -/

/-- A ledger that has come out of some run since its limiter was made. -/
def ReachedSince [Timer] (start : Nat) (s : Ledger) : Prop :=
  ∃ name config first inputs, Limiter.new name config start = .ok first ∧
    (fresh first start).run inputs = s

/-- Reservations at one moment add up if the timeout is long enough for all of them. -/
theorem run_reservations [Timer] (n permits : Nat) {s : Ledger}
    (hreached : s.limiter.currentCycle s.now ≤ s.limiter.cycle)
    (hpatient : lastTick ≤ s.limiter.config.timeout.nanos) :
    let after := s.run (List.replicate n ⟨0, 0, .reserve permits⟩)
    after.now = s.now ∧ ∃ wait, after.limiter =
      { s.limiter with permissions := s.limiter.permissions - n * permits, wait } := by
  induction n generalizing s with
  | zero =>
    refine ⟨rfl, s.limiter.wait, ?_⟩
    rw [Int.natCast_zero, Int.zero_mul, Int.sub_zero]
    rfl
  | succ n ih =>
    have hgranted : s.limiter.quote s.now permits ≤ s.limiter.config.timeout.nanos :=
      Nat.le_trans (s.limiter.quote_le_lastTick s.now permits) hpatient
    have hreserve : (s.next ⟨0, 0, .reserve permits⟩).limiter =
        { s.limiter with
          permissions := s.limiter.permissions - permits
          wait := s.limiter.quote s.now permits } := by
      show (s.limiter.reserve s.now permits).1 = _
      rw [reserve_limiter, if_pos hgranted, taken, rollOver_of_le _ _ hreached]
    obtain ⟨hnow, wait, hrest⟩ := ih (s := s.next ⟨0, 0, .reserve permits⟩)
      (by rw [hreserve]; exact hreached) (by rw [hreserve]; exact hpatient)
    have hmore : s.limiter.permissions - permits - n * permits =
        s.limiter.permissions - (n + 1 : Nat) * permits := by
      rw [Int.natCast_succ, Int.add_mul, Int.one_mul]
      omega
    rw [hreserve] at hrest
    dsimp only at hrest
    rw [hmore] at hrest
    exact ⟨hnow, wait, hrest⟩

end Ledger

/-- As much for every tick as a request can name, and nobody is refused. -/
def lavish : Config := { limitForPeriod := mostPermits, refreshPeriod := ⟨1⟩, timeout := .longest }

/-- So much has been booked that the limit and the debt together pass the range of a count, which
the count itself does not. -/
def outspent : Limiter :=
  { name := "lavish", config := lavish, origin := 0, permissions := -9223372034707292160 }

/-- It takes 2³¹ + 1 reservations of the greatest kind. -/
theorem outspent_reached [Timer] :
    ∃ s : Ledger, s.ReachedSince 0 ∧ s.now = 0 ∧ SameBooks outspent s.limiter := by
  obtain ⟨many, hmany⟩ : ∃ many : Nat, many = 2 ^ 31 + 1 := ⟨_, rfl⟩
  have hnew : Limiter.new "lavish" lavish 0 = .ok ⟨"lavish", lavish, 0, 0, mostPermits, 0, 0⟩ := rfl
  obtain ⟨hnow, wait, hlimiter⟩ := Ledger.run_reservations many mostPermits
    (s := Ledger.fresh ⟨"lavish", lavish, 0, 0, mostPermits, 0, 0⟩ 0) (by decide) (by decide)
  refine ⟨_, ⟨"lavish", lavish, _, _, hnew, rfl⟩, hnow, ?_⟩
  rw [hlimiter, hmany]
  exact ⟨rfl, rfl, rfl, rfl⟩

/-! ### Changes of the configuration -/

section Relimited
variable (l : Limiter) (limit : Nat)

/-- The limiter with another limit in the place of its own. -/
def relimited : Limiter := { l with config := { l.config with limitForPeriod := limit } }

theorem relimited_self : l.relimited l.limit = l := rfl

variable {l limit} {now : Nat}

theorem changeLimit_eq_ok (hvalid : l.config.validate = .ok ()) (hpos : 0 < limit) :
    l.changeLimit limit = .ok (l.relimited limit) := by
  have hchanged : { l.config with limitForPeriod := limit }.validate = .ok () :=
    Config.validate_eq_ok.mpr ⟨hpos, (Config.validate_eq_ok.mp hvalid).2⟩
  unfold changeLimit configure
  rw [hchanged]
  rfl

/-- The cycles that are pending bring the new limit. -/
theorem relimited_rollOver (h : (l.relimited limit).Solvent 0)
    (hlt : l.cycle < l.currentCycle now) :
    ((l.relimited limit).rollOver now).permissions =
      min (l.permissions + limit * (l.currentCycle now - l.cycle : Nat)) limit := by
  rw [rollOver_of_lt h hlt]
  rfl

/-- Pending cycles of different limits come to different counts. -/
theorem relimited_rollOver_eq_iff (h : l.Solvent 0) (hr : (l.relimited limit).Solvent 0)
    (hlt : l.cycle < l.currentCycle now) :
    ((l.relimited limit).rollOver now).permissions = (l.rollOver now).permissions ↔
      limit = l.limit := by
  constructor
  · rw [relimited_rollOver hr hlt, rollOver_of_lt h hlt]
    intro heq
    have hpending : 0 < l.currentCycle now - l.cycle := by omega
    rcases Nat.lt_trichotomy limit l.limit with hlower | hsame | hraised
    · have hless : (limit : Int) * (l.currentCycle now - l.cycle : Nat) <
          l.limit * (l.currentCycle now - l.cycle : Nat) :=
        Int.mul_lt_mul_of_pos_right (by omega) (by omega)
      dsimp only at heq
      omega
    · exact hsame
    · have hmore : (l.limit : Int) * (l.currentCycle now - l.cycle : Nat) <
          limit * (l.currentCycle now - l.cycle : Nat) :=
        Int.mul_lt_mul_of_pos_right (by omega) (by omega)
      dsimp only at heq
      omega
  · intro heq
    rw [heq, relimited_self]

end Relimited

theorem changeLimit_zero (l : Limiter) :
    l.changeLimit 0 = .error (.invalidConfig "limit_for_period must be greater than 0") := rfl

section Retimed
variable {l : Limiter} (timeout : Duration)

/-- The limiter with another timeout in the place of its own. -/
def retimed (l : Limiter) (timeout : Duration) : Limiter :=
  { l with config := { l.config with timeout } }

theorem changeTimeout_eq_ok (hvalid : l.config.validate = .ok ()) :
    l.changeTimeout timeout = .ok (l.retimed timeout) := by
  have hchanged : { l.config with timeout }.validate = .ok () := hvalid
  unfold changeTimeout configure
  rw [hchanged]
  rfl

/-- A new timeout moves no cycle and no count. -/
theorem retimed_rollOver (now : Nat) :
    (l.retimed timeout).rollOver now = (l.rollOver now).retimed timeout := by
  by_cases hlt : l.cycle < l.currentCycle now
  · unfold rollOver
    rw [if_pos hlt]
    exact if_pos hlt
  · rw [rollOver_of_le l now (by omega)]
    exact rollOver_of_le (l.retimed timeout) now (Nat.le_of_not_lt hlt)

end Retimed

/-- **A change of the limit leaves the count alone exactly if no cycle is pending.** A valid change
is made whatever has been done with the limiter, and the cycle, the wait and the waiting callers are
seen as before. The count is so too if the stored state is in the cycle of the clock. Otherwise
every pending cycle brings the new limit, the one that is running included, and the count differs
unless the limits are equal. A change of the timeout is never seen, and an invalid limit changes
nothing. -/
theorem limit_change_keeps_count_iff [Timer] {start : Nat} {l : Limiter} (h : ReachedSince start l)
    (now : Nat) :
    (∀ limit, 0 < limit → ∃ m, l.changeLimit limit = .ok m ∧ m.limit = limit ∧
      let before := l.metrics now
      let after := m.metrics now
      after.cycle = before.cycle ∧ after.wait = before.wait ∧ after.waiting = before.waiting ∧
      (l.currentCycle now ≤ l.cycle → after.available = before.available) ∧
      (l.cycle < l.currentCycle now → l.Solvent 0 → m.Solvent 0 →
        after.available =
          min (l.permissions + limit * (l.currentCycle now - l.cycle : Nat)) limit ∧
        (after.available = before.available ↔ limit = l.limit))) ∧
    (∀ timeout, ∃ m, l.changeTimeout timeout = .ok m ∧ m.config.timeout = timeout ∧
      m.metrics now = l.metrics now) ∧
    l.changeLimit 0 = .error (.invalidConfig "limit_for_period must be greater than 0") ∧
    ∀ s : Ledger, s.limiter = l → s.act (.changeLimit 0) = s := by
  have hvalid := h.setup.2
  refine ⟨fun limit hpos => ?_, fun timeout => ?_, l.changeLimit_zero, fun s _ => ?_⟩
  · refine ⟨l.relimited limit, changeLimit_eq_ok hvalid hpos, rfl, ?_, rfl, rfl, fun hle => ?_,
      fun hlt hsolvent hchanged => ⟨relimited_rollOver hchanged hlt,
        relimited_rollOver_eq_iff hsolvent hchanged hlt⟩⟩
    · exact ((l.relimited limit).rollOver_cycle now).trans (l.rollOver_cycle now).symm
    · rw [metrics_available l now hle]
      exact metrics_available (l.relimited limit) now hle
  · refine ⟨l.retimed timeout, changeTimeout_eq_ok timeout hvalid, rfl, ?_⟩
    unfold metrics
    rw [retimed_rollOver]
    rfl
  · show { s with limiter := Ledger.changed s.limiter (s.limiter.changeLimit 0) } = s
    rw [changeLimit_zero]
    rfl

/-- All of the first cycle has been used. -/
def spent : Limiter :=
  ((Ledger.fresh ⟨"pairs", pairs, 5, 0, 2, 0, 0⟩ 5).run [⟨3, 0, .reserve 2⟩]).limiter

theorem spent_keeps_count :
    (∃ m, spent.changeLimit 9 = .ok m ∧ (m.metrics 14).available = 0) ∧
      ∃ m, spent.changeLimit 9 = .ok m ∧
        (m.metrics 25).available ≠ (spent.metrics 25).available := by
  have hreached : ReachedSince 5 spent := ⟨"pairs", pairs, _, _, rfl, rfl⟩
  obtain ⟨m, hm, -, -, -, -, hkept, -⟩ :=
    (limit_change_keeps_count_iff hreached 14).1 9 (by decide)
  obtain ⟨n, hn, -, -, -, -, -, hpending⟩ :=
    (limit_change_keeps_count_iff hreached 25).1 9 (by decide)
  refine ⟨⟨m, hm, hkept (by decide)⟩, n, hn, ?_⟩
  have hsolvent : n.Solvent 0 := by
    cases hn
    decide
  exact mt (hpending (by decide) (by decide) hsolvent).2.mp (by decide)

/-- The second cycle has begun when the limit is raised from two to nine, and it brings nine. -/
theorem late_limit_fills_cycle :
    (spent.metrics 15).available = 2 ∧
      (spent.changeLimit 9).toOption.map (fun m => (m.metrics 15).available) = some 9 := by
  decide

end FaultTolerance.Limiter
