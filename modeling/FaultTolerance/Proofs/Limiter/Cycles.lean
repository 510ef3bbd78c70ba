import FaultTolerance.Limiter.Basic

/-! The count of a limiter, cycle by cycle.

`standing` is the count that a limiter would come to in a later cycle if nothing more were booked
and refills were never cut. A roll-over never raises it (`standing_rollOver_le`), and a request is
told to wait for the first cycle whose standing covers it: `le_standing_of_use` says that the cycle
of use covers the request, `standing_lt_of_use` that the cycle before does not. Both hold as long
as the cycle in question ends within the range of the clock. -/
namespace FaultTolerance.Limiter

variable (l : Limiter) (now : Nat)

/-- The permissions that each cycle brings. -/
def limit : Nat := l.config.limitForPeriod

/-- The length of a cycle. -/
def period : Nat := l.config.period

theorem period_pos : 0 < l.period := l.config.period_pos

/-- The count in a cycle if nothing more is booked until then and no refill is cut. -/
def standing (c : Nat) : Int := l.permissions + l.limit * ((c : Int) - l.cycle)

theorem standing_succ (c : Nat) : l.standing (c + 1) = l.standing c + l.limit := by
  have hsplit : (l.limit : Int) * (((c + 1 : Nat) : Int) - l.cycle) =
      l.limit * ((c : Int) - l.cycle) + l.limit := by
    rw [show ((c + 1 : Nat) : Int) - l.cycle = (c : Int) - l.cycle + 1 by omega, Int.mul_add,
      Int.mul_one]
  unfold standing
  omega

/-! ### Rolling over -/

@[simp] theorem rollOver_config : (l.rollOver now).config = l.config := by
  unfold rollOver
  split <;> rfl

@[simp] theorem rollOver_origin : (l.rollOver now).origin = l.origin := by
  unfold rollOver
  split <;> rfl

@[simp] theorem rollOver_limit : (l.rollOver now).limit = l.limit := by
  unfold limit
  rw [rollOver_config]

@[simp] theorem rollOver_period : (l.rollOver now).period = l.period := by
  unfold period
  rw [rollOver_config]

@[simp] theorem rollOver_age (t : Nat) : (l.rollOver now).age t = l.age t := by
  unfold age
  rw [rollOver_origin]

@[simp] theorem rollOver_currentCycle (t : Nat) :
    (l.rollOver now).currentCycle t = l.currentCycle t := by
  unfold currentCycle
  rw [rollOver_age, rollOver_config]

theorem rollOver_of_le (h : l.currentCycle now ≤ l.cycle) : l.rollOver now = l := by
  unfold rollOver
  rw [if_neg (by omega)]

theorem rollOver_cycle : (l.rollOver now).cycle = max l.cycle (l.currentCycle now) := by
  unfold rollOver
  split
  · simp only
    omega
  · omega

theorem age_mono {t u : Nat} (h : t ≤ u) : l.age t ≤ l.age u := by
  unfold age
  omega

theorem currentCycle_mono {t u : Nat} (h : t ≤ u) : l.currentCycle t ≤ l.currentCycle u :=
  Nat.div_le_div_right (l.age_mono h)

theorem clampCount_le {n : Int} (h : -countLimit ≤ n) : clampCount n ≤ n := by
  unfold clampCount
  omega

theorem cutRefill_nonneg (cycles limit : Nat) :
    0 ≤ min (cycles : Int) (countLimit - 1) * limit :=
  Int.mul_nonneg (by simp only [countLimit]; omega) (by omega)

theorem refill_nonneg (cycles limit : Nat) : 0 ≤ refill cycles limit := by
  have hn := cutRefill_nonneg cycles limit
  unfold refill clampCount
  simp only [countLimit] at hn ⊢
  omega

/-- A refill is never more than what its cycles bring. -/
theorem refill_le (cycles limit : Nat) : refill cycles limit ≤ limit * cycles := by
  have hn := cutRefill_nonneg cycles limit
  have hmin : min (cycles : Int) (countLimit - 1) * limit ≤ cycles * limit :=
    Int.mul_le_mul_of_nonneg_right (Int.min_le_left ..) (by omega)
  have hclamp := clampCount_le (n := min (cycles : Int) (countLimit - 1) * limit)
    (by simp only [countLimit] at hn ⊢; omega)
  rw [Int.mul_comm (limit : Int)]
  unfold refill
  omega

theorem rollOver_permissions_le_limit (h : l.permissions ≤ l.limit) :
    (l.rollOver now).permissions ≤ l.limit := by
  unfold rollOver
  split
  · exact Int.min_le_right ..
  · exact h

/-- Rolling over never raises the standing of a cycle. -/
theorem standing_rollOver_le (h : -countLimit ≤ l.permissions) (c : Nat) :
    (l.rollOver now).standing c ≤ l.standing c := by
  unfold rollOver
  split
  · next hlt =>
    have hr := refill_le (l.currentCycle now - l.cycle) l.config.limitForPeriod
    have h0 := refill_nonneg (l.currentCycle now - l.cycle) l.config.limitForPeriod
    have hclamp := clampCount_le
      (n := l.permissions + refill (l.currentCycle now - l.cycle) l.config.limitForPeriod)
      (by omega)
    have hsplit : (l.limit : Int) * ((c : Int) - l.cycle) =
        l.limit * ((c : Int) - (l.currentCycle now : Nat)) +
          l.limit * ((l.currentCycle now - l.cycle : Nat) : Int) := by
      rw [← Int.mul_add]
      congr 1
      omega
    simp only [standing, limit] at hsplit ⊢
    omega
  · exact Int.le_refl _

/-- A roll-over that does not cut the refill changes no standing. -/
theorem standing_rollOver (hl : 0 < l.limit) (h : (l.limit : Int) - countLimit < l.permissions)
    (hle : l.standing (l.currentCycle now) ≤ l.limit) (c : Nat) :
    (l.rollOver now).standing c = l.standing c := by
  unfold rollOver
  split
  · next hlt =>
    have hbrought : (l.currentCycle now : Int) - l.cycle =
        (l.currentCycle now - l.cycle : Nat) := by omega
    unfold standing at hle
    rw [hbrought] at hle
    generalize hk : l.currentCycle now - l.cycle = k at *
    have hsplit : (l.limit : Int) * ((c : Int) - l.cycle) =
        l.limit * ((c : Int) - (l.currentCycle now : Nat)) + l.limit * (k : Int) := by
      rw [← Int.mul_add]
      congr 1
      omega
    have hlimit : (l.limit : Int) * 1 ≤ l.limit * (k : Int) :=
      Int.mul_le_mul_of_nonneg_left (by omega) (by omega)
    have hcount : 1 * (k : Int) ≤ l.limit * (k : Int) :=
      Int.mul_le_mul_of_nonneg_right (by omega) (by omega)
    have hrefill : refill k l.config.limitForPeriod = l.limit * (k : Int) := by
      have hmin : min (k : Int) (countLimit - 1) = k := Int.min_eq_left (by omega)
      unfold refill clampCount
      rw [hmin, Int.mul_comm (k : Int)]
      simp only [limit, countLimit] at *
      omega
    rw [hrefill]
    simp only [standing, limit, clampCount, countLimit] at *
    omega
  · rfl

/-! ### The cycle of use

A request that is told to wait so many ticks is to use its permissions when they have passed. -/

theorem le_fullCycles (missing : Int) {limit : Nat} (hl : 0 < limit) :
    missing ≤ limit * fullCycles missing limit := by
  unfold fullCycles
  have hdiv := Nat.div_add_mod (missing.toNat + (limit - 1)) limit
  have hmod := Nat.mod_lt (missing.toNat + (limit - 1)) hl
  generalize (missing.toNat + (limit - 1)) / limit = q at *
  have hcast : ((limit * q : Nat) : Int) = limit * (q : Int) := Int.natCast_mul ..
  omega

theorem fullCycles_pred_lt (missing : Int) {limit : Nat} (hl : 0 < limit)
    (h : 0 < fullCycles missing limit) :
    (limit : Int) * ((fullCycles missing limit : Nat) - 1 : Int) < missing := by
  unfold fullCycles at h ⊢
  have hdiv := Nat.div_add_mod (missing.toNat + (limit - 1)) limit
  have hpos : limit ≤ missing.toNat + (limit - 1) := (Nat.div_pos_iff.mp h).2
  generalize (missing.toNat + (limit - 1)) / limit = q at *
  have hcast : ((limit * q : Nat) : Int) = limit * (q : Int) := Int.natCast_mul ..
  rw [Int.mul_sub, Int.mul_one]
  omega

/-- The reading at which a request that comes now is to use its permissions. -/
def useAt (permits : Nat) : Nat := l.age now + l.waitFor now permits

/-- The first later cycle that brings what is missing of a request. -/
def bringing (permits : Nat) : Nat :=
  l.cycle + 1 + fullCycles (permits - (l.permissions + l.limit)) l.limit

/-- Permissions that are there are used at once. -/
theorem useAt_of_le {permits : Nat} (h : (permits : Int) ≤ l.permissions) :
    l.useAt now permits = l.age now := by
  unfold useAt waitFor
  rw [if_pos h]
  rfl

section UpToDate
variable {l now}

section Reached
variable (hreached : l.currentCycle now ≤ l.cycle)
include hreached

theorem age_lt_next : l.age now < (l.cycle + 1) * l.period :=
  Nat.lt_mul_of_div_lt (Nat.lt_succ_of_le hreached) l.period_pos

/-- Permissions that are missing are used at the start of the cycle that brings them, if it begins
within the range of the clock. -/
theorem useAt_of_lt {permits : Nat} (h : l.permissions < permits)
    (hend : l.bringing permits * l.period ≤ lastTick) :
    l.useAt now permits = l.bringing permits * l.period := by
  have hage := age_lt_next hreached
  have hnext : (l.cycle + 1) * l.period ≤ l.bringing permits * l.period :=
    Nat.mul_le_mul_right _ (Nat.le_add_right ..)
  have hcount : l.cycle + 1 ≤ lastTick :=
    Nat.le_trans (Nat.le_mul_of_pos_right _ l.period_pos) (Nat.le_trans hnext hend)
  have hsplit :=
    Nat.add_mul (l.cycle + 1) (fullCycles (permits - (l.permissions + l.limit)) l.limit)
    l.period
  unfold useAt waitFor untilNextCycle
  unfold bringing at *
  rw [if_neg (by omega)]
  simp only [addTicks, mulTicks, Nat.min_eq_left hcount, period, limit] at *
  omega

end Reached

variable (hcycle : l.cycle = l.currentCycle now)
include hcycle

/-- A use that falls into a cycle within the range of the clock was not cut. -/
theorem bringing_le_of_use {permits c : Nat} (h : l.permissions < permits)
    (huse : l.useAt now permits / l.period ≤ c) (hend : (c + 1) * l.period ≤ lastTick) :
    l.bringing permits * l.period ≤ lastTick := by
  have hage := age_lt_next (Nat.le_of_eq hcycle.symm)
  have hbelow : l.useAt now permits < (c + 1) * l.period :=
    Nat.lt_mul_of_div_lt (Nat.lt_succ_of_le huse) l.period_pos
  have hboundary : (l.cycle + 1) * l.period ≤ (c + 1) * l.period := by
    apply Nat.mul_le_mul_right
    have hmono : l.age now / l.period ≤ l.useAt now permits / l.period :=
      Nat.div_le_div_right (Nat.le_add_right ..)
    rw [hcycle]
    exact Nat.succ_le_succ (Nat.le_trans hmono huse)
  have hcount : l.cycle + 1 ≤ lastTick :=
    Nat.le_trans (Nat.le_mul_of_pos_right _ l.period_pos) (Nat.le_trans hboundary hend)
  have hsplit :=
    Nat.add_mul (l.cycle + 1) (fullCycles (permits - (l.permissions + l.limit)) l.limit)
    l.period
  unfold useAt waitFor untilNextCycle at hbelow
  unfold bringing
  rw [if_neg (by omega)] at hbelow
  simp only [addTicks, mulTicks, Nat.min_eq_left hcount, period, limit] at *
  omega

variable (hl : 0 < l.limit)
include hl

omit hcycle in
theorem le_standing_bringing (permits : Nat) : permits ≤ l.standing (l.bringing permits) := by
  have hle := le_fullCycles (permits - (l.permissions + l.limit)) hl
  unfold standing bringing
  generalize fullCycles (permits - (l.permissions + l.limit)) l.limit = f at *
  have hsplit : (l.limit : Int) * (((l.cycle + 1 + f : Nat) : Int) - l.cycle) =
      l.limit + l.limit * (f : Int) := by
    rw [show (((l.cycle + 1 + f : Nat) : Int) - l.cycle) = 1 + f by omega, Int.mul_add,
      Int.mul_one]
  omega

omit hcycle in
theorem standing_pred_bringing_lt {permits : Nat} (h : l.permissions < permits) :
    l.standing (l.bringing permits - 1) < permits := by
  have hlt := fullCycles_pred_lt (permits - (l.permissions + l.limit)) hl
  unfold standing bringing
  generalize fullCycles (permits - (l.permissions + l.limit)) l.limit = f at *
  have hsplit : (l.limit : Int) * (((l.cycle + 1 + f - 1 : Nat) : Int) - l.cycle) =
      l.limit * (f : Int) := by
    rw [show (((l.cycle + 1 + f - 1 : Nat) : Int) - l.cycle) = f by omega]
  rw [hsplit]
  rw [Int.mul_sub, Int.mul_one] at hlt
  by_cases hf : 0 < f
  · have := hlt hf
    omega
  · rw [show f = 0 by omega]
    simpa using h

omit hcycle hl in
theorem standing_mono {c d : Nat} (h : c ≤ d) : l.standing c ≤ l.standing d := by
  have hle : (l.limit : Int) * ((c : Int) - l.cycle) ≤ l.limit * ((d : Int) - l.cycle) :=
    Int.mul_le_mul_of_nonneg_left (by omega) (by omega)
  unfold standing
  omega

omit hcycle hl in
theorem standing_cycle : l.standing l.cycle = l.permissions := by
  unfold standing
  rw [Int.sub_self, Int.mul_zero, Int.add_zero]

/-- **The cycle of use covers the request.** -/
theorem le_standing_of_use {permits c : Nat} (huse : l.useAt now permits / l.period ≤ c)
    (hend : (c + 1) * l.period ≤ lastTick) : permits ≤ l.standing c := by
  by_cases h : (permits : Int) ≤ l.permissions
  · have hc : l.cycle ≤ c := by
      rw [hcycle]
      rwa [useAt_of_le l now h] at huse
    have hle := standing_mono (l := l) hc
    rw [standing_cycle] at hle
    omega
  · have huses := useAt_of_lt (Nat.le_of_eq hcycle.symm) (by omega)
      (bringing_le_of_use hcycle (by omega) huse hend)
    rw [huses, Nat.mul_div_cancel _ l.period_pos] at huse
    exact Int.le_trans (le_standing_bringing hl permits) (standing_mono huse)

/-- **The cycle before the cycle of use does not cover it.** -/
theorem standing_lt_of_use {permits c : Nat} (huse : l.useAt now permits / l.period = c)
    (hend : (c + 1) * l.period ≤ lastTick) (hc : l.cycle < c) :
    l.standing (c - 1) < permits := by
  by_cases h : (permits : Int) ≤ l.permissions
  · rw [useAt_of_le l now h] at huse
    exact absurd (hcycle.trans huse) (Nat.ne_of_lt hc)
  · have huses := useAt_of_lt (Nat.le_of_eq hcycle.symm) (by omega)
      (bringing_le_of_use hcycle (by omega) (Nat.le_of_eq huse) hend)
    rw [huses, Nat.mul_div_cancel _ l.period_pos] at huse
    rw [← huse]
    exact standing_pred_bringing_lt hl (by omega)

/-- A single permission is used in the first cycle that has one, at its start or at once. -/
theorem useAt_of_standing {u : Nat} (hu : l.cycle ≤ u) (hone : 1 ≤ l.standing u)
    (hle : l.standing u ≤ l.limit) (hend : (u + 1) * l.period ≤ lastTick) :
    l.useAt now 1 = max (l.age now) (u * l.period) := by
  have hstep : u ≠ l.cycle → l.standing (u - 1) ≤ 0 ∧ l.cycle ≤ u - 1 := by
    intro hne
    have hsucc := l.standing_succ (u - 1)
    rw [show u - 1 + 1 = u by omega] at hsucc
    omega
  by_cases h : (1 : Int) ≤ l.permissions
  · have heq : u = l.cycle := by
      apply Decidable.byContradiction
      intro hne
      have hmono := standing_mono (l := l) (hstep hne).2
      rw [standing_cycle] at hmono
      have hnone := (hstep hne).1
      omega
    have hbegun : u * l.period ≤ l.age now := by
      rw [heq, hcycle]
      exact Nat.div_mul_le_self ..
    rw [useAt_of_le l now h]
    omega
  · have hne : u ≠ l.cycle := by
      rintro rfl
      rw [standing_cycle] at hone
      exact h hone
    have hbringing : l.bringing 1 = u := by
      have hcovers := le_standing_bringing (l := l) hl 1
      have hbefore := standing_pred_bringing_lt hl (show l.permissions < (1 : Nat) by omega)
      have hnone := (hstep hne).1
      rcases Nat.lt_trichotomy (l.bringing 1) u with hlt | heq | hgt
      · have hmono := standing_mono (l := l) (show l.bringing 1 ≤ u - 1 by omega)
        omega
      · exact heq
      · have hmono := standing_mono (l := l) (show u ≤ l.bringing 1 - 1 by omega)
        omega
    have hbegins : u * l.period ≤ lastTick :=
      Nat.le_trans (Nat.mul_le_mul_right _ (Nat.le_succ u)) hend
    have hage := age_lt_next (Nat.le_of_eq hcycle.symm)
    have hlater : (l.cycle + 1) * l.period ≤ u * l.period := Nat.mul_le_mul_right _ (by omega)
    rw [useAt_of_lt (Nat.le_of_eq hcycle.symm) (by omega) (by rw [hbringing]; exact hbegins),
      hbringing]
    omega

end UpToDate

end FaultTolerance.Limiter
