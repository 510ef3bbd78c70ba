import FaultTolerance.Proofs.Limiter.Ledger

/-! What a limiter grants stays within what its cycles bring.

Two invariants carry this. `Accounted` ties the count to the permissions of all grants so far:
together they are never more than what the cycles up to any one cycle bring. `Covered` ties it to
single permissions cycle by cycle: the grants that are used in a cycle and what is still to be had
of it (`unbooked`) fit into one limit. Both only ask that standings do not rise, so they survive
roll-overs, refusals and drains alike; a grant lowers the standing of every cycle by as much as it
adds to the books. The bounds on whole runs follow from the two at the end. -/
namespace FaultTolerance.Limiter

/-! ### Standings after a step -/

theorem SameBooks.limit {l m : Limiter} (h : SameBooks l m) : m.limit = l.limit := by
  unfold Limiter.limit
  rw [h.config]

theorem SameBooks.period {l m : Limiter} (h : SameBooks l m) : m.period = l.period := by
  unfold Limiter.period
  rw [h.config]

theorem SameBooks.standing {l m : Limiter} (h : SameBooks l m) (c : Nat) :
    m.standing c = l.standing c := by
  unfold Limiter.standing
  rw [h.limit, h.cycle, h.permissions]

theorem SameBooks.currentCycle {l m : Limiter} (h : SameBooks l m) (now : Nat) :
    m.currentCycle now = l.currentCycle now := by
  unfold Limiter.currentCycle age
  rw [h.origin, h.config]

section Next
variable (l : Limiter) (now permits timeout : Nat)

@[simp] theorem next_config : (l.next now permits timeout).config = l.config :=
  l.rollOver_config now

@[simp] theorem next_limit : (l.next now permits timeout).limit = l.limit := l.rollOver_limit now

@[simp] theorem next_period : (l.next now permits timeout).period = l.period :=
  l.rollOver_period now

@[simp] theorem next_age (t : Nat) : (l.next now permits timeout).age t = l.age t :=
  l.rollOver_age now t

@[simp] theorem next_cycle : (l.next now permits timeout).cycle = (l.rollOver now).cycle := rfl

@[simp] theorem next_currentCycle (t : Nat) :
    (l.next now permits timeout).currentCycle t = l.currentCycle t := l.rollOver_currentCycle now t

theorem next_permissions_le :
    (l.next now permits timeout).permissions ≤ (l.rollOver now).permissions := by
  unfold next
  dsimp only
  split <;> omega

/-- A granted request lowers every standing by its permissions. -/
theorem standing_next_granted (h : l.quote now permits ≤ timeout) (c : Nat) :
    (l.next now permits timeout).standing c = (l.rollOver now).standing c - permits := by
  have hpermissions : (l.next now permits timeout).permissions =
      (l.rollOver now).permissions - permits := if_pos h
  unfold standing
  rw [next_limit, rollOver_limit, next_cycle, hpermissions]
  omega

theorem standing_next_refused (h : timeout < l.quote now permits) (c : Nat) :
    (l.next now permits timeout).standing c = (l.rollOver now).standing c := by
  have hpermissions : (l.next now permits timeout).permissions = (l.rollOver now).permissions :=
    if_neg (Nat.not_le.mpr h)
  unfold standing
  rw [next_limit, rollOver_limit, next_cycle, hpermissions]

/-- A drain raises no standing. -/
theorem standing_drain_le (c : Nat) :
    (l.drain now).1.standing c ≤ (l.rollOver now).standing c := by
  have hle : (l.drain now).1.permissions ≤ (l.rollOver now).permissions :=
    Int.le_trans (Int.min_le_left ..) (l.next_permissions_le now 0 0)
  have hcycle : (l.drain now).1.cycle = (l.rollOver now).cycle := rfl
  have hlimit : (l.drain now).1.limit = (l.rollOver now).limit := rfl
  unfold standing
  rw [hcycle, hlimit]
  omega

end Next

/-! ### A limiter in order -/

/-- A limiter of the given limit and period whose count is not above the limit and whose cycle has
begun. -/
structure Upright (limit period : Nat) (l : Limiter) (now : Nat) : Prop where
  limit_eq : l.limit = limit
  period_eq : l.period = period
  limit_pos : 0 < l.limit
  permissions_le : l.permissions ≤ l.limit
  cycle_le : l.cycle ≤ l.currentCycle now

namespace Upright
variable {limit period : Nat} {l m : Limiter} {now : Nat}

theorem same (h : Upright limit period l now) (hs : SameBooks l m) :
    Upright limit period m now := by
  refine ⟨hs.limit.trans h.limit_eq, hs.period.trans h.period_eq, ?_, ?_, ?_⟩
  · rw [hs.limit]
    exact h.limit_pos
  · rw [hs.permissions, hs.limit]
    exact h.permissions_le
  · rw [hs.cycle, hs.currentCycle]
    exact h.cycle_le

theorem later (h : Upright limit period l now) {t : Nat} (ht : now ≤ t) :
    Upright limit period l t :=
  { h with cycle_le := Nat.le_trans h.cycle_le (l.currentCycle_mono ht) }

theorem rollOver_cycle (h : Upright limit period l now) :
    (l.rollOver now).cycle = (l.rollOver now).currentCycle now := by
  rw [Limiter.rollOver_cycle, rollOver_currentCycle]
  exact Nat.max_eq_right h.cycle_le

theorem rollOver (h : Upright limit period l now) : Upright limit period (l.rollOver now) now := by
  refine ⟨(l.rollOver_limit now).trans h.limit_eq, (l.rollOver_period now).trans h.period_eq,
    ?_, ?_, Nat.le_of_eq h.rollOver_cycle⟩
  · rw [rollOver_limit]
    exact h.limit_pos
  · rw [rollOver_limit]
    exact l.rollOver_permissions_le_limit now h.permissions_le

theorem lower (h : Upright limit period l now) {p : Int} (hp : p ≤ l.permissions) (w : Nat) :
    Upright limit period { l with permissions := p, wait := w } now :=
  { h with permissions_le := Int.le_trans hp h.permissions_le }

theorem next (h : Upright limit period l now) (permits timeout : Nat) :
    Upright limit period (l.next now permits timeout) now :=
  h.rollOver.lower (l.next_permissions_le now permits timeout) _

theorem drain (h : Upright limit period l now) : Upright limit period (l.drain now).1 now :=
  (h.next 0 0).lower (Int.min_le_left ..) 0

theorem retime (h : Upright limit period l now) (d : Duration) :
    Upright limit period { l with config := { l.config with timeout := d } } now :=
  ⟨h.limit_eq, h.period_eq, h.limit_pos, h.permissions_le, h.cycle_le⟩

theorem refund (h : Upright limit period l now) (permits : Nat) :
    Upright limit period (l.refund permits) now :=
  { h with permissions_le := Int.min_le_right .. }

end Upright

/-! ### The books -/

theorem booked_cons (g : Grant) (grants : List Grant) :
    booked (g :: grants) = g.permits + booked grants := rfl

theorem bookedThrough_le (period : Nat) (grants : List Grant) (c : Nat) :
    bookedThrough period grants c ≤ booked grants := by
  induction grants with
  | nil => exact Nat.le_refl _
  | cons g rest ih =>
    unfold bookedThrough at *
    rw [List.filter_cons, booked_cons]
    split
    · rw [booked_cons]
      omega
    · omega

theorem bookedThrough_cons_of_lt {period : Nat} {g : Grant} {c : Nat} (h : c < g.cycle period)
    (grants : List Grant) :
    bookedThrough period (g :: grants) c = bookedThrough period grants c := by
  unfold bookedThrough
  rw [List.filter_cons_of_neg (by simpa using h)]

theorem usesIn_cons (period : Nat) (g : Grant) (grants : List Grant) (c : Nat) :
    usesIn period (g :: grants) c =
      usesIn period grants c + if g.cycle period = c then 1 else 0 := by
  unfold usesIn
  rw [List.countP_cons]
  simp only [decide_eq_true_eq]

/-- The grants and the count together are what the cycles bring at most. -/
structure Accounted (l : Limiter) (grants : List Grant) : Prop where
  total : ∀ c : Nat, booked grants + l.standing c ≤ l.limit * (c + 1)
  through : ∀ c : Nat, (c + 1) * l.period ≤ lastTick →
    bookedThrough l.period grants c ≤ l.limit * (c + 1)

namespace Accounted
variable {l m : Limiter} {grants : List Grant}

/-- Standings that do not rise keep the books in order. -/
theorem fall (h : Accounted l grants) (hl : m.limit = l.limit) (hp : m.period = l.period)
    (hs : ∀ c, m.standing c ≤ l.standing c) : Accounted m grants := by
  constructor
  · intro c
    have htotal := h.total c
    have hfall := hs c
    rw [hl]
    omega
  · rw [hp, hl]
    exact h.through

theorem grant (h : Accounted l grants) {now permits : Nat} {g : Grant}
    (hcycle : l.cycle = l.currentCycle now) (hpos : 0 < l.limit) (hg : g.permits = permits)
    (huse : g.use = l.useAt now permits) (hl : m.limit = l.limit) (hp : m.period = l.period)
    (hs : ∀ c, m.standing c = l.standing c - permits) : Accounted m (g :: grants) := by
  have hbooked : booked (g :: grants) = permits + booked grants := by
    rw [booked_cons, hg]
  constructor
  · intro c
    have htotal := h.total c
    rw [hbooked, hl, hs]
    omega
  · intro c hend
    rw [hp, hl] at *
    by_cases hc : g.cycle l.period ≤ c
    · -- The standing of the cycle of use covers the request, and the total holds for it.
      have hcovered := le_standing_of_use hcycle hpos (by rw [← huse]; exact hc) hend
      have hle := bookedThrough_le l.period (g :: grants) c
      have htotal := h.total c
      have hcast : ((l.limit * (c + 1) : Nat) : Int) = l.limit * ((c : Int) + 1) := by
        rw [Int.natCast_mul, Int.natCast_add, Int.natCast_one]
      omega
    · rw [bookedThrough_cons_of_lt (by omega)]
      exact h.through c hend

end Accounted

/-- The permissions of a cycle that are still to be had. -/
def unbooked (l : Limiter) (c : Nat) : Int := max 0 (min (l.standing c) l.limit)

/-- The grants of each cycle and what is still to be had of it fit into one limit. Only cycles that
end within the range of the clock count. -/
structure Covered (l : Limiter) (now : Nat) (grants : List Grant) : Prop where
  within : ∀ c, (c + 1) * l.period ≤ lastTick → usesIn l.period grants c ≤ l.limit
  ahead : ∀ c, l.currentCycle now ≤ c → (c + 1) * l.period ≤ lastTick →
    usesIn l.period grants c + l.unbooked c ≤ l.limit

namespace Covered
variable {l m : Limiter} {now : Nat} {grants : List Grant}

theorem fall (h : Covered l now grants) (hl : m.limit = l.limit) (hp : m.period = l.period)
    (hc : m.currentCycle now = l.currentCycle now) (hs : ∀ c, m.standing c ≤ l.standing c) :
    Covered m now grants := by
  constructor
  · rw [hp, hl]
    exact h.within
  · intro c hnow hend
    rw [hp, hc] at *
    have hahead := h.ahead c hnow hend
    have hfall := hs c
    unfold unbooked at *
    rw [hl]
    omega

theorem later (h : Covered l now grants) {t : Nat} (ht : now ≤ t) : Covered l t grants :=
  ⟨h.within, fun c hc => h.ahead c (Nat.le_trans (l.currentCycle_mono ht) hc)⟩

/-- A grant of one permission takes one of those that are still to be had in its cycle. -/
theorem grant (h : Covered l now grants) {g : Grant} (hcycle : l.cycle = l.currentCycle now)
    (hpos : 0 < l.limit) (hle : l.permissions ≤ l.limit) (huse : g.use = l.useAt now 1)
    (hl : m.limit = l.limit) (hp : m.period = l.period)
    (hc : m.currentCycle now = l.currentCycle now)
    (hs : ∀ c, m.standing c = l.standing c - 1) : Covered m now (g :: grants) := by
  have hnow : l.currentCycle now ≤ g.cycle l.period := by
    unfold Grant.cycle
    rw [huse]
    exact Nat.div_le_div_right (Nat.le_add_right ..)
  have hahead : ∀ c, l.currentCycle now ≤ c → (c + 1) * l.period ≤ lastTick →
      usesIn l.period (g :: grants) c + m.unbooked c ≤ l.limit := by
    intro c hnow hend
    have hold := h.ahead c hnow hend
    rw [usesIn_cons]
    unfold unbooked at *
    rw [hs, hl]
    split
    · next hused =>
      have huses : l.useAt now 1 / l.period = c := by
        rw [← huse]
        exact hused
      have hcovered := le_standing_of_use hcycle hpos (Nat.le_of_eq huses) hend
      have hbelow : l.standing c ≤ l.limit := by
        rcases Nat.eq_or_lt_of_le (Nat.le_trans (Nat.le_of_eq hcycle) hnow) with heq | hlt
        · rw [← heq, standing_cycle]
          exact hle
        · have hfirst := standing_lt_of_use hcycle hpos huses hend hlt
          have hstep := l.standing_succ (c - 1)
          rw [show c - 1 + 1 = c by omega] at hstep
          omega
      omega
    · omega
  constructor
  · intro c hend
    rw [hp, hl] at *
    by_cases hcur : l.currentCycle now ≤ c
    · have hle := hahead c hcur hend
      unfold unbooked at hle
      omega
    · rw [usesIn_cons, if_neg (by omega)]
      exact h.within c hend
  · rw [hp, hl, hc]
    exact hahead

end Covered

/-! ### Steps and runs -/

/-- No acquisition is taken back and the limit stays. -/
def Step.keeps : Step → Bool
  | drop _ | changeLimit _ => false
  | _ => true

/-- What is asked for is one permission. -/
def Step.isSingle (step : Step) : Bool := step.permits?.all (· = 1)

/-- The count has not gone below its range. -/
def Ledger.InRange (s : Ledger) : Prop := -countLimit ≤ s.limiter.permissions

instance : DecidablePred Ledger.InRange := fun s =>
  inferInstanceAs (Decidable (-countLimit ≤ s.limiter.permissions))

section Asked
variable {limit period : Nat} {s : Ledger} (hu : Upright limit period s.limiter s.now)
  (hroll : ∀ c, (s.limiter.rollOver s.now).standing c ≤ s.limiter.standing c)
include hu hroll

theorem Accounted.asked (h : Accounted s.limiter s.grants) (permits timeout : Nat)
    (caller : Option Nat) :
    Accounted (s.limiter.next s.now permits timeout)
      (s.enter s.limiter permits caller (if s.limiter.quote s.now permits ≤ timeout then
        some (s.limiter.quote s.now permits) else none)).grants := by
  have hrolled : Accounted (s.limiter.rollOver s.now) s.grants :=
    h.fall (rollOver_limit ..) (rollOver_period ..) hroll
  by_cases hq : s.limiter.quote s.now permits ≤ timeout
  · rw [if_pos hq]
    apply hrolled.grant hu.rollOver_cycle hu.rollOver.limit_pos rfl
    · simp only [Grant.use, useAt, rollOver_age, quote]
    · rw [next_limit, rollOver_limit]
    · rw [next_period, rollOver_period]
    · exact standing_next_granted _ _ _ _ hq
  · rw [if_neg hq]
    apply hrolled.fall
    · rw [next_limit, rollOver_limit]
    · rw [next_period, rollOver_period]
    · intro c
      exact Int.le_of_eq (standing_next_refused _ _ _ _ (by omega) c)

theorem Covered.asked (h : Covered s.limiter s.now s.grants) (timeout : Nat)
    (caller : Option Nat) :
    Covered (s.limiter.next s.now 1 timeout) s.now
      (s.enter s.limiter 1 caller (if s.limiter.quote s.now 1 ≤ timeout then
        some (s.limiter.quote s.now 1) else none)).grants := by
  have hrolled : Covered (s.limiter.rollOver s.now) s.now s.grants :=
    h.fall (rollOver_limit ..) (rollOver_period ..) (rollOver_currentCycle ..) hroll
  by_cases hq : s.limiter.quote s.now 1 ≤ timeout
  · rw [if_pos hq]
    apply hrolled.grant hu.rollOver_cycle hu.rollOver.limit_pos hu.rollOver.permissions_le
    · simp only [Grant.use, useAt, rollOver_age, quote]
    · rw [next_limit, rollOver_limit]
    · rw [next_period, rollOver_period]
    · rw [next_currentCycle, rollOver_currentCycle]
    · exact standing_next_granted _ _ _ _ hq
  · rw [if_neg hq]
    apply hrolled.fall
    · rw [next_limit, rollOver_limit]
    · rw [next_period, rollOver_period]
    · rw [next_currentCycle, rollOver_currentCycle]
    · intro c
      exact Int.le_of_eq (standing_next_refused _ _ _ _ (by omega) c)

omit hu in
theorem standing_drain_le_standing (c : Nat) :
    (s.limiter.drain s.now).1.standing c ≤ s.limiter.standing c :=
  Int.le_trans (standing_drain_le ..) (hroll c)

end Asked

namespace Ledger
variable {limit period : Nat}

/-- Unless the limit is changed the limiter stays in order. -/
theorem next_upright [Timer] (s : Ledger) (i : Input) (hlimit : ∀ n, i.step ≠ .changeLimit n)
    (h : Upright limit period s.limiter s.now) :
    Upright limit period (s.next i).limiter (s.next i).now := by
  have hu : Upright limit period (s.pass i).limiter (s.pass i).now :=
    h.later (Nat.le_add_right ..)
  have hnow : (s.next i).now = (s.pass i).now := act_now ..
  rw [hnow]
  apply act_preserves (P := fun l _ => Upright limit period l (s.pass i).now)
  · intro l m _ hs hl
    exact hl.same hs
  · intro permits _ _
    exact hu.next _ _
  · intro caller p _ _
    split
    · exact hu.refund _
    · exact hu
  · intro _
    exact hu.drain
  · intro n hi
    exact absurd hi (hlimit n)
  · intro d _
    exact hu.retime d
  · exact hu

theorem next_accounted [Timer] (s : Ledger) (i : Input) (hkeeps : i.step.keeps) (hr : s.InRange)
    (hu : Upright limit period s.limiter s.now) (h : Accounted s.limiter s.grants) :
    Accounted (s.next i).limiter (s.next i).grants := by
  have hlater : Upright limit period (s.pass i).limiter (s.pass i).now :=
    hu.later (Nat.le_add_right ..)
  have hroll := standing_rollOver_le s.limiter (s.pass i).now hr
  apply act_preserves (P := Accounted)
  · intro l m grants hs hl
    exact hl.fall hs.limit hs.period fun c => Int.le_of_eq (hs.standing c)
  · intro permits caller _
    exact h.asked hlater hroll _ _ _
  · intro caller p hi
    rw [hi] at hkeeps
    cases hkeeps
  · intro _
    exact h.fall (next_limit _ _ 0 0) (next_period _ _ 0 0) (standing_drain_le_standing hroll)
  · intro n hi
    rw [hi] at hkeeps
    cases hkeeps
  · intro d _
    exact ⟨h.total, h.through⟩
  · exact h

/-- Single permissions stay covered in every step but a change of the limit, if they do in a
refund. -/
theorem next_covered [Timer] (s : Ledger) (i : Input) (hlimit : ∀ n, i.step ≠ .changeLimit n)
    (hsingle : i.step.isSingle) (hr : s.InRange) (hu : Upright limit period s.limiter s.now)
    (hdrop : ∀ caller p, i.step = .drop caller → s.waiting.lookup caller = some p →
      Covered s.limiter (s.pass i).now s.grants →
      Covered (if p.granted then s.limiter.refund p.permits else s.limiter) (s.pass i).now
        (s.grants.filter (·.caller ≠ some caller)))
    (h : Covered s.limiter s.now s.grants) :
    Covered (s.next i).limiter (s.next i).now (s.next i).grants := by
  have hlater : Upright limit period (s.pass i).limiter (s.pass i).now :=
    hu.later (Nat.le_add_right ..)
  have hc : Covered (s.pass i).limiter (s.pass i).now (s.pass i).grants :=
    h.later (Nat.le_add_right ..)
  have hroll := standing_rollOver_le s.limiter (s.pass i).now hr
  have hnow : (s.next i).now = (s.pass i).now := act_now ..
  rw [hnow]
  apply act_preserves (P := fun l grants => Covered l (s.pass i).now grants)
  · intro l m grants hs hl
    exact hl.fall hs.limit hs.period (hs.currentCycle _) fun c => Int.le_of_eq (hs.standing c)
  · intro permits caller hask
    have hone : permits = 1 := by
      unfold Step.isSingle at hsingle
      rw [hask] at hsingle
      exact of_decide_eq_true hsingle
    rw [hone]
    exact hc.asked hlater hroll _ _
  · intro caller p hi hp
    exact hdrop caller p hi hp hc
  · intro _
    exact hc.fall (next_limit _ _ 0 0) (next_period _ _ 0 0) (next_currentCycle _ _ 0 0 _)
      (standing_drain_le_standing hroll)
  · intro n hi
    exact absurd hi (hlimit n)
  · intro d _
    exact ⟨hc.within, hc.ahead⟩
  · exact hc

/-! ### From the start -/

/-- A limiter that nobody has asked yet. -/
def fresh (l : Limiter) (now : Nat) : Ledger := { limiter := l, now }

end Ledger

section New
variable {name : String} {config : Config} {start : Nat} {l : Limiter}
  (hnew : Limiter.new name config start = .ok l)
include hnew

theorem new_eq_ok :
    0 < config.limitForPeriod ∧
      l = { name, config, origin := start, permissions := config.limitForPeriod } := by
  obtain ⟨hvalid, hl⟩ := ok_of_bind hnew
  exact ⟨Config.limit_pos hvalid, (Except.ok.inj hl).symm⟩

theorem new_upright : Upright config.limitForPeriod config.period l start := by
  obtain ⟨hpos, rfl⟩ := new_eq_ok hnew
  exact ⟨rfl, rfl, hpos, Int.le_refl _, Nat.zero_le _⟩

/-- At first a cycle stands at all that the cycles up to it bring. -/
theorem new_standing (c : Nat) : l.standing c = config.limitForPeriod * ((c : Int) + 1) := by
  obtain ⟨_, rfl⟩ := new_eq_ok hnew
  show (config.limitForPeriod : Int) + config.limitForPeriod * ((c : Int) - (0 : Nat)) = _
  rw [Int.mul_add, Int.mul_one, Int.natCast_zero, Int.sub_zero, Int.add_comm]

theorem new_accounted : Accounted l [] := by
  have hlimit := (new_upright hnew).limit_eq
  refine ⟨fun c => ?_, fun c _ => Nat.zero_le _⟩
  rw [new_standing hnew, hlimit]
  exact Int.le_of_eq (Int.zero_add _)

end New

theorem covered_nil (l : Limiter) (now : Nat) : Covered l now [] := by
  refine ⟨fun c _ => Nat.zero_le _, fun c _ _ => ?_⟩
  have hnone : usesIn l.period [] c = 0 := rfl
  unfold unbooked
  omega

/-- **Rate safety.** However a run books, waits, drains and changes its timeout, the permissions
used in the first cycles are never more than those cycles bring, and single permissions never
overfill any cycle. Only cycles that end within the range of the clock count. -/
theorem booked_within_limit [Timer] {name : String} {config : Config} {start : Nat} {l : Limiter}
    (hnew : Limiter.new name config start = .ok l) (inputs : List Input)
    (hkeeps : ∀ i ∈ inputs, i.step.keeps)
    (hrange : Always Ledger.next Ledger.InRange (Ledger.fresh l start) inputs)
    (c : Nat) (hend : (c + 1) * config.period ≤ lastTick) :
    bookedThrough config.period ((Ledger.fresh l start).run inputs).grants c ≤
        config.limitForPeriod * (c + 1) ∧
      ((∀ i ∈ inputs, i.step.isSingle) →
        usesIn config.period ((Ledger.fresh l start).run inputs).grants c ≤
          config.limitForPeriod) := by
  have hlimit (i : Input) (hi : i.step.keeps) (n : Nat) : i.step ≠ .changeLimit n := by
    intro heq
    rw [heq] at hi
    cases hi
  have hu := new_upright hnew
  constructor
  · have hrun := run_preserves
      (P := fun s => Upright config.limitForPeriod config.period s.limiter s.now ∧
        Accounted s.limiter s.grants)
      (fun s i hi hr h => ⟨s.next_upright i (hlimit i hi) h.1, s.next_accounted i hi hr h.1 h.2⟩)
      (Ledger.fresh l start) inputs hkeeps hrange ⟨hu, new_accounted hnew⟩
    have hthrough := hrun.2.through c
    rw [hrun.1.limit_eq, hrun.1.period_eq] at hthrough
    exact hthrough hend
  · intro hsingle
    have hrun := run_preserves
      (P := fun s => Upright config.limitForPeriod config.period s.limiter s.now ∧
        Covered s.limiter s.now s.grants)
      (Q := fun i => i.step.keeps ∧ i.step.isSingle)
      (fun s i hi hr h => ⟨s.next_upright i (hlimit i hi.1) h.1,
        s.next_covered i (hlimit i hi.1) hi.2 hr h.1
          (fun caller p hd => absurd hi.1 (by rw [hd]; exact Bool.false_ne_true)) h.2⟩)
      (Ledger.fresh l start) inputs (fun i hi => ⟨hkeeps i hi, hsingle i hi⟩) hrange
      ⟨hu, covered_nil l start⟩
    have hwithin := hrun.2.within c
    rw [hrun.1.limit_eq, hrun.1.period_eq] at hwithin
    exact hwithin hend

/-- Two permissions for every ten ticks. -/
def pairs : Config := { limitForPeriod := 2, refreshPeriod := ⟨10⟩, timeout := ⟨100⟩ }

/-- Five permissions at once keep two cycles busy; later callers come after them. -/
def groups : List Input :=
  [⟨3, 0, .reserve 5⟩, ⟨4, 0, .start 1⟩, ⟨0, 0, .request 2⟩, ⟨9, 0, .drain⟩,
    ⟨1, 0, .changeTimeout ⟨30⟩⟩, ⟨30, 50000000, .poll 0⟩, ⟨2, 0, .look⟩, ⟨0, 0, .reserve 3⟩]

def singles : List Input :=
  [⟨8, 0, .reserve 1⟩, ⟨0, 0, .request 1⟩, ⟨0, 0, .start 1⟩, ⟨1, 0, .reserve 1⟩, ⟨4, 0, .drain⟩,
    ⟨0, 0, .reserve 1⟩, ⟨9, 2000000, .poll 0⟩, ⟨0, 0, .request 1⟩]

theorem groups_booked_within_limit :
    bookedThrough 10 ((Ledger.fresh ⟨"pairs", pairs, 5, 0, 2, 0, 0⟩ 5).run groups).grants 3 ≤
        2 * (3 + 1) ∧
      usesIn 10 ((Ledger.fresh ⟨"pairs", pairs, 5, 0, 2, 0, 0⟩ 5).run singles).grants 1 ≤ 2 := by
  have hnew : Limiter.new "pairs" pairs 5 = .ok ⟨"pairs", pairs, 5, 0, 2, 0, 0⟩ := rfl
  constructor
  · exact (booked_within_limit hnew groups (by decide) (by decide) 3 (by decide)).1
  · exact (booked_within_limit hnew singles (by decide) (by decide) 1 (by decide)).2 (by decide)

end FaultTolerance.Limiter
