import FaultTolerance.Proofs.Limiter.RateSafety

/-! What giving a permission back does to the cycles.

The count does not know which cycle a permission was booked in. A refund raises every standing by
one, so the permission goes to the first cycle that is not booked out (`refundCycle`) and to no
other, whichever cycle the caller that left was to use it in. It fits there only if that cycle is
not full already without the caller. As long as all refunds fit the cycles stay covered
(`Covered.refund`), and after one that does not fit newcomers can overfill a cycle
(`Ledger.overbooked_of_excess`): nothing else lets single permissions do so. -/
namespace FaultTolerance.Limiter

/-! ### Where a refund goes -/

section Refund
variable (l : Limiter)

/-- The first cycle from the stored one on that is not booked beyond what it brings. -/
def refundCycle : Nat := l.cycle + fullCycles (-l.permissions) l.limit

variable {l} (hl : 0 < l.limit)

include hl in
theorem standing_refundCycle_nonneg : 0 ≤ l.standing l.refundCycle := by
  have hle := le_fullCycles (-l.permissions) hl
  unfold standing refundCycle
  generalize fullCycles (-l.permissions) l.limit = f at *
  rw [show (((l.cycle + f : Nat) : Int) - l.cycle) = f by omega]
  omega

variable (hlt : l.permissions < l.limit)
include hlt

theorem standing_refund (c : Nat) : (l.refund 1).standing c = l.standing c + 1 := by
  have hpermissions : (l.refund 1).permissions = l.permissions + 1 :=
    Int.min_eq_left (by unfold limit at hlt; omega)
  unfold standing
  rw [hpermissions]
  show l.permissions + 1 + l.limit * ((c : Int) - l.cycle) = _
  omega

include hl

theorem standing_refundCycle_lt : l.standing l.refundCycle < l.limit := by
  have hpred := fullCycles_pred_lt (-l.permissions) hl
  unfold standing refundCycle
  generalize fullCycles (-l.permissions) l.limit = f at *
  rw [show (((l.cycle + f : Nat) : Int) - l.cycle) = f by omega]
  by_cases hf : 0 < f
  · have hbelow := hpred hf
    rw [Int.mul_sub, Int.mul_one] at hbelow
    omega
  · rw [show f = 0 by omega]
    simpa using hlt

theorem unbooked_refundCycle : l.unbooked l.refundCycle = l.standing l.refundCycle := by
  have hnonneg := standing_refundCycle_nonneg hl
  have hbelow := standing_refundCycle_lt hl hlt
  unfold unbooked
  omega

/-- A refund adds nothing to any other cycle: those before stay booked out, those after are whole
already. -/
theorem unbooked_refund {c : Nat} (hc : c ≠ l.refundCycle) :
    (l.refund 1).unbooked c = l.unbooked c := by
  have hnonneg := standing_refundCycle_nonneg hl
  have hbelow := standing_refundCycle_lt hl hlt
  have hlimit : (l.refund 1).limit = l.limit := rfl
  unfold unbooked
  rw [standing_refund hlt, hlimit]
  rcases Nat.lt_or_gt_of_ne hc with hbefore | hafter
  · have hmono := standing_mono (l := l) (show c + 1 ≤ l.refundCycle by omega)
    rw [standing_succ] at hmono
    omega
  · have hmono := standing_mono (l := l) (show l.refundCycle + 1 ≤ c by omega)
    rw [standing_succ] at hmono
    omega

theorem unbooked_refund_self :
    (l.refund 1).unbooked l.refundCycle = l.unbooked l.refundCycle + 1 := by
  have hnonneg := standing_refundCycle_nonneg hl
  have hbelow := standing_refundCycle_lt hl hlt
  have hlimit : (l.refund 1).limit = l.limit := rfl
  unfold unbooked
  rw [standing_refund hlt, hlimit]
  omega

end Refund

/-! ### Refunds that fit -/

/-- The suspended caller that a step drops. -/
def Step.dropped? : Step → Option Nat
  | drop caller => some caller
  | _ => none

theorem Step.dropped?_eq_some {step : Step} {caller : Nat} :
    caller ∈ step.dropped? ↔ step = .drop caller := by
  cases step <;> simp [dropped?, eq_comm]

/-- The cycle that a refund goes to has room for it beside the other grants. Cycles that are over
and cycles that end beyond the range of the clock do not matter. -/
def Fits (l : Limiter) (now : Nat) (others : List Grant) : Prop :=
  l.permissions < l.limit → l.currentCycle now ≤ l.refundCycle →
    (l.refundCycle + 1) * l.period ≤ lastTick →
    usesIn l.period others l.refundCycle + l.unbooked l.refundCycle < l.limit

instance (l : Limiter) (now : Nat) (others : List Grant) : Decidable (l.Fits now others) :=
  inferInstanceAs (Decidable (_ → _ → _ → _))

theorem usesIn_filter_le (period : Nat) (p : Grant → Bool) (grants : List Grant) (c : Nat) :
    usesIn period (grants.filter p) c ≤ usesIn period grants c :=
  List.Sublist.countP_le List.filter_sublist

namespace Covered
variable {l : Limiter} {now : Nat} {grants : List Grant}

theorem without (h : Covered l now grants) (p : Grant → Bool) :
    Covered l now (grants.filter p) := by
  constructor
  · intro c hend
    exact Nat.le_trans (usesIn_filter_le ..) (h.within c hend)
  · intro c hnow hend
    have hahead := h.ahead c hnow hend
    have hfewer := usesIn_filter_le l.period p grants c
    omega

/-- A refund that fits keeps the cycles covered. -/
theorem refund (h : Covered l now grants) (hl : 0 < l.limit) (hfit : l.Fits now grants) :
    Covered (l.refund 1) now grants := by
  by_cases hlt : l.permissions < l.limit
  · refine ⟨h.within, fun c hnow hend => ?_⟩
    have hahead := h.ahead c hnow hend
    show (usesIn l.period grants c : Int) + (l.refund 1).unbooked c ≤ l.limit
    by_cases hc : c = l.refundCycle
    · have hroom := hfit hlt (by rw [← hc]; exact hnow) (by rw [← hc]; exact hend)
      rw [hc, unbooked_refund_self hl hlt]
      omega
    · rw [unbooked_refund hl hlt hc]
      exact hahead
  · -- A full count takes nothing back.
    refine h.fall rfl rfl rfl fun c => ?_
    have hle : (l.refund 1).permissions ≤ l.permissions :=
      Int.le_trans (Int.min_le_right ..) (Int.not_lt.mp hlt)
    show (l.refund 1).permissions + l.limit * ((c : Int) - l.cycle) ≤ l.standing c
    unfold standing
    omega

end Covered

namespace Ledger

/-- If a step drops a granted caller, the permission that it gives back fits. -/
def DropFits (s : Ledger) (i : Input) : Prop :=
  ∀ caller ∈ i.step.dropped?, ∀ p ∈ s.waiting.lookup caller, p.granted →
    s.limiter.Fits (s.pass i).now (s.grants.filter (·.caller ≠ some caller))

instance (s : Ledger) (i : Input) : Decidable (s.DropFits i) :=
  inferInstanceAs (Decidable (∀ caller ∈ i.step.dropped?, ∀ p ∈ s.waiting.lookup caller,
    p.granted → s.limiter.Fits (s.pass i).now (s.grants.filter (·.caller ≠ some caller))))

/-- Every permission that is given back on a run fits. -/
def RefundsFit [Timer] (s : Ledger) : List Input → Prop
  | [] => True
  | i :: rest => s.DropFits i ∧ RefundsFit (s.next i) rest

instance decidableRefundsFit [Timer] :
    (s : Ledger) → (inputs : List Input) → Decidable (s.RefundsFit inputs)
  | _, [] => inferInstanceAs (Decidable True)
  | s, i :: rest =>
    have := decidableRefundsFit (s.next i) rest
    inferInstanceAs (Decidable (s.DropFits i ∧ RefundsFit (s.next i) rest))

/-- Callers that book one permission each, at once. -/
def newcomers (n : Nat) : List Input := List.replicate n { step := .reserve 1 }

/-- However many newcomers come now, no cycle is used more often than its limit. -/
def NeverOverbooked [Timer] (s : Ledger) : Prop :=
  ∀ n c, (c + 1) * s.limiter.period ≤ lastTick →
    usesIn s.limiter.period (s.run (newcomers n)).grants c ≤ s.limiter.limit

/-- The count is far enough from its lower bound for a refill to be exact. -/
def HasRoom (s : Ledger) : Prop := (s.limiter.limit : Int) - countLimit ≤ s.limiter.permissions

instance : DecidablePred HasRoom := fun s =>
  inferInstanceAs (Decidable ((s.limiter.limit : Int) - countLimit ≤ s.limiter.permissions))

theorem HasRoom.inRange {s : Ledger} (h : s.HasRoom) : s.InRange := by
  unfold HasRoom at h
  unfold InRange
  omega

end Ledger

/-! ### Newcomers -/

namespace Ledger
variable {limit period : Nat} (s : Ledger)

/-- One more caller books a permission. -/
def newcomer [Timer] (s : Ledger) : Ledger := s.next { step := .reserve 1 }

theorem newcomer_limiter [Timer] :
    s.newcomer.limiter = s.limiter.next s.now 1 s.limiter.config.timeout.ticks :=
  (s.limiter.reserve_fst s.now 1).trans (s.limiter.request_fst s.now 1)

theorem newcomer_grants [Timer] :
    s.newcomer.grants =
      (s.enter s.limiter 1 none
        (if s.limiter.quote s.now 1 ≤ s.limiter.config.timeout.ticks then
          some (s.limiter.quote s.now 1) else none)).grants := by
  have hwait := s.limiter.reserve_wait s.now 1
  rw [request_wait?] at hwait
  rw [← hwait]
  rfl

/-- After a newcomer nothing is left to roll over. -/
theorem newcomer_rollOver [Timer] (hu : Upright limit period s.limiter s.now) :
    s.newcomer.limiter.rollOver s.now = s.newcomer.limiter := by
  have hcycle : s.newcomer.limiter.currentCycle s.now = s.newcomer.limiter.cycle := by
    rw [newcomer_limiter, next_currentCycle, next_cycle, hu.rollOver_cycle, rollOver_currentCycle]
  exact rollOver_of_le _ _ (Nat.le_of_eq hcycle)

/-- Newcomers leave covered cycles covered. Only the first of them rolls the cycle over. -/
theorem newcomers_covered [Timer] (n : Nat) (hu : Upright limit period s.limiter s.now)
    (hroll : ∀ c, (s.limiter.rollOver s.now).standing c ≤ s.limiter.standing c)
    (h : Covered s.limiter s.now s.grants) :
    Upright limit period (s.run (newcomers n)).limiter s.now ∧
      Covered (s.run (newcomers n)).limiter s.now (s.run (newcomers n)).grants := by
  induction n generalizing s with
  | zero => exact ⟨hu, h⟩
  | succ n ih =>
    have hrolled := s.newcomer_rollOver hu
    refine ih s.newcomer ?_ ?_ ?_
    · rw [newcomer_limiter]
      exact hu.next _ _
    · intro c
      exact Int.le_of_eq (congrArg (·.standing c) hrolled)
    · rw [newcomer_limiter, newcomer_grants]
      exact h.asked hu hroll _ _

theorem HasRoom.neverOverbooked [Timer] {s : Ledger} (hroom : s.HasRoom)
    (hu : Upright limit period s.limiter s.now) (h : Covered s.limiter s.now s.grants) :
    s.NeverOverbooked := by
  intro n c hend
  have hroll := standing_rollOver_le s.limiter s.now hroom.inRange
  obtain ⟨hupright, hcovered⟩ := s.newcomers_covered n hu hroll h
  have hwithin := hcovered.within c
  rw [hupright.limit_eq, hupright.period_eq, ← hu.limit_eq, ← hu.period_eq] at hwithin
  exact hwithin hend

end Ledger

section Fill
variable {limit period : Nat} {l : Limiter} {now u : Nat} (hu : Upright limit period l now)
  (hnow : l.currentCycle now ≤ u) (hend : (u + 1) * l.period ≤ lastTick)
include hu hnow hend

/-- A newcomer is told to wait for the first cycle that has a permission. -/
theorem quote_of_standing (hone : 1 ≤ (l.rollOver now).standing u)
    (hle : (l.rollOver now).standing u ≤ l.limit) :
    l.age now + l.quote now 1 = max (l.age now) (u * l.period) := by
  have huse := useAt_of_standing hu.rollOver_cycle hu.rollOver.limit_pos (u := u)
    (by rw [hu.rollOver_cycle, rollOver_currentCycle]; exact hnow) hone
    (by rw [rollOver_limit]; exact hle) (by rw [rollOver_period]; exact hend)
  rw [rollOver_age, rollOver_period] at huse
  rw [← huse]
  unfold useAt quote
  rw [rollOver_age]

omit hu hend in
theorem max_age_div : max (l.age now) (u * l.period) / l.period = u := by
  rcases Nat.le_total (l.age now) (u * l.period) with hle | hle
  · rw [Nat.max_eq_right hle]
    exact Nat.mul_div_cancel _ l.period_pos
  · rw [Nat.max_eq_left hle]
    exact Nat.le_antisymm hnow ((Nat.le_div_iff_mul_le l.period_pos).mpr hle)

end Fill

namespace Ledger
variable {limit period : Nat}

/-- **Newcomers take all that is to be had of the first cycle that has a permission**, if its start
is not beyond their timeout. -/
theorem newcomers_fill [Timer] (s : Ledger) {u : Nat} (k : Nat)
    (hu : Upright limit period s.limiter s.now)
    (hnow : s.limiter.currentCycle s.now ≤ u) (hend : (u + 1) * s.limiter.period ≤ lastTick)
    (hwait : u * s.limiter.period - s.limiter.age s.now ≤ s.limiter.config.timeout.ticks)
    (hstanding : (s.limiter.rollOver s.now).standing u = k) (hk : k ≤ s.limiter.limit) :
    usesIn s.limiter.period (s.run (newcomers k)).grants u =
      usesIn s.limiter.period s.grants u + k := by
  induction k generalizing s with
  | zero => rfl
  | succ k ih =>
    have hquote := quote_of_standing hu hnow hend (by omega) (by omega)
    have hfits : s.limiter.quote s.now 1 ≤ s.limiter.config.timeout.ticks := by omega
    have hgrants : s.newcomer.grants =
        ⟨1, s.limiter.age s.now, s.limiter.quote s.now 1, none⟩ :: s.grants := by
      rw [newcomer_grants, if_pos hfits]
      rfl
    have hbooked : (⟨1, s.limiter.age s.now, s.limiter.quote s.now 1, none⟩ : Grant).cycle
        s.limiter.period = u := by
      unfold Grant.cycle Grant.use
      rw [hquote]
      exact max_age_div hnow
    have hrolled : (s.newcomer.limiter.rollOver s.now).standing u = k := by
      rw [s.newcomer_rollOver hu, newcomer_limiter, standing_next_granted _ _ _ _ hfits]
      omega
    have hrest := ih s.newcomer (by rw [newcomer_limiter]; exact hu.next _ _)
      (by rw [newcomer_limiter, next_currentCycle]; exact hnow)
      (by rw [newcomer_limiter, next_period]; exact hend)
      (by rw [newcomer_limiter, next_age, next_period, next_config]; exact hwait) hrolled
      (by rw [newcomer_limiter, next_limit]; omega)
    rw [newcomer_limiter, next_period, hgrants, usesIn_cons, if_pos hbooked] at hrest
    show usesIn _ (s.newcomer.run (newcomers k)).grants u = _
    rw [hrest]
    omega

end Ledger

/-! ### Runs of single calls -/

/-- Asks for no more than one permission and leaves the configuration as it is. -/
def Step.isPlain : Step → Bool
  | changeLimit _ | changeTimeout _ => false
  | step => step.isSingle

theorem Step.isSingle_of_isPlain {step : Step} (h : step.isPlain) : step.isSingle := by
  cases step with
  | changeLimit _ | changeTimeout _ => cases h
  | reserve _ | request _ | start _ | poll _ | drop _ | drain | look => exact h

theorem Step.keepsLimit_of_isPlain {step : Step} (h : step.isPlain) (n : Nat) :
    step ≠ .changeLimit n := by
  rintro rfl
  cases h

/-- What the grants say was told by now, and no wait is longer than the timeout. -/
def Told (l : Limiter) (now : Nat) (grants : List Grant) : Prop :=
  ∀ g ∈ grants, g.grantedAt ≤ l.age now ∧ g.wait ≤ l.config.timeout.ticks

theorem Told.of_eq {l m : Limiter} {now : Nat} {grants : List Grant} (h : Told l now grants)
    (horigin : m.origin = l.origin) (hconfig : m.config = l.config) : Told m now grants := by
  intro g hg
  have htold := h g hg
  unfold age at *
  rw [horigin, hconfig]
  exact htold

/-- A caller that waits asked for what it was started with. -/
theorem start_permits [Timer] {l : Limiter} {now timer permits : Nat} {p : Pending}
    (h : (l.start now timer permits).2.2 = .inr p) : p.permits = permits := by
  rcases l.start_request now timer permits with ⟨-, hstart⟩ | ⟨_, hstart⟩
  · rw [hstart] at h
    cases h
  · rw [hstart] at h
    cases h
    rfl

namespace Ledger
variable {limit period : Nat}

/-- What single calls keep, refunds aside. -/
structure Orderly (limit period : Nat) (s : Ledger) : Prop where
  upright : Upright limit period s.limiter s.now
  told : Told s.limiter s.now s.grants
  single : ∀ w ∈ s.waiting, w.2.permits = 1

theorem next_told [Timer] (s : Ledger) (i : Input) (hplain : i.step.isPlain)
    (h : Told s.limiter s.now s.grants) :
    Told (s.next i).limiter (s.next i).now (s.next i).grants := by
  have hlater : Told s.limiter (s.pass i).now s.grants := by
    intro g hg
    exact ⟨Nat.le_trans (h g hg).1 (s.limiter.age_mono (Nat.le_add_right ..)), (h g hg).2⟩
  have hnow : (s.next i).now = (s.pass i).now := act_now ..
  rw [hnow]
  apply act_preserves (P := fun l grants => Told l (s.pass i).now grants)
  · intro l m grants hs hl
    exact hl.of_eq hs.origin hs.config
  · intro permits caller _ g hg
    rw [next_age, next_config]
    unfold enter at hg
    split at hg
    · next wait heq =>
      split at heq
      · next hfits =>
        cases heq
        rcases List.mem_cons.mp hg with rfl | hold
        · exact ⟨Nat.le_refl _, hfits⟩
        · exact hlater g hold
      · cases heq
    · exact hlater g hg
  · intro caller p _ _ g hg
    have hold := hlater g (List.mem_filter.mp hg).1
    split
    · exact hold
    · exact hold
  · intro _
    exact hlater.of_eq (rollOver_origin ..) (rollOver_config ..)
  · intro n hi
    rw [hi] at hplain
    cases hplain
  · intro d hi
    rw [hi] at hplain
    cases hplain
  · exact hlater

theorem next_single [Timer] (s : Ledger) (i : Input) (hplain : i.step.isPlain)
    (h : ∀ w ∈ s.waiting, w.2.permits = 1) : ∀ w ∈ (s.next i).waiting, w.2.permits = 1 := by
  intro w hw
  have hkept (caller : Nat) (hmem : w ∈ s.waiting.filter (·.1 ≠ caller)) : w.2.permits = 1 :=
    h w (List.mem_filter.mp hmem).1
  unfold next at hw
  cases hstep : i.step with
  | start permits =>
    rw [hstep] at hw hplain
    have hone : permits = 1 := of_decide_eq_true hplain
    simp only [act] at hw
    split at hw
    · exact h w hw
    · next p hp =>
      rcases List.mem_cons.mp hw with rfl | hold
      · rw [start_permits hp, hone]
      · exact h w hold
  | poll caller =>
    rw [hstep] at hw
    simp only [act] at hw
    split at hw
    · exact h w hw
    · split at hw
      · exact hkept caller hw
      · exact h w hw
  | drop caller =>
    rw [hstep] at hw
    simp only [act] at hw
    split at hw
    · exact h w hw
    · exact hkept caller hw
  | reserve permits | request permits | drain | changeLimit _ | changeTimeout _ | look =>
    rw [hstep] at hw
    exact h w hw

theorem Orderly.permits_of_lookup {s : Ledger} (h : Orderly limit period s) {caller : Nat}
    {p : Pending} (hp : s.waiting.lookup caller = some p) : p.permits = 1 := by
  obtain ⟨before, after, hwaiting, _⟩ := List.lookup_eq_some_iff.mp hp
  refine h.single (caller, p) ?_
  rw [hwaiting]
  exact List.mem_append_right _ (List.mem_cons_self ..)

/-- Dropping a granted caller refunds its one permission and strikes its grant out. -/
theorem next_drop_granted [Timer] (s : Ledger) (i : Input) (h : Orderly limit period s)
    {caller : Nat} {p : Pending} (hdrop : i.step = .drop caller)
    (hp : s.waiting.lookup caller = some p) (hgranted : p.granted) :
    SameBooks (s.limiter.refund 1) (s.next i).limiter ∧
      (s.next i).grants = s.grants.filter (·.caller ≠ some caller) := by
  have hpass : (s.pass i).waiting.lookup caller = some p := hp
  have hbooks := p.cancel_sameBooks s.limiter
  rw [if_pos hgranted, h.permits_of_lookup hp] at hbooks
  unfold next
  rw [hdrop]
  simp only [act, hpass]
  exact ⟨hbooks, rfl⟩

/-- If a cycle's grants and what is still to be had of it exceed the limit, newcomers overbook it. A
grant of that cycle shows that its start is within the timeout. -/
theorem overbooked_of_excess [Timer] (s : Ledger) {u : Nat}
    (hu : Upright limit period s.limiter s.now)
    (htold : Told s.limiter s.now s.grants)
    (hroom : (s.limiter.limit : Int) - countLimit < s.limiter.permissions)
    (hnow : s.limiter.currentCycle s.now ≤ u) (hend : (u + 1) * s.limiter.period ≤ lastTick)
    (hone : 1 ≤ s.limiter.standing u) (hle : s.limiter.standing u ≤ s.limiter.limit)
    (hexcess : s.limiter.limit < usesIn s.limiter.period s.grants u + s.limiter.standing u) :
    ¬ s.NeverOverbooked := by
  intro hnever
  have hlive : 0 < usesIn s.limiter.period s.grants u := by omega
  obtain ⟨g, hg, hcycle⟩ := List.countP_pos_iff.mp hlive
  have hused : u * s.limiter.period ≤ g.use := by
    rw [← of_decide_eq_true hcycle]
    exact Nat.div_mul_le_self ..
  have hwait : u * s.limiter.period - s.limiter.age s.now ≤ s.limiter.config.timeout.ticks := by
    obtain ⟨hgranted, hshort⟩ := htold g hg
    unfold Grant.use at hused
    omega
  have hrolled : (s.limiter.rollOver s.now).standing u = (s.limiter.standing u).toNat := by
    have hmono := standing_mono (l := s.limiter) hnow
    rw [standing_rollOver s.limiter s.now hu.limit_pos hroom (by omega)]
    omega
  have hfilled :=
    s.newcomers_fill (s.limiter.standing u).toNat hu hnow hend hwait hrolled (by omega)
  have hwithin := hnever (s.limiter.standing u).toNat u hend
  omega

/-- If newcomers cannot overbook any cycle after a refund, the refund fits. -/
theorem dropFits_of_neverOverbooked [Timer] (s : Ledger) (i : Input) (hroom : s.HasRoom)
    (h : Orderly limit period s) (hnever : (s.next i).NeverOverbooked) : s.DropFits i := by
  intro caller hcaller p hp hgranted hlt hnow hend
  have hdrop := Step.dropped?_eq_some.mp hcaller
  obtain ⟨hbooks, hgrants⟩ := s.next_drop_granted i h hdrop hp hgranted
  have htold := s.next_told i (by rw [hdrop]; rfl) h.told
  have hupright := s.next_upright i (by rw [hdrop]; rintro n ⟨⟩) h.upright
  have hafter : (s.next i).now = (s.pass i).now := act_now ..
  have hl : 0 < s.limiter.limit := h.upright.limit_pos
  have hnonneg := standing_refundCycle_nonneg hl
  have hbelow := standing_refundCycle_lt hl hlt
  have hsupply := unbooked_refundCycle hl hlt
  have hraised : (s.next i).limiter.standing s.limiter.refundCycle =
      s.limiter.standing s.limiter.refundCycle + 1 :=
    (hbooks.standing _).trans (standing_refund hlt _)
  have hcount : (s.next i).limiter.permissions = s.limiter.permissions + 1 :=
    hbooks.permissions.trans (Int.min_eq_left (by exact Int.add_one_le_of_lt hlt))
  have hlimit : (s.next i).limiter.limit = s.limiter.limit := hbooks.limit
  have hperiod : (s.next i).limiter.period = s.limiter.period := hbooks.period
  have hcurrent := hbooks.currentCycle (s.pass i).now
  apply Int.not_le.mp
  intro hfull
  refine (s.next i).overbooked_of_excess hupright htold ?_ ?_ ?_ ?_ ?_ ?_ hnever
    (u := s.limiter.refundCycle)
  · rw [hlimit, hcount]
    exact Int.lt_add_one_of_le hroom
  · rw [hafter, hcurrent]
    exact hnow
  · rw [hperiod]
    exact hend
  · omega
  · omega
  · rw [hlimit, hperiod, hraised, hgrants]
    have hsum : (s.limiter.limit : Int) ≤
        usesIn s.limiter.period (s.grants.filter (·.caller ≠ some caller)) s.limiter.refundCycle +
          s.limiter.unbooked s.limiter.refundCycle := hfull
    omega

theorem always_neverOverbooked_iff [Timer] (s : Ledger) (inputs : List Input)
    (hplains : ∀ i ∈ inputs, i.step.isPlain) (hroom : Always next HasRoom s inputs)
    (h : Orderly limit period s) (hcovered : Covered s.limiter s.now s.grants) :
    Always next NeverOverbooked s inputs ↔ RefundsFit s inputs := by
  induction inputs generalizing s with
  | nil => exact ⟨fun _ => trivial, fun _ => hroom.neverOverbooked h.upright hcovered⟩
  | cons i rest ih =>
    obtain ⟨hnow, hlater⟩ := hroom
    have hplain : i.step.isPlain := hplains i (List.mem_cons_self ..)
    have hfixed := Step.keepsLimit_of_isPlain hplain
    have hupright := s.next_upright i hfixed h.upright
    have hnext : Orderly limit period (s.next i) :=
      ⟨hupright, s.next_told i hplain h.told, s.next_single i hplain h.single⟩
    have hih := ih (s.next i) (fun j hj => hplains j (List.mem_cons_of_mem _ hj)) hlater hnext
    have hcovers (hfit : s.DropFits i) :
        Covered (s.next i).limiter (s.next i).now (s.next i).grants := by
      apply s.next_covered i hfixed (Step.isSingle_of_isPlain hplain) hnow.inRange h.upright _
        hcovered
      intro caller p hdrop hp hbefore
      have hwithout := hbefore.without (·.caller ≠ some caller)
      split
      · next hgranted =>
        rw [h.permits_of_lookup hp]
        exact hwithout.refund h.upright.limit_pos
          (hfit caller (Step.dropped?_eq_some.mpr hdrop) p hp hgranted)
      · exact hwithout
    constructor
    · rintro ⟨_, halways⟩
      have hfit := s.dropFits_of_neverOverbooked i hnow h halways.head
      exact ⟨hfit, (hih (hcovers hfit)).mp halways⟩
    · rintro ⟨hfit, hfits⟩
      exact ⟨hnow.neverOverbooked h.upright hcovered, (hih (hcovers hfit)).mpr hfits⟩

end Ledger

/-- **Single permissions overfill a cycle only through a refund that does not fit.** As long as the
configuration stays, no cycle can be overbooked at any point of a run exactly if every caller that
is dropped before its time gives its permission back to a cycle with room for it. -/
theorem never_overbooked_iff_refunds_fit [Timer] {name : String} {config : Config} {start : Nat}
    {l : Limiter} (hnew : Limiter.new name config start = .ok l) (inputs : List Input)
    (hplain : ∀ i ∈ inputs, i.step.isPlain)
    (hroom : Always Ledger.next Ledger.HasRoom (Ledger.fresh l start) inputs) :
    Always Ledger.next Ledger.NeverOverbooked (Ledger.fresh l start) inputs ↔
      (Ledger.fresh l start).RefundsFit inputs := by
  have hfresh : Ledger.Orderly config.limitForPeriod config.period (Ledger.fresh l start) :=
    ⟨new_upright hnew, fun g hg => absurd hg List.not_mem_nil,
      fun w hw => absurd hw List.not_mem_nil⟩
  exact (Ledger.fresh l start).always_neverOverbooked_iff inputs hplain hroom hfresh
    (covered_nil l start)

/-- One permission for every ten ticks. -/
def turns : Config := { limitForPeriod := 1, refreshPeriod := ⟨10⟩, timeout := ⟨100⟩ }

/-- The last caller in line leaves, and a newcomer takes its turn. -/
def lastLeaves : List Input :=
  [⟨0, 0, .reserve 1⟩, ⟨2, 0, .start 1⟩, ⟨1, 0, .start 1⟩, ⟨4, 0, .drop 1⟩, ⟨0, 0, .reserve 1⟩]

theorem lastLeaves_never_overbooked :
    Always Ledger.next Ledger.NeverOverbooked (Ledger.fresh ⟨"turns", turns, 0, 0, 1, 0, 0⟩ 0)
      lastLeaves :=
  (never_overbooked_iff_refunds_fit
    (show Limiter.new "turns" turns 0 = .ok ⟨"turns", turns, 0, 0, 1, 0, 0⟩ from rfl) lastLeaves
    (by decide) (by decide)).mpr (by decide)

/-- The first of two callers in line leaves. A newcomer is told to come at the turn of the second,
although the turn before is free now. -/
def firstLeaves : List Input :=
  [⟨0, 0, .reserve 1⟩, ⟨2, 0, .start 1⟩, ⟨1, 0, .start 1⟩, ⟨4, 0, .drop 0⟩, ⟨0, 0, .reserve 1⟩]

/-- A caller leaves long after its turn, when the present turn is taken. A newcomer gets the present
turn once more. -/
def leavesLate : List Input :=
  [⟨0, 0, .reserve 1⟩, ⟨5, 0, .start 1⟩, ⟨16, 0, .reserve 1⟩, ⟨0, 0, .drop 0⟩, ⟨0, 0, .reserve 1⟩]

theorem refund_overbooks :
    usesIn turns.period
        ((Ledger.fresh ⟨"turns", turns, 0, 0, 1, 0, 0⟩ 0).run firstLeaves).grants 2 =
      turns.limitForPeriod + 1 ∧
    usesIn turns.period
        ((Ledger.fresh ⟨"turns", turns, 0, 0, 1, 0, 0⟩ 0).run leavesLate).grants 2 =
      turns.limitForPeriod + 1 := by
  decide

end FaultTolerance.Limiter
