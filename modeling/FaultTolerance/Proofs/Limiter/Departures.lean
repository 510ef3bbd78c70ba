import FaultTolerance.Proofs.Limiter.Cancellation
import FaultTolerance.Proofs.Limiter.Watchers

/-! Callers that leave before their time.

A `Stay` is a caller that asks, has to wait, and is dropped while it still waits. What it gives back
commutes with all roll-overs that others have made meanwhile, so if nobody else was granted anything
the limiter is afterwards like one that was never asked (**`stays_leave_no_trace`**), whether the
caller was to be granted its permissions or to be refused. This, too, asks for room in the range of
a count (**`departures_leave_a_trace`**).

The count of a limiter whose limit was lowered may lie above the limit until the next cycle. Giving
permissions back cuts it to the limit, and this is the only way in which a departure can lower what
is seen (**`departure_lowers_iff_over_limit`**). -/
namespace FaultTolerance.Limiter

/-! ### Callers and their numbers -/

section Lookup
variable {α : Type} {as : List (Nat × α)} {key : Nat} {a : α}

theorem lookup_filter_self : (as.filter (·.1 ≠ key)).lookup key = none := by
  rw [List.lookup_eq_none_iff]
  intro b hb
  exact bne_iff_ne.mpr (Ne.symm (of_decide_eq_true (List.mem_filter.mp hb).2))

theorem lookup_filter_of_ne {other : Nat} (h : key ≠ other) :
    (as.filter (·.1 ≠ other)).lookup key = as.lookup key := by
  induction as with
  | nil => rfl
  | cons b rest ih =>
    rw [List.lookup_cons]
    by_cases hkept : b.1 = other
    · have hpassed : (key == b.1) = false := beq_false_of_ne (hkept ▸ h)
      rw [List.filter_cons_of_neg (by simpa using hkept), ih, hpassed]
    · rw [List.filter_cons_of_pos (by simpa using hkept), List.lookup_cons, ih]

/-- What is found when another entry is gone was there before. -/
theorem lookup_of_filter {other : Nat} (h : (as.filter (·.1 ≠ other)).lookup key = some a) :
    as.lookup key = some a := by
  by_cases hsame : key = other
  · rw [hsame, lookup_filter_self] at h
    cases h
  · rwa [lookup_filter_of_ne hsame] at h

/-- Among entries with keys of their own exactly one is left out. -/
theorem length_filter_of_lookup (hkeys : (as.map (·.1)).Nodup) (h : as.lookup key = some a) :
    (as.filter (·.1 ≠ key)).length + 1 = as.length := by
  have hmem : key ∈ as.map (·.1) := by
    obtain ⟨before, after, rfl, -⟩ := List.lookup_eq_some_iff.mp h
    simp
  have hone : as.countP (·.1 = key) = 1 := by
    have hcount := hkeys.count (a := key)
    rw [if_pos hmem, List.count, List.countP_map] at hcount
    exact hcount
  have hall := as.length_eq_countP_add_countP (·.1 = key)
  simp only [decide_eq_true_eq] at hall
  rw [← List.countP_eq_length_filter, hall, hone, Nat.add_comm]

end Lookup

section Waiting
variable (l : Limiter) (now permits : Nat)

theorem rollOver_waiting : (l.rollOver now).waiting = l.waiting := by
  unfold rollOver
  split <;> rfl

theorem request_waiting : (l.request now permits).1.waiting = l.waiting := by
  rw [request_fst]
  exact l.rollOver_waiting now

theorem changed_waiting (c : Config) :
    (Ledger.changed l (l.configure c)).waiting = l.waiting := by
  rcases changed_configure l c with hc | ⟨-, hc⟩ <;> rw [hc]

theorem Pending.cancel_waiting (p : Pending) : (p.cancel l).waiting = l.waiting - 1 := by
  unfold Pending.cancel
  cases p.granted <;> rfl

end Waiting

namespace Ledger

/-- What a step may do to the callers that wait. -/
inductive Queues (s t : Ledger) : Prop where
  /-- Nobody joins and nobody leaves. A caller that need not wait has taken a number at most. -/
  | stays (hstarted : s.started ≤ t.started) (hwaiting : t.waiting = s.waiting)
      (hcount : t.limiter.waiting = s.limiter.waiting)
  | joins (p : Pending) (hstarted : t.started = s.started + 1)
      (hwaiting : t.waiting = (s.started, p) :: s.waiting)
      (hcount : t.limiter.waiting = s.limiter.waiting + 1)
  | leaves (caller : Nat) (p : Pending) (hp : s.waiting.lookup caller = some p)
      (hstarted : t.started = s.started)
      (hwaiting : t.waiting = s.waiting.filter (·.1 ≠ caller))
      (hcount : t.limiter.waiting = s.limiter.waiting - 1)

/-- A caller that arrives takes the next number, and joins if it has to wait. -/
theorem act_start [Timer] (s : Ledger) (permits : Nat) :
    (s.act (.start permits)).started = s.started + 1 ∧
      ((s.act (.start permits)).waiting = s.waiting ∧
          (s.act (.start permits)).limiter.waiting = s.limiter.waiting ∨
        ∃ due, (s.act (.start permits)).waiting =
            (s.started, ⟨permits, (s.limiter.request s.now permits).2.2.isGranted, due⟩) ::
              s.waiting ∧
          (s.act (.start permits)).limiter.waiting = s.limiter.waiting + 1) := by
  refine ⟨rfl, ?_⟩
  rcases s.limiter.start_request s.now s.timer permits with ⟨-, hstart⟩ | ⟨due, hstart⟩
  · left
    simp only [act, hstart]
    exact ⟨trivial, request_waiting ..⟩
  · right
    simp only [act, hstart]
    exact ⟨due, rfl, congrArg (· + 1) (request_waiting ..)⟩

theorem act_queues [Timer] (s : Ledger) (step : Step) : s.Queues (s.act step) := by
  cases step with
  | reserve permits =>
    refine .stays (Nat.le_refl _) rfl ?_
    show (s.limiter.reserve s.now permits).1.waiting = _
    rw [reserve_fst, request_waiting]
  | request permits => exact .stays (Nat.le_refl _) rfl (request_waiting ..)
  | start permits =>
    obtain ⟨hstarted, ⟨hwaiting, hcount⟩ | ⟨due, hwaiting, hcount⟩⟩ := s.act_start permits
    · exact .stays (hstarted ▸ Nat.le_succ _) hwaiting hcount
    · exact .joins _ hstarted hwaiting hcount
  | poll caller =>
    simp only [act]
    split
    · exact .stays (Nat.le_refl _) rfl rfl
    · next p hp =>
      unfold Pending.poll
      by_cases hdue : p.due ≤ s.timer
      · simp only [if_pos hdue]
        exact .leaves caller p hp rfl rfl rfl
      · simp only [if_neg hdue]
        exact .stays (Nat.le_refl _) rfl rfl
  | drop caller =>
    simp only [act]
    split
    · exact .stays (Nat.le_refl _) rfl rfl
    · next p hp => exact .leaves caller p hp rfl rfl (p.cancel_waiting s.limiter)
  | drain => exact .stays (Nat.le_refl _) rfl (rollOver_waiting ..)
  | changeLimit _ | changeTimeout _ => exact .stays (Nat.le_refl _) rfl (changed_waiting ..)
  | look => exact .stays (Nat.le_refl _) rfl rfl

theorem next_queues [Timer] (s : Ledger) (i : Input) : s.Queues (s.next i) := by
  have h := (s.pass i).act_queues i.step
  cases h with
  | stays hstarted hwaiting hcount => exact .stays hstarted hwaiting hcount
  | joins p hstarted hwaiting hcount => exact .joins p hstarted hwaiting hcount
  | leaves caller p hp hstarted hwaiting hcount =>
    exact .leaves caller p hp hstarted hwaiting hcount

/-- The callers that wait have numbers of their own, and the limiter has counted them. -/
structure InLine (s : Ledger) : Prop where
  numbered : ∀ w ∈ s.waiting, w.1 < s.started
  distinct : (s.waiting.map (·.1)).Nodup
  counted : s.limiter.waiting = s.waiting.length

namespace Queues
variable {s t : Ledger}

theorem started_le (h : s.Queues t) : s.started ≤ t.started := by
  cases h with
  | stays hstarted _ _ => exact hstarted
  | joins _ hstarted _ _ | leaves _ _ _ hstarted _ _ => omega

theorem inLine (h : s.Queues t) (hs : s.InLine) : t.InLine := by
  have hcounted := hs.counted
  cases h with
  | stays hstarted hwaiting hcount =>
    refine ⟨fun w hw => ?_, ?_, ?_⟩
    · exact Nat.lt_of_lt_of_le (hs.numbered w (hwaiting ▸ hw)) hstarted
    · rw [hwaiting]
      exact hs.distinct
    · rw [hwaiting, hcount, hcounted]
  | joins p hstarted hwaiting hcount =>
    refine ⟨fun w hw => ?_, ?_, ?_⟩
    · rw [hwaiting] at hw
      rcases List.mem_cons.mp hw with rfl | hold
      · exact hstarted ▸ Nat.lt_succ_self _
      · exact hstarted ▸ Nat.lt_succ_of_lt (hs.numbered w hold)
    · rw [hwaiting, List.map_cons, List.nodup_cons]
      refine ⟨fun hmem => ?_, hs.distinct⟩
      obtain ⟨w, hw, heq⟩ := List.mem_map.mp hmem
      exact Nat.ne_of_lt (hs.numbered w hw) heq
    · rw [hwaiting, hcount, hcounted, List.length_cons]
  | leaves caller p hp hstarted hwaiting hcount =>
    have hsub : List.Sublist (s.waiting.filter (·.1 ≠ caller)) s.waiting := List.filter_sublist
    have hfewer := length_filter_of_lookup hs.distinct hp
    refine ⟨fun w hw => ?_, ?_, ?_⟩
    · rw [hwaiting] at hw
      exact hstarted ▸ hs.numbered w (hsub.subset hw)
    · rw [hwaiting]
      exact hs.distinct.sublist (hsub.map _)
    · rw [hwaiting]
      omega

/-- A caller that came earlier and waits now has waited all the time. -/
theorem lookup_of (h : s.Queues t) {caller : Nat} {p : Pending} (hearlier : caller < s.started)
    (hp : t.waiting.lookup caller = some p) : s.waiting.lookup caller = some p := by
  cases h with
  | stays _ hwaiting _ => rwa [hwaiting] at hp
  | joins q _ hwaiting _ =>
    have hother : (caller == s.started) = false := beq_false_of_ne (Nat.ne_of_lt hearlier)
    rwa [hwaiting, List.lookup_cons, hother] at hp
  | leaves other q _ _ hwaiting _ =>
    rw [hwaiting] at hp
    exact lookup_of_filter hp

end Queues

theorem lookup_of_run [Timer] {s : Ledger} {inputs : List Input} {caller : Nat} {p : Pending}
    (hearlier : caller < s.started) (hp : (s.run inputs).waiting.lookup caller = some p) :
    s.waiting.lookup caller = some p := by
  induction inputs generalizing s with
  | nil => exact hp
  | cons i rest ih =>
    have hnext := s.next_queues i
    exact hnext.lookup_of hearlier (ih (Nat.lt_of_lt_of_le hearlier hnext.started_le) hp)

theorem ReachedSince.inLine [Timer] {start : Nat} {s : Ledger} (h : s.ReachedSince start) :
    s.InLine := by
  obtain ⟨name, config, first, inputs, hnew, rfl⟩ := h
  refine List.foldlRecOn (motive := InLine) inputs next ?_ ?_
  · obtain ⟨_, rfl⟩ := new_eq_ok hnew
    exact ⟨nofun, List.nodup_nil, rfl⟩
  · intro s hs i _
    exact (s.next_queues i).inLine hs

/-! ### Stays -/

/-- A caller asks, has to wait, and is dropped while it still waits. -/
structure Stay [Timer] (s : Ledger) (permits : Nat) (arrival : Input) (meanwhile : List Input)
    (departure : Input) (p : Pending) : Prop where
  asks : arrival.step = .start permits
  waits : ((s.next arrival).run meanwhile).waiting.lookup s.started = some p
  leaves : departure.step = .drop s.started

namespace Stay
variable {s : Ledger} {permits : Nat} {arrival : Input} {meanwhile : List Input}
  {departure : Input} {p : Pending}

/-- The caller waits for what it asked for, and is to get what it was told. -/
theorem pending [Timer] (h : s.Stay permits arrival meanwhile departure p) (hs : s.InLine) :
    p.permits = permits ∧
      p.granted = (s.limiter.request (s.pass arrival).now permits).2.2.isGranted := by
  obtain ⟨hstarted, hline⟩ := (s.pass arrival).act_start permits
  rw [← h.asks] at hstarted hline
  have hwaits : (s.next arrival).waiting.lookup s.started = some p :=
    lookup_of_run (Nat.lt_of_lt_of_eq (Nat.lt_succ_self _) hstarted.symm) h.waits
  unfold next at hwaits
  rcases hline with ⟨hwaiting, -⟩ | ⟨due, hwaiting, -⟩
  · -- A caller that need not wait is not found: its number is new.
    rw [hwaiting] at hwaits
    obtain ⟨before, after, heq, -⟩ := List.lookup_eq_some_iff.mp hwaits
    have hmem : (s.started, p) ∈ s.waiting := by
      show _ ∈ (s.pass arrival).waiting
      rw [heq]
      simp
    exact absurd (hs.numbered _ hmem) (Nat.lt_irrefl _)
  · rw [hwaiting, List.lookup_cons] at hwaits
    have hself : (s.started == (s.pass arrival).started) = true := beq_self_eq_true s.started
    rw [hself] at hwaits
    cases hwaits
    exact ⟨rfl, rfl⟩

/-- Only a caller that was to be granted its permissions gives them back. -/
theorem left [Timer] (h : s.Stay permits arrival meanwhile departure p) (hs : s.InLine) :
    SameBooks (if p.granted then ((s.next arrival).run meanwhile).limiter.refund permits
        else ((s.next arrival).run meanwhile).limiter)
      (((s.next arrival).run meanwhile).next departure).limiter := by
  have hcancel := p.cancel_sameBooks ((s.next arrival).run meanwhile).limiter
  have hwaits : (((s.next arrival).run meanwhile).pass departure).waiting.lookup s.started =
      some p := h.waits
  rw [(h.pending hs).1] at hcancel
  generalize (s.next arrival).run meanwhile = waiting at hcancel hwaits ⊢
  unfold next
  rw [h.leaves]
  simp only [act, hwaits]
  exact hcancel

theorem left_granted [Timer] (h : s.Stay permits arrival meanwhile departure p) (hs : s.InLine)
    (hgranted : p.granted) :
    SameBooks (((s.next arrival).run meanwhile).limiter.refund permits)
      (((s.next arrival).run meanwhile).next departure).limiter := by
  have hleft := h.left hs
  rwa [if_pos hgranted] at hleft

theorem left_refused [Timer] (h : s.Stay permits arrival meanwhile departure p) (hs : s.InLine)
    (hrefused : p.granted = false) :
    SameBooks ((s.next arrival).run meanwhile).limiter
      (((s.next arrival).run meanwhile).next departure).limiter := by
  have hleft := h.left hs
  rwa [if_neg (Bool.eq_false_iff.mp hrefused)] at hleft

end Stay

end Ledger

/-! ### Stays among idle steps -/

/-- The second limiter is the first one less some permissions that are going to come back. -/
structure Lent (permits : Nat) (l m : Limiter) : Prop where
  config : m.config = l.config
  origin : m.origin = l.origin
  cycle : m.cycle = l.cycle
  permissions : l.permissions = min (m.permissions + permits) l.limit
  inRange : -countLimit ≤ m.permissions

section Lent
variable {l m k : Limiter} {now permits : Nat}

/-- What has been lent and comes back is there again. -/
theorem Lent.back (h : Lent permits l m) : SameBooks l (m.refund permits) := by
  refine ⟨h.origin, h.config, h.cycle, ?_⟩
  show min (m.permissions + permits) (m.config.limitForPeriod : Int) = l.permissions
  rw [h.config, h.permissions]
  rfl

theorem Lent.same (h : Lent permits l m) (hs : SameBooks m k) : Lent permits l k where
  config := hs.config.trans h.config
  origin := hs.origin.trans h.origin
  cycle := hs.cycle.trans h.cycle
  permissions := hs.permissions ▸ h.permissions
  inRange := hs.permissions ▸ h.inRange

/-- A refill of the second limiter may be cut to what a count can show. By then the first one is
full, and so is the second with what comes back. -/
theorem Lent.rollOver (h : Lent permits l m) (hl : l.Solvent 0) (now : Nat) :
    Lent permits (l.rollOver now) (m.rollOver now) := by
  have hcurrent : m.currentCycle now = l.currentCycle now := by
    unfold currentCycle age
    rw [h.config, h.origin]
  by_cases hlt : l.cycle < l.currentCycle now
  · obtain ⟨brought, hbrought⟩ : ∃ n : Int, n = l.limit * (l.currentCycle now - l.cycle : Nat) :=
      ⟨_, rfl⟩
    have hone : (l.limit : Int) * 1 ≤ l.limit * (l.currentCycle now - l.cycle : Nat) :=
      Int.mul_le_mul_of_nonneg_left (by omega) (by omega)
    have hfirst : l.rollOver now = { l with
        cycle := l.currentCycle now, permissions := min (l.permissions + brought) l.limit } := by
      rw [rollOver_of_lt hl hlt, hbrought]
    have hsecond : m.rollOver now = { m with
        cycle := l.currentCycle now
        permissions :=
          min (clampCount (m.permissions + min brought (countLimit - 1))) l.limit } := by
      unfold Limiter.rollOver
      rw [hcurrent, h.cycle, if_pos hlt, h.config, hbrought]
      rw [refill_eq]
      rfl
    have hlent := h.permissions
    have hrange := h.inRange
    rw [hfirst, hsecond]
    refine ⟨h.config, h.origin, rfl, ?_, ?_⟩
    · show min (l.permissions + brought) (l.limit : Int) = min (min _ (l.limit : Int) + permits)
        (l.limit : Int)
      simp only [Solvent, debt, clampCount, countLimit] at *
      omega
    · show -countLimit ≤ min (clampCount _) (l.limit : Int)
      simp only [clampCount, countLimit] at *
      omega
  · rw [rollOver_of_le l now (by omega), rollOver_of_le m now (by rw [hcurrent, h.cycle]; omega)]
    exact h

theorem taken_sameBooks {timeout : Nat} (h : l.quote now permits ≤ timeout) :
    SameBooks (l.taken now permits) (l.next now permits timeout) := ⟨rfl, rfl, rfl, if_pos h⟩

/-- What a request takes is lent while it can be given back. -/
theorem taken_lent (hle : l.permissions ≤ l.limit)
    (hrange : -countLimit ≤ (l.taken now permits).permissions) :
    Lent permits (l.rollOver now) (l.taken now permits) := by
  refine ⟨rfl, rfl, rfl, ?_, hrange⟩
  have hfull := l.rollOver_permissions_le_limit now hle
  show _ = min ((l.rollOver now).permissions - permits + permits) ((l.rollOver now).limit : Int)
  rw [rollOver_limit]
  omega

end Lent

namespace Ledger

theorem now_le_next [Timer] (s : Ledger) (i : Input) : s.now ≤ (s.next i).now := by
  have hnow : (s.next i).now = s.now + i.passed := act_now ..
  omega

/-- Time and idle steps leave what has been lent as it is. -/
theorem IdleRun.lent [Timer] {s : Ledger} {inputs : List Input} {permits : Nat} {l : Limiter}
    (h : s.IdleRun inputs) (hl : l.Solvent 0) (hlent : Lent permits l s.limiter) :
    s.now ≤ (s.run inputs).now ∧
      ∃ k, Alike (s.run inputs).now l k ∧ Lent permits k (s.run inputs).limiter := by
  induction inputs generalizing s l with
  | nil => exact ⟨Nat.le_refl _, l, fun t _ => .refl _, hlent⟩
  | cons i rest ih =>
    have hnow := s.now_le_next i
    rcases h.1.sameBooks with hsame | hrolled
    · obtain ⟨hle, k, halike, hk⟩ := ih h.2 hl (hlent.same hsame)
      exact ⟨Nat.le_trans hnow hle, k, halike, hk⟩
    · obtain ⟨hle, k, halike, hk⟩ :=
        ih h.2 (Solvent.rollOver hl) ((hlent.rollOver hl (s.pass i).now).same hrolled)
      have hthere : (s.pass i).now ≤ ((s.next i).run rest).now :=
        Nat.le_trans (Nat.le_of_eq (act_now ..).symm) hle
      exact ⟨Nat.le_trans hnow hle, k, ((alike_rollOver hl _).later hthere).trans halike, hk⟩

namespace Stay
variable [Timer] {s : Ledger} {permits : Nat} {arrival : Input} {meanwhile : List Input}
  {departure : Input} {p : Pending} (h : s.Stay permits arrival meanwhile departure p)
  (hidle : (s.next arrival).IdleRun meanwhile)
include h hidle

/-- A stay between idle steps leaves a limiter like the one that it found. -/
theorem alike (hs : s.InLine) (hle : s.limiter.permissions ≤ s.limiter.limit)
    (hsolvent : s.limiter.Solvent 0)
    (hrange : p.granted →
      -countLimit ≤ (s.limiter.taken (s.pass arrival).now permits).permissions) :
    Alike (((s.next arrival).run meanwhile).next departure).now s.limiter
      (((s.next arrival).run meanwhile).next departure).limiter := by
  have hask : arrival.step.permits? = some permits := by
    rw [h.asks]
    rfl
  have hasked := (s.pass arrival).act_asked hask
  have hnow : (s.next arrival).now = (s.pass arrival).now := act_now ..
  have hrolled : Alike (s.next arrival).now s.limiter
      (s.limiter.rollOver (s.pass arrival).now) := by
    rw [hnow]
    exact alike_rollOver hsolvent _
  have hgranted := (h.pending hs).2
  rw [request_isGranted] at hgranted
  have hlast := ((s.next arrival).run meanwhile).now_le_next departure
  by_cases hq : s.limiter.quote (s.pass arrival).now permits ≤ s.limiter.config.timeout.ticks
  · have hbooks : p.granted := hgranted.trans (decide_eq_true hq)
    have htaken := (taken_sameBooks hq).trans hasked
    have hlent := (taken_lent hle (hrange hbooks)).same htaken
    obtain ⟨hwaited, k, halike, hk⟩ := hidle.lent (Solvent.rollOver hsolvent) hlent
    have hleft := hk.back.trans (h.left_granted hs hbooks)
    exact (((hrolled.later hwaited).trans halike).trans (hleft.alike _)).later hlast
  · have hrefused := (next_sameBooks (.inr (Nat.not_le.mp hq))).trans hasked
    have hfirst : (s.next arrival).limiter.Solvent 0 :=
      hrefused.solvent (Solvent.rollOver hsolvent)
    have hwaited := hidle.undisturbed hfirst
    have hleft := h.left_refused hs (hgranted.trans (decide_eq_false hq))
    have hstart := (hrolled.trans (hrefused.alike _)).later hwaited.now_le
    exact ((hstart.trans hwaited.alike).trans (hleft.alike _)).later hlast

end Stay

/-- **Callers that leave before their time leave no trace.** In every run the limiter counts just
those callers that wait. If one of them asked when the count was not above the limit, and since then
nobody else got anything or gave anything back, then after it has left the count is seen as if
neither the caller nor the others had been there, and all later requests are answered so. A
caller that was to be refused gives nothing back. What the limiter owes must leave room for a limit
in the range of the count, and what the caller is granted must stay in that range. -/
theorem stays_leave_no_trace [Timer] {start : Nat} {s : Ledger} (h : s.ReachedSince start) :
    (s.limiter.metrics s.now).waiting = s.waiting.length ∧
      ∀ {permits : Nat} {arrival : Input} {meanwhile : List Input} {departure : Input}
        {p : Pending},
        s.Stay permits arrival meanwhile departure p → (s.next arrival).IdleRun meanwhile →
        s.limiter.permissions ≤ s.limiter.limit →
        s.limiter.Solvent 0 →
        (p.granted →
          -countLimit ≤ (s.limiter.taken (s.pass arrival).now permits).permissions) →
        let waiting := (s.next arrival).run meanwhile
        let left := waiting.next departure
        (∀ t, left.now ≤ t →
          (left.limiter.metrics t).available = (s.limiter.metrics t).available ∧
            (left.limiter.metrics t).cycle = (s.limiter.metrics t).cycle) ∧
        (∀ later : List Input, (∀ i ∈ later, i.step.keeps) →
          left.decisions later = { s with now := left.now }.decisions later) ∧
        ((s.limiter.request (s.pass arrival).now permits).2.2.isGranted = false →
          left.limiter.permissions = waiting.limiter.permissions) := by
  have hline := h.inLine
  refine ⟨hline.counted, ?_⟩
  intro permits arrival meanwhile departure p hstay hidle hle hsolvent hrange waiting left
  have halike : Alike left.now s.limiter left.limiter :=
    hstay.alike hidle hline hle hsolvent hrange
  refine ⟨fun t ht => (halike.later ht).metrics, fun later hkeeps => ?_, fun hrefused => ?_⟩
  · exact decisions_eq (s := { s with now := left.now }) (t := left) rfl halike later hkeeps
  · exact (hstay.left_refused hline ((hstay.pending hline).2.trans hrefused)).permissions

/-- One of two permissions is taken. -/
def halfTaken : Ledger := (fresh ⟨"pairs", pairs, 5, 0, 2, 0, 0⟩ 5).run [⟨2, 0, .reserve 1⟩]

/-- Two cycles pass. Somebody looks, and somebody else sleeps in vain and leaves. -/
def vainly : List Input := [⟨11, 0, .look⟩, ⟨4, 0, .start 1000⟩, ⟨5, 7, .drop 1⟩]

theorem early_departures_leave_no_trace :
    ((((halfTaken.next ⟨0, 0, .start 6⟩).run vainly).next ⟨1, 0, .drop 0⟩).limiter.metrics
        29).available = (halfTaken.limiter.metrics 29).available ∧
      (((halfTaken.next ⟨0, 0, .start 600⟩).run vainly).next ⟨1, 0, .drop 0⟩).limiter.permissions =
        ((halfTaken.next ⟨0, 0, .start 600⟩).run vainly).limiter.permissions := by
  have hreached : halfTaken.ReachedSince 5 := ⟨"pairs", pairs, _, _, rfl, rfl⟩
  have hgranted : halfTaken.Stay 6 ⟨0, 0, .start 6⟩ vainly ⟨1, 0, .drop 0⟩
      ⟨6, true, 1000000⟩ := ⟨rfl, by decide, rfl⟩
  have hrefused : halfTaken.Stay 600 ⟨0, 0, .start 600⟩ vainly ⟨1, 0, .drop 0⟩
      ⟨600, false, 1000000⟩ := ⟨rfl, by decide, rfl⟩
  obtain ⟨hseen, -, -⟩ :=
    (stays_leave_no_trace hreached).2 hgranted (by decide) (by decide) (by decide) (by decide)
  obtain ⟨-, -, hkept⟩ :=
    (stays_leave_no_trace hreached).2 hrefused (by decide) (by decide) (by decide) (by decide)
  exact ⟨(hseen 29 (by decide)).1, hkept (by decide)⟩

/-- A caller whose permissions come later is in line. -/
theorem next_start_waits [Timer] (s : Ledger) (passed permits : Nat)
    (hlate : s.limiter.quote (s.now + passed) permits ≠ 0)
    (hfits : s.limiter.quote (s.now + passed) permits ≤ s.limiter.config.timeout.ticks) :
    ∃ due, (s.next ⟨passed, 0, .start permits⟩).waiting =
      (s.started, ⟨permits, true, due⟩) :: s.waiting := by
  have hwait : (s.limiter.next (s.now + passed) permits s.limiter.config.timeout.ticks).wait =
      s.limiter.quote (s.now + passed) permits := rfl
  refine ⟨Timer.wakeAt s.timer ⟨s.limiter.quote (s.now + passed) permits⟩, ?_⟩
  simp only [next, pass, act, start, request, hwait, if_neg hlate, if_pos hfits]
  rfl

/-- One permission for every second, taken in the first one. -/
def soleBooked : Limiter :=
  { name := "sole"
    config := { limitForPeriod := 1, refreshPeriod := .ofSeconds 1, timeout := .ofSeconds 1 }
    origin := 0, permissions := 0 }

/-- **A departure can leave a trace** where a refill is cut to what a count can show: a caller that
comes and goes makes a limiter that is deep enough in debt refill in two steps, which bring more
than one. It can do so, too, where the clock passes its end and begins anew: whoever was refused
meanwhile has taken the limiter to a later cycle than it would be in. -/
theorem departures_leave_a_trace :
    (∃ s : Ledger, s.ReachedSince 0 ∧ s.limiter.permissions ≤ s.limiter.limit ∧
      ∃ arrival departure p, s.Stay 1 arrival [] departure p ∧
        let left := (s.next arrival).next departure
        ∃ t, left.now ≤ t ∧
          (s.limiter.metrics t).available < (left.limiter.metrics t).available) ∧
    let p : Pending := ⟨1, true, 1000000000⟩
    let asked := (soleBooked.start 0 0 1).1
    let later := asked.reserve 5000000000 10
    (soleBooked.start 0 0 1).2.2 = .inr p ∧ later.2.2 = none ∧
      (Clock.mk 5000000000).advance ⟨lastTick + 1 - 5000000000⟩ = ⟨0⟩ ∧
      (soleBooked.metrics 0).available = 0 ∧ ((p.cancel later.1).metrics 0).available = 1 := by
  refine ⟨?_, by decide +kernel⟩
  obtain ⟨s, hreached, hnow, hbooks⟩ := outspent_reached
  -- The reading stays a variable: it is not to be counted down.
  obtain ⟨t, ht⟩ : ∃ t : Nat, t = 2 ^ 31 + 2 := ⟨_, rfl⟩
  have hthen : s.now + 1 = 1 := by rw [hnow]
  have hquote : s.limiter.quote (s.now + 1) 1 = outspent.quote 1 1 := by
    rw [hthen, (hbooks.alike 1).quote]
  have htimeout : s.limiter.config.timeout.ticks = lastTick :=
    congrArg (·.timeout.ticks) hbooks.config
  obtain ⟨due, hwaits⟩ := s.next_start_waits 1 1 (by rw [hquote]; decide +kernel)
    (by rw [hquote, htimeout]; decide +kernel)
  have hstay : s.Stay 1 ⟨1, 0, .start 1⟩ [] ⟨0, 0, .drop s.started⟩ ⟨1, true, due⟩ := by
    refine ⟨rfl, ?_, rfl⟩
    show (s.next ⟨1, 0, .start 1⟩).waiting.lookup s.started = _
    rw [hwaits, List.lookup_cons_self]
  have hasked : SameBooks (outspent.next 1 1 lastTick) (s.next ⟨1, 0, .start 1⟩).limiter :=
    outspent_asked hbooks hnow rfl 1
  have hleft : SameBooks ((outspent.next 1 1 lastTick).refund 1)
      ((s.next ⟨1, 0, .start 1⟩).next ⟨0, 0, .drop s.started⟩).limiter :=
    (hasked.refund 1).trans (hstay.left_granted hreached.inLine rfl)
  have hend : ((s.next ⟨1, 0, .start 1⟩).next ⟨0, 0, .drop s.started⟩).now = s.now + 1 :=
    (act_now ..).trans (act_now (s.pass ⟨1, 0, .start 1⟩) _)
  have hlimit : s.limiter.permissions ≤ s.limiter.limit := by
    rw [hbooks.permissions, hbooks.limit]
    decide
  refine ⟨s, hreached, hlimit, _, _, _, hstay, t, ?_, ?_⟩
  · rw [hend, hthen, ht]
    decide
  · rw [((hbooks.alike t).metrics).1, ((hleft.alike t).metrics).1, ht]
    decide +kernel

end Ledger

/-! ### Departures after a change of the limit -/

/-- The count that is seen before a refund and after it: the cycles that have begun meanwhile bring
the same to both. -/
theorem refund_available_eq (l : Limiter) (now permits : Nat) :
    (∃ brought : Int, 0 ≤ brought ∧
      (l.metrics now).available = min (clampCount (l.permissions + brought)) l.limit ∧
      ((l.refund permits).metrics now).available =
        min (clampCount (min (l.permissions + permits) l.limit + brought)) l.limit) ∨
    (l.metrics now).available = l.permissions ∧
      ((l.refund permits).metrics now).available = min (l.permissions + permits) l.limit := by
  by_cases hlt : l.cycle < l.currentCycle now
  · refine .inl ⟨_, refill_nonneg .., congrArg permissions (if_pos hlt), ?_⟩
    exact congrArg permissions (if_pos hlt)
  · have hgiven := metrics_available (l.refund permits) now (Nat.le_of_not_lt hlt)
    exact .inr ⟨metrics_available l now (Nat.le_of_not_lt hlt), hgiven⟩

theorem refund_cycle (l : Limiter) (now permits : Nat) :
    ((l.refund permits).metrics now).cycle = (l.metrics now).cycle :=
  ((l.refund permits).rollOver_cycle now).trans (l.rollOver_cycle now).symm

/-- A refund lowers what is seen only from above the limit, and then to the limit. -/
theorem refund_lowers_iff (l : Limiter) (now permits : Nat) :
    let before := (l.metrics now).available
    let after := ((l.refund permits).metrics now).available
    (after < before ↔ l.limit < before) ∧ (l.limit < before → after = l.limit) ∧
      after ≤ before + permits := by
  intro before after
  rcases l.refund_available_eq now permits with ⟨_, _, hbefore, hafter⟩ | ⟨hbefore, hafter⟩
  · simp only [clampCount, countLimit] at hbefore hafter
    omega
  · omega

namespace Ledger

/-- A step that lowers the limit. -/
def Lowers (s : Ledger) (step : Step) : Prop := ∃ n, step = .changeLimit n ∧ n < s.limiter.limit

/-- A run in which nobody lowers the limit. -/
def NeverLowered [Timer] (s : Ledger) : List Input → Prop
  | [] => True
  | i :: rest => ¬(s.pass i).Lowers i.step ∧ NeverLowered (s.next i) rest

theorem act_within [Timer] {s : Ledger} {step : Step} (h : s.limiter.permissions ≤ s.limiter.limit)
    (hlimit : ¬s.Lowers step) : (s.act step).limiter.permissions ≤ (s.act step).limiter.limit := by
  apply act_preserves (P := fun l _ => l.permissions ≤ l.limit) s step
  · intro l m _ hs hl
    rw [hs.permissions, hs.limit]
    exact hl
  · intro permits _ _
    rw [next_limit]
    exact Int.le_trans (next_permissions_le ..) (s.limiter.rollOver_permissions_le_limit _ h)
  · intro _ p _ _
    split
    · exact Int.min_le_right ..
    · exact h
  · intro _
    exact Int.le_trans (Int.min_le_right ..) (Int.natCast_nonneg _)
  · intro n hn _
    have hle : s.limiter.limit ≤ n := Nat.le_of_not_lt fun hlt => hlimit ⟨n, hn, hlt⟩
    exact Int.le_trans h (Int.ofNat_le.mpr hle)
  · exact fun _ _ => h
  · exact h

/-- A count within the limit stays there until the limit is lowered. -/
theorem NeverLowered.within [Timer] {s : Ledger} {inputs : List Input} (h : s.NeverLowered inputs)
    (hs : s.limiter.permissions ≤ s.limiter.limit) :
    (s.run inputs).limiter.permissions ≤ (s.run inputs).limiter.limit := by
  induction inputs generalizing s with
  | nil => exact hs
  | cons i rest ih => exact ih h.2 (act_within (s := s.pass i) hs h.1)

/-- **A departure lowers what is seen exactly if the count lies above the limit.** The count is then
cut to the limit. This needs a limit that was lowered while a cycle held more: as long as nobody
lowers it, a departure never lowers what is seen. In no state does the count rise by more than the
caller has booked. -/
theorem departure_lowers_iff_over_limit [Timer] {start : Nat} {s : Ledger}
    (h : s.ReachedSince start)
    {permits : Nat} {arrival : Input} {meanwhile : List Input} {departure : Input} {p : Pending}
    (hstay : s.Stay permits arrival meanwhile departure p) (hgranted : p.granted) :
    let waiting := (s.next arrival).run meanwhile
    let left := waiting.next departure
    let before := waiting.limiter.metrics left.now
    let after := left.limiter.metrics left.now
    (after.available < before.available ↔ waiting.limiter.limit < before.available) ∧
      (waiting.limiter.limit < before.available → after.available = waiting.limiter.limit) ∧
      after.available ≤ before.available + permits ∧ after.cycle = before.cycle ∧
      (s.limiter.permissions ≤ s.limiter.limit → s.NeverLowered (arrival :: meanwhile) →
        before.available ≤ after.available) := by
  intro waiting left before after
  have hseen := ((hstay.left_granted h.inLine hgranted).alike left.now).metrics
  have hrefund := waiting.limiter.refund_lowers_iff left.now permits
  dsimp only at hrefund
  rw [← hseen.1] at hrefund
  refine ⟨hrefund.1, hrefund.2.1, hrefund.2.2, hseen.2.trans (refund_cycle ..), ?_⟩
  intro hle hnever
  have hwithin : waiting.limiter.permissions ≤ waiting.limiter.limit := hnever.within hle
  have hbefore := waiting.limiter.rollOver_permissions_le_limit left.now hwithin
  exact Int.not_lt.mp (mt hrefund.1.mp (Int.not_lt.mpr hbefore))

/-- The first caller books four cycles ahead. Then the second cycle brings a hundred permissions, of
which one is taken, and the limit falls to ten. -/
def loweredLate : List Input :=
  [⟨0, 0, .changeLimit 100⟩, ⟨10, 0, .reserve 1⟩, ⟨0, 0, .changeLimit 10⟩]

/-- A single permission for each cycle, and nobody has asked yet. -/
def unasked : Ledger := fresh ⟨"turns", turns, 5, 0, 1, 0, 0⟩ 5

theorem departure_within_limit_raises :
    let waiting := (unasked.next ⟨0, 0, .start 5⟩).run (loweredLate ++ [⟨10, 0, .look⟩])
    let left := waiting.next ⟨1, 0, .drop 0⟩
    ¬(left.limiter.metrics left.now).available < (waiting.limiter.metrics left.now).available := by
  have hreached : unasked.ReachedSince 5 := ⟨"turns", turns, _, [], rfl, rfl⟩
  have hstay : unasked.Stay 5 ⟨0, 0, .start 5⟩ (loweredLate ++ [⟨10, 0, .look⟩]) ⟨1, 0, .drop 0⟩
      ⟨5, true, 1000000⟩ := ⟨rfl, by decide, rfl⟩
  exact mt (departure_lowers_iff_over_limit hreached hstay rfl).1.mp (by decide)

/-- Five permissions are given back, and of ninety-five ten are left. -/
theorem departure_cuts_lowered_limit :
    let waiting := (unasked.next ⟨0, 0, .start 5⟩).run loweredLate
    let left := waiting.next ⟨0, 0, .drop 0⟩
    (waiting.waiting.lookup 0).map (fun p => (p.permits, p.granted)) = some (5, true) ∧
      (waiting.limiter.metrics left.now).available = 95 ∧
      (left.limiter.metrics left.now).available = 10 := by
  decide

end Ledger

end FaultTolerance.Limiter
