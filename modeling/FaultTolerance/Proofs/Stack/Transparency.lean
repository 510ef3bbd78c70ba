import FaultTolerance.Proofs.Stack.Holdings
import FaultTolerance.Proofs.Stack.Trips

/-! A stack of layers is transparent.

What its layers make of a call is stated by the visits of the call (`Transparent`). Without a retry
the operation runs once, or one layer refuses the call and nothing further in is touched. With
retries it runs as often as their attempts together allow at most, and the call ends with what its
last attempt has come to. A layer that is outside of all retries takes in one outcome, one that is
inside is asked once for each attempt that comes to it.

An adaptive bulkhead breaks a call off when its counter cannot follow a new limit; limits in range
(`World.Ranged`) keep it from that. The main theorem is **`layers_transparent`**. -/
namespace FaultTolerance.Stack
variable {ε ν : Type}

/-! ### Calls that no layer breaks off -/

namespace Layer

theorem ofReservation_refused {l : Limiter} {answer : Bool ⊕ Limiter.Pending} {e : Error}
    (h : ofReservation l answer = .refused e) : l.refusal = e := by
  rcases answer with (_ | _) | _ <;> cases h
  rfl

theorem ofPermit_refused {hold : Hold} {refusal e : Error} {answer : Bool ⊕ Bulkhead.Waiter}
    (h : ofPermit hold refusal answer = .refused e) : refusal = e := by
  rcases answer with (_ | _) | _ <;> cases h
  rfl

/-- Who is refused by a layer gets its error. -/
theorem enter_refused [Timer] (layer : Layer ε ν) (now timer : Nat) {e : Error}
    (h : (layer.enter now timer).2.2 = .refused e) : (layer.enter now timer).1.refusal = e := by
  cases layer with
  | breaker b =>
    rcases hasked : b.tryAcquire now with ⟨m, events, _ | _⟩
    · simp only [enter, hasked] at h ⊢
      cases h
      rfl
    · simp only [enter, hasked] at h
      cases h
  | limiter l => exact ofReservation_refused h
  | bulkhead b => exact ofPermit_refused h
  | adaptive a => exact ofPermit_refused h
  | retry r => cases h

theorem resume_refused [Timer] (layer : Layer ε ν) (now timer : Nat) (wait : Wait) {e : Error}
    (h : (layer.resume now timer wait).2.2 = .refused e) :
    (layer.resume now timer wait).1.refusal = e := by
  cases layer with
  | breaker b => cases h
  | limiter l =>
    cases wait with
    | reservation p => exact ofReservation_refused h
    | permit _ | backoff _ _ => cases h
  | bulkhead b =>
    cases wait with
    | permit w => exact ofPermit_refused h
    | reservation _ | backoff _ _ => cases h
  | adaptive a =>
    cases wait with
    | permit w => exact ofPermit_refused h
    | reservation _ | backoff _ _ => cases h
  | retry r =>
    cases wait with
    | backoff n due =>
      simp only [resume] at h
      split at h <;> cases h
    | reservation _ | permit _ => cases h

variable [Fault ε]

/-- An adaptive bulkhead follows every limit that it asks for. -/
def Ranged : Layer ε ν → Prop
  | adaptive a => a.Ranged
  | _ => True

theorem ranged_deal [Timer] (layer : Layer ε ν) (now timer : Nat) (d : Deal ε ν)
    (h : layer.Ranged) :
    (layer.deal now timer d).1.Ranged := by
  have hother (m : Layer ε ν) (hkind : m.kind = layer.kind) (hadaptive : layer.kind ≠ .adaptive) :
      m.Ranged := by
    cases m with
    | adaptive _ => exact absurd hkind.symm hadaptive
    | breaker _ | limiter _ | bulkhead _ | retry _ => trivial
  cases layer with
  | adaptive a =>
    have ha : a.Ranged := h
    obtain ⟨m, k, settled, hm, hconfig, hturned, hresized⟩ := deal_adaptive a now timer d
    rw [hm]
    exact (ha.resized hconfig (hturned.ranged ha.permits) hresized).1
  | breaker _ | limiter _ | bulkhead _ | retry _ =>
    exact hother _ (kind_deal _ now timer d) nofun

theorem Ranged.leave_ne_broken {layer : Layer ε ν} (h : layer.Ranged) (now : Nat) (hold : Hold)
    (outcome : Except ε ν) : (layer.leave now hold outcome).2.2 ≠ .broken := by
  intro hbroken
  cases layer with
  | adaptive a =>
    cases hold with
    | inFlight start =>
      have ha : a.Ranged := h
      have hresized := a.onOutcome_resized now (since start now) outcome
      have hsettled := (ha.resized (a.onOutcome_config ..) ha.permits.release hresized).2
      simp only [leave, hsettled, if_true] at hbroken
      cases hbroken
    | nothing | admission _ | permit | attempts _ => cases hbroken
  | retry r =>
    cases hold with
    | attempts count =>
      simp only [leave] at hbroken
      split at hbroken <;> cases hbroken
    | nothing | admission _ | permit | inFlight _ => cases hbroken
  | breaker b => cases hold <;> cases hbroken
  | limiter _ | bulkhead _ => cases hbroken

end Layer

section Journeys
variable [Timer] [Fault ε] {operation : Nat → Run ε ν} {others : World ε ν → World ε ν → Prop}
  {p q : Point ε ν} {log visits : List Visit}

/-- The counters of all adaptive bulkheads follow every limit that is asked for. -/
def World.Ranged (w : World ε ν) : Prop := w.All fun _ layer => layer.Ranged

theorem World.Ranged.reaches {P : Deal ε ν → Prop} {w m : World ε ν} (h : World.Reaches P w m)
    (hw : w.Ranged) : m.Ranged :=
  h.all (fun now timer _ d layer _ => layer.ranged_deal now timer d) hw

omit [Timer] [Fault ε] in
theorem World.put_refusalAt {w : World ε ν} {i : Nat} (hi : i < w.layers.length)
    (layer : Layer ε ν) (reports : List Report) :
    (w.put i layer reports).refusalAt i = layer.refusal := by
  simp only [refusalAt, put_layers, List.getElem?_set_self hi, Option.map_some, Option.getD_some]

omit [Fault ε] in
theorem World.enter_refused {w m : World ε ν} {i : Nat} {e : Error}
    (hdoor : w.enter i = (m, .refused e)) : m.refusalAt i = e := by
  cases hi : w.layers[i]? with
  | none =>
    simp only [enter, hi] at hdoor
    cases hdoor
  | some layer =>
    obtain ⟨rfl, hentry⟩ := Prod.mk.inj ((enter_of_getElem? hi).symm.trans hdoor)
    obtain ⟨hlt, -⟩ := List.getElem?_eq_some_iff.mp hi
    rw [put_refusalAt hlt, layer.enter_refused w.now w.timer hentry]

omit [Fault ε] in
theorem World.resumeAt_refused {w m : World ε ν} {i timer : Nat} {wait : Wait} {e : Error}
    (hdoor : w.resumeAt i timer wait = (m, .refused e)) : m.refusalAt i = e := by
  cases hi : w.layers[i]? with
  | none =>
    simp only [resumeAt, hi] at hdoor
    cases hdoor
  | some layer =>
    obtain ⟨rfl, hentry⟩ := Prod.mk.inj ((resumeAt_of_getElem? hi timer wait).symm.trans hdoor)
    obtain ⟨hlt, -⟩ := List.getElem?_eq_some_iff.mp hi
    rw [put_refusalAt hlt, layer.resume_refused w.now timer wait hentry]

omit [Timer] in
theorem World.Ranged.leave_ne_broken {w m : World ε ν} (hw : w.Ranged) {i : Nat} {h : Hold}
    {outcome : Except ε ν} : w.leave i h outcome ≠ (m, .broken) := by
  intro hleave
  cases hi : w.layers[i]? with
  | none =>
    simp only [leave, hi] at hleave
    cases hleave
  | some layer =>
    rw [leave_of_getElem? hi] at hleave
    exact (hw i layer hi).leave_ne_broken w.now h outcome (congrArg Prod.snd hleave)

theorem Leg.unbroken (hw : p.world.Ranged) (hleg : Leg operation others p visits q)
    (hp : p.stand ≠ .unwinds .broken) : q.stand ≠ .unwinds .broken := by
  cases hleg with
  | @enters _ _ _ _ _ entry _ | @resumes _ _ _ _ _ _ _ entry _ => cases entry <;> nofun
  | @ends _ run _ =>
    intro hbroken
    exact absurd (Stand.ofEnding_unwinds hbroken.symm).1 nofun
  | breaks hleave => exact absurd hleave hw.leave_ne_broken
  | gives => exact hp
  | time _ _ _ | elsewhere _ _ => exact hp
  | cutOff _ | begins | leaves _ | again _ | wakes | dropsWaiting | dropsPaused
  | dropsOperating => nofun

/-- **No layer breaks a call off** whose adaptive bulkheads can follow their limits. -/
theorem Journey.unbroken (hothers : ∀ w m, others w m → World.Reaches (fun _ => True) w m)
    (h : Journey operation others p log q) (hw : p.world.Ranged)
    (hp : p.stand ≠ .unwinds .broken) : q.stand ≠ .unwinds .broken := by
  induction h with
  | here => exact hp
  | onward hcame hleg ih =>
    exact hleg.unbroken (hw.reaches (hcame.reaches_any hothers)) ih

/-! ### What is visited -/

/-- A layer that is not visited stays as it is, unless others change it. -/
theorem Leg.untouched {tries : Nat → Nat} {path : List Nat} {j : Nat}
    (hothers : ∀ w m, others w m → m.layers[j]? = w.layers[j]?)
    (hleg : Leg operation others p visits q)
    (hcame : Came operation tries path p.stand p.frames log)
    (hlog : ∀ v ∈ log ++ visits, v.layer? ≠ some j) :
    q.world.layers[j]? = p.world.layers[j]? := by
  have hdeal {w m : World ε ν} {i : Nat} {d : Deal ε ν} {v : Visit} (hm : m = w.deal i d)
      (hv : v ∈ log ++ visits) (hi : v.layer? = some i) : m.layers[j]? = w.layers[j]? := by
    rw [hm]
    refine w.deal_getElem?_ne (fun hij => hlog v hv ?_) d
    rw [hi, hij]
  have hnew {v : Visit} (hv : v ∈ visits) : v ∈ log ++ visits := List.mem_append_right _ hv
  cases hleg with
  | @enters w m i inner frames entry hdoor =>
    rw [Point.answered_world]
    exact hdeal (World.eq_deal_of_enter hdoor) (hnew List.mem_cons_self) rfl
  | @resumes w m i inner frames wait timer entry hdoor =>
    rw [Point.answered_world]
    cases hcame with
    | waits hinside hpath =>
      exact hdeal (World.eq_deal_of_resumeAt hdoor) (v := .asked frames.length i) (by simp) rfl
    | turned _ _ hstand => rcases Stand.eq_ofEnding hstand with ⟨_, h⟩ | h <;> cases h
  | @leaves w m i inner h frames outcome hleave | @breaks w m i inner h frames outcome hleave
  | @again w m i n inner h frames outcome wait hleave =>
    exact hdeal (World.eq_deal_of_leave hleave) (hnew (List.mem_singleton_self _)) rfl
  | @gives w i inner h frames cause =>
    exact hdeal (w.abandon_eq_deal i h) (hnew (List.mem_singleton_self _)) rfl
  | @dropsWaiting w i inner frames wait =>
    exact hdeal (w.cancel_eq_deal i wait) (hnew (List.mem_singleton_self _)) rfl
  | elsewhere hs h => exact hothers _ _ h
  | cutOff _ | begins | ends | wakes | dropsPaused | dropsOperating | time _ _ _ => rfl

theorem Journey.untouched {start : World ε ν} {path : List Nat} {j : Nat}
    (hothers : ∀ w m, others w m → World.Reaches (fun _ => True) w m)
    (hkept : ∀ w m, others w m → m.layers[j]? = w.layers[j]?)
    (h : Journey operation others ⟨start, .comes path, []⟩ log q)
    (hlog : ∀ v ∈ log, v.layer? ≠ some j) : q.world.layers[j]? = start.layers[j]? := by
  induction h with
  | here => rfl
  | onward hcame hleg ih =>
    rw [hleg.untouched hkept (hcame.came hothers) hlog]
    exact ih fun v hv => hlog v (List.mem_append_left _ hv)

/-- A refusal is the error of the layer at that time. -/
theorem Leg.refusal {k i : Nat} {e : Error} (hleg : Leg operation others p visits q)
    (hrefused : .refused k i e ∈ visits) : e = q.world.refusalAt i := by
  cases hleg with
  | @enters _ _ _ _ _ entry hdoor | @resumes _ _ _ _ _ _ _ entry hdoor =>
    cases entry with
    | refused err =>
      simp only [Visit.answered, List.mem_cons, reduceCtorEq, Visit.refused.injEq,
        List.not_mem_nil, or_false, false_or] at hrefused
      obtain ⟨-, rfl, rfl⟩ := hrefused
      first
        | exact (World.enter_refused hdoor).symm
        | exact (World.resumeAt_refused hdoor).symm
    | admitted _ | waiting _ => simp [Visit.answered] at hrefused
  | cutOff _ =>
    cases List.mem_singleton.mp hrefused
    rfl
  | begins | leaves _ | breaks _ | again _ | gives | dropsWaiting | dropsPaused =>
    cases List.mem_singleton.mp hrefused
  | ends | wakes | dropsOperating | time _ _ _ | elsewhere _ _ => cases hrefused

theorem Journey.refusal {k i : Nat} {e : Error}
    (hothers : ∀ w m, others w m → World.Reaches (fun _ => True) w m)
    (h : Journey operation others p log q) (hrefused : .refused k i e ∈ log) :
    ∃ m, World.Reaches (fun _ => True) p.world m ∧ e = m.refusalAt i := by
  induction h with
  | here => cases hrefused
  | @onward q r log visits hcame hleg ih =>
    rcases List.mem_append.mp hrefused with hrefused | hrefused
    · exact ih hrefused
    · exact ⟨_, (hcame.onward hleg).reaches_any hothers, hleg.refusal hrefused⟩

end Journeys

/-! ### Transparency -/

/-- None of the instances at these positions is a retry. -/
def World.Retryless (w : World ε ν) (path : List Nat) : Prop :=
  ∀ i ∈ path, w.layers[i]?.map Layer.kind ≠ some .retry

theorem World.Retryless.tries_eq {w : World ε ν} {path : List Nat} (h : w.Retryless path) :
    ∀ i ∈ path, w.tries i = 1 := by
  intro i hi
  have hkind := h i hi
  cases hlayer : w.layers[i]? with
  | none => simp [World.tries, World.patience, hlayer]
  | some layer =>
    rw [hlayer] at hkind
    cases layer with
    | retry r => exact absurd rfl hkind
    | breaker _ | limiter _ | bulkhead _ | adaptive _ =>
      simp [World.tries, World.patience, hlayer, Layer.patience]

variable [Fault ε]

/-- What the layers of a path make of a call from `w` to `m` that ends with `e`, by its visits. -/
structure Transparent [Timer] (operation : Nat → Run ε ν) (others : World ε ν → World ε ν → Prop)
    (path : List Nat) (w m : World ε ν) (log : List Visit) (e : Ending ε ν) : Prop where
  /-- Without a retry the operation runs once at most. -/
  once : w.Retryless path → log.countP Visit.isRun ≤ 1
  /-- It runs if and only if every layer admits the call. -/
  ran_iff : w.Retryless path →
    (log.countP Visit.isRun = 1 ↔ ∀ k i, path[k]? = some i → .admitted k i ∈ log)
  /-- If it runs, the call ends as it does. -/
  own : w.Retryless path → ∀ n, .ran n ∈ log → e = (operation n).ending
  /-- If it does not, one layer has refused a call that all layers outside of it had admitted. The
  call ends with that refusal, and nothing further in is touched. -/
  unserved : w.Retryless path → log.countP Visit.isRun = 0 →
    ∃ outer i inner err, path = outer ++ i :: inner ∧
      (∀ k j, outer[k]? = some j → .admitted k j ∈ log) ∧ .refused outer.length i err ∈ log ∧
      e = .failed (Fault.ofRefusal err) ∧
      (∀ v ∈ log, ∃ k, v.depth? = some k ∧ k ≤ outer.length) ∧
      ∀ j, j ∉ outer → j ≠ i → (∀ w m, others w m → m.layers[j]? = w.layers[j]?) →
        m.layers[j]? = w.layers[j]?
  /-- A refusal is the error of its layer at that time. -/
  refusal : ∀ k i err, .refused k i err ∈ log →
    ∃ mid, World.Reaches (fun _ => True) w mid ∧ err = mid.refusalAt i
  /-- With retries the operation runs as often as all their attempts together allow at most. -/
  bounded : log.countP Visit.isRun ≤ (path.map w.tries).prod
  /-- The call ends with what its last attempt has come to, a run or a refusal. -/
  decided : ∃ before last after, log = before ++ last :: after ∧ Decides operation last e ∧
    ∀ v ∈ after, v.isParting
  /-- A layer outside of all retries admits the call once at most, and takes one outcome in for it
  unless the call panics. -/
  outside : ∀ outer i inner, path = outer ++ i :: inner → w.Retryless outer →
    log.count (.admitted outer.length i) ≤ 1 ∧
      (e ≠ .panicked →
        log.count (.left outer.length i) = log.count (.admitted outer.length i))
  /-- A layer inside of a retry, or of any other layer, is asked once for each attempt that is made
  there, unless a layer in between refuses it. -/
  inside : ∀ outer r between b inner, path = outer ++ r :: (between ++ b :: inner) →
    w.Retryless between →
      log.count (.asked (outer.length + 1 + between.length) b) +
          log.countP (Visit.isRefusalWithin (outer.length + 1) between.length) =
        attemptsAt outer.length r log

section Trips
variable {operation : Nat → Run ε ν} {w : World ε ν} {path : List Nat} {log : List Visit}
  {e : Ending ε ν}

/-- A layer outside of all retries. -/
theorem Trip.outside (h : Trip operation w.tries 0 path log e) {outer inner : List Nat} {i : Nat}
    (hpath : path = outer ++ i :: inner) (houter : w.Retryless outer) :
    log.count (.admitted outer.length i) ≤ 1 ∧
      (e ≠ .panicked →
        log.count (.left outer.length i) = log.count (.admitted outer.length i)) := by
  have hpast := h.comesTo_past (show path = [] ++ (outer ++ i :: inner) from hpath) houter.tries_eq
  have hone := h.comesTo_once
  have hbalanced := h.balanced hpath
  rw [← hpath, List.length_nil, hone, Nat.zero_add] at hpast
  rw [Nat.zero_add] at hbalanced
  have hasked : log.countP (Visit.comesTo outer.length (i :: inner)) =
      log.count (.asked outer.length i) := rfl
  have hanswered := hbalanced.answered
  refine ⟨by omega, fun hover => ?_⟩
  have habandoned : log.count (.abandoned outer.length i) = 0 :=
    List.count_eq_zero.mpr fun hmem => hover (h.panicked_of_abandoned hmem)
  have hsettled := hbalanced.settled
  omega

/-- A layer inside of another one. -/
theorem Trip.inside (h : Trip operation w.tries 0 path log e) {outer between inner : List Nat}
    {r b : Nat} (hpath : path = outer ++ r :: (between ++ b :: inner))
    (hbetween : w.Retryless between) :
    log.count (.asked (outer.length + 1 + between.length) b) +
        log.countP (Visit.isRefusalWithin (outer.length + 1) between.length) =
      attemptsAt outer.length r log := by
  have hwhere : path = (outer ++ [r]) ++ (between ++ b :: inner) := by
    rw [hpath, List.append_assoc]
    rfl
  have hpast := h.comesTo_past hwhere hbetween.tries_eq
  have hbalanced := h.balanced hpath
  have hlength : (outer ++ [r]).length = outer.length + 1 := List.length_append
  rw [Nat.zero_add] at hbalanced
  rw [hlength, hbalanced.inside] at hpast
  exact hpast.symm

/-- Without a retry the operation runs, or one layer refuses the call. -/
theorem Trip.once (h : Trip operation w.tries 0 path log e) (hsingle : w.Retryless path) :
    log.countP Visit.isRun ≤ 1 ∧
      (log.countP Visit.isRun = 1 ↔ ∀ k i, path[k]? = some i → .admitted k i ∈ log) ∧
      ∀ n, .ran n ∈ log → e = (operation n).ending := by
  have hout {e : Ending ε ν} {path : List Nat} {k i : Nat} :
      .admitted k i ∉ outward e 0 path := fun hmem => absurd (mem_outward hmem).1 nofun
  have hranOut {e : Ending ε ν} {path : List Nat} {n : Nat} : .ran n ∉ outward e 0 path :=
    fun hmem => absurd (mem_outward hmem).1 nofun
  have hranIn {path : List Nat} {n : Nat} : .ran n ∉ inward 0 path := by
    intro hmem
    obtain ⟨_, _, _, hdepth, _⟩ := mem_inward hmem
    cases hdepth
  cases h.straight hsingle.tries_eq with
  | ran n =>
    have hone : (inward 0 path ++ (.ran n :: outward (operation n).ending 0 path)).countP
        Visit.isRun = 1 := by
      rw [List.countP_append, List.countP_cons, countP_isRun_inward, countP_isRun_outward]
      rfl
    refine ⟨Nat.le_of_eq hone, ⟨fun _ k i hi => ?_, fun _ => hone⟩, fun k hk => ?_⟩
    · have hin : .admitted (0 + k) i ∈ inward 0 path := admitted_mem_inward hi
      rw [Nat.zero_add] at hin
      exact List.mem_append_left _ hin
    · simp only [List.mem_append, List.mem_cons, hranIn, hranOut, Visit.ran.injEq, or_false,
        false_or] at hk
      rw [hk]
  | @refused outer inner i hpath err =>
    have hnone : (inward 0 outer ++ (.asked (0 + outer.length) i ::
        .refused (0 + outer.length) i err ::
          outward (.failed (Fault.ofRefusal err) : Ending ε ν) 0 outer)).countP Visit.isRun =
        0 := by
      simp [List.countP_append, countP_isRun_inward, countP_isRun_outward, Visit.isRun]
    refine ⟨by rw [hnone]; exact Nat.zero_le 1, ⟨fun hone => ?_, fun hall => ?_⟩, fun k hk => ?_⟩
    · rw [hnone] at hone
      cases hone
    · -- The layer that has refused the call has not admitted it.
      have hadmitted := hall outer.length i (by simp [hpath])
      simp only [List.mem_append, List.mem_cons, reduceCtorEq, hout, or_false] at hadmitted
      obtain ⟨k, j, hj, hdepth, -⟩ := mem_inward hadmitted
      obtain ⟨hlt, -⟩ := List.getElem?_eq_some_iff.mp hj
      have hk := Option.some.inj hdepth
      omega
    · simp only [List.mem_append, List.mem_cons, hranIn, hranOut, reduceCtorEq, or_false] at hk

/-- Who is not served has been refused by one layer and has not come further. -/
theorem Trip.unserved (h : Trip operation w.tries 0 path log e) (hsingle : w.Retryless path)
    (hnone : log.countP Visit.isRun = 0) :
    ∃ outer i inner err, path = outer ++ i :: inner ∧
      (∀ k j, outer[k]? = some j → .admitted k j ∈ log) ∧ .refused outer.length i err ∈ log ∧
      e = .failed (Fault.ofRefusal err) ∧
      (∀ v ∈ log, ∃ k, v.depth? = some k ∧ k ≤ outer.length) ∧
      ∀ v ∈ log, ∃ j, v.layer? = some j ∧ (j ∈ outer ∨ j = i) := by
  cases h.straight hsingle.tries_eq with
  | ran n =>
    rw [List.countP_append, List.countP_cons] at hnone
    simp [Visit.isRun] at hnone
  | @refused outer inner i hpath err =>
    rw [Nat.zero_add]
    have hplace : ∀ v ∈ inward 0 outer ++ (.asked outer.length i ::
        .refused outer.length i err ::
          outward (.failed (Fault.ofRefusal err) : Ending ε ν) 0 outer),
        ∃ k j, v.depth? = some k ∧ v.layer? = some j ∧ k ≤ outer.length ∧
          (j ∈ outer ∨ j = i) := by
      have hwithin {v : Visit} {k j : Nat} (hj : outer[k]? = some j)
          (hdepth : v.depth? = some (0 + k)) (hlayer : v.layer? = some j) :
          ∃ k j, v.depth? = some k ∧ v.layer? = some j ∧ k ≤ outer.length ∧
            (j ∈ outer ∨ j = i) := by
        obtain ⟨hlt, -⟩ := List.getElem?_eq_some_iff.mp hj
        exact ⟨0 + k, j, hdepth, hlayer, by omega, .inl (List.mem_of_getElem? hj)⟩
      intro v hv
      simp only [List.mem_append, List.mem_cons] at hv
      rcases hv with hv | rfl | rfl | hv
      · obtain ⟨k, j, hj, hdepth, hlayer⟩ := mem_inward hv
        exact hwithin hj hdepth hlayer
      · exact ⟨_, i, rfl, rfl, Nat.le_refl _, .inr rfl⟩
      · exact ⟨_, i, rfl, rfl, Nat.le_refl _, .inr rfl⟩
      · obtain ⟨-, k, j, hj, hdepth, hlayer⟩ := mem_outward hv
        exact hwithin hj hdepth hlayer
    refine ⟨outer, i, inner, err, hpath, fun k j hj => ?_, by simp, rfl, fun v hv => ?_,
      fun v hv => ?_⟩
    · have hin : .admitted (0 + k) j ∈ inward 0 outer := admitted_mem_inward hj
      rw [Nat.zero_add] at hin
      exact List.mem_append_left _ hin
    · obtain ⟨k, -, hdepth, -, hle, -⟩ := hplace v hv
      exact ⟨k, hdepth, hle⟩
    · obtain ⟨-, j, -, hlayer, -, hj⟩ := hplace v hv
      exact ⟨j, hlayer, hj⟩

end Trips

namespace World

/-- **A stack of layers is transparent.** A call goes its way in legs, whether it blocks or
suspends, and whatever others do in the meantime, its visits are those of a transparent stack when
it has ended. -/
theorem layers_transparent [Timer] (operation : Nat → Run ε ν) (path : List Nat) {w : World ε ν}
    (hw : w.Ranged) :
    (∃ log stand, stand.ending? = some (call operation path w).2 ∧
      Journey operation nobody ⟨w, .comes path, []⟩ log ⟨(call operation path w).1, stand, []⟩) ∧
    ∀ others : World ε ν → World ε ν → Prop,
      (∀ m e, Underway operation others path w m (.inl e) →
        ∃ log stand, stand.ending? = some e ∧
          Journey operation others ⟨w, .comes path, []⟩ log ⟨m, stand, []⟩) ∧
      ((∀ w m, others w m → Reaches (fun _ => True) w m) →
        ∀ log m stand e,
          Journey operation others ⟨w, .comes path, []⟩ log ⟨m, stand, []⟩ →
          stand.ending? = some e → Transparent operation others path w m log e) := by
  refine ⟨call_journey operation path w [], fun others => ⟨fun m e hover => ?_,
    fun hothers log m stand e hcame hending => ?_⟩⟩
  · obtain ⟨log, stand, inside, hstand, hcame⟩ := hover.journey
    cases hstand with
    | ended hending => exact ⟨log, stand, hending, hcame⟩
  · have htrip := hcame.trip hothers hending (hcame.unbroken hothers hw nofun)
    refine
      { once := fun h => (htrip.once h).1
        ran_iff := fun h => (htrip.once h).2.1
        own := fun h => (htrip.once h).2.2
        unserved := fun h hnone => ?_
        refusal := fun k i err => hcame.refusal hothers
        bounded := htrip.runs_le
        decided := htrip.decided
        outside := fun outer i inner hpath => htrip.outside hpath
        inside := fun outer r between b inner hpath => htrip.inside hpath }
    obtain ⟨outer, i, inner, err, hpath, hadmitted, hrefused, he, hdepth, hlayer⟩ :=
      htrip.unserved h hnone
    refine ⟨outer, i, inner, err, hpath, hadmitted, hrefused, he, hdepth,
      fun j houter hj hkept => ?_⟩
    refine hcame.untouched hothers hkept fun v hv hvj => ?_
    obtain ⟨j', hlayer, hwhere⟩ := hlayer v hv
    rw [hvj] at hlayer
    cases hlayer
    rcases hwhere with hmem | rfl
    · exact houter hmem
    · exact hj rfl

/-- A retry with two attempts, a limiter with one permission a second, a breaker that refuses
everybody, one that refuses nobody, and an adaptive bulkhead. -/
def gateway : World Error Nat :=
  let pace : Limiter.Config :=
    { limitForPeriod := 1, refreshPeriod := .ofSeconds 1, timeout := .zero }
  let window : Window := { calls := .count (.empty 100), size := 100, minimumCalls := 100 }
  let cell (state : Breaker.State) : Breaker.Cell :=
    { state, generation := 0, window, enteredAt := 0, openUntil := 0, attempts := 0, probes := 10 }
  { layers :=
      [.retry { name := "again", config := { maxAttempts := 2 } },
        .limiter { name := "pace", config := pace, origin := 0, permissions := 1 },
        .breaker { name := "barred", config := {}, cell := cell .forcedOpen },
        .breaker { name := "line", config := {}, cell := cell .closed },
        .adaptive
          { name := "tide", config := {}, lastAdjustment := 0, window
            bulkhead := { name := "tide", config := {}, available := 25 } }] }

/-- An operation of which only the first run fails. -/
def faltering (n : Nat) : Run Error Nat :=
  { ending := if n = 0 then .failed .concurrentModification else .returned n }

/-- The second attempt succeeds. -/
theorem gateway_transparent :
    ∃ log m, Transparent faltering nobody [4, 0, 3] gateway m log (.returned 1) ∧
      (([4, 0, 3] : List Nat).map gateway.tries).prod = 2 := by
  have hranged : gateway.Ranged := by
    intro i layer hi
    have hlayer := List.mem_of_getElem? hi
    simp only [gateway, List.mem_cons, List.not_mem_nil, or_false] at hlayer
    rcases hlayer with rfl | rfl | rfl | rfl | rfl
    · exact trivial
    · exact trivial
    · exact trivial
    · exact trivial
    · exact ⟨by decide, by decide, by decide, ⟨by decide⟩, by decide⟩
  obtain ⟨⟨log, stand, hending, hcame⟩, hall⟩ := layers_transparent faltering [4, 0, 3] hranged
  obtain ⟨-, htransparent⟩ := hall nobody
  have hreturned : (call faltering [4, 0, 3] gateway).2 = .returned 1 := by decide +kernel
  rw [hreturned] at hending
  exact ⟨log, _, htransparent (fun _ _ h => h.elim) log _ stand _ hcame hending, by decide +kernel⟩

/-- The retry makes two attempts, and the breaker inside of it is asked once: the limiter between
them refuses the second one. A breaker around an operation that panics has let the call in and is
told no outcome of it. -/
theorem gateway_asks_once :
    let trace : List Note := (call faltering [0, 1, 2] gateway).1.trace
    let crash := call (fun _ => { ending := .panicked }) [3] gateway
    .reported 0 (.retry (.error 2 (Error.requestNotPermitted "pace").message)) ∈ trace ∧
      trace.count (.reported 2 (.breaker .callNotPermitted)) = 1 ∧
      crash.2 = .panicked ∧ crash.1.trace = [.ran 0] := by
  intro trace crash
  refine ⟨?_, ?_, ?_, ?_⟩ <;> decide +kernel

end World

end FaultTolerance.Stack
