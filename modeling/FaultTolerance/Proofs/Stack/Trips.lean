import Mathlib.Algebra.BigOperators.Group.List.Basic
import FaultTolerance.Proofs.Stack.Journey

/-! What the visits of a whole call look like.

A call comes to a layer, which refuses it or lets it in. A layer that has let it in makes one
attempt, and a retry another one after each attempt but the last (`Rounds`); then the call is let
out. So its visits nest as its layers do (`Trip`). A journey that has come to its end is such a
trip, whatever others have done in the meantime (**`Journey.trip`**), and what is visited how often
is proved of trips, by induction on the layers. -/
namespace FaultTolerance.Stack
variable {ε ν : Type}

/-! ### Visits -/

def Visit.isRun : Visit → Bool
  | ran _ => true
  | _ => false

/-- How many layers are outside of it. The operation is inside of all of them. -/
def Visit.depth? : Visit → Option Nat
  | asked depth _ | admitted depth _ | refused depth _ _ | left depth _ | again depth _
  | abandoned depth _ | cancelled depth _ => some depth
  | ran _ => none

def Visit.layer? : Visit → Option Nat
  | asked _ layer | admitted _ layer | refused _ layer _ | left _ layer | again _ layer
  | abandoned _ layer | cancelled _ layer => some layer
  | ran _ => none

def Visit.isRefusalAt (depth : Nat) : Visit → Bool
  | refused k _ _ => k = depth
  | _ => false

/-- Whether one of so many layers refuses the call. -/
def Visit.isRefusalWithin (depth count : Nat) : Visit → Bool
  | refused k _ _ => depth ≤ k && k < depth + count
  | _ => false

/-- Whether the call comes to what is so many layers in: the next layer on its path, or its
operation. -/
def Visit.comesTo (depth : Nat) : List Nat → Visit → Bool
  | i :: _, v => v == asked depth i
  | [], v => v.isRun

/-- Whether a layer lets the call out for good. -/
def Visit.isParting : Visit → Bool
  | left _ _ | abandoned _ _ => true
  | _ => false

/-- How a layer lets a call out that ends like this. -/
def Visit.parting (depth layer : Nat) : Ending ε ν → Visit
  | .panicked => abandoned depth layer
  | .returned _ | .failed _ => left depth layer

theorem Visit.parting_depth (depth layer : Nat) (e : Ending ε ν) :
    (parting depth layer e).depth? = some depth := by
  cases e <;> rfl

theorem Visit.parting_layer (depth layer : Nat) (e : Ending ε ν) :
    (parting depth layer e).layer? = some layer := by
  cases e <;> rfl

theorem Visit.parting_isParting (depth layer : Nat) (e : Ending ε ν) :
    (parting depth layer e).isParting := by
  cases e <;> rfl

theorem Visit.depth_isRefusalAt {depth : Nat} {v : Visit} (h : v.isRefusalAt depth) :
    v.depth? = some depth := by
  cases v with
  | refused k _ _ => exact congrArg some (of_decide_eq_true h)
  | asked _ _ | admitted _ _ | left _ _ | again _ _ | abandoned _ _ | cancelled _ _ | ran _ =>
    cases h

theorem Visit.countP_isRefusalWithin (depth count : Nat) (log : List Visit) :
    log.countP (isRefusalWithin depth (count + 1)) =
      log.countP (isRefusalAt depth) + log.countP (isRefusalWithin (depth + 1) count) := by
  induction log with
  | nil => rfl
  | cons v log ih =>
    have hv : (if v.isRefusalWithin depth (count + 1) then 1 else 0) =
        (if v.isRefusalAt depth then 1 else 0) +
          if v.isRefusalWithin (depth + 1) count then 1 else 0 := by
      cases v with
      | refused k _ _ =>
        simp only [isRefusalWithin, isRefusalAt, Bool.and_eq_true, decide_eq_true_eq]
        repeat' split
        all_goals omega
      | asked _ _ | admitted _ _ | left _ _ | again _ _ | abandoned _ _ | cancelled _ _ | ran _ =>
        rfl
    simp only [List.countP_cons, ih, hv]
    omega

/-- Nobody comes further in by a visit to a layer. -/
theorem Visit.not_comesTo {v : Visit} {k depth : Nat} (hv : v.depth? = some k) (hk : k < depth)
    (path : List Nat) : v.comesTo depth path = false := by
  cases path with
  | nil =>
    cases v with
    | ran _ => cases hv
    | asked _ _ | admitted _ _ | refused _ _ _ | left _ _ | again _ _ | abandoned _ _
    | cancelled _ _ => rfl
  | cons i inner =>
    refine beq_eq_false_iff_ne.mpr fun h => ?_
    subst h
    cases hv
    exact Nat.lt_irrefl _ hk

/-! ### Trips -/

/-- Attempts that have been followed by another one, each of them. -/
inductive Rounds (attempt : List Visit → Ending ε ν → Prop) (again : Visit) :
    Nat → List Visit → Prop
  | none : Rounds attempt again 0 []
  | more {n : Nat} {rounds log : List Visit} {e : Ending ε ν}
    (h : Rounds attempt again n rounds) (hattempt : attempt log e) (hover : e ≠ .panicked) :
    Rounds attempt again (n + 1) (rounds ++ (log ++ [again]))

/-- What a call is to a layer that makes so many attempts at most. -/
inductive Passage [Fault ε] (attempt : List Visit → Ending ε ν → Prop) (tries depth layer : Nat) :
    List Visit → Ending ε ν → Prop
  | refused (e : Error) :
    Passage attempt tries depth layer [.asked depth layer, .refused depth layer e]
      (.failed (Fault.ofRefusal e))
  | admitted {n : Nat} {rounds last : List Visit} {e : Ending ε ν}
    (hrounds : Rounds attempt (.again depth layer) n rounds) (hn : n < tries)
    (hlast : attempt last e) :
    Passage attempt tries depth layer
      (.asked depth layer :: .admitted depth layer ::
        (rounds ++ (last ++ [.parting depth layer e]))) e

/-- One run of the operation. -/
inductive Ran (operation : Nat → Run ε ν) : List Visit → Ending ε ν → Prop
  | once (n : Nat) : Ran operation [.ran n] (operation n).ending

/-- The visits of a call to the layers of a path, so many layers in, and how it ends there. -/
def Trip [Fault ε] (operation : Nat → Run ε ν) (tries : Nat → Nat) :
    Nat → List Nat → List Visit → Ending ε ν → Prop
  | _, [] => Ran operation
  | depth, i :: inner => Passage (Trip operation tries (depth + 1) inner) (tries i) depth i

/-- How many attempts are made inside of a layer at most. A retry makes one in any case. -/
def World.tries (w : World ε ν) (i : Nat) : Nat := max 1 (w.patience i)

/-! ### How often something is visited -/

section Rounds
variable {attempt : List Visit → Ending ε ν → Prop} {again : Visit} {n count : Nat}
  {rounds : List Visit} {p : Visit → Bool}

theorem Rounds.countP_eq (h : Rounds attempt again n rounds)
    (hattempt : ∀ log e, attempt log e → log.countP p = count) :
    rounds.countP p = n * (count + if p again then 1 else 0) := by
  induction h with
  | none => simp
  | @more n rounds log e _ hlog _ ih =>
    rw [List.countP_append, List.countP_append, ih, hattempt _ _ hlog, List.countP_singleton,
      Nat.succ_mul]

theorem Rounds.countP_le (h : Rounds attempt again n rounds)
    (hattempt : ∀ log e, attempt log e → log.countP p ≤ count) (hagain : p again = false) :
    rounds.countP p ≤ n * count := by
  induction h with
  | none => simp
  | @more n rounds log e _ hlog _ ih =>
    have hle := hattempt _ _ hlog
    rw [List.countP_append, List.countP_append, List.countP_singleton, hagain, Nat.succ_mul]
    simp only [Bool.false_eq_true, if_false]
    omega

/-- What holds of all visits of the attempts holds of those of all rounds. -/
theorem Rounds.forall_mem {Q : Visit → Prop} (h : Rounds attempt again n rounds)
    (hattempt : ∀ log e, attempt log e → e ≠ .panicked → ∀ v ∈ log, Q v)
    (hagain : 0 < n → Q again) :
    ∀ v ∈ rounds, Q v := by
  induction h with
  | none => exact nofun
  | @more n rounds log e _ hlog hover ih =>
    intro v hv
    simp only [List.mem_append, List.mem_singleton] at hv
    rcases hv with hv | hv | rfl
    · exact ih (fun _ => hagain (Nat.succ_pos _)) v hv
    · exact hattempt _ _ hlog hover v hv
    · exact hagain (Nat.succ_pos _)

end Rounds

section Trips
variable [Fault ε] {operation : Nat → Run ε ν} {tries : Nat → Nat} {depth n : Nat}
  {path : List Nat} {log : List Visit} {e : Ending ε ν}

/-- A trip that starts so many layers in stays there. -/
theorem Trip.depth_le (h : Trip operation tries depth path log e) :
    ∀ v ∈ log, ∀ k, v.depth? = some k → depth ≤ k := by
  induction path generalizing depth log e with
  | nil =>
    cases h with
    | once n =>
      intro v hv k hk
      cases List.mem_singleton.mp hv
      cases hk
  | cons i inner ih =>
    have hattempt : ∀ log e, Trip operation tries (depth + 1) inner log e → ∀ v ∈ log,
        ∀ k, v.depth? = some k → depth ≤ k :=
      fun log e hlog v hv k hk => Nat.le_of_succ_le (ih hlog v hv k hk)
    have hhere {v : Visit} (hv : v.depth? = some depth) (k : Nat) (hk : v.depth? = some k) :
        depth ≤ k := by
      rw [hv] at hk
      exact Nat.le_of_eq (Option.some.inj hk)
    cases h with
    | refused err =>
      intro v hv
      simp only [List.mem_cons, List.not_mem_nil, or_false] at hv
      rcases hv with rfl | rfl <;> exact hhere rfl
    | admitted hrounds hn hlast =>
      intro v hv
      simp only [List.mem_cons, List.mem_append, List.not_mem_nil, or_false] at hv
      rcases hv with rfl | rfl | hv | hv | rfl
      · exact hhere rfl
      · exact hhere rfl
      · exact hrounds.forall_mem (fun log e hlog _ => hattempt log e hlog) (fun _ => hhere rfl) v hv
      · exact hattempt _ _ hlast v hv
      · exact hhere (Visit.parting_depth ..)

/-- What is further out is not visited. -/
theorem Trip.countP_outside {p : Visit → Bool} {k : Nat} (hp : ∀ v, p v → v.depth? = some k)
    (hk : k < depth) (h : Trip operation tries depth path log e) : log.countP p = 0 := by
  refine List.countP_eq_zero.mpr fun v hv hpv => ?_
  have hle := h.depth_le v hv k (hp v hpv)
  omega

theorem Trip.count_outside {v : Visit} {k : Nat} (hv : v.depth? = some k) (hk : k < depth)
    (h : Trip operation tries depth path log e) : log.count v = 0 :=
  h.countP_outside (p := (· == v)) (fun u hu => by rw [eq_of_beq hu, hv]) hk

omit [Fault ε] in
/-- What is visited as often in each attempt is visited so often in all of them. -/
theorem Passage.countP_eq {attempt : List Visit → Ending ε ν → Prop} {i count : Nat}
    {rounds last : List Visit} {p : Visit → Bool}
    (hrounds : Rounds attempt (.again depth i) n rounds) (hlast : attempt last e)
    (hattempt : ∀ log e, attempt log e → log.countP p = count) :
    (Visit.asked depth i :: .admitted depth i ::
        (rounds ++ (last ++ [.parting depth i e]))).countP p =
      (if p (.asked depth i) then 1 else 0) + (if p (.admitted depth i) then 1 else 0) +
        n * (count + if p (.again depth i) then 1 else 0) + count +
          if p (.parting depth i e) then 1 else 0 := by
  simp only [List.countP_cons, List.countP_append, List.countP_nil, hrounds.countP_eq hattempt,
    hattempt _ _ hlast]
  omega

/-- A trip comes once to where it starts. -/
theorem Trip.comesTo_once (h : Trip operation tries depth path log e) :
    log.countP (Visit.comesTo depth path) = 1 := by
  cases path with
  | nil =>
    cases h with
    | once n => rfl
  | cons i inner =>
    have hattempt : ∀ log e, Trip operation tries (depth + 1) inner log e →
        log.countP (Visit.comesTo depth (i :: inner)) = 0 :=
      fun log e hlog => hlog.count_outside (v := .asked depth i) rfl (Nat.lt_succ_self _)
    cases h with
    | refused err => simp [Visit.comesTo]
    | admitted hrounds hn hlast =>
      rw [Passage.countP_eq hrounds hlast hattempt]
      cases e <;> simp [Visit.comesTo, Visit.parting]

/-! ### What a layer has seen in the end -/

/-- How many attempts are made inside of a layer: one for each admission and one for each time that
the call is sent in again. -/
def attemptsAt (depth layer : Nat) (log : List Visit) : Nat :=
  log.count (.admitted depth layer) + log.count (.again depth layer)

/-- The visits to a layer add up: every question is answered, every call that is let in is let out,
and every attempt comes to what is next further in. -/
structure Balanced (depth layer : Nat) (inner : List Nat) (log : List Visit) : Prop where
  answered : log.count (.asked depth layer) =
    log.count (.admitted depth layer) + log.countP (Visit.isRefusalAt depth)
  settled : log.count (.admitted depth layer) =
    log.count (.left depth layer) + log.count (.abandoned depth layer)
  inside : log.countP (Visit.comesTo (depth + 1) inner) = attemptsAt depth layer log

section Balanced
variable {layer : Nat} {inner : List Nat} {rest : List Visit}

theorem Balanced.append (h : Balanced depth layer inner log)
    (hrest : Balanced depth layer inner rest) :
    Balanced depth layer inner (log ++ rest) := by
  obtain ⟨hanswered, hsettled, hinside⟩ := h
  obtain ⟨hanswered', hsettled', hinside'⟩ := hrest
  simp only [attemptsAt] at hinside hinside'
  constructor <;> simp only [attemptsAt, List.count_append, List.countP_append] <;> omega

/-- Visits further out do not count. -/
theorem Balanced.of_outside
    (h : ∀ v ∈ log, ∃ k, v.depth? = some k ∧ k < depth) : Balanced depth layer inner log := by
  have hnone (v : Visit) (hv : v.depth? = some depth) : log.count v = 0 := by
    refine List.count_eq_zero.mpr fun hmem => ?_
    obtain ⟨k, hk, hlt⟩ := h v hmem
    rw [hv] at hk
    cases hk
    exact Nat.lt_irrefl _ hlt
  have hrefusals : log.countP (Visit.isRefusalAt depth) = 0 := by
    refine List.countP_eq_zero.mpr fun v hv hp => ?_
    obtain ⟨k, hk, hlt⟩ := h v hv
    rw [Visit.depth_isRefusalAt hp] at hk
    cases hk
    exact Nat.lt_irrefl _ hlt
  have hcomes : log.countP (Visit.comesTo (depth + 1) inner) = 0 := by
    refine List.countP_eq_zero.mpr fun v hv => ?_
    obtain ⟨k, hk, hlt⟩ := h v hv
    rw [Visit.not_comesTo hk (Nat.lt_succ_of_lt hlt)]
    exact Bool.false_ne_true
  have hasked := hnone (.asked depth layer) rfl
  have hadmitted := hnone (.admitted depth layer) rfl
  have hleft := hnone (.left depth layer) rfl
  have habandoned := hnone (.abandoned depth layer) rfl
  have hagain := hnone (.again depth layer) rfl
  refine ⟨?_, ?_, show _ = _ + _ from ?_⟩ <;> omega

omit [Fault ε] in
theorem Balanced.rounds {attempt : List Visit → Ending ε ν → Prop} {k i : Nat} {rounds : List Visit}
    (hattempt : ∀ log e, attempt log e → Balanced depth layer inner log) (hk : k < depth)
    (h : Rounds attempt (.again k i) n rounds) : Balanced depth layer inner rounds := by
  induction h with
  | none => exact .of_outside nofun
  | more _ hlog _ ih =>
    refine ih.append ((hattempt _ _ hlog).append (.of_outside fun v hv => ?_))
    cases List.mem_singleton.mp hv
    exact ⟨k, rfl, hk⟩

end Balanced

/-- The outermost layer of a trip. -/
theorem Trip.balanced_outermost {i : Nat} {inner : List Nat}
    (h : Trip operation tries depth (i :: inner) log e) : Balanced depth i inner log := by
  have hcomes {v : Visit} (hv : v.depth? = some depth) : v.comesTo (depth + 1) inner = false :=
    Visit.not_comesTo hv (Nat.lt_succ_self _) inner
  cases h with
  | refused err =>
    constructor
    · simp [Visit.isRefusalAt]
    · simp
    · simp [attemptsAt, hcomes (v := .asked depth i) rfl, hcomes (v := .refused depth i err) rfl]
  | @admitted n rounds last e hrounds hn hlast =>
    have hvisits (v : Visit) (hv : v.depth? = some depth) :=
      Passage.countP_eq hrounds hlast (p := (· == v)) fun _ _ hlog =>
        hlog.count_outside hv (Nat.lt_succ_self _)
    have hrefusals := Passage.countP_eq hrounds hlast (p := Visit.isRefusalAt depth)
      fun _ _ hlog => hlog.countP_outside (fun _ => Visit.depth_isRefusalAt) (Nat.lt_succ_self _)
    have hinside := Passage.countP_eq hrounds hlast fun _ _ hlog => hlog.comesTo_once
    constructor
    · rw [hrefusals, List.count, List.count, hvisits _ rfl, hvisits _ rfl]
      cases e <;> simp [Visit.parting, Visit.isRefusalAt]
    · rw [List.count, List.count, List.count, hvisits _ rfl, hvisits _ rfl, hvisits _ rfl]
      cases e <;> simp [Visit.parting]
    · rw [hinside, attemptsAt, List.count, List.count, hvisits _ rfl, hvisits _ rfl,
        hcomes (v := .asked depth i) rfl, hcomes (v := .admitted depth i) rfl,
        hcomes (v := .again depth i) rfl, hcomes (Visit.parting_depth ..)]
      cases e <;> simp [Visit.parting] <;> omega

/-- **The visits to every layer of a trip add up.** -/
theorem Trip.balanced (h : Trip operation tries depth path log e) {outer inner : List Nat} {i : Nat}
    (hpath : path = outer ++ i :: inner) : Balanced (depth + outer.length) i inner log := by
  induction outer generalizing depth path log e with
  | nil =>
    subst hpath
    exact h.balanced_outermost
  | cons j outer ih =>
    subst hpath
    have hdepth : depth + (j :: outer).length = depth + 1 + outer.length := by
      simp only [List.length_cons]
      omega
    have hattempt : ∀ log e, Trip operation tries (depth + 1) (outer ++ i :: inner) log e →
        Balanced (depth + 1 + outer.length) i inner log := fun log e hlog => ih hlog rfl
    have hout {v : Visit} (hv : v.depth? = some depth) :
        Balanced (depth + 1 + outer.length) i inner [v] := by
      refine .of_outside fun u hu => ?_
      cases List.mem_singleton.mp hu
      exact ⟨depth, hv, by omega⟩
    rw [hdepth]
    cases h with
    | refused err =>
      exact (hout (v := .asked depth j) rfl).append (hout (v := .refused depth j err) rfl)
    | admitted hrounds hn hlast =>
      exact (hout (v := .asked depth j) rfl).append ((hout (v := .admitted depth j) rfl).append
        ((Balanced.rounds hattempt (by omega) hrounds).append
          ((hattempt _ _ hlast).append (hout (Visit.parting_depth ..)))))

/-- A layer that makes one attempt only sends nobody in again. -/
theorem Trip.one_lt_of_again {k i : Nat} (h : Trip operation tries depth path log e)
    (hagain : .again k i ∈ log) : 1 < tries i := by
  induction path generalizing depth log e with
  | nil =>
    cases h with
    | once n => cases List.mem_singleton.mp hagain
  | cons j inner ih =>
    cases h with
    | refused err => simp at hagain
    | @admitted n rounds last e hrounds hn hlast =>
      have hparting : Visit.again k i ≠ .parting depth j e := by cases e <;> nofun
      simp only [List.mem_cons, List.mem_append, reduceCtorEq, hparting, List.not_mem_nil,
        or_false, false_or] at hagain
      rcases hagain with hagain | hagain
      · refine hrounds.forall_mem (Q := fun v => v = .again k i → 1 < tries i) ?_ ?_ _ hagain rfl
        · rintro log e hlog - v hv rfl
          exact ih hlog hv
        · rintro hpos hsame
          cases hsame
          omega
      · exact ih hlast hagain

/-- A layer is abandoned only by a call that panics. -/
theorem Trip.panicked_of_abandoned {k i : Nat} (h : Trip operation tries depth path log e)
    (habandoned : .abandoned k i ∈ log) : e = .panicked := by
  induction path generalizing depth log e with
  | nil =>
    cases h with
    | once n => cases List.mem_singleton.mp habandoned
  | cons j inner ih =>
    cases h with
    | refused err => simp at habandoned
    | @admitted n rounds last e hrounds hn hlast =>
      simp only [List.mem_cons, List.mem_append, reduceCtorEq, List.not_mem_nil, or_false,
        false_or] at habandoned
      rcases habandoned with habandoned | habandoned | hparting
      · refine absurd rfl (hrounds.forall_mem (Q := (· ≠ .abandoned k i)) ?_ nofun _ habandoned)
        rintro log e hlog hover v hv rfl
        exact hover (ih hlog hv)
      · exact ih hlast habandoned
      · cases e with
        | panicked => rfl
        | returned _ | failed _ => cases hparting

/-- **The operation runs no more often than all retries together allow.** -/
theorem Trip.runs_le (h : Trip operation tries depth path log e) :
    log.countP Visit.isRun ≤ (path.map tries).prod := by
  induction path generalizing depth log e with
  | nil =>
    cases h with
    | once n => exact Nat.le_refl 1
  | cons i inner ih =>
    rw [List.map_cons, List.prod_cons]
    cases h with
    | refused err => exact Nat.zero_le _
    | @admitted n rounds last e hrounds hn hlast =>
      have hrounds := hrounds.countP_le (fun _ _ hlog => ih hlog) rfl
      have hlast := ih hlast
      have hparting : [Visit.parting depth i e].countP Visit.isRun = 0 := by cases e <;> rfl
      have hall : (Visit.asked depth i :: .admitted depth i ::
          (rounds ++ (last ++ [.parting depth i e]))).countP Visit.isRun =
            rounds.countP Visit.isRun + last.countP Visit.isRun := by
        simp [List.countP_append, hparting, Visit.isRun]
      calc _ = rounds.countP Visit.isRun + last.countP Visit.isRun := hall
        _ ≤ n * (inner.map tries).prod + (inner.map tries).prod := Nat.add_le_add hrounds hlast
        _ = (n + 1) * (inner.map tries).prod := (Nat.succ_mul ..).symm
        _ ≤ tries i * (inner.map tries).prod := Nat.mul_le_mul_right _ hn

/-- What decides how a call ends: a run of the operation, or a refusal. -/
inductive Decides (operation : Nat → Run ε ν) : Visit → Ending ε ν → Prop
  | ran (n : Nat) : Decides operation (.ran n) (operation n).ending
  | refused (depth layer : Nat) (e : Error) :
    Decides operation (.refused depth layer e) (.failed (Fault.ofRefusal e))

/-- **A call ends with what its last attempt has come to**: after that it is only let out. -/
theorem Trip.decided (h : Trip operation tries depth path log e) :
    ∃ before last after, log = before ++ last :: after ∧ Decides operation last e ∧
      ∀ v ∈ after, v.isParting := by
  induction path generalizing depth log e with
  | nil =>
    cases h with
    | once n => exact ⟨[], _, [], rfl, .ran n, nofun⟩
  | cons i inner ih =>
    cases h with
    | refused err => exact ⟨[_], _, [], rfl, .refused .., nofun⟩
    | @admitted n rounds last e hrounds hn hlast =>
      obtain ⟨before, decision, after, rfl, hdecides, hafter⟩ := ih hlast
      refine ⟨.asked depth i :: .admitted depth i :: (rounds ++ before), decision,
        after ++ [.parting depth i e], ?_, hdecides, fun v hv => ?_⟩
      · simp only [List.cons_append, List.append_assoc]
      · rcases List.mem_append.mp hv with hv | hv
        · exact hafter v hv
        · rw [List.mem_singleton.mp hv]
          exact Visit.parting_isParting ..

/-! ### Between two layers -/

/-- **What comes to the first of some layers that send nobody in again gets past the last of them,
unless one of them refuses it.** -/
theorem Trip.comesTo_past (h : Trip operation tries 0 path log e) {outer between inner : List Nat}
    (hpath : path = outer ++ (between ++ inner)) (hsingle : ∀ i ∈ between, tries i = 1) :
    log.countP (Visit.comesTo outer.length (between ++ inner)) =
      log.countP (Visit.comesTo (outer.length + between.length) inner) +
        log.countP (Visit.isRefusalWithin outer.length between.length) := by
  induction between generalizing outer with
  | nil =>
    have hnone : log.countP (Visit.isRefusalWithin outer.length 0) = 0 := by
      refine List.countP_eq_zero.mpr fun v _ hv => ?_
      cases v with
      | refused k _ _ =>
        simp only [Visit.isRefusalWithin, Bool.and_eq_true, decide_eq_true_eq] at hv
        omega
      | asked _ _ | admitted _ _ | left _ _ | again _ _ | abandoned _ _ | cancelled _ _ | ran _ =>
        cases hv
    rw [List.length_nil, hnone]
    rfl
  | cons j between ih =>
    have hbalanced : Balanced outer.length j (between ++ inner) log := by
      have hadd := h.balanced hpath
      rwa [Nat.zero_add] at hadd
    have hagain : log.count (.again outer.length j) = 0 := by
      refine List.count_eq_zero.mpr fun hmem => ?_
      have hmany := h.one_lt_of_again hmem
      rw [hsingle j List.mem_cons_self] at hmany
      exact Nat.lt_irrefl _ hmany
    have hpath' : path = (outer ++ [j]) ++ (between ++ inner) := by simpa using hpath
    have hrest := ih hpath' fun i hi => hsingle i (List.mem_cons_of_mem _ hi)
    have hlength : (outer ++ [j]).length = outer.length + 1 := List.length_append
    have hdepth : outer.length + (j :: between).length = outer.length + 1 + between.length := by
      rw [List.length_cons]
      omega
    have hhere : log.countP (Visit.comesTo outer.length (j :: between ++ inner)) =
        log.count (.asked outer.length j) := rfl
    rw [hlength, hbalanced.inside, attemptsAt, hagain] at hrest
    rw [hhere, hbalanced.answered, hdepth, List.length_cons, Visit.countP_isRefusalWithin]
    omega

/-! ### Without retries -/

/-- The way in through all layers. -/
def inward : Nat → List Nat → List Visit
  | _, [] => []
  | depth, i :: inner => .asked depth i :: .admitted depth i :: inward (depth + 1) inner

/-- The way out of all layers. -/
def outward (e : Ending ε ν) : Nat → List Nat → List Visit
  | _, [] => []
  | depth, i :: inner => outward e (depth + 1) inner ++ [.parting depth i e]

/-- A way straight in and straight out again. -/
inductive Straight (operation : Nat → Run ε ν) (depth : Nat) (path : List Nat) :
    List Visit → Ending ε ν → Prop
  | ran (n : Nat) :
    Straight operation depth path
      (inward depth path ++ (.ran n :: outward (operation n).ending depth path))
      (operation n).ending
  | refused {outer inner : List Nat} {i : Nat} (hpath : path = outer ++ i :: inner) (e : Error) :
    Straight operation depth path
      (inward depth outer ++ (.asked (depth + outer.length) i ::
        .refused (depth + outer.length) i e ::
          outward (.failed (Fault.ofRefusal e) : Ending ε ν) depth outer))
      (.failed (Fault.ofRefusal e))

/-- **The way through layers that send nobody in again is straight.** -/
theorem Trip.straight (hsingle : ∀ i ∈ path, tries i = 1)
    (h : Trip operation tries depth path log e) : Straight operation depth path log e := by
  induction path generalizing depth log e with
  | nil =>
    cases h with
    | once n => exact .ran n
  | cons i inner ih =>
    cases h with
    | refused err => exact .refused (show i :: inner = [] ++ i :: inner from rfl) err
    | @admitted n rounds last e hrounds hn hlast =>
      rw [hsingle i List.mem_cons_self] at hn
      have hnone : rounds = [] := by
        cases hrounds with
        | none => rfl
        | more _ _ _ => omega
      subst hnone
      have hinner := ih (fun j hj => hsingle j (List.mem_cons_of_mem _ hj)) hlast
      cases hinner with
      | ran n =>
        have hway : Straight operation depth (i :: inner) _ _ := .ran n
        simpa [inward, outward] using hway
      | @refused outer rest j hpath err =>
        have hwhere : i :: inner = (i :: outer) ++ j :: rest := congrArg (i :: ·) hpath
        have hway : Straight operation depth (i :: inner) _ _ := .refused hwhere err
        have hdepth : depth + (i :: outer).length = depth + 1 + outer.length := by
          simp only [List.length_cons]
          omega
        rw [hdepth] at hway
        simpa [inward, outward] using hway

section Straight
variable {v : Visit} {k j : Nat}

omit [Fault ε] in
theorem mem_inward (hv : v ∈ inward depth path) :
    ∃ k j, path[k]? = some j ∧ v.depth? = some (depth + k) ∧ v.layer? = some j := by
  induction path generalizing depth with
  | nil => cases hv
  | cons i inner ih =>
    simp only [inward, List.mem_cons] at hv
    rcases hv with rfl | rfl | hv
    · exact ⟨0, i, rfl, rfl, rfl⟩
    · exact ⟨0, i, rfl, rfl, rfl⟩
    · obtain ⟨k, j, hj, hdepth, hlayer⟩ := ih hv
      exact ⟨k + 1, j, hj, hdepth.trans (congrArg some (by omega)), hlayer⟩

omit [Fault ε] in
theorem mem_outward (hv : v ∈ outward e depth path) :
    v.isParting ∧ ∃ k j, path[k]? = some j ∧ v.depth? = some (depth + k) ∧ v.layer? = some j := by
  induction path generalizing depth with
  | nil => cases hv
  | cons i inner ih =>
    rcases List.mem_append.mp hv with hv | hv
    · obtain ⟨hparting, k, j, hj, hdepth, hlayer⟩ := ih hv
      exact ⟨hparting, k + 1, j, hj, hdepth.trans (congrArg some (by omega)), hlayer⟩
    · rw [List.mem_singleton.mp hv]
      exact ⟨Visit.parting_isParting .., 0, i, rfl, Visit.parting_depth .., Visit.parting_layer ..⟩

omit [Fault ε] in
theorem admitted_mem_inward (hj : path[k]? = some j) :
    .admitted (depth + k) j ∈ inward depth path := by
  induction path generalizing depth k with
  | nil => simp at hj
  | cons i inner ih =>
    cases k with
    | zero =>
      cases hj
      simp [inward]
    | succ k =>
      have hrest : .admitted (depth + 1 + k) j ∈ inward (depth + 1) inner := ih hj
      have hdepth : depth + 1 + k = depth + (k + 1) := by omega
      rw [hdepth] at hrest
      exact List.mem_cons_of_mem _ (List.mem_cons_of_mem _ hrest)

omit [Fault ε] in
theorem not_isRun_of_depth (hv : v.depth? = some k) : v.isRun = false := by
  cases v with
  | ran _ => cases hv
  | asked _ _ | admitted _ _ | refused _ _ _ | left _ _ | again _ _ | abandoned _ _
  | cancelled _ _ => rfl

omit [Fault ε] in
theorem countP_isRun_inward : (inward depth path).countP Visit.isRun = 0 := by
  refine List.countP_eq_zero.mpr fun v hv => ?_
  obtain ⟨k, j, -, hdepth, -⟩ := mem_inward hv
  rw [not_isRun_of_depth hdepth]
  exact Bool.false_ne_true

omit [Fault ε] in
theorem countP_isRun_outward : (outward e depth path).countP Visit.isRun = 0 := by
  refine List.countP_eq_zero.mpr fun v hv => ?_
  obtain ⟨-, k, j, -, hdepth, -⟩ := mem_outward hv
  rw [not_isRun_of_depth hdepth]
  exact Bool.false_ne_true

end Straight

/-! ### Journeys -/

/-- The visits that have brought a call inside of these layers, each of which may have sent it in
again already. -/
inductive Inside (operation : Nat → Run ε ν) (tries : Nat → Nat) (path : List Nat) :
    List Frame → List Visit → Prop
  | outside : Inside operation tries path [] []
  | within {frames : List Frame} {log rounds : List Visit} {h : Hold} {i n : Nat}
    {inner : List Nat} (hinside : Inside operation tries path frames log)
    (hpath : path.drop frames.length = i :: inner)
    (hrounds : Rounds (Trip operation tries (frames.length + 1) inner) (.again frames.length i)
      n rounds)
    (hn : n < tries i) (hhold : ∀ count, h = .attempts count → n ≤ count) :
    Inside operation tries path (⟨i, inner, h⟩ :: frames)
      (log ++ (.asked frames.length i :: .admitted frames.length i :: rounds))

/-- The visits that have brought a call to where it stands. -/
inductive Came (operation : Nat → Run ε ν) (tries : Nat → Nat) (path : List Nat) :
    Stand ε ν → List Frame → List Visit → Prop
  | comes {frames : List Frame} {log : List Visit} {rest : List Nat}
    (hinside : Inside operation tries path frames log) (hpath : path.drop frames.length = rest) :
    Came operation tries path (.comes rest) frames log
  | waits {frames : List Frame} {log : List Visit} {i : Nat} {inner : List Nat} {wait : Wait}
    (hinside : Inside operation tries path frames log)
    (hpath : path.drop frames.length = i :: inner) :
    Came operation tries path (.waits i inner wait) frames (log ++ [.asked frames.length i])
  | pauses {frames : List Frame} {log : List Visit}
    (hinside : Inside operation tries path frames log) :
    Came operation tries path .pauses frames log
  | operates {frames : List Frame} {log : List Visit} (n : Nat)
    (hinside : Inside operation tries path frames log) (hpath : path.drop frames.length = []) :
    Came operation tries path (.operates (operation n)) frames (log ++ [.ran n])
  /-- It has come to an end further in. -/
  | turned {frames : List Frame} {log trip : List Visit} {stand : Stand ε ν} {e : Ending ε ν}
    (hinside : Inside operation tries path frames log)
    (htrip : Trip operation tries frames.length (path.drop frames.length) trip e)
    (hstand : stand = .ofEnding e) :
    Came operation tries path stand frames (log ++ trip)
  | gone {frames : List Frame} {log : List Visit} {cause : Cause} (hcause : cause ≠ .panicked) :
    Came operation tries path (.unwinds cause) frames log

section Journeys
variable {others : World ε ν → World ε ν → Prop} {start : World ε ν} {p q : Point ε ν}
  {visits : List Visit}

omit [Fault ε] in
theorem tail_of_drop {k i : Nat} {inner : List Nat} (h : path.drop k = i :: inner) :
    path.drop (k + 1) = inner := by
  rw [← List.drop_drop, h]
  rfl

/-- A call that has been let in stands inside of one more layer. -/
theorem Inside.enter {frames : List Frame} {i : Nat} {inner : List Nat} {h : Hold}
    (hinside : Inside operation start.tries path frames log)
    (hpath : path.drop frames.length = i :: inner) :
    Inside operation start.tries path (⟨i, inner, h⟩ :: frames)
      (log ++ [.asked frames.length i, .admitted frames.length i]) :=
  .within hinside hpath .none (Nat.lt_of_lt_of_le Nat.zero_lt_one (Nat.le_max_left ..))
    fun _ _ => Nat.zero_le _

theorem Came.answered {frames : List Frame} {i : Nat} {inner : List Nat}
    (hinside : Inside operation start.tries path frames log)
    (hpath : path.drop frames.length = i :: inner) (w : World ε ν) (entry : Entry) :
    Came operation start.tries path (Point.answered w i inner frames entry).stand
      (Point.answered w i inner frames entry).frames
      (log ++ (.asked frames.length i :: Visit.answered frames.length i entry)) := by
  cases entry with
  | admitted h => exact .comes (hinside.enter hpath) (tail_of_drop hpath)
  | refused e =>
    have htrip : Trip operation start.tries frames.length (path.drop frames.length)
        [.asked frames.length i, .refused frames.length i e] (.failed (Fault.ofRefusal e)) := by
      rw [hpath]
      exact .refused e
    exact .turned hinside htrip rfl
  | waiting wait => exact .waits hinside hpath

/-- A call that a layer lets out has made one trip more. -/
theorem Inside.leave {frames : List Frame} {i : Nat} {inner : List Nat} {h : Hold}
    {trip : List Visit} (hinside : Inside operation tries path (⟨i, inner, h⟩ :: frames) log)
    (htrip : Trip operation tries (frames.length + 1) (path.drop (frames.length + 1)) trip e) :
    ∃ before whole, Inside operation tries path frames before ∧
      Trip operation tries frames.length (path.drop frames.length) whole e ∧
      log ++ (trip ++ [.parting frames.length i e]) = before ++ whole := by
  cases hinside with
  | @within _ log rounds _ _ n _ hinside hpath hrounds hn hhold =>
    rw [tail_of_drop hpath] at htrip
    refine ⟨log, _, hinside, ?_, List.append_assoc ..⟩
    rw [hpath]
    exact .admitted hrounds hn htrip

/-- A call that a retry sends in again has made one round more. -/
theorem Inside.again {frames : List Frame} {i count : Nat} {inner : List Nat} {trip : List Visit}
    (hinside : Inside operation start.tries path (⟨i, inner, .attempts count⟩ :: frames) log)
    (htrip : Trip operation start.tries (frames.length + 1) (path.drop (frames.length + 1)) trip e)
    (hover : e ≠ .panicked) (hcount : count + 1 < start.patience i) :
    Inside operation start.tries path (⟨i, inner, .attempts (count + 1)⟩ :: frames)
      (log ++ (trip ++ [.again frames.length i])) := by
  cases hinside with
  | @within _ log rounds _ _ n _ hinside hpath hrounds hn hhold =>
    rw [tail_of_drop hpath] at htrip
    have hle := hhold count rfl
    have hlt : n + 1 < start.tries i :=
      Nat.lt_of_le_of_lt (Nat.succ_le_succ hle) (Nat.lt_of_lt_of_le hcount (Nat.le_max_right ..))
    have hmore := Inside.within (h := .attempts (count + 1)) hinside hpath
      (hrounds.more htrip hover) hlt fun _ h => by
        cases h
        omega
    rwa [List.append_assoc]

omit [Fault ε] in
theorem Stand.ofEnding_leaves {outcome : Except ε ν} (h : .leaves outcome = ofEnding e) :
    e ≠ .panicked ∧ ∀ depth layer, Visit.parting depth layer e = .left depth layer := by
  cases e with
  | returned _ | failed _ => exact ⟨nofun, fun _ _ => rfl⟩
  | panicked => cases h

omit [Fault ε] in
theorem Stand.ofEnding_unwinds {cause : Cause} (h : .unwinds cause = (ofEnding e : Stand ε ν)) :
    cause = .panicked ∧ e = .panicked := by
  cases e with
  | returned _ | failed _ => cases h
  | panicked =>
    cases h
    exact ⟨rfl, rfl⟩

/-- One leg further. -/
theorem Came.leg [Timer] (hpatience : ∀ i, q.world.patience i = start.patience i)
    (hleg : Leg operation others p visits q)
    (hcame : Came operation start.tries path p.stand p.frames log) :
    Came operation start.tries path q.stand q.frames (log ++ visits) := by
  cases hleg with
  | enters hdoor =>
    cases hcame with
    | comes hinside hpath => exact .answered hinside hpath _ _
    | turned _ _ hstand => rcases Stand.eq_ofEnding hstand with ⟨_, h⟩ | h <;> cases h
  | resumes hdoor =>
    cases hcame with
    | waits hinside hpath =>
      rw [List.append_assoc]
      exact .answered hinside hpath _ _
    | turned _ _ hstand => rcases Stand.eq_ofEnding hstand with ⟨_, h⟩ | h <;> cases h
  | @cutOff w i inner frames wait hnever =>
    cases hcame with
    | waits hinside hpath =>
      rw [List.append_assoc]
      exact .answered hinside hpath w (.refused (w.refusalAt i))
    | turned _ _ hstand => rcases Stand.eq_ofEnding hstand with ⟨_, h⟩ | h <;> cases h
  | begins =>
    cases hcame with
    | comes hinside hpath => exact .operates _ hinside hpath
    | turned _ _ hstand => rcases Stand.eq_ofEnding hstand with ⟨_, h⟩ | h <;> cases h
  | ends =>
    rw [List.append_nil]
    cases hcame with
    | operates n hinside hpath =>
      refine .turned hinside ?_ rfl
      rw [hpath]
      exact .once n
    | turned _ _ hstand => rcases Stand.eq_ofEnding hstand with ⟨_, h⟩ | h <;> cases h
  | leaves hleave =>
    cases hcame with
    | turned hinside htrip hstand =>
      obtain ⟨hover, hparting⟩ := Stand.ofEnding_leaves hstand
      obtain ⟨before, whole, hout, hwhole, hlog⟩ := hinside.leave htrip
      rw [List.append_assoc, ← hparting, hlog]
      exact .turned hout hwhole hstand
  | breaks hleave => exact .gone (by decide)
  | again hleave =>
    obtain ⟨count, _, rfl, rfl, hcount, -, -⟩ := World.leave_again hleave
    cases hcame with
    | turned hinside htrip hstand =>
      obtain ⟨hover, -⟩ := Stand.ofEnding_leaves hstand
      rw [List.append_assoc]
      refine .pauses (hinside.again htrip hover ?_)
      rw [← hpatience, (World.left_leads hleave).patience_eq]
      exact hcount
  | wakes =>
    rw [List.append_nil]
    cases hcame with
    | pauses hinside =>
      cases hinside with
      | within hinside hpath hrounds hn hhold =>
        exact .comes (.within hinside hpath hrounds hn hhold) (tail_of_drop hpath)
    | turned _ _ hstand => rcases Stand.eq_ofEnding hstand with ⟨_, h⟩ | h <;> cases h
  | gives =>
    cases hcame with
    | turned hinside htrip hstand =>
      obtain ⟨rfl, rfl⟩ := Stand.ofEnding_unwinds hstand
      obtain ⟨before, whole, hout, hwhole, hlog⟩ := hinside.leave htrip
      have hparting := hlog
      simp only [Visit.parting] at hparting
      rw [List.append_assoc, hparting]
      exact .turned hout hwhole rfl
    | gone hcause => exact .gone hcause
  | dropsWaiting | dropsPaused | dropsOperating => exact .gone (by decide)
  | time _ _ _ | elsewhere _ _ =>
    rw [List.append_nil]
    exact hcame

theorem Journey.came [Timer] (hothers : ∀ w m, others w m → World.Reaches (fun _ => True) w m)
    (h : Journey operation others ⟨start, .comes path, []⟩ log q) :
    Came operation start.tries path q.stand q.frames log := by
  induction h with
  | here => exact .comes .outside rfl
  | @onward q r log visits hcame hleg ih =>
    have hreach := (hcame.onward hleg).reaches_any hothers
    exact ih.leg (fun i => hreach.patience_eq i) hleg

/-- **A journey that has come to its end is a trip**, unless a layer has broken it off. -/
theorem Journey.trip [Timer] (hothers : ∀ w m, others w m → World.Reaches (fun _ => True) w m)
    {m : World ε ν} {stand : Stand ε ν}
    (h : Journey operation others ⟨start, .comes path, []⟩ log ⟨m, stand, []⟩)
    (hending : stand.ending? = some e) (hwhole : stand ≠ .unwinds .broken) :
    Trip operation start.tries 0 path log e := by
  have hcame : Came operation start.tries path stand [] log := h.came hothers
  cases hcame with
  | turned hinside htrip hstand =>
    cases hinside
    rw [hstand, Stand.ending?_ofEnding] at hending
    cases hending
    exact htrip
  | @gone _ _ cause hcause =>
    cases cause with
    | panicked => exact absurd rfl hcause
    | broken => exact absurd rfl hwhole
    | dropped => cases hending
  | comes _ _ | waits _ _ | pauses _ | operates _ _ _ => cases hending

end Journeys

end Trips

end FaultTolerance.Stack
