import Mathlib.Logic.Function.Basic
import FaultTolerance.Proofs.Publisher.Reactions
import FaultTolerance.Proofs.Window.LastCalls

/-! Events reach those who are subscribed, once each and in order.

While rounds are under way some deliveries are still to be made. `Kept` says of a journal that its
publisher has the subscriptions, the identities and the log that the history tells of, and that
what has been delivered and what is still `pending` come to what is owed. Every reaction keeps it,
whatever the consumer does and however many rounds it begins in return, so that nothing is pending
when a call returns.

The main theorem is **`events_reach_their_consumers`**. -/
namespace FaultTolerance.Publisher
variable {π : Type}

open Happening

/-! ### Identities -/

/-- Identities are numbered in order, and whoever leaves is told whether it was there. -/
inductive Regular : List (Happening π) → Prop
  | nil : Regular []
  | subscribed {h} (kind : Option String) (hr : Regular h) :
    Regular (h ++ [.subscribed (given h) kind])
  | unsubscribed {h} (id : Nat) (hr : Regular h) :
    Regular (h ++ [.unsubscribed id (decide (id ∈ memberIds h))])
  | published {h} (e : Event π) (hr : Regular h) : Regular (h ++ [.published e])
  | delivered {h} (round : Nat) (d : Delivery π) (hr : Regular h) :
    Regular (h ++ [.delivered round d])

namespace Regular
variable {h before after : List (Happening π)} {x : Happening π}

theorem of_append (hr : Regular (before ++ after)) : Regular before := by
  induction after using List.reverseRecOn with
  | nil => rwa [List.append_nil] at hr
  | append_singleton after x ih =>
    apply ih
    rw [← List.append_assoc] at hr
    generalize before ++ after = h at hr
    generalize hx : h ++ [x] = whole at hr
    cases hr with
    | nil => simp at hx
    | subscribed _ hr | unsubscribed _ hr | published _ hr | delivered _ _ hr =>
      exact (List.append_inj' hx rfl).1 ▸ hr

/-- Identities that have not been given out are no members. -/
theorem memberIds_lt (hr : Regular h) : ∀ id ∈ memberIds h, id < given h := by
  induction hr with
  | nil => exact nofun
  | @subscribed h kind _ ih =>
    intro id hid
    rw [memberIds_subscribed, List.mem_append, List.mem_singleton] at hid
    rw [given_concat]
    rcases hid with hid | rfl
    · exact Nat.lt_succ_of_lt (ih id hid)
    · exact Nat.lt_succ_self _
  | unsubscribed _ _ ih =>
    intro id hid
    rw [memberIds_unsubscribed] at hid
    rw [given_concat]
    exact ih id (List.mem_of_mem_filter hid)
  | published _ _ ih =>
    rwa [memberIds_published, given_concat]
  | delivered _ _ _ ih =>
    rwa [memberIds_delivered, given_concat]

/-- Members stand in the order of their identities. -/
theorem memberIds_sorted (hr : Regular h) : (memberIds h).Pairwise (· < ·) := by
  induction hr with
  | nil => exact .nil
  | @subscribed h kind hr ih =>
    rw [memberIds_subscribed, List.pairwise_append]
    refine ⟨ih, List.pairwise_singleton .., fun id hid new hnew => ?_⟩
    rw [List.mem_singleton.mp hnew]
    exact hr.memberIds_lt id hid
  | unsubscribed _ _ ih =>
    rw [memberIds_unsubscribed]
    exact ih.sublist List.filter_sublist
  | published _ _ ih => rwa [memberIds_published]
  | delivered _ _ _ ih => rwa [memberIds_delivered]

/-- What one who leaves is told. -/
theorem found_eq {id : Nat} {found : Bool} (hr : Regular (h ++ [.unsubscribed id found])) :
    found = decide (id ∈ memberIds h) := by
  generalize hwhole : h ++ [Happening.unsubscribed id found] = whole at hr
  cases hr with
  | nil => simp at hwhole
  | unsubscribed _ _ =>
    obtain ⟨rfl, hlast⟩ := List.append_inj' hwhole rfl
    cases hlast
    rfl
  | subscribed _ _ | published _ _ | delivered _ _ _ =>
    cases (List.append_inj' hwhole rfl).2

/-- An identity that was given out is a member or has been removed, once. -/
theorem removed_or_member (hr : Regular h) (id : Nat) :
    h.countP (removes id) + (memberIds h).count id = if id < given h then 1 else 0 := by
  induction hr with
  | nil => rfl
  | @subscribed h kind _ ih =>
    rw [List.countP_append, List.countP_singleton, given_concat, memberIds_subscribed,
      List.count_append, List.count_singleton]
    simp only [removes, isSubscribed, Bool.false_eq_true, if_false, if_true, beq_iff_eq]
    split at ih <;> split <;> split <;> omega
  | @unsubscribed h i _ ih =>
    rw [List.countP_append, List.countP_singleton, given_concat, memberIds_unsubscribed]
    simp only [isSubscribed, Bool.false_eq_true, if_false, Nat.add_zero, ← ih]
    by_cases hi : i = id
    · subst hi
      have hgone : ((memberIds h).filter (· ≠ i)).count i = 0 :=
        List.count_eq_zero.mpr fun hmem => by simpa using List.of_mem_filter hmem
      rw [hgone, Nat.add_zero]
      congr 1
      by_cases hmem : i ∈ memberIds h
      · have hpos := List.count_pos_iff.mpr hmem
        rw [decide_eq_true hmem, removes, if_pos (decide_eq_true rfl)]
        split at ih <;> omega
      · rw [decide_eq_false hmem, removes, if_neg Bool.false_ne_true, List.count_eq_zero.mpr hmem]
        exact nofun
    · have hstays : ((memberIds h).filter (· ≠ i)).count id = (memberIds h).count id :=
        List.count_filter (by simpa using Ne.symm hi)
      have hother : removes (π := π) id (.unsubscribed i (decide (i ∈ memberIds h))) = false := by
        cases hmem : decide (i ∈ memberIds h)
        · rfl
        · exact decide_eq_false hi
      rw [hstays, hother]
      rfl
  | published _ _ ih =>
    rwa [List.countP_append, List.countP_singleton, given_concat, memberIds_published]
  | delivered _ _ _ ih =>
    rwa [List.countP_append, List.countP_singleton, given_concat, memberIds_delivered]

theorem lt_given (hr : Regular h) {id : Nat} {kind : Option String}
    (hmem : .subscribed id kind ∈ h) : id < given h := by
  induction hr with
  | nil => cases hmem
  | subscribed _ _ ih =>
    rw [given_concat]
    rcases List.mem_append.mp hmem with hold | hnew
    · exact Nat.lt_succ_of_lt (ih hold)
    · cases List.mem_singleton.mp hnew
      exact Nat.lt_succ_self _
  | unsubscribed _ _ ih | published _ _ ih | delivered _ _ _ ih =>
    rw [given_concat]
    rcases List.mem_append.mp hmem with hold | hnew
    · exact ih hold
    · cases List.mem_singleton.mp hnew

theorem countP_removes_le (hr : Regular h) (id : Nat) : h.countP (removes id) ≤ 1 := by
  have hsum := hr.removed_or_member id
  split at hsum <;> omega

/-- Whoever leaves has been removed then, once and for all. -/
theorem removed_once {id : Nat} {found : Bool} {kind : Option String}
    (hr : Regular (before ++ .unsubscribed id found :: after))
    (hmem : .subscribed id kind ∈ before) :
    (before ++ .unsubscribed id found :: after).countP (removes id) = 1 := by
  have hmost := hr.countP_removes_le id
  rw [List.append_cons] at hr hmost ⊢
  have hthen := hr.of_append
  have hgiven : id < given (before ++ [.unsubscribed id found]) :=
    hthen.lt_given (List.mem_append_left _ hmem)
  have hgone : (memberIds (before ++ [.unsubscribed id found])).count id = 0 := by
    rw [memberIds_unsubscribed, List.count_eq_zero]
    exact fun hmem => by simpa using List.of_mem_filter hmem
  have hsum := hthen.removed_or_member id
  rw [if_pos hgiven, hgone] at hsum
  rw [List.countP_append] at hmost ⊢
  omega

end Regular

/-! ### The log -/

/-- A log that has the latest events in it, up to its capacity. -/
def Logs (capacity : Nat) (replay : Option (Ring (Event π))) (events : List (Event π)) : Prop :=
  match replay with
  | none => capacity = 0
  | some r => r.Holds capacity (events.rtake capacity)

theorem Logs.new (capacity : Nat) : Logs (π := π) capacity (Publisher.new capacity).replay [] := by
  unfold Publisher.new Ring.ofCapacity
  by_cases hnone : capacity = 0
  · rw [if_pos hnone]
    exact hnone
  · rw [if_neg hnone]
    show (Ring.empty capacity).Holds capacity (([] : List (Event π)).rtake capacity)
    rw [List.rtake_nil]
    exact .empty (Nat.pos_of_ne_zero hnone)

theorem Logs.note {capacity : Nat} {p : Publisher π} {events : List (Event π)}
    (hl : Logs capacity p.replay events) (e : Event π) :
    Logs capacity (p.note e).replay (events ++ [e]) := by
  unfold Publisher.note
  cases hreplay : p.replay with
  | none =>
    rw [hreplay] at hl
    exact hl
  | some r =>
    rw [hreplay] at hl
    show (r.insert e).1.Holds capacity _
    change r.Holds capacity _ at hl
    rcases Nat.lt_or_ge (events.rtake capacity).length capacity with hroom | hfull
    · rw [rtake_concat_of_room hroom]
      exact (hl.insert_of_room hroom e).1
    · have hlength := Nat.le_antisymm hl.length_le hfull
      cases hrecent : events.rtake capacity with
      | nil =>
        rw [hrecent, List.length_nil] at hlength
        exact absurd hl.head_lt (by omega)
      | cons oldest rest =>
        rw [hrecent] at hl hlength
        rw [rtake_concat_of_full hrecent hlength]
        exact (hl.insert_of_full hlength e).1

theorem Logs.recent_eq {capacity : Nat} {p : Publisher π} {events : List (Event π)}
    (hl : Logs capacity p.replay events) : p.recent = events.rtake capacity := by
  unfold Publisher.recent
  cases hreplay : p.replay with
  | none =>
    rw [hreplay] at hl
    change capacity = 0 at hl
    rw [hl, List.rtake_zero]
    rfl
  | some r =>
    rw [hreplay] at hl
    exact Ring.Holds.toList_eq hl

/-! ### What is owed -/

variable [Reported π]

/-- What has been delivered of each round, and what is pending, is what its event calls for. -/
structure Owes (h : List (Happening π)) (pending : Nat → List (Delivery π)) : Prop where
  owed : ∀ {before e after}, h = before ++ .published e :: after →
    deliveriesIn (published before).length h ++ pending (published before).length =
      due (members before) e
  later : ∀ {round}, (published h).length ≤ round → deliveriesIn round h = [] ∧ pending round = []

namespace Owes
variable {h : List (Happening π)} {pending : Nat → List (Delivery π)}

theorem nil : Owes (π := π) [] fun _ => [] where
  owed heq := by simp at heq
  later _ := ⟨rfl, rfl⟩

/-- Whatever happens in a round, no more and no less is owed. -/
theorem concat (ho : Owes h pending) {x : Happening π} {pending' : Nat → List (Delivery π)}
    (hx : x.event? = none)
    (hrest : ∀ round, pending round = (x.deliveryIn? round).toList ++ pending' round) :
    Owes (h ++ [x]) pending' where
  owed {before e after} heq := by
    rcases concat_eq_split heq with ⟨-, rfl, -⟩ | ⟨rest, hsplit⟩
    · cases hx
    · rw [deliveriesIn_concat, List.append_assoc, ← hrest]
      exact ho.owed hsplit
  later {round} hround := by
    rw [published_of_none h hx] at hround
    obtain ⟨hnone, hpending⟩ := ho.later hround
    rw [hrest, List.append_eq_nil_iff] at hpending
    rw [deliveriesIn_concat, hnone, hpending.1]
    exact ⟨rfl, hpending.2⟩

/-- A new round owes its event to the members. -/
theorem begin (ho : Owes h pending) (e : Event π) :
    Owes (h ++ [.published e])
      (Function.update pending (published h).length (due (members h) e)) where
  owed {before e' after} heq := by
    rw [deliveriesIn_published]
    rcases concat_eq_split heq with ⟨rfl, hsame, -⟩ | ⟨rest, rfl⟩
    · cases hsame
      rw [(ho.later (Nat.le_refl _)).1, Function.update_self, List.nil_append]
    · have hearlier : (published before).length ≠
          (published (before ++ .published e' :: rest)).length := by
        unfold published
        rw [List.filterMap_append, List.length_append,
          List.filterMap_cons_some (show (Happening.published e').event? = some e' from rfl),
          List.length_cons]
        omega
      rw [Function.update_of_ne hearlier]
      exact ho.owed rfl
  later {round} hround := by
    rw [published_published, List.length_append, List.length_singleton] at hround
    rw [deliveriesIn_published, Function.update_of_ne (by omega)]
    exact ho.later (by omega)

end Owes

/-! ### What every reaction keeps -/

/-- A journal that tells of its publisher, with deliveries that are still to be made. -/
structure Kept (capacity : Nat) (j : Journal π) (pending : Nat → List (Delivery π)) : Prop where
  regular : Regular j.history
  subscriptions : j.publisher.subscriptions.map (fun s => (s.id, s.kind)) = members j.history
  nextId : j.publisher.nextId = given j.history
  log : Logs capacity j.publisher.replay (published j.history)
  owes : Owes j.history pending

namespace Kept
variable {capacity : Nat} {j : Journal π} {pending : Nat → List (Delivery π)}

theorem new (capacity : Nat) : Kept (π := π) capacity (.new capacity) fun _ => [] where
  regular := .nil
  subscriptions := rfl
  nextId := rfl
  log := .new capacity
  owes := .nil

theorem subscribe (hk : Kept capacity j pending) (kind : Option String)
    (consumer : Event π → Reaction π) :
    Kept capacity (j.subscribe kind consumer).1 pending := by
  have hhistory : (j.subscribe kind consumer).1.history =
      j.history ++ [.subscribed (given j.history) kind] := by
    rw [← hk.nextId]
    rfl
  constructor
  · rw [hhistory]
    exact .subscribed kind hk.regular
  · rw [hhistory, members_concat, enroll, ← hk.subscriptions, ← hk.nextId]
    exact List.map_append
  · rw [hhistory, given_concat, ← hk.nextId]
    rfl
  · rw [hhistory, published_of_none _ rfl]
    exact hk.log
  · rw [hhistory]
    exact hk.owes.concat rfl fun _ => rfl

theorem unsubscribe (hk : Kept capacity j pending) (id : Nat) :
    Kept capacity (j.unsubscribe id) pending := by
  have hfound : (j.publisher.unsubscribe id).2 = decide (id ∈ memberIds j.history) := by
    unfold memberIds
    rw [← hk.subscriptions, Bool.eq_iff_iff, decide_eq_true_iff]
    simp [Publisher.unsubscribe]
  have hhistory : (j.unsubscribe id).history =
      j.history ++ [.unsubscribed id (decide (id ∈ memberIds j.history))] := by
    rw [← hfound]
    rfl
  constructor
  · rw [hhistory]
    exact .unsubscribed id hk.regular
  · rw [hhistory, members_concat, enroll, ← hk.subscriptions, List.filter_map]
    rfl
  · rw [hhistory, given_concat]
    exact hk.nextId
  · rw [hhistory, published_of_none _ rfl]
    exact hk.log
  · rw [hhistory]
    exact hk.owes.concat rfl fun _ => rfl

theorem begin (hk : Kept capacity j pending) (e : Event π) :
    Kept capacity (j.begin e) (Function.update pending j.rounds (due (members j.history) e)) where
  regular := .published e hk.regular
  subscriptions := by
    show _ = members (j.history ++ [.published e])
    rw [members_concat]
    exact hk.subscriptions
  nextId := by
    show _ = given (j.history ++ [.published e])
    rw [given_concat]
    exact hk.nextId
  log := by
    show Logs capacity _ (published (j.history ++ [.published e]))
    rw [published_published]
    exact hk.log.note e
  owes := hk.owes.begin e

theorem hand (hk : Kept capacity j pending) {round : Nat} {d : Delivery π}
    {rest : List (Delivery π)} (hpending : pending round = d :: rest) :
    Kept capacity (j.hand round d) (Function.update pending round rest) where
  regular := .delivered round d hk.regular
  subscriptions := by
    show _ = members (j.history ++ [.delivered round d])
    rw [members_concat]
    exact hk.subscriptions
  nextId := by
    show _ = given (j.history ++ [.delivered round d])
    rw [given_concat]
    exact hk.nextId
  log := by
    show Logs capacity _ (published (j.history ++ [.delivered round d]))
    rw [published_of_none _ rfl]
    exact hk.log
  owes := by
    refine hk.owes.concat rfl fun r => ?_
    by_cases hr : round = r
    · subst hr
      rw [hpending, deliveryIn?, if_pos rfl, Function.update_self]
      rfl
    · rw [deliveryIn?, if_neg hr, Function.update_of_ne (Ne.symm hr)]
      rfl

theorem enact (hk : Kept capacity j pending) {publish : Journal π → Event π → Run (Journal π)}
    (hpublish : ∀ {j pending} e,
      Kept capacity j pending → Kept capacity (publish j e).state pending)
    (r : Reaction π) : Kept capacity (r.enact publish j).state pending := by
  induction r generalizing j with
  | done | panic => exact hk
  | subscribe kind consumer next _ ih => exact ih _ (hk.subscribe kind consumer)
  | unsubscribe id next ih => exact ih (hk.unsubscribe id)
  | publish event next ih =>
    exact Run.andThen_preserves (P := (Kept capacity · pending)) (hpublish event hk)
      fun _ hk => ih hk

/-- A round that is handed out is not pending any more, and the others are as before. -/
theorem deliver (hk : Kept capacity j pending) {react : Reaction π → Journal π → Run (Journal π)}
    (hreact : ∀ {j pending} r, Kept capacity j pending → Kept capacity (react r j).state pending)
    {round : Nat} {e : Event π} {subs : List (Subscription π)}
    (hpending : pending round = subs.map (⟨·.id, e⟩)) :
    Kept capacity (Journal.deliver react round e subs j).state
      (Function.update pending round []) := by
  induction subs generalizing j pending with
  | nil =>
    have hnone : Function.update pending round [] = pending :=
      Function.update_eq_self_iff.mpr hpending.symm
    rw [hnone]
    exact hk
  | cons s rest ih =>
    have hnext := ih (hreact (s.consumer e) (hk.hand hpending)) (Function.update_self ..)
    rwa [Function.update_idem] at hnext

theorem due_eq (hk : Kept capacity j pending) (e : Event π) :
    due (members j.history) e =
      (j.publisher.subscriptions.filter (·.wants e)).map (⟨·.id, e⟩) := by
  unfold due
  rw [← hk.subscriptions, List.filter_map, List.map_map]
  rfl

theorem publish_of_react (hk : Kept capacity j pending)
    {react : Reaction π → Journal π → Run (Journal π)}
    (hreact : ∀ {j pending} r, Kept capacity j pending → Kept capacity (react r j).state pending)
    (e : Event π) :
    Kept capacity (Journal.deliver react j.rounds e
      (j.publisher.subscriptions.filter (·.wants e)) (j.begin e)).state pending := by
  have hpending : Function.update pending j.rounds (due (members j.history) e) j.rounds =
      (j.publisher.subscriptions.filter (·.wants e)).map (⟨·.id, e⟩) := by
    rw [Function.update_self, hk.due_eq]
  have hdelivered := (hk.begin e).deliver hreact hpending
  rwa [Function.update_idem,
    Function.update_eq_self_iff.mpr (hk.owes.later (Nat.le_refl _)).2.symm] at hdelivered

theorem publish (hk : Kept capacity j pending) (depth : Nat) (e : Event π) :
    Kept capacity (j.publish depth e).state pending := by
  induction depth generalizing j pending e with
  | zero => exact hk.publish_of_react (fun _ hk => hk) e
  | succ depth ih =>
    exact hk.publish_of_react (fun r hk => hk.enact (fun e hk => ih hk e) r) e

theorem run (hk : Kept capacity j pending) (depth : Nat) (calls : List (Call π)) :
    Kept capacity (j.run depth calls).state pending := by
  induction calls generalizing j with
  | nil => exact hk
  | cons call rest ih =>
    refine Run.andThen_preserves (P := (Kept capacity · pending)) ?_ fun _ hk => ih hk
    cases call with
    | subscribe kind consumer => exact hk.subscribe kind consumer
    | unsubscribe id => exact hk.unsubscribe id
    | publish event => exact hk.publish depth event

end Kept

/-- **Events reach those who are subscribed, once each and in order.** Whatever is called on a new
publisher, and whatever its consumers do in return: they may subscribe, unsubscribe, publish and
panic. No panic gets out of a call. Each round hands its event to those who are subscribed when it
begins and want it, once each, in the order in which they subscribed, and nothing else is delivered.
Whoever unsubscribes is told whether it was subscribed, and of the answers for an identity that was
given out exactly one says yes. The log has the latest events, as many as fit. Were every consumer
to end where it panics, all of this would happen as it did. -/
theorem events_reach_their_consumers (capacity depth : Nat) (calls : List (Call π)) :
    let run := Publisher.run depth (.new capacity, []) calls
    let (p, reached) := run.state
    let history := (Journal.run depth (.new capacity) calls).state.history
    run.unwinding = false ∧ reached = deliveries history ∧
      p.recent = (published history).rtake capacity ∧
      (∀ before e after, history = before ++ .published e :: after →
        deliveriesIn (published before).length history = due (members before) e ∧
          (memberIds before).Pairwise (· < ·)) ∧
      (∀ round, (published history).length ≤ round → deliveriesIn round history = []) ∧
      (∀ before id (found : Bool) after, history = before ++ .unsubscribed id found :: after →
        (found ↔ id ∈ memberIds before) ∧ history.countP (removes id) ≤ 1 ∧
          ∀ kind, .subscribed id kind ∈ before → history.countP (removes id) = 1) ∧
      (Journal.run depth (.new capacity) (calls.map .calm)).state.history = history := by
  have hkept := (Kept.new (π := π) capacity).run depth calls
  obtain ⟨reached, hdeliveries, hrun⟩ := Journal.run_erases depth calls (.new capacity) []
  have hcalm := congrArg (·.state.history) (Journal.run_calm depth calls (.new capacity))
  have hreturns := Journal.run_returns depth (.new capacity) calls
  have hpublisher : Publisher.run depth (.new capacity, []) calls = _ := hrun
  rw [hpublisher]
  refine ⟨hreturns, hdeliveries.symm, hkept.log.recent_eq, fun before e after heq => ?_,
    fun round hround => ?_, fun before id found after heq => ?_, hcalm⟩
  · have howed := hkept.owes.owed heq
    rw [List.append_nil] at howed
    exact ⟨howed, (heq ▸ hkept.regular).of_append.memberIds_sorted⟩
  · exact (hkept.owes.later hround).1
  · have hregular := heq ▸ hkept.regular
    refine ⟨?_, hkept.regular.countP_removes_le id, fun kind hmem => ?_⟩
    · rw [List.append_cons] at hregular
      rw [hregular.of_append.found_eq, decide_eq_true_iff]
    · show (Journal.run depth (.new capacity) calls).state.history.countP _ = 1
      rw [heq]
      exact hregular.removed_once hmem

end FaultTolerance.Publisher
