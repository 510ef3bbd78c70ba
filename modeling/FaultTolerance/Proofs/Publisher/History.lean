import FaultTolerance.Publisher
import Mathlib.Data.List.Basic

/-! What happens to a publisher, in order.

A `Journal` is a publisher together with its history: who came, who left, what was published, and
which event of which round reached whom. It is driven by the calls of a user and by the reactions of
the consumers, and it comes to the same publisher, the same deliveries and the same panics as the
publisher alone (**`Journal.run_erases`**). No panic gets out of a round, as each consumer's is
caught (`Journal.publish_returns`). Its rounds are numbered, so that deliveries can be told apart
where consumers publish in return while an event is handed round.

What a history means is told without a publisher. `members` says who is subscribed after it, and
`Regular` says that identities are given out in order and that whoever leaves is told the truth.

A consumer reacts by a function of the event. As the payload of an event is anything, also with a
number of its own in it, that covers consumers that remember. -/
namespace FaultTolerance.Publisher
variable {π : Type}

/-! ### Histories -/

inductive Happening (π : Type) where
  | subscribed (id : Nat) (kind : Option String)
  | unsubscribed (id : Nat) (found : Bool)
  /-- An event was logged and the list of subscriptions taken, which begins a round. -/
  | published (event : Event π)
  | delivered (round : Nat) (delivery : Delivery π)
  deriving DecidableEq, Repr

namespace Happening

def event? : Happening π → Option (Event π)
  | published e => some e
  | _ => none

def delivery? : Happening π → Option (Delivery π)
  | delivered _ d => some d
  | _ => none

/-- The delivery, if it is one of the round. -/
def deliveryIn? (round : Nat) : Happening π → Option (Delivery π)
  | delivered r d => if r = round then some d else none
  | _ => none

def isSubscribed : Happening π → Bool
  | subscribed .. => true
  | _ => false

/-- Whether a consumer was found and removed. -/
def removes (id : Nat) : Happening π → Bool
  | unsubscribed i true => i = id
  | _ => false

/-- Those who are subscribed after something has happened. -/
def enroll (members : List (Nat × Option String)) : Happening π → List (Nat × Option String)
  | subscribed id kind => members ++ [(id, kind)]
  | unsubscribed id _ => members.filter (·.1 ≠ id)
  | published _ | delivered .. => members

end Happening

open Happening

/-- The events of the rounds. -/
def published (h : List (Happening π)) : List (Event π) := h.filterMap event?

def deliveries (h : List (Happening π)) : List (Delivery π) := h.filterMap delivery?

def deliveriesIn (round : Nat) (h : List (Happening π)) : List (Delivery π) :=
  h.filterMap (deliveryIn? round)

/-- The number of identities that have been given out. -/
def given (h : List (Happening π)) : Nat := h.countP isSubscribed

/-- Who is subscribed, and to which kind, in the order of subscription. -/
def members (h : List (Happening π)) : List (Nat × Option String) := h.foldl enroll []

def memberIds (h : List (Happening π)) : List Nat := (members h).map (·.1)

section Concat
variable (h : List (Happening π)) (x : Happening π)

theorem members_concat : members (h ++ [x]) = x.enroll (members h) := List.foldl_append ..

theorem memberIds_subscribed (id : Nat) (kind : Option String) :
    memberIds (h ++ [.subscribed id kind]) = memberIds h ++ [id] := by
  unfold memberIds
  rw [members_concat, enroll, List.map_append, List.map_singleton]

theorem memberIds_unsubscribed (id : Nat) (found : Bool) :
    memberIds (h ++ [.unsubscribed id found]) = (memberIds h).filter (· ≠ id) := by
  unfold memberIds
  rw [members_concat, enroll, List.filter_map]
  rfl

theorem memberIds_published (e : Event π) : memberIds (h ++ [.published e]) = memberIds h := by
  unfold memberIds
  rw [members_concat, enroll]

theorem memberIds_delivered (round : Nat) (d : Delivery π) :
    memberIds (h ++ [.delivered round d]) = memberIds h := by
  unfold memberIds
  rw [members_concat, enroll]

theorem given_concat : given (h ++ [x]) = given h + if x.isSubscribed then 1 else 0 := by
  unfold given
  rw [List.countP_append, List.countP_singleton]

theorem published_concat : published (h ++ [x]) = published h ++ x.event?.toList := by
  unfold published
  rw [List.filterMap_append]
  cases hx : x.event? <;> simp [hx]

theorem published_published (e : Event π) :
    published (h ++ [.published e]) = published h ++ [e] := published_concat ..

theorem published_of_none {x : Happening π} (hx : x.event? = none) :
    published (h ++ [x]) = published h := by
  rw [published_concat, hx, Option.toList_none, List.append_nil]

theorem deliveries_concat : deliveries (h ++ [x]) = deliveries h ++ x.delivery?.toList := by
  unfold deliveries
  rw [List.filterMap_append]
  cases hx : x.delivery? <;> simp [hx]

theorem deliveries_of_none {x : Happening π} (hx : x.delivery? = none) :
    deliveries (h ++ [x]) = deliveries h := by
  rw [deliveries_concat, hx, Option.toList_none, List.append_nil]

theorem deliveriesIn_concat (round : Nat) :
    deliveriesIn round (h ++ [x]) = deliveriesIn round h ++ (x.deliveryIn? round).toList := by
  unfold deliveriesIn
  rw [List.filterMap_append]
  cases hx : x.deliveryIn? round <;> simp [hx]

theorem deliveriesIn_published (round : Nat) (e : Event π) :
    deliveriesIn round (h ++ [.published e]) = deliveriesIn round h :=
  (deliveriesIn_concat ..).trans (List.append_nil _)

end Concat

/-- What members are owed of an event. -/
def due [Reported π] (members : List (Nat × Option String)) (e : Event π) : List (Delivery π) :=
  (members.filter (·.2.all (· == e.kind))).map (⟨·.1, e⟩)

/-- What ends with `x` is cut at `x` or before. -/
theorem concat_eq_split {h before after : List (Happening π)} {x y : Happening π}
    (heq : h ++ [x] = before ++ y :: after) :
    (h = before ∧ x = y ∧ after = []) ∨ ∃ rest, h = before ++ y :: rest := by
  rcases List.eq_nil_or_concat after with rfl | ⟨rest, z, rfl⟩
  · obtain ⟨hh, hx⟩ := List.append_inj' heq rfl
    exact .inl ⟨hh, List.head_eq_of_cons_eq hx, rfl⟩
  · rw [List.concat_eq_append, ← List.cons_append, ← List.append_assoc] at heq
    exact .inr ⟨rest, (List.append_inj' heq rfl).1⟩

/-! ### Journals -/

structure Journal (π : Type) where
  publisher : Publisher π
  history : List (Happening π) := []

namespace Journal

def new (capacity : Nat) : Journal π := { publisher := .new capacity }

def subscribe (j : Journal π) (kind : Option String) (consumer : Event π → Reaction π) :
    Journal π × Nat :=
  let (p, id) := j.publisher.subscribe kind consumer
  (⟨p, j.history ++ [.subscribed id kind]⟩, id)

def unsubscribe (j : Journal π) (id : Nat) : Journal π :=
  let (p, found) := j.publisher.unsubscribe id
  ⟨p, j.history ++ [.unsubscribed id found]⟩

/-- The number of the next round. -/
def rounds (j : Journal π) : Nat := (published j.history).length

/-- Begins a round. -/
def begin (j : Journal π) (e : Event π) : Journal π :=
  ⟨j.publisher.note e, j.history ++ [.published e]⟩

def hand (j : Journal π) (round : Nat) (d : Delivery π) : Journal π :=
  { j with history := j.history ++ [.delivered round d] }

end Journal

/-! ### Code that may panic -/

namespace Run
variable {σ : Type} {r : Run σ} {next : σ → Run σ}

theorem andThen_unwinding (h : r.unwinding = true) : r.andThen next = r := if_pos h

theorem andThen_returned (h : r.unwinding = false) : r.andThen next = next r.state :=
  if_neg (Bool.eq_false_iff.mp h)

/-- What both pieces of code keep is kept, also if the second one is not reached. -/
theorem andThen_preserves {P : σ → Prop} (h : P r.state) (hnext : ∀ s, P s → P (next s).state) :
    P (r.andThen next).state := by
  unfold andThen
  split
  · exact h
  · exact hnext _ h

end Run

/-! ### The publisher in a journal -/

/-- What is done to a journal comes, without the history, to what is done to the publisher: the same
is delivered, and the same panic unwinds the stack. -/
def Erases (f : Journal π → Run (Journal π)) (g : Heard π → Run (Heard π)) : Prop :=
  ∀ j heard, ∃ more,
    deliveries (f j).state.history = deliveries j.history ++ more ∧
      g (j.publisher, heard) =
        { state := ((f j).state.publisher, heard ++ more), unwinding := (f j).unwinding }

namespace Erases
variable {f f' : Journal π → Run (Journal π)} {g g' : Heard π → Run (Heard π)}

theorem ends (unwinding : Bool) :
    Erases (fun j : Journal π => { state := j, unwinding }) fun s => { state := s, unwinding } :=
  fun _ _ => ⟨[], (List.append_nil _).symm, by rw [List.append_nil]⟩

theorem andThen (hf : Erases f g) (hf' : Erases f' g') :
    Erases (fun j => (f j).andThen f') fun s => (g s).andThen g' := by
  intro j heard
  obtain ⟨more, hd, hg⟩ := hf j heard
  dsimp only
  cases hr : (f j).unwinding with
  | true =>
    refine ⟨more, ?_, ?_⟩
    · rwa [Run.andThen_unwinding hr]
    · rw [hg, hr, Run.andThen_unwinding rfl, Run.andThen_unwinding hr, hr]
  | false =>
    obtain ⟨rest, hd', hg'⟩ := hf' (f j).state (heard ++ more)
    refine ⟨more ++ rest, ?_, ?_⟩
    · rw [Run.andThen_returned hr, hd', hd, List.append_assoc]
    · rw [hg, hr, Run.andThen_returned rfl, Run.andThen_returned hr, hg', List.append_assoc]

/-- A panic that is caught is caught in both. -/
theorem caught (hf : Erases f g) : Erases (fun j => (f j).caught) fun s => (g s).caught := by
  intro j heard
  obtain ⟨more, hd, hg⟩ := hf j heard
  refine ⟨more, hd, ?_⟩
  dsimp only
  rw [hg]
  rfl

/-- What is done after a step that delivers nothing. -/
theorem after (hf : Erases f g) {j : Journal π → Journal π} {p : Publisher π → Publisher π}
    (hp : ∀ k, (j k).publisher = p k.publisher)
    (hd : ∀ k, deliveries (j k).history = deliveries k.history) :
    Erases (fun k => f (j k)) fun s => g (p s.1, s.2) := by
  intro k heard
  obtain ⟨more, hmore, hg⟩ := hf (j k) heard
  rw [hd] at hmore
  rw [hp] at hg
  exact ⟨more, hmore, hg⟩

end Erases

end Publisher

/-- Carries a reaction out, as `Reaction.perform` does. -/
def Reaction.enact {π : Type}
    (publish : Publisher.Journal π → Event π → Publisher.Run (Publisher.Journal π)) :
    Reaction π → Publisher.Journal π → Publisher.Run (Publisher.Journal π)
  | .done, j => { state := j }
  | .panic, j => { state := j, unwinding := true }
  | .subscribe kind consumer next, j =>
    let (j, id) := j.subscribe kind consumer
    (next id).enact publish j
  | .unsubscribe id next, j => next.enact publish (j.unsubscribe id)
  | .publish event next, j => (publish j event).andThen (next.enact publish)

namespace Publisher
variable {π : Type}

/-- Hands the event of a round to subscriptions one after the other. -/
def Journal.deliver (react : Reaction π → Journal π → Run (Journal π)) (round : Nat) (e : Event π) :
    List (Subscription π) → Journal π → Run (Journal π)
  | [], j => { state := j }
  | s :: rest, j =>
    (react (s.consumer e) (j.hand round ⟨s.id, e⟩)).caught.andThen (deliver react round e rest)

namespace Erases
variable {f : Journal π → Run (Journal π)} {g : Heard π → Run (Heard π)}

theorem enact {publish : Journal π → Event π → Run (Journal π)}
    {publish' : Heard π → Event π → Run (Heard π)}
    (hpublish : ∀ e, Erases (publish · e) (publish' · e)) (r : Reaction π) :
    Erases (r.enact publish) (r.perform publish') := by
  induction r with
  | done => exact ends false
  | panic => exact ends true
  | subscribe kind consumer next _ ih =>
    intro j heard
    obtain ⟨more, hd, hg⟩ := ih j.publisher.nextId (j.subscribe kind consumer).1 heard
    exact ⟨more, hd.trans (congrArg (· ++ more) (deliveries_of_none _ rfl)), hg⟩
  | unsubscribe id next ih =>
    exact ih.after (p := fun p => (p.unsubscribe id).1) (fun _ => rfl)
      fun _ => deliveries_of_none _ rfl
  | publish event next ih => exact (hpublish event).andThen ih

/-- An event that is handed to a consumer has been delivered, whatever that does with it. -/
theorem hand (hf : Erases f g) (round : Nat) (d : Delivery π) :
    Erases (fun j => f (j.hand round d)) fun s => g (s.1, s.2 ++ [d]) := by
  intro j heard
  obtain ⟨more, hd, hg⟩ := hf (j.hand round d) (heard ++ [d])
  have hhand : deliveries (j.hand round d).history = deliveries j.history ++ [d] :=
    deliveries_concat ..
  refine ⟨d :: more, ?_, ?_⟩
  · rw [hd, hhand, List.append_assoc, List.singleton_append]
  · rw [List.append_cons]
    exact hg

theorem deliver {react : Reaction π → Journal π → Run (Journal π)}
    {publish : Heard π → Event π → Run (Heard π)}
    (hreact : ∀ r, Erases (react r) (r.perform publish)) (round : Nat) (e : Event π)
    (subs : List (Subscription π)) :
    Erases (Journal.deliver react round e subs) (Publisher.deliver publish e subs) := by
  induction subs with
  | nil => exact ends false
  | cons s _ ih => exact ((hreact (s.consumer e)).hand round ⟨s.id, e⟩).caught.andThen ih

/-- Where no reaction is carried out, the deliveries are one for each subscription. -/
theorem deliver_quietly (round : Nat) (e : Event π) (subs : List (Subscription π)) :
    Erases (Journal.deliver (fun _ j => { state := j }) round e subs) fun s =>
      { state := (s.1, s.2 ++ subs.map (⟨·.id, e⟩)) } := by
  induction subs with
  | nil =>
    intro j heard
    exact ⟨[], (List.append_nil _).symm, rfl⟩
  | cons s _ ih =>
    intro j heard
    obtain ⟨more, hd, hg⟩ := ((ends false).hand round ⟨s.id, e⟩).caught.andThen ih j heard
    refine ⟨more, hd, ?_⟩
    dsimp only
    rw [List.map_cons, List.append_cons]
    exact hg

end Erases

/-- What a user does. -/
inductive Call (π : Type) where
  | subscribe (kind : Option String) (consumer : Event π → Reaction π)
  | unsubscribe (id : Nat)
  | publish (event : Event π)

variable [Reported π]

namespace Journal

def publish : (depth : Nat) → Journal π → Event π → Run (Journal π)
  | 0, j, e =>
    deliver (fun _ j => { state := j }) j.rounds e
      (j.publisher.subscriptions.filter (·.wants e)) (j.begin e)
  | depth + 1, j, e =>
    deliver (Reaction.enact (publish depth)) j.rounds e
      (j.publisher.subscriptions.filter (·.wants e)) (j.begin e)

def act (depth : Nat) (j : Journal π) : Call π → Run (Journal π)
  | .subscribe kind consumer => { state := (j.subscribe kind consumer).1 }
  | .unsubscribe id => { state := j.unsubscribe id }
  | .publish event => j.publish depth event

/-- A panic that got out of a call would end the run. -/
def run (depth : Nat) : Journal π → List (Call π) → Run (Journal π)
  | j, [] => { state := j }
  | j, call :: rest => (j.act depth call).andThen fun j => run depth j rest

end Journal

/-- A call to a publisher. -/
def act (depth : Nat) : Heard π → Call π → Run (Heard π)
  | (p, heard), .subscribe kind consumer => { state := ((p.subscribe kind consumer).1, heard) }
  | (p, heard), .unsubscribe id => { state := ((p.unsubscribe id).1, heard) }
  | s, .publish event => publishing depth s event

/-- Calls one after the other. A panic that got out of one would end them. -/
def run (depth : Nat) : Heard π → List (Call π) → Run (Heard π)
  | s, [] => { state := s }
  | s, call :: rest => (act depth s call).andThen fun s => run depth s rest

namespace Erases

theorem publish (depth : Nat) (e : Event π) :
    Erases (Journal.publish depth · e) (Publisher.publishing depth · e) := by
  have hquiet (k : Journal π) (e : Event π) :
      deliveries (k.begin e).history = deliveries k.history := deliveries_of_none _ rfl
  induction depth generalizing e with
  | zero =>
    intro j
    exact (deliver_quietly j.rounds e _).after (p := (·.note e)) (fun _ => rfl) (hquiet · e) j
  | succ depth ih =>
    intro j
    exact (deliver (enact ih) j.rounds e _).after (p := (·.note e)) (fun _ => rfl) (hquiet · e) j

theorem act (depth : Nat) (call : Call π) :
    Erases (Journal.act depth · call) (Publisher.act depth · call) := by
  cases call with
  | subscribe kind consumer =>
    have hquiet (k : Journal π) :
        deliveries (k.subscribe kind consumer).1.history = deliveries k.history :=
      deliveries_of_none _ rfl
    exact (ends false).after (p := fun p => (p.subscribe kind consumer).1) (fun _ => rfl) hquiet
  | unsubscribe id =>
    have hquiet (k : Journal π) : deliveries (k.unsubscribe id).history = deliveries k.history :=
      deliveries_of_none _ rfl
    exact (ends false).after (p := fun p => (p.unsubscribe id).1) (fun _ => rfl) hquiet
  | publish event => exact publish depth event

end Erases

/-- **A journal follows its publisher.** -/
theorem Journal.run_erases (depth : Nat) (calls : List (Call π)) :
    Erases (Journal.run depth · calls) (Publisher.run depth · calls) := by
  induction calls with
  | nil => exact .ends false
  | cons call _ ih => exact (Erases.act depth call).andThen ih

/-! ### Panics are caught -/

namespace Journal

omit [Reported π] in
/-- No panic gets past the consumer that it comes from. -/
theorem deliver_returns (react : Reaction π → Journal π → Run (Journal π)) (round : Nat)
    (e : Event π) (subs : List (Subscription π)) (j : Journal π) :
    (deliver react round e subs j).unwinding = false := by
  induction subs generalizing j with
  | nil => rfl
  | cons s rest ih => exact ih _

theorem publish_returns (depth : Nat) (j : Journal π) (e : Event π) :
    (j.publish depth e).unwinding = false := by
  cases depth <;> exact deliver_returns ..

theorem act_returns (depth : Nat) (j : Journal π) (call : Call π) :
    (j.act depth call).unwinding = false := by
  cases call with
  | subscribe _ _ | unsubscribe _ => rfl
  | publish event => exact j.publish_returns depth event

/-- Every call is reached. -/
theorem run_cons (depth : Nat) (j : Journal π) (call : Call π) (rest : List (Call π)) :
    j.run depth (call :: rest) = (j.act depth call).state.run depth rest :=
  Run.andThen_returned (j.act_returns depth call)

theorem run_returns (depth : Nat) (j : Journal π) (calls : List (Call π)) :
    (j.run depth calls).unwinding = false := by
  induction calls generalizing j with
  | nil => rfl
  | cons call rest ih =>
    rw [run_cons]
    exact ih _

end Journal

/-- **Publishing returns**, and what it delivers does not depend on what was delivered before. -/
theorem publishing_eq (depth : Nat) (p : Publisher π) (heard : List (Delivery π)) (e : Event π) :
    publishing depth (p, heard) e =
      { state := ((p.publish depth e).1, heard ++ (p.publish depth e).2) } := by
  let j : Journal π := { publisher := p }
  have hreturns := j.publish_returns depth e
  obtain ⟨more, hd, hlater⟩ := Erases.publish depth e j heard
  obtain ⟨first, hd', hfirst⟩ := Erases.publish depth e j []
  dsimp only at hd hd' hlater hfirst
  rw [hd, List.append_cancel_left_eq] at hd'
  unfold publish
  rw [hlater, hfirst, hreturns, ← hd', List.nil_append]

end FaultTolerance.Publisher
