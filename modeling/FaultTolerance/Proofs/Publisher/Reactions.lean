import FaultTolerance.Proofs.Publisher.History

/-! What does not show in a history.

A panic unwinds what its consumer has still to do. It is caught there (`Journal.publish_returns`),
and so it ends one reaction and nothing else: were the consumer to end there without a panic, all
that happens would be the same (**`Journal.run_calm`**). How deep consumers may publish in
return does not show either unless one does: where none does, every depth but zero comes to the same
(**`Journal.run_silent`**). -/
namespace FaultTolerance

/-! ### Panics -/

/-- A reaction that ends where it would panic, as do those of the consumers that it adds. -/
def Reaction.calm {π : Type} : Reaction π → Reaction π
  | .done | .panic => .done
  | .subscribe kind consumer next =>
    .subscribe kind (fun e => (consumer e).calm) fun id => (next id).calm
  | .unsubscribe id next => .unsubscribe id next.calm
  | .publish event next => .publish event next.calm

namespace Publisher
variable {π : Type}

def calmed (s : Subscription π) : Subscription π :=
  { s with consumer := fun e => (s.consumer e).calm }

def calm (p : Publisher π) : Publisher π :=
  { p with subscriptions := p.subscriptions.map calmed }

def Call.calm : Call π → Call π
  | subscribe kind consumer => .subscribe kind fun e => (consumer e).calm
  | unsubscribe id => .unsubscribe id
  | publish event => .publish event

namespace Journal

def calm (j : Journal π) : Journal π := { j with publisher := j.publisher.calm }

theorem subscribe_calm (j : Journal π) (kind : Option String)
    (consumer : Event π → Reaction π) :
    j.calm.subscribe kind (fun e => (consumer e).calm) =
      ((j.subscribe kind consumer).1.calm, (j.subscribe kind consumer).2) := by
  have hsubs (s : Subscription π) : (j.publisher.subscriptions ++ [s]).map calmed =
      j.publisher.subscriptions.map calmed ++ [calmed s] := List.map_append
  unfold calm subscribe Publisher.calm Publisher.subscribe
  dsimp only
  rw [hsubs]
  rfl

theorem unsubscribe_calm (j : Journal π) (id : Nat) :
    j.calm.unsubscribe id = (j.unsubscribe id).calm := by
  have hothers : (j.publisher.subscriptions.map calmed).filter (·.id ≠ id) =
      (j.publisher.subscriptions.filter (·.id ≠ id)).map calmed := by
    rw [List.filter_map]
    rfl
  have hany : (j.publisher.subscriptions.map calmed).any (·.id = id) =
      j.publisher.subscriptions.any (·.id = id) := by
    rw [List.any_map]
    rfl
  unfold calm unsubscribe Publisher.calm Publisher.unsubscribe
  dsimp only
  rw [hothers, hany]

/-- A calm reaction comes to its end, and has done what the other one has done until its panic. What
is published in return must not unwind either of them. -/
theorem enact_calm {publish : Journal π → Event π → Run (Journal π)}
    (hpublish : ∀ j e, publish j.calm e = { state := (publish j e).state.calm })
    (hreturns : ∀ j e, (publish j e).unwinding = false) (r : Reaction π) (j : Journal π) :
    r.calm.enact publish j.calm = { state := (r.enact publish j).state.calm } := by
  induction r generalizing j with
  | done | panic => rfl
  | subscribe kind consumer next _ ih =>
    have hsame := j.subscribe_calm kind consumer
    unfold Reaction.calm Reaction.enact
    rw [hsame]
    exact ih _ _
  | unsubscribe id next ih =>
    unfold Reaction.calm Reaction.enact
    rw [unsubscribe_calm]
    exact ih _
  | publish event next ih =>
    unfold Reaction.calm Reaction.enact
    rw [hpublish, Run.andThen_returned rfl, Run.andThen_returned (hreturns j event)]
    exact ih _

theorem deliver_calm {react : Reaction π → Journal π → Run (Journal π)}
    (hreact : ∀ r j, react r.calm j.calm = { state := (react r j).state.calm }) (round : Nat)
    (e : Event π) (subs : List (Subscription π)) (j : Journal π) :
    deliver react round e (subs.map calmed) j.calm =
      { state := (deliver react round e subs j).state.calm } := by
  induction subs generalizing j with
  | nil => rfl
  | cons s rest ih =>
    show deliver react round e (rest.map calmed)
      (react (s.consumer e).calm (j.hand round ⟨s.id, e⟩).calm).state = _
    rw [hreact]
    exact ih _

variable [Reported π]

theorem publish_calm (depth : Nat) (j : Journal π) (e : Event π) :
    j.calm.publish depth e = { state := (j.publish depth e).state.calm } := by
  have hwants (j : Journal π) (e : Event π) :
      j.calm.publisher.subscriptions.filter (·.wants e) =
        (j.publisher.subscriptions.filter (·.wants e)).map calmed := by
    show (j.publisher.subscriptions.map calmed).filter (·.wants e) = _
    rw [List.filter_map]
    rfl
  induction depth generalizing j e with
  | zero =>
    unfold publish
    rw [hwants]
    exact @deliver_calm π (fun _ j => { state := j }) (fun _ _ => rfl) j.rounds e _ (j.begin e)
  | succ depth ih =>
    unfold publish
    rw [hwants]
    exact deliver_calm (enact_calm ih (publish_returns depth)) j.rounds e _ (j.begin e)

/-- **A panic changes nothing of what happens.** -/
theorem run_calm (depth : Nat) (calls : List (Call π)) (j : Journal π) :
    j.calm.run depth (calls.map .calm) = { state := (j.run depth calls).state.calm } := by
  induction calls generalizing j with
  | nil => rfl
  | cons call rest ih =>
    have hact : (j.calm.act depth call.calm).state = (j.act depth call).state.calm := by
      cases call with
      | subscribe kind consumer => exact congrArg Prod.fst (j.subscribe_calm kind consumer)
      | unsubscribe id => exact j.unsubscribe_calm id
      | publish event => exact congrArg Run.state (j.publish_calm depth event)
    rw [List.map_cons, run_cons, run_cons, hact]
    exact ih _

end Journal
end Publisher

/-! ### Depth -/

/-- A reaction that does not publish, nor do those of the consumers that it adds. -/
def Reaction.Silent {π : Type} : Reaction π → Prop
  | .done | .panic => True
  | .subscribe _ consumer next => (∀ e, (consumer e).Silent) ∧ ∀ id, (next id).Silent
  | .unsubscribe _ next => next.Silent
  | .publish .. => False

namespace Publisher
variable {π : Type}

def Call.Silent : Call π → Prop
  | subscribe _ consumer => ∀ e, (consumer e).Silent
  | unsubscribe _ | publish _ => True

namespace Journal

/-- No consumer publishes. -/
def Silent (j : Journal π) : Prop := ∀ s ∈ j.publisher.subscriptions, ∀ e, (s.consumer e).Silent

theorem Silent.subscribe {j : Journal π} (hj : j.Silent) {kind : Option String}
    {consumer : Event π → Reaction π} (hconsumer : ∀ e, (consumer e).Silent) :
    (j.subscribe kind consumer).1.Silent := by
  intro s hs
  rcases List.mem_append.mp hs with hold | hnew
  · exact hj s hold
  · rw [List.mem_singleton.mp hnew]
    exact hconsumer

theorem Silent.unsubscribe {j : Journal π} (hj : j.Silent) (id : Nat) :
    (j.unsubscribe id).Silent := fun s hs => hj s (List.mem_of_mem_filter hs)

/-- What consumers would publish in return does not matter if they do not. -/
theorem Silent.enact {j : Journal π} (hj : j.Silent) {r : Reaction π} (hr : r.Silent)
    (publish publish' : Journal π → Event π → Run (Journal π)) :
    (r.enact publish j).state.Silent ∧ r.enact publish j = r.enact publish' j := by
  induction r generalizing j with
  | done | panic => exact ⟨hj, rfl⟩
  | subscribe kind consumer next _ ih => exact ih _ (hj.subscribe hr.1) (hr.2 _)
  | unsubscribe id next ih => exact ih (hj.unsubscribe id) hr
  | publish event next => exact hr.elim

theorem Silent.deliver {j : Journal π} (hj : j.Silent) {subs : List (Subscription π)}
    (hsubs : ∀ s ∈ subs, ∀ e, (s.consumer e).Silent)
    (publish publish' : Journal π → Event π → Run (Journal π)) (round : Nat) (e : Event π) :
    (Journal.deliver (Reaction.enact publish) round e subs j).state.Silent ∧
      Journal.deliver (Reaction.enact publish) round e subs j =
        Journal.deliver (Reaction.enact publish') round e subs j := by
  induction subs generalizing j with
  | nil => exact ⟨hj, rfl⟩
  | cons s rest ih =>
    obtain ⟨hs, hrest⟩ := List.forall_mem_cons.mp hsubs
    have hhand : (j.hand round ⟨s.id, e⟩).Silent := hj
    obtain ⟨hnext, hsame⟩ := hhand.enact (hs e) publish publish'
    obtain ⟨hafter, hlast⟩ := ih hnext hrest
    refine ⟨hafter, hlast.trans ?_⟩
    rw [hsame]
    rfl

variable [Reported π]

theorem Silent.publish {j : Journal π} (hj : j.Silent) (depth : Nat) (e : Event π) :
    (j.publish (depth + 1) e).state.Silent ∧ j.publish (depth + 1) e = j.publish 1 e :=
  Silent.deliver (j := j.begin e) hj (fun s hs => hj s (List.mem_of_mem_filter hs)) ..

/-- **Depth does not matter where no consumer publishes.** -/
theorem run_silent {j : Journal π} (hj : j.Silent) {calls : List (Call π)}
    (hcalls : ∀ call ∈ calls, call.Silent) (depth : Nat) :
    j.run (depth + 1) calls = j.run 1 calls := by
  induction calls generalizing j with
  | nil => rfl
  | cons call rest ih =>
    obtain ⟨hcall, hrest⟩ := List.forall_mem_cons.mp hcalls
    have hact : (j.act (depth + 1) call).state.Silent ∧ j.act (depth + 1) call = j.act 1 call := by
      cases call with
      | subscribe kind consumer => exact ⟨hj.subscribe hcall, rfl⟩
      | unsubscribe id => exact ⟨hj.unsubscribe id, rfl⟩
      | publish event => exact hj.publish depth event
    rw [run_cons, run_cons, ← hact.2]
    exact ih hact.1 hrest

end Journal
end Publisher
end FaultTolerance
