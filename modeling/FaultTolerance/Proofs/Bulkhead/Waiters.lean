import FaultTolerance.Proofs.Bulkhead.Lobby

/-! No waiter misses a permit.

In a lobby in which nobody sleeps through, the telling makes no difference: a poll answers as if the
sleeper had looked at the counter itself, which is how `Waiter.poll` and the `Ledger` have it
(`Lobby.Attentive.next_ledger`). A caller that is dropped leaves the others what they would have had
if nobody had polled it any more (`Lobby.Attentive.run_without`).

What a waiter is told goes by the timer that it waits on (`Punctual`). The main theorem is
**`no_wakeup_lost`**. -/
namespace FaultTolerance.Bulkhead.Lobby

variable {s t : Lobby} {b : Bulkhead} {x : Nat}

/-! ### The ledger -/

def ledger (s : Lobby) : Ledger :=
  { bulkhead := s.bulkhead, callers := s.guests.map Guest.caller }

theorem rouse_ledger (s : Lobby) : s.rouse.ledger = s.ledger := by
  unfold ledger rouse
  rw [List.map_map]
  congr 1
  exact List.map_congr_left fun g _ => g.woken_caller

theorem giveBack_ledger (s : Lobby) (reported : Bool) :
    (s.giveBack reported).ledger = { s.ledger with bulkhead := s.bulkhead.giveBack reported } := by
  unfold giveBack
  dsimp only
  split
  · rfl
  · exact rouse_ledger _

theorem enter_ledger (s : Lobby) (b : Bulkhead) (answer : Bool ⊕ Sleeper) :
    (s.enter b (.answered answer)).ledger =
      { bulkhead := b,
        callers := s.ledger.callers ++ [.answered (answer.map id Sleeper.waiter)] } := by
  unfold ledger enter
  rw [List.map_append, List.map_singleton, Guest.answered_caller]

theorem change_ledger (s : Lobby) (b : Bulkhead) (x : Nat) (g : Guest) :
    (s.change b x g).ledger = { bulkhead := b, callers := s.ledger.callers.set x g.caller } := by
  unfold ledger change
  rw [List.map_set]

theorem ledger_caller (s : Lobby) (x : Nat) :
    s.ledger.callers[x]? = s.guests[x]?.map Guest.caller := List.getElem?_map

theorem Attentive.poll_ledger [Timer] (h : s.Attentive) (x : Nat) :
    (s.poll x).ledger = s.ledger.next (.poll x s.timer) := by
  unfold Lobby.poll Ledger.next
  dsimp only
  rw [s.ledger_caller x]
  rcases hg : s.guests[x]? with _ | (g | _ | _)
  case some.sleeping =>
    have hlook : g.waiter.poll s.ledger.bulkhead s.timer = _ := g.look_waiter s.bulkhead s.timer
    dsimp only [Option.map_some, Guest.caller]
    rw [h.poll_eq_look hg, hlook, change_ledger, Guest.answered_caller]
  all_goals rfl

theorem abandon_ledger [Timer] (s : Lobby) (x : Nat) :
    (s.abandon x).ledger = s.ledger.next (.abandon x) := by
  unfold abandon Ledger.next
  dsimp only
  rw [s.ledger_caller x]
  rcases s.guests[x]? with _ | (g | _ | _)
  case some.sleeping => exact change_ledger ..
  all_goals rfl

theorem finish_ledger [Timer] (s : Lobby) (x : Nat) (reported : Bool) :
    (s.finish x reported).ledger = s.ledger.next (.finish x reported) := by
  unfold finish Ledger.next
  dsimp only
  rw [s.ledger_caller x]
  rcases s.guests[x]? with _ | (g | _ | _)
  case some.running =>
    dsimp only [Option.map_some, Guest.caller]
    rw [giveBack_ledger, change_ledger]
    rfl
  all_goals rfl

theorem configure_ledger [Timer] (s : Lobby) (config : Config) :
    (s.configure config).ledger = s.ledger.next (.configure config) := by
  have hsame : s.ledger.bulkhead = s.bulkhead := rfl
  unfold configure Ledger.next
  dsimp only
  rw [hsame]
  cases s.bulkhead.configure config with
  | error _ => rfl
  | ok b =>
    dsimp only
    split
    · exact rouse_ledger _
    · rfl

/-- A lobby keeps the ledger in which every poll looks at the counter. -/
theorem Attentive.next_ledger [Timer] (h : s.Attentive) (i : Turn) :
    (s.next i).ledger = (i.step? s.timer).elim s.ledger s.ledger.next := by
  cases i with
  | tick d =>
    show (s.tick d).ledger = s.ledger
    unfold ledger tick
    rfl
  | ask => exact enter_ledger ..
  | come =>
    have hstart : s.ledger.bulkhead.start s.timer = _ := s.newcomer.look_waiter s.bulkhead s.timer
    dsimp only [Turn.step?, Option.elim_some]
    unfold Ledger.next
    dsimp only
    rw [hstart]
    exact enter_ledger ..
  | poll x => exact h.poll_ledger x
  | abandon x => exact abandon_ledger s x
  | finish x reported => exact finish_ledger s x reported
  | configure config => exact configure_ledger s config
  | loose reported => exact giveBack_ledger s reported

/-- The permits that are free are those that the guests of the lobby leave. -/
def Balanced (s : Lobby) : Prop := Conserved s.bulkhead (inFlight s.ledger.callers)

theorem Attentive.next_balanced [Timer] (h : s.Attentive) (hs : s.Balanced) {i : Turn}
    (hfair : i.isFair) : (s.next i).Balanced := by
  unfold Balanced
  show Conserved (s.next i).ledger.bulkhead (inFlight (s.next i).ledger.callers)
  rw [h.next_ledger i]
  cases i with
  | tick _ => exact hs
  | loose _ => cases hfair
  | configure config => exact (s.ledger.next_effect (.configure config)).conserved rfl hfair hs
  | ask => exact (s.ledger.next_effect .ask).conserved rfl rfl hs
  | come => exact (s.ledger.next_effect (.come _)).conserved rfl rfl hs
  | poll x => exact (s.ledger.next_effect (.poll x _)).conserved rfl rfl hs
  | abandon x => exact (s.ledger.next_effect (.abandon x)).conserved rfl rfl hs
  | finish x _ => exact (s.ledger.next_effect (.finish x _)).conserved rfl rfl hs

theorem run_balanced [Timer] (h : s.Attentive) (hs : s.Balanced) (turns : List Turn)
    (hfair : ∀ i ∈ turns, i.isFair) : (turns.foldl next s).Balanced := by
  induction turns generalizing s with
  | nil => exact hs
  | cons i rest ih =>
    have hnext := h.next_balanced hs (hfair i (List.mem_cons_self ..))
    exact ih (h.next i) hnext fun j hj => hfair j (List.mem_cons_of_mem _ hj)

/-! ### Without a guest -/

/-- A lobby that guest `x` has left. -/
def without (s : Lobby) (x : Nat) : Lobby := s.change s.bulkhead x .gone

theorem without_guest_ne (s : Lobby) {y : Nat} (hne : y ≠ x) :
    (s.without x).guests[y]? = s.guests[y]? := List.getElem?_set_ne hne.symm

theorem without_guest_self (hx : x < s.guests.length) :
    (s.without x).guests[x]? = some .gone := List.getElem?_set_self hx

theorem without_rouse (s : Lobby) (x : Nat) : (s.without x).rouse = s.rouse.without x := by
  unfold rouse without change
  rw [List.map_set]
  rfl

theorem without_giveBack (s : Lobby) (x : Nat) (reported : Bool) :
    (s.without x).giveBack reported = (s.giveBack reported).without x := by
  have hroused := without_rouse { s with bulkhead := s.bulkhead.giveBack reported } x
  unfold giveBack
  dsimp only
  rw [apply_ite (without · x), ← hroused]
  rfl

theorem without_configure (s : Lobby) (x : Nat) (config : Config) :
    (s.without x).configure config = (s.configure config).without x := by
  unfold configure
  have hsame : (s.without x).bulkhead = s.bulkhead := rfl
  rw [hsame]
  cases s.bulkhead.configure config with
  | error _ => rfl
  | ok b =>
    have hroused := without_rouse { s with bulkhead := b } x
    dsimp only
    rw [apply_ite (without · x), ← hroused]
    rfl

theorem without_enter (hx : x < s.guests.length) (b : Bulkhead) (g : Guest) :
    (s.without x).enter b g = (s.enter b g).without x := by
  unfold enter without change
  rw [List.set_append_left _ _ hx]

theorem without_change (s : Lobby) {y : Nat} (hne : y ≠ x) (b : Bulkhead) (g : Guest) :
    (s.without x).change b y g = (s.change b y g).without x := by
  unfold without change
  rw [List.set_comm _ _ hne.symm]

/-- Who has left takes no part in what the others do. -/
theorem next_without [Timer] (hx : x < s.guests.length) {i : Turn}
    (hother : i.concerns x = false) : (s.without x).next i = (s.next i).without x := by
  cases i with
  | tick d =>
    show (s.without x).tick d = (s.tick d).without x
    unfold tick without change
    rfl
  | ask | come => exact without_enter hx ..
  | poll y =>
    have hne : y ≠ x := ne_of_beq_false hother
    show (s.without x).poll y = (s.poll y).without x
    unfold Lobby.poll
    rw [without_guest_ne s hne]
    split
    case h_1 => exact without_change s hne ..
    case h_2 => rfl
  | abandon y =>
    have hne : y ≠ x := ne_of_beq_false hother
    show (s.without x).abandon y = (s.abandon y).without x
    unfold abandon
    rw [without_guest_ne s hne]
    split
    case h_1 => exact without_change s hne ..
    case h_2 => rfl
  | finish y reported =>
    have hne : y ≠ x := ne_of_beq_false hother
    have hchange := without_change s hne s.bulkhead .gone
    show (s.without x).finish y reported = (s.finish y reported).without x
    unfold finish
    rw [without_guest_ne s hne]
    split
    case h_1 => exact (congrArg (giveBack · reported) hchange).trans (without_giveBack ..)
    case h_2 => rfl
  | configure config => exact without_configure ..
  | loose reported => exact without_giveBack ..

/-- Who has left does nothing any more. -/
theorem next_without_self [Timer] (hx : x < s.guests.length) {i : Turn} (hself : i.concerns x) :
    (s.without x).next i = s.without x := by
  have hgone := without_guest_self hx
  cases i with
  | poll y =>
    obtain rfl : y = x := eq_of_beq hself
    show (s.without y).poll y = _
    unfold Lobby.poll
    rw [hgone]
  | abandon y =>
    obtain rfl : y = x := eq_of_beq hself
    show (s.without y).abandon y = _
    unfold abandon
    rw [hgone]
  | finish y reported =>
    obtain rfl : y = x := eq_of_beq hself
    show (s.without y).finish y reported = _
    unfold finish
    rw [hgone]
  | tick _ | ask | come | configure _ | loose _ => cases hself

theorem Moves.length_le [Timer] (h : Moves s t) : s.guests.length ≤ t.guests.length := by
  induction h with
  | idle _ | ticks _ | spends _ => exact Nat.le_refl _
  | @enters s b g _ _ =>
    show s.guests.length ≤ (s.guests ++ [g]).length
    rw [List.length_append]
    exact Nat.le_add_right ..
  | changes _ _ _ _ => exact Nat.le_of_eq List.length_set.symm
  | rouses _ _ => exact Nat.le_of_eq (List.length_map _).symm
  | trans _ _ hfirst hsecond => exact Nat.le_trans hfirst hsecond

theorem Attentive.run_without [Timer] (h : s.Attentive) (hx : x < s.guests.length)
    (turns : List Turn) :
    turns.foldl Lobby.next (s.without x) =
      ((turns.filter fun i => !i.concerns x).foldl Lobby.next s).without x := by
  induction turns generalizing s with
  | nil => rfl
  | cons i rest ih =>
    rw [List.foldl_cons]
    cases hconcerns : i.concerns x with
    | true =>
      rw [next_without_self hx hconcerns, ih h hx, List.filter_cons_of_neg (by simp [hconcerns])]
    | false =>
      have hlater := Nat.lt_of_lt_of_le hx (h.next_moves i).length_le
      rw [next_without hx hconcerns, ih (h.next i) hlater,
        List.filter_cons_of_pos (by simp [hconcerns]), List.foldl_cons]

/-! ### The law of waiting -/

theorem start_attentive [Timer] (b : Bulkhead) : Attentive { bulkhead := b } where
  range := Timer.range_pos
  dozing := nofun

theorem start_balanced {name : String} {config : Config} (hnew : new name config = .ok b)
    (hlimit : config.maxConcurrentCalls ≤ Step.greatestLimit) : Balanced { bulkhead := b } := by
  obtain ⟨rfl, hfull⟩ := new_eq_ok hnew
  refine ⟨hlimit, ?_, Nat.zero_le _⟩
  show b.available = _ - ((0 : Nat) : Int)
  rw [hfull, Config.capacity_of_le hlimit, Int.natCast_zero, Int.sub_zero]

/-- If a permit is free, whoever sleeps has been told. -/
theorem Attentive.signalled [Timer] (h : s.Attentive) (hfree : 0 < s.bulkhead.metrics.available)
    {g : Sleeper} (hg : .sleeping g ∈ s.guests) : g.signalled := by
  rw [metrics_available_pos] at hfree
  cases hsignalled : g.signalled with
  | true => rfl
  | false => exact absurd (h.dozing g hg hsignalled) (Int.not_le.mpr hfree)

theorem abandon_sleeping {g : Sleeper} (hg : s.guests[x]? = some (.sleeping g)) :
    s.abandon x = s.without x := by
  unfold abandon
  rw [hg]
  rfl

section Owed
variable [Timer]

/-- An answer to a waiter with this deadline. It goes by when the timer takes the deadline for
passed, so nobody is refused before it; and where the timer is exact, by the deadline itself. -/
structure Punctual {α : Type} (b : Bulkhead) (deadline timer : Nat) (waiter : α)
    (answer : Bulkhead × List Event × (Bool ⊕ α)) : Prop where
  owed : answer = owed b (Timer.expiry deadline) timer waiter
  notEarly : answer.2.2 = .inl false → deadline ≤ timer
  exact : Timer.ExactAt timer → answer = Bulkhead.owed b deadline timer waiter

theorem owed_punctual {α : Type} (b : Bulkhead) (deadline timer : Nat) (waiter : α) :
    Punctual b deadline timer waiter (owed b (Timer.expiry deadline) timer waiter) where
  owed := rfl
  notEarly hrefused := by
    unfold Bulkhead.owed at hrefused
    split at hrefused
    · cases hrefused
    · split at hrefused
      case isTrue hover => exact Nat.le_trans (Timer.le_expiry deadline) hover
      case isFalse => cases hrefused
  exact hexact := by
    unfold Bulkhead.owed
    simp only [hexact.expiry_le_iff]

variable {g : Sleeper} {came : Bulkhead} {since : Nat}

theorem Attentive.look_punctual (h : s.Attentive) (hg : g.waiter = ⟨came.deadlineAt since⟩) :
    Punctual s.bulkhead (since + came.config.maxWait.nanos) s.timer g.arm
      (g.look s.bulkhead s.timer) := by
  rw [Sleeper.look_eq_owed h.range hg s.bulkhead]
  exact owed_punctual ..

/-- The program's waiter is answered the same. -/
theorem Attentive.waiter_punctual (h : s.Attentive) (hg : g.waiter = ⟨came.deadlineAt since⟩) :
    Punctual s.bulkhead (since + came.config.maxWait.nanos) s.timer g.waiter
      (g.waiter.poll s.bulkhead s.timer) := by
  have hsame : g.waiter.poll s.bulkhead s.timer =
      owed s.bulkhead (Timer.expiry (since + came.config.maxWait.nanos)) s.timer g.waiter := by
    rw [g.look_waiter, Sleeper.look_eq_owed h.range hg s.bulkhead]
    unfold owed
    split
    · rfl
    · split <;> rfl
  rw [hsame]
  exact owed_punctual ..

theorem poll_guest (hx : s.guests[x]? = some (.sleeping g)) :
    (s.poll x).guests[x]? = some (.answered (g.poll s.bulkhead s.timer).2.2) := by
  obtain ⟨hlt, _⟩ := List.getElem?_eq_some_iff.mp hx
  unfold Lobby.poll
  rw [hx]
  exact List.getElem?_set_self hlt

theorem come_guest (s : Lobby) :
    (s.next .come).guests[s.guests.length]? =
      some (.answered (s.newcomer.look s.bulkhead s.timer).2.2) :=
  List.getElem?_concat_length

end Owed

/-- **No waiter misses a permit.** Whatever has happened before it came and since, a waiter that is
polled gets a permit if one is free at that moment, is refused if none is and its deadline, the time
at which it came and the wait that was in force then, has been reached, and is left pending
otherwise; so it is at its first poll. Whether a deadline has been reached is for the timer to say,
and no timer says so too early. If a permit is free, whoever sleeps has been told. Where no permit
is made up and the limits are in the range of the counter, the free permits are those that the
running guests leave. When a waiter is dropped all goes on as if it had not been polled any more. -/
theorem no_wakeup_lost [Timer] {name : String} {config : Config} (hnew : new name config = .ok b)
    (earlier later : List Turn) :
    let came := earlier.foldl next { bulkhead := b }
    let x := came.guests.length
    let deadline := came.timer + came.bulkhead.config.maxWait.nanos
    let s := later.foldl next (came.next .come)
    Punctual came.bulkhead deadline came.timer ⟨came.bulkhead.deadlineAt came.timer⟩
      (came.bulkhead.start came.timer) ∧
    Punctual came.bulkhead deadline came.timer came.newcomer
      (came.newcomer.look came.bulkhead came.timer) ∧
    (came.next .come).guests[x]? =
      some (.answered (came.newcomer.look came.bulkhead came.timer).2.2) ∧
    (∀ g, s.guests[x]? = some (.sleeping g) →
      Punctual s.bulkhead deadline s.timer g.arm (g.poll s.bulkhead s.timer) ∧
      Punctual s.bulkhead deadline s.timer g.waiter (g.waiter.poll s.bulkhead s.timer) ∧
      (s.next (.poll x)).guests[x]? = some (.answered (g.poll s.bulkhead s.timer).2.2) ∧
      ∀ after : List Turn, after.foldl next (s.next (.abandon x)) =
        ((after.filter fun i => !i.concerns x).foldl next s).without x) ∧
    (0 < s.bulkhead.metrics.available → ∀ g, .sleeping g ∈ s.guests → g.signalled) ∧
    (config.maxConcurrentCalls ≤ Step.greatestLimit →
      (∀ i ∈ earlier, i.isFair) → (∀ i ∈ later, i.isFair) →
      s.bulkhead.available =
        s.bulkhead.config.maxConcurrentCalls - inFlight s.ledger.callers) := by
  intro came x deadline s
  have hcame : came.Attentive := (start_attentive b).run earlier
  have hs : s.Attentive := (hcame.next .come).run later
  have hwaits : Awaits x ⟨came.bulkhead.deadlineAt came.timer⟩ s :=
    came.come_awaits.run (hcame.next .come) later
  have hnewcomer : came.newcomer.waiter = ⟨came.bulkhead.deadlineAt came.timer⟩ := rfl
  refine ⟨hcame.waiter_punctual hnewcomer, hcame.look_punctual hnewcomer, came.come_guest,
    fun g hg => ?_, fun hfree g hg => ?_, fun hlimit hearlier hlater => ?_⟩
  · have hwaiter := hwaits.waiter g hg
    have hgone : s.next (.abandon x) = s.without x := abandon_sleeping hg
    refine ⟨?_, hs.waiter_punctual hwaiter, poll_guest hg, fun after => ?_⟩
    · rw [hs.poll_eq_look hg]
      exact hs.look_punctual hwaiter
    · rw [hgone]
      exact hs.run_without hwaits.lt after
  · exact hs.signalled hfree hg
  · have hstart := start_balanced hnew hlimit
    have hbefore := run_balanced (start_attentive b) hstart earlier hearlier
    have hthere := hcame.next_balanced hbefore (i := .come) rfl
    exact (run_balanced (hcame.next .come) hthere later hlater).counter

/-- A pool for one call at a time. -/
def desk : Bulkhead :=
  { name := "desk", config := { maxConcurrentCalls := 1, maxWait := .ofSeconds 2 }, available := 1 }

/-- A second waiter comes, is told of the permit that comes back and gets it. A look between two
milliseconds leaves the first one as it is, and then the other gives the permit back. -/
def overtaken : List Turn :=
  [.come, .finish 0 true, .poll 2, .tick ⟨1499999300⟩, .poll 1, .tick ⟨700⟩, .finish 2 true]

theorem overtaken_is_served :
    let s := overtaken.foldl next ([.ask].foldl next { bulkhead := desk } |>.next .come)
    s.guests = [.gone, .sleeping ⟨⟨some 2000000000⟩, true⟩, .gone] ∧
      (s.next (.poll 1)).guests[1]? = some .running := by
  have hnew : new "desk" desk.config = .ok desk := new_of_validate "desk" rfl (by decide)
  obtain ⟨-, -, -, hpolled, -⟩ := no_wakeup_lost hnew [.ask] overtaken
  intro s
  have hguests : s.guests = [.gone, .sleeping ⟨⟨some 2000000000⟩, true⟩, .gone] := by
    decide +kernel
  have hfree : s.bulkhead.metrics.available = 1 := by decide +kernel
  have hexact : Timer.ExactAt s.timer := Timer.exactAt_of_dvd (by decide +kernel)
  obtain ⟨hserved, -, hguest, -⟩ := hpolled ⟨⟨some 2000000000⟩, true⟩ (by
    show s.guests[1]? = _
    rw [hguests]
    rfl)
  refine ⟨hguests, hguest.trans ?_⟩
  rw [hserved.exact hexact]
  unfold owed
  rw [if_pos (by rw [hfree]; decide)]
  rfl

end FaultTolerance.Bulkhead.Lobby
