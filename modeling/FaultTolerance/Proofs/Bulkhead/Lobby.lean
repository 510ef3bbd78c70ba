import FaultTolerance.Proofs.Bulkhead.Permits

/-! Suspended callers of a bulkhead, and how they are told to look.

A suspended caller does not look at the counter on its own. It sleeps, and a poll makes it look only
if it has been told to since it last looked, or if its time is over. Whatever frees a permit, be it
a permit that comes back or a limit that grows, tells everybody who sleeps at that moment. A look
arms the sleeper anew, tries to take a permit, and goes back to sleep if there is none and time is
left.

`Lobby` is a bulkhead with its callers and a timer, of which no more is known than that it never
takes a deadline for passed too early. A turn is one operation as a whole. Its invariant is that
nobody who has not been told has something to look for (`Attentive`); what a turn can do at all is
said once, in `Moves`. -/
namespace FaultTolerance

namespace Timer

/-- Whether a timer is exact at a reading: every deadline that has been reached counts as passed. -/
def ExactAt [Timer] (now : Nat) : Prop := ∀ deadline, deadline ≤ now → expiry deadline ≤ now

theorem ExactAt.expiry_le_iff [Timer] {now : Nat} (h : ExactAt now) (deadline : Nat) :
    expiry deadline ≤ now ↔ deadline ≤ now :=
  ⟨Nat.le_trans (le_expiry deadline), h deadline⟩

/-- A timer that goes off at whole milliseconds is exact there. -/
theorem exactAt_of_dvd {now : Nat} (h : 1000000 ∣ now) : ExactAt now := by
  intro deadline hreached
  show roundUp deadline ≤ now
  unfold roundUp
  omega

end Timer

namespace Bulkhead

/-! ### Sleepers -/

/-- A suspended caller. -/
structure Sleeper where
  waiter : Waiter
  /-- Whether it has been told to look since it last looked. -/
  signalled : Bool := false
  deriving DecidableEq, Repr

namespace Sleeper

def wake (g : Sleeper) : Sleeper := { g with signalled := true }

/-- Forgets what it has been told. -/
def arm (g : Sleeper) : Sleeper := { g with signalled := false }

variable [Timer]

/-- Whether the timer has gone off. -/
def isOver (g : Sleeper) (timer : Nat) : Bool := g.waiter.deadline.any (Timer.expiry · ≤ timer)

/-- One round of waiting: it arms itself, tries, and goes to sleep again if it may. -/
def look (g : Sleeper) (b : Bulkhead) (timer : Nat) :
    Bulkhead × List Event × (Bool ⊕ Sleeper) :=
  match b.take? with
  | some b => (b, [.callPermitted], .inl true)
  | none => if g.isOver timer then (b, [.callRejected], .inl false) else (b, [], .inr g.arm)

/-- A poll. Who has not been told and has time left sleeps on. -/
def poll (g : Sleeper) (b : Bulkhead) (timer : Nat) :
    Bulkhead × List Event × (Bool ⊕ Sleeper) :=
  if g.signalled || g.isOver timer then g.look b timer else (b, [], .inr g)

end Sleeper

/-- What a waiter is owed: a permit if one is free, a refusal if none is and its deadline has been
reached, and patience otherwise. -/
def owed {α : Type} (b : Bulkhead) (deadline timer : Nat) (waiter : α) :
    Bulkhead × List Event × (Bool ⊕ α) :=
  if 0 < b.metrics.available then
    ({ b with available := b.available - 1 }, [.callPermitted], .inl true)
  else if deadline ≤ timer then (b, [.callRejected], .inl false)
  else (b, [], .inr waiter)

/-! ### A look at the counter -/

theorem metrics_available_pos {b : Bulkhead} : 0 < b.metrics.available ↔ 0 < b.available := by
  unfold metrics
  dsimp only
  omega

section Look
variable [Timer] {b : Bulkhead} {g : Sleeper} {timer : Nat}

/-- A deadline beyond the range of the timer is never reached. -/
theorem deadlineAt_over (hrange : timer < Timer.range) (b : Bulkhead) (since : Nat) :
    (b.deadlineAt since).any (Timer.expiry · ≤ timer) ↔
      Timer.expiry (since + b.config.maxWait.nanos) ≤ timer := by
  unfold deadlineAt
  split
  case isTrue => rw [Option.any_some, decide_eq_true_iff]
  case isFalse hfar =>
    rw [Bool.or_eq_true, decide_eq_true_iff, decide_eq_true_iff, not_or, Nat.not_lt] at hfar
    have hlater := Timer.le_expiry (since + b.config.maxWait.nanos)
    have hnever : ¬ Timer.expiry (since + b.config.maxWait.nanos) ≤ timer := by omega
    rw [Option.any_none]
    exact ⟨nofun, fun hover => absurd hover hnever⟩

theorem Sleeper.look_answered (g : Sleeper) (b : Bulkhead) (timer : Nat) :
    Answered b (g.look b timer).1 ((g.look b timer).2.2.map id waiter) := by
  unfold look
  rcases Int.lt_or_le 0 b.available with hfree | hnone
  · rw [take?_of_pos hfree]
    exact .served hfree
  · rw [take?_of_nonpos hnone]
    dsimp only
    split <;> exact .unserved hnone nofun

/-- The program's waiter looks the same way. -/
theorem Sleeper.look_waiter (g : Sleeper) (b : Bulkhead) (timer : Nat) :
    g.waiter.poll b timer =
      ((g.look b timer).1, (g.look b timer).2.1, (g.look b timer).2.2.map id waiter) := by
  unfold look Waiter.poll isOver
  cases b.take? with
  | some _ => rfl
  | none =>
    dsimp only
    split <;> rfl

/-- A look gives what is owed at the deadline of the bulkhead that was there when the sleeper
came. -/
theorem Sleeper.look_eq_owed (hrange : timer < Timer.range) {came : Bulkhead} {since : Nat}
    (hg : g.waiter = ⟨came.deadlineAt since⟩) (b : Bulkhead) :
    g.look b timer = owed b (Timer.expiry (since + came.config.maxWait.nanos)) timer g.arm := by
  have hover : g.isOver timer ↔ Timer.expiry (since + came.config.maxWait.nanos) ≤ timer := by
    unfold isOver
    rw [hg, deadlineAt_over hrange]
  unfold look owed
  simp only [metrics_available_pos, ← hover]
  rcases Int.lt_or_le 0 b.available with hfree | hnone
  · rw [take?_of_pos hfree, if_pos hfree]
  · rw [take?_of_nonpos hnone, if_neg (Int.not_lt.mpr hnone)]

/-- Who has not been told misses nothing if there is nothing to take. -/
theorem Sleeper.poll_eq_look (hdozing : g.signalled = false → b.available ≤ 0) (timer : Nat) :
    g.poll b timer = g.look b timer := by
  unfold poll
  split
  case isTrue => rfl
  case isFalse hasleep =>
    rw [Bool.or_eq_true, not_or, Bool.not_eq_true, Bool.not_eq_true] at hasleep
    obtain ⟨hsignalled, hearly⟩ := hasleep
    have harmed : g.arm = g := by
      unfold arm
      rw [← hsignalled]
    unfold look
    rw [take?_of_nonpos (hdozing hsignalled), hearly, harmed]
    rfl

end Look

/-! ### A lobby -/

inductive Guest where
  | sleeping (g : Sleeper)
  /-- It holds a permit. -/
  | running
  | gone
  deriving DecidableEq, Repr

namespace Guest

def answered : Bool ⊕ Sleeper → Guest
  | .inl true => running
  | .inl false => gone
  | .inr g => sleeping g

def woken : Guest → Guest
  | sleeping g => sleeping g.wake
  | running => running
  | gone => gone

def caller : Guest → Caller
  | sleeping g => .waiting g.waiter
  | running => .running
  | gone => .gone

end Guest

inductive Turn where
  /-- The timer moves. It stops short of the end of its range. -/
  | tick (d : Duration)
  /-- Somebody asks on a thread and does not wait. -/
  | ask
  /-- A suspended caller starts and is polled for the first time. -/
  | come
  | poll (guest : Nat)
  /-- A suspended caller is dropped. -/
  | abandon (guest : Nat)
  /-- A permit is given back, with a report or without one. -/
  | finish (guest : Nat) (reported : Bool)
  | configure (config : Config)
  /-- A permit is given back that belongs to nobody. -/
  | loose (reported : Bool)

namespace Turn

/-- Whether a turn is about this guest. -/
def concerns (x : Nat) : Turn → Bool
  | poll guest | abandon guest | finish guest _ => guest == x
  | _ => false

/-- No permit is made up and no limit is beyond the range of the counter. -/
def isFair : Turn → Bool
  | loose _ => false
  | configure config => config.maxConcurrentCalls ≤ Step.greatestLimit
  | _ => true

/-- The step of the ledger that a turn is. -/
def step? (timer : Nat) : Turn → Option Step
  | tick _ => none
  | ask => some .ask
  | come => some (.come timer)
  | poll guest => some (.poll guest timer)
  | abandon guest => some (.abandon guest)
  | finish guest reported => some (.finish guest reported)
  | configure config => some (.configure config)
  | loose reported => some (.loose reported)

end Turn

structure Lobby where
  bulkhead : Bulkhead
  timer : Nat := 0
  guests : List Guest := []

namespace Lobby

/-- Tells everybody who sleeps to look. -/
def rouse (s : Lobby) : Lobby := { s with guests := s.guests.map .woken }

/-- Gives a permit back and tells of it, unless nothing is owed. -/
def giveBack (s : Lobby) (reported : Bool) : Lobby :=
  let t := { s with bulkhead := s.bulkhead.giveBack reported }
  if s.bulkhead.config.capacity ≤ s.bulkhead.available then t else t.rouse

/-- Takes a new limit over and tells of it if it has grown. -/
def configure (s : Lobby) (config : Config) : Lobby :=
  match s.bulkhead.configure config with
  | .ok b =>
    let t := { s with bulkhead := b }
    if 0 < config.capacity - s.bulkhead.config.capacity then t.rouse else t
  | .error _ => s

variable [Timer]

/-- Who comes now. -/
def newcomer (s : Lobby) : Sleeper := ⟨⟨s.bulkhead.deadlineAt s.timer⟩, false⟩

def enter (s : Lobby) (b : Bulkhead) (g : Guest) : Lobby :=
  { s with bulkhead := b, guests := s.guests ++ [g] }

def change (s : Lobby) (b : Bulkhead) (x : Nat) (g : Guest) : Lobby :=
  { s with bulkhead := b, guests := s.guests.set x g }

def tick (s : Lobby) (d : Duration) : Lobby :=
  let later := s.timer + d.nanos
  { s with timer := if later < Timer.range then later else s.timer }

def poll (s : Lobby) (x : Nat) : Lobby :=
  match s.guests[x]? with
  | some (.sleeping g) =>
    let (b, _, answer) := g.poll s.bulkhead s.timer
    s.change b x (.answered answer)
  | _ => s

def abandon (s : Lobby) (x : Nat) : Lobby :=
  match s.guests[x]? with
  | some (.sleeping _) => s.change s.bulkhead x .gone
  | _ => s

def finish (s : Lobby) (x : Nat) (reported : Bool) : Lobby :=
  match s.guests[x]? with
  | some .running => (s.change s.bulkhead x .gone).giveBack reported
  | _ => s

def next (s : Lobby) : Turn → Lobby
  | .tick d => s.tick d
  | .ask =>
    let (b, _, admitted) := s.bulkhead.tryAcquire
    s.enter b (.answered (.inl admitted))
  | .come =>
    let (b, _, answer) := s.newcomer.look s.bulkhead s.timer
    s.enter b (.answered answer)
  | .poll x => s.poll x
  | .abandon x => s.abandon x
  | .finish x reported => s.finish x reported
  | .configure config => s.configure config
  | .loose reported => s.giveBack reported

end Lobby

/-! ### What an answer says -/

section Answers
variable {b m : Bulkhead} {g w : Sleeper} {timer : Nat}

theorem Answered.available_le {answer : Bool ⊕ Waiter} (h : Answered b m answer) :
    m.available ≤ b.available := by
  cases h with
  | served _ => exact Int.sub_le_self _ (by decide)
  | unserved _ _ => exact Int.le_refl _

/-- Whoever gets no permit leaves none behind. -/
theorem Answered.available_nonpos {answer : Bool ⊕ Waiter} (h : Answered b m answer)
    (hanswer : answer ≠ .inl true) : m.available ≤ 0 := by
  cases h with
  | served _ => exact absurd rfl hanswer
  | unserved hnone _ => exact hnone

theorem Guest.answered_eq_sleeping {answer : Bool ⊕ Sleeper} :
    Guest.answered answer = .sleeping w ↔ answer = .inr w := by
  rcases answer with (_ | _) | _ <;> simp [Guest.answered]

theorem Guest.answered_caller (answer : Bool ⊕ Sleeper) :
    (Guest.answered answer).caller = .answered (answer.map id Sleeper.waiter) := by
  rcases answer with (_ | _) | _ <;> rfl

theorem Guest.woken_caller (g : Guest) : g.woken.caller = g.caller := by
  cases g <;> rfl

variable [Timer]

/-- Whoever sleeps on after a look has found nothing. -/
theorem Sleeper.look_sleeping (h : Guest.answered (g.look b timer).2.2 = .sleeping w) :
    (g.look b timer).1.available ≤ 0 := by
  have hpending := Guest.answered_eq_sleeping.mp h
  refine (g.look_answered b timer).available_nonpos ?_
  rw [hpending]
  nofun

theorem Sleeper.look_pending (h : (g.look b timer).2.2 = .inr w) : w = g.arm := by
  unfold look at h
  split at h
  case h_1 => cases h
  case h_2 =>
    split at h
    case isTrue => cases h
    case isFalse =>
      cases h
      rfl

end Answers

namespace Lobby
variable [Timer] {s t u : Lobby} {b : Bulkhead} {x : Nat}

/-! ### What a turn does -/

/-- Whoever has not been told has nothing to look for. -/
structure Attentive (s : Lobby) : Prop where
  range : s.timer < Timer.range
  dozing : ∀ g, .sleeping g ∈ s.guests → g.signalled = false → s.bulkhead.available ≤ 0

/-- What can become of a lobby. Everybody is told whenever there may be more permits than before,
and whoever goes to sleep has found none. -/
inductive Moves : Lobby → Lobby → Prop
  | idle (s : Lobby) : Moves s s
  | ticks {s : Lobby} {later : Nat} (hrange : later < Timer.range) :
    Moves s { s with timer := later }
  | enters {s : Lobby} {b : Bulkhead} {g : Guest} (hle : b.available ≤ s.bulkhead.available)
    (hnew : ∀ w, g = .sleeping w → b.available ≤ 0) : Moves s (s.enter b g)
  | changes {s : Lobby} {b : Bulkhead} {g : Guest} (x : Nat)
    (hle : b.available ≤ s.bulkhead.available) (hnew : ∀ w, g = .sleeping w → b.available ≤ 0)
    (hold : ∀ w, g = .sleeping w → ∃ old, s.guests[x]? = some (.sleeping old) ∧ w = old.arm) :
    Moves s (s.change b x g)
  | spends {s : Lobby} {b : Bulkhead} (hle : b.available ≤ s.bulkhead.available) :
    Moves s { s with bulkhead := b }
  | rouses (s : Lobby) (b : Bulkhead) : Moves s { s with bulkhead := b }.rouse
  | trans {s t u : Lobby} (first : Moves s t) (second : Moves t u) : Moves s u

theorem leave_moves (s : Lobby) (x : Nat) : Moves s (s.change s.bulkhead x .gone) :=
  .changes x (Int.le_refl _) nofun nofun

theorem giveBack_moves (s : Lobby) (reported : Bool) : Moves s (s.giveBack reported) := by
  unfold giveBack
  rw [giveBack_eq]
  dsimp only
  split
  case isTrue hfull =>
    refine .spends (Int.le_of_eq ?_)
    unfold release
    rw [if_pos hfull]
  case isFalse => exact .rouses s _

theorem configure_moves (s : Lobby) (config : Config) : Moves s (s.configure config) := by
  unfold Lobby.configure
  split
  case h_1 b hok =>
    dsimp only
    split
    case isTrue => exact .rouses s b
    case isFalse hgrowth =>
      have havailable := (configure_ok hok).2
      exact .spends (by omega)
  case h_2 => exact .idle s

theorem Attentive.poll_eq_look (h : s.Attentive) {g : Sleeper}
    (hg : s.guests[x]? = some (.sleeping g)) :
    g.poll s.bulkhead s.timer = g.look s.bulkhead s.timer :=
  Sleeper.poll_eq_look (h.dozing g (List.mem_of_getElem? hg)) s.timer

theorem Attentive.next_moves (h : s.Attentive) (i : Turn) : Moves s (s.next i) := by
  cases i with
  | tick d =>
    refine .ticks ?_
    split
    case isTrue hlater => exact hlater
    case isFalse => exact h.range
  | ask =>
    have hanswered := tryAcquire_answered s.bulkhead
    refine .enters hanswered.available_le fun w hw => ?_
    cases Guest.answered_eq_sleeping.mp hw
  | come =>
    have hanswered := s.newcomer.look_answered s.bulkhead s.timer
    exact .enters hanswered.available_le fun w hw => Sleeper.look_sleeping hw
  | poll x =>
    show Moves s (s.poll x)
    unfold Lobby.poll
    split
    case h_1 g hg =>
      have hanswered := g.look_answered s.bulkhead s.timer
      rw [h.poll_eq_look hg]
      refine .changes x hanswered.available_le (fun w hw => Sleeper.look_sleeping hw) fun w hw => ?_
      exact ⟨g, hg, Sleeper.look_pending (Guest.answered_eq_sleeping.mp hw)⟩
    case h_2 => exact .idle s
  | abandon x =>
    show Moves s (s.abandon x)
    unfold abandon
    split
    case h_1 => exact leave_moves s x
    case h_2 => exact .idle s
  | finish x reported =>
    show Moves s (s.finish x reported)
    unfold finish
    split
    case h_1 => exact (leave_moves s x).trans (giveBack_moves _ reported)
    case h_2 => exact .idle s
  | configure config => exact configure_moves s config
  | loose reported => exact giveBack_moves s reported

/-! ### Nobody sleeps through -/

theorem Moves.attentive (h : Moves s t) (hs : s.Attentive) : t.Attentive := by
  induction h with
  | idle _ => exact hs
  | ticks hrange => exact ⟨hrange, hs.dozing⟩
  | enters hle hnew =>
    refine ⟨hs.range, fun w hw hsignalled => ?_⟩
    rcases List.mem_append.mp hw with hold | hfresh
    · exact Int.le_trans hle (hs.dozing w hold hsignalled)
    · exact hnew w (List.mem_singleton.mp hfresh).symm
  | changes x hle hnew _ =>
    refine ⟨hs.range, fun w hw hsignalled => ?_⟩
    rcases List.mem_or_eq_of_mem_set hw with hold | hfresh
    · exact Int.le_trans hle (hs.dozing w hold hsignalled)
    · exact hnew w hfresh.symm
  | spends hle =>
    refine ⟨hs.range, fun w hw hsignalled => ?_⟩
    exact Int.le_trans hle (hs.dozing w hw hsignalled)
  | rouses s b =>
    refine ⟨hs.range, fun g hg hsignalled => ?_⟩
    obtain ⟨old, -, hold⟩ := List.mem_map.mp hg
    cases old with
    | sleeping _ =>
      cases hold
      cases hsignalled
    | running | gone => cases hold
  | trans _ _ hfirst hsecond => exact hsecond (hfirst hs)

theorem Attentive.next (h : s.Attentive) (i : Turn) : (s.next i).Attentive :=
  (h.next_moves i).attentive h

theorem Attentive.run (h : s.Attentive) (turns : List Turn) :
    (turns.foldl Lobby.next s).Attentive :=
  List.foldlRecOn turns Lobby.next h fun _ h i _ => h.next i

/-! ### What a guest waits for -/

/-- Guest `x` has come, and while it sleeps it is this waiter. -/
structure Awaits (x : Nat) (w : Waiter) (s : Lobby) : Prop where
  lt : x < s.guests.length
  waiter : ∀ g, s.guests[x]? = some (.sleeping g) → g.waiter = w

section Awaits
variable {w : Waiter}

theorem Moves.awaits (h : Moves s t) (hs : Awaits x w s) :
    Awaits x w t := by
  induction h with
  | idle _ => exact hs
  | ticks _ | spends _ => exact ⟨hs.lt, hs.waiter⟩
  | @enters s b g _ _ =>
    constructor
    · show x < (s.guests ++ [g]).length
      rw [List.length_append]
      exact Nat.lt_add_right _ hs.lt
    · intro w hw
      have hold : (s.guests ++ [g])[x]? = some (.sleeping w) := hw
      rw [List.getElem?_append_left hs.lt] at hold
      exact hs.waiter w hold
  | @changes s b g y _ _ hold =>
    constructor
    · show x < (s.guests.set y g).length
      rw [List.length_set]
      exact hs.lt
    · intro w hw
      have hset : (s.guests.set y g)[x]? = some (.sleeping w) := hw
      by_cases heq : y = x
      · subst heq
        rw [List.getElem?_set_self hs.lt, Option.some.injEq] at hset
        obtain ⟨old, hsleeping, rfl⟩ := hold w hset
        exact hs.waiter old hsleeping
      · rw [List.getElem?_set_ne heq] at hset
        exact hs.waiter w hset
  | rouses s b =>
    constructor
    · show x < (s.guests.map Guest.woken).length
      rw [List.length_map]
      exact hs.lt
    · intro g hg
      have hmap : (s.guests.map Guest.woken)[x]? = some (.sleeping g) := hg
      rw [List.getElem?_map, Option.map_eq_some_iff] at hmap
      obtain ⟨old, hold, hwoken⟩ := hmap
      cases old with
      | sleeping g =>
        cases hwoken
        exact hs.waiter g hold
      | running | gone => cases hwoken
  | trans _ _ hfirst hsecond => exact hsecond (hfirst hs)

theorem Awaits.run (h : Awaits x w s) (hs : s.Attentive) (turns : List Turn) :
    Awaits x w (turns.foldl next s) := by
  induction turns generalizing s with
  | nil => exact h
  | cons i rest ih => exact ih ((hs.next_moves i).awaits h) (hs.next i)

/-- Who comes waits until the deadline of now. -/
theorem come_awaits (s : Lobby) :
    Awaits s.guests.length ⟨s.bulkhead.deadlineAt s.timer⟩ (s.next .come) := by
  obtain ⟨guest, hguest⟩ :
    ∃ guest, guest = Guest.answered (s.newcomer.look s.bulkhead s.timer).2.2 := ⟨_, rfl⟩
  have hguests : (s.next .come).guests = s.guests ++ [guest] := hguest ▸ rfl
  constructor
  · rw [hguests, List.length_append]
    exact Nat.lt_succ_self _
  · intro g hg
    rw [hguests, List.getElem?_concat_length, Option.some.injEq] at hg
    rw [Sleeper.look_pending (Guest.answered_eq_sleeping.mp (hguest.symm.trans hg))]
    rfl

end Awaits

end Lobby

end Bulkhead

end FaultTolerance
