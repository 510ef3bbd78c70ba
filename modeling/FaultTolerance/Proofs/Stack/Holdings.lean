import FaultTolerance.Proofs.Breaker.Chronicle
import FaultTolerance.Proofs.Bulkhead.Resizing
import FaultTolerance.Proofs.Stack.Moves

/-! What a layer gives to a call, and what it gets back from it.

A bulkhead gives a permit, which is in use until it comes back (`Layer.inUse`). A half-open breaker
gives a probe, and a limiter permissions. What every layer that can be built keeps (`Layer.Sound`)
makes that what is out fits in again. Without an outcome nothing is recorded (`Layer.Untold`). -/
namespace FaultTolerance

namespace Breaker
variable {ε ν : Type} {b m : Breaker ε ν} {now : Nat}

/-- A breaker with no more probes than are permitted. -/
structure Sound (b : Breaker ε ν) : Prop where
  config : b.config.Sound
  probes_le : b.cell.probes ≤ b.config.permittedProbes

/-- What time and calls leave of a breaker. While the generation is the same, so is the state. -/
structure Later (b m : Breaker ε ν) : Prop where
  config : m.config = b.config
  generation_le : b.cell.generation ≤ m.cell.generation
  state : m.cell.generation = b.cell.generation → m.state = b.state

theorem Later.refl (b : Breaker ε ν) : Later b b := ⟨rfl, Nat.le_refl _, fun _ => rfl⟩

theorem Later.trans {k : Breaker ε ν} (h : Later b m) (hrest : Later m k) : Later b k := by
  refine ⟨hrest.config.trans h.config, Nat.le_trans h.generation_le hrest.generation_le,
    fun hsame => ?_⟩
  have hle := h.generation_le
  have hle' := hrest.generation_le
  rw [hrest.state (by omega), h.state (by omega)]

theorem Course.later {requested : Bool} {links : List Link} {n : Nat}
    (h : Course now requested b m links n) : Later b m := by
  induction h with
  | begin => exact .refl b
  | settle _ hsame ih =>
    exact ih.trans ⟨hsame.config, Nat.le_of_eq hsame.generation.symm, fun _ => hsame.state⟩
  | change _ _ _ _ _ _ ih | renew _ _ ih =>
    exact ih.trans ⟨rfl, Nat.le_succ _, fun hsame => absurd hsame (Nat.succ_ne_self _)⟩

/-- What becomes of a breaker that is told no outcome. Its window is as it was, or the empty one of
a new generation. -/
structure Untold (b m : Breaker ε ν) : Prop where
  later : Later b m
  window : m.cell.window = b.cell.window ∨
    ∃ now state, m.cell.window = b.config.freshWindow now state
  same : m.cell.generation = b.cell.generation → m.cell.window = b.cell.window

theorem Untold.of_window_eq (hlater : Later b m) (h : m.cell.window = b.cell.window) : Untold b m :=
  ⟨hlater, .inl h, fun _ => h⟩

theorem Untold.trans {k : Breaker ε ν} (h : Untold b m) (hrest : Untold m k) : Untold b k := by
  refine ⟨h.later.trans hrest.later, ?_, fun hsame => ?_⟩
  · rcases hrest.window with hkept | ⟨now, state, hfresh⟩
    · rw [hkept]
      exact h.window
    · rw [h.later.config] at hfresh
      exact .inr ⟨now, state, hfresh⟩
  · have hle := h.later.generation_le
    have hle' := hrest.later.generation_le
    rw [hrest.same (by omega), h.same (by omega)]

theorem Admission.untold {events : List Event} {admitted : Bool}
    (h : Admission b now m events admitted) : Untold b m := by
  have hlater := (Course.of_admission h).later
  cases h with
  | passed _ | forced _ | early _ _ | probe _ _ _ | noProbe _ _ _ | expired _ _ _ =>
    exact .of_window_eq hlater rfl
  | firstProbe _ _ | renewed _ _ _ =>
    refine ⟨hlater, .inr ⟨now, .halfOpen, rfl⟩, fun hsame => ?_⟩
    simp only [moved_generation] at hsame
    omega

theorem release_later (b : Breaker ε ν) : Later b b.release :=
  ⟨b.release_config, Nat.le_of_eq b.release_generation.symm, fun _ => b.release_state⟩

theorem moved_probes_le (b : Breaker ε ν) (now : Nat) (trigger : Trigger) (target : State) :
    (b.moved now trigger target).cell.probes ≤ b.config.permittedProbes := by
  by_cases h : trigger = .openWaitElapsed
  · subst h
    exact Nat.sub_le _ _
  · exact Nat.le_of_eq (moved_probes b now trigger target h)

theorem release_probes_le (h : b.cell.probes ≤ b.config.permittedProbes) :
    b.release.cell.probes ≤ b.config.permittedProbes := by
  simp only [release]
  split
  case isTrue hout =>
    simp only [Bool.and_eq_true, decide_eq_true_eq] at hout
    exact hout.2
  case isFalse => exact h

theorem Sound.release (hb : b.Sound) : b.release.Sound := by
  refine ⟨?_, ?_⟩
  · rw [release_config]
    exact hb.config
  · rw [release_config]
    exact release_probes_le hb.probes_le

theorem Effect.probes_le {a : Act ε ν} {events : List Event} {answer : Option Bool}
    (h : Effect b now a m events answer) (hb : b.cell.probes ≤ b.config.permittedProbes) :
    m.cell.probes ≤ b.config.permittedProbes := by
  cases h with
  | asked hadmission =>
    cases hadmission with
    | passed _ | forced _ | early _ _ | noProbe _ _ _ => exact hb
    | probe _ _ _ => exact Nat.le_trans (Nat.sub_le _ _) hb
    | firstProbe _ _ | expired _ _ _ | renewed _ _ _ => exact moved_probes_le ..
  | returned _ _ => exact release_probes_le hb
  | reported _ _ hrecording =>
    cases hrecording with
    | ignored _ | kept _ _ _ | watched _ => exact hb
    | decided _ _ _ _ _ _ => exact moved_probes_le ..
  | moved _ _ => exact moved_probes_le ..
  | idle | looked => exact hb

theorem Effect.sound {a : Act ε ν} {events : List Event} {answer : Option Bool}
    (h : Effect b now a m events answer) (hb : b.Sound) : m.Sound := by
  have hconfig := h.course.config_eq
  exact ⟨hconfig ▸ hb.config, hconfig ▸ h.probes_le hb.probes_le⟩

/-- The breaker after so many calls have given their probes back. -/
def regained (b : Breaker ε ν) (n : Nat) : Breaker ε ν :=
  if b.state = .halfOpen then
    { b with cell := { b.cell with probes := min (b.cell.probes + n) b.config.permittedProbes } }
  else b

theorem regained_zero (hb : b.Sound) : b.regained 0 = b := by
  simp only [regained, Nat.add_zero, Nat.min_eq_left hb.probes_le, ite_self]

/-- One probe after the other comes back. -/
theorem release_regained (hb : b.Sound) (n : Nat) : b.release.regained n = b.regained (n + 1) := by
  have hle := hb.probes_le
  by_cases hopen : b.state = .halfOpen
  · simp only [regained, release_state, if_pos hopen, release_config]
    rcases Nat.lt_or_ge b.cell.probes b.config.permittedProbes with hout | hfull
    · simp only [release, hopen, decide_true, hout, Bool.and_self, if_true, Nat.add_assoc,
        Nat.add_comm 1 n]
    · have hback : b.release = b := by
        simp only [release, decide_eq_false (Nat.not_lt.mpr hfull), Bool.and_false,
          Bool.false_eq_true, if_false]
      rw [hback, Nat.min_eq_right (by omega), Nat.min_eq_right (by omega)]
  · have hback : b.release = b := by
      simp only [release, hopen, decide_false, Bool.false_and, Bool.false_eq_true, if_false]
    simp only [hback, regained, if_neg hopen]

/-- The ending of a call with such an outcome. -/
def Ending.ofOutcome (elapsed : Duration) : Except ε ν → Ending ε ν
  | .ok v => .result elapsed v
  | .error e => .error elapsed e

theorem onOutcome_eq [Fault ε] (b : Breaker ε ν) (now : Nat) (elapsed : Duration)
    (outcome : Except ε ν) :
    b.onOutcome now elapsed outcome = (Ending.ofOutcome elapsed outcome).apply b now := by
  cases outcome <;> rfl

end Breaker

namespace Bulkhead
variable {b m : Bulkhead}

def inUse (b : Bulkhead) : Int := b.config.capacity - b.available

theorem Answered.inUse_eq {answer : Bool ⊕ Waiter} (h : Answered b m answer) :
    m.inUse = b.inUse + if answer = .inl true then 1 else 0 := by
  cases h with
  | served _ =>
    simp only [inUse, if_true]
    omega
  | unserved _ hanswer => rw [if_neg hanswer, Int.add_zero]

theorem Answered.within {answer : Bool ⊕ Waiter} (h : Answered b m answer) (hb : b.Within) :
    m.Within := by
  have hle := hb.le
  cases h with
  | served _ => exact ⟨by dsimp only; omega⟩
  | unserved _ _ => exact hb

theorem Within.release (hb : b.Within) : b.release.Within := by
  simp only [Bulkhead.release]
  split
  case isTrue => exact hb
  case isFalse hout => exact ⟨Int.not_le.mp hout⟩

theorem Within.configure {config : Config} (h : b.configure config = .ok m) (hb : b.Within) :
    m.Within := by
  have hinUse := configure_inUse h
  have hle := hb.le
  exact ⟨by omega⟩

/-- What becomes of the permits at a turn: somebody asks for one, or gives one back. -/
inductive Turned (b : Bulkhead) : Bulkhead → Prop
  | kept : Turned b b
  | answered {m : Bulkhead} {answer : Bool ⊕ Waiter} (h : Answered b m answer) : Turned b m
  | released : Turned b b.release

theorem Turned.within (h : Turned b m) (hb : b.Within) : m.Within := by
  cases h with
  | kept => exact hb
  | answered h => exact h.within hb
  | released => exact hb.release

theorem Turned.ranged (h : Turned b m) (hb : b.Ranged) : m.Ranged := by
  cases h with
  | kept => exact hb
  | answered h => exact h.ranged hb
  | released => exact hb.release

/-- A permit that is in use comes back. -/
theorem release_inUse (hpos : 0 < b.inUse) : b.release.inUse = b.inUse - 1 := by
  simp only [inUse] at hpos
  have hout : ¬ b.config.capacity ≤ b.available := by omega
  simp only [Bulkhead.release, if_neg hout, inUse]
  omega

end Bulkhead

namespace Adaptive
variable {ε : Type} {config : Config ε} {b m : Bulkhead} {settled : Bool}

theorem Resized.inUse_eq (h : Resized config b m settled) : m.inUse = b.inUse := by
  cases h with
  | kept | stuck _ _ => rfl
  | resized _ hok => exact Bulkhead.configure_inUse hok

theorem Resized.within (h : Resized config b m settled) (hb : b.Within) : m.Within := by
  cases h with
  | kept | stuck _ _ => exact hb
  | resized _ hok => exact hb.configure hok

end Adaptive

namespace Stack
variable {ε ν : Type}

/-! ### Holds -/

/-- Whether it is what a layer of this kind keeps for a call. -/
def Hold.fits : Hold → Kind → Bool
  | nothing, .limiter => true
  | admission _, .breaker => true
  | permit, .bulkhead => true
  | inFlight _, .adaptive => true
  | attempts _, .retry => true
  | _, _ => false

/-- Whether layers of this kind give permits. -/
def Kind.givesPermits : Kind → Bool
  | bulkhead | adaptive => true
  | breaker | limiter | retry => false

def Entry.isAdmitted : Entry → Bool
  | admitted _ => true
  | waiting _ | refused _ => false

/-- Whether it tells no outcome. -/
def Deal.isSilent : Deal ε ν → Bool
  | enter | resume _ _ | cancel _ | abandon _ => true
  | leave _ _ | act _ => false

namespace Layer

/-- The permits that are out. -/
def inUse : Layer ε ν → Int
  | bulkhead b => b.inUse
  | adaptive a => a.bulkhead.inUse
  | breaker _ | limiter _ | retry _ => 0

/-- What every layer that can be built keeps. -/
def Sound : Layer ε ν → Prop
  | breaker b => b.Sound
  | bulkhead b => b.Within
  | adaptive a => a.bulkhead.Within
  | limiter _ | retry _ => True

/-- A layer as it is built. -/
inductive Built : Layer ε ν → Prop
  | breaker {name : String} {config : Breaker.Config ε ν} {now : Nat} {draws : Draws}
    {b : Breaker ε ν} (hnew : Breaker.new name config now draws = .ok b) : Built (.breaker b)
  | limiter {name : String} {config : Limiter.Config} {now : Nat} {l : Limiter}
    (hnew : Limiter.new name config now = .ok l) : Built (.limiter l)
  | bulkhead {name : String} {config : Bulkhead.Config} {b : Bulkhead}
    (hnew : Bulkhead.new name config = .ok b) : Built (.bulkhead b)
  | adaptive {name : String} {config : Adaptive.Config ε} {now : Nat} {a : Adaptive ε}
    (hnew : Adaptive.new name config now = .ok a) : Built (.adaptive a)
  | retry {name : String} {config : Retry.Config ε ν} {draws : Draws} :
    Built (.retry { name, config, draws })

theorem Built.sound {layer : Layer ε ν} (h : layer.Built) : layer.Sound := by
  have hpermits {name : String} {config : Bulkhead.Config} {b : Bulkhead}
      (hnew : Bulkhead.new name config = .ok b) : b.Within := by
    obtain ⟨rfl, hfull⟩ := Bulkhead.new_eq_ok hnew
    exact ⟨Int.le_of_eq hfull⟩
  cases h with
  | breaker hnew =>
    obtain ⟨hconfig, rfl⟩ := Breaker.new_eq_ok hnew
    exact ⟨hconfig, Nat.le_refl _⟩
  | bulkhead hnew => exact hpermits hnew
  | adaptive hnew =>
    obtain ⟨_, hnew⟩ := ok_of_bind hnew
    obtain ⟨b, hb, hnew⟩ := bind_eq_ok hnew
    obtain ⟨window, _, hnew⟩ := bind_eq_ok hnew
    cases hnew
    exact hpermits hb
  | limiter _ | retry => trivial

theorem Sound.inUse_nonneg {layer : Layer ε ν} (h : layer.Sound) : 0 ≤ layer.inUse := by
  cases layer with
  | bulkhead b | adaptive a =>
    have hle := Bulkhead.Within.le h
    simp only [inUse, Bulkhead.inUse]
    omega
  | breaker _ | limiter _ | retry _ => exact Int.le_refl 0

theorem Sound.of_kind {layer : Layer ε ν} (h : layer.kind = .limiter ∨ layer.kind = .retry) :
    layer.Sound := by
  cases layer with
  | limiter _ | retry _ => trivial
  | breaker _ | bulkhead _ | adaptive _ => simp [kind] at h

section Doors
variable (layer : Layer ε ν) (now timer : Nat) (wait : Wait) {h : Hold}

theorem ofReservation_admitted {l : Limiter} {answer : Bool ⊕ Limiter.Pending}
    (hentry : ofReservation l answer = .admitted h) : h = .nothing := by
  rcases answer with (_ | _) | _ <;> cases hentry
  rfl

theorem ofPermit_admitted {hold : Hold} {e : Error} {answer : Bool ⊕ Bulkhead.Waiter}
    (hentry : ofPermit hold e answer = .admitted h) : h = hold := by
  rcases answer with (_ | _) | _ <;> cases hentry
  rfl

theorem isAdmitted_ofPermit (hold : Hold) (e : Error) (answer : Bool ⊕ Bulkhead.Waiter) :
    (ofPermit hold e answer).isAdmitted ↔ answer = .inl true := by
  rcases answer with (_ | _) | _ <;> simp [ofPermit, Entry.isAdmitted]

/-- What a layer keeps for a call that it lets in fits it. -/
theorem enter_fits [Timer] (hentry : (layer.enter now timer).2.2 = .admitted h) :
    h.fits layer.kind := by
  cases layer with
  | breaker b =>
    simp only [enter] at hentry
    split at hentry <;> cases hentry
    rfl
  | limiter l =>
    cases ofReservation_admitted hentry
    rfl
  | bulkhead b | adaptive a =>
    cases ofPermit_admitted hentry
    rfl
  | retry r =>
    cases hentry
    rfl

theorem resume_fits [Timer] (hentry : (layer.resume now timer wait).2.2 = .admitted h) :
    h.fits layer.kind := by
  cases layer with
  | breaker b => cases hentry
  | limiter l =>
    cases wait with
    | reservation p =>
      cases ofReservation_admitted hentry
      rfl
    | permit _ | backoff _ _ => cases hentry
  | bulkhead b | adaptive a =>
    cases wait with
    | permit w =>
      cases ofPermit_admitted hentry
      rfl
    | reservation _ | backoff _ _ => cases hentry
  | retry r =>
    cases wait with
    | backoff n due =>
      simp only [resume] at hentry
      split at hentry <;> cases hentry
      rfl
    | reservation _ | permit _ => cases hentry

/-- A permit is out for every call that is let in, and for nobody else. -/
theorem enter_inUse [Timer] (hkind : layer.kind.givesPermits) :
    (layer.enter now timer).1.inUse =
      layer.inUse + if (layer.enter now timer).2.2.isAdmitted then 1 else 0 := by
  cases layer with
  | bulkhead b =>
    have hanswer := Bulkhead.Waiter.poll_answered ⟨b.deadlineAt timer⟩ b timer
    simp only [enter, inUse, isAdmitted_ofPermit]
    exact hanswer.inUse_eq
  | adaptive a =>
    have hanswer :=
      Bulkhead.Waiter.poll_answered ⟨a.bulkhead.deadlineAt timer⟩ a.bulkhead timer
    simp only [enter, inUse, isAdmitted_ofPermit]
    exact hanswer.inUse_eq
  | breaker _ | limiter _ | retry _ => cases hkind

theorem resume_inUse [Timer] (hkind : layer.kind.givesPermits) :
    (layer.resume now timer wait).1.inUse =
      layer.inUse + if (layer.resume now timer wait).2.2.isAdmitted then 1 else 0 := by
  cases layer with
  | bulkhead b =>
    cases wait with
    | permit w =>
      simp only [resume, inUse, isAdmitted_ofPermit]
      exact (w.poll_answered b timer).inUse_eq
    | reservation _ | backoff _ _ => exact (Int.add_zero _).symm
  | adaptive a =>
    cases wait with
    | permit w =>
      simp only [resume, inUse, isAdmitted_ofPermit]
      exact (w.poll_answered a.bulkhead timer).inUse_eq
    | reservation _ | backoff _ _ => exact (Int.add_zero _).symm
  | breaker _ | limiter _ | retry _ => cases hkind

theorem cancel_inUse : (layer.cancel wait).inUse = layer.inUse := by
  cases layer with
  | limiter l => cases wait <;> rfl
  | breaker _ | bulkhead _ | adaptive _ | retry _ => rfl

/-- The permit of a call that is given up comes back. -/
theorem abandon_inUse (hkind : layer.kind.givesPermits) (hpos : 0 < layer.inUse) :
    (layer.abandon h).1.inUse = layer.inUse - 1 := by
  cases layer with
  | bulkhead b | adaptive a => exact Bulkhead.release_inUse hpos
  | breaker _ | limiter _ | retry _ => cases hkind

/-- So does that of a call that is let out. -/
theorem leave_inUse [Fault ε] (outcome : Except ε ν) (hkind : layer.kind.givesPermits)
    (hfits : h.fits layer.kind) (hpos : 0 < layer.inUse) :
    (layer.leave now h outcome).1.inUse = layer.inUse - 1 := by
  cases layer with
  | bulkhead b => exact Bulkhead.release_inUse hpos
  | adaptive a =>
    cases h with
    | inFlight start =>
      have hresized := a.onOutcome_resized now (since start now) outcome
      exact hresized.inUse_eq.trans (Bulkhead.release_inUse hpos)
    | nothing | admission _ | permit | attempts _ => cases hfits
  | breaker _ | limiter _ | retry _ => cases hkind

end Doors

/-! ### Deals -/

section Deals
variable [Fault ε] {now timer : Nat} {d : Deal ε ν}

/-- What a deal does to a breaker is an act, if it is anything. -/
theorem deal_breaker [Timer] {b : Breaker ε ν} (hb : b.config.Sound) (now timer : Nat)
    (d : Deal ε ν) :
    ∃ m, ((breaker b).deal now timer d).1 = breaker m ∧
      (m = b ∨ ∃ a events answer, Breaker.Effect b now a m events answer) := by
  have hact (a : Breaker.Act ε ν) :
      ∃ m, breaker (b.act now a).1 = breaker m ∧
        (m = b ∨ ∃ a events answer, Breaker.Effect b now a m events answer) :=
    ⟨_, rfl, .inr ⟨a, _, _, Breaker.act_effect hb now a⟩⟩
  have hidle : ∃ m, (breaker b : Layer ε ν) = breaker m ∧
      (m = b ∨ ∃ a events answer, Breaker.Effect b now a m events answer) :=
    ⟨b, rfl, .inl rfl⟩
  cases d with
  | enter => exact hact .ask
  | resume _ _ | cancel _ => exact hidle
  | leave h outcome =>
    cases h with
    | admission start =>
      simp only [deal, leave, Breaker.onOutcome_eq]
      exact hact (.report (.ofOutcome (since start now) outcome))
    | nothing | permit | inFlight _ | attempts _ => exact hidle
  | abandon h =>
    cases h with
    | admission start => exact hact (.report .release)
    | nothing | permit | inFlight _ | attempts _ => exact hidle
  | act action =>
    cases action with
    | tryAcquire => exact hact .ask
    | release => exact hact (.report .release)
    | success elapsed => exact hact (.report (.success elapsed))
    | failure elapsed e => exact hact (.report (.error elapsed e))
    | result elapsed v => exact hact (.report (.result elapsed v))
    | force state => exact hact (.force state)
    | reset => exact hact .reset
    | request _ | reserve _ | complete | attempt _ _ | drain | changeLimit _ | changeTimeout _
    | configure _ => exact hidle

theorem deal_bulkhead [Timer] (b : Bulkhead) (now timer : Nat) (d : Deal ε ν) :
    ∃ m, ((bulkhead b).deal now timer d).1 = bulkhead m ∧
      (b.Turned m ∨ ∃ config, b.configure config = .ok m) := by
  have hkept : ∃ m, (bulkhead b : Layer ε ν) = bulkhead m ∧
      (b.Turned m ∨ ∃ config, b.configure config = .ok m) := ⟨b, rfl, .inl .kept⟩
  have hreleased : ∃ m, (bulkhead b.release : Layer ε ν) = bulkhead m ∧
      (b.Turned m ∨ ∃ config, b.configure config = .ok m) := ⟨_, rfl, .inl .released⟩
  cases d with
  | enter => exact ⟨_, rfl, .inl (.answered (Bulkhead.Waiter.poll_answered ..))⟩
  | resume timer wait =>
    cases wait with
    | permit w => exact ⟨_, rfl, .inl (.answered (w.poll_answered b timer))⟩
    | reservation _ | backoff _ _ => exact hkept
  | cancel _ => exact hkept
  | leave _ _ | abandon _ => exact hreleased
  | act action =>
    cases action with
    | tryAcquire => exact ⟨_, rfl, .inl (.answered b.tryAcquire_answered)⟩
    | release | complete => exact hreleased
    | configure config =>
      simp only [deal, act, actBulkhead]
      split
      case h_1 m hok => exact ⟨m, rfl, .inr ⟨config, hok⟩⟩
      all_goals exact hkept
    | request _ | reserve _ | success _ | failure _ _ | result _ _ | attempt _ _ | force _ | reset
    | drain | changeLimit _ | changeTimeout _ => exact hkept

/-- An adaptive bulkhead may set another limit after a permit has come back. -/
theorem deal_adaptive [Timer] (a : Adaptive ε) (now timer : Nat) (d : Deal ε ν) :
    ∃ m k settled, ((adaptive a).deal now timer d).1 = adaptive m ∧ m.config = a.config ∧
      a.bulkhead.Turned k ∧ Adaptive.Resized a.config k m.bulkhead settled := by
  have hkept : ∃ m k settled, (adaptive a : Layer ε ν) = adaptive m ∧ m.config = a.config ∧
      a.bulkhead.Turned k ∧ Adaptive.Resized a.config k m.bulkhead settled :=
    ⟨a, _, true, rfl, rfl, .kept, .kept⟩
  cases d with
  | enter => exact ⟨_, _, true, rfl, rfl, .answered (Bulkhead.Waiter.poll_answered ..), .kept⟩
  | resume timer wait =>
    cases wait with
    | permit w =>
      exact ⟨_, _, true, rfl, rfl, .answered (w.poll_answered a.bulkhead timer), .kept⟩
    | reservation _ | backoff _ _ => exact hkept
  | cancel _ => exact hkept
  | leave h outcome =>
    cases h with
    | inFlight start =>
      exact ⟨_, _, _, rfl, a.onOutcome_config .., .released, a.onOutcome_resized ..⟩
    | nothing | admission _ | permit | attempts _ => exact hkept
  | abandon _ => exact ⟨_, _, true, rfl, rfl, .released, .kept⟩
  | act action =>
    cases action with
    | tryAcquire =>
      exact ⟨_, _, true, rfl, rfl, .answered a.bulkhead.tryAcquire_answered, .kept⟩
    | release => exact ⟨_, _, true, rfl, rfl, .released, .kept⟩
    | success elapsed =>
      exact ⟨(a.finish now elapsed false (.success elapsed)).1, _, _, rfl, a.finish_config ..,
        .released, a.finish_resized ..⟩
    | failure elapsed e =>
      exact ⟨_, _, _, rfl, a.onOutcome_config now elapsed (.error e : Except ε ν), .released,
        a.onOutcome_resized now elapsed (.error e : Except ε ν)⟩
    | request _ | reserve _ | complete | result _ _ | attempt _ _ | force _ | reset | drain
    | changeLimit _ | changeTimeout _ | configure _ => exact hkept

theorem sound_deal [Timer] (layer : Layer ε ν) (now timer : Nat) (d : Deal ε ν) (h : layer.Sound) :
    (layer.deal now timer d).1.Sound := by
  cases layer with
  | breaker b =>
    have hb : b.Sound := h
    obtain ⟨m, hm, rfl | ⟨a, events, answer, heffect⟩⟩ := deal_breaker hb.config now timer d
    · rw [hm]
      exact hb
    · rw [hm]
      exact heffect.sound hb
  | bulkhead b =>
    have hb : b.Within := h
    obtain ⟨m, hm, hturned | ⟨config, hok⟩⟩ := deal_bulkhead b now timer d
    · rw [hm]
      exact hturned.within hb
    · rw [hm]
      exact hb.configure hok
  | adaptive a =>
    have ha : a.bulkhead.Within := h
    obtain ⟨m, k, settled, hm, -, hturned, hresized⟩ := deal_adaptive a now timer d
    rw [hm]
    exact hresized.within (hturned.within ha)
  | limiter _ | retry _ => exact Sound.of_kind (by rw [kind_deal]; simp [kind])

/-- What a deal makes of a breaker. -/
theorem later_deal [Timer] {b m : Breaker ε ν} (hb : b.config.Sound)
    (hm : ((breaker b).deal now timer d).1 = breaker m) : Breaker.Later b m := by
  obtain ⟨k, hk, rfl | ⟨a, events, answer, heffect⟩⟩ := deal_breaker hb now timer d
  · rw [hk] at hm
    cases hm
    exact .refl _
  · rw [hk] at hm
    cases hm
    exact heffect.course.later

end Deals

/-! ### Nothing is recorded -/

/-- What becomes of a layer that is told no outcome. -/
inductive Untold : Layer ε ν → Layer ε ν → Prop
  | breaker {b m : Breaker ε ν} (h : b.Untold m) : Untold (.breaker b) (.breaker m)
  | limiter (l m : Limiter) : Untold (.limiter l) (.limiter m)
  | bulkhead (b m : Bulkhead) : Untold (.bulkhead b) (.bulkhead m)
  | adaptive {a : Adaptive ε} {b : Bulkhead} (hlimit : b.config = a.bulkhead.config) :
    Untold (.adaptive a) (.adaptive { a with bulkhead := b })
  /-- It may have told a call to wait. -/
  | retry (r : Retry ε ν) (draws : Draws) : Untold (.retry r) (.retry { r with draws })

theorem Untold.refl (layer : Layer ε ν) : layer.Untold layer := by
  cases layer with
  | breaker b => exact .breaker (.of_window_eq (.refl b) rfl)
  | limiter l => exact .limiter l l
  | bulkhead b => exact .bulkhead b b
  | adaptive a => exact .adaptive (a := a) (b := a.bulkhead) rfl
  | retry r => exact .retry r r.draws

theorem Untold.trans {layer m k : Layer ε ν} (h : layer.Untold m) (hrest : m.Untold k) :
    layer.Untold k := by
  cases h with
  | breaker h =>
    cases hrest with
    | breaker hrest => exact .breaker (h.trans hrest)
  | limiter _ _ =>
    cases hrest with
    | limiter _ _ => exact .limiter _ _
  | bulkhead _ _ =>
    cases hrest with
    | bulkhead _ _ => exact .bulkhead _ _
  | adaptive hlimit =>
    cases hrest with
    | adaptive hlimit' => exact .adaptive (hlimit'.trans hlimit)
  | retry r _ =>
    cases hrest with
    | retry _ later => exact .retry r later

theorem untold_deal [Timer] [Fault ε] (layer : Layer ε ν) (now timer : Nat) {d : Deal ε ν}
    (hd : d.isSilent) (h : layer.Sound) : layer.Untold (layer.deal now timer d).1 := by
  cases layer with
  | breaker b =>
    have hb : b.Sound := h
    cases d with
    | enter => exact .breaker (Breaker.tryAcquire_admission hb.config).untold
    | resume _ _ | cancel _ => exact .refl _
    | abandon h =>
      cases h with
      | admission start => exact .breaker (.of_window_eq b.release_later b.release_window)
      | nothing | permit | inFlight _ | attempts _ => exact .refl _
    | leave _ _ | act _ => cases hd
  | limiter l =>
    cases d with
    | enter => exact .limiter _ _
    | resume timer wait => cases wait <;> exact .limiter _ _
    | cancel wait => cases wait <;> exact .limiter _ _
    | abandon _ => exact .limiter _ _
    | leave _ _ | act _ => cases hd
  | bulkhead b =>
    obtain ⟨m, hm, -⟩ := deal_bulkhead b now timer d
    rw [hm]
    exact .bulkhead b m
  | adaptive a =>
    cases d with
    | enter => exact .adaptive (Bulkhead.Waiter.poll_answered ..).config_eq
    | resume timer wait =>
      cases wait with
      | permit w => exact .adaptive (w.poll_answered a.bulkhead timer).config_eq
      | reservation _ | backoff _ _ => exact .refl _
    | cancel _ => exact .refl _
    | abandon _ => exact .adaptive a.bulkhead.release_config
    | leave _ _ | act _ => cases hd
  | retry r =>
    cases d with
    | enter | cancel _ | abandon _ => exact .refl _
    | resume timer wait => cases wait <;> exact .refl _
    | leave _ _ | act _ => cases hd

end Layer

end Stack

end FaultTolerance
