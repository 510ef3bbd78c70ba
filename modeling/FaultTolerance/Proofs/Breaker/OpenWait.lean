import FaultTolerance.Proofs.Breaker.Trail
import Mathlib.Data.List.DropRight

/-! How long a breaker stays open.

The wait of an open state is the one for the number of open periods in a row: the reported moves to
open since the breaker was last in any other state but half-open (`opensInRow`). A random wait uses
the next draw each time that the breaker opens (`openings`). The wait runs from the time of the last
opening, and nothing that is done while the breaker is open changes its end (`Waits`). A request for
admission before that time is refused, and the first one at it or after it makes the breaker
half-open (`open_deadline`). -/
namespace FaultTolerance.Breaker
variable {ε ν : Type}

/-! ### Open periods in a row -/

/-- The moves to open since the last move to a state that is neither open nor half-open. -/
def opensInRow (links : List Link) : Nat :=
  (links.rtakeWhile fun l => l.target = .opened || l.target = .halfOpen).countP (·.target = .opened)

/-- All moves to open. -/
def openings (links : List Link) : Nat := links.countP (·.target = .opened)

section Opens
variable {links : List Link} {l : Link}

theorem opensInRow_opened (h : l.target = .opened) :
    opensInRow (links ++ [l]) = opensInRow links + 1 := by
  unfold opensInRow
  rw [List.rtakeWhile_concat_pos _ _ _ (by simp [h]), countP_enter]
  simp [h]

theorem opensInRow_halfOpen (h : l.target = .halfOpen) :
    opensInRow (links ++ [l]) = opensInRow links := by
  unfold opensInRow
  rw [List.rtakeWhile_concat_pos _ _ _ (by simp [h]), countP_enter]
  simp [h]

theorem opensInRow_other (hopened : l.target ≠ .opened) (hhalf : l.target ≠ .halfOpen) :
    opensInRow (links ++ [l]) = 0 := by
  unfold opensInRow
  rw [List.rtakeWhile_concat_neg _ _ _ (by simp [hopened, hhalf])]
  rfl

theorem opensInRow_of_leads {target : State} (h : Leads .closed links target)
    (hopened : target ≠ .opened) (hhalf : target ≠ .halfOpen) : opensInRow links = 0 := by
  cases h with
  | nowhere => rfl
  | further _ => exact opensInRow_other hopened hhalf

theorem openings_concat (links : List Link) (l : Link) :
    openings (links ++ [l]) = openings links + (decide (l.target = .opened)).toNat :=
  countP_enter ..

/-- A breaker counts its open periods in a row, up to the greatest count there is. -/
theorem attemptsAfter_opensInRow :
    attemptsAfter (min (opensInRow links) attemptLimit) l.target =
      min (opensInRow (links ++ [l])) attemptLimit := by
  unfold attemptsAfter
  split
  · next hopened =>
    rw [opensInRow_opened hopened]
    omega
  · next hhalf => rw [opensInRow_halfOpen hhalf]
  · next hopened hhalf =>
    rw [opensInRow_other hopened hhalf]
    rfl

end Opens

/-! ### The end of the wait -/

/-- A breaker whose count of open periods, whose open wait and whose draws are what the changes of
state tell, if it was made with these draws. -/
structure Waits (draws : Draws) (b : Breaker ε ν) (links : List Link) : Prop where
  leads : Leads .closed links b.state
  attempts_eq : b.cell.attempts = min (opensInRow links) attemptLimit
  openUntil_eq : b.state = .opened → ∃ l, links.getLast? = some l ∧ l.target = .opened ∧
    b.cell.openUntil =
      addTicks l.now (b.config.openWait.wait b.cell.attempts (draws (openings links))).ticks
  draws_eq : b.draws = draws.drop (openings links + 1)

namespace Waits
variable {b m : Breaker ε ν} {now : Nat} {requested : Bool} {links before : List Link} {n : Nat}
  {draws : Draws}

theorem blank {name : String} {config : Config ε ν} {start : Nat}
    (hnew : Breaker.new name config start draws = .ok b) : Waits draws b [] := by
  obtain ⟨_, rfl⟩ := new_eq_ok hnew
  exact ⟨.nowhere, rfl, nofun, rfl⟩

theorem settle (h : Waits draws b links) (hsame : SameState b m) : Waits draws m links where
  leads := hsame.state ▸ h.leads
  attempts_eq := hsame.attempts.trans h.attempts_eq
  openUntil_eq := by
    rw [hsame.state, hsame.openUntil, hsame.config, hsame.attempts]
    exact h.openUntil_eq
  draws_eq := hsame.draws.trans h.draws_eq

theorem change (h : Waits draws b links) (trigger : Trigger) {start target : State}
    (hstart : b.state = start) :
    Waits draws (b.moved now trigger target) (links ++ [⟨now, requested, start, target⟩]) where
  leads := by
    have hleads := h.leads
    rw [hstart] at hleads
    exact .further hleads
  attempts_eq := by
    show attemptsAfter b.cell.attempts target = _
    rw [h.attempts_eq]
    exact attemptsAfter_opensInRow (l := ⟨now, requested, start, target⟩)
  openUntil_eq := by
    intro hopened
    replace hopened : target = .opened := hopened
    subst hopened
    refine ⟨_, List.getLast?_concat, rfl, ?_⟩
    rw [openings_concat]
    show addTicks now (b.config.openWait.wait _ b.draws.next).ticks = _
    rw [h.draws_eq]
    rfl
  draws_eq := by
    rw [openings_concat]
    show drawsAfter b.draws target = _
    rw [h.draws_eq]
    cases target with
    | opened => exact draws.drop_drop ..
    | closed | halfOpen | disabled | forcedOpen | metricsOnly => rfl

theorem renew (h : Waits draws b links) (hclosed : b.state = .closed) :
    Waits draws (b.moved now .reset .closed) links where
  leads := hclosed ▸ h.leads
  attempts_eq := by
    rw [opensInRow_of_leads h.leads (by simp [hclosed]) (by simp [hclosed])]
    rfl
  openUntil_eq := nofun
  draws_eq := h.draws_eq

theorem course (h : Course now requested b m links n) (hbefore : Waits draws b before) :
    Waits draws m (before ++ links) := by
  induction h with
  | begin => rwa [List.append_nil]
  | settle _ hsame ih => exact ih.settle hsame
  | change _ trigger _ hstart _ _ ih =>
    rw [← List.append_assoc]
    exact ih.change trigger hstart
  | renew _ hclosed ih => exact ih.renew hclosed

end Waits

/-! ### Asking an open breaker -/

theorem tryAcquire_early {b : Breaker ε ν} {now : Nat} (h : b.state = .opened)
    (hwait : now < b.cell.openUntil) :
    b.tryAcquire now = ({ b with rejected := b.rejected + 1 }, [.callNotPermitted], false) :=
  admitWithin_decided (round_early h hwait)

theorem tryAcquire_firstProbe {b : Breaker ε ν} {now : Nat} (hc : b.config.Sound)
    (h : b.state = .opened) (hwait : b.cell.openUntil ≤ now) :
    b.tryAcquire now =
      (b.moved now .openWaitElapsed .halfOpen, [.stateTransition .opened .halfOpen], true) :=
  admitWithin_decided (round_firstProbe hc h hwait)

/-- **A breaker stays open for the wait of its open periods in a row.** Whatever was done to it, an
open breaker was last moved to open, and its deadline lies the wait for the number of open periods
in a row after that, at the draw that this opening has used. A request for admission before the
deadline is refused, which is counted and reported and changes nothing else. One at the deadline or
after it is admitted: it takes the first probe of a half-open state with an empty window, and the
number of open periods in a row stays. Asking for the open state does nothing. -/
theorem open_deadline [Fault ε] {name : String} {config : Config ε ν} {start : Nat} {draws : Draws}
    {b : Breaker ε ν} (hnew : Breaker.new name config start draws = .ok b) (deeds : List (Deed ε ν))
    {s : Chronicle ε ν} (hs : (Chronicle.blank b).run deeds = s)
    (hopened : s.breaker.state = .opened) :
    ∃ l, s.links.getLast? = some l ∧ l.target = .opened ∧
      let periods := min (opensInRow s.links) attemptLimit
      let wait := config.openWait.wait periods (draws (openings s.links))
      let deadline := addTicks l.now wait.ticks
      (∀ now < deadline, s.breaker.tryAcquire now =
        ({ s.breaker with rejected := s.breaker.rejected + 1 }, [.callNotPermitted], false)) ∧
      (∀ now, deadline ≤ now →
        let t := s.next ⟨now, .ask⟩
        (s.breaker.tryAcquire now).2 = ([.stateTransition .opened .halfOpen], true) ∧
          t.breaker.metrics =
            { state := .halfOpen
              generation := s.breaker.cell.generation + 1
              snapshot := ⟨{}, config.permittedProbes⟩
              rejected := s.breaker.rejected
              remainingProbes := config.permittedProbes - 1 } ∧
          opensInRow t.links = opensInRow s.links ∧ t.breaker.cell.attempts = periods) ∧
      ∀ now, s.breaker.force now .opened = (s.breaker, []) := by
  obtain ⟨hconfig, hwaits⟩ : s.breaker.config = config ∧ Waits draws s.breaker s.links :=
    Chronicle.run_induction
      (P := fun b entries => Waits draws b (linksIn entries)) hnew (.blank hnew)
      (fun b m entries e _ h _ heffect => by
        rw [linksIn_concat]
        exact .course heffect.course h) deeds hs
  have hsound : s.breaker.config.Sound := hconfig ▸ (new_eq_ok hnew).1
  obtain ⟨l, hlast, htarget, huntil⟩ := hwaits.openUntil_eq hopened
  have hattempts : s.breaker.cell.attempts = min (opensInRow s.links) attemptLimit :=
    hwaits.attempts_eq
  rw [hconfig, hattempts] at huntil
  refine ⟨l, hlast, htarget, fun now hearly => ?_, fun now hover => ?_, fun now => ?_⟩
  · rw [← huntil] at hearly
    exact tryAcquire_early hopened hearly
  · rw [← huntil] at hover
    have hadmitted := tryAcquire_firstProbe hsound hopened hover
    have hnext : s.next ⟨now, .ask⟩ =
        { breaker := s.breaker.moved now .openWaitElapsed .halfOpen
          entries := s.entries ++ [{
            now, act := .ask, before := s.breaker.state
            events := [.stateTransition .opened .halfOpen], answer := some true }] } := by
      unfold Chronicle.next act
      simp only [hadmitted]
    intro t
    have ht : t = _ := hnext
    rw [ht, hadmitted]
    refine ⟨rfl, ?_, ?_, hattempts⟩
    · rw [← hconfig]
      rfl
    · show opensInRow (linksIn _) = _
      rw [linksIn_concat]
      exact opensInRow_halfOpen (l := ⟨now, false, .opened, .halfOpen⟩) rfl
  · rw [← hopened]
    exact force_state hsound now

/-- A breaker that waits ten nanoseconds longer each time. -/
def patient : Config Error Unit :=
  { strict with openWait := .custom "growing" fun period => ⟨10 * period⟩ }

def patientBreaker : Breaker Error Unit :=
  { name := "patient", config := patient, cell := patient.freshCell 0 .closed 0 0 false none }

/-- It opens, lets a probe through, opens again when the probe fails, is asked too early and forced
to where it is. -/
def reopened : List (Deed Error Unit) :=
  [⟨5, .report (.error ⟨5⟩ .concurrentModification)⟩, ⟨15, .ask⟩,
    ⟨16, .report (.error ⟨1⟩ .concurrentModification)⟩, ⟨20, .ask⟩, ⟨25, .force .opened⟩]

/-- The second open period in a row lasts for twenty nanoseconds. -/
theorem reopened_deadline :
    let s := (Chronicle.blank patientBreaker).run reopened
    s.breaker.state = .opened ∧ opensInRow s.links = 2 ∧
      (s.breaker.tryAcquire 35).2 = ([.callNotPermitted], false) ∧
      (s.breaker.tryAcquire 36).2 = ([.stateTransition .opened .halfOpen], true) := by
  have hopened : ((Chronicle.blank patientBreaker).run reopened).breaker.state = .opened := by
    decide
  have hlinks : ((Chronicle.blank patientBreaker).run reopened).links =
      [⟨5, false, .closed, .opened⟩, ⟨15, false, .opened, .halfOpen⟩,
        ⟨16, false, .halfOpen, .opened⟩] := by
    decide
  obtain ⟨l, hlast, _, hearly, hover, _⟩ :=
    open_deadline (show Breaker.new "patient" patient 0 = .ok patientBreaker from rfl) reopened rfl
      hopened
  rw [hlinks] at hlast hearly hover
  cases hlast
  refine ⟨hopened, hlinks ▸ by decide, ?_, ?_⟩
  · rw [hearly 35 (by decide)]
  · exact (hover 36 (by decide)).1

end FaultTolerance.Breaker
