import FaultTolerance.Proofs.Breaker.Chronicle

/-! The reported changes of state are the way that a breaker has gone.

The links of a chronicle lead from closed to the current state, each from where the one before it
has ended (`Leads`). Each of them, and each reset of a closed breaker, makes one generation, and
what is not asked for is one of four transitions (`automatic`). Refused calls are counted where they
are reported (`trail_matches_states`). -/
namespace FaultTolerance.Breaker
variable {ε ν : Type}

/-! ### Chains -/

/-- Changes of state that begin in one state and end in another, each in the state that the one
before it has led to. -/
inductive Leads (start : State) : List Link → State → Prop
  | nowhere : Leads start [] start
  | further {links l} (h : Leads start links l.start) : Leads start (links ++ [l]) l.target

/-- The transitions that are made without a request. -/
def automatic : List (State × State) :=
  [(.closed, .opened), (.opened, .halfOpen), (.halfOpen, .opened), (.halfOpen, .closed)]

theorem automatic_of_transition {start target : State} {trigger : Trigger}
    (hrequest : trigger.isRequest = false) (h : transition start trigger = some target) :
    (start, target) ∈ automatic := by
  cases trigger with
  | reset | force _ => cases hrequest
  | thresholdsExceeded | openWaitElapsed | probesPassed | probesFailed | halfOpenWaitElapsed =>
    -- each of these triggers goes with one state only
    cases start <;> cases h
    decide

/-- A change of state was asked for or is one of those that are made without a request. -/
def Link.Lawful (l : Link) : Prop := l.requested ∨ (l.start, l.target) ∈ automatic

namespace Course
variable {b m : Breaker ε ν} {now : Nat} {requested : Bool} {links : List Link} {n : Nat}

theorem leads (h : Course now requested b m links n) {start : State} {before : List Link}
    (hbefore : Leads start before b.state) : Leads start (before ++ links) m.state := by
  induction h with
  | begin => rwa [List.append_nil]
  | settle _ hsame ih => rwa [hsame.state]
  | change _ trigger _ hstart _ _ ih =>
    rw [← List.append_assoc]
    rw [hstart] at ih
    exact .further ih
  | renew _ hclosed ih => rwa [hclosed] at ih

theorem lawful (h : Course now requested b m links n) : ∀ l ∈ links, l.Lawful := by
  induction h with
  | begin => nofun
  | settle _ _ ih | renew _ _ ih => exact ih
  | change _ trigger htrigger _ htarget _ ih =>
    intro l hl
    rcases List.mem_append.mp hl with hold | hnew
    · exact ih l hold
    · rw [List.mem_singleton.mp hnew]
      cases hrequested : requested with
      | true => exact .inl rfl
      | false => exact .inr (automatic_of_transition (htrigger.trans hrequested) htarget)

theorem generation_eq (h : Course now requested b m links n) :
    m.cell.generation = b.cell.generation + links.length + n := by
  induction h with
  | begin => rfl
  | settle _ hsame ih => exact hsame.generation.trans ih
  | change _ _ _ _ _ _ ih =>
    rw [moved_generation, ih, List.length_append, List.length_singleton]
    omega
  | renew _ _ ih =>
    rw [moved_generation, ih]
    omega

end Course

/-! ### Refusals -/

theorem count_outcome {event : Event} (h : event.isOutcome) (rest : List Event) :
    (event :: rest).count .callNotPermitted = rest.count .callNotPermitted :=
  List.count_cons_of_ne (by rintro rfl; cases h)

theorem count_ratesExceeded (b : Breaker ε ν) (view : Snapshot) :
    (b.ratesExceeded view).count .callNotPermitted = 0 := by
  unfold ratesExceeded
  split <;> split <;> simp

theorem count_breach (b : Breaker ε ν) (breach : Option Snapshot) :
    ((breach.map b.ratesExceeded).getD []).count .callNotPermitted = 0 := by
  cases breach with
  | none => rfl
  | some view => exact count_ratesExceeded b view

theorem count_changeEvents (b : Breaker ε ν) (target : State) (a : Act ε ν) :
    (b.changeEvents target ++ a.closing).count .callNotPermitted = 0 := by
  unfold changeEvents
  split <;> cases a <;> simp [Act.closing]

theorem release_rejected (b : Breaker ε ν) : b.release.rejected = b.rejected := by
  unfold release
  split <;> rfl

/-- A refused call is counted once and reported once. -/
theorem Effect.rejected_eq {b m : Breaker ε ν} {now : Nat} {a : Act ε ν} {events : List Event}
    {answer : Option Bool} (h : Effect b now a m events answer) :
    m.rejected = b.rejected + (decide (answer = some false)).toNat ∧
      events.count .callNotPermitted = (decide (answer = some false)).toNat := by
  cases h with
  | asked h => cases h <;> exact ⟨rfl, rfl⟩
  | returned _ hevents =>
    have hnone : Event.callNotPermitted ∉ events := fun hmem => nomatch hevents _ hmem
    exact ⟨b.release_rejected, List.count_eq_zero.mpr hnone⟩
  | reported _ hevent h =>
    cases h with
    | ignored _ => exact ⟨rfl, rfl⟩
    | kept _ _ _ => exact ⟨rfl, count_outcome hevent []⟩
    | watched _ =>
      refine ⟨rfl, ?_⟩
      rw [count_outcome hevent]
      split
      · exact count_ratesExceeded _ _
      · rfl
    | decided _ _ _ _ _ _ =>
      refine ⟨rfl, ?_⟩
      rw [List.cons_append, count_outcome hevent, List.count_append, count_breach]
      rfl
  | moved _ _ => exact ⟨rfl, count_changeEvents _ _ _⟩
  | idle | looked => exact ⟨rfl, rfl⟩

/-! ### The trail of a run -/

/-- Whether an entry is a reset of a closed breaker. -/
def Entry.isRenewal (e : Entry ε ν) : Bool := e.act.isReset && e.before = .closed

/-- Whether an entry is a request for admission that was refused. -/
def Entry.isRefusal (e : Entry ε ν) : Bool := e.answer = some false

/-- A breaker whose state, generation and count of refused calls are what some entries tell. -/
structure Faithful (b : Breaker ε ν) (entries : List (Entry ε ν)) : Prop where
  leads : Leads .closed (linksIn entries) b.state
  lawful : ∀ l ∈ linksIn entries, l.Lawful
  generation_eq :
    b.cell.generation = (linksIn entries).length + entries.countP (·.isRenewal)
  rejected_eq : b.rejected = entries.countP (·.isRefusal)
  count_eq : (entries.flatMap (·.events)).count .callNotPermitted = b.rejected

theorem Faithful.blank {name : String} {config : Config ε ν} {start : Nat} {b : Breaker ε ν}
    {draws : Draws} (hnew : Breaker.new name config start draws = .ok b) : Faithful b [] := by
  obtain ⟨_, rfl⟩ := new_eq_ok hnew
  exact ⟨.nowhere, nofun, rfl, rfl, rfl⟩

theorem Faithful.concat {b m : Breaker ε ν} {entries : List (Entry ε ν)} {e : Entry ε ν}
    (h : Faithful b entries) (hbefore : e.before = b.state)
    (heffect : Effect b e.now e.act m e.events e.answer) : Faithful m (entries ++ [e]) := by
  have hcourse := heffect.course
  obtain ⟨hrejected, hcount⟩ := heffect.rejected_eq
  have hlinks := linksIn_concat entries e
  constructor
  · rw [hlinks]
    exact hcourse.leads h.leads
  · rw [hlinks]
    intro l hl
    exact (List.mem_append.mp hl).elim (h.lawful l) (hcourse.lawful l)
  · have hgeneration : m.cell.generation =
        b.cell.generation + e.links.length + e.isRenewal.toNat := by
      unfold Entry.isRenewal
      rw [hbefore]
      exact hcourse.generation_eq
    rw [hlinks, countP_enter, hgeneration, h.generation_eq, List.length_append]
    omega
  · rw [countP_enter, hrejected, h.rejected_eq]
    rfl
  · rw [List.flatMap_append, List.flatMap_singleton, List.count_append, h.count_eq, hcount,
      hrejected]

/-- **The reported changes of state are the way that a breaker has gone.** Whatever is done to it,
they lead from closed to the current state without a gap. Each was asked for or is one of four
transitions, so a disabled, forced-open or metrics-only state is left on request alone. The
generation is the number of changes and of resets of a closed breaker; asking for the current state
does nothing; and the count of refused calls is that of the requests for admission that were
refused, and of the reports of it. -/
theorem trail_matches_states [Fault ε] {name : String} {config : Config ε ν} {start : Nat}
    {draws : Draws} {b : Breaker ε ν} (hnew : Breaker.new name config start draws = .ok b)
    (deeds : List (Deed ε ν)) {s : Chronicle ε ν} (hs : (Chronicle.blank b).run deeds = s) :
    Leads .closed s.links s.breaker.state ∧
      (∀ l ∈ s.links, l.requested ∨ (l.start, l.target) ∈ automatic) ∧
      (∀ l ∈ s.links, l.start ∈ [.disabled, .forcedOpen, .metricsOnly] → l.requested) ∧
      s.breaker.cell.generation = s.links.length + s.entries.countP (·.isRenewal) ∧
      (∀ now, s.breaker.force now s.breaker.state = (s.breaker, [])) ∧
      s.breaker.rejected = s.entries.countP (·.isRefusal) ∧
      s.breaker.rejected = s.events.count .callNotPermitted := by
  obtain ⟨hconfig, h⟩ := Chronicle.run_induction hnew (Faithful.blank hnew)
    (fun _ _ _ _ _ hfaithful hbefore heffect => hfaithful.concat hbefore heffect) deeds hs
  have hsound : s.breaker.config.Sound := hconfig ▸ (new_eq_ok hnew).1
  refine ⟨h.leads, h.lawful, fun l hl hadministrative => ?_, h.generation_eq,
    fun now => force_state hsound now, h.rejected_eq, h.count_eq.symm⟩
  rcases h.lawful l hl with hrequested | hautomatic
  · exact hrequested
  · exfalso
    revert hadministrative hautomatic
    generalize l.start = first, l.target = last
    cases first <;> cases last <;> decide

/-- A breaker opens, refuses, lets a probe through and opens again; it is disabled, reset, reset
once more while closed, and forced to where it is. -/
def wandering : List (Deed Error Unit) :=
  [⟨5, .report (.error ⟨5⟩ .concurrentModification)⟩, ⟨6, .ask⟩, ⟨15, .ask⟩,
    ⟨16, .report (.error ⟨1⟩ .concurrentModification)⟩, ⟨17, .force .disabled⟩, ⟨18, .ask⟩,
    ⟨19, .reset⟩, ⟨20, .reset⟩, ⟨21, .force .closed⟩, ⟨22, .force .forcedOpen⟩, ⟨23, .ask⟩]

/-- Six changes of state and one reset of a closed breaker make seven generations, and two calls are
refused. -/
theorem wandering_trail :
    let s := (Chronicle.blank strictBreaker).run wandering
    s.links.map (·.target) = [.opened, .halfOpen, .opened, .disabled, .closed, .forcedOpen] ∧
      Leads .closed s.links s.breaker.state ∧ s.breaker.cell.generation = 6 + 1 ∧
      s.breaker.rejected = 2 ∧ s.events.count .callNotPermitted = 2 := by
  have hrefused : ((Chronicle.blank strictBreaker).run wandering).entries.countP
      (·.isRefusal) = 2 := by
    decide +kernel
  have hrenewed : ((Chronicle.blank strictBreaker).run wandering).links.length +
      ((Chronicle.blank strictBreaker).run wandering).entries.countP (·.isRenewal) = 6 + 1 := by
    decide +kernel
  have h := trail_matches_states (show Breaker.new "strict" strict 0 = .ok strictBreaker from rfl)
    wandering rfl
  obtain ⟨hleads, _, _, hgeneration, _, hrejected, hcount⟩ := h
  exact ⟨by decide +kernel, hleads, hgeneration.trans hrenewed, hrejected.trans hrefused,
    hcount.symm.trans (hrejected.trans hrefused)⟩

end FaultTolerance.Breaker
