import FaultTolerance.Proofs.Breaker.Calls

/-! How many probes a half-open breaker lets through.

While half-open, the probes that are left and the calls that hold one make up the permitted number
(`Tallied`). Every step keeps this but one: a call that was admitted in an earlier generation and is
given up now returns a probe that it never took (`Ledger.strayReturn`). The limit holds for all that
may still be admitted exactly as long as this does not happen. -/
namespace FaultTolerance.Breaker
variable {ε ν : Type}

/-- The calls that a generation has admitted and that have not been given back. -/
def holding (generation : Nat) (calls : List Call) : Nat :=
  calls.countP fun c => c.generation = generation ∧ c.fate ≠ .givenBack

section Holding
variable {generation : Nat} {calls : List Call}

theorem holding_of_lt {b : Breaker ε ν} (h : Dated b calls) (hlt : b.cell.generation < generation) :
    holding generation calls = 0 :=
  h.countP_of_lt hlt fun _ hc => (of_decide_eq_true hc).1

theorem holding_enter :
    holding generation (calls ++ [{ generation := generation }]) =
      holding generation calls + 1 := by
  unfold holding
  rw [countP_enter]
  simp

/-- A call that ends without being given back keeps what it holds. -/
theorem holding_finish {call g : Nat} (hcall : calls[call]? = some ⟨g, .running⟩) {fate : Fate}
    (hfate : fate ≠ .givenBack) :
    holding generation (calls.set call ⟨g, fate⟩) = holding generation calls := by
  have hcount := countP_finish
    (fun c => decide (c.generation = generation ∧ c.fate ≠ .givenBack)) hcall fate
  unfold holding
  by_cases hg : g = generation
  · simp [hg, hfate] at hcount ⊢
    exact hcount
  · simp [hg] at hcount ⊢
    exact hcount

theorem holding_return_own {call : Nat} (hcall : calls[call]? = some ⟨generation, .running⟩) :
    holding generation (calls.set call ⟨generation, .givenBack⟩) + 1 =
      holding generation calls := by
  have hcount := countP_finish
    (fun c => decide (c.generation = generation ∧ c.fate ≠ .givenBack)) hcall .givenBack
  unfold holding
  simpa using hcount

theorem holding_return_stray {call g : Nat} (hcall : calls[call]? = some ⟨g, .running⟩)
    (hstray : g ≠ generation) :
    holding generation (calls.set call ⟨g, .givenBack⟩) = holding generation calls := by
  have hcount := countP_finish
    (fun c => decide (c.generation = generation ∧ c.fate ≠ .givenBack)) hcall .givenBack
  unfold holding
  simpa [hstray] using hcount

end Holding

/-! ### The tally -/

/-- While half-open, the probes that are left and the calls that hold one make up the permitted
number. -/
def Tallied (b : Breaker ε ν) (calls : List Call) : Prop :=
  b.state = .halfOpen →
    b.cell.probes + holding b.cell.generation calls = b.config.permittedProbes

/-- A call of an earlier generation is given back while a probe of the half-open state is out. -/
def Ledger.strayReturn (s : Ledger ε ν) (i : Input ε ν) : Bool :=
  match i.step with
  | .finish call ending =>
    match s.calls[call]? with
    | some ⟨generation, .running⟩ =>
      ending.givesBack s.breaker.config && s.breaker.state = .halfOpen &&
        s.breaker.cell.probes < s.breaker.config.permittedProbes &&
        generation ≠ s.breaker.cell.generation
    | _ => false
  | _ => false

theorem Ledger.strayReturn_iff {s : Ledger ε ν} {i : Input ε ν} :
    s.strayReturn i ↔ ∃ call ending generation, i.step = .finish call ending ∧
      s.calls[call]? = some ⟨generation, .running⟩ ∧ ending.givesBack s.breaker.config ∧
      s.breaker.state = .halfOpen ∧ s.breaker.cell.probes < s.breaker.config.permittedProbes ∧
      generation ≠ s.breaker.cell.generation := by
  unfold strayReturn
  constructor
  · intro h
    split at h
    · next call ending hstep =>
      split at h
      · next generation hcall =>
        simp only [Bool.and_eq_true, decide_eq_true_eq, and_assoc] at h
        exact ⟨call, ending, generation, hstep, hcall, h⟩
      · cases h
    · cases h
  · rintro ⟨call, ending, generation, hstep, hcall, h⟩
    simp only [hstep, hcall, Bool.and_eq_true, decide_eq_true_eq, and_assoc]
    exact h

theorem release_probes_of_lt {b : Breaker ε ν} (h : b.state = .halfOpen)
    (hlt : b.cell.probes < b.config.permittedProbes) :
    b.release.cell.probes = b.cell.probes + 1 := by
  unfold release
  rw [if_pos (by simp [h, hlt])]

theorem release_of_le {b : Breaker ε ν} (hle : b.config.permittedProbes ≤ b.cell.probes) :
    b.release = b := by
  unfold release
  rw [if_neg (by simp; omega)]

namespace Tallied
variable {b m : Breaker ε ν} {calls : List Call} {now : Nat} {events : List Event}

theorem admitted (hc : b.config.Sound) (hd : Dated b calls) (h : Tallied b calls)
    (hadmission : Admission b now m events true) :
    Tallied m (calls ++ [{ generation := m.cell.generation }]) := by
  have hpos := hc.probes_pos
  cases hadmission with
  | passed hstate =>
    intro hopen
    rw [hopen] at hstate
    simp at hstate
  | firstProbe _ _ =>
    intro _
    have hnone := holding_of_lt hd (Nat.lt_succ_self _)
    rw [moved_generation, holding_enter, hnone, moved_probes_openWaitElapsed, moved_config]
    omega
  | probe hopen _ hfree =>
    intro _
    have htally := h hopen
    show b.cell.probes - 1 +
      holding b.cell.generation (calls ++ [{ generation := b.cell.generation }]) =
        b.config.permittedProbes
    rw [holding_enter]
    omega
  | renewed _ _ _ =>
    intro _
    have hnone : holding (b.cell.generation + 1 + 1) calls = 0 := holding_of_lt hd (by omega)
    simp only [moved_generation, holding_enter, hnone, moved_probes_openWaitElapsed, moved_config]
    omega

theorem refused (h : Tallied b calls) (hadmission : Admission b now m events false) :
    Tallied m calls := by
  cases hadmission with
  | forced _ | early _ _ | noProbe _ _ _ => exact h
  | expired _ _ _ =>
    intro hopen
    cases hopen

theorem returned_own (h : Tallied b calls) {call : Nat}
    (hcall : calls[call]? = some ⟨b.cell.generation, .running⟩) :
    Tallied b.release (calls.set call ⟨b.cell.generation, .givenBack⟩) := by
  intro hopen
  rw [release_state] at hopen
  have htally := h hopen
  have hless := holding_return_own hcall
  rw [release_probes_of_lt hopen (by omega), release_generation, release_config]
  omega

/-- If no probe is out, a call of another generation returns none. -/
theorem returned_stray (h : Tallied b calls) {call g : Nat}
    (hcall : calls[call]? = some ⟨g, .running⟩) (hstray : g ≠ b.cell.generation)
    (hfull : b.state = .halfOpen → b.config.permittedProbes ≤ b.cell.probes) :
    Tallied b.release (calls.set call ⟨g, .givenBack⟩) := by
  intro hopen
  rw [release_state] at hopen
  rw [release_of_le (hfull hopen), holding_return_stray hcall hstray]
  exact h hopen

theorem recorded (h : Tallied b calls) {x : Measurement} {event : Event}
    (hrecording : Recording b now x event m events) {call g : Nat}
    (hcall : calls[call]? = some ⟨g, .running⟩) {fate : Fate} (hfate : fate ≠ .givenBack) :
    Tallied m (calls.set call ⟨g, fate⟩) := by
  intro hopen
  rw [holding_finish hcall hfate]
  cases hrecording with
  | ignored _ | kept _ _ _ | watched _ => exact h hopen
  | decided _ _ _ _ _ hdecided => exact absurd hopen hdecided

end Tallied

namespace Ledger
variable [Fault ε]

theorem next_tallied (s : Ledger ε ν) (i : Input ε ν) (hc : s.breaker.config.Sound)
    (hd : Dated s.breaker s.calls) (hown : s.strayReturn i = false)
    (h : Tallied s.breaker s.calls) : Tallied (s.next i).breaker (s.next i).calls := by
  apply next_preserves (P := Tallied) s i hc
  · intro b events hadmission
    exact h.admitted hc hd hadmission
  · intro b events hadmission
    exact h.refused hadmission
  · intro call ending generation hstep hcall hback
    by_cases hg : generation = s.breaker.cell.generation
    · rw [hg] at hcall ⊢
      exact h.returned_own hcall
    · apply h.returned_stray hcall hg
      intro hopen
      unfold strayReturn at hown
      simp only [hstep, hcall, hback, hopen] at hown
      simpa [hg] using hown
  · intro call ending generation x event b events _ hcall _ hrecording
    exact h.recorded hrecording hcall (fun hfate => nomatch hfate)
  · intro call generation hcall hdisabled hopen
    rw [hdisabled] at hopen
    cases hopen
  · intro trigger target hrequest _ hopen
    have htrigger : trigger ≠ .openWaitElapsed := by
      rintro rfl
      cases hrequest
    rw [moved_probes _ _ _ _ htrigger, moved_generation, moved_config,
      holding_of_lt hd (Nat.lt_succ_self _)]
    rfl
  · exact h
  · exact h

/-! ### The limit -/

/-- Requests for admission at the given readings. -/
def admissions (readings : List Nat) : List (Input ε ν) := readings.map fun now => ⟨now, .ask⟩

/-- Whoever else asks for admission and whenever, a half-open state never has more calls out than
the permitted number. -/
def ProbesLimited (s : Ledger ε ν) : Prop :=
  ∀ readings, (s.run (admissions readings)).breaker.state = .halfOpen →
    holding (s.run (admissions readings)).breaker.cell.generation
      (s.run (admissions readings)).calls ≤ s.breaker.config.permittedProbes

/-- No step of a run is a stray return. -/
def noStrayReturn (s : Ledger ε ν) : List (Input ε ν) → Bool
  | [] => true
  | i :: rest => !s.strayReturn i && noStrayReturn (s.next i) rest

theorem probesLimited_of_tallied (s : Ledger ε ν) (hc : s.breaker.config.Sound)
    (hd : Dated s.breaker s.calls) (h : Tallied s.breaker s.calls) : s.ProbesLimited := by
  intro readings
  induction readings generalizing s with
  | nil =>
    intro hopen
    have htally := h hopen
    show holding s.breaker.cell.generation s.calls ≤ _
    omega
  | cons now rest ih =>
    have hconfig := s.next_config ⟨now, .ask⟩ hc
    have hlimited := ih (s.next ⟨now, .ask⟩) (by rw [hconfig]; exact hc)
      (s.next_dated ⟨now, .ask⟩ hc hd) (s.next_tallied ⟨now, .ask⟩ hc hd rfl h)
    rw [hconfig] at hlimited
    exact hlimited

/-- A half-open state that still lasts hands out every probe that is left. -/
theorem admissions_fill (s : Ledger ε ν) (k : Nat) (hopen : s.breaker.state = .halfOpen)
    (hk : s.breaker.cell.probes = k) :
    let t := s.run (admissions (List.replicate k s.breaker.cell.enteredAt))
    t.breaker.state = .halfOpen ∧
      holding t.breaker.cell.generation t.calls =
        holding s.breaker.cell.generation s.calls + k := by
  induction k generalizing s with
  | zero => exact ⟨hopen, rfl⟩
  | succ k ih =>
    have hprobe := tryAcquire_probe hopen s.breaker.halfOpenExpired_enteredAt (by omega)
    have hnext : s.next ⟨s.breaker.cell.enteredAt, .ask⟩ =
        { breaker := { s.breaker with
            cell := { s.breaker.cell with probes := s.breaker.cell.probes - 1 } }
          calls := s.calls ++ [{ generation := s.breaker.cell.generation }] } := by
      simp only [next, hprobe, if_true]
    have hrest := ih (s.next ⟨s.breaker.cell.enteredAt, .ask⟩)
      (by rw [hnext]; exact hopen) (by rw [hnext, hk]; rfl)
    have hsame : (s.next ⟨s.breaker.cell.enteredAt, .ask⟩).breaker.cell.enteredAt =
        s.breaker.cell.enteredAt := by
      rw [hnext]
    have hmore : holding (s.next ⟨s.breaker.cell.enteredAt, .ask⟩).breaker.cell.generation
        (s.next ⟨s.breaker.cell.enteredAt, .ask⟩).calls =
          holding s.breaker.cell.generation s.calls + 1 := by
      rw [hnext]
      exact holding_enter
    rw [hsame, hmore] at hrest
    obtain ⟨hstill, hcount⟩ := hrest
    exact ⟨hstill, hcount.trans (by omega)⟩

/-- After a stray return the calls that are out and the probes that are left are one too many. -/
theorem not_probesLimited_of_strayReturn (s : Ledger ε ν) (i : Input ε ν)
    (h : Tallied s.breaker s.calls) (hstray : s.strayReturn i) : ¬ (s.next i).ProbesLimited := by
  obtain ⟨call, ending, generation, hstep, hcall, hback, hopen, hout, hother⟩ :=
    strayReturn_iff.mp hstray
  have hnext := next_of_givesBack hstep hcall hback
  have hprobes : (s.next i).breaker.cell.probes = s.breaker.cell.probes + 1 := by
    rw [hnext]
    exact release_probes_of_lt hopen hout
  have hstill : (s.next i).breaker.state = .halfOpen := by
    rw [hnext]
    exact s.breaker.release_state.trans hopen
  have hheld : holding (s.next i).breaker.cell.generation (s.next i).calls =
      holding s.breaker.cell.generation s.calls := by
    rw [hnext, release_generation]
    exact holding_return_stray hcall hother
  have hconfig : (s.next i).breaker.config = s.breaker.config := by
    rw [hnext]
    exact s.breaker.release_config
  intro hlimited
  obtain ⟨hfilled, hcount⟩ := (s.next i).admissions_fill _ hstill rfl
  have hwithin := hlimited _ hfilled
  have htally := h hopen
  rw [hconfig] at hwithin
  omega

theorem always_probesLimited_iff (s : Ledger ε ν) (inputs : List (Input ε ν))
    (hc : s.breaker.config.Sound) (hd : Dated s.breaker s.calls) (h : Tallied s.breaker s.calls) :
    Always next ProbesLimited s inputs ↔ s.noStrayReturn inputs := by
  have hlimited := s.probesLimited_of_tallied hc hd h
  induction inputs generalizing s with
  | nil => exact ⟨fun _ => rfl, fun _ => hlimited⟩
  | cons i rest ih =>
    cases hstray : s.strayReturn i with
    | true =>
      have hexceeds := s.not_probesLimited_of_strayReturn i h hstray
      constructor
      · rintro ⟨_, halways⟩
        exact absurd halways.head hexceeds
      · intro hnone
        simp [noStrayReturn, hstray] at hnone
    | false =>
      have hsound : (s.next i).breaker.config.Sound := by rwa [s.next_config i hc]
      have hdated := s.next_dated i hc hd
      have htallied := s.next_tallied i hc hd hstray h
      have hih := ih (s.next i) hsound hdated htallied
        ((s.next i).probesLimited_of_tallied hsound hdated htallied)
      have hrest : s.noStrayReturn (i :: rest) = (s.next i).noStrayReturn rest := by
        show (!s.strayReturn i && (s.next i).noStrayReturn rest) = _
        rw [hstray]
        rfl
      rw [hrest]
      constructor
      · rintro ⟨_, halways⟩
        exact hih.mp halways
      · intro hnone
        exact ⟨hlimited, hih.mpr hnone⟩

end Ledger

/-- **The half-open limit holds exactly as long as no call of an earlier generation returns a
probe.** At every point of a run, whoever asks for admission from then on, a half-open state has no
more calls of its own out than the permitted number, if and only if no call that another generation
admitted is given back while a probe is out. -/
theorem probe_limit_iff [Fault ε] {name : String} {config : Config ε ν} {start : Nat}
    {draws : Draws} {b : Breaker ε ν} (hnew : Breaker.new name config start draws = .ok b)
    (inputs : List (Input ε ν)) :
    Always Ledger.next Ledger.ProbesLimited (Ledger.fresh b) inputs ↔
      (Ledger.fresh b).noStrayReturn inputs := by
  obtain ⟨hsound, rfl⟩ := new_eq_ok hnew
  refine Ledger.always_probesLimited_iff _ inputs hsound (Dated.nil _) ?_
  intro hopen
  cases hopen

/-- A probe is cancelled, and the next call takes its place. -/
def cancelledProbe : List (Input Error Unit) :=
  [⟨0, .ask⟩, ⟨5, .finish 0 (.error ⟨5⟩ .concurrentModification)⟩, ⟨15, .ask⟩,
    ⟨16, .finish 1 .release⟩, ⟨17, .ask⟩, ⟨18, .look⟩]

theorem cancelledProbe_limited :
    Always Ledger.next Ledger.ProbesLimited (Ledger.fresh strictBreaker) cancelledProbe :=
  (probe_limit_iff (show Breaker.new "strict" strict 0 = .ok strictBreaker from rfl)
    cancelledProbe).mpr (by decide)

/-- A call that was admitted while closed is cancelled in the half-open state, and a second probe is
let through. -/
theorem stray_return_exceeds :
    let s := (Ledger.fresh strictBreaker).run
      [⟨0, .ask⟩, ⟨0, .ask⟩, ⟨5, .finish 1 (.error ⟨5⟩ .concurrentModification)⟩, ⟨15, .ask⟩,
        ⟨16, .finish 0 .release⟩, ⟨17, .ask⟩]
    s.breaker.state = .halfOpen ∧
      holding s.breaker.cell.generation s.calls = s.breaker.config.permittedProbes + 1 := by
  decide

end FaultTolerance.Breaker
