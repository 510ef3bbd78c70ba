import FaultTolerance.Proofs.Breaker.ProbeLimit
import FaultTolerance.Proofs.Breaker.Verdict
import FaultTolerance.Stack.World

/-! Why a half-open breaker cannot lock everybody out.

While half-open, the probes that are left, the calls of the generation that are in flight and the
outcomes in the window are at least the permitted number together (`Balanced`): a call of the
generation that ends turns into a probe or into an outcome, whichever way it ends, and what anybody
else releases or reports can only add to the sum. The window never holds the permitted number, for
then the state is decided. So when nobody is in flight a probe is left (`probe_supply`).

Outcomes and releases need not belong to a call at all: a breaker takes them from anybody. -/
namespace FaultTolerance.Breaker
variable {ε ν : Type}

/-! ### Calls in flight -/

/-- The calls that a generation has admitted and that have not ended. -/
def inFlight (generation : Nat) (calls : List Call) : Nat :=
  calls.countP fun c => c.generation = generation ∧ c.fate = .running

section InFlight
variable {generation : Nat} {calls : List Call}

theorem inFlight_of_lt {b : Breaker ε ν} (h : Dated b calls)
    (hlt : b.cell.generation < generation) :
    inFlight generation calls = 0 :=
  h.countP_of_lt hlt fun _ hc => (of_decide_eq_true hc).1

theorem inFlight_enter :
    inFlight generation (calls ++ [{ generation := generation }]) =
      inFlight generation calls + 1 := by
  unfold inFlight
  rw [countP_enter]
  simp

/-- A call of the generation that ends is one fewer in flight, a call of another one is none. -/
theorem inFlight_finish {call g : Nat} (hcall : calls[call]? = some ⟨g, .running⟩) {fate : Fate}
    (hfate : fate ≠ .running) :
    inFlight generation (calls.set call ⟨g, fate⟩) + 1 =
      inFlight generation calls + (decide (g ≠ generation)).toNat := by
  have hcount := countP_finish
    (fun c => decide (c.generation = generation ∧ c.fate = .running)) hcall fate
  unfold inFlight
  by_cases hg : g = generation
  · simpa [hg, hfate] using hcount
  · simpa [hg] using hcount

end InFlight

/-! ### The balance of a half-open state -/

/-- The outcomes in the window. -/
def reported (b : Breaker ε ν) : Nat := b.cell.window.view.totals.calls

/-- The probes that are left, the calls in flight and the outcomes together. -/
def supply (b : Breaker ε ν) (calls : List Call) : Nat :=
  b.cell.probes + inFlight b.cell.generation calls + b.reported

/-- The balance after `others` outcomes and releases that were not of the generation's own calls. -/
structure Balanced (b : Breaker ε ν) (calls : List Call) (others : Nat) : Prop where
  probes_le : b.cell.probes ≤ b.config.permittedProbes
  counted : b.cell.window.HasCounted b.config.permittedProbes b.reported
  undecided : b.reported < b.config.permittedProbes
  enough : b.config.permittedProbes ≤ b.supply calls
  bounded : b.supply calls ≤ b.config.permittedProbes + others

namespace Balanced
variable {b m : Breaker ε ν} {calls after : List Call} {others more : Nat} {now : Nat}

theorem mono (h : Balanced b calls others) (hle : others ≤ more) : Balanced b calls more :=
  { h with bounded := Nat.le_trans h.bounded (Nat.add_le_add_left hle _) }

/-- A half-open state begins in balance: whoever is in flight has a probe of it. -/
theorem entered (hc : b.config.Sound) {trigger : Trigger}
    (hsum : (b.moved now trigger .halfOpen).cell.probes +
      inFlight (b.cell.generation + 1) calls = b.config.permittedProbes) :
    Balanced (b.moved now trigger .halfOpen) calls others := by
  have hcounted : (b.moved now trigger .halfOpen).cell.window.HasCounted
      b.config.permittedProbes 0 := freshCell_hasCounted ..
  have hnone := hcounted.view
  have hsupply : (b.moved now trigger .halfOpen).supply calls = b.config.permittedProbes := by
    unfold supply reported
    rw [moved_generation, hnone]
    exact hsum
  constructor
  · rw [moved_config]
    omega
  · rw [moved_config]
    unfold reported
    rwa [hnone]
  · unfold reported
    rw [hnone]
    exact hc.probes_pos
  · rw [hsupply]
    exact Nat.le_refl _
  · rw [hsupply]
    exact Nat.le_add_right _ _

/-- A probe is handed out. -/
theorem taken (h : Balanced b calls others) (hfree : 0 < b.cell.probes) :
    Balanced { b with cell := { b.cell with probes := b.cell.probes - 1 } }
      (calls ++ [{ generation := b.cell.generation }]) others := by
  have hsupply : supply { b with cell := { b.cell with probes := b.cell.probes - 1 } }
      (calls ++ [{ generation := b.cell.generation }]) = b.supply calls := by
    unfold supply
    show b.cell.probes - 1 + inFlight b.cell.generation (calls ++ [_]) + b.reported = _
    rw [inFlight_enter]
    omega
  exact
    { probes_le := Nat.le_trans (Nat.sub_le _ _) h.probes_le
      counted := h.counted
      undecided := h.undecided
      enough := hsupply ▸ h.enough
      bounded := hsupply ▸ h.bounded }

/-- What is given back becomes a probe, unless none is out. `more` is nothing if a call of the
generation has ended and one if it was somebody else. -/
theorem released (h : Balanced b calls others) (hopen : b.state = .halfOpen)
    (hend : inFlight b.cell.generation after + 1 = inFlight b.cell.generation calls + more) :
    Balanced b.release after (others + more) := by
  have hprobes := h.probes_le
  have henough := h.enough
  have hbounded := h.bounded
  have hreported : b.release.reported = b.reported := by
    unfold reported
    rw [release_window]
  have hsupply : b.release.supply after =
      b.release.cell.probes + inFlight b.cell.generation after + b.reported := by
    unfold supply
    rw [release_generation, hreported]
  have hback : b.release.cell.probes = b.cell.probes + 1 ∧
        b.cell.probes < b.config.permittedProbes ∨
      b.release.cell.probes = b.cell.probes ∧ b.cell.probes = b.config.permittedProbes := by
    rcases Nat.lt_or_ge b.cell.probes b.config.permittedProbes with hout | hfull
    · exact .inl ⟨release_probes_of_lt hopen hout, hout⟩
    · exact .inr ⟨by rw [release_of_le hfull], Nat.le_antisymm hprobes hfull⟩
  unfold supply at henough hbounded
  constructor
  · rw [release_config]
    omega
  · rw [release_config, release_window, hreported]
    exact h.counted
  · rw [release_config, hreported]
    exact h.undecided
  · rw [release_config, hsupply]
    omega
  · rw [release_config, hsupply]
    omega

/-- An outcome that decides nothing is one more in the window. -/
theorem noted (h : Balanced b calls others) (hopen : b.state = .halfOpen) {x : Measurement}
    (hv : (b.noted now x).verdict? now = none)
    (hend : inFlight b.cell.generation after + 1 = inFlight b.cell.generation calls + more) :
    Balanced (b.noted now x) after (others + more) := by
  have henough := h.enough
  have hbounded := h.bounded
  have hcounted := h.counted.record h.undecided now x
  have hreported : (b.noted now x).reported = b.reported + 1 := hcounted.view
  have hsupply : (b.noted now x).supply after =
      b.cell.probes + inFlight b.cell.generation after + (b.reported + 1) := by
    unfold supply
    rw [hreported]
    rfl
  have hconfig : (b.noted now x).config = b.config := rfl
  unfold supply at henough hbounded
  constructor
  · exact h.probes_le
  · rw [hreported]
    exact hcounted
  · exact lt_of_verdict?_eq_none (b := b.noted now x) hopen hv
  · rw [hsupply, hconfig]
    omega
  · rw [hsupply, hconfig]
    omega

theorem refreshed (h : Balanced b calls others) (now : Nat) :
    Balanced (b.refresh now) calls others := by
  have hcounted := h.counted.refresh now
  have hreported : (b.refresh now).reported = b.reported := hcounted.view
  have hsupply : (b.refresh now).supply calls = b.supply calls := by
    unfold supply
    rw [hreported]
    rfl
  constructor
  · exact h.probes_le
  · rw [hreported]
    exact hcounted
  · rw [hreported]
    exact h.undecided
  · rw [hsupply]
    exact h.enough
  · rw [hsupply]
    exact h.bounded

end Balanced

/-- While half-open a breaker is in balance. `others` counts by generation. -/
def Supplied (others : Nat → Nat) (b : Breaker ε ν) (calls : List Call) : Prop :=
  b.state = .halfOpen → Balanced b calls (others b.cell.generation)

namespace Supplied
variable {b m : Breaker ε ν} {calls after : List Call} {others later : Nat → Nat} {now : Nat}
  {events : List Event}

theorem mono (h : Supplied others b calls)
    (hle : others b.cell.generation ≤ later b.cell.generation) : Supplied later b calls :=
  fun hopen => (h hopen).mono hle

theorem admitted (hc : b.config.Sound) (hd : Dated b calls) (h : Supplied others b calls)
    (hadmission : Admission b now m events true) :
    Supplied others m (calls ++ [{ generation := m.cell.generation }]) := by
  have hpos := hc.probes_pos
  cases hadmission with
  | passed hstate =>
    intro hopen
    rw [hopen] at hstate
    simp at hstate
  | firstProbe _ _ =>
    intro _
    apply Balanced.entered hc
    rw [moved_generation, inFlight_enter, inFlight_of_lt hd (Nat.lt_succ_self _),
      moved_probes_openWaitElapsed]
    omega
  | probe hopen _ hfree =>
    intro _
    exact (h hopen).taken hfree
  | renewed _ _ _ =>
    intro _
    have hnone : inFlight (b.cell.generation + 1 + 1) calls = 0 := inFlight_of_lt hd (by omega)
    apply Balanced.entered (b := b.moved now .halfOpenWaitElapsed .opened) hc
    simp only [moved_generation, inFlight_enter, hnone, moved_probes_openWaitElapsed, moved_config]
    omega

theorem refused (h : Supplied others b calls) (hadmission : Admission b now m events false) :
    Supplied others m calls := by
  cases hadmission with
  | forced _ | early _ _ | noProbe _ _ _ =>
    intro hopen
    exact { h hopen with }
  | expired _ _ _ =>
    intro hopen
    cases hopen

/-- `more` is nothing if a call of the generation has ended and one if it was somebody else. -/
theorem released {more : Nat} (h : Supplied others b calls)
    (hmore : others b.cell.generation + more ≤ later b.cell.generation)
    (hend : inFlight b.cell.generation after + 1 = inFlight b.cell.generation calls + more) :
    Supplied later b.release after := by
  intro hopen
  rw [release_state] at hopen
  rw [release_generation]
  exact ((h hopen).released hopen hend).mono hmore

theorem recorded {more : Nat} (h : Supplied others b calls)
    (hmore : others b.cell.generation + more ≤ later b.cell.generation)
    (hend : inFlight b.cell.generation after + 1 = inFlight b.cell.generation calls + more)
    {x : Measurement} {event : Event} (hrecording : Recording b now x event m events) :
    Supplied later m after := by
  intro hopen
  cases hrecording with
  | ignored hdisabled =>
    rw [hdisabled] at hopen
    cases hopen
  | kept _ _ hv => exact ((h hopen).noted hopen hv hend).mono hmore
  | watched hwatch =>
    have hstate : b.state = .halfOpen := hopen
    rw [hwatch] at hstate
    cases hstate
  | decided _ _ _ _ _ hdecided => exact absurd hopen hdecided

end Supplied

/-! ### Runs -/

/-- What happens to a breaker and its calls. -/
inductive Happening (ε ν : Type) where
  | step (i : Input ε ν)
  /-- An outcome or a release that belongs to no call. -/
  | loose (now : Nat) (ending : Ending ε ν)

namespace Ledger

/-- An outcome or a release of anybody but a call of the generation. -/
def isForeign (s : Ledger ε ν) : Happening ε ν → Bool
  | .loose .. => true
  | .step i =>
    match i.step with
    | .finish call _ =>
      match s.calls[call]? with
      | some ⟨generation, .running⟩ => generation ≠ s.breaker.cell.generation
      | _ => false
    | _ => false

theorem isForeign_of_finish {s : Ledger ε ν} {i : Input ε ν} {call generation : Nat}
    {ending : Ending ε ν} (hstep : i.step = .finish call ending)
    (hcall : s.calls[call]? = some ⟨generation, .running⟩) :
    s.isForeign (.step i) = decide (generation ≠ s.breaker.cell.generation) := by
  unfold isForeign
  simp only [hstep, hcall]

variable [Fault ε]

def follow (s : Ledger ε ν) : Happening ε ν → Ledger ε ν
  | .step i => s.next i
  | .loose now ending => { s with breaker := (ending.apply s.breaker now).1 }

/-- How often, while a generation lasts, anybody but its own calls releases or reports. -/
def foreignEnds (generation : Nat) (s : Ledger ε ν) : List (Happening ε ν) → Nat
  | [] => 0
  | h :: rest =>
    (decide (s.breaker.cell.generation = generation) && s.isForeign h).toNat +
      foreignEnds generation (s.follow h) rest

/-- A release or an outcome of no call finds the breaker as one of another generation does. -/
theorem loose_preserves {P : Breaker ε ν → Prop} (b : Breaker ε ν) (now : Nat)
    (ending : Ending ε ν) (hc : b.config.Sound) (released : P b.release)
    (recorded : ∀ x event m events, Recording b now x event m events → P m) :
    P (ending.apply b now).1 := by
  cases hback : ending.givesBack b.config with
  | true =>
    rw [ending.apply_of_givesBack b now hback]
    exact released
  | false =>
    obtain ⟨elapsed, failed, event, happly⟩ := ending.apply_of_not_givesBack b now hback
    rw [happly]
    exact recorded _ _ _ _ (record_recording hc now elapsed failed event)

theorem follow_config (s : Ledger ε ν) (h : Happening ε ν) (hc : s.breaker.config.Sound) :
    (s.follow h).breaker.config = s.breaker.config := by
  cases h with
  | step i => exact s.next_config i hc
  | loose now ending =>
    exact loose_preserves (P := fun b => b.config = s.breaker.config) s.breaker now ending hc
      s.breaker.release_config fun _ _ _ _ hrecording => hrecording.config_eq

theorem follow_dated (s : Ledger ε ν) (h : Happening ε ν) (hc : s.breaker.config.Sound)
    (hd : Dated s.breaker s.calls) : Dated (s.follow h).breaker (s.follow h).calls := by
  cases h with
  | step i => exact s.next_dated i hc hd
  | loose now ending =>
    exact loose_preserves (P := fun b => Dated b s.calls) s.breaker now ending hc
      (hd.later (Nat.le_of_eq s.breaker.release_generation.symm))
      fun _ _ _ _ hrecording => hd.later hrecording.generation_le

theorem follow_supplied {others later : Nat → Nat} (s : Ledger ε ν) (h : Happening ε ν)
    (hc : s.breaker.config.Sound) (hd : Dated s.breaker s.calls)
    (hmore : others s.breaker.cell.generation + (s.isForeign h).toNat ≤
      later s.breaker.cell.generation)
    (hs : Supplied others s.breaker s.calls) :
    Supplied later (s.follow h).breaker (s.follow h).calls := by
  have hsame : others s.breaker.cell.generation ≤ later s.breaker.cell.generation := by omega
  have hkept : Supplied later s.breaker s.calls := hs.mono hsame
  cases h with
  | step i =>
    apply next_preserves (P := Supplied later) s i hc
    · intro b events hadmission
      exact hkept.admitted hc hd hadmission
    · intro b events hadmission
      exact hkept.refused hadmission
    · intro call ending generation hstep hcall _
      rw [isForeign_of_finish hstep hcall] at hmore
      exact hs.released hmore (inFlight_finish hcall nofun)
    · intro call ending generation x event b events hstep hcall _ hrecording
      rw [isForeign_of_finish hstep hcall] at hmore
      exact hs.recorded hmore (inFlight_finish hcall nofun) hrecording
    · intro call generation _ hdisabled hopen
      rw [hdisabled] at hopen
      cases hopen
    · intro trigger target hrequest _ hopen
      have hhalf : target = .halfOpen := hopen
      have htrigger : trigger ≠ .openWaitElapsed := by
        rintro rfl
        cases hrequest
      subst hhalf
      apply Balanced.entered hc
      rw [moved_probes _ _ _ _ htrigger, inFlight_of_lt hd (Nat.lt_succ_self _)]
      rfl
    · intro hopen
      exact (hkept hopen).refreshed i.now
    · exact hkept
  | loose now ending =>
    exact loose_preserves (P := fun b => Supplied later b s.calls) s.breaker now ending hc
      (hs.released hmore rfl) fun _ _ _ _ hrecording => hs.recorded hmore rfl hrecording

/-- Every half-open state of a run is in balance. -/
theorem run_supplied {others : Nat → Nat} (s : Ledger ε ν) (happenings : List (Happening ε ν))
    (hc : s.breaker.config.Sound) (hd : Dated s.breaker s.calls)
    (hs : Supplied others s.breaker s.calls) :
    let t := happenings.foldl follow s
    t.breaker.config = s.breaker.config ∧
      Supplied (fun generation => others generation + s.foreignEnds generation happenings)
        t.breaker t.calls := by
  induction happenings generalizing s others with
  | nil => exact ⟨rfl, hs⟩
  | cons h rest ih =>
    have hconfig := s.follow_config h hc
    have hsound : (s.follow h).breaker.config.Sound := by rwa [hconfig]
    have hnext : Supplied (fun generation => others generation +
        (decide (s.breaker.cell.generation = generation) && s.isForeign h).toNat)
        (s.follow h).breaker (s.follow h).calls :=
      s.follow_supplied h hc hd (by simp) hs
    obtain ⟨hrest, hsupplied⟩ := ih (s.follow h) hsound (s.follow_dated h hc hd) hnext
    refine ⟨hrest.trans hconfig, fun hopen => ?_⟩
    exact (hsupplied hopen).mono (Nat.le_of_eq (Nat.add_assoc ..))

end Ledger

/-! ### No lockout -/

/-- A half-open state with a probe left hands it out, unless it has lasted too long. -/
theorem tryAcquire_of_probe {b : Breaker ε ν} (hc : b.config.Sound) (hopen : b.state = .halfOpen)
    (hfree : 0 < b.cell.probes) (now : Nat) :
    if b.halfOpenExpired now then b.cell.generation < (b.tryAcquire now).1.cell.generation
    else (b.tryAcquire now).2.2 = true := by
  cases hlasts : b.halfOpenExpired now with
  | false =>
    rw [tryAcquire_probe hopen hlasts hfree]
    rfl
  | true =>
    have hadmission : Admission b now _ _ _ := tryAcquire_admission hc
    generalize b.tryAcquire now = answer at hadmission
    obtain ⟨m, events, admitted⟩ := answer
    show b.cell.generation < m.cell.generation
    cases hadmission with
    | passed h =>
      rw [hopen] at h
      simp at h
    | forced h | early h _ | firstProbe h _ =>
      rw [hopen] at h
      cases h
    | probe _ hnot _ | noProbe _ hnot _ =>
      rw [hlasts] at hnot
      cases hnot
    | expired _ _ _ => exact Nat.lt_succ_self _
    | renewed _ _ _ => exact Nat.lt_succ_of_lt (Nat.lt_succ_self _)

/-- **A half-open breaker never runs out of probes for good.** Whatever happens, in every half-open
state the probes that are left, the calls of the generation in flight and the outcomes in the
window are at least the permitted number, and more than that only by what others have released and
reported in the generation. The outcomes are fewer than the permitted number, the probes at most as
many. So if no call of the generation is in flight a probe is left, and the next one to ask gets it,
unless the half-open state has lasted too long and ends. -/
theorem probe_supply [Fault ε] {name : String} {config : Config ε ν} {start : Nat} {draws : Draws}
    {b : Breaker ε ν} (hnew : Breaker.new name config start draws = .ok b)
    (happenings : List (Happening ε ν)) {s : Ledger ε ν}
    (hs : happenings.foldl Ledger.follow (Ledger.fresh b) = s)
    (hopen : s.breaker.state = .halfOpen) :
    let generation := s.breaker.cell.generation
    config.permittedProbes ≤ s.breaker.supply s.calls ∧
      s.breaker.supply s.calls ≤
        config.permittedProbes + (Ledger.fresh b).foreignEnds generation happenings ∧
      s.breaker.reported < config.permittedProbes ∧
      s.breaker.cell.probes ≤ config.permittedProbes ∧
      (inFlight generation s.calls = 0 →
        0 < s.breaker.cell.probes ∧
          ∀ now,
            if s.breaker.halfOpenExpired now then
              generation < (s.breaker.tryAcquire now).1.cell.generation
            else (s.breaker.tryAcquire now).2.2 = true) := by
  obtain ⟨hsound, hb⟩ := new_eq_ok hnew
  have hbegin : b.config = config ∧ Supplied (fun _ => 0) b [] := by
    rw [hb]
    exact ⟨rfl, nofun⟩
  obtain ⟨hstart, hsupplied⟩ := hbegin
  have hrun := (Ledger.fresh b).run_supplied happenings (by rwa [← hstart] at hsound)
    (Dated.nil b) hsupplied
  rw [hs] at hrun
  obtain ⟨hsame, hbalanced⟩ := hrun
  have hconfig : s.breaker.config = config := hsame.trans hstart
  have h := hbalanced hopen
  have henough := h.enough
  have hbounded := h.bounded
  have hundecided := h.undecided
  have hprobes := h.probes_le
  rw [hconfig] at henough hbounded hundecided hprobes
  refine ⟨henough, by simpa using hbounded, hundecided, hprobes, fun hnone => ?_⟩
  have hfree : 0 < s.breaker.cell.probes := by
    unfold supply at henough
    omega
  exact ⟨hfree, tryAcquire_of_probe (by rwa [hconfig]) hopen hfree⟩

/-- Two probes at a time. -/
def paired : Config Error Unit := { strict with permittedProbes := 2 }

def pairedBreaker : Breaker Error Unit :=
  { name := "paired", config := paired, cell := paired.freshCell 0 .closed 0 0 false none }

/-- Both probes are handed out; one comes back with its outcome and the other is cancelled. Between
the two a call that was admitted while closed is cancelled as well, and in the end somebody releases
what nobody has taken. -/
def spentProbes : List (Happening Error Unit) :=
  [.step ⟨0, .ask⟩, .step ⟨0, .ask⟩, .step ⟨5, .finish 1 (.error ⟨5⟩ .concurrentModification)⟩,
    .step ⟨15, .ask⟩, .step ⟨16, .ask⟩, .step ⟨17, .finish 2 (.success ⟨1⟩)⟩,
    .step ⟨18, .finish 0 .release⟩, .step ⟨19, .finish 3 .release⟩, .loose 20 .release]

theorem spentProbes_supplied :
    let s := spentProbes.foldl Ledger.follow (Ledger.fresh pairedBreaker)
    s.breaker.state = .halfOpen ∧ inFlight s.breaker.cell.generation s.calls = 0 ∧
      s.breaker.reported < 2 ∧ 0 < s.breaker.cell.probes ∧
      ∀ now,
        if s.breaker.halfOpenExpired now then
          s.breaker.cell.generation < (s.breaker.tryAcquire now).1.cell.generation
        else (s.breaker.tryAcquire now).2.2 = true := by
  have h := probe_supply (show Breaker.new "paired" paired 0 = .ok pairedBreaker from rfl)
    spentProbes rfl (by decide)
  obtain ⟨_, _, hundecided, _, hfree⟩ := h
  exact ⟨by decide, by decide, hundecided, hfree (by decide)⟩

/-! ### Calls through a layer -/

/-- How a call that took so long ends for the breaker around it. A call that panics gives its
admission back. -/
def Ending.ofCall (elapsed : Duration) : Stack.Ending ε ν → Ending ε ν
  | .returned v => .result elapsed v
  | .failed e => .error elapsed e
  | .panicked => .release

/-- However a call that a breaker has let in is over, the breaker takes it as the ending that fits.
A call that is dropped is abandoned as one that panics. -/
theorem layer_after_call [Fault ε] (b : Breaker ε ν) (since now : Nat)
    (ending : Stack.Ending ε ν) :
    (match ending.outcome? with
      | some outcome => (Stack.Layer.leave now (.admission since) outcome (.breaker b)).1
      | none => (Stack.Layer.abandon (.admission since) (.breaker b)).1) =
    .breaker ((Ending.ofCall (Stack.Layer.since since now) ending).apply b now).1 := by
  cases ending with
  | returned v => rfl
  | failed e => rfl
  | panicked => rfl

end FaultTolerance.Breaker
