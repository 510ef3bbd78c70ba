import FaultTolerance.Proofs.Breaker.Calls

/-! What decides a half-open state.

The window of a half-open state counts the outcomes that were recorded while it lasted (`Counted`),
so its verdict comes when they are as many as the permitted probes. The window does not ask which
generation admitted a call: what a call of another generation reports takes the place of a probe,
and the verdict can be made before any probe is back. -/
namespace FaultTolerance

/-! ### A window that is not full -/

theorem Ring.insert_of_lt {α : Type} {r : Ring α} (h : r.size < r.capacity) (a : α) :
    (r.insert a).2 = none ∧ (r.insert a).1.size = r.size + 1 ∧
      (r.insert a).1.capacity = r.capacity := by
  unfold insert
  by_cases hempty : r.size = 0
  · rw [if_pos hempty]
    refine ⟨rfl, by rw [hempty], ?_⟩
    exact Array.size_setIfInBounds
  · rw [if_neg hempty, if_neg (Nat.ne_of_lt h)]
    exact ⟨rfl, rfl, Array.size_setIfInBounds⟩

/-- A window by number that has room for `capacity` calls and has counted `n` of them so far. -/
def Window.HasCounted (w : Window) (capacity n : Nat) : Prop :=
  ∃ c, w.calls = .count c ∧ c.ring.capacity = capacity ∧ c.ring.size = n ∧ c.total.calls = n

namespace Window.HasCounted
variable {w : Window} {capacity n : Nat}

theorem view (h : w.HasCounted capacity n) : w.view.totals.calls = n := by
  obtain ⟨c, hcalls, _, _, htotal⟩ := h
  unfold Window.view Window.total
  rw [hcalls]
  exact htotal

theorem refresh (h : w.HasCounted capacity n) (now : Nat) :
    (w.refresh now).HasCounted capacity n := by
  obtain ⟨c, hcalls, hc⟩ := h
  unfold Window.refresh
  rw [hcalls]
  exact ⟨c, hcalls, hc⟩

theorem record (h : w.HasCounted capacity n) (hlt : n < capacity) (now : Nat) (m : Measurement) :
    (w.record now m).HasCounted capacity (n + 1) := by
  obtain ⟨c, hcalls, hcapacity, hsize, htotal⟩ := h
  obtain ⟨hnone, hmore, hsame⟩ := Ring.insert_of_lt (a := m) (r := c.ring) (by omega)
  have hcount : c.record m = ⟨(c.ring.insert m).1, c.total.record m⟩ := by
    unfold CountWindow.record
    split
    · next hinsert => rw [hinsert] at hnone; cases hnone
    · next hinsert => rw [hinsert]
  refine ⟨c.record m, ?_, ?_, ?_, ?_⟩
  · unfold Window.record
    rw [hcalls]
  · rw [hcount]
    exact hsame.trans hcapacity
  · rw [hcount]
    exact hmore.trans (by rw [hsize])
  · rw [hcount]
    show c.total.calls + 1 = n + 1
    rw [htotal]

end Window.HasCounted

namespace Breaker
variable {ε ν : Type}

theorem freshCell_hasCounted (c : Config ε ν) (now generation attempts : Nat)
    (reserveProbe : Bool) :
    (c.freshCell now .halfOpen generation attempts reserveProbe none).window.HasCounted
      c.permittedProbes 0 :=
  ⟨.empty c.permittedProbes, rfl, Array.size_replicate, rfl, rfl⟩

/-! ### Outcomes by generation -/

/-- The outcomes that were recorded in a generation. -/
def recordedIn (generation : Nat) (calls : List Call) : Nat :=
  calls.countP fun c => c.fate = .recorded generation

/-- Those of calls that the generation itself admitted. -/
def recordedOwn (generation : Nat) (calls : List Call) : Nat :=
  recordedIn generation (calls.filter (·.generation = generation))

/-- Those of calls that another generation admitted. -/
def recordedStray (generation : Nat) (calls : List Call) : Nat :=
  recordedIn generation (calls.filter (·.generation ≠ generation))

section Recorded
variable {generation : Nat} {calls : List Call}

theorem recordedOwn_add_recordedStray :
    recordedOwn generation calls + recordedStray generation calls =
      recordedIn generation calls := by
  unfold recordedOwn recordedStray recordedIn
  rw [List.countP_eq_countP_filter_add calls _ (·.generation = generation)]
  simp only [ne_eq, decide_not]

theorem recordedIn_of_lt {b : Breaker ε ν} (h : Dated b calls)
    (hlt : b.cell.generation < generation) : recordedIn generation calls = 0 := by
  refine List.countP_eq_zero.mpr fun c hc => ?_
  intro hfate
  have hle := h.recorded c hc generation (of_decide_eq_true hfate)
  omega

theorem recordedIn_enter (g : Nat) :
    recordedIn generation (calls ++ [{ generation := g }]) = recordedIn generation calls := by
  unfold recordedIn
  rw [countP_enter]
  rfl

theorem recordedIn_finish {call g : Nat} (hcall : calls[call]? = some ⟨g, .running⟩) (fate : Fate) :
    recordedIn generation (calls.set call ⟨g, fate⟩) =
      recordedIn generation calls + if fate = .recorded generation then 1 else 0 := by
  have hcount := countP_finish (fun c => decide (c.fate = .recorded generation)) hcall fate
  unfold recordedIn
  by_cases hfate : fate = .recorded generation
  · simpa [hfate] using hcount
  · simpa [hfate] using hcount

end Recorded

/-! ### The count of a half-open state -/

/-- The window of a half-open state has counted what was recorded while it lasts, and that is less
than the permitted number of probes. -/
def Counted (b : Breaker ε ν) (calls : List Call) : Prop :=
  b.state = .halfOpen →
    recordedIn b.cell.generation calls < b.config.permittedProbes ∧
      b.cell.window.HasCounted b.config.permittedProbes (recordedIn b.cell.generation calls)

namespace Counted
variable {b m : Breaker ε ν} {calls : List Call} {now : Nat} {events : List Event}

/-- A half-open state begins with nothing counted. -/
theorem entered (hc : b.config.Sound) {trigger : Trigger}
    (hnone : recordedIn (b.cell.generation + 1) calls = 0) :
    Counted (b.moved now trigger .halfOpen) calls := by
  intro _
  rw [moved_generation, moved_config, hnone]
  exact ⟨hc.probes_pos, freshCell_hasCounted ..⟩

theorem admitted (hc : b.config.Sound) (hd : Dated b calls) (h : Counted b calls)
    (hadmission : Admission b now m events true) :
    Counted m (calls ++ [{ generation := m.cell.generation }]) := by
  cases hadmission with
  | passed hstate =>
    intro hopen
    rw [hopen] at hstate
    simp at hstate
  | firstProbe _ _ =>
    refine entered hc ?_
    rw [recordedIn_enter]
    exact recordedIn_of_lt hd (Nat.lt_succ_self _)
  | probe hopen _ _ =>
    intro _
    rw [recordedIn_enter]
    exact h hopen
  | renewed _ _ _ =>
    refine entered (b := b.moved now .halfOpenWaitElapsed .opened) hc ?_
    rw [recordedIn_enter, moved_generation]
    exact recordedIn_of_lt hd (by omega)

theorem refused (h : Counted b calls) (hadmission : Admission b now m events false) :
    Counted m calls := by
  cases hadmission with
  | forced _ | early _ _ | noProbe _ _ _ => exact h
  | expired _ _ _ =>
    intro hopen
    cases hopen

theorem returned (h : Counted b calls) {call g : Nat}
    (hcall : calls[call]? = some ⟨g, .running⟩) :
    Counted b.release (calls.set call ⟨g, .givenBack⟩) := by
  intro hopen
  rw [release_state] at hopen
  rw [release_generation, release_config, release_window, recordedIn_finish hcall,
    if_neg (fun hfate => nomatch hfate)]
  exact h hopen

/-- The next outcome is counted as well. -/
theorem noted (h : Counted b calls) (hopen : b.state = .halfOpen) {call g : Nat}
    (hcall : calls[call]? = some ⟨g, .running⟩) (now : Nat) (x : Measurement) :
    (b.noted now x).cell.window.view.totals.calls =
        recordedIn b.cell.generation
          (calls.set call ⟨g, .recorded b.cell.generation⟩) ∧
      (b.noted now x).cell.window.HasCounted b.config.permittedProbes
        (recordedIn b.cell.generation (calls.set call ⟨g, .recorded b.cell.generation⟩)) := by
  obtain ⟨hlt, hcounted⟩ := h hopen
  have hnext := hcounted.record hlt now x
  rw [recordedIn_finish hcall, if_pos rfl]
  exact ⟨hnext.view, hnext⟩

theorem recorded (h : Counted b calls) {x : Measurement} {event : Event}
    (hrecording : Recording b now x event m events) {call g : Nat}
    (hcall : calls[call]? = some ⟨g, .running⟩) :
    Counted m (calls.set call ⟨g, .recorded b.cell.generation⟩) := by
  intro hopen
  cases hrecording with
  | ignored hdisabled =>
    rw [hdisabled] at hopen
    cases hopen
  | kept _ _ hv =>
    obtain ⟨htotal, hcounted⟩ := h.noted hopen hcall now x
    have hfew := lt_of_verdict?_eq_none (b := b.noted now x) hopen hv
    rw [htotal] at hfew
    exact ⟨hfew, hcounted⟩
  | watched hwatch =>
    have hstate : b.state = .halfOpen := hopen
    rw [hwatch] at hstate
    cases hstate
  | decided _ _ _ _ _ hdecided => exact absurd hopen hdecided

end Counted

namespace Ledger
variable [Fault ε]

theorem next_counted (s : Ledger ε ν) (i : Input ε ν) (hc : s.breaker.config.Sound)
    (hd : Dated s.breaker s.calls) (h : Counted s.breaker s.calls) :
    Counted (s.next i).breaker (s.next i).calls := by
  apply next_preserves (P := Counted) s i hc
  · intro b events hadmission
    exact h.admitted hc hd hadmission
  · intro b events hadmission
    exact h.refused hadmission
  · intro call ending generation _ hcall _
    exact h.returned hcall
  · intro call ending generation x event b events _ hcall _ hrecording
    exact h.recorded hrecording hcall
  · intro call generation _ hdisabled hopen
    rw [hdisabled] at hopen
    cases hopen
  · intro trigger target _ _ hopen
    have hhalf : target = .halfOpen := hopen
    rw [hhalf]
    exact Counted.entered hc (recordedIn_of_lt hd (Nat.lt_succ_self _)) rfl
  · intro hopen
    obtain ⟨hfew, hcounted⟩ := h hopen
    exact ⟨hfew, hcounted.refresh i.now⟩
  · exact h

/-- An outcome that ends a half-open state before its longest wait is the last of the permitted
number. -/
theorem recordedIn_of_verdict {s t : Ledger ε ν} {now call : Nat} {ending : Ending ε ν}
    (hc : s.breaker.config.Sound) (h : Counted s.breaker s.calls)
    (hopen : s.breaker.state = .halfOpen) (hlasts : s.breaker.halfOpenExpired now = false)
    (ht : s.next ⟨now, .finish call ending⟩ = t) (hleft : t.breaker.state ≠ .halfOpen) :
    recordedIn s.breaker.cell.generation t.calls = s.breaker.config.permittedProbes := by
  by_cases hrunning : ∃ generation, s.calls[call]? = some ⟨generation, .running⟩
  · obtain ⟨generation, hcall⟩ := hrunning
    cases hback : ending.givesBack s.breaker.config with
    | true =>
      rw [← ht, next_of_givesBack (i := ⟨now, .finish call ending⟩) rfl hcall hback] at hleft
      exact absurd (s.breaker.release_state.trans hopen) hleft
    | false =>
      rcases next_of_not_givesBack (i := ⟨now, .finish call ending⟩) hc rfl hcall hback with
        ⟨hdisabled, _⟩ | ⟨x, event, b, events, hrecording, _, hnext⟩
      · rw [hdisabled] at hopen
        cases hopen
      · rw [ht] at hnext
        rw [hnext] at hleft ⊢
        cases hrecording with
        | ignored _ | kept _ _ _ => exact absurd hopen hleft
        | watched hwatch =>
          rw [hwatch] at hopen
          cases hopen
        | decided trigger target hv _ _ _ =>
          obtain ⟨hfew, _⟩ := h hopen
          obtain ⟨htotal, _⟩ := h.noted hopen hcall now x
          have hmore : recordedIn s.breaker.cell.generation
              (s.calls.set call ⟨generation, .recorded s.breaker.cell.generation⟩) =
                recordedIn s.breaker.cell.generation s.calls + 1 :=
            (recordedIn_finish hcall _).trans (by rw [if_pos rfl])
          rw [verdict?_halfOpen (b := s.breaker.noted now x) hopen hlasts, htotal] at hv
          split at hv
          · next hfull =>
            refine Nat.le_antisymm ?_ hfull
            show recordedIn s.breaker.cell.generation (s.calls.set call _) ≤ _
            rw [hmore]
            exact hfew
          · cases hv
  · rw [next_of_not_running rfl hrunning] at ht
    rw [← ht] at hleft
    exact absurd hopen hleft

end Ledger

/-- **A half-open verdict is made by the probes exactly if nobody else reports.** When an outcome
ends a half-open state before its longest wait, the permitted number of outcomes was recorded in it.
All of them come from calls that were admitted in it if and only if no call of another generation
reported in it. -/
theorem verdict_by_probes_iff [Fault ε] {name : String} {config : Config ε ν} {start : Nat}
    {draws : Draws} {b : Breaker ε ν} (hnew : Breaker.new name config start draws = .ok b)
    (inputs : List (Input ε ν))
    {s t : Ledger ε ν} (hs : (Ledger.fresh b).run inputs = s) {now call : Nat}
    {ending : Ending ε ν} (hopen : s.breaker.state = .halfOpen)
    (hlasts : s.breaker.halfOpenExpired now = false)
    (ht : s.next ⟨now, .finish call ending⟩ = t) (hleft : t.breaker.state ≠ .halfOpen) :
    recordedOwn s.breaker.cell.generation t.calls +
        recordedStray s.breaker.cell.generation t.calls = config.permittedProbes ∧
      (recordedOwn s.breaker.cell.generation t.calls = config.permittedProbes ↔
        recordedStray s.breaker.cell.generation t.calls = 0) := by
  obtain ⟨hsound, hb⟩ := new_eq_ok hnew
  have hstart : b.config = config ∧ Dated b [] ∧ Counted b [] := by
    rw [hb]
    refine ⟨rfl, Dated.nil _, ?_⟩
    intro hhalf
    cases hhalf
  have hrun : s.breaker.config = config ∧ Dated s.breaker s.calls ∧ Counted s.breaker s.calls := by
    rw [← hs]
    refine List.foldlRecOn
      (motive := fun u : Ledger ε ν =>
        u.breaker.config = config ∧ Dated u.breaker u.calls ∧ Counted u.breaker u.calls)
      inputs Ledger.next hstart fun u hu i _ => ?_
    obtain ⟨hconfig, hdated, hcounted⟩ := hu
    have hc : u.breaker.config.Sound := by rwa [hconfig]
    exact ⟨(u.next_config i hc).trans hconfig, u.next_dated i hc hdated,
      u.next_counted i hc hdated hcounted⟩
  obtain ⟨hconfig, _, hcounted⟩ := hrun
  have hall := Ledger.recordedIn_of_verdict (by rwa [hconfig]) hcounted hopen hlasts ht hleft
  have hsum : recordedOwn s.breaker.cell.generation t.calls +
      recordedStray s.breaker.cell.generation t.calls = config.permittedProbes := by
    rw [recordedOwn_add_recordedStray, hall, hconfig]
  exact ⟨hsum, by omega⟩

/-- A failure opens the breaker, and the next call is its probe. -/
def probed : List (Input Error Unit) :=
  [⟨0, .ask⟩, ⟨0, .ask⟩, ⟨5, .finish 1 (.error ⟨5⟩ .concurrentModification)⟩, ⟨15, .ask⟩]

/-- The probe reports. -/
theorem probed_verdict_by_probe :
    recordedOwn ((Ledger.fresh strictBreaker).run probed).breaker.cell.generation
      (((Ledger.fresh strictBreaker).run probed).next ⟨16, .finish 2 (.success ⟨1⟩)⟩).calls =
        strict.permittedProbes :=
  (verdict_by_probes_iff (show Breaker.new "strict" strict 0 = .ok strictBreaker from rfl) probed
    rfl (by decide) (by decide) rfl (by decide)).2.mpr (by decide)

/-- A call that was admitted while closed reports in the place of the probe, and the breaker closes
before the probe is back. -/
theorem stray_verdict :
    let s := (Ledger.fresh strictBreaker).run probed
    let t := s.next ⟨16, .finish 0 (.success ⟨16⟩)⟩
    s.breaker.state = .halfOpen ∧ s.breaker.halfOpenExpired 16 = false ∧
      t.breaker.state = .closed ∧ recordedOwn s.breaker.cell.generation t.calls = 0 := by
  decide

end Breaker

end FaultTolerance
