import FaultTolerance.Proofs.Retry.Attempts
import FaultTolerance.Proofs.Stack.Moves

/-! A world with one retry in it.

A blocking call that is inside of the retry takes one turn after the other (`turn`, `around_turn`):
a run of its operation, what the retry decides, and the wait. A suspended call does the same in
pieces, and its runs may be suspended as well (`startRun_cases`, `sleepUntil_cases`). -/
namespace FaultTolerance.Stack.World
variable {ε ν : Type} [Fault ε] {w m : World ε ν} {r : Retry ε ν} {n : Nat} {outcome : Except ε ν}

section Single
variable (hw : w.layers = [.retry r])
include hw

omit [Fault ε] in
theorem getElem?_of_single : w.layers[0]? = some (.retry r) := by rw [hw]; rfl

omit [Fault ε] in
theorem enter_single [Timer] : w.enter 0 = (w, .admitted (.attempts 0)) := by
  have hi := getElem?_of_single hw
  rw [enter_of_getElem? hi]
  exact congrArg (·, _) (put_self hi)

omit [Fault ε] in
theorem enterBlocking_single [Timer] : w.enterBlocking 0 = (w, .inl (.attempts 0)) := by
  have hi := getElem?_of_single hw
  simp only [enterBlocking, hi, Layer.enterBlocking, put_self hi, pass_zero]

omit [Fault ε] in
theorem abandon_single (h : Hold) : w.abandon 0 h = w := by
  have hi := getElem?_of_single hw
  simp only [abandon, hi, Layer.abandon, put_self hi]

omit [Fault ε] in
theorem patience_single : w.patience 0 = r.config.maxAttempts := by
  simp only [patience, getElem?_of_single hw, Option.map_some, Layer.patience, Option.getD_some]

omit [Fault ε] in
theorem resumeAt_early [Timer] {due : Nat} (hearly : ¬ due ≤ w.timer) :
    w.resumeAt 0 w.timer (.backoff n due) = (w, .waiting (.backoff n due)) := by
  have hi := getElem?_of_single hw
  simp only [resumeAt, hi, Layer.resume, if_neg hearly, put_self hi]

theorem leave_open (hopen : r.config.isFinal outcome = false)
    (hleft : n + 1 < r.config.maxAttempts) :
    w.leave 0 (.attempts n) outcome =
      (w.put 0 (.retry (r.spent 1)) [.retry (.retry (n + 1)
        (r.config.interval.wait (n + 1) r.draws.next) (Retry.textOf outcome))],
        .again (n + 1) (r.config.interval.wait (n + 1) r.draws.next)) := by
  rw [leave_of_getElem? (getElem?_of_single hw)]
  simp only [Layer.leave, Retry.onOutcome_again hopen hleft, List.map_cons, List.map_nil]

theorem leave_final
    (hstop : r.config.isFinal outcome = true ∨ r.config.maxAttempts ≤ n + 1) :
    w.leave 0 (.attempts n) outcome =
      (w.put 0 (.retry (r.counted (r.config.counter? (n + 1) outcome)))
        ((r.config.closing (n + 1) outcome).map .retry), .done) := by
  rw [leave_of_getElem? (getElem?_of_single hw)]
  simp only [Layer.leave, Retry.onOutcome_stop hstop]

end Single

omit [Fault ε] in
theorem put_single (hw : w.layers = [.retry r]) (next : Retry ε ν) (reports : List Report) :
    (w.put 0 (.retry next) reports).layers = [.retry next] := by
  rw [put_layers, hw]
  rfl

/-- One attempt of a blocking call inside of a layer: a run of its operation, and the wait for the
next attempt if there is one. -/
def turn (w : World ε ν) (run : Run ε ν) (h : Hold) : World ε ν × (Ending ε ν ⊕ Nat × Duration) :=
  let (m, e) := w.beginRun.endRun run
  match e.outcome? with
  | none => (m.abandon 0 h, .inl .panicked)
  | some outcome =>
    match m.leave 0 h outcome with
    | (k, .done) => (k, .inl e)
    | (k, .broken) => (k, .inl .panicked)
    | (k, .again n wait) => (k.pass wait, .inr (n, wait))

section Turn
variable {run : Run ε ν} {h : Hold} {k : World ε ν} {wait : Duration}

theorem turn_panicked (hpanics : run.ending.outcome? = none) :
    w.turn run h = ((w.beginRun.endRun run).1.abandon 0 h, .inl run.ending) := by
  simp only [turn, endRun, hpanics]
  rw [Ending.eq_panicked hpanics]

theorem turn_done (houtcome : run.ending.outcome? = some outcome)
    (hleave : (w.beginRun.endRun run).1.leave 0 h outcome = (k, .done)) :
    w.turn run h = (k, .inl run.ending) := by
  simp only [endRun] at hleave
  simp only [turn, endRun, houtcome, hleave]

theorem turn_again (houtcome : run.ending.outcome? = some outcome)
    (hleave : (w.beginRun.endRun run).1.leave 0 h outcome = (k, .again n wait)) :
    w.turn run h = (k.pass wait, .inr (n, wait)) := by
  simp only [endRun] at hleave
  simp only [turn, endRun, houtcome, hleave]

theorem turn_runs [Timer] (w : World ε ν) (run : Run ε ν) (h : Hold) :
    (w.turn run h).1.runs = w.runs + 1 := by
  have hleave (m : World ε ν) (outcome : Except ε ν) : (m.leave 0 h outcome).1.runs = m.runs := by
    rw [leave_eq_deal, deal_runs]
  cases houtcome : run.ending.outcome? with
  | none =>
    rw [turn_panicked houtcome, abandon_eq_deal, deal_runs]
    rfl
  | some outcome =>
    have hk := hleave (w.beginRun.endRun run).1 outcome
    simp only [turn, endRun, houtcome] at hk ⊢
    rcases hleft : World.leave _ 0 h outcome with ⟨k, _ | ⟨n, wait⟩ | _⟩ <;>
      rw [hleft] at hk
    · exact hk
    · obtain ⟨clock, hpass⟩ := k.pass_eq wait
      simp only [hpass]
      exact hk
    · exact hk

end Turn

/-- A blocking call takes one turn after the other. -/
theorem around_turn [Timer] (operation : Nat → Run ε ν) (fuel : Nat) (h : Hold) (w : World ε ν) :
    around 0 (call operation []) (fuel + 1) h w =
      match w.turn (operation w.runs) h with
      | (m, .inl e) => (m, e)
      | (m, .inr (n, _)) => around 0 (call operation []) fuel (.attempts n) m := by
  rcases hran : w.beginRun.endRun (operation w.runs) with ⟨m, e⟩
  have hinner : call operation [] w = (m, e) := hran
  simp only [turn, hran]
  cases houtcome : e.outcome? with
  | none =>
    obtain rfl := Ending.eq_panicked houtcome
    exact around_panicked hinner
  | some outcome =>
    rcases hleave : m.leave 0 h outcome with ⟨k, _ | ⟨n, wait⟩ | _⟩
    · simp only [around_done hinner houtcome hleave, hleave]
    · simp only [around_again hinner houtcome hleave, hleave]
    · simp only [around_broken hinner houtcome hleave, hleave]

/-! #### Runs -/

omit [Fault ε] in
/-- A run that sleeps goes on sleeping, never comes back, or ends. -/
theorem sleepUntil_cases (w : World ε ν) (due : Nat) (run : Run ε ν) :
    (w.timer < due ∧ w.sleepUntil due run = (w, .inr (.operating (some due) run))) ∨
      (run.stalls = true ∧ w.sleepUntil due run = (w, .inr (.operating none run))) ∨
      ∃ clock, w.sleepUntil due run = (w.setClock clock, .inl run.ending) := by
  unfold sleepUntil afterSleep
  split
  case isTrue =>
    split
    case isTrue hstalls => exact .inr (.inl ⟨hstalls, rfl⟩)
    case isFalse => exact .inr (.inr ⟨_, rfl⟩)
  case isFalse hearly => exact .inl ⟨Nat.lt_of_not_le hearly, rfl⟩

omit [Fault ε] in
/-- A run that begins is suspended or comes to its end. -/
theorem startRun_cases [Timer] (w : World ε ν) (run : Run ε ν) :
    (∃ due, (due = none → run.stalls = true) ∧
        w.startRun run = (w.beginRun, .inr (.operating due run))) ∨
      ∃ clock, w.startRun run = (w.beginRun.setClock clock, .inl run.ending) := by
  unfold startRun
  split
  case h_1 =>
    unfold afterSleep
    split
    case isTrue hstalls => exact .inl ⟨none, fun _ => hstalls, rfl⟩
    case isFalse => exact .inr ⟨_, rfl⟩
  case h_2 d _ =>
    rcases w.beginRun.sleepUntil_cases (Timer.wakeAt w.timer d) run with
      ⟨_, hsleeps⟩ | ⟨hstalls, hsleeps⟩ | ⟨clock, hends⟩
    · exact .inl ⟨some _, nofun, hsleeps⟩
    · exact .inl ⟨none, fun _ => hstalls, hsleeps⟩
    · exact .inr ⟨clock, hends⟩

end FaultTolerance.Stack.World
