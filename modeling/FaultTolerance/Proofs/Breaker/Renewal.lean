import FaultTolerance.Proofs.Breaker.Chronicle

/-! A breaker that closes forgets its past.

Two things outlive every transition: the generation and the count of refused calls. Neither is ever
looked at, so a breaker with a longer past does whatever the younger one does (`act_aged`). A
breaker that has just closed is a new one with such a past (`moved_closed`); what follows can
therefore not be told from the life of a breaker that was made at that moment, if the two draw the
same numbers from then on (`closed_as_new`). -/
namespace FaultTolerance.Breaker
variable {ε ν : Type}

/-! ### A longer past -/

/-- The same cell so many generations later. -/
def Cell.aged (c : Cell) (generations : Nat) : Cell :=
  { c with generation := c.generation + generations }

/-- The same breaker with so many more generations and refused calls behind it. -/
def aged (b : Breaker ε ν) (generations refusals : Nat) : Breaker ε ν :=
  { b with cell := b.cell.aged generations, rejected := b.rejected + refusals }

/-- What a round leads to for a breaker with a longer past. -/
def Round.aged (generations refusals : Nat) : Round ε ν → Round ε ν
  | decided b events admitted => decided (b.aged generations refusals) events admitted
  | again b events => again (b.aged generations refusals) events

section Aged
variable (b : Breaker ε ν) (generations refusals now : Nat)

@[simp] theorem aged_state : (b.aged generations refusals).state = b.state := rfl

@[simp] theorem aged_config : (b.aged generations refusals).config = b.config := rfl

@[simp] theorem aged_window : (b.aged generations refusals).cell.window = b.cell.window := rfl

@[simp] theorem aged_attempts :
    (b.aged generations refusals).cell.attempts = b.cell.attempts := rfl

@[simp] theorem aged_draws : (b.aged generations refusals).draws = b.draws := rfl

@[simp] theorem aged_probes : (b.aged generations refusals).cell.probes = b.cell.probes := rfl

@[simp] theorem aged_openUntil :
    (b.aged generations refusals).cell.openUntil = b.cell.openUntil := rfl

@[simp] theorem aged_halfOpenExpired :
    (b.aged generations refusals).halfOpenExpired now = b.halfOpenExpired now := rfl

/-! ### Transitions and admission -/

theorem Cell.enter_aged (c : Config ε ν) (state : State) (generation attempts : Nat)
    (reserveProbe : Bool) (inherited : Option Window) (draw : Float) :
    Cell.enter c now state (generation + generations) attempts reserveProbe inherited draw =
      (Cell.enter c now state generation attempts reserveProbe inherited draw).map
        (·.aged generations) := by
  cases inherited with
  | some window => rfl
  | none =>
    by_cases hs : state = .halfOpen
    · simp only [Cell.enter, if_pos hs]
      cases Window.countBased c.permittedProbes c.permittedProbes <;> rfl
    · simp only [Cell.enter, if_neg hs]
      cases Window.ofKind c.windowKind c.windowSize c.effectiveMinimum now <;> rfl

theorem move_aged (trigger : Trigger) (breach : Option Snapshot) :
    (b.aged generations refusals).move now trigger breach =
      (b.move now trigger breach).map (Prod.map (·.aged generations refusals) id) := by
  have hgeneration : (b.aged generations refusals).cell.generation + 1 =
      b.cell.generation + 1 + generations := Nat.add_right_comm ..
  cases htarget : transition b.state trigger with
  | none => simp only [move, aged_state, htarget, Option.bind_eq_bind, Option.bind_none,
      Option.map_none]
  | some target =>
    have hcell := Cell.enter_aged generations now b.config target (b.cell.generation + 1)
      (attemptsAfter b.cell.attempts target) (trigger = .openWaitElapsed)
      (if target = .opened then some b.cell.window else none) b.draws.next
    simp only [move, aged_state, htarget, Option.bind_eq_bind, Option.bind_some, aged_config,
      aged_window, aged_attempts, aged_draws, hgeneration, hcell]
    cases Cell.enter b.config now target (b.cell.generation + 1)
      (attemptsAfter b.cell.attempts target) (trigger = .openWaitElapsed)
      (if target = .opened then some b.cell.window else none) b.draws.next <;> rfl

theorem moveIf_aged (trigger : Trigger) (breach : Option Snapshot) :
    (b.aged generations refusals).moveIf now trigger breach =
      Prod.map (·.aged generations refusals) id (b.moveIf now trigger breach) := by
  simp only [moveIf, move_aged]
  cases b.move now trigger breach <;> rfl

theorem refuse_aged : (b.aged generations refusals).refuse =
    Prod.map (·.aged generations refusals) id b.refuse := by
  simp only [refuse, aged, Prod.map, id, Nat.add_right_comm]

theorem takeProbe_aged : (b.aged generations refusals).takeProbe =
    Prod.map (·.aged generations refusals) id b.takeProbe := by
  simp only [takeProbe, refuse_aged, aged_probes]
  split <;> rfl

theorem round_aged :
    (b.aged generations refusals).round now = (b.round now).aged generations refusals := by
  simp only [round, aged_state, aged_openUntil, aged_halfOpenExpired, refuse_aged, move_aged,
    takeProbe_aged]
  cases b.state with
  | closed | disabled | metricsOnly | forcedOpen => rfl
  | opened =>
    by_cases hwait : now < b.cell.openUntil
    · simp only [if_pos hwait]
      rfl
    · simp only [if_neg hwait]
      cases b.move now .openWaitElapsed <;> rfl
  | halfOpen =>
    cases b.halfOpenExpired now with
    | false => rfl
    | true => cases b.move now .halfOpenWaitElapsed <;> rfl

theorem admitWithin_aged (rounds : Nat) :
    admitWithin now rounds (b.aged generations refusals) =
      Prod.map (·.aged generations refusals) id (admitWithin now rounds b) := by
  induction rounds generalizing b with
  | zero =>
    simp only [admitWithin, refuse_aged]
    rfl
  | succ rounds ih =>
    simp only [admitWithin, round_aged]
    cases b.round now with
    | decided m events admitted => rfl
    | again m events =>
      simp only [Round.aged, ih]
      rfl

/-! ### Outcomes -/

theorem release_aged :
    (b.aged generations refusals).release = b.release.aged generations refusals := by
  simp only [release, aged_state, aged_probes, aged_config,
    apply_ite (fun m : Breaker ε ν => m.aged generations refusals)]
  rfl

theorem settle_aged :
    (b.aged generations refusals).settle now =
      Prod.map (·.aged generations refusals) id (b.settle now) := by
  have hexceeds (view : Snapshot) :
      (b.aged generations refusals).exceedsThresholds view = b.exceedsThresholds view := rfl
  simp only [settle, aged_state, aged_window, aged_config, aged_halfOpenExpired, moveIf_aged,
    hexceeds]
  cases b.state with
  | opened | forcedOpen | disabled | metricsOnly => rfl
  | closed | halfOpen =>
    simp only [apply_ite (Prod.map (fun m : Breaker ε ν => m.aged generations refusals) id)]
    rfl

theorem record_aged (elapsed : Duration) (failed : Bool) (event : Event) :
    (b.aged generations refusals).record now elapsed failed event =
      Prod.map (·.aged generations refusals) id (b.record now elapsed failed event) := by
  have hnoted (x : Measurement) :
      (b.aged generations refusals).noted now x = (b.noted now x).aged generations refusals := rfl
  have hmeasured :
      (b.aged generations refusals).measured elapsed failed = b.measured elapsed failed := rfl
  simp only [record_eq, aged_state, hmeasured, hnoted, settle_aged]
  split <;> rfl

theorem Ending.apply_aged [Fault ε] (ending : Ending ε ν) :
    ending.apply (b.aged generations refusals) now =
      Prod.map (·.aged generations refusals) id (ending.apply b now) := by
  cases ending with
  | success elapsed => exact record_aged ..
  | error elapsed e =>
    simp only [Ending.apply, onError, onSuccess, aged_config, release_aged, record_aged]
    (repeat' split) <;> rfl
  | result elapsed v =>
    simp only [Ending.apply, onResult, onSuccess, aged_config, record_aged]
    split <;> rfl
  | release =>
    simp only [Ending.apply, release_aged]
    rfl

/-- **A longer past changes nothing that a breaker does.** -/
theorem act_aged [Fault ε] (a : Act ε ν) :
    (b.aged generations refusals).act now a =
      Prod.map (·.aged generations refusals) id (b.act now a) := by
  cases a with
  | ask =>
    simp only [act, tryAcquire, admitWithin_aged]
    rfl
  | report ending =>
    simp only [act, Ending.apply_aged]
    rfl
  | force target =>
    simp only [act, force, moveIf_aged]
    rfl
  | reset =>
    simp only [act, reset, moveIf_aged]
    rfl
  | look => rfl

end Aged

/-- Breakers that differ in the length of their past write the same chronicle. -/
theorem Chronicle.run_aged [Fault ε] (b : Breaker ε ν) (generations refusals : Nat)
    (deeds : List (Deed ε ν)) (entries : List (Entry ε ν)) :
    run ⟨b.aged generations refusals, entries⟩ deeds =
      ⟨(run ⟨b, entries⟩ deeds).breaker.aged generations refusals,
        (run ⟨b, entries⟩ deeds).entries⟩ := by
  induction deeds generalizing b entries with
  | nil => rfl
  | cons d rest ih =>
    have hnext : next ⟨b.aged generations refusals, entries⟩ d =
        ⟨(next ⟨b, entries⟩ d).breaker.aged generations refusals,
          (next ⟨b, entries⟩ d).entries⟩ := by
      simp only [next, act_aged]
      rfl
    simp only [run, List.foldl_cons] at ih ⊢
    rw [hnext]
    exact ih ..

/-! ### Closing -/

/-- A valid configuration makes a breaker at any time, whatever it is to draw afterwards. -/
theorem new_at {name : String} {config : Config ε ν} {start : Nat} {draws : Draws}
    {b : Breaker ε ν} (hnew : Breaker.new name config start draws = .ok b) (now : Nat)
    (rest : Draws) :
    ∃ f, Breaker.new name config now (.cons draws.next rest) = .ok f ∧ f.draws = rest := by
  obtain ⟨hsound, _⟩ := new_eq_ok hnew
  obtain ⟨hvalid, _⟩ := ok_of_bind hnew
  have hnext : (Draws.cons draws.next rest).next = draws.next := rfl
  refine ⟨{ name, config, cell := config.freshCell now .closed 0 0 false none, draws := rest }, ?_,
    rfl⟩
  simp only [Breaker.new, hnext, hvalid, Cell.enter_eq hsound, Draws.drop_cons]
  rfl

/-- A breaker that closes is a new one with a longer past. -/
theorem moved_closed (b : Breaker ε ν) (now : Nat) {trigger : Trigger}
    (htarget : transition b.state trigger = some .closed) :
    b.moved now trigger .closed =
      ({ name := b.name
         config := b.config
         cell := b.config.freshCell now .closed 0 0 false none
         draws := b.draws } : Breaker ε ν).aged (b.cell.generation + 1) b.rejected := by
  have htrigger : trigger ≠ .openWaitElapsed := by
    rintro rfl
    revert htarget
    cases b.state <;> decide
  simp only [moved, aged, Cell.aged, Config.freshCell, decide_eq_false htrigger, Nat.zero_add]
  rfl

theorem Effect.name_eq {b m : Breaker ε ν} {now : Nat} {a : Act ε ν} {events : List Event}
    {answer : Option Bool} (h : Effect b now a m events answer) : m.name = b.name := by
  cases h with
  | asked h => cases h <;> rfl
  | returned _ _ =>
    simp only [release]
    split <;> rfl
  | reported _ _ h => cases h <;> rfl
  | moved _ _ | idle | looked => rfl

/-- Whatever takes a breaker to closed is a transition that makes its cell anew. -/
theorem Effect.closed {b m : Breaker ε ν} {now : Nat} {a : Act ε ν} {events : List Event}
    {answer : Option Bool} (h : Effect b now a m events answer) (hclosed : m.state = .closed)
    (hentered : m.cell.generation ≠ b.cell.generation) :
    ∃ (k : Breaker ε ν) (trigger : Trigger), k.name = b.name ∧ k.config = b.config ∧
      transition k.state trigger = some .closed ∧ m = k.moved now trigger .closed := by
  cases h with
  | asked h =>
    cases h with
    | passed _ | forced _ | early _ _ | probe _ _ _ | noProbe _ _ _ => exact absurd rfl hentered
    | firstProbe _ _ | expired _ _ _ | renewed _ _ _ => cases hclosed
  | returned _ _ => exact absurd b.release_generation hentered
  | @reported _ x _ _ _ _ _ h =>
    cases h with
    | ignored _ | kept _ _ _ | watched _ => exact absurd rfl hentered
    | decided trigger target _ htarget _ _ =>
      cases hclosed
      exact ⟨b.noted now x, trigger, rfl, rfl, htarget, rfl⟩
  | moved _ htarget =>
    cases hclosed
    exact ⟨b, _, rfl, rfl, htarget, rfl⟩
  | idle | looked => exact absurd rfl hentered

/-- **A breaker that closes is as good as new.** However it came there, by a reset, on request or
because its probes have passed, whatever was done to it before and whatever it has drawn: a breaker
that is made with the same configuration at the moment at which it closes, and draws the same
numbers from then on, answers and reports the same to whatever is done afterwards, and looks the
same at every point, but for the generation and the count of refused calls, which lag behind by what
they were at that moment. Such a breaker can be made. -/
theorem closed_as_new [Fault ε] {name : String} {config : Config ε ν} {start : Nat} {draws : Draws}
    {b : Breaker ε ν} (hnew : Breaker.new name config start draws = .ok b) (deeds : List (Deed ε ν))
    {s : Chronicle ε ν} (hs : (Chronicle.blank b).run deeds = s) (d : Deed ε ν)
    (hclosed : (s.next d).breaker.state = .closed)
    (hentered : (s.next d).breaker.cell.generation ≠ s.breaker.cell.generation) :
    let m := (s.next d).breaker
    (∃ drawn f, Breaker.new name config d.now drawn = .ok f ∧ f.draws = m.draws) ∧
    ∀ drawn f, Breaker.new name config d.now drawn = .ok f → f.draws = m.draws →
      ∀ later : List (Deed ε ν),
        let past := (Chronicle.blank m).run later
        let fresh := (Chronicle.blank f).run later
        past.entries = fresh.entries ∧ past.breaker.refusal = fresh.breaker.refusal ∧
          past.breaker.metrics =
            { fresh.breaker.metrics with
              generation := fresh.breaker.cell.generation + m.cell.generation
              rejected := fresh.breaker.rejected + m.rejected } ∧
          past.breaker = fresh.breaker.aged m.cell.generation m.rejected := by
  obtain ⟨hsound, hb⟩ := new_eq_ok hnew
  have hname : b.name = name := by rw [hb]
  obtain ⟨hconfig, hkept⟩ := Chronicle.run_induction (P := fun b _ => b.name = name) hnew hname
    (fun _ _ _ _ _ hname _ heffect => heffect.name_eq.trans hname) deeds hs
  have heffect := act_effect (b := s.breaker) (by rwa [hconfig]) d.now d.act
  obtain ⟨k, trigger, hkname, hkconfig, htarget, hm⟩ := heffect.closed hclosed hentered
  intro m
  have hclosing : m = k.moved d.now trigger .closed := hm
  refine ⟨⟨_, new_at hnew d.now m.draws⟩, fun drawn f hf hdraws later => ?_⟩
  have haged : m = f.aged m.cell.generation m.rejected := by
    have hkdraws : k.draws = m.draws := by
      rw [hclosing]
      rfl
    rw [(new_eq_ok hf).2] at hdraws ⊢
    replace hdraws : drawn.drop 1 = m.draws := hdraws
    rw [hdraws, ← hkdraws, hclosing, moved_closed k d.now htarget, hkname.trans hkept,
      hkconfig.trans hconfig]
    simp only [aged, Cell.aged, Config.freshCell, Nat.zero_add]
  have hrun := Chronicle.run_aged f m.cell.generation m.rejected later []
  rw [← haged] at hrun
  intro past fresh
  have hpast : past = ⟨fresh.breaker.aged m.cell.generation m.rejected, fresh.entries⟩ := hrun
  rw [hpast]
  exact ⟨rfl, rfl, rfl, rfl⟩

/-- A breaker that stays open for about ten nanoseconds. -/
def restless : Config Error Unit :=
  { strict with openWait := ⟨"restless", fun _ draw => Interval.jittered ⟨10⟩ 0.5 draw⟩ }

/-- A low number and a high one in turn. -/
def inTurn : Draws := fun n => if n % 2 = 0 then 0.25 else 0.75

def restlessBreaker : Breaker Error Unit :=
  { name := "restless", config := restless, cell := restless.freshCell 0 .closed 0 0 false none
    draws := inTurn.drop 1 }

/-- It opens for twelve nanoseconds and then for seven, refuses a call each time, and lets a second
probe through. -/
def recovering : List (Deed Error Unit) :=
  [⟨5, .report (.error ⟨5⟩ .concurrentModification)⟩, ⟨16, .ask⟩, ⟨17, .ask⟩,
    ⟨18, .report (.error ⟨1⟩ .concurrentModification)⟩, ⟨24, .ask⟩, ⟨25, .ask⟩]

/-- The probe passes; five generations and two refused calls are all that is left of the past. -/
theorem recovered_as_new :
    let s := (Chronicle.blank restlessBreaker).run recovering
    let m := (s.next ⟨27, .report (.success ⟨1⟩)⟩).breaker
    m.state = .closed ∧ m.cell.generation = 5 ∧ m.rejected = 2 ∧
      ∃ drawn f, Breaker.new "restless" restless 27 drawn = .ok f ∧ f.draws = m.draws ∧
        ∀ later : List (Deed Error Unit),
          ((Chronicle.blank m).run later).entries = ((Chronicle.blank f).run later).entries := by
  have hnew : Breaker.new "restless" restless 0 inTurn = .ok restlessBreaker := by
    have hok : (Breaker.new "restless" restless 0 inTurn).isOk = true := by decide +kernel
    cases h : Breaker.new "restless" restless 0 inTurn with
    | ok b => exact congrArg Except.ok (new_eq_ok h).2
    | error e =>
      rw [h] at hok
      cases hok
  have hclosed : (((Chronicle.blank restlessBreaker).run recovering).next
      ⟨27, .report (.success ⟨1⟩)⟩).breaker.state = .closed := by
    decide +kernel
  have hentered : (((Chronicle.blank restlessBreaker).run recovering).next
      ⟨27, .report (.success ⟨1⟩)⟩).breaker.cell.generation ≠
        ((Chronicle.blank restlessBreaker).run recovering).breaker.cell.generation := by
    decide +kernel
  obtain ⟨⟨drawn, f, hf, hdraws⟩, h⟩ :=
    closed_as_new hnew recovering rfl ⟨27, .report (.success ⟨1⟩)⟩ hclosed hentered
  exact ⟨hclosed, by decide +kernel, by decide +kernel, drawn, f, hf, hdraws,
    fun later => (h drawn f hf hdraws later).1⟩

end FaultTolerance.Breaker
