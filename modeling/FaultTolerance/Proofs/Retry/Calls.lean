import FaultTolerance.Proofs.Retry.Desk

/-! Calls that go through one retry at the same time.

Nobody's way depends on the others: each caller keeps to the story of its own script, and the retry
counts those who have come to their end. The books agree with the desk after each input
(`Desk.Balanced.next`), and hence always. Attempts that nobody comes between make up a whole call
(`Desk.Balanced.execute_eq_call`). The main theorem is **`calls_keep_to_their_story`**. -/
namespace FaultTolerance.Retry
open Stack

section Calls
variable {ε ν : Type} [Timer] [Fault ε]

/-! ### Everybody -/

/-- How a caller comes, and what it brings along. -/
def Input.comer? : Input ε ν → Option (Manner × (Nat → Run ε ν))
  | execute script => some (.blocking, script)
  | start script => some (.suspending, script)
  | time .. | attempt _ | poll _ | drop _ => none

/-- A caller is on its way, has come to its end, or was dropped on its way. -/
def Caller.IsOnWay (config : Config ε ν) (draws : Draws) (c : Caller ε ν) : Prop :=
  ∃ stage, c.Follows config draws stage ∧
    (c.doing = .dropped ∨ Fits c.script c.manner stage c.doing)

/-- The books of a retry agree with its desk. -/
structure Desk.Balanced (draws : Draws) (r : Retry ε ν) (d : Desk ε ν) : Prop where
  layers : d.world.layers = [.retry r]
  drawn : r.DrawsFrom draws
  counted : ∀ counter,
    r.metrics.get counter = d.callers.countP (·.counter? r.config = some counter)
  onWay : ∀ c ∈ d.callers, c.IsOnWay r.config draws

omit [Timer] in
/-- An attempt does not change what a caller brought along. -/
theorem attempt_comer (w : World ε ν) (c : Call ε ν) (h : Hold) :
    (Desk.attempt w c h).2.comer = c.comer := by
  unfold Desk.attempt
  split <;> rfl

omit [Timer] [Fault ε] in
theorem wentOn_comer (w : World ε ν) (c : Call ε ν) (result : World ε ν × Progress ε ν) :
    (Desk.wentOn w c result).2.comer = c.comer := rfl

theorem Lands.isOnWay {draws : Draws} {r : Retry ε ν} {bound : Nat}
    {result : World ε ν × Caller ε ν} {stage : Stage ε ν} (h : Lands draws r bound result stage) :
    result.2.IsOnWay r.config draws :=
  ⟨stage, h.follows, .inr h.fits⟩

namespace Desk.Balanced
variable {draws : Draws} {r : Retry ε ν} {d : Desk ε ν} {m : World ε ν} {c old : Caller ε ν}
  {i : Nat}

/-- Somebody comes. -/
theorem enters (h : d.Balanced draws r) (hc : c.IsOnWay r.config draws)
    (hm : ∃ count, m.layers = [.retry ((r.spent count).counted (c.counter? r.config))]) :
    ∃ k, k.config = r.config ∧
      Balanced draws k { world := m, callers := d.callers ++ [c] } := by
  obtain ⟨count, hm⟩ := hm
  refine ⟨(r.spent count).counted (c.counter? r.config), rfl, hm, h.drawn.spent count,
    fun counter => ?_, fun other hother => ?_⟩
  · rw [get_counted, spent_metrics, h.counted, countP_enter, counted_config, spent_config]
  · rcases List.mem_append.mp hother with hold | hnew
    · exact h.onWay other hold
    · rw [List.mem_singleton.mp hnew]
      exact hc

/-- Somebody goes on who had not come to its end. -/
theorem goesOn (h : d.Balanced draws r) (hold : d.callers[i]? = some old)
    (hopen : old.counter? r.config = none) (hc : c.IsOnWay r.config draws)
    (hm : ∃ count, m.layers = [.retry ((r.spent count).counted (c.counter? r.config))]) :
    ∃ k, k.config = r.config ∧
      Balanced draws k { world := m, callers := d.callers.set i c } := by
  obtain ⟨count, hm⟩ := hm
  refine ⟨(r.spent count).counted (c.counter? r.config), rfl, hm, h.drawn.spent count,
    fun counter => ?_, fun other hother => ?_⟩
  · have hcount := countP_change (fun c => decide (c.counter? r.config = some counter)) hold c
    have hold : decide (old.counter? r.config = some counter) = false := by
      rw [hopen]
      rfl
    rw [hold, Bool.toNat_false, Nat.add_zero] at hcount
    rw [get_counted, spent_metrics, h.counted, counted_config, spent_config, hcount]
  · rcases List.mem_or_eq_of_mem_set hother with hrest | rfl
    · exact h.onWay other hrest
    · exact hc

theorem next (h : d.Balanced draws r) (input : Input ε ν) :
    ∃ m, m.config = r.config ∧ Balanced draws m (d.next input) := by
  cases input with
  | time clock ticks => exact ⟨r, rfl, h.layers, h.drawn, h.counted, h.onWay⟩
  | execute script =>
    simp only [Desk.next, World.enterBlocking_single h.layers]
    exact h.enters ⟨.ready 0 0, ⟨.here, rfl⟩, .inr (.blocks 0)⟩ (layers_spent h.layers)
  | attempt i =>
    simp only [Desk.next]
    split
    case h_1 c hold hget =>
      obtain ⟨stage, hfollows, hdropped | hfits⟩ := h.onWay _ (List.mem_of_getElem? hget)
      · cases hdropped
      · obtain ⟨hmanner, n, rfl, rfl⟩ := hfits.of_blocks
        obtain ⟨next, hlands⟩ := attempt_lands h.layers hmanner h.drawn hfollows
        exact h.goesOn hget rfl hlands.isOnWay hlands.layers
    case h_2 => exact ⟨r, rfl, h⟩
  | start script =>
    simp only [Desk.next]
    obtain ⟨stage, harrives⟩ := start_arrives (c := { script, manner := .suspending }) rfl h.drawn
      h.layers rfl rfl
    have hlands := harrives.lands rfl
    exact h.enters hlands.isOnWay hlands.layers
  | poll i =>
    simp only [Desk.next]
    split
    case h_1 c s hget =>
      obtain ⟨stage, hfollows, hdropped | hfits⟩ := h.onWay _ (List.mem_of_getElem? hget)
      · cases hdropped
      · have hmanner := hfits.of_suspended
        dsimp only at hfits hmanner
        rw [hmanner] at hfits
        obtain ⟨next, harrives⟩ := poll_arrives hmanner h.drawn h.layers hfollows.way
          hfollows.runs_eq hfits (.inl (Nat.le_refl _))
        have hlands := harrives.lands hmanner
        exact h.goesOn hget rfl hlands.isOnWay hlands.layers
    case h_2 => exact ⟨r, rfl, h⟩
  | drop i =>
    simp only [Desk.next]
    split
    case h_1 c s hget =>
      obtain ⟨stage, hfollows, hdropped | hfits⟩ := h.onWay _ (List.mem_of_getElem? hget)
      · cases hdropped
      · have hsame := (Comes.refl hfollows.way hfollows.runs_eq d.world).follows
        rw [hfits.drop_eq h.layers]
        exact h.goesOn hget rfl ⟨stage, hsame, .inl rfl⟩ (layers_spent h.layers)
    case h_2 => exact ⟨r, rfl, h⟩

theorem run (h : d.Balanced draws r) (inputs : List (Input ε ν)) :
    ∃ m, m.config = r.config ∧ Balanced draws m (inputs.foldl Desk.next d) := by
  induction inputs generalizing r d with
  | nil => exact ⟨r, rfl, h⟩
  | cons input rest ih =>
    obtain ⟨m, hconfig, hnext⟩ := h.next input
    obtain ⟨last, hlast, hrun⟩ := ih hnext
    exact ⟨last, hlast.trans hconfig, hrun⟩

theorem next_attempt {c : Call ε ν} {h : Hold}
    (hget : d.callers[i]? = some { toCall := c, doing := .blocks h }) :
    (d.next (.attempt i)).callers[i]? = some (attempt d.world c h).2 := by
  obtain ⟨hlt, -⟩ := List.getElem?_eq_some_iff.mp hget
  simp only [Desk.next, hget]
  exact List.getElem?_set_self hlt

theorem next_poll {c : Call ε ν} {s : Suspended ε ν}
    (hget : d.callers[i]? = some { toCall := c, doing := .suspended s }) :
    (d.next (.poll i)).callers[i]? =
      some (wentOn d.world c (World.poll (c.operation d.world) [0] s d.world)).2 := by
  obtain ⟨hlt, -⟩ := List.getElem?_eq_some_iff.mp hget
  simp only [Desk.next, hget]
  exact List.getElem?_set_self hlt

/-- A call that is polled when its wait is over makes its next attempt. -/
theorem punctual (h : d.Balanced draws r) (hpos : 0 < r.config.maxAttempts)
    (hget : d.callers[i]? = some c) {n due : Nat}
    (hwaits : c.doing = .suspended (.waiting (.backoff n due))) (hover : due ≤ d.world.timer) :
    ∃ next, (d.next (.poll i)).callers[i]? = some next ∧ c.runs < next.runs := by
  obtain ⟨stage, hfollows, hdoing⟩ := h.onWay c (List.mem_of_getElem? hget)
  rw [hwaits] at hdoing
  obtain ⟨hmanner, k, rfl, rfl⟩ := (hdoing.resolve_left nofun).of_waits
  obtain ⟨hleft, hopen⟩ := hfollows.way.opens hpos
  obtain ⟨next, harrives⟩ :=
    poll_over hmanner h.drawn h.layers (.refl hfollows.way hfollows.runs_eq d.world) hover
  have hlands := harrives.lands hmanner
  obtain ⟨c, doing⟩ := c
  cases hwaits
  have hless : next.left r.config.maxAttempts < 2 * (r.config.maxAttempts - (k + 1)) := by
    refine Nat.lt_of_le_of_lt hlands.left_le ?_
    simp only [Stage.earlier] at hleft
    omega
  refine ⟨_, next_poll hget, ?_⟩
  rw [hfollows.runs_eq]
  exact hlands.follows.lt_runs hpos hleft hopen hless

/-- A call that is left to itself gets ahead until it has ended. -/
theorem progress (h : d.Balanced draws r) (hpos : 0 < r.config.maxAttempts)
    (hget : d.callers[i]? = some c) {stage : Stage ε ν} (hfollows : c.Follows r.config draws stage)
    (hfits : Fits c.script c.manner stage c.doing)
    (hback : c.manner = .suspending → ∀ n, (c.script n).stalls = false) :
    (∃ e, c.doing = .ended e) ∨
      ∃ inputs : List (Input ε ν), (∀ input ∈ inputs, input.isFor i) ∧
        ∃ next stage', (inputs.foldl Desk.next d).callers[i]? = some next ∧
          next.comer = c.comer ∧ next.Follows r.config draws stage' ∧
          Fits next.script next.manner stage' next.doing ∧
          stage'.left r.config.maxAttempts < stage.left r.config.maxAttempts := by
  obtain ⟨hleft, -⟩ := hfollows.way.opens hpos
  obtain ⟨c, doing⟩ := c
  cases doing with
  | ended e => exact .inl ⟨e, rfl⟩
  | dropped => exact absurd hfits Fits.not_dropped
  | blocks hold =>
    obtain ⟨hmanner, n, rfl, rfl⟩ := hfits.of_blocks
    obtain ⟨stage', hlands⟩ := attempt_lands h.layers hmanner h.drawn hfollows
    refine .inr ⟨[.attempt i], ?_, _, stage', ?_, attempt_comer _ c _, hlands.follows,
      hlands.fits, ?_⟩
    · simp only [List.mem_singleton, forall_eq]
      rfl
    · exact next_attempt hget
    · refine Nat.lt_of_le_of_lt hlands.left_le ?_
      simp only [Stage.left, Stage.earlier] at hleft ⊢
      omega
  | suspended s =>
    have hmanner := hfits.of_suspended
    replace hback := hback hmanner
    obtain ⟨due, hdue⟩ := hfits.due_eq hback
    have hlayers : (d.world.setTimer (d.world.timer + due)).layers = [.retry r] := h.layers
    obtain ⟨stage', harrives⟩ := poll_arrives hmanner h.drawn hlayers hfollows.way hfollows.runs_eq
      (hmanner ▸ hfits) (.inr ⟨⟨due, hdue, Nat.le_add_left _ _⟩, hback, Nat.le_refl _⟩)
    have hlands := harrives.lands hmanner
    refine .inr ⟨[.time d.world.clock due, .poll i], ?_, _, stage', ?_, wentOn_comer _ c _,
      hlands.follows, hlands.fits, ?_⟩
    · simp only [List.forall_mem_cons]
      exact ⟨trivial, rfl, List.forall_mem_nil _⟩
    · exact next_poll (d := { d with world := d.world.setTimer _ }) hget
    · exact Nat.lt_of_le_of_lt hlands.left_le (Nat.sub_one_lt_of_lt (hfits.left_pos hleft))

/-- A call that is left to itself ends. -/
theorem finishes (h : d.Balanced draws r) (hpos : 0 < r.config.maxAttempts)
    (hget : d.callers[i]? = some c) {stage : Stage ε ν} (hfollows : c.Follows r.config draws stage)
    (hfits : Fits c.script c.manner stage c.doing)
    (hback : c.manner = .suspending → ∀ n, (c.script n).stalls = false) :
    ∃ inputs : List (Input ε ν), (∀ input ∈ inputs, input.isFor i) ∧
      ∃ last e, (inputs.foldl Desk.next d).callers[i]? = some last ∧ last.doing = .ended e := by
  generalize hleft : stage.left r.config.maxAttempts = left
  induction left using Nat.strongRecOn generalizing r d c stage with
  | ind left ih =>
    rcases h.progress hpos hget hfollows hfits hback with
      ⟨e, hended⟩ | ⟨inputs, hown, next, stage', hnext, hcomer, hfollows', hfits', hless⟩
    · exact ⟨[], nofun, c, e, hget, hended⟩
    · obtain ⟨m, hconfig, hm⟩ := h.run inputs
      rw [← hconfig] at hfollows' hless hpos
      have hback' : next.manner = .suspending → ∀ n, (next.script n).stalls = false := by
        obtain ⟨hmanner, hscript⟩ : next.manner = c.manner ∧ next.script = c.script :=
          Prod.mk.inj hcomer
        rw [hmanner, hscript]
        exact hback
      obtain ⟨rest, hrest, last, e, hlast, hended⟩ :=
        ih _ (hleft ▸ hconfig ▸ hless) hm hpos hnext hfollows' hfits' hback' rfl
      refine ⟨inputs ++ rest, ?_, last, e, ?_, hended⟩
      · exact fun input hinput => (List.mem_append.mp hinput).elim (hown input) (hrest input)
      · rwa [List.foldl_append]

end Desk.Balanced

/-! ### A call that nobody interrupts -/

/-- Who has ended makes no further attempts. -/
theorem Desk.attempts_ended {d : Desk ε ν} {c : Caller ε ν} {i : Nat} {e : Ending ε ν}
    (hget : d.callers[i]? = some c) (hended : c.doing = .ended e) (k : Nat) :
    (List.replicate k (.attempt i)).foldl Desk.next d = d := by
  obtain ⟨c, doing⟩ := c
  cases hended
  induction k with
  | zero => rfl
  | succ k ih =>
    have hsame : d.next (.attempt i) = d := by simp only [next, hget]
    rw [List.replicate_succ, List.foldl_cons, hsame, ih]

namespace Desk.Balanced
variable {draws : Draws} {r : Retry ε ν} {d : Desk ε ν} {i : Nat}

/-- The attempts of a caller one after the other are a call that blocks. -/
theorem attempts_eq_around (h : d.Balanced draws r) (hpos : 0 < r.config.maxAttempts) {c : Call ε ν}
    {n : Nat} (hget : d.callers[i]? = some { toCall := c, doing := .blocks (.attempts n) })
    (hmanner : c.manner = .blocking) (hfollows : c.Follows r.config draws (.ready n 0))
    {operation : Nat → Run ε ν} (hop : ∀ k, operation (d.world.runs + k) = c.script (n + k))
    {fuel : Nat} (hfuel : r.config.maxAttempts ≤ n + fuel) :
    let after := (List.replicate fuel (.attempt i)).foldl Desk.next d
    ∃ last e, after.callers[i]? = some last ∧ last.doing = .ended e ∧
      World.around 0 (World.call operation []) fuel (.attempts n) d.world = (after.world, e) := by
  induction fuel generalizing r d c n with
  | zero =>
    obtain ⟨hleft, -⟩ := hfollows.way.opens hpos
    simp only [Stage.earlier] at hleft
    omega
  | succ fuel ih =>
    have hrun : operation d.world.runs = c.script c.runs := by
      rw [hfollows.runs_eq]
      exact hop 0
    obtain ⟨hlt, -⟩ := List.getElem?_eq_some_iff.mp hget
    obtain ⟨stage, hlands⟩ := attempt_lands h.layers hmanner h.drawn hfollows
    have hruns := d.world.turn_runs (c.script c.runs) (.attempts n)
    rw [List.replicate_succ, List.foldl_cons, World.around_turn, hrun]
    rcases hturn : d.world.turn (c.script c.runs) (.attempts n) with ⟨m, e | ⟨k, wait⟩⟩
    · have hstep : d.next (.attempt i) =
          ⟨m, d.callers.set i { toCall := c.after d.world m, doing := .ended e }⟩ := by
        simp only [Desk.next, hget, attempt, hturn]
      have hended := List.getElem?_set_self (l := d.callers) hlt
        (a := { toCall := c.after d.world m, doing := .ended e })
      rw [hstep, attempts_ended hended rfl]
      exact ⟨_, e, hended, rfl, rfl⟩
    · have hattempt : attempt d.world c (.attempts n) =
          (m, { toCall := c.after d.world m [.slept wait], doing := .blocks (.attempts k) }) := by
        simp only [attempt, hturn]
      have hstep : d.next (.attempt i) = ⟨m, d.callers.set i
          { toCall := c.after d.world m [.slept wait], doing := .blocks (.attempts k) }⟩ := by
        simp only [Desk.next, hget, hattempt]
      rw [hattempt] at hlands
      rw [hturn] at hruns
      dsimp only at hruns
      obtain ⟨after, hconfig, hnext⟩ := h.goesOn hget rfl hlands.isOnWay hlands.layers
      obtain ⟨-, k', rfl, hk⟩ := hlands.fits.of_blocks
      cases hk
      have hsame : k = n + 1 := by
        have hcount := hlands.follows.runs_eq
        simp only [Call.after, hruns, hfollows.runs_eq, Stage.runs] at hcount
        omega
      subst hsame
      have hop' (j : Nat) : operation (m.runs + j) = c.script (n + 1 + j) := by
        have hj := hop (1 + j)
        rwa [← Nat.add_assoc, ← Nat.add_assoc, ← hruns] at hj
      have hfuel' : r.config.maxAttempts ≤ n + 1 + fuel := by omega
      have hfollows' := hlands.follows
      rw [← hconfig] at hpos hfuel' hfollows'
      rw [hstep]
      exact ih hnext hpos (List.getElem?_set_self hlt) hmanner hfollows' hop' hfuel'

/-- **A call that blocks and that nobody interrupts is a call through the retry**, from the world as
it is to the same world and the same end. -/
theorem execute_eq_call (h : d.Balanced draws r) (hpos : 0 < r.config.maxAttempts)
    (script : Nat → Run ε ν) :
    let i := d.callers.length
    let after := (.execute script :: List.replicate r.config.maxAttempts (.attempt i)).foldl
      Desk.next d
    ∃ last e, after.callers[i]? = some last ∧ last.doing = .ended e ∧
      World.call (fun run => script (run - d.world.runs)) [0] d.world = (after.world, e) := by
  have hcomes : d.next (.execute script) = ⟨d.world, d.callers ++
      [{ toCall := { script, manner := .blocking }, doing := .blocks (.attempts 0) }]⟩ := by
    simp only [Desk.next, World.enterBlocking_single h.layers]
  obtain ⟨m, hconfig, hnext⟩ := h.next (.execute script)
  rw [hcomes] at hnext
  intro i
  rw [List.foldl_cons, hcomes, World.call, World.enterBlocking_single h.layers]
  dsimp only
  rw [World.patience_single h.layers, ← hconfig]
  have hfresh : Call.Follows m.config draws { script, manner := .blocking } (.ready 0 0) :=
    ⟨.here, rfl⟩
  refine hnext.attempts_eq_around (hconfig ▸ hpos) List.getElem?_concat_length rfl hfresh
    (fun k => ?_) (Nat.le_add_left _ _)
  dsimp only
  rw [Nat.add_sub_cancel_left, Nat.zero_add]

end Desk.Balanced

/-! ### What comes of everybody -/

omit [Timer] [Fault ε] in
theorem map_comer_set {callers : List (Caller ε ν)} {i : Nat} {old c : Caller ε ν}
    (hget : callers[i]? = some old) (hsame : c.comer = old.comer) :
    (callers.set i c).map (·.comer) = callers.map (·.comer) := by
  obtain ⟨hlt, rfl⟩ := List.getElem?_eq_some_iff.mp hget
  have hlen : i < (callers.map (·.comer)).length := by rwa [List.length_map]
  have hread : (callers.map (·.comer))[i] = callers[i].comer := List.getElem_map _
  rw [List.map_set, hsame, ← hread, List.set_getElem_self]

theorem Desk.next_comers (d : Desk ε ν) (input : Input ε ν) :
    (d.next input).callers.map (·.comer) = d.callers.map (·.comer) ++ input.comer?.toList := by
  have hsame : d.callers.map (·.comer) = d.callers.map (·.comer) ++ [] := (List.append_nil _).symm
  cases input with
  | time clock ticks => exact hsame
  | execute script =>
    simp only [next]
    split <;> exact List.map_append
  | attempt i =>
    simp only [next]
    split
    case h_1 c hold hget => exact (map_comer_set hget (attempt_comer _ c _)).trans hsame
    case h_2 => exact hsame
  | start script => exact List.map_append
  | poll i | drop i =>
    simp only [next]
    split
    case h_1 c s hget =>
      refine (map_comer_set hget ?_).trans hsame
      rfl
    case h_2 => exact hsame

/-- Everybody who comes is a caller, and stays the same. -/
theorem Desk.run_comers (d : Desk ε ν) (inputs : List (Input ε ν)) :
    (inputs.foldl Desk.next d).callers.map (·.comer) =
      d.callers.map (·.comer) ++ inputs.filterMap Input.comer? := by
  induction inputs generalizing d with
  | nil => exact (List.append_nil _).symm
  | cons input rest ih =>
    rw [List.foldl_cons, ih, next_comers, List.append_assoc]
    cases hcomer : input.comer? <;> simp [hcomer]

def Caller.sights (c : Caller ε ν) : List Sight := c.log.map Prod.snd

/-- What is known of a caller from its script, and from what is drawn for its waits. -/
structure Caller.Keeps (config : Config ε ν) (drawn : Draws) (c : Caller ε ν) : Prop where
  /-- Nothing is seen of it but its story, as far as it has come. -/
  sights : c.sights <+: config.story c.manner drawn c.endings
  runs : c.runs = c.sights.count .ran
  spaced : c.log.IsChain Spaced
  /-- A suspended call waits from its last report on, for as long as that says. -/
  waits : ∀ n due, c.doing = .suspended (.waiting (.backoff n due)) → ∃ timer text,
    c.log.getLast? = some (timer, .told (.retry n (config.interval.wait n (drawn n)) text)) ∧
      due = Timer.wakeAt timer (config.interval.wait n (drawn n))
  /-- When it has ended, its story has been told, and it hands on what its last run came to. -/
  ended : ∀ e, c.doing = .ended e →
    c.sights = config.story c.manner drawn c.endings ∧ c.runs = config.attempts c.endings ∧
      e = c.endings (config.attempts c.endings - 1)
  /-- Each of its attempts but the last one was followed by a report, with the wait after it. -/
  retries : ∀ e, c.doing = .ended e → c.sights.filterMap Sight.retry? =
    (List.range (config.attempts c.endings - 1)).map fun j =>
      (j + 1, config.interval.wait (j + 1) (drawn (j + 1)))
  /-- It is counted in one place then, unless its last error is ignored or it has panicked. -/
  counted : ∀ e, c.doing = .ended e → (c.counter? config = none ↔
    e = .panicked ∨ ∃ error, e = .failed error ∧ config.isIgnored error = true)

theorem Caller.IsOnWay.keeps {config : Config ε ν} {draws : Draws} {c : Caller ε ν}
    (h : c.IsOnWay config draws) (hpos : 0 < config.maxAttempts) :
    ∃ pick : Nat → Nat, c.Keeps config fun n => draws (pick n) := by
  obtain ⟨stage, ⟨⟨pick, hpath⟩, hruns⟩, hdoing⟩ := h
  refine ⟨pick, hpath.prefix_story hpos, ?_, hpath.spaced.1, fun n due hwaits => ?_, fun e he => ?_,
    fun e he => ?_, fun e he => ?_⟩
  · exact hruns.trans hpath.count_ran.symm
  · rw [hwaits] at hdoing
    obtain ⟨hmanner, k, rfl, rfl⟩ := (hdoing.resolve_left nofun).of_waits
    rw [hmanner] at hpath
    exact hpath.told_last
  · rw [he] at hdoing
    obtain ⟨n, rfl⟩ := (hdoing.resolve_left nofun).of_ended
    obtain ⟨hlast, hending⟩ := hpath.ended_eq hpos
    rw [← hlast]
    exact ⟨hpath.story_eq hpos, hruns, hending⟩
  · rw [he] at hdoing
    obtain ⟨n, rfl⟩ := (hdoing.resolve_left nofun).of_ended
    obtain ⟨hlast, -⟩ := hpath.ended_eq hpos
    rw [← hlast]
    exact hpath.retries
  · simp only [counter?, he]
    cases e with
    | returned v | failed error =>
      simp [Ending.outcome?, Config.counter?_eq_none_iff]
    | panicked => simp [Ending.outcome?]

omit [Timer] [Fault ε] in
theorem new_eq {name : String} {config : Config ε ν} {draws : Draws} {r : Retry ε ν}
    (hnew : Retry.new name config draws = .ok r) :
    r = { name, config, draws } ∧ 0 < config.maxAttempts := by
  cases hvalid : config.validate with
  | error e =>
    simp only [new, hvalid] at hnew
    cases hnew
  | ok u =>
    simp only [new, hvalid] at hnew
    cases hnew
    have hnonzero : (config.maxAttempts != 0) = true := of_require hvalid
    exact ⟨rfl, Nat.pos_of_ne_zero (bne_iff_ne.mp hnonzero)⟩

/-- **Each call through a retry keeps to the story of its own operation, whatever others do.** Those
who come are the callers. What is seen of a caller, its attempts, reports and sleeps, is a beginning
of what its script alone says, and all of it when it has ended; it then hands on what its last
attempt came to. Each wait is the interval's at a draw of the retry, whichever it is. A suspended
call makes no attempt before its wait is over, and makes it when it is polled from then on. Each
counter has counted the callers that have ended so, and no others. A caller that is not dropped, and
whose runs come back, needs nobody else to end. -/
theorem calls_keep_to_their_story {name : String} {config : Config ε ν} {draws : Draws}
    {r : Retry ε ν} (hnew : Retry.new name config draws = .ok r) (w : World ε ν)
    (inputs : List (Input ε ν)) :
    let d := inputs.foldl Desk.next { world := { w with layers := [.retry r] } }
    d.callers.map (·.comer) = inputs.filterMap Input.comer? ∧
    (∀ c ∈ d.callers, ∃ pick : Nat → Nat, c.Keeps config fun n => draws (pick n)) ∧
    (∃ m : Retry ε ν, d.world.layers = [.retry m] ∧ ∀ counter,
      m.metrics.get counter = d.callers.countP (·.counter? config = some counter)) ∧
    (∀ i c n due, d.callers[i]? = some c → c.doing = .suspended (.waiting (.backoff n due)) →
      due ≤ d.world.timer →
        ∃ next, (d.next (.poll i)).callers[i]? = some next ∧ c.runs < next.runs) ∧
    ∀ i c, d.callers[i]? = some c → c.doing ≠ .dropped →
      (c.manner = .suspending → ∀ n, (c.script n).stalls = false) →
      ∃ rest : List (Input ε ν), (∀ input ∈ rest, input.isFor i) ∧
        ∃ last e, (rest.foldl Desk.next d).callers[i]? = some last ∧ last.doing = .ended e := by
  obtain ⟨rfl, hpos⟩ := new_eq hnew
  intro d
  have hempty : Desk.Balanced draws { name, config, draws }
      { world := { w with layers := [.retry { name, config, draws }] } } := by
    refine ⟨rfl, ⟨0, draws.drop_zero.symm⟩, fun counter => ?_, nofun⟩
    cases counter <;> rfl
  obtain ⟨m, hconfig, hd⟩ := hempty.run inputs
  replace hconfig : m.config = config := hconfig
  refine ⟨?_, fun c hc => ?_, ⟨m, hd.layers, fun counter => ?_⟩,
    fun i c n due hget hwaits hover => hd.punctual (hconfig ▸ hpos) hget hwaits hover,
    fun i c hget hkept hback => ?_⟩
  · exact (Desk.run_comers _ inputs).trans (List.nil_append _)
  · exact (hconfig ▸ hd.onWay c hc).keeps hpos
  · rw [hd.counted, hconfig]
  · obtain ⟨stage, hfollows, hdoing⟩ := hd.onWay c (List.mem_of_getElem? hget)
    exact hd.finishes (hconfig ▸ hpos) hget hfollows (hdoing.resolve_left hkept) hback

end Calls

/-- Three attempts, one millisecond apart at first and two then. -/
def patient : Config Error Nat := { interval := .custom "steps" .ofMillis }

/-- A caller that blocks its thread fails once and succeeds then; in between another one comes and
fails three times, and a third one is dropped while it waits. -/
def visits : List (Input Error Nat) :=
  [.execute fun n => if n = 0 then { ending := .failed .concurrentModification }
      else { ending := .returned 7 },
    .attempt 0,
    .start fun _ => { ending := .failed .concurrentModification },
    .start fun _ => { sleep := some (.ofMillis 1), ending := .returned 8 },
    .time {} 1000000, .poll 1, .drop 2, .attempt 0, .time {} 2000000, .poll 1]

theorem visits_counted :
    ∃ m : Retry Error Nat,
      (visits.foldl Desk.next
        { world := { layers := [.retry ⟨"steps", patient, {}, .middle⟩] } }).world.layers =
          [.retry m] ∧
      [Counter.succeededWithoutRetry, .succeededWithRetry, .failedWithoutRetry,
        .failedWithRetry].map m.metrics.get = [0, 1, 0, 1] := by
  have hnew : Retry.new "steps" patient = .ok ⟨"steps", patient, {}, .middle⟩ := rfl
  obtain ⟨-, -, ⟨m, hlayers, hcounts⟩, -⟩ := calls_keep_to_their_story hnew { layers := [] } visits
  refine ⟨m, hlayers, ?_⟩
  simp only [List.map_cons, List.map_nil, hcounts]
  decide +kernel

end FaultTolerance.Retry
