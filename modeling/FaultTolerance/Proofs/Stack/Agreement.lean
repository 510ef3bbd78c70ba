import FaultTolerance.Proofs.Breaker.Moves
import FaultTolerance.Proofs.Bulkhead.Resizing
import FaultTolerance.Proofs.Stack.Journey

/-! Blocking and suspended calls agree.

The two doors of a layer agree (`Layer.comesThrough`), and what a layer answers depends on the
clock, not on the timer that suspended calls sleep on. So where nobody is kept waiting for a permit
a suspended call is answered as one that blocks its thread, at once or when the time has come that
it was named (`Ready.enter_opens`), and a call that is polled at each of its deadlines (`Ends`) does
the same to every instance, in the same order, as a call that blocks. Only the timer differs
(`start_ends`).

The main theorem is **`blocking_agrees_with_awaiting`**. -/
namespace FaultTolerance

namespace Bulkhead
variable [Timer] {b : Bulkhead}

theorem deadlineAt_prompt (hprompt : b.config.maxWait = .zero) (timer : Nat) :
    b.deadlineAt timer = some timer := by
  simp [deadlineAt, hprompt, Duration.zero]

/-- Who does not want to wait need not know what time it is. -/
theorem acquire_prompt (hprompt : b.config.maxWait = .zero) (timer later : Nat) :
    b.acquire later = b.acquire timer := by
  simp only [acquire]
  split
  case h_1 => rfl
  case h_2 => simp only [deadlineAt_prompt hprompt, Option.isSome_some]

theorem start_prompt (hprompt : b.config.maxWait = .zero) {timer : Nat} {w : Waiter}
    (hwaits : (b.start timer).2.2 = .inr w) : w = ⟨some timer⟩ := by
  cases htake : b.take? with
  | some next =>
    rw [start_of_free htake] at hwaits
    cases hwaits
  | none =>
    rw [start_of_full htake, deadlineAt_prompt hprompt] at hwaits
    split at hwaits <;> cases hwaits
    rfl

end Bulkhead

namespace Stack
variable {ε ν : Type}

namespace Layer
variable [Timer]

omit [Timer] in
/-- Whether nobody waits for a permit of the layer. -/
def Prompt : Layer ε ν → Prop
  | bulkhead b => b.config.maxWait = .zero
  | adaptive a => a.config.maxWait = .zero ∧ a.bulkhead.config.maxWait = .zero
  | _ => True

/-- Only the clock says how a call that blocks its thread is answered. -/
theorem Prompt.enterBlocking_eq {layer : Layer ε ν} (h : layer.Prompt) (now timer later : Nat) :
    layer.enterBlocking now later = layer.enterBlocking now timer := by
  cases layer with
  | bulkhead b => simp only [enterBlocking, Bulkhead.acquire_prompt h timer later]
  | adaptive a =>
    have hsame : a.acquire later = a.acquire timer := by
      simp only [Adaptive.acquire, Bulkhead.acquire_prompt h.2 timer later]
    simp only [enterBlocking, hsame]
  | breaker _ | limiter _ | retry _ => rfl

/-- Whoever waits at the door is let go on by the timer. -/
theorem Prompt.due_eq {layer k : Layer ε ν} {now timer : Nat} {reports : List Report} {wait : Wait}
    (h : layer.Prompt) (henter : layer.enter now timer = (k, reports, .waiting wait)) :
    ∃ due, wait.due = some due := by
  have hentry := congrArg (·.2.2) henter
  cases layer with
  | breaker b =>
    simp only [enter] at hentry
    split at hentry <;> cases hentry
  | limiter l =>
    obtain ⟨p, -, rfl⟩ := ofReservation_waiting hentry
    exact ⟨p.due, rfl⟩
  | bulkhead b =>
    obtain ⟨w, hwaits, rfl⟩ := ofPermit_waiting hentry
    obtain rfl := Bulkhead.start_prompt h hwaits
    exact ⟨_, rfl⟩
  | adaptive a =>
    obtain ⟨w, hwaits, rfl⟩ := ofPermit_waiting hentry
    obtain rfl := Bulkhead.start_prompt h.2 hwaits
    exact ⟨_, rfl⟩
  | retry r => cases hentry

/-! ### Layers stay prompt -/

section Prompt
variable [Fault ε] (now timer : Nat) {d : Deal ε ν} (hd : d.isOfCall)
include hd

theorem prompt_deal_bulkhead {b : Bulkhead} (h : b.config.maxWait = .zero) :
    ((bulkhead b : Layer ε ν).deal now timer d).1.Prompt := by
  have hkept {m : Bulkhead} (hconfig : m.config = b.config) :
      (bulkhead m : Layer ε ν).Prompt := by
    show m.config.maxWait = .zero
    rw [hconfig, h]
  cases d with
  | enter => exact hkept (Bulkhead.Waiter.poll_answered ⟨b.deadlineAt timer⟩ b timer).config_eq
  | resume timer wait =>
    cases wait with
    | permit w => exact hkept (w.poll_answered b timer).config_eq
    | reservation _ | backoff _ _ => exact h
  | cancel _ => exact h
  | leave _ _ | abandon _ => exact hkept b.release_config
  | act _ => cases hd

theorem prompt_deal_adaptive {a : Adaptive ε} (h : (adaptive a : Layer ε ν).Prompt) :
    ((adaptive a : Layer ε ν).deal now timer d).1.Prompt := by
  obtain ⟨hlong, hnow⟩ := h
  have hkept {b : Bulkhead} (hconfig : b.config = a.bulkhead.config) :
      (adaptive { a with bulkhead := b } : Layer ε ν).Prompt := by
    refine ⟨hlong, ?_⟩
    show b.config.maxWait = .zero
    rw [hconfig, hnow]
  cases d with
  | enter =>
    exact hkept
      (Bulkhead.Waiter.poll_answered ⟨a.bulkhead.deadlineAt timer⟩ a.bulkhead timer).config_eq
  | resume timer wait =>
    cases wait with
    | permit w => exact hkept (w.poll_answered a.bulkhead timer).config_eq
    | reservation _ | backoff _ _ => exact ⟨hlong, hnow⟩
  | cancel _ => exact ⟨hlong, hnow⟩
  | leave hold outcome =>
    cases hold with
    | inFlight start =>
      have hconfig := a.onOutcome_config now (since start now) outcome
      have hwait := (a.onOutcome_resized now (since start now) outcome).maxWait_eq
      rw [Bulkhead.release_config, hnow, hlong, or_self] at hwait
      exact ⟨(congrArg (·.maxWait) hconfig).trans hlong, hwait⟩
    | nothing | admission _ | permit | attempts _ => exact ⟨hlong, hnow⟩
  | abandon _ => exact hkept a.bulkhead.release_config
  | act _ => cases hd

/-- **No call makes a layer keep anybody waiting for a permit.** -/
theorem prompt_deal {layer : Layer ε ν} (h : layer.Prompt) :
    (layer.deal now timer d).1.Prompt := by
  have hkind := layer.kind_deal now timer d
  cases layer with
  | bulkhead b => exact prompt_deal_bulkhead now timer hd h
  | adaptive a => exact prompt_deal_adaptive now timer hd h
  | breaker _ | limiter _ | retry _ =>
    generalize (deal now timer d _).1 = next at hkind
    cases next with
    | bulkhead _ | adaptive _ => cases hkind
    | breaker _ | limiter _ | retry _ => exact trivial

end Prompt

end Layer

namespace World

/-! ### The timer of a world -/

section SetTimer
variable (w : World ε ν) (i timer : Nat) (h : Hold)

@[simp] theorem setTimer_self : w.setTimer w.timer = w := rfl

@[simp] theorem setTimer_setTimer (later : Nat) :
    (w.setTimer timer).setTimer later = w.setTimer later := rfl

theorem abandon_setTimer : (w.setTimer timer).abandon i h = (w.abandon i h).setTimer timer := by
  simp only [abandon, setTimer_layers]
  cases w.layers[i]? <;> rfl

theorem leave_setTimer [Fault ε] (outcome : Except ε ν) :
    (w.setTimer timer).leave i h outcome =
      ((w.leave i h outcome).1.setTimer timer, (w.leave i h outcome).2) := by
  simp only [leave, setTimer_layers]
  cases w.layers[i]? <;> rfl

/-- A layer that reports twice may as well report once. -/
theorem put_put (first layer : Layer ε ν) (reports rest : List Report) :
    ((w.put i first reports).setTimer timer).put i layer rest =
      (w.put i layer (reports ++ rest)).setTimer timer := by
  simp only [put, setTimer, List.set_set, List.map_append, List.append_assoc]

end SetTimer

/-! ### Worlds in which both kinds of call agree -/

/-- The clock is moved by hand, nobody waits for a permit, and retries allow as many attempts as in
the world at the beginning. -/
structure Ready (start w : World ε ν) : Prop where
  manual : w.live = false
  prompt : w.All fun _ layer => layer.Prompt
  patience : ∀ i, w.patience i = start.patience i

variable [Timer] [Fault ε] {start w m : World ε ν}

theorem Ready.leads (h : Ready start w) (hlead : Leads w m) : Ready start m where
  manual := hlead.live_eq.trans h.manual
  prompt := hlead.all (fun now timer _ _ _ hd => Layer.prompt_deal now timer hd) h.prompt
  patience i := (hlead.patience_eq i).trans (h.patience i)

omit [Timer] [Fault ε] in
theorem Ready.setTimer (h : Ready start w) (timer : Nat) : Ready start (w.setTimer timer) :=
  ⟨h.manual, h.prompt, h.patience⟩

omit [Timer] [Fault ε] in
theorem Ready.pass_eq (h : Ready start w) (d : Duration) : w.pass d = w := by
  simp only [pass, h.manual, Bool.false_eq_true, false_and, if_false]

omit [Fault ε] in
theorem Ready.enterBlocking_of_getElem? {i : Nat} {layer : Layer ε ν} (h : Ready start w)
    (hi : w.layers[i]? = some layer) :
    w.enterBlocking i =
      (w.put i (layer.enterBlocking w.now w.timer).1 (layer.enterBlocking w.now w.timer).2.1,
        (layer.enterBlocking w.now w.timer).2.2.1) := by
  have hput (layer : Layer ε ν) (reports : List Report) (d : Duration) :
      (w.put i layer reports).pass d = w.put i layer reports := by
    simp only [pass, put, h.manual, Bool.false_eq_true, false_and, if_false]
  simp only [enterBlocking, hi, hput]

omit [Fault ε] in
/-- Nor does a call that blocks look at the timer of suspended calls. -/
theorem Ready.enterBlocking_setTimer (h : Ready start w) (i timer : Nat) :
    (w.setTimer timer).enterBlocking i =
      ((w.enterBlocking i).1.setTimer timer, (w.enterBlocking i).2) := by
  cases hi : w.layers[i]? with
  | none => simp only [enterBlocking, setTimer_layers, hi]
  | some layer =>
    rw [h.enterBlocking_of_getElem? hi, (h.setTimer timer).enterBlocking_of_getElem? hi]
    have hsame := (h.prompt i layer hi).enterBlocking_eq w.now w.timer timer
    rw [show layer.enterBlocking (w.setTimer timer).now (w.setTimer timer).timer = _ from hsame]
    rfl

/-! #### Doors -/

/-- What the layer at a position does with a suspended call at its door: it gives the answer that a
call gets that blocks its thread, at once, or names a time and gives it then. -/
inductive Opens (w : World ε ν) (i : Nat) : World ε ν × Entry → Prop
  | atOnce : Opens w i ((w.enterBlocking i).1, .ofAnswer (w.enterBlocking i).2)
  | later {m : World ε ν} {wait : Wait} {due : Nat} (hdue : wait.due = some due)
    (hanswer : ∀ timer, due ≤ timer → ∀ k, (m.setTimer k).resumeAt i timer wait =
      ((w.enterBlocking i).1.setTimer k, .ofAnswer (w.enterBlocking i).2)) :
    Opens w i (m, .waiting wait)

omit [Fault ε] in
/-- **A layer that keeps nobody waiting for a permit gives one answer**, whatever the timer. -/
theorem Ready.enter_opens (h : Ready start w) (i : Nat) : Opens w i (w.enter i) := by
  have hopens : Opens w i _ := .atOnce
  cases hi : w.layers[i]? with
  | none =>
    simp only [enterBlocking, hi] at hopens
    simp only [enter, hi]
    exact hopens
  | some layer =>
    obtain ⟨hlt, -⟩ := List.getElem?_eq_some_iff.mp hi
    have hblocking := h.enterBlocking_of_getElem? hi
    have hthrough := layer.comesThrough w.now w.timer
    rw [enter_of_getElem? hi]
    generalize layer.enterBlocking w.now w.timer = blocked at hblocking hthrough
    cases hthrough with
    | atOnce henter =>
      rw [hblocking] at hopens
      rw [henter]
      exact hopens
    | @wakes next m reports rest wait due answer slept henter hdue hresume =>
      rw [henter]
      refine .later hdue fun timer hover k => ?_
      have hnext : ((w.put i next reports).setTimer k).layers[i]? = some next :=
        List.getElem?_set_self hlt
      rw [resumeAt_of_getElem? hnext, hresume _ _ hover, put_put, hblocking]
    | cutOff henter hnever =>
      obtain ⟨due, hdue⟩ := (h.prompt i layer hi).due_eq henter
      rw [hnever] at hdue
      cases hdue

omit [Timer] in
/-- A retry that sends a call in again has an attempt left for it. -/
theorem Suffices.again {i n fuel : Nat} {hold : Hold} {outcome : Except ε ν} {wait : Duration}
    {k : World ε ν} (hfuel : Suffices (start.patience i) fuel hold) (hready : Ready start m)
    (hleave : m.leave i hold outcome = (k, .again n wait)) :
    ∃ left, fuel = left + 1 ∧ Suffices (start.patience i) left (.attempts n) := by
  obtain ⟨count, _, rfl, rfl, hleft, -, -⟩ := leave_again hleave
  rw [hready.patience i] at hleft
  have henough := hfuel count rfl
  refine ⟨fuel - 1, by omega, fun _ hcount => ?_⟩
  cases hcount
  omega

/-- The attempts inside of a layer do not look at the timer. -/
theorem around_setTimer {run : World ε ν → World ε ν × Ending ε ν} {i timer : Nat}
    (hrun : ∀ w, Ready start w →
      run (w.setTimer timer) = ((run w).1.setTimer timer, (run w).2))
    (hlead : ∀ w, Leads w (run w).1) (fuel : Nat) (hold : Hold) (h : Ready start w)
    (hfuel : Suffices (start.patience i) fuel hold) :
    around i run fuel hold (w.setTimer timer) =
      ((around i run fuel hold w).1.setTimer timer, (around i run fuel hold w).2) := by
  induction fuel using Nat.strongRecOn generalizing hold w with
  | ind fuel ih =>
    have hlater := hrun w h
    have hready := h.leads (hlead w)
    rcases hran : run w with ⟨m, e⟩
    rw [hran] at hlater hready
    cases houtcome : e.outcome? with
    | none =>
      cases Ending.eq_panicked houtcome
      rw [around_panicked hran, around_panicked hlater, abandon_setTimer]
    | some outcome =>
      have hleft := m.leave_setTimer i timer hold outcome
      rcases hleave : m.leave i hold outcome with ⟨k, _ | ⟨n, wait⟩ | _⟩ <;> rw [hleave] at hleft
      · rw [around_done hran houtcome hleave, around_done hlater houtcome hleft]
      · obtain ⟨left, rfl, hnext⟩ := hfuel.again hready hleave
        have hk : Ready start k := hready.leads (left_leads hleave)
        rw [around_again hran houtcome hleave, around_again hlater houtcome hleft, hk.pass_eq,
          (hk.setTimer timer).pass_eq]
        exact ih left (Nat.lt_succ_self left) (.attempts n) hk hnext
      · rw [around_broken hran houtcome hleave, around_broken hlater houtcome hleft]

omit [Timer] [Fault ε] in
/-- A layer sends a call that it has just let in as often as it may. -/
theorem Ready.suffices (h : Ready start w) (i : Nat) (hold : Hold) :
    Suffices (start.patience i) (w.patience i) hold := by
  intro count _
  rw [h.patience i]
  omega

/-- A blocking call does not look at the timer. -/
theorem call_setTimer (operation : Nat → Run ε ν) (path : List Nat) (h : Ready start w)
    (timer : Nat) : call operation path (w.setTimer timer) =
      ((call operation path w).1.setTimer timer, (call operation path w).2) := by
  induction path generalizing w with
  | nil => rfl
  | cons i inner ih =>
    have hready := h.leads (w.enterBlocking_leads i)
    simp only [call, h.enterBlocking_setTimer]
    rcases hanswer : w.enterBlocking i with ⟨m, hold | e⟩
    · rw [hanswer] at hready
      exact around_setTimer (fun w hw => ih hw) (call_leads operation inner) _ hold hready
        (hready.suffices i hold)
    · rfl

/-! ### Suspended calls that are polled at their deadlines -/

/-- A call that is polled so many times, each time when its deadline has come, is over. -/
inductive Ends (operation : Nat → Run ε ν) (path : List Nat) :
    Nat → World ε ν × Progress ε ν → World ε ν × Ending ε ν → Prop
  | ended {w : World ε ν} {e : Ending ε ν} : Ends operation path 0 (w, .inl e) (w, e)
  | polled {n due : Nat} {w : World ε ν} {s : Suspended ε ν} {result : World ε ν × Ending ε ν}
    (hdue : s.due = some due)
    (hrest : Ends operation path n
      (poll operation path s (w.setTimer (max w.timer due))) result) :
    Ends operation path (n + 1) (w, .inr s) result

section Ends
variable {operation : Nat → Run ε ν} {path inner : List Nat} {n k i : Nat}
  {progress : World ε ν × Progress ε ν} {result : World ε ν × Ending ε ν}

/-- Whoever stays with a call for so many polls sees it end. -/
theorem Ends.awaitWithin (h : Ends operation path n progress result) {fuel : Nat}
    (hfuel : n ≤ fuel) :
    awaitWithin operation path fuel progress = (result.1, .inl result.2) := by
  induction h generalizing fuel with
  | ended => cases fuel <;> simp only [World.awaitWithin]
  | polled hdue _ ih =>
    obtain ⟨left, rfl⟩ : ∃ left, fuel = left + 1 := ⟨fuel - 1, by omega⟩
    simp only [World.awaitWithin, hdue]
    exact ih (Nat.le_of_succ_le_succ hfuel)

/-- What is inside of a layer is polled through it, until it has come to its end there. -/
theorem Ends.surround {hold : Hold} {inside : World ε ν × Ending ε ν} {stand : Stand ε ν}
    {frames : List Frame} (h : Ends operation inner n progress inside)
    (hstand : Stands inner [] progress.2 stand frames) (hready : Ready start progress.1)
    (hend : ∀ fuel, Suffices (start.patience i) fuel hold →
      Ends operation (i :: inner) k
        (World.surround i (World.start operation inner) fuel hold (inside.1, .inl inside.2))
        result)
    {fuel : Nat} (hfuel : Suffices (start.patience i) fuel hold) :
    Ends operation (i :: inner) (n + k)
      (World.surround i (World.start operation inner) fuel hold progress) result := by
  induction h generalizing stand frames fuel with
  | ended =>
    rw [Nat.zero_add]
    exact hend fuel hfuel
  | @polled n due w s inside hdue _ ih =>
    cases hstand with
    | suspended hstand =>
      obtain ⟨_, _, _, hnext, hjourney⟩ := poll_journey operation hstand
        (w.setTimer (max w.timer due))
      have hlater : Ready start (w.setTimer (max w.timer due)) := hready.setTimer _
      rw [surround_suspended, Nat.add_right_comm]
      refine .polled (show _ = some due from hdue) ?_
      exact ih hnext (hlater.leads hjourney.leads) hend (hlater.suffices i hold)

theorem poll_backoff {due : Nat} (hretry : w.layers[i]?.map Layer.kind = some .retry)
    (hover : due ≤ w.timer) :
    poll operation (i :: inner) (.waiting (.backoff n due)) w =
      World.surround i (World.start operation inner) (w.patience i) (.attempts n)
        (World.start operation inner w) := by
  simp only [poll, resumeAt_over hretry hover, proceed]

/-- The end of a blocking call, at some time of the timer. -/
abbrev SameEnd (result : World ε ν × Ending ε ν) (timer : Nat) : World ε ν × Ending ε ν :=
  (result.1.setTimer timer, result.2)

/-- The attempts of a suspended call inside of a layer end like those of a blocking call. -/
theorem around_ends {bound : Nat}
    (hinner : ∀ w, Ready start w → ∃ n timer, n ≤ bound ∧
      Ends operation inner n (World.start operation inner w)
        (SameEnd (call operation inner w) timer))
    (fuel : Nat) (hold : Hold) (h : Ready start w)
    (hfuel : Suffices (start.patience i) fuel hold) :
    ∃ n timer, n ≤ (fuel + 1) * (bound + 1) ∧
      ∀ left, Suffices (start.patience i) left hold →
        Ends operation (i :: inner) n
          (World.surround i (World.start operation inner) left hold
            (World.start operation inner w))
          (SameEnd (around i (call operation inner) fuel hold w) timer) := by
  induction fuel using Nat.strongRecOn generalizing hold w with
  | ind fuel ih =>
    obtain ⟨n, timer, hn, hends⟩ := hinner w h
    obtain ⟨_, stand, frames, hstand, hjourney⟩ :=
      start_journey operation inner w []
    have hstarted : Ready start (World.start operation inner w).1 := h.leads hjourney.leads
    have hready : Ready start (call operation inner w).1 := h.leads (call_leads ..)
    have hsmall : n + 0 ≤ (fuel + 1) * (bound + 1) := by
      rw [Nat.succ_mul]
      omega
    rcases hran : call operation inner w with ⟨m, e⟩
    rw [hran] at hends hready
    cases houtcome : e.outcome? with
    | none =>
      cases Ending.eq_panicked houtcome
      rw [around_panicked hran]
      refine ⟨_, timer, hsmall, fun _ => hends.surround hstand hstarted fun _ _ => ?_⟩
      rw [surround_panicked, abandon_setTimer]
      exact .ended
    | some outcome =>
      have hleft := m.leave_setTimer i timer hold outcome
      rcases hleave : m.leave i hold outcome with ⟨k, _ | ⟨count, wait⟩ | _⟩ <;>
        rw [hleave] at hleft
      · rw [around_done hran houtcome hleave]
        refine ⟨_, timer, hsmall, fun _ => hends.surround hstand hstarted fun _ _ => ?_⟩
        rw [surround_done houtcome hleft]
        exact .ended
      · obtain ⟨left, rfl, hnext⟩ := hfuel.again hready hleave
        have hretry : k.layers[i]?.map Layer.kind = some .retry := by
          obtain ⟨_, r, _, _, _, hi, -⟩ := leave_again hleave
          rw [(left_leads hleave).kind_eq, hi]
          rfl
        have hk : Ready start k := hready.leads (left_leads hleave)
        rw [around_again hran houtcome hleave, hk.pass_eq]
        obtain ⟨due, hdue⟩ : ∃ due, due = Timer.wakeAt timer wait := ⟨_, rfl⟩
        -- The next attempt begins when the timer has gone off, or at once.
        obtain ⟨n', timer', hn', hrest⟩ :=
          ih left (Nat.lt_succ_self left) (.attempts count) (hk.setTimer (max timer due)) hnext
        have hsame := around_setTimer
          (fun w hw => call_setTimer operation inner hw (max timer due))
          (call_leads operation inner) left (.attempts count) hk hnext
        rw [hsame] at hrest
        by_cases hover : due ≤ timer
        · rw [Nat.max_eq_left hover] at hrest
          refine ⟨n + n', timer', ?_, fun _ => hends.surround hstand hstarted fun _ hsuffices => ?_⟩
          · rw [Nat.succ_mul]
            omega
          · obtain ⟨left', rfl, hnext'⟩ := hsuffices.again hready hleave
            rw [surround_again houtcome hleft (hdue ▸ hover)]
            exact hrest left' hnext'
        · refine ⟨n + (n' + 1), timer', ?_, fun _ => hends.surround hstand hstarted fun _ _ => ?_⟩
          · rw [Nat.succ_mul]
            omega
          · rw [surround_waits houtcome hleft (hdue ▸ hover)]
            have hlater : Ready start (k.setTimer (max timer due)) := hk.setTimer _
            have hpoll := hrest _ (hlater.suffices i (.attempts count))
            rw [← poll_backoff (w := k.setTimer (max timer due)) hretry
              (Nat.le_max_right timer due)] at hpoll
            subst hdue
            exact .polled rfl hpoll
      · rw [around_broken hran houtcome hleave]
        refine ⟨_, timer, hsmall, fun _ => hends.surround hstand hstarted fun _ _ => ?_⟩
        rw [surround_broken houtcome hleft]
        exact .ended

/-- A suspended call that has got the answer at a door ends like a blocking call. -/
theorem proceed_ends {bound : Nat}
    (hinner : ∀ w, Ready start w → ∃ n timer, n ≤ bound ∧
      Ends operation inner n (World.start operation inner w)
        (SameEnd (call operation inner w) timer))
    (h : Ready start w) (i later : Nat) :
    ∃ n timer, n ≤ (start.patience i + 1) * (bound + 1) ∧
      Ends operation (i :: inner) n
        (proceed i (World.start operation inner)
          ((w.enterBlocking i).1.setTimer later, .ofAnswer (w.enterBlocking i).2))
        (SameEnd (call operation (i :: inner) w) timer) := by
  have hadmitted := h.leads (w.enterBlocking_leads i)
  simp only [call]
  rcases hanswer : w.enterBlocking i with ⟨m, hold | e⟩
  · have hm : Ready start m := by rwa [hanswer] at hadmitted
    have hlater := hm.setTimer later
    obtain ⟨n, timer, hn, hends⟩ :=
      around_ends hinner (m.patience i) hold hlater (hm.suffices i hold)
    rw [around_setTimer (fun w hw => call_setTimer operation inner hw later)
      (call_leads operation inner) _ hold hm (hm.suffices i hold)] at hends
    rw [hm.patience i] at hn
    exact ⟨n, timer, hn, hends _ (hlater.suffices i hold)⟩
  · exact ⟨0, later, Nat.zero_le _, .ended⟩

/-- **A suspended call that is polled at its deadlines ends like a blocking call**, and is not
suspended more often than the retries on its way allow. -/
theorem start_ends (hplain : ∀ n, (operation n).sleep = none ∧ (operation n).stalls = false)
    (path : List Nat) (h : Ready start w) :
    ∃ n timer, n ≤ start.suspensions path ∧
      Ends operation path n (World.start operation path w)
        (SameEnd (call operation path w) timer) := by
  induction path generalizing w with
  | nil =>
    obtain ⟨hsleep, hstalls⟩ := hplain w.runs
    refine ⟨0, w.timer, Nat.zero_le _, ?_⟩
    simp only [World.start, startRun, hsleep, afterSleep, hstalls, Bool.false_eq_true, if_false]
    exact .ended
  | cons i inner ih =>
    have hinner : ∀ w, Ready start w → ∃ n timer, n ≤ start.suspensions inner ∧
        Ends operation inner n (World.start operation inner w)
          (SameEnd (call operation inner w) timer) := fun w hw => ih hw
    have hopens := h.enter_opens i
    rcases hentered : w.enter i with ⟨m, entry⟩
    rw [hentered] at hopens
    simp only [World.start, hentered, suspensions]
    cases hopens with
    | atOnce =>
      obtain ⟨n, timer, hn, hends⟩ := proceed_ends hinner h i (w.enterBlocking i).1.timer
      exact ⟨n, timer, by omega, hends⟩
    | @later _ wait due hdue hanswer =>
      obtain ⟨n, timer, hn, hends⟩ := proceed_ends hinner h i (max m.timer due)
      refine ⟨n + 1, timer, by omega, .polled (show _ = some due from hdue) ?_⟩
      have hpoll : poll operation (i :: inner) (.waiting wait) (m.setTimer (max m.timer due)) =
          proceed i (World.start operation inner)
            ((m.setTimer (max m.timer due)).resumeAt i (max m.timer due) wait) := rfl
      rw [hpoll, hanswer _ (Nat.le_max_right ..)]
      exact hends

end Ends

end World

/-! ### Calls one after the other -/

/-- A call that is to be made. -/
structure Job (ε ν : Type) where
  operation : Nat → Run ε ν
  path : List Nat

/-- Whether the operation of a call ends without being suspended. -/
def Job.IsPlain (j : Job ε ν) : Prop :=
  ∀ n, (j.operation n).sleep = none ∧ (j.operation n).stalls = false

namespace World
variable [Fault ε]

/-- Makes calls that block, one after the other. -/
def serve [Timer] (w : World ε ν) : List (Job ε ν) → World ε ν × List (Ending ε ν)
  | [] => (w, [])
  | j :: rest =>
    let (w, ending) := call j.operation j.path w
    let (w, endings) := w.serve rest
    (w, ending :: endings)

/-- Makes calls that suspend, one after the other, and stays with each of them. -/
def serveAwaiting [Timer] (w : World ε ν) : List (Job ε ν) → World ε ν × List (Progress ε ν)
  | [] => (w, [])
  | j :: rest =>
    let (w, progress) := callAwaiting j.operation j.path w
    let (w, results) := w.serveAwaiting rest
    (w, progress :: results)

theorem callAwaiting_eq [Timer] {w : World ε ν} (h : Ready w w) {j : Job ε ν} (hplain : j.IsPlain) :
    ∃ timer, callAwaiting j.operation j.path w =
      ((call j.operation j.path w).1.setTimer timer, .inl (call j.operation j.path w).2) := by
  obtain ⟨n, timer, hn, hends⟩ := start_ends hplain j.path h
  exact ⟨timer, hends.awaitWithin hn⟩

theorem serveAwaiting_eq [Timer] (jobs : List (Job ε ν)) {w : World ε ν} (h : Ready w w)
    (hplain : ∀ j ∈ jobs, j.IsPlain) :
    ∀ later, ∃ timer, (w.setTimer later).serveAwaiting jobs =
      ((w.serve jobs).1.setTimer timer, (w.serve jobs).2.map .inl) := by
  induction jobs generalizing w with
  | nil => exact fun later => ⟨later, rfl⟩
  | cons j rest ih =>
    intro later
    obtain ⟨timer, hfirst⟩ := callAwaiting_eq (w := w.setTimer later)
      ⟨h.manual, h.prompt, fun _ => rfl⟩ (hplain j List.mem_cons_self)
    have hmore : Ready w (call j.operation j.path w).1 := h.leads (call_leads ..)
    obtain ⟨timer', hrest⟩ := ih ⟨hmore.manual, hmore.prompt, fun _ => rfl⟩
      (fun j hj => hplain j (List.mem_cons_of_mem _ hj)) timer
    rw [call_setTimer j.operation j.path h later] at hfirst
    refine ⟨timer', ?_⟩
    simp only [serveAwaiting, serve, hfirst, setTimer_setTimer, hrest, List.map_cons]

/-- **Blocking and suspended calls agree.** For every stack of layers of which none keeps anybody
waiting for a permit, and all calls whose operations are not suspended themselves: made one after
the other, they end in the same way whether they block or suspend, run their operations as often,
have the same reports in the same order, and leave every instance and the clock as the others
do. -/
theorem blocking_agrees_with_awaiting [Timer] (jobs : List (Job ε ν)) {w : World ε ν}
    (hmanual : w.live = false) (hprompt : ∀ layer ∈ w.layers, layer.Prompt)
    (hplain : ∀ j ∈ jobs, j.IsPlain) :
    let blocking := w.serve jobs
    let awaiting := w.serveAwaiting jobs
    awaiting.2 = blocking.2.map .inl ∧ awaiting.1.runs = blocking.1.runs ∧
      awaiting.1.trace = blocking.1.trace ∧ awaiting.1.layers = blocking.1.layers ∧
      awaiting.1.clock = blocking.1.clock := by
  intro blocking awaiting
  have hready : Ready w w :=
    ⟨hmanual, fun i layer hi => hprompt layer (List.mem_of_getElem? hi), fun _ => rfl⟩
  obtain ⟨timer, hsame⟩ := serveAwaiting_eq jobs hready hplain w.timer
  have hawaiting : awaiting = (blocking.1.setTimer timer, blocking.2.map .inl) := hsame
  rw [hawaiting]
  exact ⟨rfl, rfl, rfl, rfl, rfl⟩

/-- An instance of every kind: two calls a second may pass, and one at a time. -/
def counter : World Error Nat :=
  let pool : Bulkhead := { name := "pool", config := { maxConcurrentCalls := 1 }, available := 1 }
  let pace : Limiter.Config :=
    { limitForPeriod := 2, refreshPeriod := .ofSeconds 1, timeout := .ofSeconds 1 }
  let line : Breaker.Config Error Nat := { windowSize := 1, minimumCalls := 1 }
  { layers :=
      [.retry { name := "again", config := {} },
        .limiter { name := "pace", config := pace, origin := 0, permissions := 2 },
        .bulkhead pool,
        .breaker
          { name := "line", config := line, cell := line.freshCell 0 .closed 0 0 false none },
        .adaptive
          { name := "tide", config := {}, bulkhead := pool, lastAdjustment := 0
            window := { calls := .count (.empty 100), size := 100, minimumCalls := 100 } }] }

/-- An operation of which only the first run fails. -/
def unsteady (n : Nat) : Run Error Nat :=
  { takes := ⟨3⟩, ending := if n = 0 then .failed .concurrentModification else .returned n }

/-- The first call takes two attempts, the second one waits for its permission, and the last one is
refused after it has waited. -/
def orders : List (Job Error Nat) :=
  [⟨unsteady, [0, 1, 4, 2]⟩, ⟨unsteady, [1, 2]⟩, ⟨unsteady, [0, 1]⟩, ⟨unsteady, [3, 1, 2]⟩]

theorem orders_agree :
    let blocking := counter.serve orders
    let awaiting := counter.serveAwaiting orders
    awaiting.2 = [.inl (.returned 1), .inl (.returned 2), .inl (.returned 3),
        .inl (.failed (.requestNotPermitted "pace"))] ∧ awaiting.1.runs = 4 ∧
      awaiting.1.trace = blocking.1.trace ∧ awaiting.1.layers = blocking.1.layers ∧
      awaiting.1.clock.reading = 12 := by
  have hprompt : ∀ layer ∈ counter.layers, layer.Prompt := by
    intro layer hlayer
    simp only [counter, List.mem_cons, List.not_mem_nil, or_false] at hlayer
    rcases hlayer with rfl | rfl | rfl | rfl | rfl
    · exact trivial
    · exact trivial
    · exact rfl
    · exact trivial
    · exact ⟨rfl, rfl⟩
  have hplain : ∀ j ∈ orders, j.IsPlain := by
    intro j hj
    simp only [orders, List.mem_cons, List.not_mem_nil, or_false] at hj
    rcases hj with rfl | rfl | rfl | rfl <;> exact fun n => ⟨rfl, rfl⟩
  obtain ⟨hresults, hruns, htrace, hlayers, hclock⟩ :=
    blocking_agrees_with_awaiting orders (show counter.live = false from rfl) hprompt hplain
  have hserved : (counter.serve orders).2 = [.returned 1, .returned 2, .returned 3,
      .failed (.requestNotPermitted "pace")] := by decide +kernel
  intro blocking awaiting
  rw [hserved] at hresults
  refine ⟨hresults, hruns.trans ?_, htrace, hlayers, (congrArg (·.reading) hclock).trans ?_⟩
  · decide +kernel
  · decide +kernel

end World

end Stack

end FaultTolerance
