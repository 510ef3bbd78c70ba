import FaultTolerance.Proofs.Stack.Doors

/-! The way of a call through its layers, step by step.

A call stands at one point at a time: at the door of a layer, in its operation, or on its way out
(`Stand`), inside of the layers that have let it in (`Frame`). A `Leg` is one step of its way, with
what it is to the layer that takes part in it (`Visit`); a `Journey` is a run of legs. Calls that
block and calls that are suspended go the same legs. The former go them all at once
(`call_journey`); the latter stop where they have to wait, go on from there when they are polled
(`start_journey`, `poll_journey`), and turn back when they are dropped (`drop_journey`). What is
proved of calls elsewhere is proved by cases on their legs. -/
namespace FaultTolerance.Stack
variable {ε ν : Type}

/-! ### Points -/

/-- A layer that a call is inside of, with the layers that are further in. -/
structure Frame where
  layer : Nat
  inner : List Nat
  hold : Hold

/-- Why a call gives up everything. -/
inductive Cause where
  /-- Its operation has panicked. -/
  | panicked
  /-- A layer has broken it off. -/
  | broken
  | dropped
  deriving DecidableEq, Repr

/-- How a call stands to the layers that it is not yet, or no longer, inside of. -/
inductive Stand (ε ν : Type) where
  | comes (path : List Nat)
  /-- It waits at the door of the layer. -/
  | waits (layer : Nat) (inner : List Nat) (wait : Wait)
  /-- It waits for its next attempt inside of a retry. -/
  | pauses
  | operates (run : Run ε ν)
  | leaves (outcome : Except ε ν)
  | unwinds (cause : Cause)

/-- Whether a call may be suspended like this. -/
def Stand.isSuspended : Stand ε ν → Bool
  | waits .. | pauses | operates _ => true
  | comes _ | leaves _ | unwinds _ => false

/-- How a call goes on when its operation has ended. -/
def Stand.ofEnding : Ending ε ν → Stand ε ν
  | .returned v => leaves (.ok v)
  | .failed e => leaves (.error e)
  | .panicked => unwinds .panicked

/-- How a call has ended that stands like this outside of all its layers. -/
def Stand.ending? : Stand ε ν → Option (Ending ε ν)
  | leaves (.ok v) => some (.returned v)
  | leaves (.error e) => some (.failed e)
  | unwinds .panicked | unwinds .broken => some .panicked
  | _ => none

theorem Stand.ending?_ofEnding (e : Ending ε ν) : (ofEnding e).ending? = some e := by
  cases e <;> rfl

/-- Who is suspended or comes to a layer has not come to an end. -/
theorem Stand.eq_ofEnding {stand : Stand ε ν} {e : Ending ε ν} (h : stand = ofEnding e) :
    (∃ outcome, stand = .leaves outcome) ∨ stand = .unwinds .panicked := by
  cases e with
  | returned _ | failed _ => exact .inl ⟨_, h⟩
  | panicked => exact .inr h

/-- Who stands like this has an outcome, or has given up. -/
theorem Stand.ending?_cases {stand : Stand ε ν} {e : Ending ε ν} (h : stand.ending? = some e) :
    (∃ outcome, stand = .leaves outcome ∧ e.outcome? = some outcome) ∨
      ∃ cause, stand = .unwinds cause ∧ e = .panicked := by
  cases stand with
  | leaves outcome =>
    cases outcome <;> cases h <;> exact .inl ⟨_, rfl, rfl⟩
  | unwinds cause =>
    cases cause <;> cases h <;> exact .inr ⟨_, rfl, rfl⟩
  | comes _ | waits _ _ _ | pauses | operates _ => cases h

structure Point (ε ν : Type) where
  world : World ε ν
  stand : Stand ε ν
  /-- The layers that the call is inside of, the innermost first. -/
  frames : List Frame := []

/-- What a call is to a layer, with how many layers are outside of it. -/
inductive Visit where
  | asked (depth layer : Nat)
  | admitted (depth layer : Nat)
  | refused (depth layer : Nat) (e : Error)
  /-- The layer takes the outcome in and lets the call out. -/
  | left (depth layer : Nat)
  /-- The layer takes the outcome in and sends the call in again. -/
  | again (depth layer : Nat)
  | abandoned (depth layer : Nat)
  /-- The call gives up waiting at the door. -/
  | cancelled (depth layer : Nat)
  /-- A run of the operation began. -/
  | ran (run : Nat)
  deriving DecidableEq, Repr

/-- What the answer at its door says of a layer. -/
def Visit.answered (depth layer : Nat) : Entry → List Visit
  | .admitted _ => [.admitted depth layer]
  | .refused e => [.refused depth layer e]
  | .waiting _ => []

/-- Where a call stands after the answer at a door. -/
def Point.answered [Fault ε] (world : World ε ν) (layer : Nat) (inner : List Nat)
    (frames : List Frame) : Entry → Point ε ν
  | .admitted hold => ⟨world, .comes inner, ⟨layer, inner, hold⟩ :: frames⟩
  | .refused e => ⟨world, .leaves (.error (Fault.ofRefusal e)), frames⟩
  | .waiting wait => ⟨world, .waits layer inner wait, frames⟩

@[simp] theorem Point.answered_world [Fault ε] (w : World ε ν) (layer : Nat) (inner : List Nat)
    (frames : List Frame) (entry : Entry) :
    (answered w layer inner frames entry).world = w := by
  cases entry <;> rfl

/-- The error of a layer that no longer lets a call wait. -/
def World.refusalAt (w : World ε ν) (layer : Nat) : Error :=
  (w.layers[layer]?.map Layer.refusal).getD .concurrentModification

/-! ### Legs -/

variable [Timer] [Fault ε]

/-- One step on the way of a call. While it is suspended, time passes and others act. -/
inductive Leg (operation : Nat → Run ε ν) (others : World ε ν → World ε ν → Prop) :
    Point ε ν → List Visit → Point ε ν → Prop
  | enters {w m : World ε ν} {i : Nat} {inner : List Nat} {frames : List Frame} {entry : Entry}
    (hdoor : w.enter i = (m, entry)) :
    Leg operation others ⟨w, .comes (i :: inner), frames⟩
      (.asked frames.length i :: Visit.answered frames.length i entry)
      (Point.answered m i inner frames entry)
  | resumes {w m : World ε ν} {i : Nat} {inner : List Nat} {frames : List Frame} {wait : Wait}
    {timer : Nat} {entry : Entry} (hdoor : w.resumeAt i timer wait = (m, entry)) :
    Leg operation others ⟨w, .waits i inner wait, frames⟩ (Visit.answered frames.length i entry)
      (Point.answered m i inner frames entry)
  /-- A blocking call does not wait for what no timer brings. -/
  | cutOff {w : World ε ν} {i : Nat} {inner : List Nat} {frames : List Frame} {wait : Wait}
    (hnever : wait.due = none) :
    Leg operation others ⟨w, .waits i inner wait, frames⟩
      [.refused frames.length i (w.refusalAt i)]
      ⟨w, .leaves (.error (Fault.ofRefusal (w.refusalAt i))), frames⟩
  | begins {w : World ε ν} {frames : List Frame} :
    Leg operation others ⟨w, .comes [], frames⟩ [.ran w.runs]
      ⟨w.beginRun, .operates (operation w.runs), frames⟩
  | ends {w : World ε ν} {run : Run ε ν} {frames : List Frame} :
    Leg operation others ⟨w, .operates run, frames⟩ []
      ⟨(w.endRun run).1, .ofEnding run.ending, frames⟩
  | leaves {w m : World ε ν} {i : Nat} {inner : List Nat} {h : Hold} {frames : List Frame}
    {outcome : Except ε ν} (hleave : w.leave i h outcome = (m, .done)) :
    Leg operation others ⟨w, .leaves outcome, ⟨i, inner, h⟩ :: frames⟩ [.left frames.length i]
      ⟨m, .leaves outcome, frames⟩
  | breaks {w m : World ε ν} {i : Nat} {inner : List Nat} {h : Hold} {frames : List Frame}
    {outcome : Except ε ν} (hleave : w.leave i h outcome = (m, .broken)) :
    Leg operation others ⟨w, .leaves outcome, ⟨i, inner, h⟩ :: frames⟩ [.left frames.length i]
      ⟨m, .unwinds .broken, frames⟩
  | again {w m : World ε ν} {i n : Nat} {inner : List Nat} {h : Hold} {frames : List Frame}
    {outcome : Except ε ν} {wait : Duration}
    (hleave : w.leave i h outcome = (m, .again n wait)) :
    Leg operation others ⟨w, .leaves outcome, ⟨i, inner, h⟩ :: frames⟩ [.again frames.length i]
      ⟨m, .pauses, ⟨i, inner, .attempts n⟩ :: frames⟩
  | wakes {w : World ε ν} {f : Frame} {frames : List Frame} :
    Leg operation others ⟨w, .pauses, f :: frames⟩ [] ⟨w, .comes f.inner, f :: frames⟩
  | gives {w : World ε ν} {i : Nat} {inner : List Nat} {h : Hold} {frames : List Frame}
    {cause : Cause} :
    Leg operation others ⟨w, .unwinds cause, ⟨i, inner, h⟩ :: frames⟩
      [.abandoned frames.length i] ⟨w.abandon i h, .unwinds cause, frames⟩
  | dropsWaiting {w : World ε ν} {i : Nat} {inner : List Nat} {frames : List Frame}
    {wait : Wait} :
    Leg operation others ⟨w, .waits i inner wait, frames⟩ [.cancelled frames.length i]
      ⟨w.cancel i wait, .unwinds .dropped, frames⟩
  | dropsPaused {w : World ε ν} {f : Frame} {frames : List Frame} :
    Leg operation others ⟨w, .pauses, f :: frames⟩ [.abandoned frames.length f.layer]
      ⟨w, .unwinds .dropped, frames⟩
  | dropsOperating {w : World ε ν} {run : Run ε ν} {frames : List Frame} :
    Leg operation others ⟨w, .operates run, frames⟩ [] ⟨w, .unwinds .dropped, frames⟩
  | time {w : World ε ν} {stand : Stand ε ν} {frames : List Frame} (hs : stand.isSuspended)
    (clock : Clock) (timer : Nat) :
    Leg operation others ⟨w, stand, frames⟩ [] ⟨{ w with clock, timer }, stand, frames⟩
  | elsewhere {w m : World ε ν} {stand : Stand ε ν} {frames : List Frame}
    (hs : stand.isSuspended) (hothers : others w m) :
    Leg operation others ⟨w, stand, frames⟩ [] ⟨m, stand, frames⟩

/-- The legs of a call one after the other, with all its visits. -/
inductive Journey (operation : Nat → Run ε ν) (others : World ε ν → World ε ν → Prop)
    (p : Point ε ν) : List Visit → Point ε ν → Prop
  | here : Journey operation others p [] p
  | onward {q r : Point ε ν} {log visits : List Visit} (h : Journey operation others p log q)
    (hleg : Leg operation others q visits r) : Journey operation others p (log ++ visits) r

/-- Nobody else. -/
def nobody (_ _ : World ε ν) : Prop := False

section Journeys
variable {operation : Nat → Run ε ν} {others : World ε ν → World ε ν → Prop}
  {p q r : Point ε ν} {log visits : List Visit}

theorem Journey.trans (h : Journey operation others p log q)
    (hrest : Journey operation others q visits r) :
    Journey operation others p (log ++ visits) r := by
  induction hrest with
  | here => rwa [List.append_nil]
  | onward _ hleg ih =>
    rw [← List.append_assoc]
    exact ih.onward hleg

theorem Journey.single (h : Leg operation others p visits q) :
    Journey operation others p visits q := by
  have hone := Journey.here.onward h
  rwa [List.nil_append] at hone

theorem Leg.mono {others' : World ε ν → World ε ν → Prop}
    (hmono : ∀ w m, others w m → others' w m) (h : Leg operation others p visits q) :
    Leg operation others' p visits q := by
  cases h with
  | enters hdoor => exact .enters hdoor
  | resumes hdoor => exact .resumes hdoor
  | cutOff hnever => exact .cutOff hnever
  | begins => exact .begins
  | ends => exact .ends
  | leaves hleave => exact .leaves hleave
  | breaks hleave => exact .breaks hleave
  | again hleave => exact .again hleave
  | wakes => exact .wakes
  | gives => exact .gives
  | dropsWaiting => exact .dropsWaiting
  | dropsPaused => exact .dropsPaused
  | dropsOperating => exact .dropsOperating
  | time hs clock timer => exact .time hs clock timer
  | elsewhere hs hothers => exact .elsewhere hs (hmono _ _ hothers)

theorem Journey.mono {others' : World ε ν → World ε ν → Prop}
    (hmono : ∀ w m, others w m → others' w m) (h : Journey operation others p log q) :
    Journey operation others' p log q := by
  induction h with
  | here => exact .here
  | onward _ hleg ih => exact ih.onward (hleg.mono hmono)

/-- What calls and others reach is reached on the way of a call. -/
theorem Leg.reaches {P : Deal ε ν → Prop} (hcall : ∀ d : Deal ε ν, d.isOfCall → P d)
    (hothers : ∀ w m, others w m → World.Reaches P w m) (h : Leg operation others p visits q) :
    World.Reaches P p.world q.world := by
  have hlead {w m k : World ε ν} (h : World.Leads w m) (hk : m = k) : World.Reaches P w k :=
    hk ▸ World.Reaches.weaken hcall h
  cases h with
  | @enters w m i inner frames entry hdoor =>
    rw [Point.answered_world]
    exact hlead (w.enter_leads i) (congrArg Prod.fst hdoor)
  | @resumes w m i inner frames wait timer entry hdoor =>
    rw [Point.answered_world]
    exact hlead (w.resumeAt_leads i timer wait) (congrArg Prod.fst hdoor)
  | cutOff _ | wakes | dropsPaused | dropsOperating => exact .refl
  | begins => exact .single .run
  | @ends w run frames => exact hlead (w.endRun_leads run) rfl
  | @leaves w m i inner h frames outcome hleave | @breaks w m i inner h frames outcome hleave
  | @again w m i n inner h frames outcome wait hleave =>
    exact hlead (w.leave_leads i h outcome) (congrArg Prod.fst hleave)
  | @gives w i inner h frames cause => exact hlead (w.abandon_leads i h) rfl
  | @dropsWaiting w i inner frames wait => exact hlead (w.cancel_leads i wait) rfl
  | @time w stand frames hs clock timer =>
    exact .tail (.single (.clock clock)) (.timer timer)
  | elsewhere hs h => exact hothers _ _ h

theorem Journey.reaches {P : Deal ε ν → Prop} (hcall : ∀ d : Deal ε ν, d.isOfCall → P d)
    (hothers : ∀ w m, others w m → World.Reaches P w m)
    (h : Journey operation others p log q) : World.Reaches P p.world q.world := by
  induction h with
  | here => exact .refl
  | onward _ hleg ih => exact ih.trans (hleg.reaches hcall hothers)

/-- Whatever others do to instances, they reach no more than deals do. -/
theorem Journey.reaches_any (hothers : ∀ w m, others w m → World.Reaches (fun _ => True) w m)
    (h : Journey operation others p log q) : World.Reaches (fun _ => True) p.world q.world :=
  h.reaches (fun _ _ => trivial) hothers

theorem Journey.leads (h : Journey operation nobody p log q) : World.Leads p.world q.world :=
  h.reaches (fun _ hd => hd) (fun _ _ h => h.elim)

end Journeys

/-! ### Calls that block -/

namespace World
variable {operation : Nat → Run ε ν}

theorem enter_waits {w m : World ε ν} {i : Nat} {wait : Wait}
    (hdoor : w.enter i = (m, .waiting wait)) :
    ∃ layer, m.layers[i]? = some layer ∧ wait.isAtDoorOf layer.kind := by
  cases hi : w.layers[i]? with
  | none =>
    simp only [enter, hi] at hdoor
    cases hdoor
  | some layer =>
    obtain ⟨rfl, hentry⟩ := Prod.mk.inj ((enter_of_getElem? hi).symm.trans hdoor)
    obtain ⟨hlt, -⟩ := List.getElem?_eq_some_iff.mp hi
    have hkind : (layer.enter w.now w.timer).1.kind = layer.kind :=
      layer.kind_deal w.now w.timer .enter
    refine ⟨(layer.enter w.now w.timer).1, List.getElem?_set_self hlt, ?_⟩
    rw [hkind]
    exact Layer.enter_waiting hentry

omit [Fault ε] in
theorem resumeAt_waits {w m : World ε ν} {i timer : Nat} {wait next : Wait}
    (hresume : w.resumeAt i timer wait = (m, .waiting next)) :
    next = wait ∧ ∀ layer, w.layers[i]? = some layer → wait.isAtDoorOf layer.kind →
      ∀ due, wait.due = some due → timer < due := by
  cases hi : w.layers[i]? with
  | none =>
    simp only [resumeAt, hi] at hresume
    cases hresume
    refine ⟨rfl, fun _ hnone => ?_⟩
    cases hnone
  | some layer =>
    obtain ⟨-, hentry⟩ := Prod.mk.inj ((resumeAt_of_getElem? hi timer wait).symm.trans hresume)
    obtain ⟨hsame, hearly⟩ := Layer.resume_waiting hentry
    refine ⟨hsame, fun other hother hdoor => ?_⟩
    cases hother
    exact hearly hdoor

/-- A blocking call gets past the door of a layer, or back from it, in legs of its own. -/
theorem enterBlocking_journey (operation : Nat → Run ε ν) (w : World ε ν) (i : Nat)
    (inner : List Nat) (frames : List Frame) :
    ∃ log, Journey operation nobody ⟨w, .comes (i :: inner), frames⟩ log
      (Point.answered (w.enterBlocking i).1 i inner frames
        (Entry.ofAnswer (w.enterBlocking i).2)) := by
  cases hi : w.layers[i]? with
  | none =>
    have hdoor : w.enter i = (w, .admitted .nothing) := by simp only [enter, hi]
    simp only [enterBlocking, hi]
    exact ⟨_, .single (.enters hdoor)⟩
  | some layer =>
    obtain ⟨hlt, -⟩ := List.getElem?_eq_some_iff.mp hi
    have hthrough := layer.comesThrough w.now w.timer
    simp only [enterBlocking, hi]
    generalize layer.enterBlocking w.now w.timer = blocked at hthrough ⊢
    -- What the layer says at first is said before the call sleeps.
    have hdoor {k : Layer ε ν} {first : List Report} {entry : Entry}
        (henter : layer.enter w.now w.timer = (k, first, entry)) :
        w.enter i = (w.put i k first, entry) := by
      rw [enter_of_getElem? hi, henter]
    cases hthrough with
    | atOnce henter =>
      rw [pass_zero]
      exact ⟨_, .single (.enters (hdoor henter))⟩
    | @wakes k m first rest wait due answer slept henter hdue hresume =>
      obtain ⟨clock, hpass⟩ := (w.put i m (first ++ rest)).pass_eq slept
      have hk : ((w.put i k first).setClock clock).layers[i]? = some k :=
        List.getElem?_set_self hlt
      have hanswer : ((w.put i k first).setClock clock).resumeAt i due wait =
          ((w.put i m (first ++ rest)).setClock clock, .ofAnswer answer) := by
        rw [resumeAt_of_getElem? hk, hresume _ _ (Nat.le_refl due)]
        simp only [put, setClock, List.set_set, List.map_append, List.append_assoc]
      rw [hpass]
      exact ⟨_, ((Journey.single (.enters (hdoor henter))).onward
        (.time rfl clock w.timer)).onward (.resumes hanswer)⟩
    | @cutOff k first wait henter hnever =>
      have hrefusal : (w.put i k first).refusalAt i = k.refusal := by
        rw [refusalAt, put_layers, List.getElem?_set_self hlt, Option.map_some, Option.getD_some]
      rw [pass_zero, ← hrefusal]
      exact ⟨_, (Journey.single (.enters (hdoor henter))).onward (.cutOff hnever)⟩

theorem enterBlocking_leads (w : World ε ν) (i : Nat) : Leads w (w.enterBlocking i).1 := by
  have hoperation : Nat → Run ε ν := fun _ => { ending := .panicked }
  obtain ⟨_, h⟩ := enterBlocking_journey hoperation w i [] []
  have hlead := h.leads
  rwa [Point.answered_world] at hlead

/-- Enough further attempts for whatever a layer may ask for. -/
def Suffices (patience fuel : Nat) (h : Hold) : Prop :=
  ∀ count, h = .attempts count → patience ≤ count + fuel

/-- The attempts of a blocking call inside of a layer are legs of its way. -/
theorem around_journey {i : Nat} {inner : List Nat}
    {run : World ε ν → World ε ν × Ending ε ν}
    (hrun : ∀ (w : World ε ν) (frames : List Frame), ∃ log stand,
      stand.ending? = some (run w).2 ∧
        Journey operation nobody ⟨w, .comes inner, frames⟩ log ⟨(run w).1, stand, frames⟩)
    (fuel : Nat) (h : Hold) (w : World ε ν) (frames : List Frame)
    (hfuel : Suffices (w.patience i) fuel h) :
    ∃ log stand, stand.ending? = some (around i run fuel h w).2 ∧
      Journey operation nobody ⟨w, .comes inner, ⟨i, inner, h⟩ :: frames⟩ log
        ⟨(around i run fuel h w).1, stand, frames⟩ := by
  induction fuel using Nat.strongRecOn generalizing h w with
  | ind fuel ih =>
    obtain ⟨log, stand, hending, hinner⟩ := hrun w (⟨i, inner, h⟩ :: frames)
    rcases hran : run w with ⟨m, e⟩
    simp only [hran] at hending hinner
    rcases Stand.ending?_cases hending with ⟨outcome, rfl, houtcome⟩ | ⟨cause, rfl, rfl⟩
    · rcases hleave : m.leave i h outcome with ⟨k, _ | ⟨n, wait⟩ | _⟩
      · simp only [around_done hran houtcome hleave]
        exact ⟨_, _, hending, hinner.onward (.leaves hleave)⟩
      · -- There is an attempt left, or the retry would not have sent the call in again.
        obtain ⟨count, _, rfl, rfl, hleft, -, -⟩ := leave_again hleave
        have hk : Leads w k := (hinner.onward (.again hleave)).leads
        have hm : m.patience i = w.patience i := hinner.leads.patience_eq i
        have henough := hfuel count rfl
        obtain ⟨fuel, rfl⟩ : ∃ left, fuel = left + 1 := ⟨fuel - 1, by omega⟩
        obtain ⟨clock, hpass⟩ := k.pass_eq wait
        have hcame := ((hinner.onward (.again hleave)).onward (.time rfl clock k.timer)).onward
          .wakes
        have hnext : Suffices ((k.setClock clock).patience i) fuel (.attempts (count + 1)) := by
          intro _ hcount
          cases hcount
          have hclock : (k.setClock clock).patience i = w.patience i := hk.patience_eq i
          omega
        obtain ⟨rest, stand, hending, hrest⟩ := ih fuel (Nat.lt_succ_self _) _ _ hnext
        simp only [around_again hran houtcome hleave, hpass]
        exact ⟨_, stand, hending, hcame.trans hrest⟩
      · simp only [around_broken hran houtcome hleave]
        exact ⟨_, _, rfl, hinner.onward (.breaks hleave)⟩
    · simp only [around_panicked hran]
      exact ⟨_, _, hending, hinner.onward .gives⟩

/-- **A blocking call goes its way in legs**, from the door of its outermost layer to its end. -/
theorem call_journey (operation : Nat → Run ε ν) (path : List Nat) (w : World ε ν)
    (frames : List Frame) :
    ∃ log stand, stand.ending? = some (call operation path w).2 ∧
      Journey operation nobody ⟨w, .comes path, frames⟩ log
        ⟨(call operation path w).1, stand, frames⟩ := by
  induction path generalizing w frames with
  | nil =>
    exact ⟨_, _, Stand.ending?_ofEnding _, (Journey.single .begins).onward .ends⟩
  | cons i inner ih =>
    obtain ⟨log, hdoor⟩ := enterBlocking_journey operation w i inner frames
    rcases hanswer : w.enterBlocking i with ⟨m, h | e⟩
    · simp only [hanswer] at hdoor
      have hpatience : m.patience i = w.patience i := hdoor.leads.patience_eq i
      have hfuel : Suffices (m.patience i) (w.patience i) h := by
        intro count _
        omega
      obtain ⟨rest, stand, hending, hrest⟩ := around_journey ih (w.patience i) h m frames hfuel
      have hcall : call operation (i :: inner) w =
          around i (call operation inner) (m.patience i) h m := by
        simp only [call, hanswer]
      rw [hcall, hpatience]
      exact ⟨_, stand, hending, hdoor.trans hrest⟩
    · simp only [hanswer] at hdoor
      have hcall : call operation (i :: inner) w = (m, .failed (Fault.ofRefusal e)) := by
        simp only [call, hanswer]
      rw [hcall]
      exact ⟨_, _, rfl, hdoor⟩

theorem call_leads (operation : Nat → Run ε ν) (path : List Nat) (w : World ε ν) :
    Leads w (call operation path w).1 := by
  obtain ⟨_, _, _, h⟩ := call_journey operation path w []
  exact h.leads

end World

/-! ### Calls that are suspended -/

/-- Where a suspended call stands, if it fits its layers. -/
def Suspended.stand? : List Nat → Suspended ε ν → List Frame → Option (Stand ε ν × List Frame)
  | [], .operating _ run, frames => some (.operates run, frames)
  | i :: inner, .waiting (.backoff n _), frames =>
    some (.pauses, ⟨i, inner, .attempts n⟩ :: frames)
  | i :: inner, .waiting wait, frames => some (.waits i inner wait, frames)
  | i :: inner, .within h suspended, frames =>
    suspended.stand? inner (⟨i, inner, h⟩ :: frames)
  | _, _, _ => none

omit [Timer] [Fault ε] in
theorem Suspended.stand?_waiting {wait : Wait} (hdoor : wait.isBackoff = false) (i : Nat)
    (inner : List Nat) (frames : List Frame) :
    (waiting wait : Suspended ε ν).stand? (i :: inner) frames =
      some (.waits i inner wait, frames) := by
  cases wait with
  | reservation _ | permit _ => rfl
  | backoff _ _ => cases hdoor

omit [Timer] [Fault ε] in
theorem Suspended.isSuspended_of_stand? {path : List Nat} (s : Suspended ε ν)
    {frames inside : List Frame} {stand : Stand ε ν}
    (hstand : s.stand? path frames = some (stand, inside)) : stand.isSuspended := by
  induction path generalizing s frames with
  | nil =>
    cases s with
    | operating _ _ => cases hstand; rfl
    | waiting _ | within _ _ => cases hstand
  | cons i inner ih =>
    cases s with
    | operating _ _ => cases hstand
    | waiting wait => cases wait <;> cases hstand <;> rfl
    | within h s => exact ih s hstand

/-- Where a call stands that is over or suspended. -/
inductive Stands (path : List Nat) (frames : List Frame) :
    Progress ε ν → Stand ε ν → List Frame → Prop
  | ended {e : Ending ε ν} {stand : Stand ε ν} (hending : stand.ending? = some e) :
    Stands path frames (.inl e) stand frames
  | suspended {s : Suspended ε ν} {stand : Stand ε ν} {inside : List Frame}
    (hstand : s.stand? path frames = some (stand, inside)) :
    Stands path frames (.inr s) stand inside

namespace World
variable {operation : Nat → Run ε ν}

theorem surround_journey {i : Nat} {inner : List Nat}
    {run : World ε ν → World ε ν × Progress ε ν}
    (hrun : ∀ (w : World ε ν) (frames : List Frame), ∃ log stand inside,
      Stands inner frames (run w).2 stand inside ∧
        Journey operation nobody ⟨w, .comes inner, frames⟩ log ⟨(run w).1, stand, inside⟩)
    (fuel : Nat) (h : Hold) (result : World ε ν × Progress ε ν) (frames : List Frame)
    {p : Point ε ν} {log : List Visit} {stand : Stand ε ν} {inside : List Frame}
    (hstand : Stands inner (⟨i, inner, h⟩ :: frames) result.2 stand inside)
    (hcame : Journey operation nobody p log ⟨result.1, stand, inside⟩)
    (hfuel : Suffices (result.1.patience i) fuel h) :
    ∃ log stand inside,
      Stands (i :: inner) frames (surround i run fuel h result).2 stand inside ∧
        Journey operation nobody p log ⟨(surround i run fuel h result).1, stand, inside⟩ := by
  induction fuel using Nat.strongRecOn generalizing h result log stand inside with
  | ind fuel ih =>
    rcases result with ⟨m, e | s⟩
    · cases hstand with
      | ended hending =>
        rcases Stand.ending?_cases hending with ⟨outcome, rfl, houtcome⟩ | ⟨cause, rfl, rfl⟩
        · rcases hleave : m.leave i h outcome with ⟨k, _ | ⟨n, wait⟩ | _⟩
          · rw [surround_done houtcome hleave]
            exact ⟨_, _, _, .ended hending, hcame.onward (.leaves hleave)⟩
          · -- There is an attempt left, or the retry would not have sent the call in again.
            obtain ⟨count, _, rfl, rfl, hleft, -, -⟩ := leave_again hleave
            have hagain := hcame.onward (.again hleave)
            by_cases hover : Timer.wakeAt k.timer wait ≤ k.timer
            · have hpatience : k.patience i = m.patience i :=
                (left_leads hleave).patience_eq i
              have henough := hfuel count rfl
              dsimp only at henough
              obtain ⟨fuel, rfl⟩ : ∃ left, fuel = left + 1 := ⟨fuel - 1, by omega⟩
              obtain ⟨rest, stand, inside, hstand, hrest⟩ :=
                hrun k (⟨i, inner, .attempts (count + 1)⟩ :: frames)
              have hpatience' : (run k).1.patience i = k.patience i := hrest.leads.patience_eq i
              have hnext : Suffices ((run k).1.patience i) fuel (.attempts (count + 1)) := by
                intro _ hcount
                cases hcount
                omega
              rw [surround_again houtcome hleave hover]
              exact ih fuel (Nat.lt_succ_self _) _ _ hstand
                ((hagain.onward .wakes).trans hrest) hnext
            · rw [surround_waits houtcome hleave hover]
              exact ⟨_, _, _, .suspended rfl, hagain⟩
          · rw [surround_broken houtcome hleave]
            exact ⟨_, _, _, .ended rfl, hcame.onward (.breaks hleave)⟩
        · rw [surround_panicked]
          exact ⟨_, _, _, .ended hending, hcame.onward .gives⟩
    · cases hstand with
      | suspended hstand =>
        rw [surround_suspended]
        exact ⟨_, _, _, .suspended hstand, hcame⟩

/-- A call goes on from what it has been told at a door. -/
theorem proceed_journey {i : Nat} {inner : List Nat}
    {run : World ε ν → World ε ν × Progress ε ν}
    (hrun : ∀ (w : World ε ν) (frames : List Frame), ∃ log stand inside,
      Stands inner frames (run w).2 stand inside ∧
        Journey operation nobody ⟨w, .comes inner, frames⟩ log ⟨(run w).1, stand, inside⟩)
    {frames : List Frame} {p : Point ε ν} {log : List Visit} {m : World ε ν} {entry : Entry}
    (hwaits : ∀ wait, entry = .waiting wait → wait.isBackoff = false)
    (hcame : Journey operation nobody p log (Point.answered m i inner frames entry)) :
    ∃ log stand inside,
      Stands (i :: inner) frames (proceed i run (m, entry)).2 stand inside ∧
        Journey operation nobody p log ⟨(proceed i run (m, entry)).1, stand, inside⟩ := by
  cases entry with
  | admitted h =>
    obtain ⟨rest, stand, inside, hstand, hrest⟩ := hrun m (⟨i, inner, h⟩ :: frames)
    have hpatience : (run m).1.patience i = m.patience i := hrest.leads.patience_eq i
    refine surround_journey hrun (m.patience i) h (run m) frames hstand (hcame.trans hrest) ?_
    intro count _
    omega
  | refused e => exact ⟨_, _, _, .ended rfl, hcame⟩
  | waiting wait =>
    exact ⟨_, _, _, .suspended (Suspended.stand?_waiting (hwaits wait rfl) ..), hcame⟩

theorem afterSleep_journey (operation : Nat → Run ε ν) (w : World ε ν) (run : Run ε ν)
    (frames : List Frame) :
    ∃ log stand, Stands [] frames (w.afterSleep run).2 stand frames ∧
      Journey operation nobody ⟨w, .operates run, frames⟩ log
        ⟨(w.afterSleep run).1, stand, frames⟩ := by
  by_cases hstalls : run.stalls = true
  · simp only [afterSleep, if_pos hstalls]
    exact ⟨_, _, .suspended rfl, .here⟩
  · simp only [afterSleep, if_neg hstalls]
    exact ⟨_, _, .ended (Stand.ending?_ofEnding _), Journey.single .ends⟩

theorem sleepUntil_journey (operation : Nat → Run ε ν) (w : World ε ν) (due : Nat) (run : Run ε ν)
    (frames : List Frame) :
    ∃ log stand, Stands [] frames (w.sleepUntil due run).2 stand frames ∧
      Journey operation nobody ⟨w, .operates run, frames⟩ log
        ⟨(w.sleepUntil due run).1, stand, frames⟩ := by
  by_cases hover : due ≤ w.timer
  · simp only [sleepUntil, if_pos hover]
    exact afterSleep_journey operation w run frames
  · simp only [sleepUntil, if_neg hover]
    exact ⟨_, _, .suspended rfl, .here⟩

/-- **A call that suspends goes the same legs**, as far as it comes. -/
theorem start_journey (operation : Nat → Run ε ν) (path : List Nat) (w : World ε ν)
    (frames : List Frame) :
    ∃ log stand inside, Stands path frames (start operation path w).2 stand inside ∧
      Journey operation nobody ⟨w, .comes path, frames⟩ log
        ⟨(start operation path w).1, stand, inside⟩ := by
  induction path generalizing w frames with
  | nil =>
    have hran : Journey operation nobody ⟨w, .comes [], frames⟩ [.ran w.runs]
      ⟨w.beginRun, .operates (operation w.runs), frames⟩ := Journey.single .begins
    cases hsleep : (operation w.runs).sleep with
    | none =>
      obtain ⟨log, stand, hstand, hrest⟩ :=
        afterSleep_journey operation w.beginRun (operation w.runs) frames
      simp only [start, startRun, hsleep]
      exact ⟨_, stand, frames, hstand, hran.trans hrest⟩
    | some d =>
      obtain ⟨log, stand, hstand, hrest⟩ := sleepUntil_journey operation w.beginRun
        (Timer.wakeAt w.beginRun.timer d) (operation w.runs) frames
      simp only [start, startRun, hsleep]
      exact ⟨_, stand, frames, hstand, hran.trans hrest⟩
  | cons i inner ih =>
    rcases hdoor : w.enter i with ⟨m, entry⟩
    simp only [start, hdoor]
    refine proceed_journey ih (fun wait hwait => ?_) (Journey.single (.enters hdoor))
    subst hwait
    obtain ⟨layer, -, hdoor⟩ := enter_waits hdoor
    exact Wait.not_isBackoff hdoor

/-- **A poll takes a suspended call on from where it stands.** -/
theorem poll_journey (operation : Nat → Run ε ν) {path : List Nat} {s : Suspended ε ν}
    {frames inside : List Frame} {stand : Stand ε ν}
    (hstand : s.stand? path frames = some (stand, inside)) (w : World ε ν) :
    ∃ log next inside', Stands path frames (poll operation path s w).2 next inside' ∧
      Journey operation nobody ⟨w, stand, inside⟩ log
        ⟨(poll operation path s w).1, next, inside'⟩ := by
  induction path generalizing s frames with
  | nil =>
    cases s with
    | operating due run =>
      cases hstand
      cases due with
      | none => exact ⟨_, _, _, .suspended rfl, .here⟩
      | some due =>
        obtain ⟨log, next, hnext, hrest⟩ := sleepUntil_journey operation w due run inside
        exact ⟨log, next, inside, hnext, hrest⟩
    | waiting _ | within _ _ => cases hstand
  | cons i inner ih =>
    cases s with
    | operating _ _ => cases hstand
    | waiting wait =>
      cases hdoor : wait.isBackoff with
      | true =>
        obtain ⟨n, due, rfl⟩ := Wait.eq_backoff hdoor
        cases hstand
        rcases w.resumeAt_backoff i w.timer n due with hdoor | hdoor
        · simp only [poll, hdoor]
          exact ⟨_, _, _, .suspended rfl, .here⟩
        · simp only [poll, hdoor]
          exact proceed_journey (start_journey operation inner) nofun (Journey.single .wakes)
      | false =>
        rw [Suspended.stand?_waiting hdoor] at hstand
        cases hstand
        rcases hanswer : w.resumeAt i w.timer wait with ⟨m, entry⟩
        simp only [poll, hanswer]
        refine proceed_journey (start_journey operation inner) (fun next hnext => ?_)
          (Journey.single (.resumes hanswer))
        subst hnext
        obtain ⟨rfl, -⟩ := resumeAt_waits hanswer
        exact hdoor
    | within h s =>
      obtain ⟨log, next, inside', hnext, hrest⟩ := ih hstand
      have hpatience : (poll operation inner s w).1.patience i = w.patience i :=
        hrest.leads.patience_eq i
      refine surround_journey (start_journey operation inner) (w.patience i) h _ frames hnext hrest
        ?_
      intro count _
      omega

/-- **A suspended call that is dropped gives up from where it stands.** -/
theorem drop_journey (operation : Nat → Run ε ν) {path : List Nat} {s : Suspended ε ν}
    {frames inside : List Frame} {stand : Stand ε ν}
    (hstand : s.stand? path frames = some (stand, inside)) (w : World ε ν) :
    ∃ log, Journey operation nobody ⟨w, stand, inside⟩ log
      ⟨w.drop path s, .unwinds .dropped, frames⟩ := by
  induction path generalizing s frames with
  | nil =>
    cases s with
    | operating due run =>
      cases hstand
      exact ⟨_, Journey.single .dropsOperating⟩
    | waiting _ | within _ _ => cases hstand
  | cons i inner ih =>
    cases s with
    | operating _ _ => cases hstand
    | waiting wait =>
      cases hdoor : wait.isBackoff with
      | true =>
        obtain ⟨n, due, rfl⟩ := Wait.eq_backoff hdoor
        cases hstand
        simp only [drop, cancel_backoff]
        exact ⟨_, Journey.single .dropsPaused⟩
      | false =>
        rw [Suspended.stand?_waiting hdoor] at hstand
        cases hstand
        exact ⟨_, Journey.single .dropsWaiting⟩
    | within h s =>
      obtain ⟨log, hrest⟩ := ih hstand
      exact ⟨_, hrest.onward .gives⟩

/-! ### Calls under way -/

/-- What a suspended call that has been started in `w` can have come to: it is polled at any time,
and in between time passes and others act. -/
inductive Underway (operation : Nat → Run ε ν) (others : World ε ν → World ε ν → Prop)
    (path : List Nat) (w : World ε ν) : World ε ν → Progress ε ν → Prop
  | started : Underway operation others path w (start operation path w).1
      (start operation path w).2
  | polled {m : World ε ν} {s : Suspended ε ν} (h : Underway operation others path w m (.inr s)) :
    Underway operation others path w (poll operation path s m).1 (poll operation path s m).2
  | time {m : World ε ν} {s : Suspended ε ν} (h : Underway operation others path w m (.inr s))
    (clock : Clock) (timer : Nat) :
    Underway operation others path w { m with clock, timer } (.inr s)
  | elsewhere {m k : World ε ν} {s : Suspended ε ν}
    (h : Underway operation others path w m (.inr s)) (hothers : others m k) :
    Underway operation others path w k (.inr s)

/-- **A suspended call has come on a journey to where it stands.** -/
theorem Underway.journey {others : World ε ν → World ε ν → Prop} {path : List Nat}
    {w m : World ε ν} {progress : Progress ε ν} (h : Underway operation others path w m progress) :
    ∃ log stand inside, Stands path [] progress stand inside ∧
      Journey operation others ⟨w, .comes path, []⟩ log ⟨m, stand, inside⟩ := by
  induction h with
  | started =>
    obtain ⟨log, stand, inside, hstand, hcame⟩ := start_journey operation path w []
    exact ⟨log, stand, inside, hstand, hcame.mono fun _ _ h => h.elim⟩
  | polled _ ih =>
    obtain ⟨log, stand, inside, hstand, hcame⟩ := ih
    cases hstand with
    | suspended hstand =>
      obtain ⟨rest, next, inside', hnext, hrest⟩ :=
        poll_journey operation hstand _
      exact ⟨_, next, inside', hnext, hcame.trans (hrest.mono fun _ _ h => h.elim)⟩
  | @time m s _ clock timer ih =>
    obtain ⟨log, stand, inside, hstand, hcame⟩ := ih
    cases hstand with
    | suspended hstand =>
      have hsuspended := s.isSuspended_of_stand? hstand
      exact ⟨_, stand, inside, .suspended hstand, hcame.onward (.time hsuspended clock timer)⟩
  | @elsewhere m k s _ hothers ih =>
    obtain ⟨log, stand, inside, hstand, hcame⟩ := ih
    cases hstand with
    | suspended hstand =>
      have hsuspended := s.isSuspended_of_stand? hstand
      exact ⟨_, stand, inside, .suspended hstand, hcame.onward (.elsewhere hsuspended hothers)⟩

end World

end FaultTolerance.Stack
