import FaultTolerance.Proofs.Stack.Unwinding

/-! Calls that are interrupted leak nothing.

A call is interrupted when its operation panics, and when it is dropped while it waits at a door,
between two attempts, or in its operation. Every layer that it is inside of has let it in and has
been told nothing since (`Journey.since`); the attempt that is interrupted has told no layer
anything (`Journey.attempt`). What is left then is `Unleaked`. The main theorem is
**`interruptions_leak_nothing`**. -/
namespace FaultTolerance.Stack
variable {ε ν : Type}

/-! ### Nothing is recorded -/

/-- Whether the instance takes an outcome in. -/
def Visit.tells (j : Nat) : Visit → Bool
  | left _ layer => layer = j
  | _ => false

namespace World

/-- Nothing is told to the instance at a position. -/
def UntoldAt (j : Nat) (w m : World ε ν) : Prop :=
  ∀ layer, w.layers[j]? = some layer → ∃ next, m.layers[j]? = some next ∧ layer.Untold next

/-- Nothing is told to the instance at a position, unless others tell it something. -/
def Unheard (others : World ε ν → World ε ν → Prop) (j : Nat) : World ε ν → World ε ν → Prop :=
  Relation.ReflTransGen fun w m => others w m ∨ UntoldAt j w m

variable {w m : World ε ν} {i j : Nat}

theorem UntoldAt.of_layers_eq (h : m.layers = w.layers) : UntoldAt j w m := by
  intro layer hj
  rw [h]
  exact ⟨layer, hj, .refl layer⟩

/-- A retry that uses a draw has been told nothing. -/
theorem UntoldAt.of_redrawn {r : Retry ε ν} {draws : Draws} (hi : w.layers[i]? = some (.retry r))
    (h : m.layers = w.layers.set i (.retry { r with draws })) : UntoldAt j w m := by
  intro layer hj
  rw [h, List.getElem?_set]
  split
  case isTrue hij =>
    subst hij
    cases hi.symm.trans hj
    obtain ⟨hlt, -⟩ := List.getElem?_eq_some_iff.mp hi
    exact ⟨_, if_pos hlt, .retry r draws⟩
  case isFalse => exact ⟨layer, hj, .refl layer⟩

variable [Timer] [Fault ε] {others : World ε ν → World ε ν → Prop}

theorem UntoldAt.deal (hw : w.Sound) {d : Deal ε ν} (hd : i = j → d.isSilent) :
    UntoldAt j w (w.deal i d) := by
  intro layer hj
  by_cases hij : i = j
  · subst hij
    have hnext := (w.deal_getElem?_self i d).trans (congrArg (Option.map _) hj)
    exact ⟨_, hnext, layer.untold_deal _ _ (hd rfl) (hw i layer hj)⟩
  · exact ⟨layer, (w.deal_getElem?_ne hij d).trans hj, .refl layer⟩

/-- A breaker that is reached later is the same one later. -/
theorem Reaches.later {P : Deal ε ν → Prop} {a b : Breaker ε ν} (h : Reaches P w m)
    (ha : a.config.Sound) (hi : w.layers[i]? = some (.breaker a))
    (hlater : m.layers[i]? = some (.breaker b)) : a.Later b := by
  have hall : m.All fun k layer => k = i → ∃ b, layer = .breaker b ∧ a.Later b := by
    refine h.all (fun now timer k d layer _ hlayer hk => ?_) fun k layer hk hki => ?_
    · obtain ⟨b, rfl, hb⟩ := hlayer hk
      have hconfig : b.config.Sound := hb.config ▸ ha
      obtain ⟨next, hnext, -⟩ := Layer.deal_breaker hconfig now timer d
      exact ⟨next, hnext, hb.trans (Layer.later_deal hconfig hnext)⟩
    · subst hki
      cases hi.symm.trans hk
      exact ⟨a, rfl, .refl a⟩
  obtain ⟨k, hk, hlater⟩ := hall i _ hlater rfl
  cases hk
  exact hlater

theorem unwound_unheard (hw : w.Sound) (frames : List Frame) :
    Unheard others j w (w.unwound frames) := by
  induction frames generalizing w with
  | nil => exact .refl
  | cons f frames ih =>
    have hsound : (w.abandon f.layer f.hold).Sound := hw.reaches (w.abandon_leads f.layer f.hold)
    refine .trans (.single (.inr ?_)) (ih hsound)
    rw [abandon_eq_deal]
    exact .deal hw fun _ => rfl

end World

section Journeys
variable [Timer] [Fault ε] {operation : Nat → Run ε ν} {others : World ε ν → World ε ν → Prop}
  {p q : Point ε ν} {log visits : List Visit} {j : Nat}

theorem Leg.unheard (hw : p.world.Sound) (hleg : Leg operation others p visits q)
    (hlog : ∀ v ∈ visits, v.tells j = false) : World.Unheard others j p.world q.world := by
  have hdeal {w m : World ε ν} {i : Nat} {d : Deal ε ν} (hw : w.Sound) (hm : m = w.deal i d)
      (hd : i = j → d.isSilent) : World.Unheard others j w m := by
    rw [hm]
    exact .single (.inr (.deal hw hd))
  have hsame {w m : World ε ν} (h : m.layers = w.layers) : World.Unheard others j w m :=
    .single (.inr (.of_layers_eq h))
  cases hleg with
  | @enters w m i inner frames entry hdoor =>
    rw [Point.answered_world]
    exact hdeal hw (World.eq_deal_of_enter hdoor) fun _ => rfl
  | @resumes w m i inner frames wait timer entry hdoor =>
    rw [Point.answered_world]
    exact hdeal hw (World.eq_deal_of_resumeAt hdoor) fun _ => rfl
  | @leaves w m i inner h frames outcome hleave | @breaks w m i inner h frames outcome hleave =>
    refine hdeal hw (World.eq_deal_of_leave hleave) fun hij => ?_
    have huntold := hlog _ (List.mem_singleton_self _)
    simp only [Visit.tells, hij, decide_true, Bool.true_eq_false] at huntold
  | @gives w i inner h frames cause => exact hdeal hw (w.abandon_eq_deal i h) fun _ => rfl
  | @dropsWaiting w i inner frames wait => exact hdeal hw (w.cancel_eq_deal i wait) fun _ => rfl
  | again hleave =>
    obtain ⟨_, r, _, _, _, hretry, hlayers⟩ := World.leave_again hleave
    exact .single (.inr (.of_redrawn hretry hlayers))
  | elsewhere _ hm => exact .single (.inl hm)
  | cutOff _ | begins | ends | wakes | dropsPaused | dropsOperating | time _ _ _ => exact hsame rfl

theorem Journey.unheard (hothers : ∀ w m, others w m → World.Reaches (fun _ => True) w m)
    (hw : p.world.Sound) (h : Journey operation others p log q)
    (hlog : ∀ v ∈ log, v.tells j = false) : World.Unheard others j p.world q.world := by
  induction h with
  | here => exact .refl
  | onward hcame hleg ih =>
    have hsound := hw.reaches (hcame.reaches_any hothers)
    exact (ih fun v hv => hlog v (List.mem_append_left _ hv)).trans
      (hleg.unheard hsound fun v hv => hlog v (List.mem_append_right _ hv))

/-- Nor does an interruption tell any layer anything. -/
theorem Interrupts.unheard {m : World ε ν} {frames : List Frame} {cause : Cause}
    (h : Interrupts p m frames cause) (hw : p.world.Sound) :
    World.Unheard others j p.world (m.unwound frames) := by
  have hstart : World.UntoldAt j p.world m ∧ m.Sound := by
    cases h with
    | @waiting w i inner wait _ =>
      refine ⟨?_, hw.reaches (w.cancel_leads i wait)⟩
      rw [w.cancel_eq_deal]
      exact .deal hw fun _ => rfl
    | panics _ | operating | paused => exact ⟨.of_layers_eq rfl, hw⟩
  exact .trans (.single (.inr hstart.1)) (World.unwound_unheard hstart.2 frames)

/-! ### The interrupted attempt -/

/-- An outcome is told to the layer that the call leaves, and to no other. -/
theorem Leg.tells (hleg : Leg operation others p visits q) {v : Visit} (hv : v ∈ visits)
    (hj : v.tells j) :
    (∃ outcome, p.stand = .leaves outcome) ∧ ∃ f, p.frames = f :: q.frames ∧ f.layer = j := by
  cases hleg with
  | @enters _ _ _ _ _ entry _ | @resumes _ _ _ _ _ _ _ entry _ =>
    cases entry <;> simp only [Visit.answered, List.mem_cons, List.not_mem_nil, or_false] at hv
    all_goals rcases hv with rfl | rfl <;> cases hj
  | leaves _ | breaks _ =>
    cases List.mem_singleton.mp hv
    exact ⟨⟨_, rfl⟩, _, rfl, of_decide_eq_true hj⟩
  | cutOff _ | begins | again _ | gives | dropsWaiting | dropsPaused =>
    cases List.mem_singleton.mp hv
    cases hj
  | ends | wakes | dropsOperating | time _ _ _ | elsewhere _ _ => cases hv

omit [Fault ε] in
/-- Whether a call is on its way in. -/
def Stand.isInward : Stand ε ν → Bool
  | comes _ | waits _ _ _ | pauses | operates _ => true
  | leaves _ | unwinds _ => false

/-- A call on its way in was so before, or is sent in again. -/
theorem Leg.inward (hleg : Leg operation others p visits q) (hq : q.stand.isInward) :
    p.stand.isInward ∨ ∃ depth layer, visits = [.again depth layer] := by
  cases hleg with
  | enters _ | resumes _ | begins | wakes => exact .inl rfl
  | again _ => exact .inr ⟨_, _, rfl⟩
  | time _ _ _ | elsewhere _ _ => exact .inl hq
  | @ends w run frames => exact .inl rfl
  | cutOff _ | leaves _ | breaks _ | gives | dropsWaiting | dropsPaused | dropsOperating => cases hq

/-- A call on its way in has told no layer an outcome since its attempt began. -/
theorem Journey.attempt (h : Journey operation others p log q) (hq : q.stand.isInward) :
    ∃ seen first rest, Journey operation others p seen first ∧
      Journey operation others first rest q ∧ log = seen ++ rest ∧
      (seen = [] ∨ ∃ before depth layer, seen = before ++ [.again depth layer]) ∧
      ∀ v ∈ rest, ∀ j, v.tells j = false := by
  induction h with
  | here => exact ⟨[], p, [], .here, .here, rfl, .inl rfl, nofun⟩
  | @onward q r log visits hcame hleg ih =>
    rcases hleg.inward hq with hinward | ⟨depth, layer, rfl⟩
    · obtain ⟨seen, first, rest, hfirst, hrest, rfl, hseen, huntold⟩ := ih hinward
      refine ⟨seen, first, rest ++ visits, hfirst, hrest.onward hleg, List.append_assoc ..,
        hseen, fun v hv j => ?_⟩
      rcases List.mem_append.mp hv with hv | hv
      · exact huntold v hv j
      · refine Bool.eq_false_iff.mpr fun hj => ?_
        obtain ⟨⟨outcome, houtcome⟩, -⟩ := hleg.tells hv hj
        rw [houtcome] at hinward
        cases hinward
    · exact ⟨_, r, [], hcame.onward hleg, .here, (List.append_nil _).symm,
        .inr ⟨log, depth, layer, rfl⟩, nofun⟩

/-! ### The layers around a call -/

/-- The layers that a call is inside of are those of its path, one inside of the other. -/
def Nested (path : List Nat) : List Frame → Prop
  | [] => True
  | f :: frames => path.drop frames.length = f.layer :: f.inner ∧ Nested path frames

omit [Fault ε] in
/-- The layers that a call has still to get through. -/
def Stand.ahead? : Stand ε ν → Option (List Nat)
  | comes rest => some rest
  | waits i inner _ => some (i :: inner)
  | pauses | operates _ | leaves _ | unwinds _ => none

omit [Fault ε] in
structure Point.Follows (path : List Nat) (p : Point ε ν) : Prop where
  nested : Nested path p.frames
  ahead : ∀ rest, p.stand.ahead? = some rest → path.drop p.frames.length = rest

section Path
variable {path : List Nat}

omit [Timer] [Fault ε] in
theorem Nested.outer {deeper frames : List Frame} (h : Nested path (deeper ++ frames)) :
    Nested path frames := by
  induction deeper with
  | nil => exact h
  | cons f deeper ih => exact ih h.2

omit [Timer] in
theorem Point.Follows.answered {i : Nat} {inner : List Nat} {frames : List Frame}
    (hpath : path.drop frames.length = i :: inner) (hnested : Nested path frames) (m : World ε ν)
    (entry : Entry) : (Point.answered m i inner frames entry).Follows path := by
  cases entry with
  | admitted h =>
    refine ⟨⟨hpath, hnested⟩, fun rest hrest => ?_⟩
    cases hrest
    exact tail_of_drop hpath
  | refused e => exact ⟨hnested, nofun⟩
  | waiting wait =>
    refine ⟨hnested, fun rest hrest => ?_⟩
    cases hrest
    exact hpath

theorem Leg.follows (hp : p.Follows path) (hleg : Leg operation others p visits q) :
    q.Follows path := by
  have hnested := hp.nested
  have hahead := hp.ahead
  cases hleg with
  | enters _ | resumes _ => exact .answered (hahead _ rfl) hnested _ _
  | wakes =>
    refine ⟨hnested, fun rest hrest => ?_⟩
    cases hrest
    exact tail_of_drop hnested.1
  | again _ => exact ⟨hnested, nofun⟩
  | leaves _ | breaks _ | gives | dropsPaused => exact ⟨hnested.2, nofun⟩
  | time _ _ _ | elsewhere _ _ => exact ⟨hnested, hahead⟩
  | @ends w run frames =>
    refine ⟨hnested, fun rest hrest => ?_⟩
    rcases Stand.eq_ofEnding (e := run.ending) rfl with ⟨_, h⟩ | h <;> rw [h] at hrest <;>
      cases hrest
  | cutOff _ | begins | dropsWaiting | dropsOperating => exact ⟨hnested, nofun⟩

theorem Journey.follows {w : World ε ν} (h : Journey operation others ⟨w, .comes path, []⟩ log q) :
    q.Follows path := by
  induction h with
  | here => exact ⟨trivial, fun _ hrest => Option.some.inj hrest⟩
  | onward _ hleg ih => exact hleg.follows ih

/-- How the layers around a call change in one step. -/
theorem Leg.frames_cases (hleg : Leg operation others p visits q) :
    q.frames = p.frames ∨
      (∃ f before, q.frames = f :: p.frames ∧
        visits = before ++ [.admitted p.frames.length f.layer]) ∨
      (∃ f, p.frames = f :: q.frames) ∨
      ∃ f g frames, p.frames = f :: frames ∧ q.frames = g :: frames ∧ f.layer = g.layer := by
  cases hleg with
  | @enters w m i inner frames entry _ =>
    cases entry with
    | admitted h => exact .inr (.inl ⟨_, [.asked frames.length i], rfl, rfl⟩)
    | refused _ | waiting _ => exact .inl rfl
  | @resumes w m i inner frames wait timer entry _ =>
    cases entry with
    | admitted h => exact .inr (.inl ⟨_, [], rfl, rfl⟩)
    | refused _ | waiting _ => exact .inl rfl
  | leaves _ | breaks _ | gives | dropsPaused => exact .inr (.inr (.inl ⟨_, rfl⟩))
  | again _ => exact .inr (.inr (.inr ⟨_, _, _, rfl, rfl, rfl⟩))
  | cutOff _ | begins | ends | wakes | dropsWaiting | dropsOperating | time _ _ _
  | elsewhere _ _ => exact .inl rfl

/-- **A layer that a call is inside of has let it in**, and since then only layers further in have
been told an outcome. -/
theorem Journey.since {w : World ε ν} (h : Journey operation others ⟨w, .comes path, []⟩ log q)
    {deeper outer : List Frame} {f : Frame} (hq : q.frames = deeper ++ f :: outer) :
    ∃ seen a rest,
      Journey operation others ⟨w, .comes path, []⟩ (seen ++ [.admitted outer.length f.layer]) a ∧
        Journey operation others a rest q ∧
        ∀ v ∈ rest, ∀ j, v.tells j → j ∈ path.drop (outer.length + 1) := by
  induction h generalizing deeper f with
  | here => simp at hq
  | @onward q r log visits hcame hleg ih =>
    have htells : ∀ v ∈ visits, ∀ j, v.tells j → j ∈ path.drop (outer.length + 1) := by
      intro v hv j hj
      obtain ⟨-, g, hg, rfl⟩ := hleg.tells hv hj
      have hnested := hcame.follows.nested
      rw [hg] at hnested
      have hlength : outer.length + 1 ≤ r.frames.length := by simp [hq]
      refine List.drop_subset_drop_left path hlength ?_
      rw [hnested.1]
      exact List.mem_cons_self
    have hfurther (deeper : List Frame) {g : Frame} (hq : q.frames = deeper ++ g :: outer)
        (hlayer : g.layer = f.layer) :
        ∃ seen a rest,
          Journey operation others ⟨w, .comes path, []⟩ (seen ++ [.admitted outer.length f.layer])
              a ∧
            Journey operation others a rest r ∧
            ∀ v ∈ rest, ∀ j, v.tells j → j ∈ path.drop (outer.length + 1) := by
      obtain ⟨seen, a, rest, ha, hrest, hdeeper⟩ := ih hq
      rw [hlayer] at ha
      refine ⟨seen, a, rest ++ visits, ha, hrest.onward hleg, fun v hv => ?_⟩
      rcases List.mem_append.mp hv with hv | hv
      · exact hdeeper v hv
      · exact htells v hv
    rcases hleg.frames_cases with hsame | ⟨g, before, hin, hadmitted⟩ | ⟨g, hout⟩ |
      ⟨g, g', frames, hbefore, hafter, hlayer⟩
    · exact hfurther deeper (hsame.symm.trans hq) rfl
    · cases deeper with
      | nil =>
        obtain ⟨rfl, rfl⟩ := List.cons.inj (hin.symm.trans hq)
        refine ⟨log ++ before, r, [], ?_, .here, nofun⟩
        rw [List.append_assoc, ← hadmitted]
        exact hcame.onward hleg
      | cons _ deeper =>
        obtain ⟨-, hframes⟩ := List.cons.inj (hin.symm.trans hq)
        exact hfurther deeper hframes rfl
    · exact hfurther (g :: deeper) (hout.trans (congrArg (g :: ·) hq)) rfl
    · cases deeper with
      | nil =>
        obtain ⟨rfl, rfl⟩ := List.cons.inj (hafter.symm.trans hq)
        exact hfurther [] hbefore hlayer
      | cons _ deeper =>
        obtain ⟨-, rfl⟩ := List.cons.inj (hafter.symm.trans hq)
        exact hfurther (g :: deeper) hbefore rfl

end Path

/-! ### Nothing is leaked -/

/-- A call whose operation panics does not go on. -/
theorem Leg.panics {run : Run ε ν} (hrun : run.ending = .panicked)
    (hleg : Leg operation others p visits q)
    (hp : p.stand = .operates run ∨ p.stand = .unwinds .panicked ∨ p.stand = .unwinds .dropped) :
    q.stand = .operates run ∨ q.stand = .unwinds .panicked ∨ q.stand = .unwinds .dropped := by
  cases hleg with
  | ends =>
    rcases hp with hp | hp | hp <;> cases hp
    dsimp only
    rw [hrun]
    exact .inr (.inl rfl)
  | dropsOperating => exact .inr (.inr rfl)
  | gives | time _ _ _ | elsewhere _ _ => exact hp
  | enters _ | resumes _ | cutOff _ | begins | leaves _ | breaks _ | again _ | wakes
  | dropsWaiting | dropsPaused => rcases hp with hp | hp | hp <;> cases hp

theorem Journey.panics {k : Nat} (hpanics : (operation k).ending = .panicked)
    (h : Journey operation others p log q) (hran : .ran k ∈ log) :
    q.stand = .operates (operation k) ∨ q.stand = .unwinds .panicked ∨
      q.stand = .unwinds .dropped := by
  induction h with
  | here => cases hran
  | @onward q r log visits _ hleg ih =>
    rcases List.mem_append.mp hran with hran | hran
    · exact hleg.panics hpanics (ih hran)
    · cases hleg with
      | begins =>
        cases List.mem_singleton.mp hran
        exact .inl rfl
      | @enters _ _ _ _ _ entry _ | @resumes _ _ _ _ _ _ _ entry _ =>
        cases entry <;> simp [Visit.answered] at hran
      | cutOff _ | leaves _ | breaks _ | again _ | gives | dropsWaiting | dropsPaused =>
        cases List.mem_singleton.mp hran
      | ends | wakes | dropsOperating | time _ _ _ | elsewhere _ _ => cases hran

/-- The runs of the operation are counted. -/
theorem Leg.runs (hleg : Leg operation nobody p visits q) :
    (visits = [.ran p.world.runs] ∧ q.world.runs = p.world.runs + 1) ∨
      (∀ k, .ran k ∉ visits) ∧ q.world.runs = p.world.runs := by
  have hdeal {w m : World ε ν} {i : Nat} {d : Deal ε ν} (hm : m = w.deal i d) :
      m.runs = w.runs := by rw [hm, World.deal_runs]
  cases hleg with
  | begins => exact .inl ⟨rfl, rfl⟩
  | @enters w m i inner frames entry hdoor =>
    refine .inr ⟨fun k hk => ?_, ?_⟩
    · cases entry <;> simp [Visit.answered] at hk
    · rw [Point.answered_world]
      exact hdeal (World.eq_deal_of_enter hdoor)
  | @resumes w m i inner frames wait timer entry hdoor =>
    refine .inr ⟨fun k hk => ?_, ?_⟩
    · cases entry <;> simp [Visit.answered] at hk
    · rw [Point.answered_world]
      exact hdeal (World.eq_deal_of_resumeAt hdoor)
  | @leaves w m i inner h frames outcome hleave | @breaks w m i inner h frames outcome hleave
  | @again w m i n inner h frames outcome wait hleave =>
    exact .inr ⟨by simp, hdeal (World.eq_deal_of_leave hleave)⟩
  | @gives w i inner h frames cause => exact .inr ⟨by simp, hdeal (w.abandon_eq_deal i h)⟩
  | @dropsWaiting w i inner frames wait => exact .inr ⟨by simp, hdeal (w.cancel_eq_deal i wait)⟩
  | cutOff _ | dropsPaused => exact .inr ⟨by simp, rfl⟩
  | ends | wakes | dropsOperating | time _ _ _ => exact .inr ⟨nofun, rfl⟩
  | elsewhere _ h => exact h.elim

/-- A call that nobody disturbs runs its operation as often as is counted meanwhile. -/
theorem Journey.ran_mem_iff (h : Journey operation nobody p log q) :
    p.world.runs ≤ q.world.runs ∧
      ∀ k, .ran k ∈ log ↔ p.world.runs ≤ k ∧ k < q.world.runs := by
  induction h with
  | here => exact ⟨Nat.le_refl _, fun k => ⟨nofun, fun hk => by omega⟩⟩
  | @onward q r log visits _ hleg ih =>
    obtain ⟨hle, hran⟩ := ih
    rcases hleg.runs with ⟨rfl, hruns⟩ | ⟨hnone, hruns⟩
    · refine ⟨by omega, fun k => ?_⟩
      rw [List.mem_append, hran, List.mem_singleton, Visit.ran.injEq]
      omega
    · refine ⟨by omega, fun k => ?_⟩
      rw [List.mem_append, hran, hruns]
      exact or_iff_left (hnone k)

/-- What a call from `w` that is interrupted at `p` leaves behind in `n`. -/
structure Unleaked (operation : Nat → Run ε ν) (others : World ε ν → World ε ν → Prop)
    (path : List Nat) (w : World ε ν) (p : Point ε ν) (n : World ε ν) : Prop where
  /-- The call is taken out of the layers that it is inside of, and out of no others. -/
  unwound : ∃ m frames cause, Interrupts p m frames cause ∧ n = m.unwound frames
  /-- As many permits are in use as before the call, if others keep theirs. -/
  permits : ∀ j, (∀ w m, others w m → m.inUse j = w.inUse j) → n.inUse j = w.inUse j
  /-- Whatever others have done, all permits come back that the call holds. -/
  returned : ∀ j, (held j p.frames : Int) ≤ p.world.inUse j →
    n.inUse j = p.world.inUse j - held j p.frames
  /-- A breaker that was half-open somewhere on the way, say when it admitted the call, and is still
  in the same generation gets one probe back for each time that the call is inside of it, but never
  has more than are permitted. -/
  probes : ∀ seen q rest, Journey operation others ⟨w, .comes path, []⟩ seen q →
    Journey operation others q rest p →
    ∀ (i : Nat) (a b : Breaker ε ν), q.world.layers[i]? = some (.breaker a) → a.state = .halfOpen →
      p.world.layers[i]? = some (.breaker b) → b.cell.generation = a.cell.generation →
        n.layers[i]? = some (.breaker
          { b with
            cell := { b.cell with
              probes := min (b.cell.probes + held i p.frames) b.config.permittedProbes } })
  /-- A permission that the call still waits for is returned. -/
  reservation : ∀ i inner r l, p.stand = .waits i inner (.reservation r) →
    p.world.layers[i]? = some (.limiter l) →
      n.layers[i]? = some (.limiter
        { l with
          waiting := l.waiting - 1
          permissions :=
            if r.granted then min (l.permissions + 1) l.config.limitForPeriod
            else l.permissions })
  /-- No layer is told anything from the beginning of the attempt that is interrupted. -/
  attempt : ∃ seen first rest, Journey operation others ⟨w, .comes path, []⟩ seen first ∧
    Journey operation others first rest p ∧
    (seen = [] ∨ ∃ before depth layer, seen = before ++ [.again depth layer]) ∧
    ∀ j, World.Unheard others j first.world n
  /-- The layers that the call is inside of are the outermost ones of its path, and none is told
  anything from when it has let the call in, unless it is met again further in. -/
  inside : ∀ deeper f outer, p.frames = deeper ++ f :: outer →
    path[outer.length]? = some f.layer ∧
      ∃ seen a rest,
        Journey operation others ⟨w, .comes path, []⟩ (seen ++ [.admitted outer.length f.layer]) a ∧
          Journey operation others a rest p ∧
          (f.layer ∉ path.drop (outer.length + 1) →
            World.Unheard others f.layer a.world n)

omit [Timer] [Fault ε] in
theorem Interrupts.isInward {m : World ε ν} {frames : List Frame} {cause : Cause}
    (h : Interrupts p m frames cause) : p.stand.isInward := by
  cases h <;> rfl

namespace World

/-- **An interrupted call leaks nothing.** -/
theorem interruptions_leak_nothing (operation : Nat → Run ε ν) (path : List Nat) {w : World ε ν}
    (hw : w.Sound) :
    (∃ log stand, stand.ending? = some (call operation path w).2 ∧
      Journey operation nobody ⟨w, .comes path, []⟩ log ⟨(call operation path w).1, stand, []⟩ ∧
      ∀ k, .ran k ∈ log ↔ w.runs ≤ k ∧ k < (call operation path w).1.runs) ∧
    ∀ others : World ε ν → World ε ν → Prop,
      (∀ m e, Underway operation others path w m (.inl e) →
        ∃ log stand, stand.ending? = some e ∧
          Journey operation others ⟨w, .comes path, []⟩ log ⟨m, stand, []⟩) ∧
      (∀ m s, Underway operation others path w m (.inr s) →
        ∃ log, Journey operation others ⟨w, .comes path, []⟩ log
          ⟨m.drop path s, .unwinds .dropped, []⟩) ∧
      ((∀ w m, others w m → Reaches (fun _ => True) w m) →
        ∀ log n stand, Journey operation others ⟨w, .comes path, []⟩ log ⟨n, stand, []⟩ →
          (∀ e k, stand.ending? = some e → .ran k ∈ log → (operation k).ending = .panicked →
            stand = .unwinds .panicked) ∧
          ∀ cause, stand = .unwinds cause → cause ≠ .broken →
            ∃ before p, Journey operation others ⟨w, .comes path, []⟩ before p ∧
              Unleaked operation others path w p n) := by
  refine ⟨?_, fun others => ⟨fun m e hover => ?_, fun m s hsuspended => ?_,
    fun hothers log n stand hcame => ⟨fun e k hending hran hpanics => ?_,
      fun cause hcause hwhole => ?_⟩⟩⟩
  · obtain ⟨log, stand, hending, hcame⟩ := call_journey operation path w []
    exact ⟨log, stand, hending, hcame, hcame.ran_mem_iff.2⟩
  · obtain ⟨log, stand, inside, hstand, hcame⟩ := hover.journey
    cases hstand with
    | ended hending => exact ⟨log, stand, hending, hcame⟩
  · obtain ⟨log, stand, inside, hstand, hcame⟩ := hsuspended.journey
    cases hstand with
    | suspended hstand =>
      obtain ⟨rest, hdropped⟩ := drop_journey operation hstand m
      exact ⟨_, hcame.trans (hdropped.mono fun _ _ h => h.elim)⟩
  · rcases hcame.panics hpanics hran with rfl | hstand | rfl
    · cases hending
    · exact hstand
    · cases hending
  · obtain ⟨before, p, m, given, hbefore, hinterrupts, hn⟩ := hcame.interrupted hcause hwhole
    rw [List.append_nil] at hinterrupts
    dsimp only at hn
    subst hn
    have hsound {q : Point ε ν} {seen : List Visit}
        (hseen : Journey operation others ⟨w, .comes path, []⟩ seen q) : q.world.Sound :=
      hw.reaches (hseen.reaches_any hothers)
    have hunheard {q : Point ε ν} {seen rest : List Visit} {j : Nat}
        (hseen : Journey operation others ⟨w, .comes path, []⟩ seen q)
        (hrest : Journey operation others q rest p) (htells : ∀ v ∈ rest, v.tells j = false) :
        Unheard others j q.world (m.unwound given) :=
      (hrest.unheard hothers (hsound hseen) htells).trans (hinterrupts.unheard (hsound hbefore))
    have hfits := hbefore.fits hothers (.start w path)
    obtain ⟨_, hgiven⟩ := hinterrupts.journey operation
    refine ⟨before, p, hbefore,
      { unwound := ⟨m, given, cause, hinterrupts, rfl⟩
        permits := fun j hkept => ?_
        returned := fun j hle => hgiven.inUse_outside (fun _ _ h => h.elim) (fun _ _ h => h.elim)
          hfits hle rfl
        probes := fun seen q rest hseen hrest i a b ha hopen hb hsame => ?_
        reservation := fun i inner r l hstand hl => hinterrupts.returned hfits hstand hl
        attempt := ?_
        inside := fun deeper f outer hframes => ⟨?_, ?_⟩ }⟩
    · have hrestored := hcame.inUse_outside hothers hkept (.start w path)
        (hw.inUse_nonneg j) rfl
      exact hrestored.trans (Int.sub_zero _)
    · have ha' : a.Sound := hsound hseen i _ ha
      have hb' : b.Sound := hsound hbefore i _ hb
      have hstill : b.state = .halfOpen :=
        (((hrest.reaches_any hothers).later ha'.config ha hb).state hsame).trans hopen
      have hback := hinterrupts.regained hfits hb' hb
      rwa [Breaker.regained, if_pos hstill] at hback
    · obtain ⟨seen, first, rest, hfirst, hrest, -, hseen, htells⟩ :=
        hbefore.attempt hinterrupts.isInward
      exact ⟨seen, first, rest, hfirst, hrest, hseen,
        fun j => hunheard hfirst hrest fun v hv => htells v hv j⟩
    · have hnested := hbefore.follows.nested
      rw [hframes] at hnested
      rw [← List.head?_drop, hnested.outer.1]
      rfl
    · obtain ⟨seen, a, rest, ha, hrest, htells⟩ := hbefore.since hframes
      refine ⟨seen, a, rest, ha, hrest, fun honce => hunheard ha hrest fun v hv => ?_⟩
      exact Bool.eq_false_iff.mpr fun hj => honce (htells v hv _ hj)

end World

end Journeys

namespace World

/-- A bulkhead, a breaker and a limiter as they are built. -/
def pier : World Error Nat :=
  let window : Window := { calls := .count (.empty 100), size := 100, minimumCalls := 100 }
  { layers :=
      [.bulkhead { name := "berths", config := {}, available := 25 },
        .breaker
          { name := "gate", config := {}
            cell :=
              { state := .closed, generation := 0, window, enteredAt := 0, openUntil := 0
                attempts := 0, probes := 10 } },
        .limiter
          { name := "tide", config := .perSecond 1, origin := 0, permissions := 1 }] }

/-- The breaker is half-open, and the permission of this cycle is gone. -/
def harbour : World Error Nat := ((pier.act 1 (.force .halfOpen)).1.act 2 .drain).1

theorem harbour_sound [Timer] : harbour.Sound := by
  refine .of_built (w := pier) (P := fun _ => True) (fun i layer hi => ?_) ?_
  · have hlayer := List.mem_of_getElem? hi
    simp only [pier, List.mem_cons, List.not_mem_nil, or_false] at hlayer
    rcases hlayer with rfl | rfl | rfl
    · exact .bulkhead (show Bulkhead.new "berths" {} = _ from rfl)
    · exact .breaker (show Breaker.new "gate" {} 0 = _ from rfl)
    · exact .limiter (show Limiter.new "tide" (.perSecond 1) 0 = _ from rfl)
  · rw [harbour, act_eq_deal, act_eq_deal]
    exact (Relation.ReflTransGen.single (.deal 1 trivial)).tail (.deal 2 trivial)

def mooring (_ : Nat) : Run Error Nat := { ending := .returned 1 }

def wreck (_ : Nat) : Run Error Nat := { ending := .panicked }

/-- A call is dropped that waits for the next cycle with a permit and a probe in its hands, and
another one, behind the bulkhead and the breaker only, panics. -/
theorem harbour_leaks_nothing :
    (∃ m s p n, start mooring [0, 1, 2] harbour = (m, .inr s) ∧ n = m.drop [0, 1, 2] s ∧
      Unleaked mooring nobody [0, 1, 2] harbour p n ∧ m.inUse 0 = 1 ∧ n.inUse 0 = 0) ∧
    ∃ p n, call wreck [0, 1] harbour = (n, .panicked) ∧
      Unleaked wreck nobody [0, 1] harbour p n ∧ n.inUse 0 = 0 := by
  have hnone : harbour.inUse 0 = 0 := by decide +kernel
  constructor
  · obtain ⟨-, hall⟩ := interruptions_leak_nothing mooring [0, 1, 2] harbour_sound
    obtain ⟨-, hdropped, hleaks⟩ := hall nobody
    have hwaits : (start mooring [0, 1, 2] harbour).2.isRight ∧
        (start mooring [0, 1, 2] harbour).1.inUse 0 = 1 := by
      decide +kernel
    have hstarted : Underway mooring nobody [0, 1, 2] harbour (start mooring [0, 1, 2] harbour).1
        (start mooring [0, 1, 2] harbour).2 := .started
    rcases hstart : start mooring [0, 1, 2] harbour with ⟨m, e | s⟩
    · rw [hstart] at hwaits
      cases hwaits.1
    · rw [hstart] at hwaits hstarted
      obtain ⟨log, hcame⟩ := hdropped m s hstarted
      obtain ⟨before, p, -, hunleaked⟩ :=
        (hleaks (fun _ _ h => h.elim) log _ _ hcame).2 .dropped rfl nofun
      have hback := hunleaked.permits 0 fun _ _ h => h.elim
      exact ⟨m, s, p, _, rfl, rfl, hunleaked, hwaits.2, hback.trans hnone⟩
  · obtain ⟨⟨log, stand, hending, hcame, hran⟩, hall⟩ :=
      interruptions_leak_nothing wreck [0, 1] harbour_sound
    obtain ⟨-, -, hleaks⟩ := hall nobody
    have hpanics : (call wreck [0, 1] harbour).2 = .panicked ∧
        harbour.runs = 0 ∧ (call wreck [0, 1] harbour).1.runs = 1 := by
      decide +kernel
    obtain ⟨hpanicked, hunrun, hrun⟩ := hpanics
    have hranOnce : .ran 0 ∈ log := (hran 0).mpr ⟨by omega, by omega⟩
    obtain ⟨hstand, hunleaked⟩ := hleaks (fun _ _ h => h.elim) log _ _ hcame
    obtain ⟨before, p, -, hunleaked⟩ :=
      hunleaked .panicked (hstand _ 0 hending hranOnce rfl) nofun
    have hback := hunleaked.permits 0 fun _ _ h => h.elim
    exact ⟨p, _, Prod.ext rfl hpanicked, hunleaked, hback.trans hnone⟩

end World

end FaultTolerance.Stack
