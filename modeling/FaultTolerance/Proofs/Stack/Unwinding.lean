import FaultTolerance.Proofs.Limiter.Cancellation
import FaultTolerance.Proofs.Stack.Holdings
import FaultTolerance.Proofs.Stack.Trips

/-! What a call that is broken off gives back.

A call holds something of every layer that it is inside of (`Point.Fits`), and what it holds is out
of the layer (`Journey.inUse_eq`). When its operation panics or it is dropped (`Interrupts`), it is
taken out of all these layers, from the inside out, and of no other (`Journey.interrupted`). -/
namespace FaultTolerance.Stack
variable {ε ν : Type}

/-! ### Permits -/

namespace World

/-- The permits that are out of the instance at a position. -/
def inUse (w : World ε ν) (j : Nat) : Int := (w.layers[j]?.map Layer.inUse).getD 0

/-- Whether the instance at a position gives permits. -/
def Lends (w : World ε ν) (j : Nat) : Prop :=
  ∃ kind, w.layers[j]?.map Layer.kind = some kind ∧ kind.givesPermits

/-- What all instances that can be built keep. -/
def Sound (w : World ε ν) : Prop := w.All fun _ layer => layer.Sound

theorem inUse_of_getElem? {w : World ε ν} {j : Nat} {layer : Layer ε ν}
    (hj : w.layers[j]? = some layer) : w.inUse j = layer.inUse := by
  simp only [inUse, hj, Option.map_some, Option.getD_some]

theorem Sound.inUse_nonneg {w : World ε ν} (hw : w.Sound) (j : Nat) : 0 ≤ w.inUse j := by
  cases hj : w.layers[j]? with
  | none => simp [inUse, hj]
  | some layer =>
    rw [inUse_of_getElem? hj]
    exact (hw j layer hj).inUse_nonneg

/-- Who gives no permits has none out. -/
theorem inUse_of_not_lends {w : World ε ν} {j : Nat} (h : ¬ w.Lends j) : w.inUse j = 0 := by
  cases hj : w.layers[j]? with
  | none => simp [inUse, hj]
  | some layer =>
    rw [inUse_of_getElem? hj]
    cases layer with
    | bulkhead b => exact absurd ⟨_, congrArg (·.map Layer.kind) hj, rfl⟩ h
    | adaptive a => exact absurd ⟨_, congrArg (·.map Layer.kind) hj, rfl⟩ h
    | breaker _ | limiter _ | retry _ => rfl

theorem put_inUse_self {w : World ε ν} {i : Nat} {layer : Layer ε ν}
    (hi : w.layers[i]? = some layer) (next : Layer ε ν) (reports : List Report) :
    (w.put i next reports).inUse i = next.inUse := by
  obtain ⟨hlt, -⟩ := List.getElem?_eq_some_iff.mp hi
  simp only [inUse, put_layers, List.getElem?_set_self hlt, Option.map_some, Option.getD_some]

/-- A retry that uses a draw gives nothing out. -/
theorem inUse_redrawn {w m : World ε ν} {i : Nat} {r : Retry ε ν} {draws : Draws}
    (hi : w.layers[i]? = some (.retry r))
    (h : m.layers = w.layers.set i (.retry { r with draws })) (j : Nat) :
    m.inUse j = w.inUse j := by
  obtain ⟨hlt, -⟩ := List.getElem?_eq_some_iff.mp hi
  simp only [inUse, h]
  by_cases hij : i = j
  · subst hij
    rw [List.getElem?_set_self hlt, hi]
    rfl
  · rw [List.getElem?_set_ne hij]

section Deals
variable [Timer] [Fault ε] {w m : World ε ν} {i j timer : Nat} {wait : Wait} {h : Hold}
  {entry : Entry}

theorem deal_inUse_ne (hij : i ≠ j) (d : Deal ε ν) : (w.deal i d).inUse j = w.inUse j := by
  simp only [inUse, w.deal_getElem?_ne hij]

omit [Timer] [Fault ε] in
theorem Lends.getElem? (h : w.Lends j) :
    ∃ layer, w.layers[j]? = some layer ∧ layer.kind.givesPermits := by
  obtain ⟨kind, hkind, hgives⟩ := h
  obtain ⟨layer, hj, rfl⟩ := Option.map_eq_some_iff.mp hkind
  exact ⟨layer, hj, hgives⟩

theorem Reaches.lends_iff {P : Deal ε ν → Prop} (h : Reaches P w m) :
    m.Lends j ↔ w.Lends j := by
  simp only [Lends, h.kind_eq]

theorem Sound.reaches {P : Deal ε ν → Prop} (hw : w.Sound) (h : Reaches P w m) : m.Sound :=
  h.all (fun now timer _ d layer _ => layer.sound_deal now timer d) hw

/-- Instances that have been built once are sound, whatever has been done with them since. -/
theorem Sound.of_built {P : Deal ε ν → Prop} (hbuilt : w.All fun _ layer => layer.Built)
    (h : Reaches P w m) : m.Sound :=
  Sound.reaches (fun i layer hi => (hbuilt i layer hi).sound) h

theorem enter_inUse (hlends : w.Lends j) (hdoor : w.enter i = (m, entry)) :
    m.inUse j = w.inUse j + if i = j ∧ entry.isAdmitted then 1 else 0 := by
  by_cases hij : i = j
  · subst hij
    obtain ⟨layer, hi, hgives⟩ := hlends.getElem?
    obtain ⟨rfl, rfl⟩ := Prod.mk.inj ((enter_of_getElem? hi).symm.trans hdoor)
    rw [put_inUse_self hi, inUse_of_getElem? hi, layer.enter_inUse w.now w.timer hgives]
    simp only [true_and]
  · rw [eq_deal_of_enter hdoor, deal_inUse_ne hij, if_neg fun hboth => hij hboth.1, Int.add_zero]

theorem resumeAt_inUse (hlends : w.Lends j) (hdoor : w.resumeAt i timer wait = (m, entry)) :
    m.inUse j = w.inUse j + if i = j ∧ entry.isAdmitted then 1 else 0 := by
  by_cases hij : i = j
  · subst hij
    obtain ⟨layer, hi, hgives⟩ := hlends.getElem?
    obtain ⟨rfl, rfl⟩ := Prod.mk.inj ((resumeAt_of_getElem? hi timer wait).symm.trans hdoor)
    rw [put_inUse_self hi, inUse_of_getElem? hi, layer.resume_inUse w.now timer wait hgives]
    simp only [true_and]
  · rw [eq_deal_of_resumeAt hdoor, deal_inUse_ne hij, if_neg fun hboth => hij hboth.1, Int.add_zero]

omit [Timer] [Fault ε] in
theorem cancel_inUse (w : World ε ν) (i j : Nat) (wait : Wait) :
    (w.cancel i wait).inUse j = w.inUse j := by
  cases hi : w.layers[i]? with
  | none => simp only [cancel, hi]
  | some layer =>
    simp only [cancel, hi]
    by_cases hij : i = j
    · subst hij
      rw [put_inUse_self hi, inUse_of_getElem? hi, Layer.cancel_inUse]
    · simp only [inUse, put_layers, List.getElem?_set_ne hij]

omit [Timer] in
theorem leave_inUse {exit : Exit} {outcome : Except ε ν} (hlends : w.Lends i)
    (hfits : ∀ kind, w.layers[i]?.map Layer.kind = some kind → h.fits kind)
    (hpos : 0 < w.inUse i) (hleave : w.leave i h outcome = (m, exit)) :
    m.inUse i = w.inUse i - 1 := by
  obtain ⟨layer, hi, hgives⟩ := hlends.getElem?
  rw [inUse_of_getElem? hi] at hpos ⊢
  obtain ⟨rfl, -⟩ := Prod.mk.inj ((leave_of_getElem? hi h outcome).symm.trans hleave)
  rw [put_inUse_self hi]
  exact layer.leave_inUse w.now outcome hgives (hfits _ (congrArg (·.map Layer.kind) hi)) hpos

omit [Timer] [Fault ε] in
theorem abandon_inUse (hlends : w.Lends i) (hpos : 0 < w.inUse i) :
    (w.abandon i h).inUse i = w.inUse i - 1 := by
  obtain ⟨layer, hi, hgives⟩ := hlends.getElem?
  rw [inUse_of_getElem? hi] at hpos ⊢
  simp only [abandon, hi]
  rw [put_inUse_self hi, layer.abandon_inUse hgives hpos]

end Deals

end World

/-! ### What a call holds -/

/-- How often a call is inside of an instance. -/
def held (j : Nat) (frames : List Frame) : Nat := frames.countP (·.layer = j)

theorem held_cons (j : Nat) (f : Frame) (frames : List Frame) :
    held j (f :: frames) = held j frames + if f.layer = j then 1 else 0 := by
  simp only [held, List.countP_cons, decide_eq_true_eq]

variable [Timer] [Fault ε] {operation : Nat → Run ε ν} {others : World ε ν → World ε ν → Prop}
  {p q : Point ε ν} {log visits : List Visit}

omit [Timer] in
theorem held_answered (w : World ε ν) (i j : Nat) (inner : List Nat) (frames : List Frame)
    (entry : Entry) :
    held j (Point.answered w i inner frames entry).frames =
      held j frames + if i = j ∧ entry.isAdmitted then 1 else 0 := by
  cases entry <;> simp [Point.answered, held_cons, Entry.isAdmitted]

omit [Fault ε] in
/-- What a call holds of a layer is what layers of that kind give. -/
def Frame.Fits (w : World ε ν) (f : Frame) : Prop :=
  ∀ kind, w.layers[f.layer]?.map Layer.kind = some kind → f.hold.fits kind

omit [Fault ε] in
structure Point.Fits (p : Point ε ν) : Prop where
  holds : ∀ f ∈ p.frames, f.Fits p.world
  /-- Only a retry lets a call pause. -/
  paused : p.stand = .pauses → ∀ f, p.frames.head? = some f → ∃ count, f.hold = .attempts count
  /-- A call books one permission at a time. -/
  booked : ∀ i inner r, p.stand = .waits i inner (.reservation r) → r.permits = 1

omit [Timer] [Fault ε] in
theorem Hold.not_givesPermits {count : Nat} {kind : Kind} (h : (attempts count).fits kind) :
    kind = .retry := by
  cases kind <;> first | rfl | cases h

omit [Fault ε] in
theorem World.enter_fits {w m : World ε ν} {i : Nat} {h : Hold} {kind : Kind}
    (hdoor : w.enter i = (m, .admitted h)) (hkind : w.layers[i]?.map Layer.kind = some kind) :
    h.fits kind := by
  obtain ⟨layer, hi, rfl⟩ := Option.map_eq_some_iff.mp hkind
  obtain ⟨-, hentry⟩ := Prod.mk.inj ((enter_of_getElem? hi).symm.trans hdoor)
  exact layer.enter_fits w.now w.timer hentry

omit [Fault ε] in
theorem World.resumeAt_fits {w m : World ε ν} {i timer : Nat} {wait : Wait} {h : Hold} {kind : Kind}
    (hdoor : w.resumeAt i timer wait = (m, .admitted h))
    (hkind : w.layers[i]?.map Layer.kind = some kind) : h.fits kind := by
  obtain ⟨layer, hi, rfl⟩ := Option.map_eq_some_iff.mp hkind
  obtain ⟨-, hentry⟩ := Prod.mk.inj ((resumeAt_of_getElem? hi timer wait).symm.trans hdoor)
  exact layer.resume_fits w.now timer wait hentry

omit [Fault ε] in
/-- A call waits at a limiter for one permission. -/
theorem Layer.enter_booked (layer : Layer ε ν) (now timer : Nat) {r : Limiter.Pending}
    (h : (layer.enter now timer).2.2 = .waiting (.reservation r)) : r.permits = 1 := by
  cases layer with
  | limiter l =>
    obtain ⟨p, hanswer, hp⟩ := ofReservation_waiting h
    cases hp
    exact Limiter.start_permits hanswer
  | breaker b =>
    simp only [enter] at h
    split at h <;> cases h
  | bulkhead b | adaptive a =>
    obtain ⟨_, _, hp⟩ := ofPermit_waiting h
    cases hp
  | retry r => cases h

omit [Fault ε] in
theorem World.enter_booked {w m : World ε ν} {i : Nat} {r : Limiter.Pending}
    (hdoor : w.enter i = (m, .waiting (.reservation r))) : r.permits = 1 := by
  cases hi : w.layers[i]? with
  | none =>
    simp only [enter, hi] at hdoor
    cases hdoor
  | some layer =>
    obtain ⟨-, hentry⟩ := Prod.mk.inj ((enter_of_getElem? hi).symm.trans hdoor)
    exact layer.enter_booked w.now w.timer hentry

theorem Leg.fits (hothers : ∀ w m, others w m → World.Reaches (fun _ => True) w m)
    (hp : p.Fits) (hleg : Leg operation others p visits q) : q.Fits := by
  have hkind := (hleg.reaches (fun _ _ => trivial) hothers).kind_eq
  have hstay {frames : List Frame} (hframes : frames ⊆ p.frames) :
      ∀ f ∈ frames, f.Fits q.world := by
    intro f hf kind hkept
    rw [hkind] at hkept
    exact hp.holds f (hframes hf) kind hkept
  have hmore {f : Frame} {frames : List Frame} (hframes : frames ⊆ p.frames)
      (hf : ∀ kind, p.world.layers[f.layer]?.map Layer.kind = some kind → f.hold.fits kind) :
      ∀ g ∈ f :: frames, g.Fits q.world := by
    intro g hg
    rcases List.mem_cons.mp hg with rfl | hg
    · intro kind hkept
      rw [hkind] at hkept
      exact hf kind hkept
    · exact hstay hframes g hg
  cases hleg with
  | @enters w m i inner frames entry hdoor =>
    cases entry with
    | admitted h =>
      exact ⟨hmore (List.Subset.refl _) fun _ => World.enter_fits hdoor, nofun, nofun⟩
    | refused e => exact ⟨hstay (List.Subset.refl _), nofun, nofun⟩
    | waiting wait =>
      refine ⟨hstay (List.Subset.refl _), nofun, fun _ _ r hr => ?_⟩
      cases hr
      exact World.enter_booked hdoor
  | @resumes w m i inner frames wait timer entry hdoor =>
    cases entry with
    | admitted h =>
      exact ⟨hmore (List.Subset.refl _) fun _ => World.resumeAt_fits hdoor, nofun, nofun⟩
    | refused e => exact ⟨hstay (List.Subset.refl _), nofun, nofun⟩
    | waiting next =>
      obtain ⟨rfl, -⟩ := World.resumeAt_waits hdoor
      refine ⟨hstay (List.Subset.refl _), nofun, fun _ _ r hr => ?_⟩
      cases hr
      exact hp.booked _ _ r rfl
  | @ends w run frames =>
    refine ⟨hstay (List.Subset.refl _), fun hstand => ?_, fun _ _ _ hstand => ?_⟩
    all_goals rcases Stand.eq_ofEnding (e := run.ending) rfl with ⟨_, h⟩ | h <;> simp [h] at hstand
  | @again w m i n inner h frames outcome wait hleave =>
    obtain ⟨count, _, rfl, rfl, -, hretry, -⟩ := World.leave_again hleave
    refine ⟨hmore (List.subset_cons_self _ _) fun kind hkept => ?_, fun _ f hf => ?_, nofun⟩
    · cases (congrArg (·.map Layer.kind) hretry).symm.trans hkept
      rfl
    · cases hf
      exact ⟨_, rfl⟩
  | leaves _ | breaks _ | gives | dropsPaused =>
    exact ⟨hstay (List.subset_cons_self _ _), nofun, nofun⟩
  | cutOff _ | begins | wakes | dropsWaiting | dropsOperating =>
    exact ⟨hstay (List.Subset.refl _), nofun, nofun⟩
  | time _ _ _ | elsewhere _ _ =>
    exact ⟨hstay (List.Subset.refl _), hp.paused, hp.booked⟩

/-- A permit is out for every time that the call is inside of the instance. -/
theorem Leg.inUse_eq {j : Nat} (hothers : ∀ w m, others w m → m.inUse j = w.inUse j)
    (hlends : p.world.Lends j) (hp : p.Fits) (hle : (held j p.frames : Int) ≤ p.world.inUse j)
    (hleg : Leg operation others p visits q) :
    q.world.inUse j - held j q.frames = p.world.inUse j - held j p.frames := by
  have hlet {w m : World ε ν} {i : Nat} (inner : List Nat) (frames : List Frame) {entry : Entry}
      (hm : m.inUse j = w.inUse j + if i = j ∧ entry.isAdmitted then 1 else 0) :
      (Point.answered m i inner frames entry).world.inUse j -
          held j (Point.answered m i inner frames entry).frames =
        w.inUse j - held j frames := by
    rw [Point.answered_world, held_answered, hm]
    split <;> omega
  have hback {w m : World ε ν} {f : Frame} {frames : List Frame}
      (hle : (held j (f :: frames) : Int) ≤ w.inUse j)
      (hself : f.layer = j → 0 < w.inUse j → m.inUse j = w.inUse j - 1)
      (hother : f.layer ≠ j → m.inUse j = w.inUse j) :
      m.inUse j - held j frames = w.inUse j - held j (f :: frames) := by
    rw [held_cons] at hle ⊢
    by_cases hf : f.layer = j
    · rw [if_pos hf] at hle ⊢
      rw [hself hf (by omega)]
      omega
    · rw [if_neg hf, hother hf]
      omega
  cases hleg with
  | @enters w m i inner frames entry hdoor =>
    exact hlet inner frames (World.enter_inUse hlends hdoor)
  | @resumes w m i inner frames wait timer entry hdoor =>
    exact hlet inner frames (World.resumeAt_inUse hlends hdoor)
  | @leaves w m i inner h frames outcome hleave | @breaks w m i inner h frames outcome hleave =>
    refine hback (f := ⟨i, inner, h⟩) hle (fun hi hpos => ?_) fun hi => ?_
    · cases hi
      exact World.leave_inUse hlends (hp.holds _ List.mem_cons_self) hpos hleave
    · rw [World.eq_deal_of_leave hleave, World.deal_inUse_ne hi]
  | @gives w i inner h frames cause =>
    refine hback (f := ⟨i, inner, h⟩) hle (fun hi hpos => ?_) fun hi => ?_
    · cases hi
      exact World.abandon_inUse hlends hpos
    · rw [w.abandon_eq_deal, World.deal_inUse_ne hi]
  | @again w m i n inner h frames outcome wait hleave =>
    obtain ⟨_, r, _, _, _, hretry, hlayers⟩ := World.leave_again hleave
    rw [World.inUse_redrawn hretry hlayers]
    simp only [held_cons]
  | @dropsPaused w f frames =>
    -- The retry that the call pauses in gives no permits.
    have hf : f.layer ≠ j := by
      rintro rfl
      obtain ⟨kind, hkind, hgives⟩ := hlends
      obtain ⟨count, hcount⟩ := hp.paused rfl f rfl
      have hfits := hp.holds f List.mem_cons_self kind hkind
      rw [hcount] at hfits
      rw [Hold.not_givesPermits hfits] at hgives
      cases hgives
    rw [held_cons, if_neg hf, Nat.add_zero]
  | dropsWaiting =>
    dsimp only
    rw [World.cancel_inUse]
  | elsewhere _ hm =>
    dsimp only
    rw [hothers _ _ hm]
  | cutOff _ | begins | ends | wakes | dropsOperating | time _ _ _ => rfl

section Journeys
variable {w : World ε ν} {path : List Nat} {j : Nat}

theorem Journey.fits (hothers : ∀ w m, others w m → World.Reaches (fun _ => True) w m)
    (hp : p.Fits) (h : Journey operation others p log q) : q.Fits := by
  induction h with
  | here => exact hp
  | onward _ hleg ih => exact hleg.fits hothers ih

/-- **What is out of an instance beside what the call holds stays out**, wherever the call goes. -/
theorem Journey.inUse_eq (hothers : ∀ w m, others w m → World.Reaches (fun _ => True) w m)
    (hkept : ∀ w m, others w m → m.inUse j = w.inUse j) (hp : p.Fits)
    (hlends : p.world.Lends j) (hle : (held j p.frames : Int) ≤ p.world.inUse j)
    (h : Journey operation others p log q) :
    q.world.inUse j - held j q.frames = p.world.inUse j - held j p.frames := by
  induction h with
  | here => rfl
  | onward hcame hleg ih =>
    have hreach := hcame.reaches_any hothers
    have hnext := hleg.inUse_eq hkept (hreach.lends_iff.mpr hlends) (hcame.fits hothers hp)
      (by omega)
    omega

/-- A call that comes out of all layers has given all permits back that it held. -/
theorem Journey.inUse_outside (hothers : ∀ w m, others w m → World.Reaches (fun _ => True) w m)
    (hkept : ∀ w m, others w m → m.inUse j = w.inUse j) (hp : p.Fits)
    (hle : (held j p.frames : Int) ≤ p.world.inUse j) (h : Journey operation others p log q)
    (hq : q.frames = []) : q.world.inUse j = p.world.inUse j - held j p.frames := by
  by_cases hlends : p.world.Lends j
  · rw [← h.inUse_eq hothers hkept hp hlends hle, hq]
    exact (Int.sub_zero _).symm
  · have hreach := h.reaches_any hothers
    have hnever : ¬ q.world.Lends j := fun hq => hlends (hreach.lends_iff.mp hq)
    rw [World.inUse_of_not_lends hlends] at hle ⊢
    rw [World.inUse_of_not_lends hnever]
    omega

omit [Timer] [Fault ε] in
theorem Point.Fits.start (w : World ε ν) (path : List Nat) :
    (⟨w, .comes path, []⟩ : Point ε ν).Fits :=
  ⟨nofun, nofun, nofun⟩

end Journeys

/-! ### Interruptions -/

/-- Takes a call out of layers that it is inside of, the innermost first. -/
def World.unwound (w : World ε ν) : List Frame → World ε ν
  | [] => w
  | f :: frames => (w.abandon f.layer f.hold).unwound frames

/-- How a call is interrupted where it stands, with the layers that it is still inside of then. A
retry that waits for its next attempt holds nothing. -/
inductive Interrupts : Point ε ν → World ε ν → List Frame → Cause → Prop
  | panics {w : World ε ν} {run : Run ε ν} {frames : List Frame}
    (hending : run.ending = .panicked) :
    Interrupts ⟨w, .operates run, frames⟩ (w.endRun run).1 frames .panicked
  | operating {w : World ε ν} {run : Run ε ν} {frames : List Frame} :
    Interrupts ⟨w, .operates run, frames⟩ w frames .dropped
  | waiting {w : World ε ν} {i : Nat} {inner : List Nat} {wait : Wait} {frames : List Frame} :
    Interrupts ⟨w, .waits i inner wait, frames⟩ (w.cancel i wait) frames .dropped
  | paused {w : World ε ν} {f : Frame} {frames : List Frame} :
    Interrupts ⟨w, .pauses, f :: frames⟩ w frames .dropped

omit [Timer] [Fault ε] in
theorem World.unwound_append (w : World ε ν) (frames rest : List Frame) :
    w.unwound (frames ++ rest) = (w.unwound frames).unwound rest := by
  induction frames generalizing w with
  | nil => rfl
  | cons f frames ih => exact ih _

/-- **A call that gives up has been interrupted at some point and taken out of the layers it was
inside of there**, and of no others. -/
theorem Journey.interrupted {w : World ε ν} {path : List Nat} {cause : Cause}
    (h : Journey operation others ⟨w, .comes path, []⟩ log q) (hstand : q.stand = .unwinds cause)
    (hcause : cause ≠ .broken) :
    ∃ before p m given, Journey operation others ⟨w, .comes path, []⟩ before p ∧
      Interrupts p m (given ++ q.frames) cause ∧ q.world = m.unwound given := by
  induction h with
  | here => cases hstand
  | @onward q r log visits hcame hleg ih =>
    cases hleg with
    | @enters _ _ _ _ _ entry _ | @resumes _ _ _ _ _ _ _ entry _ => cases entry <;> cases hstand
    | @ends w run frames =>
      obtain ⟨rfl, hending⟩ := Stand.ofEnding_unwinds hstand.symm
      exact ⟨log, _, _, [], hcame, .panics hending, rfl⟩
    | @gives k i inner h frames _ =>
      cases hstand
      obtain ⟨before, p, m, given, hbefore, hinterrupts, hworld⟩ := ih rfl
      refine ⟨before, p, m, given ++ [⟨i, inner, h⟩], hbefore, ?_, ?_⟩
      · rwa [List.append_assoc]
      · rw [World.unwound_append, ← hworld]
        rfl
    | breaks _ =>
      cases hstand
      exact absurd rfl hcause
    | dropsWaiting =>
      cases hstand
      exact ⟨log, _, _, [], hcame, .waiting, rfl⟩
    | dropsPaused =>
      cases hstand
      exact ⟨log, _, _, [], hcame, .paused, rfl⟩
    | dropsOperating =>
      cases hstand
      exact ⟨log, _, _, [], hcame, .operating, rfl⟩
    | time hs _ _ | elsewhere hs _ =>
      cases hstand
      cases hs
    | cutOff _ | begins | leaves _ | again _ | wakes => cases hstand

/-- An interrupted call gives up what it is inside of without anybody's help. -/
theorem Interrupts.journey {m : World ε ν} {frames : List Frame} {cause : Cause}
    (h : Interrupts p m frames cause) (operation : Nat → Run ε ν) :
    ∃ log, Journey operation nobody p log ⟨m.unwound frames, .unwinds cause, []⟩ := by
  have hgives (m : World ε ν) (frames : List Frame) : ∃ log,
      Journey operation nobody ⟨m, .unwinds cause, frames⟩ log
        ⟨m.unwound frames, .unwinds cause, []⟩ := by
    induction frames generalizing m with
    | nil => exact ⟨_, .here⟩
    | cons f frames ih =>
      obtain ⟨log, hrest⟩ := ih (m.abandon f.layer f.hold)
      exact ⟨_, (Journey.single .gives).trans hrest⟩
  obtain ⟨rest, hrest⟩ := hgives m frames
  cases h with
  | @panics w run frames hending =>
    have hends : Leg operation nobody ⟨w, .operates run, frames⟩ []
        ⟨(w.endRun run).1, .unwinds .panicked, frames⟩ := by
      have hleg : Leg operation nobody ⟨w, .operates run, frames⟩ []
          ⟨(w.endRun run).1, .ofEnding run.ending, frames⟩ := .ends
      rwa [hending] at hleg
    exact ⟨_, (Journey.single hends).trans hrest⟩
  | operating => exact ⟨_, (Journey.single .dropsOperating).trans hrest⟩
  | waiting => exact ⟨_, (Journey.single .dropsWaiting).trans hrest⟩
  | paused => exact ⟨_, (Journey.single .dropsPaused).trans hrest⟩

/-! ### What comes back -/

section Deals
variable (w : World ε ν) (i : Nat) {j : Nat} (h : Hold) (wait : Wait)

theorem World.abandon_getElem?_self :
    (w.abandon i h).layers[i]? = w.layers[i]?.map fun layer => (layer.abandon h).1 := by
  rw [abandon_eq_deal, deal_getElem?_self]
  rfl

theorem World.abandon_getElem?_ne (hij : i ≠ j) : (w.abandon i h).layers[j]? = w.layers[j]? := by
  rw [abandon_eq_deal, deal_getElem?_ne w hij]

theorem World.cancel_getElem?_self :
    (w.cancel i wait).layers[i]? = w.layers[i]?.map (·.cancel wait) := by
  rw [cancel_eq_deal, deal_getElem?_self]
  rfl

theorem World.cancel_getElem?_ne (hij : i ≠ j) : (w.cancel i wait).layers[j]? = w.layers[j]? := by
  rw [cancel_eq_deal, deal_getElem?_ne w hij]

end Deals

section Unwound
variable {w m : World ε ν} {i : Nat} {frames : List Frame} {cause : Cause}

/-- A layer that takes nothing back stays as it is. -/
theorem World.unwound_getElem? {layer : Layer ε ν} (hi : w.layers[i]? = some layer)
    (hkept : ∀ h, (layer.abandon h).1 = layer) : (w.unwound frames).layers[i]? = some layer := by
  induction frames generalizing w with
  | nil => exact hi
  | cons f frames ih =>
    refine ih ?_
    by_cases hf : f.layer = i
    · rw [hf, abandon_getElem?_self, hi, Option.map_some, hkept]
    · rw [abandon_getElem?_ne w _ _ hf, hi]

/-- A breaker gets a probe back for every time that the call is inside of it. -/
theorem World.unwound_breaker {b : Breaker ε ν} (hb : b.Sound)
    (hi : w.layers[i]? = some (.breaker b))
    (hfits : ∀ f ∈ frames, f.layer = i → f.hold.fits .breaker) :
    (w.unwound frames).layers[i]? = some (.breaker (b.regained (held i frames))) := by
  induction frames generalizing w b with
  | nil =>
    rw [show held i [] = 0 from rfl, Breaker.regained_zero hb]
    exact hi
  | cons f frames ih =>
    have hrest := fun g hg => hfits g (List.mem_cons_of_mem f hg)
    by_cases hf : f.layer = i
    · have hback : (w.abandon f.layer f.hold).layers[i]? = some (.breaker b.release) := by
        rw [hf, abandon_getElem?_self, hi, Option.map_some]
        have hhold := hfits f List.mem_cons_self hf
        cases hadmission : f.hold with
        | admission start => rfl
        | nothing | permit | inFlight _ | attempts _ =>
          rw [hadmission] at hhold
          cases hhold
      rw [held_cons, if_pos hf, ← Breaker.release_regained hb]
      exact ih hb.release hback hrest
    · rw [held_cons, if_neg hf]
      exact ih hb ((abandon_getElem?_ne w _ _ hf).trans hi) hrest

/-- Every probe that a call holds comes back. -/
theorem Interrupts.regained (h : Interrupts p m frames cause) (hp : p.Fits) {b : Breaker ε ν}
    (hb : b.Sound) (hi : p.world.layers[i]? = some (.breaker b)) :
    (m.unwound frames).layers[i]? = some (.breaker (b.regained (held i p.frames))) := by
  have hfits : ∀ f ∈ p.frames, f.layer = i → f.hold.fits .breaker := by
    rintro f hf rfl
    exact hp.holds f hf .breaker (congrArg (·.map Layer.kind) hi)
  cases h with
  | panics _ | operating => exact World.unwound_breaker hb hi hfits
  | @waiting w k inner wait _ =>
    refine World.unwound_breaker hb ?_ hfits
    by_cases hk : k = i
    · rw [hk, World.cancel_getElem?_self, hi]
      rfl
    · rw [World.cancel_getElem?_ne w _ _ hk, hi]
  | @paused w f _ =>
    -- The call pauses in a retry, which is no breaker.
    have hf : f.layer ≠ i := by
      intro hf
      obtain ⟨count, hcount⟩ := hp.paused rfl f rfl
      have hhold := hfits f List.mem_cons_self hf
      rw [hcount] at hhold
      cases hhold
    rw [held_cons, if_neg hf]
    exact World.unwound_breaker hb hi fun g hg => hfits g (List.mem_cons_of_mem f hg)

/-- So does the permission that it waits for, if it has been granted one. -/
theorem Interrupts.returned (h : Interrupts p m frames cause) (hp : p.Fits) {inner : List Nat}
    {r : Limiter.Pending} (hstand : p.stand = .waits i inner (.reservation r)) {l : Limiter}
    (hi : p.world.layers[i]? = some (.limiter l)) :
    (m.unwound frames).layers[i]? = some (.limiter
      { l with
        waiting := l.waiting - 1
        permissions :=
          if r.granted then min (l.permissions + 1) l.config.limitForPeriod
          else l.permissions }) := by
  have hone := hp.booked i inner r hstand
  cases h with
  | panics _ | operating | paused => cases hstand
  | waiting =>
    cases hstand
    refine World.unwound_getElem? ?_ fun _ => rfl
    rw [World.cancel_getElem?_self, hi, Option.map_some]
    simp only [Layer.cancel, Limiter.Pending.cancel, Limiter.refund, hone, Int.natCast_one]
    split <;> rfl

end Unwound

end FaultTolerance.Stack
