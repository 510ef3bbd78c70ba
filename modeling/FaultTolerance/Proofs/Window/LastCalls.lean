import FaultTolerance.Proofs.Window.Contents
import FaultTolerance.Window.Basic
import Mathlib.Data.List.DropRight

/-! A window by number counts the last calls.

Its running counts are those of the calls that its ring holds (`CountWindow.Tracks`): a call that
the ring gives up is taken out of the counts, which still contain it, and a new one is added. After
any use of the window these are the last calls since it was emptied, up to its size
(`counts_last_calls`). -/
namespace FaultTolerance

/-! ### Counts -/

namespace Totals

/-- Counts that can be taken out of others without going below zero. -/
structure Within (t u : Totals) : Prop where
  calls : t.calls ≤ u.calls
  failed : t.failed ≤ u.failed
  slow : t.slow ≤ u.slow
  slowFailed : t.slowFailed ≤ u.slowFailed
  nanos : t.nanos ≤ u.nanos

/-- Counts that some calls can have. -/
structure Coherent (t : Totals) : Prop where
  slowFailed_le_failed : t.slowFailed ≤ t.failed
  slowFailed_le_slow : t.slowFailed ≤ t.slow
  failed_le_calls : t.failed ≤ t.calls
  slow_le_calls : t.slow ≤ t.calls

theorem within_add (t u : Totals) : u.Within (t.add u) where
  calls := Nat.le_add_left ..
  failed := Nat.le_add_left ..
  slow := Nat.le_add_left ..
  slowFailed := Nat.le_add_left ..
  nanos := Nat.le_add_left ..

theorem discard_record (t : Totals) (m : Measurement) : (t.record m).discard m = t :=
  remove_add t (ofMeasurement m)

theorem add_right_comm (t u v : Totals) : (t.add u).add v = (t.add v).add u := by
  rw [add_assoc, add_comm u, ← add_assoc]

theorem ofList_concat (ms : List Measurement) (m : Measurement) :
    ofList (ms ++ [m]) = (ofList ms).record m := by
  unfold ofList
  rw [List.foldl_append]
  rfl

/-- It does not matter when a part is added. -/
theorem foldl_add (t u : Totals) (ts : List Totals) :
    ts.foldl add (t.add u) = (ts.foldl add t).add u := by
  induction ts generalizing t with
  | nil => rfl
  | cons v rest ih => rw [List.foldl_cons, add_right_comm, ih, List.foldl_cons]

theorem sum_cons (t : Totals) (ts : List Totals) : sum (t :: ts) = (sum ts).add t :=
  foldl_add {} t ts

theorem ofList_eq_sum (ms : List Measurement) : ofList ms = sum (ms.map ofMeasurement) := by
  unfold ofList sum
  rw [List.foldl_map]
  rfl

theorem ofList_cons (m : Measurement) (ms : List Measurement) :
    ofList (m :: ms) = (ofList ms).record m := by
  rw [ofList_eq_sum, List.map_cons, sum_cons, ← ofList_eq_sum]
  rfl

theorem Coherent.record {t : Totals} (h : t.Coherent) (m : Measurement) :
    (t.record m).Coherent := by
  obtain ⟨hfailed, hslow, hcalls, hslowCalls⟩ := h
  obtain ⟨outcome, duration⟩ := m
  cases outcome <;> constructor <;>
    simp [Totals.record, add, ofMeasurement, Outcome.isFailure, Outcome.isSlow] <;> omega

theorem coherent_ofList (ms : List Measurement) : (ofList ms).Coherent := by
  induction ms with
  | nil => exact ⟨Nat.le_refl _, Nat.le_refl _, Nat.le_refl _, Nat.le_refl _⟩
  | cons m ms ih =>
    rw [ofList_cons]
    exact ih.record m

end Totals

/-! ### The last elements of a list -/

section Last
variable {α : Type} {l rest : List α} {n : Nat} {a oldest : α}

theorem rtake_concat_of_room (h : (l.rtake n).length < n) :
    (l ++ [a]).rtake n = l.rtake n ++ [a] := by
  unfold List.rtake at *
  rw [List.length_drop] at h
  have hall : l.length - n = 0 := by omega
  have hmore : (l ++ [a]).length - n = 0 := by
    simp
    omega
  rw [hall, hmore]
  rfl

theorem rtake_concat_of_full (h : l.rtake n = oldest :: rest) (hfull : rest.length + 1 = n) :
    (l ++ [a]).rtake n = rest ++ [a] := by
  subst hfull
  rw [List.rtake_concat_succ]
  unfold List.rtake at *
  have hlength := congrArg List.length h
  simp only [List.length_drop, List.length_cons] at hlength
  have hrest := congrArg List.tail h
  rw [List.tail_drop, List.tail_cons] at hrest
  have hnext : l.length - rest.length = l.length - (rest.length + 1) + 1 := by omega
  rw [hnext, hrest]

end Last

/-! ### Windows by number -/

/-- A window over some number of calls that has counted those of a list, and holds them. -/
structure CountWindow.Tracks (c : CountWindow) (size : Nat) (ms : List Measurement) : Prop where
  holds : c.ring.Holds size ms
  total_eq : c.total = .ofList ms

namespace CountWindow.Tracks
variable {c : CountWindow} {size : Nat} {ms : List Measurement}

theorem empty (hsize : 0 < size) : (CountWindow.empty size).Tracks size [] :=
  ⟨.empty hsize, rfl⟩

theorem reset (h : c.Tracks size ms) : c.reset.Tracks size [] := ⟨h.holds.clear, rfl⟩

theorem recount_eq (h : c.Tracks size ms) : c.recount = .ofList ms := by
  unfold recount
  rw [h.holds.toList_eq]

/-- What the ring would give up is in the counts. -/
theorem evicted (h : c.Tracks size ms) {m oldest : Measurement}
    (hevicted : (c.ring.insert m).2 = some oldest) :
    (Totals.ofMeasurement oldest).Within c.total := by
  rcases Nat.lt_or_ge ms.length size with hroom | hfull
  · rw [(h.holds.insert_of_room hroom m).2] at hevicted
    cases hevicted
  · have hlength := Nat.le_antisymm h.holds.length_le hfull
    cases ms with
    | nil => exact absurd h.holds.head_lt (by simp at hlength; omega)
    | cons first rest =>
      rw [(h.holds.insert_of_full hlength m).2] at hevicted
      cases hevicted
      rw [h.total_eq, Totals.ofList_cons]
      exact Totals.within_add _ _

theorem record (h : c.Tracks size (ms.rtake size)) (m : Measurement) :
    (c.record m).Tracks size ((ms ++ [m]).rtake size) := by
  rcases Nat.lt_or_ge (ms.rtake size).length size with hroom | hfull
  · obtain ⟨hholds, hnone⟩ := h.holds.insert_of_room hroom m
    have hrecord : c.record m = ⟨(c.ring.insert m).1, c.total.record m⟩ := by
      unfold CountWindow.record
      split
      · next hinsert => rw [hinsert] at hnone; cases hnone
      · next hinsert => rw [hinsert]
    rw [hrecord, rtake_concat_of_room hroom]
    exact ⟨hholds, by rw [h.total_eq, Totals.ofList_concat]⟩
  · have hlength := Nat.le_antisymm h.holds.length_le hfull
    cases hrecent : ms.rtake size with
    | nil =>
      rw [hrecent] at hlength
      exact absurd h.holds.head_lt (by simp at hlength; omega)
    | cons oldest rest =>
      rw [hrecent] at h hlength
      obtain ⟨hholds, hgiven⟩ := h.holds.insert_of_full hlength m
      have hrecord : c.record m = ⟨(c.ring.insert m).1, (c.total.discard oldest).record m⟩ := by
        unfold CountWindow.record
        split
        · next hinsert => rw [hinsert] at hgiven ⊢; cases hgiven; rfl
        · next hinsert => rw [hinsert] at hgiven; cases hgiven
      rw [hrecord, rtake_concat_of_full hrecent hlength]
      refine ⟨hholds, ?_⟩
      rw [h.total_eq, Totals.ofList_cons, Totals.discard_record, Totals.ofList_concat]

end CountWindow.Tracks

/-! ### The use of a window -/

namespace Window

/-- What is done to a window, with the reading of the clock. -/
inductive Use where
  | record (now : Nat) (m : Measurement)
  /-- Reads the counts. -/
  | look (now : Nat)
  | recount
  | reset (now : Nat)

def use (w : Window) : Use → Window
  | .record now m => w.record now m
  | .look now => w.refresh now
  | .recount => w
  | .reset now => w.reset now

/-- The measurements since the window was last emptied, after one more use. -/
def remember (ms : List Measurement) : Use → List Measurement
  | .record _ m => ms ++ [m]
  | .reset _ => []
  | .look _ | .recount => ms

/-- The measurements that were recorded since the window was last emptied, the oldest first. -/
def recorded (uses : List Use) : List Measurement := uses.foldl remember []

/-- A window by number that has counted the last of the given measurements. -/
def CountsLast (w : Window) (size : Nat) (ms : List Measurement) : Prop :=
  ∃ c, w.calls = .count c ∧ c.Tracks size (ms.rtake size)

theorem countBased_eq {size : Nat} (hsize : 0 < size) (minimumCalls : Nat) :
    countBased size minimumCalls = .ok { calls := .count (.empty size), size, minimumCalls } := by
  unfold countBased Ring.ofCapacity
  rw [if_neg (Nat.ne_of_gt hsize)]
  rfl

theorem CountsLast.after_use {w : Window} {size : Nat} {ms : List Measurement}
    (h : w.CountsLast size ms) (u : Use) : (w.use u).CountsLast size (remember ms u) := by
  obtain ⟨c, hcalls, htracks⟩ := h
  cases u with
  | record now m =>
    refine ⟨c.record m, ?_, htracks.record m⟩
    show (w.record now m).calls = _
    unfold Window.record
    rw [hcalls]
  | look now =>
    refine ⟨c, ?_, htracks⟩
    show (w.refresh now).calls = _
    unfold refresh
    rw [hcalls]
    exact hcalls
  | recount => exact ⟨c, hcalls, htracks⟩
  | reset now =>
    refine ⟨c.reset, ?_, ?_⟩
    · show (w.reset now).calls = _
      unfold Window.reset
      rw [hcalls]
    · show c.reset.Tracks size (([] : List Measurement).rtake size)
      rw [List.rtake_nil]
      exact htracks.reset

theorem CountsLast.after_uses {w : Window} {size : Nat} {ms : List Measurement}
    (h : w.CountsLast size ms) (us : List Use) :
    (us.foldl use w).CountsLast size (us.foldl remember ms) := by
  induction us generalizing w ms with
  | nil => exact h
  | cons u rest ih => exact ih (h.after_use u)

theorem use_minimumCalls (w : Window) (u : Use) : (w.use u).minimumCalls = w.minimumCalls := by
  obtain ⟨calls, size, minimumCalls⟩ := w
  cases u <;> cases calls <;> rfl

theorem uses_minimumCalls (w : Window) (us : List Use) :
    (us.foldl use w).minimumCalls = w.minimumCalls := by
  induction us generalizing w with
  | nil => rfl
  | cons u rest ih => rw [List.foldl_cons, ih, use_minimumCalls]

theorem CountsLast.view {w : Window} {size : Nat} {ms : List Measurement}
    (h : w.CountsLast size ms) : w.view = ⟨.ofList (ms.rtake size), w.minimumCalls⟩ := by
  obtain ⟨c, hcalls, htracks⟩ := h
  unfold Window.view total
  rw [hcalls, ← htracks.total_eq]

theorem CountsLast.recount {w : Window} {size : Nat} {ms : List Measurement}
    (h : w.CountsLast size ms) :
    w.recount = (.ofList (ms.rtake size), .ofList (ms.rtake size)) := by
  obtain ⟨c, hcalls, htracks⟩ := h
  unfold Window.recount
  rw [hcalls, ← htracks.total_eq]
  exact congrArg _ (htracks.recount_eq.trans htracks.total_eq.symm)

/-- **A window by number counts the last calls.** However it is used, its counts are those of the
last calls since it was emptied, up to its size, and counting the stored calls anew gives the same.
A call that is taken out of the counts is in them, and no count of a part exceeds that of the
whole, so successes and slow successes are differences that never fall below zero. -/
theorem counts_last_calls {size : Nat} (hsize : 0 < size) (minimumCalls : Nat) :
    ∃ w, countBased size minimumCalls = .ok w ∧ ∀ us : List Use,
      let after := us.foldl use w
      let totals := Totals.ofList ((recorded us).rtake size)
      after.view = ⟨totals, minimumCalls⟩ ∧ after.recount = (totals, totals) ∧
        (∃ c, after.calls = .count c ∧ ∀ m oldest, (c.ring.insert m).2 = some oldest →
          (Totals.ofMeasurement oldest).Within totals) ∧
        totals.slowFailed ≤ min totals.failed totals.slow ∧
        max totals.failed totals.slow ≤ totals.calls ∧
        after.view.succeeded + totals.failed = totals.calls ∧
        after.view.slowSucceeded + totals.slowFailed = totals.slow := by
  have hempty : CountsLast { calls := .count (.empty size), size, minimumCalls } size [] :=
    ⟨.empty size, rfl, (List.rtake_nil (α := Measurement) (n := size)).symm ▸ .empty hsize⟩
  refine ⟨_, countBased_eq hsize minimumCalls, fun us => ?_⟩
  intro after totals
  have hlast := hempty.after_uses us
  have hview : after.view = ⟨totals, minimumCalls⟩ := by
    rw [hlast.view, uses_minimumCalls]
    rfl
  have hcoherent : totals.Coherent := Totals.coherent_ofList _
  obtain ⟨hfailed, hslow, hfailedCalls, hslowCalls⟩ := hcoherent
  refine ⟨hview, hlast.recount, ?_, Nat.le_min.mpr ⟨hfailed, hslow⟩,
    Nat.max_le.mpr ⟨hfailedCalls, hslowCalls⟩, ?_, ?_⟩
  · obtain ⟨c, hcalls, htracks⟩ := hlast
    refine ⟨c, hcalls, fun m oldest hevicted => ?_⟩
    have hwithin := htracks.evicted hevicted
    rwa [htracks.total_eq] at hwithin
  · rw [hview]
    exact Nat.sub_add_cancel hfailedCalls
  · rw [hview]
    exact Nat.sub_add_cancel hslow

/-- A window that is emptied, and then records one call more than it has room for. -/
def overwritten : List Use :=
  [.record 0 ⟨.slowFailure, ⟨9⟩⟩, .record 1 ⟨.success, ⟨1⟩⟩, .reset 2, .record 3 ⟨.failure, ⟨2⟩⟩,
    .record 4 ⟨.slowFailure, ⟨7⟩⟩, .look 5, .record 6 ⟨.success, ⟨1⟩⟩, .recount]

/-- The two calls that are left are counted, and the older one can be taken out. -/
theorem overwritten_counts :
    0 < 2 ∧ ∃ w, countBased 2 1 = .ok w ∧
      (overwritten.foldl use w).view.totals =
        { calls := 2, failed := 1, slow := 1, slowFailed := 1, nanos := 8 } ∧
      (overwritten.foldl use w).view.succeeded = 1 ∧
      (overwritten.foldl use w).recount.1 = (overwritten.foldl use w).recount.2 := by
  have hsize : 0 < 2 := by decide
  obtain ⟨w, hnew, h⟩ := counts_last_calls hsize 1
  obtain ⟨hview, hrecount, _, _, _, hsucceeded, _⟩ := h overwritten
  refine ⟨hsize, w, hnew, ?_, Nat.add_right_cancel hsucceeded, ?_⟩
  · rw [hview]
    rfl
  · rw [hrecount]

end Window

end FaultTolerance
