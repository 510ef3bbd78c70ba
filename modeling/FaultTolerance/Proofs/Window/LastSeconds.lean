import FaultTolerance.Proofs.Window.LastCalls

/-! A window by time counts the calls of the last seconds.

The bucket that lies `age` places before the head counts the calls that are so many seconds old
(`TimedWindow.Holds`), and the running counts are those of all buckets. Reusing the next bucket of
the circle makes every call one second older and takes out the oldest (`Holds.reuse`); the second
that is written into the bucket plays no part in this, so one argument covers a turn by a few
seconds and one over a gap that is longer than the window, after which every bucket is empty
(`Holds.turnTo`). After any use of the window its counts are those of the calls that came less than
its size in seconds before the latest second it has seen (`counts_last_seconds`). -/
namespace FaultTolerance

/-! ### Counts -/

namespace Totals

theorem add_empty (t : Totals) : t.add {} = t := rfl

theorem sum_replicate (n : Nat) : sum (List.replicate n {}) = {} := by
  induction n with
  | zero => rfl
  | succ n ih => rw [List.replicate_succ, sum_cons, ih, add_empty]

/-- A part of a sum that changes counts as what it has become, and no longer as what it was. -/
theorem sum_set {ts : List Totals} {i : Nat} {old : Totals} (hold : ts[i]? = some old)
    (new : Totals) : (sum (ts.set i new)).add old = (sum ts).add new := by
  induction ts generalizing i with
  | nil => cases hold
  | cons t rest ih =>
    cases i with
    | zero =>
      cases hold
      rw [List.set_cons_zero, sum_cons, sum_cons, add_right_comm]
    | succ i =>
      rw [List.set_cons_succ, sum_cons, sum_cons, add_right_comm, ih hold, add_right_comm]

end Totals

/-! ### Measurements by second -/

/-- A measurement and the second that it counts for. -/
structure Stamped where
  second : Nat
  measurement : Measurement
  deriving DecidableEq, Repr

/-- The counts of the measurements of some seconds. -/
def countedIn (p : Nat → Prop) [DecidablePred p] (ms : List Stamped) : Totals :=
  .ofList ((ms.filter fun m => p m.second).map (·.measurement))

section Counted
variable {p q r : Nat → Prop} [DecidablePred p] [DecidablePred q] [DecidablePred r]
  {ms : List Stamped} {m : Stamped}

theorem countedIn_cons_of_pos (h : p m.second) :
    countedIn p (m :: ms) = (countedIn p ms).record m.measurement := by
  unfold countedIn
  rw [List.filter_cons_of_pos (by simpa using h), List.map_cons, Totals.ofList_cons]

theorem countedIn_cons_of_neg (h : ¬ p m.second) : countedIn p (m :: ms) = countedIn p ms := by
  unfold countedIn
  rw [List.filter_cons_of_neg (by simpa using h)]

theorem countedIn_concat_of_pos (h : p m.second) :
    countedIn p (ms ++ [m]) = (countedIn p ms).record m.measurement := by
  unfold countedIn
  rw [List.filter_append, List.filter_cons_of_pos (by simpa using h), List.map_append]
  exact Totals.ofList_concat _ _

theorem countedIn_concat_of_neg (h : ¬ p m.second) :
    countedIn p (ms ++ [m]) = countedIn p ms := by
  unfold countedIn
  rw [List.filter_append, List.filter_cons_of_neg (by simpa using h), List.filter_nil,
    List.append_nil]

theorem countedIn_congr (h : ∀ m ∈ ms, p m.second ↔ q m.second) :
    countedIn p ms = countedIn q ms := by
  unfold countedIn
  rw [List.filter_congr fun m hm => decide_eq_decide.mpr (h m hm)]

theorem countedIn_eq_empty (h : ∀ m ∈ ms, ¬ p m.second) : countedIn p ms = {} := by
  unfold countedIn
  rw [List.filter_eq_nil_iff.mpr (by simpa using h)]
  rfl

/-- Seconds that fall into two groups are counted group by group. -/
theorem countedIn_split (hor : ∀ s, p s ↔ q s ∨ r s) (hnot : ∀ s, q s → ¬ r s)
    (ms : List Stamped) : countedIn p ms = (countedIn q ms).add (countedIn r ms) := by
  induction ms with
  | nil => rfl
  | cons m rest ih =>
    by_cases hq : q m.second
    · rw [countedIn_cons_of_pos ((hor _).mpr (.inl hq)), countedIn_cons_of_pos hq,
        countedIn_cons_of_neg (hnot _ hq), ih]
      exact Totals.add_right_comm _ _ _
    · by_cases hr : r m.second
      · rw [countedIn_cons_of_pos ((hor _).mpr (.inr hr)), countedIn_cons_of_neg hq,
          countedIn_cons_of_pos hr, ih]
        exact Totals.add_assoc _ _ _
      · rw [countedIn_cons_of_neg fun hp => ((hor _).mp hp).elim hq hr, countedIn_cons_of_neg hq,
          countedIn_cons_of_neg hr, ih]

end Counted

/-! ### Windows by time -/

namespace TimedWindow

/-- The place in the circle so many buckets before the head. -/
def placeOf (w : TimedWindow) (age : Nat) : Nat :=
  if age ≤ w.head then w.head - age else w.head + w.buckets.size - age

/-- The counts of the bucket in a place. -/
def countsAt (w : TimedWindow) (place : Nat) : Totals := (w.buckets.getD place default).totals

/-- The place of the bucket that is reused next. -/
def oldest (w : TimedWindow) : Nat := (w.head + 1) % w.buckets.size

/-- A window of some size that has counted the given measurements by their age in a second. -/
structure Holds (w : TimedWindow) (size now : Nat) (ms : List Stamped) : Prop where
  size_eq : w.buckets.size = size
  head_lt : w.head < size
  past : ∀ m ∈ ms, m.second ≤ now
  countsAt_placeOf : ∀ age < size, w.countsAt (w.placeOf age) = countedIn (· + age = now) ms
  total_eq : w.total = countedIn (now - · < size) ms
  recount_eq : w.recount = w.total

/-- However far the window is turned, each bucket that is reused on the way is in the counts that it
is taken out of. -/
def Covers (second : Nat) : (count : Nat) → TimedWindow → Prop
  | 0, _ => True
  | count + 1, w =>
    (w.countsAt w.oldest).Within w.total ∧ Covers second count (w.reuse (second - count))

/-! ### The circle -/

section Circle
variable {w : TimedWindow} {second : Nat}

theorem head_reuse : (w.reuse second).head = w.oldest := rfl

theorem buckets_reuse :
    (w.reuse second).buckets = w.buckets.setIfInBounds w.oldest { second } := rfl

theorem total_reuse : (w.reuse second).total = w.total.remove (w.countsAt w.oldest) := rfl

theorem size_reuse : (w.reuse second).buckets.size = w.buckets.size := Array.size_setIfInBounds

theorem oldest_eq (h : w.head < w.buckets.size) :
    w.oldest = if w.head + 1 = w.buckets.size then 0 else w.head + 1 := by
  unfold oldest
  split
  · next hlast => rw [hlast, Nat.mod_self]
  · exact Nat.mod_eq_of_lt (by omega)

theorem oldest_lt (h : w.head < w.buckets.size) : w.oldest < w.buckets.size :=
  Nat.mod_lt _ (Nat.zero_lt_of_lt h)

theorem oldest_eq_placeOf (h : w.head < w.buckets.size) :
    w.oldest = w.placeOf (w.buckets.size - 1) := by
  rw [oldest_eq h]
  unfold placeOf
  split <;> split <;> omega

theorem placeOf_zero : w.placeOf 0 = w.head := if_pos (Nat.zero_le _)

/-- Only the head itself lies no place before it. -/
theorem placeOf_eq_head {age : Nat} (hage : age < w.buckets.size) :
    w.placeOf age = w.head ↔ age = 0 := by
  unfold placeOf
  split <;> omega

/-- When the head moves on, every bucket lies one place further back. -/
theorem placeOf_reuse {age : Nat} (h : w.head < w.buckets.size) (hage : age + 1 < w.buckets.size) :
    (w.reuse second).placeOf (age + 1) = w.placeOf age := by
  unfold placeOf
  rw [size_reuse, head_reuse, oldest_eq h]
  split <;> split <;> split <;> omega

theorem countsAt_reuse {place : Nat} (h : w.head < w.buckets.size) :
    (w.reuse second).countsAt place = if place = w.oldest then {} else w.countsAt place := by
  unfold countsAt
  rw [buckets_reuse, Array.getD_eq_getD_getElem?, Array.getD_eq_getD_getElem?]
  split
  · next hplace => rw [hplace, Array.getElem?_setIfInBounds_self_of_lt (oldest_lt h)]; rfl
  · next hplace => rw [Array.getElem?_setIfInBounds_ne (Ne.symm hplace)]

theorem getElem?_countsAt {place : Nat} (h : place < w.buckets.size) :
    (w.buckets.toList.map (·.totals))[place]? = some (w.countsAt place) := by
  unfold countsAt
  rw [List.getElem?_map, Array.getElem?_toList, Array.getD_eq_getD_getElem?,
    Array.getElem?_eq_getElem h]
  rfl

/-- What is stored loses the bucket that is reused. -/
theorem recount_reuse (h : w.head < w.buckets.size) :
    (w.reuse second).recount.add (w.countsAt w.oldest) = w.recount := by
  have hset := Totals.sum_set (getElem?_countsAt (oldest_lt h)) {}
  unfold recount
  rw [buckets_reuse, Array.toList_setIfInBounds, List.map_set]
  exact hset

theorem latest_reuse (h : w.head < w.buckets.size) : (w.reuse second).latest = second := by
  unfold latest
  rw [buckets_reuse, head_reuse, Array.getD_eq_getD_getElem?,
    Array.getElem?_setIfInBounds_self_of_lt (oldest_lt h)]
  rfl

end Circle

theorem latest_empty {size : Nat} (hsize : 0 < size) (second : Nat) :
    (TimedWindow.empty size second).latest = second := by
  unfold latest TimedWindow.empty
  rw [Array.getD_eq_getD_getElem?, Array.getElem?_replicate, if_pos hsize]
  rfl

/-! ### Taking a call in -/

/-- Counts a call in the bucket of the latest second. -/
def note (w : TimedWindow) (m : Measurement) : TimedWindow :=
  { w with
    buckets := w.buckets.modify w.head fun b => { b with totals := b.totals.record m }
    total := w.total.record m }

section Note
variable {w : TimedWindow} {m : Measurement}

theorem placeOf_note (age : Nat) : (w.note m).placeOf age = w.placeOf age := by
  unfold placeOf note
  rw [Array.size_modify]

theorem countsAt_note {place : Nat} (h : w.head < w.buckets.size) :
    (w.note m).countsAt place =
      if place = w.head then (w.countsAt place).record m else w.countsAt place := by
  unfold countsAt note
  rw [Array.getD_eq_getD_getElem?, Array.getElem?_modify, Array.getD_eq_getD_getElem?]
  by_cases hplace : place = w.head
  · rw [if_pos hplace.symm, if_pos hplace, hplace, Array.getElem?_eq_getElem h]
    rfl
  · rw [if_neg (Ne.symm hplace), if_neg hplace]

theorem latest_note (h : w.head < w.buckets.size) : (w.note m).latest = w.latest := by
  unfold latest note
  rw [Array.getD_eq_getD_getElem?, Array.getElem?_modify, if_pos rfl,
    Array.getD_eq_getD_getElem?, Array.getElem?_eq_getElem h]
  rfl

theorem recount_note (h : w.head < w.buckets.size) : (w.note m).recount = w.recount.record m := by
  have hcounts : (w.note m).buckets.toList.map (·.totals) =
      (w.buckets.toList.map (·.totals)).set w.head ((w.countsAt w.head).record m) := by
    unfold note countsAt
    rw [Array.toList_modify, List.modify_eq_set, List.map_set, Array.getElem?_toList,
      ← Array.getD_eq_getD_getElem?]
  have hset := Totals.sum_set (getElem?_countsAt h) ((w.countsAt w.head).record m)
  rw [← hcounts] at hset
  unfold recount
  rw [← Totals.remove_add (Totals.sum _) (w.countsAt w.head), hset]
  unfold Totals.record
  rw [Totals.add_comm (w.countsAt w.head), ← Totals.add_assoc, Totals.remove_add]

end Note

namespace Holds
variable {w : TimedWindow} {size now : Nat} {ms : List Stamped}

theorem empty (hsize : 0 < size) (second : Nat) :
    (TimedWindow.empty size second).Holds size second [] where
  size_eq := Array.size_replicate
  head_lt := hsize
  past := nofun
  countsAt_placeOf := by
    intro age _
    unfold countsAt TimedWindow.empty
    rw [Array.getD_eq_getD_getElem?, Array.getElem?_replicate]
    split <;> rfl
  total_eq := rfl
  recount_eq := by
    show Totals.sum ((Array.replicate size _).toList.map _) = {}
    rw [Array.toList_replicate, List.map_replicate]
    exact Totals.sum_replicate size

theorem head_lt_size (h : w.Holds size now ms) : w.head < w.buckets.size := by
  rw [h.size_eq]
  exact h.head_lt

/-- The bucket that is reused next holds the calls that leave the window. -/
theorem total_split (h : w.Holds size now ms) :
    w.total = (countedIn (now + 1 - · < size) ms).add (w.countsAt w.oldest) := by
  have hpos := Nat.zero_lt_of_lt h.head_lt
  have holdest : w.countsAt w.oldest = countedIn (· + (size - 1) = now) ms := by
    rw [oldest_eq_placeOf h.head_lt_size, h.size_eq]
    exact h.countsAt_placeOf _ (by omega)
  rw [h.total_eq, holdest]
  exact countedIn_split (by omega) (by omega) ms

theorem oldest_within (h : w.Holds size now ms) : (w.countsAt w.oldest).Within w.total := by
  rw [h.total_split]
  exact Totals.within_add _ _

/-- Every call grows one second older. -/
theorem reuse (h : w.Holds size now ms) (second : Nat) :
    (w.reuse second).Holds size (now + 1) ms := by
  have hlt := h.head_lt_size
  have htotal : (w.reuse second).total = countedIn (now + 1 - · < size) ms := by
    rw [total_reuse, h.total_split, Totals.remove_add]
  constructor
  · exact size_reuse.trans h.size_eq
  · rw [← h.size_eq]
    exact oldest_lt hlt
  · intro m hm
    exact Nat.le_succ_of_le (h.past m hm)
  · intro age hage
    rw [countsAt_reuse hlt]
    cases age with
    | zero =>
      have hnone : countedIn (· + 0 = now + 1) ms = {} := countedIn_eq_empty fun m hm => by
        have hpast := h.past m hm
        omega
      rw [placeOf_zero, hnone]
      exact if_pos rfl
    | succ age =>
      rw [← h.size_eq] at hage
      have hother : w.placeOf age ≠ w.oldest := by
        rw [oldest_eq_placeOf hlt]
        unfold placeOf
        split <;> split <;> omega
      rw [placeOf_reuse hlt hage, if_neg hother,
        h.countsAt_placeOf age (by have := h.size_eq; omega)]
      exact countedIn_congr fun m _ => by omega
  · exact htotal
  · rw [total_reuse, ← h.recount_eq, ← recount_reuse hlt, Totals.remove_add]

/-- A window that has turned past everything it was told is empty at any later second. -/
theorem later (h : w.Holds size now ms) (hgone : ∀ m ∈ ms, m.second + size ≤ now) {second : Nat}
    (hle : now ≤ second) : w.Holds size second ms where
  size_eq := h.size_eq
  head_lt := h.head_lt
  past := fun m hm => Nat.le_trans (h.past m hm) hle
  countsAt_placeOf := by
    intro age hage
    rw [h.countsAt_placeOf age hage]
    refine countedIn_congr fun m hm => ?_
    have hold := hgone m hm
    omega
  total_eq := by
    rw [h.total_eq]
    refine countedIn_congr fun m hm => ?_
    have hold := hgone m hm
    omega
  recount_eq := h.recount_eq

theorem turn (h : w.Holds size now ms) (second count : Nat) :
    (TimedWindow.turn second count w).Holds size (now + count) ms := by
  induction count generalizing w now with
  | zero => exact h
  | succ count ih =>
    have hnext := ih (h.reuse (second - count))
    rwa [Nat.add_right_comm] at hnext

theorem covers (h : w.Holds size now ms) (second count : Nat) : Covers second count w := by
  induction count generalizing w now with
  | zero => trivial
  | succ count ih => exact ⟨h.oldest_within, ih (h.reuse (second - count))⟩

theorem latest_turn (h : w.Holds size now ms) (second count : Nat) :
    (TimedWindow.turn second (count + 1) w).latest = second := by
  induction count generalizing w now with
  | zero => exact latest_reuse h.head_lt_size
  | succ count ih => exact ih (h.reuse (second - (count + 1)))

/-- A window that is turned to a second stands at the later one of that and its own. -/
theorem turnTo (h : w.Holds size now ms) (hlatest : w.latest = now) (second : Nat) :
    (w.turnTo second).Holds size (max now second) ms ∧
      (w.turnTo second).latest = max now second := by
  have hpos := Nat.zero_lt_of_lt h.head_lt
  unfold TimedWindow.turnTo
  rw [hlatest, h.size_eq]
  rcases Nat.lt_or_ge now second with hahead | hback
  · rw [Nat.max_eq_right (Nat.le_of_lt hahead)]
    obtain ⟨count, hcount⟩ : ∃ count, min (second - now) size = count + 1 :=
      Nat.exists_eq_succ_of_ne_zero (by omega)
    have hturned := h.turn second (count + 1)
    rw [hcount]
    refine ⟨?_, h.latest_turn second count⟩
    rcases Nat.le_total (second - now) size with hshort | hlong
    · have hnow : now + (count + 1) = second := by omega
      rwa [hnow] at hturned
    · refine hturned.later (fun m hm => ?_) (by omega)
      have hpast := h.past m hm
      omega
  · rw [Nat.max_eq_left hback, Nat.sub_eq_zero_of_le hback, Nat.zero_min]
    exact ⟨h, hlatest⟩

theorem note (h : w.Holds size now ms) (m : Measurement) :
    (w.note m).Holds size now (ms ++ [⟨now, m⟩]) := by
  have hlt := h.head_lt_size
  have hpos := Nat.zero_lt_of_lt h.head_lt
  constructor
  · exact Array.size_modify.trans h.size_eq
  · exact h.head_lt
  · intro n hn
    rcases List.mem_append.mp hn with hold | hnew
    · exact h.past n hold
    · exact Nat.le_of_eq (congrArg Stamped.second (List.mem_singleton.mp hnew))
  · intro age hage
    rw [placeOf_note, countsAt_note hlt, h.countsAt_placeOf age hage]
    by_cases hnew : age = 0
    · rw [if_pos ((placeOf_eq_head (by rwa [h.size_eq])).mpr hnew), hnew]
      exact (countedIn_concat_of_pos (p := (· + 0 = now)) (m := ⟨now, m⟩) (Nat.add_zero now)).symm
    · rw [if_neg ((placeOf_eq_head (by rwa [h.size_eq])).not.mpr hnew)]
      exact (countedIn_concat_of_neg (by simpa using hnew)).symm
  · rw [countedIn_concat_of_pos (by simpa using hpos), ← h.total_eq]
    rfl
  · rw [recount_note hlt, h.recount_eq]
    rfl

theorem record (h : w.Holds size now ms) (hlatest : w.latest = now) (second : Nat)
    (m : Measurement) :
    (w.record second m).Holds size (max now second) (ms ++ [⟨max now second, m⟩]) ∧
      (w.record second m).latest = max now second := by
  obtain ⟨hturned, hnow⟩ := h.turnTo hlatest second
  exact ⟨hturned.note m, (latest_note hturned.head_lt_size).trans hnow⟩

end Holds

end TimedWindow

/-! ### The use of a window -/

namespace Window

/-- What a window has been told since it was last emptied. -/
structure History where
  /-- The latest second that was read. -/
  second : Nat
  /-- The measurements, the oldest first, each in the second that was the latest at its time. -/
  recorded : List Stamped := []

namespace History

def begin (now : Nat) : History := { second := secondsOf now }

/-- Recounting reads no clock, and emptying starts anew even if the clock has gone back. -/
def next (h : History) : Use → History
  | .record now m =>
    let second := max h.second (secondsOf now)
    ⟨second, h.recorded ++ [⟨second, m⟩]⟩
  | .look now => { h with second := max h.second (secondsOf now) }
  | .recount => h
  | .reset now => begin now

/-- The measurements of the last seconds. -/
def within (h : History) (seconds : Nat) : List Measurement :=
  (h.recorded.filter fun m => h.second - m.second < seconds).map (·.measurement)

end History

/-- A window by time that has counted what it was told. -/
def CountsRecent (w : Window) (size : Nat) (h : History) : Prop :=
  ∃ t, w.calls = .timed t ∧ t.Holds size h.second h.recorded ∧ t.latest = h.second

theorem timeBased_eq {size : Nat} (hsize : 0 < size) (minimumCalls now : Nat) :
    timeBased size minimumCalls now =
      .ok { calls := .timed (.empty size (secondsOf now)), size, minimumCalls } :=
  if_neg (Nat.ne_of_gt hsize)

theorem CountsRecent.empty {w : Window} {size : Nat} (hsize : 0 < size) (now : Nat)
    (hcalls : w.calls = .timed (.empty size (secondsOf now))) :
    w.CountsRecent size (.begin now) :=
  ⟨_, hcalls, .empty hsize _, TimedWindow.latest_empty hsize _⟩

theorem CountsRecent.after_use {w : Window} {size : Nat} {h : History}
    (hcounts : w.CountsRecent size h) (u : Use) : (w.use u).CountsRecent size (h.next u) := by
  obtain ⟨t, hcalls, hholds, hlatest⟩ := hcounts
  cases u with
  | record now m =>
    refine ⟨t.record (secondsOf now) m, ?_, hholds.record hlatest _ m⟩
    show (w.record now m).calls = _
    unfold Window.record
    rw [hcalls]
  | look now =>
    refine ⟨t.turnTo (secondsOf now), ?_, hholds.turnTo hlatest _⟩
    show (w.refresh now).calls = _
    unfold refresh
    rw [hcalls]
  | recount => exact ⟨t, hcalls, hholds, hlatest⟩
  | reset now =>
    refine .empty (Nat.zero_lt_of_lt hholds.head_lt) now ?_
    show (w.reset now).calls = _
    unfold Window.reset TimedWindow.reset
    rw [hcalls, ← hholds.size_eq]

theorem CountsRecent.after_uses {w : Window} {size : Nat} {h : History}
    (hcounts : w.CountsRecent size h) (us : List Use) :
    (us.foldl use w).CountsRecent size (us.foldl History.next h) := by
  induction us generalizing w h with
  | nil => exact hcounts
  | cons u rest ih => exact ih (hcounts.after_use u)

theorem CountsRecent.view {w : Window} {size : Nat} {h : History}
    (hcounts : w.CountsRecent size h) :
    w.view = ⟨.ofList (h.within size), w.minimumCalls⟩ := by
  obtain ⟨t, hcalls, hholds, _⟩ := hcounts
  have htotal : t.total = .ofList (h.within size) := hholds.total_eq
  unfold Window.view total
  rw [hcalls, ← htotal]

/-- **A window by time counts the calls of the last seconds.** However it is used and whatever the
clock reads, its counts are those of the calls since it was emptied that came less than its size in
seconds before the latest second it has seen, and adding its buckets up gives the same. However far
it is turned next, a bucket that is taken out of the counts is in them. -/
theorem counts_last_seconds {size : Nat} (hsize : 0 < size) (minimumCalls start : Nat) :
    ∃ w, timeBased size minimumCalls start = .ok w ∧ ∀ us : List Use,
      let after := us.foldl use w
      let history := us.foldl History.next (.begin start)
      let totals := Totals.ofList (history.within size)
      after.view = ⟨totals, minimumCalls⟩ ∧ after.recount = (totals, totals) ∧
        ∃ t, after.calls = .timed t ∧ t.latest = history.second ∧ ∀ second,
          t.Covers second (min (second - t.latest) t.buckets.size) := by
  refine ⟨_, timeBased_eq hsize minimumCalls start, fun us => ?_⟩
  intro after history totals
  have hcounts : after.CountsRecent size history :=
    (CountsRecent.empty hsize start rfl).after_uses us
  have hminimum : after.minimumCalls = minimumCalls := uses_minimumCalls _ us
  obtain ⟨t, hcalls, hholds, hlatest⟩ := hcounts
  have htotal : t.total = totals := hholds.total_eq
  refine ⟨?_, ?_, t, hcalls, hlatest, fun second => hholds.covers second _⟩
  · unfold view total
    rw [hcalls, hminimum, ← htotal]
  · unfold recount
    rw [hcalls, ← htotal]
    exact congrArg _ hholds.recount_eq

/-- A window of two seconds whose clock goes back, jumps over more than two seconds and ends in the
second after the jump. -/
def jumped : List Use :=
  [.record 5000000000 ⟨.slowFailure, ⟨9⟩⟩, .record 3000000000 ⟨.failure, ⟨2⟩⟩, .look 6000000000,
    .recount, .record 60000000000 ⟨.success, ⟨1⟩⟩, .record 61000000000 ⟨.slowSuccess, ⟨7⟩⟩,
    .record 60000000000 ⟨.failure, ⟨3⟩⟩]

/-- What came before the jump is not counted any more. -/
theorem jumped_counts :
    0 < 2 ∧ ∃ w, timeBased 2 1 4000000000 = .ok w ∧
      (jumped.foldl use w).view.totals =
        { calls := 3, failed := 1, slow := 1, slowFailed := 0, nanos := 11 } ∧
      (jumped.foldl use w).recount.1 = (jumped.foldl use w).recount.2 := by
  have hsize : 0 < 2 := by decide
  obtain ⟨w, hnew, h⟩ := counts_last_seconds hsize 1 4000000000
  obtain ⟨hview, hrecount, _⟩ := h jumped
  refine ⟨hsize, w, hnew, ?_, ?_⟩
  · rw [hview]
    rfl
  · rw [hrecount]

end Window

end FaultTolerance
