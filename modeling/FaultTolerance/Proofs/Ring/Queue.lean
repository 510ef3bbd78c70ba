import FaultTolerance.Proofs.Window.Contents

/-! A ring is a queue of bounded length.

A `Use` of a ring has a meaning on lists that knows nothing of slots (`Use.onList`): an insertion
appends, and takes the first element out beforehand if there is no room; polling takes the first
element out; looking changes nothing. `Mirrors` says that the slots of a ring are those of a list,
those past its end being vacant, and every use keeps it. So whoever uses a ring is answered as by
the list (**`answers_as_queue`**). -/
namespace FaultTolerance.Ring
variable {α : Type}

/-! ### Uses -/

inductive Use (α : Type) where
  | insert (a : α)
  | poll
  | clear
  | peek
  /-- Reads all elements. -/
  | look
  deriving DecidableEq, Repr

inductive Answer (α : Type) where
  | done
  | element (a : Option α)
  | elements (as : List α)
  deriving DecidableEq, Repr

/-- Whether a use counts as an edit. -/
def Use.isEdit : Use α → Bool
  | insert _ | poll | clear => true
  | peek | look => false

def use (r : Ring α) : Use α → Ring α × Answer α
  | .insert a =>
    let (r, evicted) := r.insert a
    (r, .element evicted)
  | .poll =>
    let (r, oldest) := r.poll
    (r, .element oldest)
  | .clear => (r.clear, .done)
  | .peek => (r, .element r.peek)
  | .look => (r, .elements r.toList)

/-- The same on a list of bounded length, the oldest element first. -/
def Use.onList (capacity : Nat) (as : List α) : Use α → List α × Answer α
  | insert a =>
    if as.length = capacity then (as.tail ++ [a], .element as.head?) else (as ++ [a], .element none)
  | poll => (as.tail, .element as.head?)
  | clear => ([], .done)
  | peek => (as, .element as.head?)
  | look => (as, .elements as)

/-- Uses one after the other, with all their answers. -/
def useAll {σ : Type} (step : σ → Use α → σ × Answer α) (s : σ) :
    List (Use α) → σ × List (Answer α)
  | [] => (s, [])
  | u :: rest =>
    let (s, answer) := step s u
    let (s, answers) := useAll step s rest
    (s, answer :: answers)

/-! ### What goes in and out -/

/-- The elements that a use puts in. -/
def Use.entering : Use α → List α
  | insert a => [a]
  | poll | clear | peek | look => []

/-- The elements that a use takes out of a list. -/
def Use.leaving (capacity : Nat) (as : List α) : Use α → List α
  | insert _ => if as.length = capacity then as.take 1 else []
  | poll => as.take 1
  | clear => as
  | peek | look => []

/-- The elements that uses take out of a list, in order. -/
def leavingAll (capacity : Nat) (as : List α) : List (Use α) → List α
  | [] => []
  | u :: rest => u.leaving capacity as ++ leavingAll capacity (u.onList capacity as).1 rest

theorem Use.entering_append (capacity : Nat) (as : List α) (u : Use α) :
    as ++ u.entering = u.leaving capacity as ++ (u.onList capacity as).1 := by
  cases u with
  | insert a =>
    by_cases hfull : as.length = capacity
    · cases as <;> simp [entering, leaving, onList, hfull]
    · simp [entering, leaving, onList, hfull]
  | poll => cases as <;> simp [entering, leaving, onList]
  | clear | peek | look => simp [entering, leaving, onList]

/-- What has gone in has come out again or is still there, all in one order. -/
theorem entering_eq_leavingAll (capacity : Nat) (as : List α) (uses : List (Use α)) :
    as ++ uses.flatMap Use.entering =
      leavingAll capacity as uses ++ (useAll (Use.onList capacity) as uses).1 := by
  induction uses generalizing as with
  | nil => exact List.append_nil as
  | cons u rest ih =>
    rw [List.flatMap_cons, ← List.append_assoc, u.entering_append capacity, List.append_assoc, ih,
      ← List.append_assoc]
    rfl

/-! ### A ring and its list -/

/-- A ring whose slots hold the elements of a list, the oldest first, and nothing else. -/
structure Mirrors (r : Ring α) (capacity : Nat) (as : List α) : Prop
    extends r.Holds capacity as where
  vacant : ∀ i, as.length ≤ i → i < capacity → r.get? (r.slotAt i) = none

namespace Mirrors
variable {r m : Ring α} {capacity : Nat} {as : List α} {oldest : α}

theorem get?_eq (h : r.Mirrors capacity as) {i : Nat} (hi : i < capacity) :
    r.get? (r.slotAt i) = as[i]? := by
  cases hfound : as[i]? with
  | some a => exact h.get?_slotAt i a hfound
  | none => exact h.vacant i (List.getElem?_eq_none_iff.mp hfound) hi

theorem head?_eq (h : r.Mirrors capacity as) : r.get? r.head = as.head? := by
  have hlt := h.head_lt
  have hhead : r.slotAt 0 = r.head := slotAt_zero (h.capacity_eq ▸ hlt)
  rw [← hhead, h.get?_eq (Nat.zero_lt_of_lt hlt), List.head?_eq_getElem?]

theorem of_get? (hcapacity : r.capacity = capacity) (hhead : r.head < capacity)
    (hsize : r.size = as.length) (hle : as.length ≤ capacity)
    (htail : r.tail = r.slotAt (as.length - 1))
    (hget : ∀ i < capacity, r.get? (r.slotAt i) = as[i]?) : r.Mirrors capacity as where
  capacity_eq := hcapacity
  head_lt := hhead
  size_eq := hsize
  length_le := hle
  tail_eq := htail
  get?_slotAt i a ha := by
    have hlt := (List.getElem?_eq_some_iff.mp ha).1
    rw [hget i (by omega), ha]
  vacant i hi hlt := by rw [hget i hlt, List.getElem?_eq_none hi]

theorem get?_of_replicate {capacity : Nat} (hslots : r.slots = Array.replicate capacity none)
    (slot : Nat) : r.get? slot = none := by
  unfold get?
  rw [hslots, Array.getElem?_replicate]
  split <;> rfl

theorem empty (hpos : 0 < capacity) : (Ring.empty capacity : Ring α).Mirrors capacity [] where
  toHolds := .empty hpos
  vacant _ _ _ := get?_of_replicate rfl _

theorem clear (h : r.Mirrors capacity as) : r.clear.Mirrors capacity [] where
  toHolds := h.toHolds.clear
  vacant _ _ _ := get?_of_replicate rfl _

/-- The slot after the newest element is filled. -/
theorem fill (h : r.Mirrors capacity as) (hroom : as.length < capacity) {a : α}
    (hslots : m.slots = r.slots.setIfInBounds (r.slotAt as.length) (some a))
    (hhead : m.head = r.head) (htail : m.tail = r.slotAt as.length)
    (hsize : m.size = as.length + 1) : m.Mirrors capacity (as ++ [a]) where
  toHolds := h.toHolds.append hroom hslots hhead htail hsize
  vacant i hi hlt := by
    rw [List.length_append, List.length_singleton] at hi
    have hcapacity := h.capacity_eq
    have hbound := h.head_lt
    have hother : r.slotAt i ≠ r.slotAt as.length := by
      rw [Ne, slotAt_inj (by omega) (by omega)]
      omega
    rw [slotAt_congr hhead (capacity_of_slots hslots),
      get?_of_slots (slotAt_lt (by omega) (by omega)) hslots, if_neg hother,
      h.vacant i (by omega) hlt]

theorem insert_of_room (h : r.Mirrors capacity as) (hroom : as.length < capacity) (a : α) :
    (r.insert a).1.Mirrors capacity (as ++ [a]) ∧ (r.insert a).2 = none := by
  rw [h.toHolds.insert_eq_of_room hroom]
  exact ⟨h.fill hroom rfl rfl rfl rfl, rfl⟩

theorem insert_of_full (h : r.Mirrors capacity (oldest :: as)) (hfull : as.length + 1 = capacity)
    (a : α) : (r.insert a).1.Mirrors capacity (as ++ [a]) ∧ (r.insert a).2 = some oldest := by
  obtain ⟨hholds, hevicted⟩ := h.toHolds.insert_of_full hfull a
  refine ⟨⟨hholds, fun i hi hlt => ?_⟩, hevicted⟩
  rw [List.length_append, List.length_singleton] at hi
  omega

theorem poll_nil (h : r.Mirrors capacity []) :
    r.poll.1.Mirrors capacity [] ∧ r.poll.2 = none := by
  have hsize : r.size = 0 := h.size_eq
  unfold poll
  rw [if_pos hsize]
  exact ⟨of_get? h.capacity_eq h.head_lt h.size_eq h.length_le h.tail_eq fun _ => h.get?_eq, rfl⟩

/-- The slot of the only element is emptied, and the head stays. -/
theorem empty_last (h : r.Mirrors capacity [oldest])
    (hslots : m.slots = r.slots.setIfInBounds r.head none) (hhead : m.head = r.head)
    (htail : m.tail = r.tail) (hsize : m.size = 0) : m.Mirrors capacity [] := by
  have hcapacity := capacity_of_slots hslots
  have hlt := h.head_lt
  have hslotAt := slotAt_congr hhead hcapacity
  refine of_get? (hcapacity.trans h.capacity_eq) (hhead ▸ hlt) hsize (Nat.zero_le _) ?_ ?_
  · rw [htail, h.tail_eq, hslotAt]
    rfl
  · intro i hi
    rw [← h.capacity_eq] at hlt
    rw [hslotAt, get?_of_slots hlt hslots]
    split
    · rfl
    · next hother =>
      have hpos : i ≠ 0 := fun hzero => hother (by rw [hzero, slotAt_zero hlt])
      rw [h.get?_eq hi, List.getElem?_eq_none (by simp; omega)]
      rfl

/-- The slot of the oldest element is emptied, and the head moves on. -/
theorem empty_first (h : r.Mirrors capacity (oldest :: as)) (hpos : 0 < as.length)
    (hslots : m.slots = r.slots.setIfInBounds r.head none) (hhead : m.head = r.next r.head)
    (htail : m.tail = r.tail) (hsize : m.size = as.length) : m.Mirrors capacity as := by
  have hcapacity := capacity_of_slots hslots
  have hlt := h.head_lt
  have hle := h.length_le
  rw [List.length_cons] at hle
  rw [← h.capacity_eq] at hlt hle
  have hslotAt (i : Nat) (hi : i < r.capacity) : m.slotAt i = r.slotAt (i + 1) :=
    slotAt_of_next hi hhead hcapacity
  refine of_get? (hcapacity.trans h.capacity_eq) ?_ hsize ?_ ?_ ?_
  · rw [hhead, next_head hlt, ← h.capacity_eq]
    exact slotAt_lt hlt (by omega)
  · rw [← h.capacity_eq]
    omega
  · rw [htail, h.tail_eq, hslotAt _ (by omega), Nat.sub_add_cancel hpos]
    rfl
  · intro i hi
    rw [← h.capacity_eq] at hi
    rw [hslotAt i hi, get?_of_slots hlt hslots]
    by_cases hturn : i + 1 = r.capacity
    · rw [hturn, slotAt_capacity, if_pos rfl, List.getElem?_eq_none (by omega)]
    · have hother : r.slotAt (i + 1) ≠ r.head := by
        rw [← slotAt_zero hlt, Ne, slotAt_inj (by omega) (by omega)]
        omega
      rw [if_neg hother, h.get?_eq (by rw [← h.capacity_eq]; omega), List.getElem?_cons_succ]

theorem poll_cons (h : r.Mirrors capacity (oldest :: as)) :
    r.poll.1.Mirrors capacity as ∧ r.poll.2 = some oldest := by
  have hsize : r.size = as.length + 1 := h.size_eq
  unfold poll
  rw [if_neg (by omega), h.head?_eq]
  refine ⟨?_, rfl⟩
  cases as with
  | nil => exact h.empty_last rfl (if_pos hsize) rfl (by show r.size - 1 = 0; rw [hsize]; rfl)
  | cons next rest =>
    rw [List.length_cons] at hsize
    exact h.empty_first (Nat.zero_lt_succ _) rfl (if_neg (by omega)) rfl
      (by show r.size - 1 = rest.length + 1; omega)

theorem peek_eq (h : r.Mirrors capacity as) : r.peek = as.head? := by
  unfold peek
  rw [h.head?_eq, h.size_eq]
  cases as <;> rfl

/-- Every use has the meaning that it has on lists. -/
theorem use (h : r.Mirrors capacity as) (u : Use α) :
    (r.use u).1.Mirrors capacity (u.onList capacity as).1 ∧
      (r.use u).2 = (u.onList capacity as).2 := by
  cases u with
  | insert a =>
    have hle := h.length_le
    have hpos := Nat.zero_lt_of_lt h.head_lt
    unfold Use.onList
    by_cases hfull : as.length = capacity
    · simp only [if_pos hfull]
      cases as with
      | nil => exact absurd hfull (Nat.ne_of_lt hpos)
      | cons oldest as =>
        obtain ⟨hnext, hevicted⟩ := h.insert_of_full hfull a
        exact ⟨hnext, congrArg Answer.element hevicted⟩
    · have hroom : as.length < capacity := Nat.lt_of_le_of_ne hle hfull
      simp only [if_neg hfull]
      obtain ⟨hnext, hnone⟩ := h.insert_of_room hroom a
      exact ⟨hnext, congrArg Answer.element hnone⟩
  | poll =>
    cases as with
    | nil => exact ⟨h.poll_nil.1, congrArg Answer.element h.poll_nil.2⟩
    | cons oldest as => exact ⟨h.poll_cons.1, congrArg Answer.element h.poll_cons.2⟩
  | clear => exact ⟨h.clear, rfl⟩
  | peek => exact ⟨h, congrArg Answer.element h.peek_eq⟩
  | look => exact ⟨h, congrArg Answer.elements h.toHolds.toList_eq⟩

theorem useAll (h : r.Mirrors capacity as) (uses : List (Use α)) :
    (Ring.useAll Ring.use r uses).1.Mirrors capacity
        (Ring.useAll (Use.onList capacity) as uses).1 ∧
      (Ring.useAll Ring.use r uses).2 = (Ring.useAll (Use.onList capacity) as uses).2 := by
  induction uses generalizing r as with
  | nil => exact ⟨h, rfl⟩
  | cons u rest ih =>
    obtain ⟨hnext, hanswer⟩ := h.use u
    obtain ⟨hafter, hanswers⟩ := ih hnext
    exact ⟨hafter, congr (congrArg List.cons hanswer) hanswers⟩

end Mirrors

/-! ### Edits -/

theorem use_edits (r : Ring α) (u : Use α) :
    (r.use u).1.edits = r.edits + if u.isEdit then 1 else 0 := by
  cases u with
  | insert a =>
    show (r.insert a).1.edits = r.edits + 1
    unfold insert
    split
    · rfl
    · split <;> rfl
  | poll =>
    show r.poll.1.edits = r.edits + 1
    unfold poll
    split <;> rfl
  | clear | peek | look => rfl

theorem useAll_edits (r : Ring α) (uses : List (Use α)) :
    (useAll use r uses).1.edits = r.edits + uses.countP Use.isEdit := by
  induction uses generalizing r with
  | nil => rfl
  | cons u rest ih =>
    have hrest : (useAll use r (u :: rest)).1 = (useAll use (r.use u).1 rest).1 := rfl
    rw [hrest, ih, use_edits, List.countP_cons, Nat.add_assoc, Nat.add_comm (List.countP _ _)]

/-! ### The queue -/

/-- **A ring answers as a queue** that makes room by giving up its oldest element: whatever is done
with it, its answers and its contents are those of the list, of a length up to the capacity, on
which the same is done. The list fills the slots from the head to the tail and nothing else. What
was put in has been taken out in that order or is in the list, and each use but a look counts as
one edit. -/
theorem answers_as_queue {capacity : Nat} (h : 0 < capacity) :
    ∃ r : Ring α, Ring.ofCapacity capacity = .ok r ∧ ∀ uses : List (Use α),
      let (after, answers) := useAll use r uses
      let (as, expected) := useAll (Use.onList capacity) [] uses
      answers = expected ∧ after.toList = as ∧ after.peek = as.head? ∧
        after.capacity = capacity ∧ as.length ≤ capacity ∧ after.size = as.length ∧
        (after.isEmpty ↔ as = []) ∧ (after.isFull ↔ as.length = capacity) ∧
        after.tail = after.slotAt (as.length - 1) ∧
        (∀ i < capacity, after.get? (after.slotAt i) = as[i]?) ∧
        after.edits = uses.countP Use.isEdit ∧
        uses.flatMap Use.entering = leavingAll capacity [] uses ++ as := by
  refine ⟨.empty capacity, if_neg (Nat.ne_of_gt h), fun uses => ?_⟩
  obtain ⟨hmirrors, hanswers⟩ := (Mirrors.empty h).useAll uses
  have hedits := useAll_edits (Ring.empty capacity) uses
  have hmoved := entering_eq_leavingAll capacity [] uses
  refine ⟨hanswers, hmirrors.toHolds.toList_eq, hmirrors.peek_eq, hmirrors.capacity_eq,
    hmirrors.length_le, hmirrors.size_eq, ?_, ?_, hmirrors.tail_eq, fun _ => hmirrors.get?_eq,
    hedits.trans (Nat.zero_add _), hmoved⟩
  · unfold isEmpty
    rw [hmirrors.size_eq, decide_eq_true_iff, List.length_eq_zero_iff]
  · unfold isFull
    rw [hmirrors.size_eq, hmirrors.capacity_eq, decide_eq_true_iff]

/-- A third element takes the place of the first, and the slot that polling empties is filled again
around the circle. -/
theorem queue_of_two :
    ∃ r : Ring Nat, Ring.ofCapacity 2 = .ok r ∧
      let (after, answers) := useAll use r
        [.insert 1, .insert 2, .insert 3, .peek, .poll, .insert 4, .look, .poll]
      answers = [.element none, .element none, .element (some 1), .element (some 2),
        .element (some 2), .element none, .elements [3, 4], .element (some 3)] ∧
      after.toList = [4] ∧ after.edits = 6 := by
  obtain ⟨r, hr, hqueue⟩ := answers_as_queue (α := Nat) (Nat.zero_lt_succ 1)
  obtain ⟨hanswers, hlist, -, -, -, -, -, -, -, -, hedits, -⟩ := hqueue
    [.insert 1, .insert 2, .insert 3, .peek, .poll, .insert 4, .look, .poll]
  exact ⟨r, hr, hanswers, hlist, hedits⟩

end FaultTolerance.Ring
