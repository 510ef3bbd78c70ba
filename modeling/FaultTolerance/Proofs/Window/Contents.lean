import FaultTolerance.Ring

/-! What a ring holds.

The elements of a ring lie in the slots from its head on, once around the circle at most (`slotAt`).
`Ring.Holds` says that they are the elements of a list, the oldest first. An insertion appends to
that list (`Holds.insert_of_room`), and when the list is as long as the ring it gives up its first
element for it (`Holds.insert_of_full`). -/
namespace FaultTolerance.Ring
variable {α : Type}

/-- The slot that lies so many slots after the head. -/
def slotAt (r : Ring α) (offset : Nat) : Nat :=
  if r.head + offset < r.capacity then r.head + offset else r.head + offset - r.capacity

/-- A ring of some capacity that holds the elements of a list, the oldest first. -/
structure Holds (r : Ring α) (capacity : Nat) (as : List α) : Prop where
  capacity_eq : r.capacity = capacity
  head_lt : r.head < capacity
  size_eq : r.size = as.length
  length_le : as.length ≤ capacity
  tail_eq : r.tail = r.slotAt (as.length - 1)
  get?_slotAt : ∀ i a, as[i]? = some a → r.get? (r.slotAt i) = some a

/-! ### Slots -/

section Slots
variable {r m : Ring α}

theorem slotAt_zero (h : r.head < r.capacity) : r.slotAt 0 = r.head := if_pos h

theorem slotAt_lt {offset : Nat} (h : r.head < r.capacity) (hle : offset ≤ r.capacity) :
    r.slotAt offset < r.capacity := by
  unfold slotAt
  split <;> omega

/-- Offsets short of a full turn lead to different slots. -/
theorem slotAt_inj {i j : Nat} (hi : i < r.capacity) (hj : j < r.capacity) :
    r.slotAt i = r.slotAt j ↔ i = j := by
  unfold slotAt
  split <;> split <;> omega

/-- A full turn leads back to the head. -/
theorem slotAt_capacity : r.slotAt r.capacity = r.head := by
  unfold slotAt
  split <;> omega

theorem next_slotAt {offset : Nat} (h : r.head < r.capacity) (hlt : offset < r.capacity) :
    r.next (r.slotAt offset) = r.slotAt (offset + 1) := by
  unfold next slotAt
  split <;> split <;> split <;> omega

theorem next_head (h : r.head < r.capacity) : r.next r.head = r.slotAt 1 := by
  conv => lhs; rw [← slotAt_zero h]
  exact next_slotAt h (by omega)

theorem slotAt_congr (hhead : m.head = r.head) (hcapacity : m.capacity = r.capacity)
    (offset : Nat) : m.slotAt offset = r.slotAt offset := by
  unfold slotAt
  rw [hhead, hcapacity]

/-- When the head moves on by one slot so does every offset from it. -/
theorem slotAt_of_next {offset : Nat} (hlt : offset < r.capacity)
    (hhead : m.head = r.next r.head) (hcapacity : m.capacity = r.capacity) :
    m.slotAt offset = r.slotAt (offset + 1) := by
  unfold slotAt
  rw [hhead, hcapacity]
  unfold next
  split <;> split <;> split <;> omega

theorem capacity_of_slots {slot : Nat} {a : Option α}
    (hslots : m.slots = r.slots.setIfInBounds slot a) : m.capacity = r.capacity := by
  unfold capacity
  rw [hslots]
  exact Array.size_setIfInBounds

theorem get?_of_slots {slot : Nat} {a : Option α} (hslot : slot < r.capacity)
    (hslots : m.slots = r.slots.setIfInBounds slot a) (other : Nat) :
    m.get? other = if other = slot then a else r.get? other := by
  unfold get?
  rw [hslots]
  by_cases h : other = slot
  · rw [h, if_pos rfl, Array.getElem?_setIfInBounds_self_of_lt hslot]
    rfl
  · rw [if_neg h, Array.getElem?_setIfInBounds_ne (Ne.symm h)]

end Slots

namespace Holds
variable {r m : Ring α} {capacity : Nat} {as : List α} {a oldest : α}

/-! ### Reading -/

theorem read_slotAt (h : r.Holds capacity as) {count offset : Nat}
    (hcount : offset + count = as.length) : r.read count (r.slotAt offset) = as.drop offset := by
  have hle := h.length_le
  have hhead := h.head_lt
  rw [← h.capacity_eq] at hle hhead
  induction count generalizing offset with
  | zero => rw [List.drop_of_length_le (by omega)]; rfl
  | succ count ih =>
    have hlt : offset < as.length := by omega
    have hget := h.get?_slotAt offset as[offset] (List.getElem?_eq_getElem hlt)
    rw [read, hget, next_slotAt hhead (by omega), ih (by omega), List.drop_eq_getElem_cons hlt]
    rfl

theorem toList_eq (h : r.Holds capacity as) : r.toList = as := by
  have hhead := h.head_lt
  rw [← h.capacity_eq] at hhead
  unfold toList
  rw [h.size_eq, ← slotAt_zero hhead, h.read_slotAt (Nat.zero_add _)]
  rfl

/-! ### Writing -/

theorem nil (hpos : 0 < capacity) (hcapacity : r.capacity = capacity) (hhead : r.head = 0)
    (htail : r.tail = 0) (hsize : r.size = 0) : r.Holds capacity [] where
  capacity_eq := hcapacity
  head_lt := hhead ▸ hpos
  size_eq := hsize
  length_le := Nat.zero_le _
  tail_eq := by
    rw [htail]
    exact hhead ▸ (slotAt_zero (by rw [hhead, hcapacity]; exact hpos)).symm
  get?_slotAt := nofun

theorem empty (hpos : 0 < capacity) : (Ring.empty capacity : Ring α).Holds capacity [] :=
  nil hpos Array.size_replicate rfl rfl rfl

theorem clear (h : r.Holds capacity as) : r.clear.Holds capacity [] :=
  nil (Nat.zero_lt_of_lt h.head_lt) (Array.size_replicate.trans h.capacity_eq) rfl rfl rfl

/-- The slot after the newest element is written to. -/
theorem append (h : r.Holds capacity as) (hroom : as.length < capacity)
    (hslots : m.slots = r.slots.setIfInBounds (r.slotAt as.length) (some a))
    (hhead : m.head = r.head) (htail : m.tail = r.slotAt as.length)
    (hsize : m.size = as.length + 1) : m.Holds capacity (as ++ [a]) := by
  have hcapacity := capacity_of_slots hslots
  have hlt := h.head_lt
  rw [← h.capacity_eq] at hroom hlt
  have hslot := slotAt_lt hlt (Nat.le_of_lt hroom)
  constructor
  · exact hcapacity.trans h.capacity_eq
  · exact hhead ▸ h.head_lt
  · simpa using hsize
  · simpa using h.capacity_eq ▸ hroom
  · rw [htail, slotAt_congr hhead hcapacity]
    simp
  · intro i b hb
    rw [slotAt_congr hhead hcapacity, get?_of_slots hslot hslots]
    rcases Nat.lt_trichotomy i as.length with hi | hi | hi
    · rw [List.getElem?_append_left hi] at hb
      have hother : r.slotAt i ≠ r.slotAt as.length := by
        rw [Ne, slotAt_inj (by omega) hroom]
        omega
      rw [if_neg hother]
      exact h.get?_slotAt i b hb
    · rw [hi] at hb ⊢
      rw [if_pos rfl]
      simpa using hb
    · rw [List.getElem?_append_right (Nat.le_of_lt hi)] at hb
      rw [List.getElem?_eq_none (by simp; omega)] at hb
      cases hb

/-- The slot of the oldest element is written to, and the head moves on. -/
theorem rotate (h : r.Holds capacity (oldest :: as)) (hfull : as.length + 1 = capacity)
    (hslots : m.slots = r.slots.setIfInBounds r.head (some a))
    (hhead : m.head = r.next r.head) (htail : m.tail = r.head)
    (hsize : m.size = capacity) : m.Holds capacity (as ++ [a]) := by
  have hcapacity := capacity_of_slots hslots
  have hlt := h.head_lt
  rw [← h.capacity_eq] at hfull hlt
  have hmoved (offset : Nat) (hoffset : offset < r.capacity) :
      m.slotAt offset = r.slotAt (offset + 1) :=
    slotAt_of_next hoffset hhead hcapacity
  constructor
  · exact hcapacity.trans h.capacity_eq
  · rw [hhead, next_head hlt, ← h.capacity_eq]
    exact slotAt_lt hlt (by omega)
  · rw [hsize, ← h.capacity_eq]
    simpa using hfull.symm
  · rw [← h.capacity_eq]
    simpa using Nat.le_of_eq hfull
  · rw [htail, hmoved _ (by simp; omega)]
    simp only [List.length_append, List.length_cons, List.length_nil, Nat.add_sub_cancel]
    rw [hfull, slotAt_capacity]
  · intro i b hb
    have hi : i < as.length + 1 := by
      have hlen := (List.getElem?_eq_some_iff.mp hb).1
      simpa using hlen
    rw [hmoved i (by omega), get?_of_slots hlt hslots]
    rcases Nat.lt_or_ge i as.length with hold | hnew
    · rw [List.getElem?_append_left hold] at hb
      have hother : r.slotAt (i + 1) ≠ r.head := by
        rw [← slotAt_zero hlt, Ne, slotAt_inj (by omega) (by omega)]
        omega
      rw [if_neg hother]
      exact h.get?_slotAt (i + 1) b (by simpa using hb)
    · have heq : i = as.length := by omega
      rw [heq] at hb ⊢
      rw [hfull, slotAt_capacity, if_pos rfl]
      simpa using hb

theorem insert_eq_of_room (h : r.Holds capacity as) (hroom : as.length < capacity) (a : α) :
    r.insert a =
      ({ r with
          slots := r.slots.setIfInBounds (r.slotAt as.length) (some a)
          tail := r.slotAt as.length
          size := as.length + 1
          edits := r.edits + 1 }, none) := by
  have hsize := h.size_eq
  have htail := h.tail_eq
  have hhead := h.head_lt
  have hcapacity := h.capacity_eq
  unfold insert
  by_cases hempty : r.size = 0
  · have hnone : as.length = 0 := hsize.symm.trans hempty
    rw [hnone] at htail ⊢
    rw [if_pos hempty, ← htail]
  · have hslot : r.next r.tail = r.slotAt as.length := by
      rw [htail, next_slotAt (by omega) (by omega)]
      congr 1
      omega
    rw [if_neg hempty, if_neg (by omega), hslot, hsize]

/-- A ring that is not full takes an element in and gives none up. -/
theorem insert_of_room (h : r.Holds capacity as) (hroom : as.length < capacity) (a : α) :
    (r.insert a).1.Holds capacity (as ++ [a]) ∧ (r.insert a).2 = none := by
  rw [h.insert_eq_of_room hroom]
  exact ⟨h.append hroom rfl rfl rfl rfl, rfl⟩

/-- A full ring gives up its oldest element. -/
theorem insert_of_full (h : r.Holds capacity (oldest :: as)) (hfull : as.length + 1 = capacity)
    (a : α) : (r.insert a).1.Holds capacity (as ++ [a]) ∧ (r.insert a).2 = some oldest := by
  have hsize := h.size_eq
  have htail := h.tail_eq
  have hhead := h.head_lt
  have hcapacity := h.capacity_eq
  simp only [List.length_cons] at hsize htail
  have hslot : r.next r.tail = r.head := by
    rw [htail, next_slotAt (by omega) (by omega), Nat.add_sub_cancel, hfull, ← hcapacity,
      slotAt_capacity]
  have holdest : r.get? r.head = some oldest := by
    have hget := h.get?_slotAt 0 oldest rfl
    rwa [slotAt_zero (by omega)] at hget
  unfold insert
  rw [if_neg (by omega), if_pos (by omega), hslot]
  exact ⟨h.rotate hfull rfl rfl rfl (by show r.size = capacity; omega), holdest⟩

end Holds

end FaultTolerance.Ring
