import FaultTolerance.Proofs.Ring.Queue

/-! What a cursor shows of a ring that is used while it walks.

A walk is a ring with one cursor on it, and each move of a walk either asks the cursor for its next
element or uses the ring. As long as nothing is edited the cursor stands at the elements that it has
not shown yet (`Current`), and shows one of them at each step. After an edit its count of edits
lies behind that of the ring (`Outdated`), and every other edit leaves it there: the cursor tells so
once and is over. So no answer mixes the elements from before an edit with those from after it
(**`cursor_shows_one_content`**). -/
namespace FaultTolerance.Ring
variable {α : Type}

/-! ### Walks -/

/-- A move of a walk. -/
inductive Move (α : Type) where
  /-- Asks the cursor for the next element. -/
  | step
  | use (u : Use α)
  deriving DecidableEq, Repr

def Move.isStep : Move α → Bool
  | step => true
  | use _ => false

def Move.isEdit : Move α → Bool
  | step => false
  | use u => u.isEdit

/-- A ring and a cursor on it. -/
structure Walk (α : Type) where
  ring : Ring α
  cursor : Cursor

namespace Walk

def next (w : Walk α) : Move α → Walk α
  | .step => { w with cursor := (w.cursor.next w.ring).1 }
  | .use u => { w with ring := (w.ring.use u).1 }

/-- What the cursor answers in the course of moves. -/
def answers (w : Walk α) : List (Move α) → List (Option (Except Error α))
  | [] => []
  | .step :: rest => (w.cursor.next w.ring).2 :: (w.next .step).answers rest
  | .use u :: rest => (w.next (.use u)).answers rest

theorem answers_append (w : Walk α) (before after : List (Move α)) :
    w.answers (before ++ after) = w.answers before ++ (before.foldl next w).answers after := by
  induction before generalizing w with
  | nil => rfl
  | cons m rest ih =>
    cases m with
    | step => exact congrArg ((w.cursor.next w.ring).2 :: ·) (ih _)
    | use u => exact ih _

end Walk

/-- So many answers of a cursor on elements that stay: each of them once, and then the end. -/
def shown (as : List α) (steps : Nat) : List (Option (Except Error α)) :=
  (as.take steps).map (fun a => some (.ok a)) ++ List.replicate (steps - as.length) none

/-- So many answers of a cursor after an edit: an error once, and then the end. -/
def outdated : (steps : Nat) → List (Option (Except Error α))
  | 0 => []
  | steps + 1 => some (.error .concurrentModification) :: List.replicate steps none

/-- The element of an answer. -/
def element? : Option (Except Error α) → Option α
  | some (.ok a) => some a
  | _ => none

theorem shown_succ (as : List α) (steps : Nat) :
    shown as (steps + 1) = as.head?.map .ok :: shown as.tail steps := by
  cases as with
  | nil => simp [shown, List.replicate_succ]
  | cons a as => simp [shown]

theorem elements_shown (as : List α) (steps : Nat) :
    (shown as steps).filterMap element? = as.take steps := by
  have helements : element? ∘ (fun a : α => some (Except.ok a)) = some := rfl
  rw [shown, List.filterMap_append, List.filterMap_map, helements, List.filterMap_some,
    List.filterMap_replicate_of_none rfl, List.append_nil]

theorem elements_outdated (steps : Nat) :
    (outdated steps : List (Option (Except Error α))).filterMap element? = [] := by
  cases steps with
  | zero => rfl
  | succ steps =>
    rw [outdated, List.filterMap_cons_none rfl, List.filterMap_replicate_of_none rfl]

/-! ### Steps -/

section Steps
variable {r : Ring α} {c : Cursor} {as : List α} {capacity : Nat}

theorem use_of_look {u : Use α} (h : u.isEdit = false) (r : Ring α) : (r.use u).1 = r := by
  cases u with
  | insert _ | poll | clear => cases h
  | peek | look => rfl

/-- A cursor that has told of an edit is over. -/
theorem Cursor.next_of_failed (h : c.failed = true) (r : Ring α) : c.next r = (c, none) := by
  unfold next
  rw [if_pos h]

theorem Cursor.next_of_edited (hactive : c.failed = false) (hedits : r.edits ≠ c.expectedEdits) :
    c.next r = ({ c with failed := true }, some (.error .concurrentModification)) := by
  unfold next
  rw [hactive, if_neg Bool.false_ne_true, if_pos hedits]

/-- A cursor on a ring that was not edited since: it stands at the first element that it has not
shown. -/
structure Current (r : Ring α) (c : Cursor) (as : List α) : Prop where
  active : c.failed = false
  edits_eq : r.edits = c.expectedEdits
  visited_le : c.visited ≤ as.length
  slot_eq : c.slot = r.slotAt c.visited

theorem Mirrors.current (h : r.Mirrors capacity as) : Current r r.cursor as where
  active := rfl
  edits_eq := rfl
  visited_le := Nat.zero_le _
  slot_eq := (slotAt_zero (h.capacity_eq ▸ h.head_lt)).symm

/-- It shows the next element, or the end. -/
theorem Current.next (hc : Current r c as) (h : r.Mirrors capacity as) :
    Current r (c.next r).1 as ∧ (c.next r).2 = as[c.visited]?.map .ok ∧
      as.drop (c.next r).1.visited = (as.drop c.visited).tail := by
  have hedits : ¬ r.edits ≠ c.expectedEdits := not_not_intro hc.edits_eq
  unfold Cursor.next
  rw [hc.active, if_neg Bool.false_ne_true, if_neg hedits, h.size_eq]
  by_cases hend : as.length ≤ c.visited
  · rw [if_pos hend, List.getElem?_eq_none hend, List.drop_of_length_le hend]
    exact ⟨hc, rfl, rfl⟩
  · have hlt : c.visited < as.length := Nat.lt_of_not_le hend
    have hroom : c.visited < r.capacity := h.capacity_eq ▸ Nat.lt_of_lt_of_le hlt h.length_le
    have hget : r.get? c.slot = some as[c.visited] := by
      rw [hc.slot_eq, h.get?_eq (h.capacity_eq ▸ hroom), List.getElem?_eq_getElem hlt]
    have hslot : r.next c.slot = r.slotAt (c.visited + 1) := by
      rw [hc.slot_eq, next_slotAt (h.capacity_eq ▸ h.head_lt) hroom]
    rw [if_neg hend, hget, List.getElem?_eq_getElem hlt]
    exact ⟨⟨rfl, hc.edits_eq, hlt, hslot⟩, rfl, List.tail_drop.symm⟩

/-- The ring was edited after the cursor was made, and the cursor has not told so yet. -/
structure Outdated (w : Walk α) : Prop where
  active : w.cursor.failed = false
  edited : w.cursor.expectedEdits < w.ring.edits

theorem edits_le_use (r : Ring α) (u : Use α) : r.edits ≤ (r.use u).1.edits := by
  rw [use_edits]
  exact Nat.le_add_right ..

theorem Current.edited (hc : Current r c as) {u : Use α} (hu : u.isEdit = true) :
    Outdated ⟨(r.use u).1, c⟩ := by
  refine ⟨hc.active, ?_⟩
  rw [← hc.edits_eq, use_edits, if_pos hu]
  exact Nat.lt_succ_self _

end Steps

/-! ### Runs -/

section Runs
variable {w : Walk α} {as : List α} {capacity : Nat}

/-- Without an edit a cursor shows what is left of the elements, one by one. -/
theorem Current.answers (hc : Current w.ring w.cursor as) (h : w.ring.Mirrors capacity as)
    (moves : List (Move α)) (hmoves : ∀ m ∈ moves, m.isEdit = false) :
    w.answers moves = shown (as.drop w.cursor.visited) (moves.countP Move.isStep) ∧
      Current (moves.foldl Walk.next w).ring (moves.foldl Walk.next w).cursor as ∧
      (moves.foldl Walk.next w).ring = w.ring := by
  induction moves generalizing w with
  | nil => exact ⟨by simp [Walk.answers, shown], hc, rfl⟩
  | cons m rest ih =>
    have hrest : ∀ m ∈ rest, m.isEdit = false := fun m hm => hmoves m (List.mem_cons_of_mem _ hm)
    cases m with
    | step =>
      obtain ⟨hnext, hanswer, hleft⟩ := hc.next h
      obtain ⟨hanswers, hafter⟩ := ih (w := w.next .step) hnext h hrest
      refine ⟨?_, hafter⟩
      rw [List.countP_cons_of_pos rfl, shown_succ, List.head?_drop, ← hleft, ← hanswer]
      exact congrArg ((w.cursor.next w.ring).2 :: ·) hanswers
    | use u =>
      have hu : u.isEdit = false := hmoves (.use u) (List.mem_cons_self ..)
      have hsame : w.next (.use u) = w := by
        unfold Walk.next
        dsimp only
        rw [use_of_look hu]
      rw [List.countP_cons_of_neg Bool.false_ne_true, Walk.answers, List.foldl_cons, hsame]
      exact ih hc h hrest

theorem answers_of_failed (h : w.cursor.failed = true) (moves : List (Move α)) :
    w.answers moves = List.replicate (moves.countP Move.isStep) none := by
  induction moves generalizing w with
  | nil => rfl
  | cons m rest ih =>
    cases m with
    | step =>
      have hnext : w.cursor.next w.ring = (w.cursor, none) := Cursor.next_of_failed h w.ring
      rw [List.countP_cons_of_pos rfl, List.replicate_succ, Walk.answers, Walk.next, hnext]
      exact congrArg (none :: ·) (ih h)
    | use u =>
      rw [List.countP_cons_of_neg Bool.false_ne_true]
      exact ih (w := w.next (.use u)) h

/-- After an edit a cursor tells so once, and is over. -/
theorem Outdated.answers (h : Outdated w) (moves : List (Move α)) :
    w.answers moves = outdated (moves.countP Move.isStep) := by
  induction moves generalizing w with
  | nil => rfl
  | cons m rest ih =>
    cases m with
    | step =>
      have hnext := Cursor.next_of_edited h.active (Nat.ne_of_gt h.edited)
      rw [List.countP_cons_of_pos rfl, Walk.answers, Walk.next, hnext, outdated]
      exact congrArg (_ :: ·) (answers_of_failed rfl rest)
    | use u =>
      rw [List.countP_cons_of_neg Bool.false_ne_true]
      exact ih (w := w.next (.use u))
        ⟨h.active, Nat.lt_of_lt_of_le h.edited (edits_le_use w.ring u)⟩

theorem edits_run (w : Walk α) (moves : List (Move α)) :
    (moves.foldl Walk.next w).ring.edits = w.ring.edits + moves.countP Move.isEdit := by
  induction moves generalizing w with
  | nil => rfl
  | cons m rest ih =>
    rw [List.foldl_cons, ih, List.countP_cons]
    cases m with
    | step => rfl
    | use u =>
      show (w.ring.use u).1.edits + _ = _
      rw [use_edits, Nat.add_assoc, Nat.add_comm (List.countP _ _)]
      rfl

end Runs

/-- The moves before the first edit. -/
def Move.undisturbed (moves : List (Move α)) : List (Move α) := moves.takeWhile (!·.isEdit)

/-- The moves from the first edit on. -/
def Move.disturbed (moves : List (Move α)) : List (Move α) := moves.dropWhile (!·.isEdit)

/-- How many numbers a word of 64 bits can show. -/
def wordCount : Nat := 0x10000000000000000

/-- **A cursor shows one content of its ring.** However a ring was used before a cursor is made and
is used while it walks, the answers of the cursor before the first edit are the elements that the
ring had when the cursor was made, the oldest first and each once, and then the end; those after it
are an error, once, and then the end. So its elements are the first ones of that content, and all
of it if it is asked often enough before anything is edited. A count of 64 bits tells as much as the
count of edits does, as long as there are fewer than 2⁶⁴ of them. -/
theorem cursor_shows_one_content {capacity : Nat} (h : 0 < capacity) :
    ∃ r : Ring α, Ring.ofCapacity capacity = .ok r ∧
      ∀ (uses : List (Use α)) (moves : List (Move α)),
        let ring := (useAll use r uses).1
        let steps := (Move.undisturbed moves).countP Move.isStep
        let walk : Walk α := ⟨ring, ring.cursor⟩
        walk.answers moves =
            shown ring.toList steps ++ outdated ((Move.disturbed moves).countP Move.isStep) ∧
          (walk.answers moves).filterMap element? = ring.toList.take steps ∧
          (moves.countP Move.isEdit < wordCount →
            ((moves.foldl Walk.next walk).ring.edits % wordCount = ring.edits % wordCount ↔
              ∀ m ∈ moves, m.isEdit = false)) := by
  refine ⟨.empty capacity, if_neg (Nat.ne_of_gt h), fun uses moves => ?_⟩
  have hmirrors := ((Mirrors.empty h).useAll uses).1
  intro ring steps walk
  have hlist : ring.toList = _ := hmirrors.toHolds.toList_eq
  have hring : ring.Mirrors capacity ring.toList := by rwa [hlist]
  have hquiet : ∀ m ∈ Move.undisturbed moves, m.isEdit = false := by
    intro m hm
    simpa using List.all_eq_true.mp List.all_takeWhile m hm
  obtain ⟨hshown, hcurrent, hsame⟩ :=
    (hring.current).answers (w := walk) hring (Move.undisturbed moves) hquiet
  have hsplit : moves = Move.undisturbed moves ++ Move.disturbed moves :=
    List.takeWhile_append_dropWhile.symm
  have hlate : ((Move.undisturbed moves).foldl Walk.next walk).answers (Move.disturbed moves) =
      outdated ((Move.disturbed moves).countP Move.isStep) := by
    cases hdisturbed : Move.disturbed moves with
    | nil => rfl
    | cons m rest =>
      have hm : m.isEdit = true := by
        have := List.head?_dropWhile_not (fun m : Move α => !m.isEdit) moves
        unfold Move.disturbed at hdisturbed
        rw [hdisturbed] at this
        simpa using this
      cases m with
      | step => cases hm
      | use u =>
        rw [List.countP_cons_of_neg Bool.false_ne_true]
        exact (hcurrent.edited hm).answers rest
  have hanswers : walk.answers moves =
      shown ring.toList steps ++ outdated ((Move.disturbed moves).countP Move.isStep) := by
    conv => lhs; rw [hsplit, Walk.answers_append, hlate, hshown]
    rfl
  refine ⟨hanswers, ?_, fun hfew => ?_⟩
  · rw [hanswers, List.filterMap_append, elements_shown, elements_outdated, List.append_nil]
  · have hedits : (moves.foldl Walk.next walk).ring.edits =
        ring.edits + moves.countP Move.isEdit := edits_run walk moves
    have hnone : moves.countP Move.isEdit = 0 ↔ ∀ m ∈ moves, m.isEdit = false := by
      simp [List.countP_eq_zero]
    rw [hedits, ← hnone]
    unfold wordCount at hfew ⊢
    omega

/-- A cursor goes around the end of the slots; the insertion after two steps reuses a slot that it
has shown, and polling the ring further changes nothing of what it tells. -/
theorem disturbed_walk_of_three :
    ∃ r : Ring Nat, Ring.ofCapacity 3 = .ok r ∧
      let ring := (useAll use r [.insert 0, .insert 1, .insert 2, .insert 3, .insert 4]).1
      Walk.answers ⟨ring, ring.cursor⟩
          [.step, .use .peek, .step, .use (.insert 5), .use .poll, .step, .step] =
        [some (.ok 2), some (.ok 3), some (.error .concurrentModification), none] := by
  obtain ⟨r, hr, hwalk⟩ := cursor_shows_one_content (α := Nat) (Nat.zero_lt_succ 2)
  refine ⟨r, hr, ?_⟩
  have hanswers := (hwalk [.insert 0, .insert 1, .insert 2, .insert 3, .insert 4]
    [.step, .use .peek, .step, .use (.insert 5), .use .poll, .step, .step]).1
  cases hr
  exact hanswers

end FaultTolerance.Ring
