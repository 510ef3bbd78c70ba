import FaultTolerance.Error

/-!
A queue of fixed capacity that drops its oldest element when it is full.

The elements lie in a circle of slots, from `head` up to `tail`. `Ring.toList` reads them oldest
first; every operation is a list operation on that view. The ring counts its edits, so a cursor
that walks it can tell that the ring has changed under it and stop with an error instead of mixing
old and new contents.
-/

namespace FaultTolerance

structure Ring (α : Type) where
  slots : Array (Option α)
  /-- The slot of the oldest element. -/
  head : Nat := 0
  /-- The slot of the newest element. -/
  tail : Nat := 0
  size : Nat := 0
  /-- How often the ring was written to. -/
  edits : Nat := 0
  deriving Repr

namespace Ring

variable {α : Type}

def capacity (r : Ring α) : Nat := r.slots.size

/-- A ring of empty slots. -/
def empty (capacity : Nat) : Ring α := { slots := Array.replicate capacity none }

/-- An empty ring. It must have room for one element at least. -/
def ofCapacity (capacity : Nat) : Except Error (Ring α) :=
  if capacity = 0 then .error (.invalidConfig "ring buffer capacity must be greater than 0")
  else .ok (empty capacity)

def isEmpty (r : Ring α) : Bool := r.size = 0

def isFull (r : Ring α) : Bool := r.size = r.capacity

/-- The slot after a slot, around the circle. -/
def next (r : Ring α) (slot : Nat) : Nat := if slot + 1 = r.capacity then 0 else slot + 1

/-- What a slot holds. -/
def get? (r : Ring α) (slot : Nat) : Option α := r.slots[slot]?.join

/-- The elements of `count` slots from `slot` on. -/
def read (r : Ring α) : (count slot : Nat) → List α
  | 0, _ => []
  | count + 1, slot => (r.get? slot).toList ++ r.read count (r.next slot)

/-- The elements, oldest first. -/
def toList (r : Ring α) : List α := r.read r.size r.head

/-- Adds an element at the new end. A full ring gives up its oldest element for it. -/
def insert (r : Ring α) (a : α) : Ring α × Option α :=
  if r.size = 0 then
    ({ r with
        slots := r.slots.setIfInBounds r.tail (some a)
        size := 1
        edits := r.edits + 1 }, none)
  else
    let tail := r.next r.tail
    if r.size = r.capacity then
      let evicted := r.get? tail
      ({ r with
          slots := r.slots.setIfInBounds tail (some a)
          head := r.next r.head
          tail
          edits := r.edits + 1 }, evicted)
    else
      ({ r with
          slots := r.slots.setIfInBounds tail (some a)
          tail
          size := r.size + 1
          edits := r.edits + 1 }, none)

/-- Takes the oldest element out. -/
def poll (r : Ring α) : Ring α × Option α :=
  if r.size = 0 then ({ r with edits := r.edits + 1 }, none)
  else
    ({ r with
        slots := r.slots.setIfInBounds r.head none
        head := if r.size = 1 then r.head else r.next r.head
        size := r.size - 1
        edits := r.edits + 1 }, r.get? r.head)

/-- Empties every slot. -/
def clear (r : Ring α) : Ring α :=
  { slots := Array.replicate r.capacity none, edits := r.edits + 1 }

/-- The oldest element. -/
def peek (r : Ring α) : Option α := if r.size = 0 then none else r.get? r.head

/-- Inserts elements one after the other. -/
def insertAll (r : Ring α) (as : List α) : Ring α := as.foldl (fun r a => (r.insert a).1) r

def describe (r : Ring α) : String :=
  Text.record "ConcurrentRingBuffer"
    [("capacity", toString r.capacity), ("len", toString r.size),
      ("modifications", toString r.edits)]

/-! ### Cursors -/

/-- A walk over a ring, valid for one count of edits. -/
structure Cursor where
  slot : Nat
  visited : Nat := 0
  expectedEdits : Nat
  failed : Bool := false
  deriving DecidableEq, Repr

/-- A cursor at the oldest element. -/
def cursor (r : Ring α) : Cursor := { slot := r.head, expectedEdits := r.edits }

/-- The next element of the walk: `none` at its end, an error once after the ring was edited. -/
def Cursor.next (c : Cursor) (r : Ring α) : Cursor × Option (Except Error α) :=
  if c.failed then (c, none)
  else if r.edits ≠ c.expectedEdits then
    ({ c with failed := true }, some (.error .concurrentModification))
  else if r.size ≤ c.visited then (c, none)
  else
    match r.get? c.slot with
    | some a => ({ c with slot := r.next c.slot, visited := c.visited + 1 }, some (.ok a))
    | none => ({ c with failed := true }, some (.error .concurrentModification))

/-- All answers of a cursor, up to `limit` of them. -/
def Cursor.drain (r : Ring α) : (limit : Nat) → Cursor → List (Except Error α)
  | 0, _ => []
  | limit + 1, c =>
    match c.next r with
    | (c, some answer) => answer :: drain r limit c
    | (_, none) => []

/-- Everything that a fresh walk yields. -/
def walk (r : Ring α) : List (Except Error α) := r.cursor.drain r (r.size + 1)

end Ring

end FaultTolerance
