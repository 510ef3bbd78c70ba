/-!
Values by name. A catalog is a list of pairs in which no operation repeats a name; a value that is
put under a known name takes the old one's place.
-/

namespace FaultTolerance

abbrev Catalog (α : Type) : Type := List (String × α)

namespace Catalog

variable {α : Type}

def find? : Catalog α → String → Option α
  | [], _ => none
  | (key, a) :: rest, name => if key = name then some a else find? rest name

def put : Catalog α → String → α → Catalog α
  | [], name, a => [(name, a)]
  | (key, b) :: rest, name, a =>
    if key = name then (name, a) :: rest else (key, b) :: put rest name a

def erase (c : Catalog α) (name : String) : Catalog α := c.filter (·.1 ≠ name)

/-- Puts back what a name has stood for, or takes the name out if it has stood for nothing. -/
def restore (c : Catalog α) (name : String) : Option α → Catalog α
  | some a => c.put name a
  | none => c.erase name

def names (c : Catalog α) : List String := c.map (·.1)

/-- Puts every pair of the second catalog into the first. -/
def merge (c d : Catalog α) : Catalog α := d.foldl (fun c (name, a) => c.put name a) c

@[simp] theorem find?_put_self (c : Catalog α) (name : String) (a : α) :
    (c.put name a).find? name = some a := by
  induction c with
  | nil => simp [put, find?]
  | cons p rest ih => by_cases h : p.1 = name <;> simp [put, find?, h, ih]

theorem find?_put_of_ne (c : Catalog α) {name other : String} (a : α) (h : name ≠ other) :
    (c.put name a).find? other = c.find? other := by
  induction c with
  | nil => simp [put, find?, h]
  | cons p rest ih =>
    by_cases hp : p.1 = name
    · subst hp
      simp [put, find?, h]
    · by_cases ho : p.1 = other
      · rw [put, if_neg hp]
        simp [find?, ho]
      · rw [put, if_neg hp]
        simp [find?, ho, ih]

@[simp] theorem find?_cons_self (c : Catalog α) (name : String) (a : α) :
    find? ((name, a) :: c) name = some a := if_pos rfl

theorem find?_cons_of_ne (c : Catalog α) {name other : String} (a : α) (h : name ≠ other) :
    find? ((name, a) :: c) other = find? c other := if_neg h

@[simp] theorem find?_erase_self (c : Catalog α) (name : String) :
    (c.erase name).find? name = none := by
  induction c with
  | nil => rfl
  | cons p rest ih => by_cases hp : p.1 = name <;> simp_all [erase, find?]

theorem find?_erase_of_ne (c : Catalog α) {name other : String} (h : name ≠ other) :
    (c.erase name).find? other = c.find? other := by
  induction c with
  | nil => rfl
  | cons p rest ih =>
    by_cases hp : p.1 = name
    · simp_all [erase, find?]
    · by_cases ho : p.1 = other <;> simp_all [erase, find?]

theorem put_put_self (c : Catalog α) (name : String) (a b : α) :
    (c.put name a).put name b = c.put name b := by
  induction c with
  | nil => simp [put]
  | cons p rest ih => by_cases h : p.1 = name <;> simp [put, h, ih]

/-- A name that stands for a value may as well be given it. -/
theorem put_of_find? {c : Catalog α} {name : String} {a : α} (h : c.find? name = some a) :
    c.put name a = c := by
  induction c with
  | nil => cases h
  | cons p rest ih =>
    obtain ⟨key, b⟩ := p
    by_cases hp : key = name
    · subst hp
      rw [find?_cons_self] at h
      cases h
      simp [put]
    · rw [find?_cons_of_ne _ _ hp] at h
      simp [put, hp, ih h]

theorem erase_put {c : Catalog α} {name : String} (h : c.find? name = none) (a : α) :
    (c.put name a).erase name = c := by
  induction c with
  | nil => simp [put, erase]
  | cons p rest ih =>
    obtain ⟨key, b⟩ := p
    by_cases hp : key = name
    · subst hp
      rw [find?_cons_self] at h
      cases h
    · rw [find?_cons_of_ne _ _ hp] at h
      have hrest := ih h
      unfold erase at hrest ⊢
      rw [put, if_neg hp, List.filter_cons_of_pos (by simpa using hp), hrest]

/-- What a value has replaced comes back. -/
theorem restore_put (c : Catalog α) (name : String) (a : α) :
    (c.put name a).restore name (c.find? name) = c := by
  cases hfound : c.find? name with
  | some old => exact (put_put_self c name a old).trans (put_of_find? hfound)
  | none => exact erase_put hfound a

theorem mem_of_find? {c : Catalog α} {name : String} {a : α} (h : c.find? name = some a) :
    (name, a) ∈ c := by
  induction c with
  | nil => simp [find?] at h
  | cons p rest ih =>
    by_cases hp : p.1 = name
    · obtain ⟨key, b⟩ := p
      simp_all [find?]
    · rw [find?, if_neg hp] at h
      exact List.mem_cons_of_mem _ (ih h)

theorem mem_names {c : Catalog α} {name : String} :
    name ∈ c.names ↔ ∃ a, c.find? name = some a := by
  induction c with
  | nil => simp [find?, names]
  | cons p rest ih =>
    by_cases hp : p.1 = name
    · simp [find?, names, hp]
    · simpa [find?, names, hp, Ne.symm hp] using ih

@[simp] theorem mem_names_put {c : Catalog α} {name other : String} {a : α} :
    other ∈ (c.put name a).names ↔ other = name ∨ other ∈ c.names := by
  simp only [mem_names]
  by_cases h : name = other
  · simp [← h]
  · simp [find?_put_of_ne c a h, Ne.symm h]

/-- How many entries have other names than the given ones. A walk along names that ends when a name
comes up twice gets shorter by this measure (`unseen_lt`). -/
def unseen (c : Catalog α) (seen : List String) : Nat := (c.filter (·.1 ∉ seen)).length

theorem unseen_lt {c : Catalog α} {seen : List String} {name : String} {a : α}
    (fresh : name ∉ seen) (found : c.find? name = some a) :
    c.unseen (seen ++ [name]) < c.unseen seen := by
  have split : c.filter (·.1 ∉ seen ++ [name]) =
      (c.filter (·.1 ∉ seen)).filter (·.1 ≠ name) := by
    rw [List.filter_filter]
    congr
    funext p
    simp [Bool.and_comm]
  rw [unseen, unseen, split]
  refine List.length_filter_lt_length_iff_exists.2 ⟨(name, a), ?_, by simp⟩
  simpa using ⟨mem_of_find? found, fresh⟩

end Catalog

end FaultTolerance
