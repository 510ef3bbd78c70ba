/-! Runs of a system that takes one input after the other.

`next` is the step of the system; a run is a fold of it over the inputs. Those who take part in a
run are kept in a list, in the order in which they came, and counted by what has become of them. -/
namespace FaultTolerance

section Runs
variable {σ ι : Type} (next : σ → ι → σ)

/-- A property of the state that holds before a run and after each of its inputs. -/
def Always (P : σ → Prop) (s : σ) : List ι → Prop
  | [] => P s
  | i :: rest => P s ∧ Always P (next s i) rest

instance decidableAlways (P : σ → Prop) [DecidablePred P] :
    (s : σ) → (inputs : List ι) → Decidable (Always next P s inputs)
  | s, [] => inferInstanceAs (Decidable (P s))
  | s, i :: rest =>
    have := decidableAlways P (next s i) rest
    inferInstanceAs (Decidable (P s ∧ Always next P (next s i) rest))

variable {next}

theorem Always.head {P : σ → Prop} {s : σ} {inputs : List ι} (h : Always next P s inputs) :
    P s := by
  cases inputs with
  | nil => exact h
  | cons _ _ => exact h.1

/-- What every step keeps holds at the end of a run. Steps may rely on what always holds and on what
is known of the inputs. -/
theorem run_preserves {P R : σ → Prop} {Q : ι → Prop}
    (hstep : ∀ s i, Q i → R s → P s → P (next s i)) (s : σ) (inputs : List ι)
    (hq : ∀ i ∈ inputs, Q i) (hr : Always next R s inputs) (h : P s) :
    P (inputs.foldl next s) := by
  induction inputs generalizing s with
  | nil => exact h
  | cons i rest ih =>
    obtain ⟨hnow, hlater⟩ := hr
    have hnext := hstep s i (hq i (List.mem_cons_self ..)) hnow h
    exact ih _ (fun j hj => hq j (List.mem_cons_of_mem _ hj)) hlater hnext

end Runs

/-! ### Counting -/

section Counting
variable {α : Type} (p : α → Bool) {as : List α}

theorem countP_enter (as : List α) (a : α) :
    (as ++ [a]).countP p = as.countP p + (p a).toNat := by
  rw [List.countP_append, List.countP_singleton]
  cases p a <;> rfl

/-- Who changes counts as what it has become, and no longer as what it was. -/
theorem countP_change {i : Nat} {old : α} (hold : as[i]? = some old) (new : α) :
    (as.set i new).countP p + (p old).toNat = as.countP p + (p new).toNat := by
  obtain ⟨hlt, hget⟩ := List.getElem?_eq_some_iff.mp hold
  have hcounted : p old → 0 < as.countP p := by
    intro hp
    exact List.countP_pos_iff.mpr ⟨_, List.mem_of_getElem? hold, hp⟩
  rw [List.countP_set hlt, hget]
  cases hp : p old with
  | false => cases p new <;> simp
  | true =>
    have hpos := hcounted hp
    cases p new <;> simp <;> omega

end Counting

end FaultTolerance
