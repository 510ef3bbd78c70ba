import Mathlib.Data.List.Chain
import Mathlib.Data.List.Nodup
import Mathlib.Data.List.Perm.Subperm
import Mathlib.Logic.Relation

/-! Routes along a relation, with what they pass.

Whoever takes a step at a time and keeps a list of what was passed either comes to an end or comes
back to something on the list: the list and that are a `Lasso`. Where there is at most one step to
take, a route to an end passes nothing twice (`Route.nodup_of_end`), and a route that passes nothing
twice is no longer than there are places to step from (`Route.length_le`). -/
namespace FaultTolerance
open Relation (ReflTransGen TransGen)

/-- Steps lead from the start past the elements of the list, in this order, to the last one. -/
inductive Route {α : Type} (step : α → α → Prop) (start : α) : List α → α → Prop
  | start : Route step start [] start
  | snoc {passed : List α} {last next : α} (hroute : Route step start passed last)
    (hstep : step last next) : Route step start (passed ++ [last]) next

/-- A path from the start, a step at a time, that ends the first time that it comes back to where it
has been. -/
structure Lasso {α : Type} (step : α → α → Prop) (start : α) (path : List α) : Prop where
  starts : path.head? = some start
  linked : path.IsChain step
  fresh : path.dropLast.Nodup
  back : ∃ last ∈ path.dropLast, path.getLast? = some last

section Routes
variable {α : Type} {step : α → α → Prop} {start last a : α} {passed path : List α}

/-- Where there is at most one step to take, whoever comes to an end never came back. -/
theorem acyclic_of_end (hunique : ∀ ⦃a b c⦄, step a b → step a c → b = c)
    (hleads : ReflTransGen step a last) (hend : ∀ next, ¬ step last next) :
    ¬ TransGen step a a := by
  induction hleads using ReflTransGen.head_induction_on with
  | refl =>
    intro hback
    obtain ⟨next, hstep, -⟩ := TransGen.head'_iff.mp hback
    exact hend next hstep
  | head hstep _ ih =>
    intro hback
    obtain ⟨next, hnext, hrest⟩ := TransGen.head'_iff.mp hback
    obtain rfl := hunique hstep hnext
    exact ih (.tail' hrest hstep)

namespace Route

theorem leads (h : Route step start passed last) : ReflTransGen step start last := by
  induction h with
  | start => exact .refl
  | snoc _ hstep ih => exact .tail ih hstep

theorem cons (hstep : step a start) (h : Route step start passed last) :
    Route step a (a :: passed) last := by
  induction h with
  | start => exact .snoc .start hstep
  | snoc _ hnext ih => exact .snoc ih hnext

/-- What was passed leads on to the last element. -/
theorem of_mem (h : Route step start passed last) (hmem : a ∈ passed) : TransGen step a last := by
  induction h with
  | start => cases hmem
  | snoc _ hstep ih =>
    rcases List.mem_append.mp hmem with hbefore | hnow
    · exact .tail (ih hbefore) hstep
    · rw [List.mem_singleton.mp hnow]
      exact .single hstep

/-- A route to an end passes nothing twice, and the end not at all. -/
theorem nodup_of_end (h : Route step start passed last)
    (hunique : ∀ ⦃a b c⦄, step a b → step a c → b = c) (hend : ∀ next, ¬ step last next) :
    passed.Nodup ∧ last ∉ passed := by
  have hacyclic : ∀ a ∈ passed, ¬ TransGen step a a := fun a hmem =>
    acyclic_of_end hunique (h.of_mem hmem).to_reflTransGen hend
  refine ⟨?_, fun hmem => hacyclic last hmem (h.of_mem hmem)⟩
  clear hend
  induction h with
  | start => exact List.nodup_nil
  | @snoc passed last _ hroute _ ih =>
    have hnew : last ∉ passed := fun hmem =>
      hacyclic last (List.mem_append_right _ (List.mem_singleton.mpr rfl)) (hroute.of_mem hmem)
    have hbefore : passed.Nodup := ih fun a hmem => hacyclic a (List.mem_append_left _ hmem)
    exact List.concat_eq_append ▸ List.Nodup.concat hnew hbefore

/-- A route that passes nothing twice is no longer than there are places to step from. -/
theorem length_le {places : List α} (h : Route step start passed last) (hfresh : passed.Nodup)
    (hplaces : ∀ a next, step a next → a ∈ places) : passed.length ≤ places.length := by
  refine (hfresh.subperm fun a hmem => ?_).length_le
  obtain ⟨next, hstep, -⟩ := TransGen.head'_iff.mp (h.of_mem hmem)
  exact hplaces a next hstep

/-! ### Lassos -/

theorem head? (h : Route step start passed last) : (passed ++ [last]).head? = some start := by
  induction h with
  | start => rfl
  | snoc _ _ ih =>
    rw [List.head?_append, ih]
    rfl

theorem isChain (h : Route step start passed last) : (passed ++ [last]).IsChain step := by
  induction h with
  | start => exact List.isChain_singleton _
  | snoc _ hstep ih =>
    refine List.isChain_append.mpr ⟨ih, List.isChain_singleton _, ?_⟩
    simpa using hstep

theorem of_isChain (hstarts : (passed ++ [last]).head? = some start)
    (hlinked : (passed ++ [last]).IsChain step) : Route step start passed last := by
  induction passed using List.reverseRecOn generalizing last with
  | nil =>
    cases hstarts
    exact .start
  | append_singleton passed before ih =>
    obtain ⟨hbefore, -, hstep⟩ := List.isChain_append.mp hlinked
    rw [List.head?_append_of_ne_nil _ (by simp)] at hstarts
    exact .snoc (ih hstarts hbefore) (hstep before (by simp) last (by simp))

theorem lasso (h : Route step start passed last) (hfresh : passed.Nodup) (hback : last ∈ passed) :
    Lasso step start (passed ++ [last]) where
  starts := h.head?
  linked := h.isChain
  fresh := by rwa [List.dropLast_concat]
  back := ⟨last, by rwa [List.dropLast_concat], List.getLast?_concat⟩

end Route

namespace Lasso

/-- A lasso is a route with the element that it comes back to. -/
theorem route (h : Lasso step start path) : ∃ passed last, path = passed ++ [last] ∧
    Route step start passed last ∧ passed.Nodup ∧ last ∈ passed := by
  obtain ⟨last, hback, hlast⟩ := h.back
  have hpath : path.dropLast ++ [last] = path := List.dropLast_append_getLast? last hlast
  refine ⟨path.dropLast, last, hpath.symm, .of_isChain ?_ ?_, h.fresh, hback⟩
  · rw [hpath]
    exact h.starts
  · rw [hpath]
    exact h.linked

theorem length_le {places : List α} (h : Lasso step start path)
    (hplaces : ∀ a next, step a next → a ∈ places) : path.length ≤ places.length + 1 := by
  obtain ⟨passed, last, rfl, hroute, hfresh, -⟩ := h.route
  rw [List.length_append]
  exact Nat.add_le_add_right (hroute.length_le hfresh hplaces) 1

/-- A lasso ends on a circle. -/
theorem circles (h : Lasso step start path) :
    ∃ last, ReflTransGen step start last ∧ TransGen step last last := by
  obtain ⟨passed, last, -, hroute, -, hback⟩ := h.route
  exact ⟨last, hroute.leads, hroute.of_mem hback⟩

end Lasso

end Routes

end FaultTolerance
