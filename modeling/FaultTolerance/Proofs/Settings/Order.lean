import FaultTolerance.Proofs.Route
import FaultTolerance.Settings.Loading
import Mathlib.Order.WellFounded

/-! The order in which shared configurations are registered.

`BuildsOn` says which name builds on which. A list of names is `Ordered` if it has no name twice and
none before the one that it builds on. What `sharedOrder` answers is ordered and leaves out nothing
but the default configuration (`mem_sharedOrder`), and it answers unless the bases of some name
lead back to it. Then it fails with the route along bases that it took, up to the name at which that
closed (`placeAll_error`).

A walk is cut short at what is placed already, so an order has to be followed over all walks: each
one adds what it passed from its end on and leaves the rest as it is (`chainAfter_ordered`). A
failure needs no such thing, for it shows in the walk that fails.

The main theorems are **`sharedOrder_ok_iff`** and **`sharedOrder_sorts`**. -/
namespace FaultTolerance.Settings
open Registry (defaultName)
open Relation (TransGen)
variable {π κ τ : Type}

/-- The second name is what the block of the first one builds on. The block of the default
configuration builds on nothing. -/
def BuildsOn (base : π → Option String) (configs : Catalog π) (name other : String) : Prop :=
  name ≠ defaultName ∧ ∃ block, configs.find? name = some block ∧ base block = some other

/-- Names of blocks, each after the one that it builds on if there is a block of that name. -/
inductive Ordered (base : π → Option String) (configs : Catalog π) : List String → Prop
  | nil : Ordered base configs []
  | snoc {placed : List String} {name : String} {block : π} (hplaced : Ordered base configs placed)
    (hnew : name ∉ placed) (hname : name ≠ defaultName) (hfound : configs.find? name = some block)
    (hbase : ∀ other, base block = some other →
      other = defaultName ∨ other ∈ placed ∨ configs.find? other = none) :
    Ordered base configs (placed ++ [name])

section Order
variable {base : π → Option String} {configs : Catalog π} {heading start name other : String}
  {placed chain starts answer : List String}

theorem BuildsOn.mem_names (h : BuildsOn base configs name other) : name ∈ configs.names := by
  obtain ⟨-, block, hfound, -⟩ := h
  exact Catalog.mem_names.mpr ⟨block, hfound⟩

/-- A walk keeps what it has come by. -/
theorem chainAfter_keeps (h : chainAfter base configs placed chain name = .ok answer)
    (hmem : other ∈ chain) : other ∈ answer := by
  fun_induction chainAfter base configs placed chain name with
  | case1 | case2 =>
    cases h
    exact hmem
  | case3 => cases h
  | case4 =>
    cases h
    exact List.mem_append_left _ hmem
  | case5 _ _ _ _ _ _ _ _ ih => exact ih h (List.mem_append_left _ hmem)

/-- A walk comes by the block that it starts at. -/
theorem mem_chainAfter (h : chainAfter base configs placed [] name = .ok answer)
    (hname : name ≠ defaultName) (hplaced : name ∉ placed) (hfound : name ∈ configs.names) :
    name ∈ answer := by
  obtain ⟨block, hfound⟩ := Catalog.mem_names.mp hfound
  unfold chainAfter at h
  rw [if_neg (not_or.mpr ⟨hname, hplaced⟩)] at h
  split at h
  · next hnone =>
    rw [hfound] at hnone
    cases hnone
  · rw [dif_neg (List.not_mem_nil)] at h
    split at h
    · cases h
      exact List.mem_singleton.mpr rfl
    · exact chainAfter_keeps h (List.mem_singleton.mpr rfl)

theorem mem_place {names : List String} :
    name ∈ place placed names ↔ name ∈ placed ∨ name ∈ names := by
  unfold place
  induction names generalizing placed with
  | nil => simp
  | cons head rest ih =>
    rw [List.foldl_cons, ih]
    by_cases hhead : head ∈ placed
    · rw [if_pos hhead, List.mem_cons]
      constructor
      · rintro (hold | hrest)
        · exact .inl hold
        · exact .inr (.inr hrest)
      · rintro (hold | rfl | hrest)
        · exact .inl hold
        · exact .inl hhead
        · exact .inr hrest
    · rw [if_neg hhead, List.mem_append, List.mem_singleton, List.mem_cons, or_assoc]

/-- A block is placed by a walk that does not fail, and then the others are. -/
theorem placeAll_cons (h : placeAll heading base configs (start :: starts) placed = .ok answer) :
    ∃ chain, chainAfter base configs placed [] start = .ok chain ∧
      placeAll heading base configs starts (place placed chain.reverse) = .ok answer := by
  unfold placeAll at h
  cases hchain : chainAfter base configs placed [] start with
  | error e =>
    rw [hchain] at h
    cases h
  | ok chain =>
    rw [hchain] at h
    exact ⟨chain, rfl, h⟩

/-- Whatever is placed stays, and every block that a walk starts at gets placed. -/
theorem mem_placeAll (h : placeAll heading base configs starts placed = .ok answer) :
    (∀ name ∈ placed, name ∈ answer) ∧
      ∀ name ∈ starts, name ≠ defaultName → name ∈ configs.names → name ∈ answer := by
  induction starts generalizing placed with
  | nil =>
    cases h
    exact ⟨fun _ hmem => hmem, List.forall_mem_nil _⟩
  | cons start rest ih =>
    obtain ⟨chain, hchain, h⟩ := placeAll_cons h
    obtain ⟨hkept, hothers⟩ := ih h
    refine ⟨fun name hmem => hkept name (mem_place.mpr (.inl hmem)),
      List.forall_mem_cons.mpr ⟨fun hname hfound => hkept start (mem_place.mpr ?_), hothers⟩⟩
    by_cases hplaced : start ∈ placed
    · exact .inl hplaced
    · exact .inr (List.mem_reverse.mpr (mem_chainAfter hchain hname hplaced hfound))

/-- The order leaves out nothing but the default configuration. -/
theorem mem_sharedOrder {k : Kind π κ τ} (h : sharedOrder k configs = .ok answer)
    (hname : name ≠ defaultName) (hfound : name ∈ configs.names) : name ∈ answer :=
  (mem_placeAll h).2 name hfound hname hfound

/-! ### Bases come first -/

theorem place_append (placed names others : List String) :
    place placed (names ++ others) = place (place placed names) others :=
  List.foldl_append

theorem Ordered.place {block : π} (h : Ordered base configs placed) (hname : name ≠ defaultName)
    (hfound : configs.find? name = some block) (hbase : ∀ other, base block = some other →
      other = defaultName ∨ other ∈ placed ∨ configs.find? other = none) :
    Ordered base configs (place placed [name]) := by
  show Ordered base configs (if name ∈ placed then placed else placed ++ [name])
  split
  · exact h
  · next hnew => exact h.snoc hnew hname hfound hbase

/-- What a walk comes by is placed from its end on, so that it is in order. -/
theorem chainAfter_ordered (h : chainAfter base configs placed chain name = .ok answer) :
    ∃ walk, answer = chain ++ walk ∧
      (name = defaultName ∨ name ∈ place placed walk.reverse ∨ configs.find? name = none) ∧
      (Ordered base configs placed → Ordered base configs (place placed walk.reverse)) := by
  fun_induction chainAfter base configs placed chain name with
  | case1 chain name hstop =>
    cases h
    exact ⟨[], (List.append_nil _).symm, hstop.imp_right .inl, id⟩
  | case2 chain name _ hnone =>
    cases h
    exact ⟨[], (List.append_nil _).symm, .inr (.inr hnone), id⟩
  | case3 => cases h
  | case4 chain name hgoes block hfound _ hbase =>
    cases h
    refine ⟨[name], rfl, .inr (.inl (mem_place.mpr (.inr (List.mem_singleton.mpr rfl)))), ?_⟩
    refine fun h => h.place (not_or.mp hgoes).1 hfound fun other hother => ?_
    rw [hbase] at hother
    cases hother
  | case5 chain name hgoes block hfound _ next hbase ih =>
    obtain ⟨walk, rfl, hnext, hordered⟩ := ih h
    refine ⟨name :: walk, List.append_assoc .., .inr (.inl (mem_place.mpr (.inr (by simp)))), ?_⟩
    rw [List.reverse_cons, place_append]
    refine fun h => (hordered h).place (not_or.mp hgoes).1 hfound fun other hother => ?_
    cases hbase.symm.trans hother
    exact hnext

theorem placeAll_ordered (hplaced : Ordered base configs placed)
    (h : placeAll heading base configs starts placed = .ok answer) :
    Ordered base configs answer := by
  induction starts generalizing placed with
  | nil =>
    cases h
    exact hplaced
  | cons start rest ih =>
    obtain ⟨chain, hchain, h⟩ := placeAll_cons h
    obtain ⟨walk, rfl, -, hordered⟩ := chainAfter_ordered hchain
    exact ih (hordered hplaced) h

theorem sharedOrder_ordered {k : Kind π κ τ} (h : sharedOrder k configs = .ok answer) :
    Ordered k.base configs answer :=
  placeAll_ordered .nil h

namespace Ordered

theorem nodup (h : Ordered base configs placed) : placed.Nodup := by
  induction h with
  | nil => exact List.nodup_nil
  | snoc _ hnew _ _ _ ih => exact List.concat_eq_append ▸ List.Nodup.concat hnew ih

theorem of_mem (h : Ordered base configs placed) (hmem : name ∈ placed) :
    name ≠ defaultName ∧ name ∈ configs.names := by
  induction h with
  | nil => cases hmem
  | snoc _ _ hname hfound _ ih =>
    rcases List.mem_append.mp hmem with hbefore | hlast
    · exact ih hbefore
    · rw [List.mem_singleton.mp hlast]
      exact ⟨hname, Catalog.mem_names.mpr ⟨_, hfound⟩⟩

/-- A block that another one builds on comes before it. -/
theorem base_before (h : Ordered base configs placed) (hmem : name ∈ placed)
    (hbuilds : BuildsOn base configs name other) (hother : other ≠ defaultName)
    (hblock : other ∈ configs.names) : [other, name].Sublist placed := by
  induction h with
  | nil => cases hmem
  | @snoc placed last block hplaced _ _ hfound hbase ih =>
    rcases List.mem_append.mp hmem with hbefore | hlast
    · exact (ih hbefore).trans (List.sublist_append_left _ _)
    · obtain rfl := List.mem_singleton.mp hlast
      obtain ⟨-, block', hfound', hnext⟩ := hbuilds
      cases hfound.symm.trans hfound'
      have hplaced : other ∈ placed := by
        rcases hbase other hnext with hdefault | hplaced | hnone
        · exact absurd hdefault hother
        · exact hplaced
        · obtain ⟨_, hsome⟩ := Catalog.mem_names.mp hblock
          cases hnone.symm.trans hsome
      exact (List.singleton_sublist.mpr hplaced).append (List.Sublist.refl [name])

end Ordered

/-! ### Circles -/

/-- In an order all bases lead to an end. -/
theorem Ordered.acc (h : Ordered base configs placed) (hname : name ∈ placed) :
    Acc (fun other name => BuildsOn base configs name other) name := by
  induction h generalizing name with
  | nil => cases hname
  | @snoc placed last block _ _ _ hfound hbase ih =>
    rcases List.mem_append.mp hname with hbefore | hlast
    · exact ih hbefore
    · rw [List.mem_singleton.mp hlast]
      refine .intro _ fun other hbuilds => ?_
      obtain ⟨-, block', hfound', hother⟩ := hbuilds
      cases hfound.symm.trans hfound'
      rcases hbase other hother with rfl | hbefore | hnone
      · exact .intro _ fun _ hback => absurd rfl hback.1
      · exact ih hbefore
      · refine .intro _ fun _ hback => ?_
        obtain ⟨-, _, hsome, -⟩ := hback
        cases hnone.symm.trans hsome

/-- An order of all blocks leaves no room for a circle. -/
theorem Ordered.acyclic (h : Ordered base configs placed)
    (hall : ∀ name, name ≠ defaultName → name ∈ configs.names → name ∈ placed) (name : String) :
    ¬ TransGen (BuildsOn base configs) name name := by
  have hacc (name : String) : Acc (fun other name => BuildsOn base configs name other) name := by
    refine .intro _ fun other hbuilds => ?_
    have ⟨hname, block, hfound, _⟩ := hbuilds
    exact (h.acc (hall name hname (Catalog.mem_names.mpr ⟨block, hfound⟩))).inv hbuilds
  intro hback
  have hwf : WellFounded (fun other name => BuildsOn base configs name other) := ⟨hacc⟩
  exact hwf.transGen.irrefl.irrefl name (Relation.transGen_swap.mpr hback)

/-- A walk fails only where it comes back to a name that it has come by. -/
theorem chainAfter_error {e : Error} (hroute : Route (BuildsOn base configs) start chain name)
    (hfresh : chain.Nodup) (h : chainAfter base configs placed chain name = .error e) :
    ∃ path, e = .configurationCycle path ∧ Lasso (BuildsOn base configs) start path := by
  fun_induction chainAfter base configs placed chain name with
  | case1 | case2 | case4 => cases h
  | case3 chain name _ _ _ hback =>
    cases h
    exact ⟨_, rfl, hroute.lasso hfresh hback⟩
  | case5 chain name hgoes block hfound hnew next hbase ih =>
    have hbuilds : BuildsOn base configs name next :=
      ⟨(not_or.mp hgoes).1, block, hfound, hbase⟩
    exact ih (hroute.snoc hbuilds) (List.concat_eq_append ▸ List.Nodup.concat hnew hfresh) h

/-- The failure is reported at the block that the walk starts at. -/
theorem placeAll_error {f : Failure}
    (h : placeAll heading base configs starts placed = .error f) :
    ∃ start path, f = .resilience heading start (.configurationCycle path) ∧
      Lasso (BuildsOn base configs) start path := by
  induction starts generalizing placed with
  | nil => cases h
  | cons start rest ih =>
    unfold placeAll at h
    cases hchain : chainAfter base configs placed [] start with
    | error e =>
      rw [hchain] at h
      cases h
      obtain ⟨path, rfl, hlasso⟩ := chainAfter_error .start List.nodup_nil hchain
      exact ⟨start, path, rfl, hlasso⟩
    | ok chain =>
      rw [hchain] at h
      exact ih h

/-- **Shared configurations have an order unless the bases of one lead back to it.** -/
theorem sharedOrder_ok_iff {k : Kind π κ τ} :
    (∃ order, sharedOrder k configs = .ok order) ↔
      ∀ name, ¬ TransGen (BuildsOn k.base configs) name name := by
  constructor
  · rintro ⟨order, horder⟩
    exact (sharedOrder_ordered horder).acyclic fun _ hname hfound =>
      mem_sharedOrder horder hname hfound
  · intro hacyclic
    cases horder : sharedOrder k configs with
    | ok order => exact ⟨order, rfl⟩
    | error f =>
      obtain ⟨start, path, -, hlasso⟩ := placeAll_error horder
      obtain ⟨name, -, hback⟩ := hlasso.circles
      exact absurd hback (hacyclic name)

/-- **Every shared configuration comes once, after the one that it builds on.** That is so unless
bases lead from some block back to it, and then the answer is a path along bases, from the block at
which it is reported to the first name that comes up twice. -/
theorem sharedOrder_sorts (k : Kind π κ τ) (configs : Catalog π) :
    ((∀ name, ¬ TransGen (BuildsOn k.base configs) name name) →
      ∃ order, sharedOrder k configs = .ok order ∧ order.Nodup ∧
        (∀ name, name ∈ order ↔ name ≠ defaultName ∧ name ∈ configs.names) ∧
        ∀ name other, BuildsOn k.base configs name other → other ≠ defaultName →
          other ∈ configs.names → [other, name].Sublist order) ∧
    ((∃ name, TransGen (BuildsOn k.base configs) name name) →
      ∃ start path, path.length ≤ configs.length + 1 ∧
        sharedOrder k configs = .error (.resilience k.heading start (.configurationCycle path)) ∧
        Lasso (BuildsOn k.base configs) start path) := by
  refine ⟨fun hacyclic => ?_, fun hcyclic => ?_⟩
  · obtain ⟨order, horder⟩ := sharedOrder_ok_iff.mpr hacyclic
    have hordered := sharedOrder_ordered horder
    have hmem : ∀ name, name ∈ order ↔ name ≠ defaultName ∧ name ∈ configs.names := fun name =>
      ⟨hordered.of_mem, fun h => mem_sharedOrder horder h.1 h.2⟩
    refine ⟨order, horder, hordered.nodup, hmem, fun name other hbuilds => ?_⟩
    exact hordered.base_before ((hmem name).mpr ⟨hbuilds.1, hbuilds.mem_names⟩) hbuilds
  · cases horder : sharedOrder k configs with
    | ok order =>
      obtain ⟨name, hback⟩ := hcyclic
      exact absurd hback (sharedOrder_ok_iff.mp ⟨order, horder⟩ name)
    | error f =>
      obtain ⟨start, path, rfl, hlasso⟩ := placeAll_error horder
      have hlength : path.length ≤ configs.names.length + 1 :=
        hlasso.length_le fun _ _ => BuildsOn.mem_names
      rw [Catalog.names, List.length_map] at hlength
      exact ⟨start, path, hlength, rfl, hlasso⟩

/-- A chain that is named from its upper end on, and blocks that build on the default configuration
and on one that is not there. -/
def harbours : Catalog BulkheadBlock :=
  [("bay", { base := some "cove" }), ("cove", { base := some "reef" }), ("default", {}),
    ("dock", { base := some "default" }), ("lagoon", { base := some "ocean" }), ("reef", {})]

/-- A block that leads into a circle of two others. -/
def whirl : Catalog BulkheadBlock :=
  [("bay", { base := some "cove" }), ("cove", { base := some "reef" }),
    ("reef", { base := some "cove" })]

theorem harbours_sorts :
    (∀ name, ¬ TransGen (BuildsOn Kind.bulkhead.base harbours) name name) ∧
      (∃ order, sharedOrder .bulkhead harbours = .ok order ∧ order.Nodup ∧ "lagoon" ∈ order ∧
        ["cove", "bay"].Sublist order) ∧
      TransGen (BuildsOn Kind.bulkhead.base whirl) "cove" "cove" ∧
      ∃ start path, sharedOrder .bulkhead whirl =
          .error (.resilience "bulkhead" start (.configurationCycle path)) ∧
        Lasso (BuildsOn Kind.bulkhead.base whirl) start path := by
  have hacyclic : ∀ name, ¬ TransGen (BuildsOn Kind.bulkhead.base harbours) name name :=
    sharedOrder_ok_iff.mp ⟨["reef", "cove", "bay", "dock", "lagoon"], by decide +kernel⟩
  have hcyclic : TransGen (BuildsOn Kind.bulkhead.base whirl) "cove" "cove" :=
    .head ⟨by decide, _, rfl, rfl⟩ (.single ⟨by decide, _, rfl, rfl⟩)
  obtain ⟨order, horder, hdistinct, hmem, hbefore⟩ :=
    (sharedOrder_sorts .bulkhead harbours).1 hacyclic
  obtain ⟨start, path, -, hfailed, hlasso⟩ :=
    (sharedOrder_sorts .bulkhead whirl).2 ⟨"cove", hcyclic⟩
  refine ⟨hacyclic, ⟨order, horder, hdistinct, ?_, ?_⟩, hcyclic, start, path, hfailed, hlasso⟩
  · exact (hmem "lagoon").mpr ⟨by decide, by decide⟩
  · exact hbefore "bay" "cove" ⟨by decide, _, rfl, rfl⟩ (by decide) (by decide)

end Order

end FaultTolerance.Settings
