import FaultTolerance.Proofs.Route
import FaultTolerance.Registry.Basic

/-! What shared configurations resolve to.

`Resolves` says it without a walk: a complete configuration stands for itself, and a derived one is
a change of what its base resolves to. A name fails to resolve exactly if its bases lead to a name
that is not there (`Dangles`) or round in a circle (`Circles`). `Finds` says the same of the route
along the bases, with the answer in every case: what the names on it change (`changedBy`), which one
is missing, or the path that runs into itself. The walk is followed once: whatever it finds from the
end of a route on, the changes of what the route has passed are still to come (`resolve_along`).

A new definition is checked by resolving the one name that it defines. That is enough for all of
them: whoever led to that name still does, and resolves because it does (`Resolves.put`).

The main theorems are **`resolve_follows_bases`** and **`registered_resolve`**. -/
namespace FaultTolerance.Registry
open Relation (ReflTransGen TransGen)
variable {κ τ : Type} {templates : Catalog (Template κ)} {name last other : String} {c d : κ}
  {seen passed : List String}

/-! ### Bases -/

/-- The second name is the base of the first. -/
def BasedOn (templates : Catalog (Template κ)) (name base : String) : Prop :=
  ∃ change, templates.find? name = some (.derived base change)

/-- Bases lead to a name that is not there. -/
def Dangles (templates : Catalog (Template κ)) (name : String) : Prop :=
  ∃ other, ReflTransGen (BasedOn templates) name other ∧ templates.find? other = none

/-- Bases lead to a name that they lead back to. -/
def Circles (templates : Catalog (Template κ)) (name : String) : Prop :=
  ∃ other, ReflTransGen (BasedOn templates) name other ∧
    TransGen (BasedOn templates) other other

theorem BasedOn.unique {base : String} (h : BasedOn templates name base)
    (hother : BasedOn templates name other) : base = other := by
  obtain ⟨change, hfound⟩ := h
  obtain ⟨change', hfound'⟩ := hother
  cases hfound.symm.trans hfound'
  rfl

theorem BasedOn.mem_names (h : BasedOn templates name other) : name ∈ templates.names := by
  obtain ⟨change, hfound⟩ := h
  exact Catalog.mem_names.mpr ⟨_, hfound⟩

theorem not_basedOn_of_complete (hfound : templates.find? name = some (.complete c))
    (base : String) : ¬ BasedOn templates name base := by
  rintro ⟨change, hderived⟩
  cases hfound.symm.trans hderived

theorem not_basedOn_of_missing (hnone : templates.find? name = none) (base : String) :
    ¬ BasedOn templates name base := by
  rintro ⟨change, hderived⟩
  cases hnone.symm.trans hderived

/-- What a name stands for, by the bases that it leads to. -/
inductive Resolves (templates : Catalog (Template κ)) : String → κ → Prop
  | complete {name : String} {config : κ}
    (hfound : templates.find? name = some (.complete config)) : Resolves templates name config
  | derived {name base : String} {change : κ → κ} {c : κ}
    (hfound : templates.find? name = some (.derived base change))
    (hbase : Resolves templates base c) : Resolves templates name (change c)

namespace Resolves

theorem found (h : Resolves templates name c) : templates.find? name ≠ none := by
  cases h with
  | complete hfound | derived hfound _ => simp [hfound]

theorem of_basedOn {base : String} (h : Resolves templates name c)
    (hbased : BasedOn templates name base) : ∃ d, Resolves templates base d := by
  obtain ⟨change, hderived⟩ := hbased
  cases h with
  | complete hfound => cases hfound.symm.trans hderived
  | derived hfound hbase =>
    cases hfound.symm.trans hderived
    exact ⟨_, hbase⟩

/-- Every name on the way resolves as well. -/
theorem of_leads (h : Resolves templates name c)
    (hleads : ReflTransGen (BasedOn templates) name other) : ∃ d, Resolves templates other d := by
  induction hleads with
  | refl => exact ⟨c, h⟩
  | tail _ hbased ih =>
    obtain ⟨d, hd⟩ := ih
    exact hd.of_basedOn hbased

theorem ends (h : Resolves templates name c) : ∃ last,
    ReflTransGen (BasedOn templates) name last ∧ ∀ base, ¬ BasedOn templates last base := by
  induction h with
  | complete hfound => exact ⟨_, .refl, not_basedOn_of_complete hfound⟩
  | derived hfound _ ih =>
    obtain ⟨last, hleads, hend⟩ := ih
    exact ⟨last, .head ⟨_, hfound⟩ hleads, hend⟩

/-- The way does not come back. -/
theorem acyclic (h : Resolves templates name c) : ¬ TransGen (BasedOn templates) name name := by
  obtain ⟨last, hleads, hend⟩ := h.ends
  exact acyclic_of_end (fun _ _ _ => BasedOn.unique) hleads hend

/-- A definition of another name changes what a name stands for, but not that it stands for
something, as long as the other name does. -/
theorem put {t : Template κ} (h : Resolves templates name c)
    (hother : Resolves (templates.put other t) other d) :
    ∃ e, Resolves (templates.put other t) name e := by
  induction h with
  | @complete name config hfound =>
    by_cases hsame : other = name
    · exact ⟨d, hsame ▸ hother⟩
    · exact ⟨config, .complete ((Catalog.find?_put_of_ne _ _ hsame).trans hfound)⟩
  | @derived name base change c hfound _ ih =>
    by_cases hsame : other = name
    · exact ⟨d, hsame ▸ hother⟩
    · obtain ⟨e, he⟩ := ih
      exact ⟨change e, .derived ((Catalog.find?_put_of_ne _ _ hsame).trans hfound) he⟩

/-- A definition of a name that was not there changes nothing. -/
theorem put_new {t : Template κ} (h : Resolves templates name c)
    (hnew : other ∉ templates.names) : Resolves (templates.put other t) name c := by
  have hne {name : String} (hfound : templates.find? name ≠ none) : other ≠ name := by
    rintro rfl
    obtain ⟨u, hu⟩ := Option.ne_none_iff_exists'.mp hfound
    exact hnew (Catalog.mem_names.mpr ⟨u, hu⟩)
  induction h with
  | complete hfound =>
    exact .complete ((Catalog.find?_put_of_ne _ _ (hne (by simp [hfound]))).trans hfound)
  | derived hfound _ ih =>
    exact .derived ((Catalog.find?_put_of_ne _ _ (hne (by simp [hfound]))).trans hfound) ih

end Resolves

/-! ### The walk -/

theorem resolveAfter_complete (hnew : name ∉ seen)
    (hfound : templates.find? name = some (.complete c)) :
    resolveAfter templates seen name = .ok c := by
  unfold resolveAfter
  rw [dif_neg hnew]
  split <;> next hmatch => cases hfound.symm.trans hmatch <;> rfl

theorem resolveAfter_derived {base : String} {change : κ → κ} (hnew : name ∉ seen)
    (hfound : templates.find? name = some (.derived base change)) :
    resolveAfter templates seen name =
      (resolveAfter templates (seen ++ [name]) base).map change := by
  conv_lhs => unfold resolveAfter
  rw [dif_neg hnew]
  split <;> next hmatch => cases hfound.symm.trans hmatch <;> rfl

theorem resolveAfter_missing (hnew : name ∉ seen) (hnone : templates.find? name = none) :
    resolveAfter templates seen name = .error (.unknownConfiguration name) := by
  unfold resolveAfter
  rw [dif_neg hnew]
  split <;> next hmatch => cases hnone.symm.trans hmatch <;> rfl

/-! ### Routes along bases -/

/-- What the definition of a name makes of the configuration below it. -/
def changedBy (templates : Catalog (Template κ)) (name : String) (below : κ) : κ :=
  match templates.find? name with
  | some (.derived _ change) => change below
  | _ => below

theorem changedBy_derived {base : String} {change : κ → κ}
    (hfound : templates.find? name = some (.derived base change)) (below : κ) :
    changedBy templates name below = change below := by
  unfold changedBy
  rw [hfound]

/-- What stands at the end of a route is changed by the names on it. -/
theorem Resolves.along (h : Resolves templates last c)
    (hroute : Route (BasedOn templates) name passed last) :
    Resolves templates name (passed.foldr (changedBy templates) c) := by
  induction hroute generalizing c with
  | start => exact h
  | snoc _ hbased ih =>
    obtain ⟨change, hfound⟩ := hbased
    rw [List.foldr_append, List.foldr_cons, List.foldr_nil, changedBy_derived hfound]
    exact ih (.derived hfound h)

/-- What is found along the bases of a name, by where they lead. -/
inductive Finds (templates : Catalog (Template κ)) (name : String) : Except Error κ → Prop
  /-- To a complete configuration. The name nearest to it is the first to change it, and the one
  that is asked for the last. -/
  | complete {passed : List String} {last : String} {config : κ}
    (hroute : Route (BasedOn templates) name passed last)
    (hfound : templates.find? last = some (.complete config)) :
    Finds templates name (.ok (passed.foldr (changedBy templates) config))
  /-- To a name that is not there. -/
  | missing {passed : List String} {last : String}
    (hroute : Route (BasedOn templates) name passed last)
    (hnone : templates.find? last = none) :
    Finds templates name (.error (.unknownConfiguration last))
  /-- Round in a circle. -/
  | circle {path : List String} (hlasso : Lasso (BasedOn templates) name path) :
    Finds templates name (.error (.configurationCycle path))

theorem Resolves.finds (h : Resolves templates name c) : Finds templates name (.ok c) := by
  induction h with
  | complete hfound => exact .complete .start hfound
  | @derived name base change c hfound _ ih =>
    cases ih with
    | complete hroute hcomplete =>
      have hfinds := Finds.complete (hroute.cons ⟨change, hfound⟩) hcomplete
      rwa [List.foldr_cons, changedBy_derived hfound] at hfinds

/-- What a route has passed is applied to whatever is found from its last name on. -/
theorem resolve_along (hroute : Route (BasedOn templates) name passed last)
    (hfresh : passed.Nodup) :
    resolve templates name =
      (resolveAfter templates passed last).map fun c => passed.foldr (changedBy templates) c := by
  induction hroute with
  | start =>
    unfold resolve
    cases resolveAfter templates [] name <;> rfl
  | @snoc passed last base hroute hbased ih =>
    obtain ⟨hnew, hbefore⟩ := (List.nodup_concat _ _).mp (List.concat_eq_append ▸ hfresh)
    obtain ⟨change, hfound⟩ := hbased
    rw [ih hbefore, resolveAfter_derived hnew hfound]
    cases resolveAfter templates (passed ++ [last]) base with
    | error e => rfl
    | ok c =>
      show Except.ok (passed.foldr (changedBy templates) (change c)) =
        Except.ok ((passed ++ [last]).foldr (changedBy templates) c)
      rw [List.foldr_append, List.foldr_cons, List.foldr_nil, changedBy_derived hfound]

/-- What is found along the bases is what a registry answers. -/
theorem Finds.resolve_eq {answer : Except Error κ} (h : Finds templates name answer) :
    resolve templates name = answer := by
  cases h with
  | complete hroute hfound =>
    obtain ⟨hfresh, hnew⟩ :=
      hroute.nodup_of_end (fun _ _ _ => BasedOn.unique) (not_basedOn_of_complete hfound)
    rw [resolve_along hroute hfresh, resolveAfter_complete hnew hfound]
    rfl
  | missing hroute hnone =>
    obtain ⟨hfresh, hnew⟩ :=
      hroute.nodup_of_end (fun _ _ _ => BasedOn.unique) (not_basedOn_of_missing hnone)
    rw [resolve_along hroute hfresh, resolveAfter_missing hnew hnone]
    rfl
  | circle hlasso =>
    obtain ⟨passed, last, rfl, hroute, hfresh, hback⟩ := hlasso.route
    rw [resolve_along hroute hfresh]
    unfold resolveAfter
    rw [dif_pos hback]
    rfl

/-- A route that has passed no name twice goes on until something is found. -/
theorem exists_finds (hroute : Route (BasedOn templates) name passed last)
    (hfresh : passed.Nodup) : ∃ answer, Finds templates name answer := by
  fun_induction resolveAfter templates passed last with
  | case1 passed last hback => exact ⟨_, .circle (hroute.lasso hfresh hback)⟩
  | case2 passed last _ hnone => exact ⟨_, .missing hroute hnone⟩
  | case3 passed last _ config hfound => exact ⟨_, .complete hroute hfound⟩
  | case4 passed last hnew base change hfound ih =>
    have hfresh' : (passed ++ [last]).Nodup :=
      List.concat_eq_append ▸ List.Nodup.concat hnew hfresh
    exact ih (hroute.snoc ⟨change, hfound⟩) hfresh'

theorem resolve_finds (templates : Catalog (Template κ)) (name : String) :
    Finds templates name (resolve templates name) := by
  obtain ⟨answer, h⟩ : ∃ answer, Finds templates name answer :=
    exists_finds .start List.nodup_nil
  rw [h.resolve_eq]
  exact h

/-- **The bases of a name decide what it resolves to.** The answer is what is found along them: a
complete configuration with the changes of the names that lead to it, the first name that is
not there, or the path up to the first name that comes up twice. There is always an answer, for
before a name comes up twice a route passes no more of them than there are. -/
theorem resolve_follows_bases (templates : Catalog (Template κ)) (name : String) :
    (∀ answer, resolve templates name = answer ↔ Finds templates name answer) ∧
      ∀ passed last, Route (BasedOn templates) name passed last → passed.Nodup →
        passed.length ≤ templates.length := by
  refine ⟨fun answer => ⟨?_, Finds.resolve_eq⟩, fun passed last hroute hfresh => ?_⟩
  · rintro rfl
    exact resolve_finds templates name
  · have hlength : passed.length ≤ templates.names.length :=
      hroute.length_le hfresh fun _ _ => BasedOn.mem_names
    rwa [Catalog.names, List.length_map] at hlength

/-- Two changes of a number, a base that is not there, and a way into a circle. -/
def stemmed : Catalog (Template Nat) :=
  [("a", .derived "b" (· + 1)), ("b", .derived "c" (· * 2)), ("c", .derived "b" id),
    ("d", .complete 3), ("e", .derived "d" (· * 2)), ("f", .derived "e" (· + 1)),
    ("g", .derived "h" id)]

theorem stemmed_follows_bases :
    Finds stemmed "f" (.ok 7) ∧ Finds stemmed "g" (.error (.unknownConfiguration "h")) ∧
      Finds stemmed "a" (.error (.configurationCycle ["a", "b", "c", "b"])) ∧
      ["a", "b", "c"].length ≤ stemmed.length := by
  have hroute : Route (BasedOn stemmed) "a" ["a", "b", "c"] "b" :=
    .snoc (.snoc (.snoc .start ⟨_, rfl⟩) ⟨_, rfl⟩) ⟨_, rfl⟩
  exact ⟨((resolve_follows_bases stemmed "f").1 _).mp (by decide +kernel),
    ((resolve_follows_bases stemmed "g").1 _).mp (by decide +kernel),
    ((resolve_follows_bases stemmed "a").1 _).mp (by decide +kernel),
    (resolve_follows_bases stemmed "a").2 _ _ hroute (by decide)⟩

/-- **The registry finds what a name stands for.** -/
theorem resolve_eq_ok : resolve templates name = .ok c ↔ Resolves templates name c := by
  refine ⟨fun h => ?_, fun h => h.finds.resolve_eq⟩
  have hfinds := resolve_finds templates name
  rw [h] at hfinds
  cases hfinds with
  | complete hroute hfound => exact (Resolves.complete hfound).along hroute

/-- **When a name does not resolve.** -/
theorem resolve_eq_error :
    (∃ e, resolve templates name = .error e) ↔
      Dangles templates name ∨ Circles templates name := by
  constructor
  · rintro ⟨e, h⟩
    have hfinds := resolve_finds templates name
    rw [h] at hfinds
    cases hfinds with
    | missing hroute hnone => exact .inl ⟨_, hroute.leads, hnone⟩
    | circle hlasso => exact .inr hlasso.circles
  · intro h
    cases hresolve : resolve templates name with
    | error e => exact ⟨e, rfl⟩
    | ok c =>
      have hresolves := resolve_eq_ok.mp hresolve
      rcases h with ⟨other, hleads, hnone⟩ | ⟨other, hleads, hback⟩
      · obtain ⟨d, hd⟩ := hresolves.of_leads hleads
        exact absurd hnone hd.found
      · obtain ⟨d, hd⟩ := hresolves.of_leads hleads
        exact absurd hback hd.acyclic

/-! ### Definitions -/

/-- A definition of a shared configuration. -/
structure Definition (κ : Type) where
  name : String
  template : Template κ

namespace Definition

/-- Asks a registry to take a definition over. -/
def apply (r : Registry κ τ) (d : Definition κ) : Registry κ τ × Except Error Unit :=
  r.insertTemplate d.name d.template

/-- All definitions of a registry, once it has taken one over. -/
def onto (r : Registry κ τ) (d : Definition κ) : Catalog (Template κ) :=
  r.templates.put d.name d.template

end Definition

/-- The registry after a definition, whether it has taken it over or not. -/
def define (r : Registry κ τ) (d : Definition κ) : Registry κ τ := (d.apply r).1

section Definitions
variable {r : Registry κ τ} {t : Template κ} {e : Error}

/-- A template that resolves is stored. -/
theorem insertTemplate_stores (hname : name ≠ defaultName)
    (hnew : Resolves (r.templates.put name t) name c) :
    r.insertTemplate name t = ({ r with templates := r.templates.put name t }, .ok ()) := by
  simp only [insertTemplate, if_neg hname, resolve_eq_ok.mpr hnew]

/-- A template that does not resolve is taken out again, and what was there before comes back. -/
theorem insertTemplate_restores (hname : name ≠ defaultName)
    (hnew : resolve (r.templates.put name t) name = .error e) :
    r.insertTemplate name t = (r, .error e) := by
  simp only [insertTemplate, if_neg hname, hnew, Catalog.restore_put]

theorem insertTemplate_reserved (r : Registry κ τ) (t : Template κ) :
    ∃ e, r.insertTemplate defaultName t = (r, .error e) := by
  unfold insertTemplate
  rw [if_pos rfl]
  exact ⟨_, rfl⟩

/-- What becomes of a registry that is to store a template, and what it answers. -/
theorem insertTemplate_cases (r : Registry κ τ) (name : String) (t : Template κ) :
    (name ≠ defaultName ∧ (∃ c, Resolves (r.templates.put name t) name c) ∧
      r.insertTemplate name t = ({ r with templates := r.templates.put name t }, .ok ())) ∨
    ((name = defaultName ∨ Dangles (r.templates.put name t) name ∨
        Circles (r.templates.put name t) name) ∧
      ∃ e, r.insertTemplate name t = (r, .error e)) := by
  by_cases hname : name = defaultName
  · subst hname
    exact .inr ⟨.inl rfl, insertTemplate_reserved r t⟩
  · cases hnew : resolve (r.templates.put name t) name with
    | ok c =>
      have hresolves := resolve_eq_ok.mp hnew
      exact .inl ⟨hname, ⟨c, hresolves⟩, insertTemplate_stores hname hresolves⟩
    | error e =>
      exact .inr ⟨.inr (resolve_eq_error.mp ⟨e, hnew⟩), e, insertTemplate_restores hname hnew⟩

/-- Every name resolves, and the default one as it is. -/
structure Settled (standard : κ) (templates : Catalog (Template κ)) : Prop where
  standard_eq : templates.find? defaultName = some (.complete standard)
  resolves {name : String} {t : Template κ} :
    templates.find? name = some t → ∃ c, Resolves templates name c

theorem Settled.new (standard : κ) : Settled standard [(defaultName, .complete standard)] where
  standard_eq := Catalog.find?_cons_self ..
  resolves {name t} hfound := by
    by_cases hname : defaultName = name
    · exact ⟨standard, .complete (hname ▸ Catalog.find?_cons_self ..)⟩
    · rw [Catalog.find?_cons_of_ne _ _ hname] at hfound
      cases hfound

/-- One name that resolves anew leaves no other one behind. -/
theorem Settled.put {standard : κ} (h : Settled standard templates) (hname : name ≠ defaultName)
    (hnew : Resolves (templates.put name t) name c) : Settled standard (templates.put name t) where
  standard_eq := (Catalog.find?_put_of_ne _ _ hname).trans h.standard_eq
  resolves {other u} hfound := by
    by_cases hsame : name = other
    · exact ⟨c, hsame ▸ hnew⟩
    · rw [Catalog.find?_put_of_ne _ _ hsame] at hfound
      obtain ⟨d, hd⟩ := h.resolves hfound
      exact hd.put hnew

theorem Settled.define {standard : κ} (h : Settled standard r.templates) (d : Definition κ) :
    Settled standard (r.define d).templates := by
  unfold Registry.define Definition.apply
  rcases r.insertTemplate_cases d.name d.template with
    ⟨hname, ⟨c, hnew⟩, hstored⟩ | ⟨-, e, hfailed⟩
  · rw [hstored]
    exact h.put hname hnew
  · rw [hfailed]
    exact h

theorem Settled.run {standard : κ} (h : Settled standard r.templates)
    (definitions : List (Definition κ)) :
    Settled standard (definitions.foldl Registry.define r).templates := by
  induction definitions generalizing r with
  | nil => exact h
  | cons d rest ih => exact ih (h.define d)

/-- **Registered configurations resolve.** Whatever was defined, and in whatever order, every name
of a registry resolves, the default one to the configuration that the registry was made with. A
definition fails exactly if it is of the default name or leads to a name that is not there or round
in a circle. A failure changes nothing; a success stores the definition under its name and leaves
the others alone. -/
theorem registered_resolve (make : String → κ → Except Error τ) (standard : κ)
    (tags : Catalog String) (definitions : List (Definition κ)) :
    let r := definitions.foldl define (new standard make tags)
    r.configuration defaultName = .ok standard ∧
      (∀ name ∈ r.templates.names, ∃ c, r.configuration name = .ok c) ∧
      ∀ d : Definition κ,
        ((∃ e, (d.apply r).2 = .error e) ↔
          d.name = defaultName ∨ Dangles (d.onto r) d.name ∨ Circles (d.onto r) d.name) ∧
        (∀ e, (d.apply r).2 = .error e → (d.apply r).1 = r) ∧
        ((d.apply r).2 = .ok () → (d.apply r).1 = { r with templates := d.onto r }) := by
  intro r
  have hsettled : Settled standard r.templates :=
    Settled.run (Settled.new standard) definitions
  clear_value r
  refine ⟨resolve_eq_ok.mpr (.complete hsettled.standard_eq), fun name hmem => ?_, fun d => ?_⟩
  · obtain ⟨t, hfound⟩ := Catalog.mem_names.mp hmem
    obtain ⟨c, hc⟩ := hsettled.resolves hfound
    exact ⟨c, resolve_eq_ok.mpr hc⟩
  · unfold Definition.apply Definition.onto
    rcases r.insertTemplate_cases d.name d.template with
      ⟨hname, ⟨c, hnew⟩, hstored⟩ | ⟨hwhy, e, hfailed⟩
    · rw [hstored]
      refine ⟨⟨nofun, fun hwhy => ?_⟩, nofun, fun _ => rfl⟩
      obtain ⟨e, herror⟩ := resolve_eq_error.mpr (hwhy.resolve_left hname)
      cases herror.symm.trans (resolve_eq_ok.mpr hnew)
    · rw [hfailed]
      exact ⟨⟨fun _ => hwhy, fun _ => ⟨e, rfl⟩⟩, fun _ _ => rfl, nofun⟩

/-- The third definition would close a circle, and the fourth one is of a base that is not there. -/
def redefined : List (Definition Nat) :=
  [⟨"a", .complete 2⟩, ⟨"b", .derived "a" (· + 1)⟩, ⟨"a", .derived "b" (· * 2)⟩,
    ⟨"c", .derived "d" id⟩, ⟨"a", .derived "default" (· * 5)⟩]

theorem redefined_resolve :
    let r : Registry Nat Unit := redefined.foldl define (new 1 fun _ _ => .ok ())
    let closing : Definition Nat := ⟨"a", .derived "b" (· * 2)⟩
    r.templates.names = ["default", "a", "b"] ∧
      r.templates.names.map (fun name => (r.configuration name).toOption) =
        [some 1, some 5, some 6] ∧
      (closing.apply r).1 = r ∧
      (Dangles (closing.onto r) "a" ∨ Circles (closing.onto r) "a") ∧
      ∀ name ∈ r.templates.names, ∃ c, r.configuration name = .ok c := by
  intro r closing
  obtain ⟨-, hresolve, hdefine⟩ :=
    registered_resolve (fun _ _ => .ok () : String → Nat → Except Error Unit) 1 [] redefined
  obtain ⟨hfails, hrestores, -⟩ := hdefine closing
  have hrefused : ((closing.apply r).2.toOption).isNone := by decide +kernel
  have herror : ∃ e, (closing.apply r).2 = .error e := by
    cases hanswer : (closing.apply r).2 with
    | error e => exact ⟨e, rfl⟩
    | ok u =>
      rw [hanswer] at hrefused
      cases hrefused
  refine ⟨by decide +kernel, by decide +kernel, ?_, ?_, hresolve⟩
  · obtain ⟨e, he⟩ := herror
    exact hrestores e he
  · exact (hfails.mp herror).resolve_left (by decide)

end Definitions

end FaultTolerance.Registry
