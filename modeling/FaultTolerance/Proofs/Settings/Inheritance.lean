import FaultTolerance.Proofs.Settings.Merging
import FaultTolerance.Proofs.Settings.Order
import Mathlib.Logic.Equiv.Basic

/-! What a loaded section says, whatever its blocks are called.

Shared configurations are registered in an order that follows from their names, and a registry
resolves a name when it is asked for. Neither shows in what comes out: a configuration is the
lineage of its name laid over the built-in one (`Inherits`), and blocks that are called something
else or come in another order give the same configurations (`Renamed`).

The order has to contain every block (`mem_sharedOrder`), or a name would be unknown later. That it
has a base before what builds on it is the concern of loading alone: a registry refuses what does
not resolve.

The main theorem is **`ofSettings_inherits`**. -/
namespace FaultTolerance.Settings
open Registry (defaultName)
variable {π κ τ σ α : Type}

/-! ### Loaded sections -/

/-- What a step does for its own element, and no step undoes, has been done for every element. -/
theorem Progress.each_reaches {next : α → σ → Progress σ} {P : α → σ → Prop}
    (hdo : ∀ a s, (next a s).failure = none → P a (next a s).state)
    (hkeep : ∀ a b s, (next b s).failure = none → P a s → P a (next b s).state) {as : List α}
    {s : σ} (hdone : (each next as s).failure = none) {a : α} (hmem : a ∈ as) :
    P a (each next as s).state := by
  induction as generalizing s with
  | nil => cases hmem
  | cons head rest ih =>
    obtain ⟨hnow, hrest, hstate⟩ := andThen_done hdone
    show P a ((next head s).andThen (each next rest)).state
    rw [hstate]
    cases hmem with
    | head => exact each_preserves (P := P a) (hkeep a) rest _ hrest (hdo a s hnow)
    | tail _ hmem => exact ih hrest hmem

section Loaded
variable {k : Kind π κ τ} {now : Nat} {configs : Catalog π} {s : Section π} {standard : κ}
  {r : Registry κ τ} {name other : String} {block : π}

/-- Registering a configuration takes none away. -/
theorem registerShared_keeps (hmem : other ∈ r.templates.names) :
    other ∈ (registerShared k configs name r).state.templates.names := by
  have hregistered := registerShared_registered k configs name r
  generalize (registerShared k configs name r).state = stored at hregistered ⊢
  cases hregistered with
  | kept => exact hmem
  | stored => exact Catalog.mem_names_put.mpr (.inr hmem)

/-- What the templates of a loaded section are. -/
structure Stocked (k : Kind π κ τ) (now : Nat) (configs : Catalog π) (standard : κ)
    (r : Registry κ τ) : Prop extends Founded k now configs standard r where
  /-- There is one for every block. -/
  stored : ∀ {name : String}, name ≠ defaultName → name ∈ configs.names → name ∈ r.templates.names

/-- A name has the configuration that its lineage gives. -/
theorem Stocked.configuration_eq_ok (h : Stocked k now configs standard r)
    (hstandard : layAll k (configs.find? defaultName).toList = .ok standard) {c : κ} :
    r.configuration name = .ok c ↔
      ∃ chain, Lineage k configs name chain ∧ layAll k chain = .ok c := by
  refine ⟨h.toFounded.configuration hstandard, ?_⟩
  rintro ⟨chain, hlineage, hlaid⟩
  have hstored : ∃ t, r.templates.find? name = some t := by
    cases hlineage with
    | standard => exact ⟨_, h.settled.standard_eq⟩
    | shared hname hfound _ =>
      exact Catalog.mem_names.mp (h.stored hname (Catalog.mem_names.mpr ⟨_, hfound⟩))
  obtain ⟨t, ht⟩ := hstored
  obtain ⟨d, hresolves⟩ := h.settled.resolves ht
  have hd : r.configuration name = .ok d := Registry.resolve_eq_ok.mpr hresolves
  obtain ⟨chain', hlineage', hlaid'⟩ := h.toFounded.configuration hstandard hd
  cases hlineage.unique hlineage'
  cases hlaid.symm.trans hlaid'
  exact hd

/-- A block of a section has a configuration, and so has the default name. -/
theorem Stocked.configured (h : Stocked k now configs standard r)
    (hname : name = defaultName ∨ name ∈ configs.names) : ∃ c, r.configuration name = .ok c := by
  have hstored : ∃ t, r.templates.find? name = some t := by
    by_cases hdefault : name = defaultName
    · exact ⟨_, hdefault ▸ h.settled.standard_eq⟩
    · exact Catalog.mem_names.mp (h.stored hdefault (hname.resolve_left hdefault))
  obtain ⟨t, ht⟩ := hstored
  obtain ⟨c, hc⟩ := h.settled.resolves ht
  exact ⟨c, Registry.resolve_eq_ok.mpr hc⟩

/-- The first pass leaves a template for every block. -/
theorem sharedOrder_stocked {order : List String} (horder : sharedOrder k configs = .ok order)
    (hdone : (Progress.each (registerShared k configs) order
      (.new standard (k.make now))).failure = none) :
    Stocked k now configs standard
      (Progress.each (registerShared k configs) order (.new standard (k.make now))).state where
  toFounded := Progress.each_preserves (fun name _ _ hm => hm.register name) order _ hdone (.new ..)
  stored {name} hname hfound := by
    refine Progress.each_reaches
      (P := fun name m => name ∈ configs.names → name ∈ m.templates.names)
      (fun name m hnow hfound => ?_) (fun _ _ _ _ hm hfound => registerShared_keeps (hm hfound))
      hdone (mem_sharedOrder horder hname hfound) hfound
    obtain ⟨block, hblock⟩ := Catalog.mem_names.mp hfound
    exact registerShared_stores hnow hblock

/-- Making an instance leaves the templates alone. -/
theorem Stocked.create (h : Stocked k now configs standard r) (entry : String × π)
    (hdone : (createInstance k entry r).failure = none) :
    Stocked k now configs standard (createInstance k entry r).state := by
  obtain ⟨_, _, _, ⟨_, hstate⟩ | ⟨_, _, hstate⟩⟩ := createInstance_state hdone
  · rwa [hstate]
  · rw [hstate]
    exact ⟨⟨h.standard_eq, h.make_eq, h.settled, h.derived⟩, h.stored⟩

namespace Section

/-- A loaded section has all its shared configurations. -/
theorem Loads.stocked (h : s.Loads k now r) :
    ∃ standard, defaultConfig k s = .ok standard ∧ Stocked k now s.configs standard r := by
  obtain ⟨standard, hstandard, hdone, rfl⟩ := h
  obtain ⟨order, horder, hshared, hinstances, hstate⟩ := applySection_done hdone
  rw [hstate]
  exact ⟨standard, hstandard, Progress.each_preserves (fun entry _ hnow hm => hm.create entry hnow)
    s.instances _ hinstances (sharedOrder_stocked horder hshared)⟩

theorem Loads.configuration_eq_ok (h : s.Loads k now r) {c : κ} :
    r.configuration name = .ok c ↔
      ∃ chain, Lineage k s.configs name chain ∧ layAll k chain = .ok c := by
  obtain ⟨standard, hstandard, hstocked⟩ := h.stocked
  exact hstocked.configuration_eq_ok (layAll_default hstandard)

/-- Every block of a loaded section has a configuration, and so has the default name. -/
theorem Loads.configured_shared (h : s.Loads k now r)
    (hname : name = defaultName ∨ name ∈ s.configs.names) : ∃ c, r.configuration name = .ok c := by
  obtain ⟨standard, _, hstocked⟩ := h.stocked
  exact hstocked.configured hname

end Section

end Loaded

/-! ### Other names -/

/-- Two blocks make the same change, and the second one builds on what the first one builds on,
which is called something else. -/
structure Kind.Renamed (k : Kind π κ τ) (rename : String → String) (a b : π) : Prop where
  overlay_eq : k.overlay b = k.overlay a
  foundation_eq : k.foundation b = rename (k.foundation a)

/-- The second section has the blocks of the first one under other names. Their order does not
matter, and neither does whether a block names the default configuration or no base at all. -/
structure Section.Renamed (k : Kind π κ τ) (rename call : String → String) (s t : Section π) :
    Prop where
  default_iff (name : String) : rename name = defaultName ↔ name = defaultName
  configs (name : String) :
    Option.Rel (k.Renamed rename) (s.configs.find? name) (t.configs.find? (rename name))
  instances (name : String) :
    Option.Rel (k.Renamed rename) (s.instances.find? name) (t.instances.find? (call name))

section Renaming
variable {k : Kind π κ τ} {now later : Nat} {rename call : String → String} {s t : Section π}
  {r q : Registry κ τ} {name : String} {a b : π} {above below : List π} {c : κ}

theorem layAll_renamed (h : k.Renamed rename a b) (hbelow : layAll k above = layAll k below) :
    layAll k (a :: above) = layAll k (b :: below) := by
  unfold layAll
  rw [h.overlay_eq, hbelow]

/-- A lineage is found under its other name, and gives the same. -/
theorem Lineage.renamed (h : s.Renamed k rename call t)
    (hlineage : Lineage k s.configs name above) :
    ∃ below, Lineage k t.configs (rename name) below ∧ layAll k above = layAll k below := by
  induction hlineage with
  | standard =>
    have hname : rename defaultName = defaultName := (h.default_iff _).mpr rfl
    have hrel := h.configs defaultName
    rw [hname] at hrel ⊢
    refine ⟨_, .standard, ?_⟩
    generalize s.configs.find? defaultName = a, t.configs.find? defaultName = b at hrel
    cases hrel with
    | none => rfl
    | some hblock => exact layAll_renamed hblock rfl
  | @shared name block _ hname hfound _ ih =>
    obtain ⟨below, hbelow, hlaid⟩ := ih
    have hrel := h.configs name
    rw [hfound] at hrel
    generalize hfound' : t.configs.find? (rename name) = found at hrel
    cases hrel with
    | some hblock =>
      rw [← hblock.foundation_eq] at hbelow
      exact ⟨_, .shared (mt (h.default_iff name).mp hname) hfound' hbelow,
        layAll_renamed hblock hlaid⟩

/-- A name that has a configuration has the same one under its other name. -/
theorem Section.Renamed.configuration (h : s.Renamed k rename call t) (hs : s.Loads k now r)
    (ht : t.Loads k later q) (hc : r.configuration name = .ok c) :
    q.configuration (rename name) = .ok c := by
  obtain ⟨above, hlineage, hlaid⟩ := hs.configuration_eq_ok.mp hc
  obtain ⟨below, hlineage', hsame⟩ := hlineage.renamed h
  exact ht.configuration_eq_ok.mpr ⟨below, hlineage', hsame.symm.trans hlaid⟩

/-- No name gets a configuration by being called something else. -/
theorem Section.Renamed.configuration_iff (h : s.Renamed k rename call t) (hs : s.Loads k now r)
    (ht : t.Loads k later q) :
    q.configuration (rename name) = .ok c ↔ r.configuration name = .ok c := by
  refine ⟨fun hc => ?_, h.configuration hs ht⟩
  have hconfigured : ∃ d, r.configuration name = .ok d := by
    by_cases hname : name = defaultName
    · exact hs.configured_shared (.inl hname)
    · obtain ⟨chain, hlineage, _⟩ := ht.configuration_eq_ok.mp hc
      have hrel := h.configs name
      cases hfound : s.configs.find? name with
      | some block => exact hs.configured_shared (.inr (Catalog.mem_names.mpr ⟨block, hfound⟩))
      | none =>
        rw [hfound] at hrel
        generalize hother : rename name = other at hlineage hrel
        cases hlineage with
        | standard => exact absurd ((h.default_iff name).mp hother) hname
        | shared _ hfound' _ =>
          rw [hfound'] at hrel
          cases hrel
  obtain ⟨d, hd⟩ := hconfigured
  cases hc.symm.trans (h.configuration hs ht hd)
  exact hd

end Renaming

/-! ### All sections -/

namespace Section

/-- What the blocks of a section come to. A chain of blocks, the nearest first, is applied to the
built-in configuration from its far end up (`layAll`). -/
structure Inherits (k : Kind π κ τ) (config : τ → κ) (s : Section π) (r : Registry κ τ) : Prop where
  /-- A name has the configuration that its lineage gives, and none if that gives none. -/
  configuration (name : String) (c : κ) : r.configuration name = .ok c ↔
    ∃ chain, Lineage k s.configs name chain ∧ layAll k chain = .ok c
  /-- Every shared block has one. -/
  shared : ∀ name ∈ s.configs.names, ∃ c, r.configuration name = .ok c
  /-- Every instance is there, with its own block on top of the lineage of its base. -/
  instances : s.Configured k config r fun chain c => layAll k chain = .ok c
  /-- Nothing depends on names and their order, or on whether the default one is named. -/
  renamed {rename call : String → String} {t : Section π} {later : Nat} {q : Registry κ τ} :
    s.Renamed k rename call t → t.Loads k later q →
      (∀ name c, q.configuration (rename name) = .ok c ↔ r.configuration name = .ok c) ∧
      ∀ name ∈ s.instances.names, ∃ entry other, r.find? name = some entry ∧
        q.find? (call name) = some other ∧ config other.value = config entry.value

theorem Loads.inherits {k : Kind π κ τ} {now : Nat} {config : τ → κ} {s : Section π}
    {r : Registry κ τ} (h : s.Loads k now r)
    (hconfig : ∀ now name c value, k.make now name c = .ok value → config value = c) :
    s.Inherits k config r where
  configuration _ _ := h.configuration_eq_ok
  shared _ hfound := h.configured_shared (.inr hfound)
  instances := h.configured (hconfig now) fun _ _ hlaid => hlaid
  renamed {rename call t later q} hrenamed ht := by
    refine ⟨fun _ _ => hrenamed.configuration_iff h ht, fun name hmem => ?_⟩
    obtain ⟨a, ha⟩ := Catalog.mem_names.mp hmem
    have hrel := hrenamed.instances name
    rw [ha] at hrel
    generalize hb : t.instances.find? (call name) = found at hrel
    cases hrel with
    | some hblock =>
      obtain ⟨above, entry, hlineage, hentry, hlaid⟩ :=
        h.configured (hconfig now) (P := fun chain c => layAll k chain = .ok c)
          (fun _ _ hlaid => hlaid) name a ha
      obtain ⟨below, other, hlineage', hother, hlaid'⟩ :=
        ht.configured (hconfig later) (P := fun chain c => layAll k chain = .ok c)
          (fun _ _ hlaid => hlaid) (call name) _ hb
      obtain ⟨below', hbelow', hsame⟩ := hlineage.renamed hrenamed
      rw [hblock.foundation_eq] at hlineage'
      cases hlineage'.unique hbelow'
      rw [← layAll_renamed hblock hsame, hlaid] at hlaid'
      exact ⟨entry, other, hentry, hother, (Except.ok.inj hlaid').symm⟩

end Section

section Loading
variable {ε ν : Type}

/-- **Loaded configurations are their blocks laid one over the other.** In every section a name has
the configuration that its lineage gives, every shared block has one, and every instance is
configured with its own block on top of the lineage of its base. None of it depends on what the
blocks are called, on the order that they come in, or on whether the default configuration is named
as the base of a block. -/
theorem ofSettings_inherits {s : Settings} {now : Nat}
    (hdone : (Registries.ofSettings s now : Progress (Registries ε ν)).failure = none) :
    let r := (Registries.ofSettings s now : Progress (Registries ε ν)).state
    s.breakers.Inherits (.breaker ε ν) (·.config) r.breakers ∧
      s.limiters.Inherits .limiter (·.config) r.limiters ∧
      s.bulkheads.Inherits .bulkhead (·.config) r.bulkheads ∧
      s.retries.Inherits (.retry ε ν) (·.config) r.retries := by
  intro r
  obtain ⟨hbreakers, hlimiters, hbulkheads, hretries⟩ := ofSettings_loads hdone
  exact ⟨hbreakers.inherits breaker_config, hlimiters.inherits limiter_config,
    hbulkheads.inherits bulkhead_config, hretries.inherits retry_config⟩

/-- Two shared configurations, the first of which builds on the second. -/
def stacked : Settings where
  limiters :=
    { configs := [("alpha", { base := some "omega", refreshPeriod := some 7 }),
        (defaultName, { limitForPeriod := some 5, timeout := some 9 }),
        ("omega", { timeout := some 3 })]
      instances := [("api", { base := some "alpha", limitForPeriod := some 8 })] }

/-- The same with the two names swapped, and with the base of the lower one named. -/
def restacked : Settings where
  limiters :=
    { configs := [("alpha", { base := some defaultName, timeout := some 3 }),
        (defaultName, { limitForPeriod := some 5, timeout := some 9 }),
        ("omega", { base := some "alpha", refreshPeriod := some 7 })]
      instances := [("api", { base := some "omega", limitForPeriod := some 8 })] }

theorem stacked_loaded :
    (Registries.ofSettings stacked : Progress (Registries Error Unit)).failure = none :=
  Option.isNone_iff_eq_none.mp (by decide +kernel)

theorem restacked_loaded :
    (Registries.ofSettings restacked : Progress (Registries Error Unit)).failure = none :=
  Option.isNone_iff_eq_none.mp (by decide +kernel)

theorem stacked_renamed :
    stacked.limiters.Renamed .limiter (Equiv.swap "alpha" "omega") id restacked.limiters where
  default_iff name := by
    rw [Equiv.swap_apply_eq_iff, Equiv.swap_apply_of_ne_of_ne (by decide) (by decide)]
  configs name := by
    by_cases halpha : name = "alpha"
    · subst halpha
      rw [Equiv.swap_apply_left]
      exact .some ⟨rfl, by simp [Kind.foundation, Kind.limiter]⟩
    by_cases homega : name = "omega"
    · subst homega
      rw [Equiv.swap_apply_right]
      refine .some ⟨rfl, ?_⟩
      exact (Equiv.swap_apply_of_ne_of_ne (by decide) (by decide)).symm
    rw [Equiv.swap_apply_of_ne_of_ne halpha homega]
    by_cases hdefault : name = defaultName
    · subst hdefault
      refine .some ⟨rfl, ?_⟩
      exact (Equiv.swap_apply_of_ne_of_ne (by decide) (by decide)).symm
    · simp [stacked, restacked, Catalog.find?, Ne.symm halpha, Ne.symm homega, Ne.symm hdefault]
  instances name := by
    by_cases hapi : name = "api"
    · subst hapi
      exact .some ⟨rfl, (Equiv.swap_apply_left ..).symm⟩
    · simp [stacked, restacked, Catalog.find?, Ne.symm hapi]

/-- The upper configuration and the instance are what the three blocks make of them, whatever the
names. -/
theorem stacked_inherits :
    let r := (Registries.ofSettings stacked : Progress (Registries Error Unit)).state
    let q := (Registries.ofSettings restacked : Progress (Registries Error Unit)).state
    r.limiters.configuration "alpha" = .ok ⟨5, .ofMillis 7, .ofMillis 3⟩ ∧
      q.limiters.configuration "omega" = .ok ⟨5, .ofMillis 7, .ofMillis 3⟩ ∧
      ∃ entry other, r.limiters.find? "api" = some entry ∧ q.limiters.find? "api" = some other ∧
        entry.value.config = ⟨8, .ofMillis 7, .ofMillis 3⟩ ∧
        other.value.config = ⟨8, .ofMillis 7, .ofMillis 3⟩ := by
  intro r q
  obtain ⟨_, hlimiters, _, _⟩ := ofSettings_inherits stacked_loaded
  obtain ⟨hconfiguration, hinstances⟩ :=
    hlimiters.renamed stacked_renamed (ofSettings_loads restacked_loaded).2.1
  have halpha : Lineage .limiter stacked.limiters.configs "alpha" _ :=
    .shared (by decide) rfl (.shared (by decide) rfl .standard)
  have hc : r.limiters.configuration "alpha" = .ok ⟨5, .ofMillis 7, .ofMillis 3⟩ :=
    (hlimiters.configuration _ _).mpr ⟨_, halpha, rfl⟩
  refine ⟨hc, (hconfiguration "alpha" _).mpr hc, ?_⟩
  obtain ⟨entry, other, hentry, hother, hsame⟩ := hinstances "api" (by decide)
  obtain ⟨below, _, hlineage, hentry', hlaid⟩ := hlimiters.instances "api" _ rfl
  cases hentry.symm.trans hentry'
  cases hlineage.unique halpha
  have hconfig : entry.value.config = ⟨8, .ofMillis 7, .ofMillis 3⟩ := (Except.ok.inj hlaid).symm
  exact ⟨entry, other, hentry, hother, hconfig, hsame.trans hconfig⟩

end Loading

end FaultTolerance.Settings
