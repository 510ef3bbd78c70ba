import FaultTolerance.Settings.Loading
import FaultTolerance.Proofs.Registry.Resolution

/-! What an instance is configured from.

A block builds on a shared configuration, whose block builds on another one, down to the default
configuration. `Lineage` lists the blocks on the way; it knows nothing of registries, of the order
in which they are filled, or of what stops a walk that goes round in a circle. `layAll` lays the
blocks of a lineage over the built-in configuration.

The main theorem is **`applySection_instance`**: when a section has been loaded, every instance is
made from its own block laid over its lineage. -/
namespace FaultTolerance.Settings
open Registry (defaultName Template resolveAfter)
variable {π κ τ σ α : Type}

/-! ### Progress -/

namespace Progress

/-- If nothing has failed, both parts have been done. -/
theorem andThen_done {p : Progress σ} {next : σ → Progress σ}
    (h : (p.andThen next).failure = none) :
    p.failure = none ∧ (next p.state).failure = none ∧
      (p.andThen next).state = (next p.state).state := by
  unfold andThen at h ⊢
  cases hp : p.failure with
  | some f =>
    rw [hp] at h
    exact absurd (hp.symm.trans h) nofun
  | none =>
    rw [hp] at h
    exact ⟨rfl, h, rfl⟩

/-- What every step keeps is kept by all of them. -/
theorem each_preserves {P : σ → Prop} {next : α → σ → Progress σ}
    (hstep : ∀ a s, (next a s).failure = none → P s → P (next a s).state) (as : List α) (s : σ)
    (hdone : (each next as s).failure = none) (h : P s) : P (each next as s).state := by
  induction as generalizing s with
  | nil => exact h
  | cons a rest ih =>
    obtain ⟨hnow, hrest, hstate⟩ := andThen_done hdone
    show P ((next a s).andThen (each next rest)).state
    rw [hstate]
    exact ih _ hrest (hstep a s hnow h)

end Progress

/-! ### Lineages -/

/-- What a block builds on. -/
def Kind.foundation (k : Kind π κ τ) (block : π) : String := (k.base block).getD defaultName

/-- The blocks that a shared configuration consists of, the nearest first. The last one is the block
of the default configuration, if there is one. -/
inductive Lineage (k : Kind π κ τ) (configs : Catalog π) : String → List π → Prop
  | standard : Lineage k configs defaultName (configs.find? defaultName).toList
  | shared {name : String} {block : π} {below : List π} (hname : name ≠ defaultName)
    (hfound : configs.find? name = some block)
    (hbelow : Lineage k configs (k.foundation block) below) :
    Lineage k configs name (block :: below)

/-- Blocks laid over the built-in configuration, the nearest last. -/
def layAll (k : Kind π κ τ) : List π → Except Error κ
  | [] => .ok k.standard
  | block :: below => do
    let change ← k.overlay block
    return change (← layAll k below)

section Lineages
variable {k : Kind π κ τ} {configs : Catalog π} {s : Section π} {name : String}
  {block : π} {chain below : List π} {standard c : κ} {change : κ → κ}

theorem Lineage.unique (h : Lineage k configs name chain) (hbelow : Lineage k configs name below) :
    chain = below := by
  induction h generalizing below with
  | standard =>
    cases hbelow with
    | standard => rfl
    | shared hname _ _ => exact absurd rfl hname
  | shared hname hfound _ ih =>
    cases hbelow with
    | standard => exact absurd rfl hname
    | shared _ hfound' hrest =>
      cases hfound.symm.trans hfound'
      rw [ih hrest]

theorem layAll_cons (hchange : k.overlay block = .ok change) (hbelow : layAll k below = .ok c) :
    layAll k (block :: below) = .ok (change c) := by
  unfold layAll
  rw [hchange, hbelow]
  rfl

theorem layAll_cons_ok (h : layAll k (block :: below) = .ok c) :
    ∃ change d, k.overlay block = .ok change ∧ layAll k below = .ok d ∧ change d = c := by
  obtain ⟨change, hchange, h⟩ := bind_eq_ok h
  obtain ⟨d, hbelow, h⟩ := bind_eq_ok h
  exact ⟨change, d, hchange, hbelow, Except.ok.inj h⟩

/-- The default configuration is its own block laid over the built-in one. -/
theorem layAll_default (h : defaultConfig k s = .ok standard) :
    layAll k (s.configs.find? defaultName).toList = .ok standard := by
  unfold defaultConfig at h
  cases hfound : s.configs.find? defaultName with
  | none =>
    rw [hfound] at h
    cases h
    rfl
  | some block =>
    rw [hfound] at h
    cases hbase : k.base block with
    | some base =>
      simp only [hbase] at h
      cases h
    | none =>
      simp only [hbase] at h
      generalize hmade : (do
        let change ← k.overlay block
        let config := change k.standard
        k.validate config
        return config : Except Error κ) = made at h
      cases made with
      | error e => cases h
      | ok c =>
        obtain ⟨change, hchange, hmade⟩ := bind_eq_ok hmade
        obtain ⟨_, _, hmade⟩ := bind_eq_ok hmade
        cases h
        cases hmade
        exact layAll_cons hchange rfl

end Lineages

/-! ### Shared configurations -/

section Shared
variable {k : Kind π κ τ} {now : Nat} {configs : Catalog π} {standard c : κ} {r : Registry κ τ}
  {name : String} {block : π}

/-- What can become of a registry: nothing, or it stores the change that the block of the name
makes, with which the name resolves. -/
inductive Registered (k : Kind π κ τ) (configs : Catalog π) (name : String) (r : Registry κ τ) :
    Registry κ τ → Prop
  | kept : Registered k configs name r r
  | stored {block : π} {change : κ → κ} {c : κ} (hname : name ≠ defaultName)
    (hfound : configs.find? name = some block) (hchange : k.overlay block = .ok change)
    (hresolves : Registry.Resolves
      (r.templates.put name (.derived (k.foundation block) change)) name c) :
    Registered k configs name r
      { r with templates := r.templates.put name (.derived (k.foundation block) change) }

theorem registerShared_registered (k : Kind π κ τ) (configs : Catalog π) (name : String)
    (r : Registry κ τ) : Registered k configs name r (registerShared k configs name r).state := by
  unfold registerShared
  dsimp only
  cases hfound : configs.find? name with
  | none => exact .kept
  | some block =>
    dsimp only
    cases hchange : k.overlay block with
    | error e => exact .kept
    | ok change =>
      dsimp only
      rcases r.insertTemplate_cases name (.derived ((k.base block).getD defaultName) change) with
        ⟨hname, ⟨c, hresolves⟩, hstored⟩ | ⟨-, e, hfailed⟩
      · rw [hstored]
        dsimp only
        split <;> exact .stored hname hfound hchange hresolves
      · rw [hfailed]
        exact .kept

/-- A block that is registered without a failure is stored. -/
theorem registerShared_stores (hdone : (registerShared k configs name r).failure = none)
    (hfound : configs.find? name = some block) :
    name ∈ (registerShared k configs name r).state.templates.names := by
  unfold registerShared at hdone ⊢
  simp only [hfound] at hdone ⊢
  cases hchange : k.overlay block with
  | error e =>
    rw [hchange] at hdone
    cases hdone
  | ok change =>
    rw [hchange] at hdone
    dsimp only at hdone ⊢
    rcases r.insertTemplate_cases name (.derived ((k.base block).getD defaultName) change) with
      ⟨-, -, hstored⟩ | ⟨-, e, hfailed⟩
    · rw [hstored]
      dsimp only
      split <;> exact Catalog.mem_names_put.mpr (.inl rfl)
    · rw [hfailed] at hdone
      cases hdone

/-- Every template resolves and is, but for the default one, the change that the block of its name
makes. -/
structure Founded (k : Kind π κ τ) (now : Nat) (configs : Catalog π) (standard : κ)
    (r : Registry κ τ) : Prop where
  standard_eq : r.standard = standard
  make_eq : r.make = k.make now
  settled : Registry.Settled standard r.templates
  derived : ∀ {name : String} {t : Template κ}, name ≠ defaultName →
    r.templates.find? name = some t → ∃ block change, configs.find? name = some block ∧
      k.overlay block = .ok change ∧ t = .derived (k.foundation block) change

theorem Founded.new (k : Kind π κ τ) (now : Nat) (configs : Catalog π) (standard : κ) :
    Founded k now configs standard (.new standard (k.make now)) where
  standard_eq := rfl
  make_eq := rfl
  settled := .new standard
  derived := by
    intro name t hname hfound
    have hnone : (Registry.new standard (k.make now) : Registry κ τ).templates.find? name = none :=
      Catalog.find?_cons_of_ne _ _ (Ne.symm hname)
    rw [hnone] at hfound
    cases hfound

theorem Founded.store {change : κ → κ} (h : Founded k now configs standard r)
    (hname : name ≠ defaultName) (hfound : configs.find? name = some block)
    (hchange : k.overlay block = .ok change)
    (hresolves : Registry.Resolves
      (r.templates.put name (.derived (k.foundation block) change)) name c) :
    Founded k now configs standard
      { r with templates := r.templates.put name (.derived (k.foundation block) change) } where
  standard_eq := h.standard_eq
  make_eq := h.make_eq
  settled := h.settled.put hname hresolves
  derived {other t} hother ht := by
    by_cases hsame : name = other
    · subst hsame
      rw [Catalog.find?_put_self] at ht
      exact ⟨block, change, hfound, hchange, (Option.some.inj ht).symm⟩
    · rw [Catalog.find?_put_of_ne _ _ hsame] at ht
      exact h.derived hother ht

theorem Founded.register (h : Founded k now configs standard r) (name : String) :
    Founded k now configs standard (registerShared k configs name r).state := by
  have hregistered := registerShared_registered k configs name r
  generalize (registerShared k configs name r).state = stored at hregistered ⊢
  cases hregistered with
  | kept => exact h
  | stored hname hfound hchange hresolves => exact h.store hname hfound hchange hresolves

/-- A shared configuration is its lineage laid over the built-in configuration. -/
theorem Founded.configuration (h : Founded k now configs standard r)
    (hstandard : layAll k (configs.find? defaultName).toList = .ok standard)
    (hname : r.configuration name = .ok c) :
    ∃ below, Lineage k configs name below ∧ layAll k below = .ok c := by
  unfold Registry.configuration Registry.resolve at hname
  generalize ([] : List String) = seen at hname
  fun_induction resolveAfter r.templates seen name generalizing c with
  | case1 => cases hname
  | case2 => cases hname
  | case3 seen name _ config hfound =>
    cases hname
    by_cases hdefault : name = defaultName
    · subst hdefault
      cases hfound.symm.trans h.settled.standard_eq
      exact ⟨_, .standard, hstandard⟩
    · obtain ⟨_, _, _, _, ht⟩ := h.derived hdefault hfound
      cases ht
  | case4 seen name _ base change hfound ih =>
    by_cases hdefault : name = defaultName
    · subst hdefault
      cases hfound.symm.trans h.settled.standard_eq
    · obtain ⟨block, change', hblock, hchange, ht⟩ := h.derived hdefault hfound
      cases ht
      cases hbelow : resolveAfter r.templates (seen ++ [name]) (k.foundation block) with
      | error e =>
        rw [hbelow] at hname
        cases hname
      | ok d =>
        rw [hbelow] at hname
        cases hname
        obtain ⟨below, hlineage, hlaid⟩ := ih hbelow
        exact ⟨block :: below, .shared hdefault hblock hlineage, layAll_cons hchange hlaid⟩

/-- The configuration of an instance is its block laid over its lineage. -/
theorem Founded.instanceConfig (h : Founded k now configs standard r)
    (hstandard : layAll k (configs.find? defaultName).toList = .ok standard)
    (hconfig : instanceConfig k r block = .ok c) :
    ∃ below, Lineage k configs (k.foundation block) below ∧
      layAll k (block :: below) = .ok c := by
  unfold Settings.instanceConfig at hconfig
  unfold Kind.foundation
  cases hbase : k.base block with
  | none =>
    simp only [hbase] at hconfig
    obtain ⟨d, hbelow, hconfig⟩ := bind_eq_ok hconfig
    obtain ⟨change, hchange, hconfig⟩ := bind_eq_ok hconfig
    cases hbelow
    cases hconfig
    rw [h.standard_eq]
    exact ⟨_, .standard, layAll_cons hchange hstandard⟩
  | some base =>
    simp only [hbase] at hconfig
    obtain ⟨d, hbelow, hconfig⟩ := bind_eq_ok hconfig
    obtain ⟨change, hchange, hconfig⟩ := bind_eq_ok hconfig
    cases hconfig
    obtain ⟨below, hlineage, hlaid⟩ := h.configuration hstandard hbelow
    exact ⟨below, hlineage, layAll_cons hchange hlaid⟩

end Shared

/-! ### Instances -/

section Instances
variable {k : Kind π κ τ} {c : κ} {r stored : Registry κ τ} {name other : String} {block : π}
  {entry : Registry.Entry τ}

theorem getOrCreate_eq_ok {events : List (Registry.Event τ)}
    (h : r.getOrCreate name (.given c) = .ok (stored, events, entry)) :
    r.find? name = some entry ∧ stored = r ∨
      r.find? name = none ∧ r.make name c = .ok entry.value ∧
        stored = { r with
          nextSerial := r.nextSerial + 1, entries := r.entries.put name entry } := by
  unfold Registry.getOrCreate at h
  cases hfound : r.find? name with
  | some old =>
    rw [hfound] at h
    cases h
    exact .inl ⟨rfl, rfl⟩
  | none =>
    rw [hfound] at h
    obtain ⟨config, hconfig, hmake⟩ := bind_eq_ok h
    obtain ⟨value, hmade, hentered⟩ := bind_eq_ok hmake
    clear h hmake
    cases hconfig
    cases hentered
    exact .inr ⟨rfl, hmade, rfl⟩

/-- What becomes of a registry: nothing if the instance is there, or it is made and stored. -/
theorem createInstance_state (hdone : (createInstance k (name, block) r).failure = none) :
    ∃ c, instanceConfig k r block = .ok c ∧ ∃ entry,
      r.find? name = some entry ∧ (createInstance k (name, block) r).state = r ∨
      r.find? name = none ∧ r.make name c = .ok entry.value ∧
        (createInstance k (name, block) r).state = { r with
          nextSerial := r.nextSerial + 1, entries := r.entries.put name entry } := by
  unfold createInstance at hdone ⊢
  dsimp only at hdone ⊢
  cases hmade : (instanceConfig k r block).bind fun c => r.getOrCreate name (.given c) with
  | error e =>
    rw [hmade] at hdone
    cases hdone
  | ok answer =>
    obtain ⟨stored, events, entry⟩ := answer
    obtain ⟨c, hconfig, hstored⟩ := bind_eq_ok hmade
    exact ⟨c, hconfig, entry, getOrCreate_eq_ok hstored⟩

/-- Making an instance leaves alone what was there. -/
theorem createInstance_find? (hdone : (createInstance k (name, block) r).failure = none)
    (hfound : r.find? other = some entry) :
    (createInstance k (name, block) r).state.find? other = some entry := by
  obtain ⟨c, _, made, ⟨_, hstate⟩ | ⟨hnew, _, hstate⟩⟩ := createInstance_state hdone
  · rwa [hstate]
  · have hne : name ≠ other := by
      rintro rfl
      rw [hfound] at hnew
      cases hnew
    rw [hstate]
    exact (Catalog.find?_put_of_ne _ _ hne).trans hfound

/-- Making an instance changes nothing for the others. -/
theorem createInstance_frame (hdone : (createInstance k (name, block) r).failure = none)
    (hne : name ≠ other) :
    (createInstance k (name, block) r).state.make = r.make ∧
      (createInstance k (name, block) r).state.find? other = r.find? other ∧
      instanceConfig k (createInstance k (name, block) r).state = instanceConfig k r := by
  obtain ⟨c, _, made, ⟨_, hstate⟩ | ⟨_, _, hstate⟩⟩ := createInstance_state hdone
  · rw [hstate]
    exact ⟨rfl, rfl, rfl⟩
  · rw [hstate]
    exact ⟨rfl, Catalog.find?_put_of_ne _ _ hne, rfl⟩

/-- Of several blocks of one name the first is made into the instance. -/
theorem createInstances_made (instances : Catalog π)
    (hdone : (Progress.each (createInstance k) instances r).failure = none)
    (hnew : r.find? name = none) (hfound : Catalog.find? instances name = some block) :
    ∃ c entry, instanceConfig k r block = .ok c ∧ r.make name c = .ok entry.value ∧
      (Progress.each (createInstance k) instances r).state.find? name = some entry := by
  induction instances generalizing r with
  | nil => cases hfound
  | cons head rest ih =>
    obtain ⟨key, first⟩ := head
    obtain ⟨hnow, hrest, hstate⟩ := Progress.andThen_done hdone
    show ∃ c entry, _ ∧ _ ∧ ((createInstance k (key, first) r).andThen
      (Progress.each (createInstance k) rest)).state.find? name = some entry
    rw [hstate]
    by_cases hkey : key = name
    · subst hkey
      rw [Catalog.find?_cons_self] at hfound
      cases hfound
      obtain ⟨c, hconfig, made, ⟨hold, _⟩ | ⟨_, hmake, hstored⟩⟩ := createInstance_state hnow
      · rw [hnew] at hold
        cases hold
      · have hput : (createInstance k (key, block) r).state.find? key = some made := by
          rw [hstored]
          exact Catalog.find?_put_self ..
        refine ⟨c, made, hconfig, hmake, ?_⟩
        exact Progress.each_preserves (P := fun r => r.find? key = some made)
          (fun _ _ hdone hkept => createInstance_find? hdone hkept) rest _ hrest hput
    · rw [Catalog.find?_cons_of_ne _ _ hkey] at hfound
      obtain ⟨hmake, hothers, hconfig⟩ := createInstance_frame hnow hkey
      have hmade := ih hrest (hothers.trans hnew) hfound
      rwa [hmake, hconfig] at hmade

end Instances

/-! ### Sections -/

section Sections
variable {k : Kind π κ τ} {now : Nat} {s : Section π} {standard : κ} {r : Registry κ τ}

/-- A section is loaded in two passes. -/
theorem applySection_done (hdone : (applySection k s r).failure = none) :
    ∃ order, sharedOrder k s.configs = .ok order ∧
      let shared := Progress.each (registerShared k s.configs) order r
      let made := Progress.each (createInstance k) s.instances shared.state
      shared.failure = none ∧ made.failure = none ∧ (applySection k s r).state = made.state := by
  unfold applySection at hdone ⊢
  cases horder : sharedOrder k s.configs with
  | error f =>
    rw [horder] at hdone
    cases hdone
  | ok order =>
    rw [horder] at hdone
    exact ⟨order, rfl, Progress.andThen_done hdone⟩

/-- The first pass makes no instance. -/
theorem registerShared_entries (order : List String)
    (hdone : (Progress.each (registerShared k s.configs) order r).failure = none) :
    (Progress.each (registerShared k s.configs) order r).state.entries = r.entries := by
  refine Progress.each_preserves (P := fun m => m.entries = r.entries) ?_ order r hdone rfl
  intro name m _ hm
  have hregistered := registerShared_registered k s.configs name m
  generalize (registerShared k s.configs name m).state = stored at hregistered ⊢
  cases hregistered with
  | kept | stored => exact hm

/-- **Every instance is made from its own block laid over its lineage.** -/
theorem applySection_instance (hstandard : defaultConfig k s = .ok standard)
    (hdone : (applySection k s (.new standard (k.make now))).failure = none) {name : String}
    {block : π} (hfound : s.instances.find? name = some block) :
    ∃ below c entry, Lineage k s.configs (k.foundation block) below ∧
      layAll k (block :: below) = .ok c ∧ k.make now name c = .ok entry.value ∧
      (applySection k s (.new standard (k.make now))).state.find? name = some entry := by
  obtain ⟨order, -, hshared, hinstances, hstate⟩ := applySection_done hdone
  rw [hstate]
  have hfounded : Founded k now s.configs standard
      (Progress.each (registerShared k s.configs) order (.new standard (k.make now))).state :=
    Progress.each_preserves (fun name _ _ h => h.register name) order _ hshared (.new ..)
  have hnew : (Progress.each (registerShared k s.configs) order
      (.new standard (k.make now))).state.find? name = none := by
    unfold Registry.find?
    rw [registerShared_entries order hshared]
    rfl
  obtain ⟨c, entry, hconfig, hmade, hentry⟩ :=
    createInstances_made s.instances hinstances hnew hfound
  obtain ⟨below, hlineage, hlaid⟩ :=
    hfounded.instanceConfig (layAll_default hstandard) hconfig
  rw [hfounded.make_eq] at hmade
  exact ⟨below, c, entry, hlineage, hlaid, hmade, hentry⟩

end Sections

/-! ### All sections -/

namespace Section
variable {k : Kind π κ τ} {now : Nat} {s : Section π} {r : Registry κ τ}

/-- A section has been loaded into a registry over its default configuration, and what it makes
begins at one reading of the clock. -/
def Loads (k : Kind π κ τ) (now : Nat) (s : Section π) (r : Registry κ τ) : Prop :=
  ∃ standard, defaultConfig k s = .ok standard ∧
    (applySection k s (.new standard (k.make now))).failure = none ∧
    r = (applySection k s (.new standard (k.make now))).state

/-- Every instance of a section is there, and `P` relates its blocks, the nearest first, to its
configuration. It has only one lineage (`Lineage.unique`). -/
def Configured (k : Kind π κ τ) (config : τ → κ) (s : Section π) (r : Registry κ τ)
    (P : List π → κ → Prop) : Prop :=
  ∀ name block, s.instances.find? name = some block → ∃ below entry,
    Lineage k s.configs (k.foundation block) below ∧ r.find? name = some entry ∧
      P (block :: below) (config entry.value)

theorem Loads.configured {config : τ → κ} {P : List π → κ → Prop} (h : s.Loads k now r)
    (hconfig : ∀ name c value, k.make now name c = .ok value → config value = c)
    (hlaid : ∀ chain c, layAll k chain = .ok c → P chain c) : s.Configured k config r P := by
  obtain ⟨standard, hstandard, hdone, rfl⟩ := h
  intro name block hfound
  obtain ⟨below, c, entry, hlineage, hc, hmade, hentry⟩ :=
    applySection_instance hstandard hdone hfound
  refine ⟨below, entry, hlineage, hentry, ?_⟩
  rw [hconfig name c entry.value hmade]
  exact hlaid _ _ hc

end Section

/-- Settings that are loaded without a failure are loaded section by section. -/
theorem ofSettings_loads {ε ν : Type} {s : Settings} {now : Nat}
    (hdone : (Registries.ofSettings s now : Progress (Registries ε ν)).failure = none) :
    let r := (Registries.ofSettings s now : Progress (Registries ε ν)).state
    s.breakers.Loads (.breaker ε ν) now r.breakers ∧ s.limiters.Loads .limiter now r.limiters ∧
      s.bulkheads.Loads .bulkhead now r.bulkheads ∧ s.retries.Loads (.retry ε ν) now r.retries := by
  unfold Registries.ofSettings at hdone ⊢
  cases hdefaults : (Registries.withDefaults s now : Except Failure (Registries ε ν)) with
  | error f =>
    rw [hdefaults] at hdone
    cases hdone
  | ok r =>
    rw [hdefaults] at hdone
    dsimp only at hdone ⊢
    obtain ⟨breaker, hbreaker, hdefaults⟩ := bind_eq_ok hdefaults
    obtain ⟨limiter, hlimiter, hdefaults⟩ := bind_eq_ok hdefaults
    obtain ⟨bulkhead, hbulkhead, hdefaults⟩ := bind_eq_ok hdefaults
    obtain ⟨retry, hretry, hdefaults⟩ := bind_eq_ok hdefaults
    cases hdefaults
    unfold Registries.apply at hdone ⊢
    obtain ⟨hdone, _, hstate⟩ := Progress.andThen_done hdone
    rw [hstate]
    obtain ⟨hdone, hretries, hstate⟩ := Progress.andThen_done hdone
    rw [hstate]
    obtain ⟨hdone, hbulkheads, hstate⟩ := Progress.andThen_done hdone
    rw [hstate] at hretries ⊢
    obtain ⟨hdone, hlimiters, hstate⟩ := Progress.andThen_done hdone
    rw [hstate] at hbulkheads hretries ⊢
    obtain ⟨_, hbreakers, hstate⟩ := Progress.andThen_done hdone
    rw [hstate] at hlimiters hbulkheads hretries ⊢
    exact ⟨⟨breaker, hbreaker, hbreakers, rfl⟩, ⟨limiter, hlimiter, hlimiters, rfl⟩,
      ⟨bulkhead, hbulkhead, hbulkheads, rfl⟩, ⟨retry, hretry, hretries, rfl⟩⟩

end FaultTolerance.Settings
