import FaultTolerance.Proofs.Breaker.Moves
import FaultTolerance.Proofs.Settings.Inheritance

/-! Which settings can be loaded.

Loading stops at its first failure, and which one comes first depends on the order of the sections,
of the blocks and of the checks. Whether there is one does not: `Section.Sound` asks every block the
same questions, in no order and whether or not an instance builds on it, and a section is loaded
exactly if it is sound (`Section.loads_iff`). One direction follows the two passes forward, each
block meeting a registry that has what it builds on because the order puts that first (`Ordered`);
the other reads off what each step would have refused.

Nothing is left for later: a loaded section makes an instance of every configuration that it has
(`Section.Serves`). The main theorem is **`ofSettings_complete`**. -/
namespace FaultTolerance.Settings
open Registry (defaultName)
open Relation (TransGen)
variable {π κ τ σ α : Type}

/-! ### Progress -/

namespace Progress
variable {next : α → σ → Progress σ} {as : List α} {s : σ}

theorem andThen_failure {p : Progress σ} {next : σ → Progress σ} :
    (p.andThen next).failure = none ↔ p.failure = none ∧ (next p.state).failure = none := by
  refine ⟨fun h => ⟨(andThen_done h).1, (andThen_done h).2.1⟩, ?_⟩
  rintro ⟨hp, hnext⟩
  unfold andThen
  rw [hp]
  exact hnext

theorem andThen_succeeds {p : Progress σ} {next : σ → Progress σ} {t : σ}
    (hp : p.failure = none ∧ p.state = t) (hnext : (next t).failure = none) :
    (p.andThen next).failure = none ∧ (p.andThen next).state = (next t).state := by
  obtain ⟨hdone, rfl⟩ := hp
  have h := andThen_failure.mpr ⟨hdone, hnext⟩
  exact ⟨h, (andThen_done h).2.2⟩

theorem toExcept_eq_ok {p : Progress σ} {t : σ} :
    p.toExcept = .ok t ↔ p.failure = none ∧ p.state = t := by
  unfold toExcept
  cases p.failure with
  | some f => exact ⟨nofun, fun h => nomatch h.1⟩
  | none => exact ⟨fun h => ⟨rfl, Except.ok.inj h⟩, fun h => congrArg _ h.2⟩

/-- What every step has checked, given what all steps keep, holds for every element. -/
theorem each_checked {I : σ → Prop} {P : α → Prop}
    (hstep : ∀ a s, (next a s).failure = none → I s → I (next a s).state ∧ P a)
    (hdone : (each next as s).failure = none) (h : I s) : ∀ a ∈ as, P a := by
  induction as generalizing s with
  | nil => exact List.forall_mem_nil _
  | cons head rest ih =>
    obtain ⟨hnow, hrest, _⟩ := andThen_done hdone
    obtain ⟨hnext, hhead⟩ := hstep head s hnow h
    exact List.forall_mem_cons.mpr ⟨hhead, ih hrest hnext⟩

theorem each_concat {a : α} (hdone : (each next as s).failure = none)
    (hlast : (next a (each next as s).state).failure = none) :
    (each next (as ++ [a]) s).failure = none ∧
      (each next (as ++ [a]) s).state = (next a (each next as s).state).state := by
  induction as generalizing s with
  | nil =>
    have h : (each next [a] s).failure = none := andThen_failure.mpr ⟨hlast, rfl⟩
    exact ⟨h, (andThen_done h).2.2⟩
  | cons head rest ih =>
    obtain ⟨hnow, hrest, hstate⟩ := andThen_done hdone
    have hstate : (each next (head :: rest) s).state = (each next rest (next head s).state).state :=
      hstate
    rw [hstate] at hlast ⊢
    obtain ⟨hall, hend⟩ := ih hrest hlast
    have h : (each next (head :: (rest ++ [a])) s).failure = none :=
      andThen_failure.mpr ⟨hnow, hall⟩
    exact ⟨h, (andThen_done h).2.2.trans hend⟩

end Progress

/-! ### What is asked of a section -/

/-- The name of the default configuration or of a shared one. -/
def Section.Offers (s : Section π) (name : String) : Prop :=
  name = defaultName ∨ name ∈ s.configs.names

/-- Nothing in the blocks of a section stands in the way of loading it. -/
structure Section.Sound (k : Kind π κ τ) (s : Section π) : Prop where
  /-- The block of the default configuration names no base. -/
  rooted : ∀ block, s.configs.find? defaultName = some block → k.base block = none
  /-- Every base that is named is there. -/
  shared_base : ∀ name block base, s.configs.find? name = some block →
    k.base block = some base → s.Offers base
  instance_base : ∀ entry ∈ s.instances, ∀ base, k.base entry.2 = some base → s.Offers base
  /-- No shared configuration builds on itself, however far down. -/
  acyclic : ∀ name, ¬ TransGen (BuildsOn k.base s.configs) name name
  /-- The intervals that blocks describe are accepted. -/
  shared_change : ∀ name block, s.configs.find? name = some block →
    ∃ change, k.overlay block = .ok change
  instance_change : ∀ entry ∈ s.instances, ∃ change, k.overlay entry.2 = .ok change
  /-- What shared blocks come to is valid, the default configuration included. -/
  shared_valid : ∀ name chain c, Lineage k s.configs name chain → layAll k chain = .ok c →
    k.validate c = .ok ()
  /-- What instances are made from is valid. Of several blocks of one name the first is meant. -/
  instance_valid : ∀ name block below c, s.instances.find? name = some block →
    Lineage k s.configs (k.foundation block) below → layAll k (block :: below) = .ok c →
      k.validate c = .ok ()

/-- An instance can be made of every configuration that passes the check, and of no other. The
built-in configuration passes it. -/
structure Kind.Checked (k : Kind π κ τ) : Prop where
  standard : k.validate k.standard = .ok ()
  make_iff (now : Nat) (name : String) (c : κ) :
    (∃ value, k.make now name c = .ok value) ↔ k.validate c = .ok ()

section Sections
variable {k : Kind π κ τ} {now : Nat} {s : Section π} {configs : Catalog π} {standard c : κ}
  {r : Registry κ τ} {name other : String} {block : π} {chain : List π} {change : κ → κ}

/-! ### The default configuration -/

theorem mapError_eq_ok {f : Error → Failure} {x : Except Error κ} :
    x.mapError f = .ok c ↔ x = .ok c := by
  cases x with
  | error e => exact ⟨nofun, nofun⟩
  | ok d => exact ⟨fun h => congrArg _ (Except.ok.inj h), fun h => congrArg _ (Except.ok.inj h)⟩

theorem overStandard_eq_ok :
    (do
        let change ← k.overlay block
        let config := change k.standard
        k.validate config
        return config : Except Error κ) = .ok c ↔
      layAll k [block] = .ok c ∧ k.validate c = .ok () := by
  constructor
  · intro h
    obtain ⟨change, hchange, h⟩ := bind_eq_ok h
    obtain ⟨hvalid, h⟩ := ok_of_bind h
    cases h
    exact ⟨layAll_cons hchange rfl, hvalid⟩
  · rintro ⟨hlaid, hvalid⟩
    obtain ⟨change, d, hchange, hbelow, rfl⟩ := layAll_cons_ok hlaid
    cases hbelow
    rw [hchange]
    show (k.validate (change k.standard) >>= fun _ => _) = _
    rw [hvalid]
    rfl

/-- When a section has a default configuration. -/
theorem defaultConfig_eq_ok (hk : k.validate k.standard = .ok ()) :
    defaultConfig k s = .ok standard ↔
      (∀ block, s.configs.find? defaultName = some block → k.base block = none) ∧
      layAll k (s.configs.find? defaultName).toList = .ok standard ∧
      k.validate standard = .ok () := by
  unfold defaultConfig
  cases hfound : s.configs.find? defaultName with
  | none =>
    refine ⟨fun h => ?_, fun h => congrArg _ (Except.ok.inj h.2.1)⟩
    cases h
    exact ⟨nofun, rfl, hk⟩
  | some block =>
    cases hbase : k.base block with
    | some base =>
      simp only [hbase]
      refine ⟨nofun, fun h => ?_⟩
      cases (h.1 block rfl).symm.trans hbase
    | none =>
      simp only [hbase]
      refine (mapError_eq_ok.trans overStandard_eq_ok).trans ⟨fun h => ⟨?_, h⟩, fun h => h.2⟩
      rintro _ ⟨⟩
      exact hbase

/-! ### Shared configurations -/

theorem Lineage.offered (h : Lineage k s.configs name chain) : s.Offers name := by
  cases h with
  | standard => exact .inl rfl
  | shared _ hfound _ => exact .inr (Catalog.mem_names.mpr ⟨_, hfound⟩)

/-- The block of a name is the nearest one of its lineage. -/
theorem Lineage.cons_of_found (h : Lineage k configs name chain)
    (hfound : configs.find? name = some block) :
    ∃ below, chain = block :: below ∧
      (name ≠ defaultName → Lineage k configs (k.foundation block) below) := by
  cases h with
  | standard => exact ⟨[], by rw [hfound]; rfl, fun hname => absurd rfl hname⟩
  | shared _ hfound' hbelow =>
    cases hfound.symm.trans hfound'
    exact ⟨_, rfl, fun _ => hbelow⟩

/-- A block that is laid over a lineage builds on what is there. -/
theorem offers_of_lineage {below : List π} {base : String}
    (hlineage : Lineage k s.configs (k.foundation block) below) (hbase : k.base block = some base) :
    s.Offers base := by
  have hfoundation : k.foundation block = base := by
    unfold Kind.foundation
    rw [hbase]
    rfl
  exact hfoundation ▸ hlineage.offered

theorem Section.Sound.foundation (h : s.Sound k) (hfound : s.configs.find? name = some block) :
    s.Offers (k.foundation block) := by
  unfold Kind.foundation
  cases hbase : k.base block with
  | none => exact .inl rfl
  | some base => exact h.shared_base name block base hfound hbase

/-- A registered configuration is valid. -/
theorem registerShared_checked (h : Founded k now configs standard r)
    (hstandard : layAll k (configs.find? defaultName).toList = .ok standard)
    (hfound : configs.find? name = some block)
    (hdone : (registerShared k configs name r).failure = none) :
    ∃ chain c, Lineage k configs name chain ∧ layAll k chain = .ok c ∧ k.validate c = .ok () := by
  have hfounded := h.register name
  unfold registerShared at hdone hfounded
  simp only [hfound] at hdone hfounded
  cases hchange : k.overlay block with
  | error e =>
    rw [hchange] at hdone
    cases hdone
  | ok change =>
    rw [hchange] at hdone hfounded
    dsimp only at hdone hfounded
    rcases hinserted :
        r.insertTemplate name (.derived ((k.base block).getD defaultName) change) with
      ⟨stored, e | u⟩
    · rw [hinserted] at hdone
      cases hdone
    · rw [hinserted] at hdone hfounded
      dsimp only at hdone hfounded
      cases hvalid : (stored.configuration name).bind k.validate with
      | error e =>
        rw [hvalid] at hdone
        cases hdone
      | ok _ =>
        rw [hvalid] at hfounded
        obtain ⟨c, hc, hvalid⟩ := bind_eq_ok hvalid
        obtain ⟨chain, hlineage, hlaid⟩ := hfounded.configuration hstandard hc
        exact ⟨chain, c, hlineage, hlaid, hvalid⟩

/-- A block is registered if it builds on what is there, makes a change and comes to a valid
configuration. -/
theorem registerShared_succeeds (h : Founded k now configs standard r)
    (hstandard : layAll k (configs.find? defaultName).toList = .ok standard)
    (hname : name ≠ defaultName) (hfound : configs.find? name = some block)
    (hnew : name ∉ r.templates.names) (hbase : k.foundation block ∈ r.templates.names)
    (hchange : k.overlay block = .ok change)
    (hvalid : ∀ chain c, Lineage k configs name chain → layAll k chain = .ok c →
      k.validate c = .ok ()) :
    (registerShared k configs name r).failure = none ∧
      ∀ other, other ∈ (registerShared k configs name r).state.templates.names ↔
        other = name ∨ other ∈ r.templates.names := by
  obtain ⟨u, hu⟩ := Catalog.mem_names.mp hbase
  obtain ⟨d, hd⟩ := h.settled.resolves hu
  have hresolves : Registry.Resolves
      (r.templates.put name (.derived (k.foundation block) change)) name (change d) :=
    .derived (Catalog.find?_put_self ..) (hd.put_new hnew)
  have hstored : r.insertTemplate name (.derived ((k.base block).getD defaultName) change) =
      ({ r with templates := r.templates.put name (.derived (k.foundation block) change) },
        .ok ()) :=
    Registry.insertTemplate_stores hname hresolves
  have hc := Registry.resolve_eq_ok.mpr hresolves
  obtain ⟨chain, hlineage, hlaid⟩ :=
    (h.store hname hfound hchange hresolves).configuration hstandard hc
  have hchecked : (Registry.resolve (r.templates.put name (.derived (k.foundation block) change))
      name).bind k.validate = .ok () := by
    rw [hc]
    exact hvalid chain _ hlineage hlaid
  unfold registerShared
  simp only [hfound, hchange, hstored, Registry.configuration]
  rw [hchecked]
  exact ⟨rfl, fun other => Catalog.mem_names_put⟩

/-- Shared configurations are registered in order. -/
theorem Section.Sound.registers (h : s.Sound k)
    (hstandard : layAll k (s.configs.find? defaultName).toList = .ok standard)
    {order : List String} (horder : Ordered k.base s.configs order) :
    let p := Progress.each (registerShared k s.configs) order (.new standard (k.make now))
    p.failure = none ∧
      ∀ name, name ∈ p.state.templates.names ↔ name = defaultName ∨ name ∈ order := by
  induction horder with
  | nil => exact ⟨rfl, fun name => by simp [Progress.each, Registry.new, Catalog.names]⟩
  | @snoc placed name block _ hnew hname hfound hbase ih =>
    obtain ⟨hdone, hstored⟩ := ih
    have hfounded : Founded k now s.configs standard
        (Progress.each (registerShared k s.configs) placed (.new standard (k.make now))).state :=
      Progress.each_preserves (fun name _ _ h => h.register name) placed _ hdone (.new ..)
    obtain ⟨change, hchange⟩ := h.shared_change name block hfound
    have hbelow : k.foundation block = defaultName ∨ k.foundation block ∈ placed := by
      unfold Kind.foundation
      cases hnamed : k.base block with
      | none => exact .inl rfl
      | some base =>
        rcases hbase base hnamed with hdefault | hbefore | hnone
        · exact .inl hdefault
        · exact .inr hbefore
        · refine .inl ((h.shared_base name block base hfound hnamed).resolve_right fun hmem => ?_)
          obtain ⟨_, hsome⟩ := Catalog.mem_names.mp hmem
          cases hnone.symm.trans hsome
    obtain ⟨hnow, hnames⟩ := registerShared_succeeds hfounded hstandard hname hfound
      (fun hmem => ((hstored name).mp hmem).elim hname hnew) ((hstored _).mpr hbelow) hchange
      (h.shared_valid name)
    obtain ⟨hall, hstate⟩ := Progress.each_concat hdone hnow
    refine ⟨hall, fun other => ?_⟩
    rw [hstate, hnames, hstored, List.mem_append, List.mem_singleton]
    tauto

/-! ### Instances -/

/-- An instance can be made if its base is there and its block makes a change. -/
theorem Stocked.instanceConfig (h : Stocked k now s.configs standard r)
    (hbase : ∀ base, k.base block = some base → s.Offers base)
    (hchange : ∃ change, k.overlay block = .ok change) :
    ∃ c, instanceConfig k r block = .ok c := by
  obtain ⟨change, hchange⟩ := hchange
  unfold Settings.instanceConfig
  rw [hchange]
  cases hnamed : k.base block with
  | none => exact ⟨change r.standard, rfl⟩
  | some base =>
    obtain ⟨d, hd⟩ := h.configured (hbase base hnamed)
    dsimp only
    rw [hd]
    exact ⟨change d, rfl⟩

theorem createInstance_of_found {entry : Registry.Entry τ}
    (hconfig : instanceConfig k r block = .ok c) (hfound : r.find? name = some entry) :
    (createInstance k (name, block) r).failure = none ∧
      (createInstance k (name, block) r).state = r := by
  unfold createInstance
  dsimp only
  rw [hconfig]
  unfold Registry.getOrCreate
  dsimp only [Except.bind]
  rw [hfound]
  exact ⟨rfl, rfl⟩

theorem createInstance_of_made {value : τ} (hconfig : instanceConfig k r block = .ok c)
    (hnew : r.find? name = none) (hmade : r.make name c = .ok value) :
    (createInstance k (name, block) r).failure = none := by
  unfold createInstance
  dsimp only
  rw [hconfig]
  unfold Registry.getOrCreate
  dsimp only [Except.bind]
  rw [hnew]
  dsimp only [Registry.configurationOf, bind, Except.bind]
  rw [hmade]
  rfl

/-- All instances are made if each of them has a configuration and the first of each name can be
made from it. -/
theorem createInstances_succeed (instances : Catalog π)
    (hconfig : ∀ entry ∈ instances, ∃ c, instanceConfig k r entry.2 = .ok c)
    (hmake : ∀ name block c, Catalog.find? instances name = some block → r.find? name = none →
      instanceConfig k r block = .ok c → ∃ value, r.make name c = .ok value) :
    (Progress.each (createInstance k) instances r).failure = none := by
  induction instances generalizing r with
  | nil => rfl
  | cons head rest ih =>
    obtain ⟨key, first⟩ := head
    obtain ⟨c, hc⟩ := hconfig (key, first) (List.mem_cons_self ..)
    have hothers := fun entry hmem => hconfig entry (List.mem_cons_of_mem _ hmem)
    cases hfound : r.find? key with
    | some entry =>
      obtain ⟨hdone, hstate⟩ := createInstance_of_found hc hfound
      refine Progress.andThen_failure.mpr ⟨hdone, ?_⟩
      rw [hstate]
      refine ih hothers fun name block d hblock hnew hd => hmake name block d ?_ hnew hd
      rwa [Catalog.find?_cons_of_ne]
      rintro rfl
      cases hfound.symm.trans hnew
    | none =>
      obtain ⟨value, hmade⟩ := hmake key first c (Catalog.find?_cons_self ..) hfound hc
      have hdone := createInstance_of_made hc hfound hmade
      refine Progress.andThen_failure.mpr ⟨hdone, ?_⟩
      obtain ⟨_, _, made, ⟨hold, _⟩ | ⟨_, _, hstate⟩⟩ := createInstance_state hdone
      · cases hfound.symm.trans hold
      rw [hstate]
      refine ih hothers fun name block d hblock hnew hd => ?_
      have hput : (r.entries.put key made).find? name = none := hnew
      have hne : key ≠ name := by
        rintro rfl
        rw [Catalog.find?_put_self] at hput
        cases hput
      rw [Catalog.find?_put_of_ne _ _ hne] at hput
      exact hmake name block d ((Catalog.find?_cons_of_ne _ _ hne).trans hblock) hput hd

/-- Every block that was made into an instance, or found one there, has a configuration. -/
theorem createInstances_checked {instances : Catalog π}
    (hdone : (Progress.each (createInstance k) instances r).failure = none) :
    ∀ entry ∈ instances, ∃ c, instanceConfig k r entry.2 = .ok c := by
  refine Progress.each_checked (I := fun m => instanceConfig k m = instanceConfig k r)
    (fun entry m hnow hm => ?_) hdone rfl
  obtain ⟨c, hc, _, ⟨_, hstate⟩ | ⟨_, _, hstate⟩⟩ := createInstance_state hnow
  all_goals
    rw [hm] at hc
    rw [hstate]
    exact ⟨hm, c, hc⟩

/-! ### Sections -/

namespace Section

/-- The second pass meets a registry that has all that it asks for. -/
theorem Sound.loads (hk : k.Checked) (h : s.Sound k) : ∃ r, s.Loads k now r := by
  obtain ⟨order, horder⟩ := sharedOrder_ok_iff.mpr h.acyclic
  have hlaid : ∃ standard, layAll k (s.configs.find? defaultName).toList = .ok standard := by
    cases hfound : s.configs.find? defaultName with
    | none => exact ⟨k.standard, rfl⟩
    | some block =>
      obtain ⟨change, hchange⟩ := h.shared_change defaultName block hfound
      exact ⟨_, layAll_cons hchange rfl⟩
  obtain ⟨standard, hlaid⟩ := hlaid
  have hstandard : defaultConfig k s = .ok standard :=
    (defaultConfig_eq_ok hk.standard).mpr
      ⟨h.rooted, hlaid, h.shared_valid defaultName _ standard .standard hlaid⟩
  obtain ⟨hshared, _⟩ := h.registers hlaid (sharedOrder_ordered horder)
  have hstocked := sharedOrder_stocked horder hshared
  have hentries := registerShared_entries order hshared
  refine ⟨_, standard, hstandard, ?_, rfl⟩
  unfold applySection
  rw [horder]
  refine Progress.andThen_failure.mpr ⟨hshared, ?_⟩
  generalize (Progress.each (registerShared k s.configs) order
    (.new standard (k.make now))).state = q at hstocked hentries
  apply createInstances_succeed
  · intro entry hmem
    exact hstocked.instanceConfig (h.instance_base entry hmem) (h.instance_change entry hmem)
  · intro name block c hfound _ hc
    obtain ⟨below, hlineage, hlaid⟩ := hstocked.toFounded.instanceConfig hlaid hc
    rw [hstocked.make_eq]
    exact (hk.make_iff now name c).mpr (h.instance_valid name block below c hfound hlineage hlaid)

/-- What was loaded without a failure has been asked for. -/
theorem Loads.sound (hk : k.Checked) (h : s.Loads k now r) : s.Sound k := by
  obtain ⟨standard, hstandard, hdone, rfl⟩ := h
  obtain ⟨hrooted, hlaid, hvalid⟩ := (defaultConfig_eq_ok hk.standard).mp hstandard
  obtain ⟨order, horder, hshared, hinstances, -⟩ := applySection_done hdone
  have hregistered : ∀ name ∈ order, name ∈ s.configs.names → ∃ chain c,
      Lineage k s.configs name chain ∧ layAll k chain = .ok c ∧ k.validate c = .ok () := by
    refine Progress.each_checked (I := Founded k now s.configs standard)
      (fun name m hnow hm => ⟨hm.register name, fun hfound => ?_⟩) hshared (.new ..)
    obtain ⟨block, hblock⟩ := Catalog.mem_names.mp hfound
    exact registerShared_checked hm hlaid hblock hnow
  have hchecked (name : String) (hname : s.Offers name) : ∃ chain c,
      Lineage k s.configs name chain ∧ layAll k chain = .ok c ∧ k.validate c = .ok () := by
    by_cases hdefault : name = defaultName
    · rw [hdefault]
      exact ⟨_, standard, .standard, hlaid, hvalid⟩
    · have hfound := hname.resolve_left hdefault
      exact hregistered name (mem_sharedOrder horder hdefault hfound) hfound
  have hmade (entry : String × π) (hmem : entry ∈ s.instances) : ∃ below c,
      Lineage k s.configs (k.foundation entry.2) below ∧ layAll k (entry.2 :: below) = .ok c := by
    obtain ⟨c, hc⟩ := createInstances_checked hinstances entry hmem
    obtain ⟨below, hbelow⟩ :=
      (sharedOrder_stocked horder hshared).toFounded.instanceConfig hlaid hc
    exact ⟨below, c, hbelow⟩
  exact {
    rooted := hrooted
    acyclic := sharedOrder_ok_iff.mp ⟨order, horder⟩
    shared_base := by
      intro name block base hfound hbase
      have hname : name ≠ defaultName := by
        rintro rfl
        cases (hrooted block hfound).symm.trans hbase
      obtain ⟨chain, c, hlineage, -, -⟩ :=
        hchecked name (.inr (Catalog.mem_names.mpr ⟨block, hfound⟩))
      obtain ⟨below, rfl, hbelow⟩ := hlineage.cons_of_found hfound
      exact offers_of_lineage (hbelow hname) hbase
    instance_base := by
      intro entry hmem base hbase
      obtain ⟨below, c, hlineage, -⟩ := hmade entry hmem
      exact offers_of_lineage hlineage hbase
    shared_change := by
      intro name block hfound
      obtain ⟨chain, c, hlineage, hlaid, -⟩ :=
        hchecked name (.inr (Catalog.mem_names.mpr ⟨block, hfound⟩))
      obtain ⟨below, rfl, -⟩ := hlineage.cons_of_found hfound
      obtain ⟨change, _, hchange, -, -⟩ := layAll_cons_ok hlaid
      exact ⟨change, hchange⟩
    instance_change := by
      intro entry hmem
      obtain ⟨below, c, -, hlaid⟩ := hmade entry hmem
      obtain ⟨change, _, hchange, -, -⟩ := layAll_cons_ok hlaid
      exact ⟨change, hchange⟩
    shared_valid := by
      intro name chain c hlineage hlaid
      obtain ⟨chain', c', hlineage', hlaid', hvalid⟩ := hchecked name hlineage.offered
      cases hlineage.unique hlineage'
      cases hlaid.symm.trans hlaid'
      exact hvalid
    instance_valid := by
      intro name block below c hfound hlineage hlaid
      obtain ⟨below', c', entry, hlineage', hlaid', hmade, -⟩ :=
        applySection_instance hstandard hdone hfound
      cases hlineage.unique hlineage'
      cases hlaid.symm.trans hlaid'
      exact (hk.make_iff now name c).mp ⟨_, hmade⟩ }

/-- **A section is loaded exactly if it is sound.** -/
theorem loads_iff (hk : k.Checked) : (∃ r, s.Loads k now r) ↔ s.Sound k :=
  ⟨fun ⟨_, h⟩ => h.sound hk, fun h => h.loads hk⟩

/-! ### Later instances -/

/-- What a section has a configuration for. -/
inductive Has (s : Section π) : Registry.Source κ → Prop
  | standard : s.Has .standard
  | shared {name : String} (h : s.Offers name) : s.Has (.shared name)

/-- A registry makes an instance under any name that is free, of every configuration that a section
has, whatever instances there are and whatever the clock shows by then. -/
structure Serves (k : Kind π κ τ) (config : τ → κ) (s : Section π) (r : Registry κ τ) : Prop where
  make_eq : ∃ now, r.make = k.make now
  serves : ∀ source : Registry.Source κ, s.Has source → ∃ c, r.configurationOf source = .ok c ∧
    ∀ (later : Nat) (entries : Catalog (Registry.Entry τ)) (name : String) (tags : Catalog String),
      entries.find? name = none → ∃ stored entry,
        ({ r with entries, make := k.make later }).getOrCreate name source tags =
            .ok (stored, [.added name entry], entry) ∧
          stored.find? name = some entry ∧ config entry.value = c

theorem Loads.serves {config : τ → κ} (hk : k.Checked)
    (hconfig : ∀ now name c value, k.make now name c = .ok value → config value = c)
    (h : s.Loads k now r) : s.Serves k config r := by
  have hsound := h.sound hk
  obtain ⟨standard, hstandard, hstocked⟩ := h.stocked
  have hlaid := layAll_default hstandard
  have hconfigured (source : Registry.Source κ) (hsource : s.Has source) :
      ∃ c, r.configurationOf source = .ok c ∧ k.validate c = .ok () := by
    cases hsource with
    | standard =>
      exact ⟨r.standard, rfl, hstocked.standard_eq ▸
        hsound.shared_valid defaultName _ standard .standard hlaid⟩
    | @shared name hname =>
      obtain ⟨c, hc⟩ := hstocked.configured hname
      obtain ⟨chain, hlineage, hlaid⟩ := (hstocked.configuration_eq_ok hlaid).mp hc
      exact ⟨c, hc, hsound.shared_valid name chain c hlineage hlaid⟩
  refine ⟨⟨now, hstocked.make_eq⟩, fun source hsource => ?_⟩
  obtain ⟨c, hc, hvalid⟩ := hconfigured source hsource
  refine ⟨c, hc, fun later entries name tags hnew => ?_⟩
  obtain ⟨value, hmade⟩ := (hk.make_iff later name c).mpr hvalid
  let q : Registry κ τ := { r with entries, make := k.make later }
  let entry : Registry.Entry τ := ⟨r.nextSerial, name, r.tags.merge tags, value⟩
  refine ⟨{ q with entries := entries.put name entry, nextSerial := r.nextSerial + 1 }, entry, ?_,
    Catalog.find?_put_self .., hconfig later name c value hmade⟩
  have hfree : q.find? name = none := hnew
  have hsame : q.configurationOf source = .ok c := by
    rw [← hc]
    cases source <;> rfl
  unfold Registry.getOrCreate
  rw [hfree]
  dsimp only
  rw [hsame]
  show (k.make later name c >>= fun _ => _) = _
  rw [hmade]
  rfl

end Section

end Sections

/-! ### Primitives -/

section Kinds
variable {ε ν : Type}

theorem ok_iff_of_check {check : Except Error Unit} {made : Unit → Except Error τ} {value : τ}
    (hmade : check = .ok () → made () = .ok value) :
    (∃ value, (check >>= made) = .ok value) ↔ check = .ok () := by
  constructor
  · rintro ⟨_, h⟩
    exact (ok_of_bind h).1
  · intro h
    rw [h]
    exact ⟨value, hmade h⟩

theorem breaker_checked : (Kind.breaker ε ν).Checked where
  standard := by
    have hfailures (field : String) : checkRate field 50.0 = .ok () := if_pos (by decide +kernel)
    have hslow (field : String) : checkRate field 100.0 = .ok () := if_pos (by decide +kernel)
    show Breaker.Config.validate {} = .ok ()
    unfold Breaker.Config.validate
    rw [hfailures, hslow]
    rfl
  make_iff now name c := ok_iff_of_check fun hvalid => by
    rw [Breaker.Cell.enter_eq (Breaker.Config.sound_of_validate hvalid)]
    rfl

theorem limiter_checked : Kind.limiter.Checked where
  standard := rfl
  make_iff _ _ _ := ok_iff_of_check fun _ => rfl

theorem bulkhead_checked : Kind.bulkhead.Checked where
  standard := rfl
  make_iff _ _ _ := ok_iff_of_check fun _ => rfl

theorem retry_checked : (Kind.retry ε ν).Checked where
  standard := rfl
  make_iff _ _ _ := ok_iff_of_check fun _ => rfl

end Kinds

/-! ### All sections -/

section Loading
variable {ε ν : Type} {s : Settings} {now : Nat}

/-- Settings can be loaded if each of their sections can. -/
theorem ofSettings_of_loads (hbreakers : ∃ r, s.breakers.Loads (.breaker ε ν) now r)
    (hlimiters : ∃ r, s.limiters.Loads .limiter now r)
    (hbulkheads : ∃ r, s.bulkheads.Loads .bulkhead now r)
    (hretries : ∃ r, s.retries.Loads (.retry ε ν) now r) :
    (Registries.ofSettings s now : Progress (Registries ε ν)).failure = none := by
  obtain ⟨_, breaker, hbreaker, hbreakers, -⟩ := hbreakers
  obtain ⟨_, limiter, hlimiter, hlimiters, -⟩ := hlimiters
  obtain ⟨_, bulkhead, hbulkhead, hbulkheads, -⟩ := hbulkheads
  obtain ⟨_, retry, hretry, hretries, -⟩ := hretries
  have hdefaults : (Registries.withDefaults s now : Except Failure (Registries ε ν)) = .ok
      { breakers := .new breaker ((Kind.breaker ε ν).make now)
        limiters := .new limiter (Kind.limiter.make now)
        bulkheads := .new bulkhead (Kind.bulkhead.make now)
        retries := .new retry ((Kind.retry ε ν).make now) } := by
    unfold Registries.withDefaults
    rw [hbreaker, hlimiter, hbulkhead, hretry]
    rfl
  unfold Registries.ofSettings
  rw [hdefaults]
  show (Registries.apply _ s).failure = none
  -- Each section is loaded into a registry that the others leave alone.
  unfold Registries.apply
  exact (Progress.andThen_succeeds (Progress.andThen_succeeds (Progress.andThen_succeeds
    (Progress.andThen_succeeds (Progress.andThen_succeeds ⟨rfl, rfl⟩ hbreakers) hlimiters)
    hbulkheads) hretries) rfl).1

/-- **Settings are loaded exactly if all their sections are sound**, and then every registry makes
an instance under any name that is free, of its default configuration and of every shared one. -/
theorem ofSettings_complete (s : Settings) (now : Nat) :
    let loaded : Except Failure (Registries ε ν) := (Registries.ofSettings s now).toExcept
    ((∃ r, loaded = .ok r) ↔ s.breakers.Sound (.breaker ε ν) ∧ s.limiters.Sound .limiter ∧
      s.bulkheads.Sound .bulkhead ∧ s.retries.Sound (.retry ε ν)) ∧
    ∀ r, loaded = .ok r →
      s.breakers.Serves (.breaker ε ν) (·.config) r.breakers ∧
        s.limiters.Serves .limiter (·.config) r.limiters ∧
        s.bulkheads.Serves .bulkhead (·.config) r.bulkheads ∧
        s.retries.Serves (.retry ε ν) (·.config) r.retries := by
  intro loaded
  have hloaded (r : Registries ε ν) : loaded = .ok r ↔
      (Registries.ofSettings s now : Progress (Registries ε ν)).failure = none ∧
        (Registries.ofSettings s now).state = r := Progress.toExcept_eq_ok
  refine ⟨⟨?_, ?_⟩, fun r hr => ?_⟩
  · rintro ⟨r, hr⟩
    obtain ⟨hbreakers, hlimiters, hbulkheads, hretries⟩ := ofSettings_loads ((hloaded r).mp hr).1
    exact ⟨hbreakers.sound breaker_checked, hlimiters.sound limiter_checked,
      hbulkheads.sound bulkhead_checked, hretries.sound retry_checked⟩
  · rintro ⟨hbreakers, hlimiters, hbulkheads, hretries⟩
    exact ⟨_, (hloaded _).mpr ⟨ofSettings_of_loads (hbreakers.loads breaker_checked)
      (hlimiters.loads limiter_checked) (hbulkheads.loads bulkhead_checked)
      (hretries.loads retry_checked), rfl⟩⟩
  · obtain ⟨hdone, rfl⟩ := (hloaded r).mp hr
    obtain ⟨hbreakers, hlimiters, hbulkheads, hretries⟩ := ofSettings_loads hdone
    exact ⟨hbreakers.serves breaker_checked breaker_config,
      hlimiters.serves limiter_checked limiter_config,
      hbulkheads.serves bulkhead_checked bulkhead_config,
      hretries.serves retry_checked retry_config⟩

/-- An instance that the settings do not mention is made of the upper one of two shared
configurations. -/
theorem stacked_serves :
    let r := (Registries.ofSettings stacked : Progress (Registries Error Unit)).state
    ∃ stored entry,
      r.limiters.getOrCreate "spare" (.shared "alpha") =
          .ok (stored, [.added "spare" entry], entry) ∧
        entry.value.config = ⟨5, .ofMillis 7, .ofMillis 3⟩ := by
  intro r
  have hr : (Registries.ofSettings stacked).toExcept = .ok r :=
    Progress.toExcept_eq_ok.mpr ⟨stacked_loaded, rfl⟩
  obtain ⟨-, hlimiters, -, -⟩ := (ofSettings_complete stacked 0).2 r hr
  obtain ⟨c, hc, hcreate⟩ := hlimiters.serves (.shared "alpha") (.shared (.inr (by decide)))
  have halpha : Lineage .limiter stacked.limiters.configs "alpha" _ :=
    .shared (by decide) rfl (.shared (by decide) rfl .standard)
  have hlaid : r.limiters.configuration "alpha" = .ok ⟨5, .ofMillis 7, .ofMillis 3⟩ :=
    (ofSettings_loads stacked_loaded).2.1.configuration_eq_ok.mpr ⟨_, halpha, rfl⟩
  cases hc.symm.trans hlaid
  obtain ⟨now, hmake⟩ := hlimiters.make_eq
  obtain ⟨stored, entry, hcreated, -, hconfig⟩ := hcreate now r.limiters.entries "spare" []
    (Option.isNone_iff_eq_none.mp (by decide +kernel))
  rw [← hmake] at hcreated
  exact ⟨stored, entry, hcreated, hconfig⟩

end Loading

end FaultTolerance.Settings
