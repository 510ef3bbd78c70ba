import FaultTolerance.Proofs.Settings.Lineage

/-! Blocks laid one over the other, and the one block that they merge into.

Merging takes every field from the nearest block that names it. Most fields stand for themselves,
and for them it makes no difference whether blocks are merged or laid one over the other. The fields
that describe a wait are the exception: each block makes a wait of the ones that it names itself,
with built-in values for the others, and the nearest block that makes one decides. A `Layout` keeps
the two sorts apart, and `Lawful` says what is needed of them; the four primitives have one each.

The main theorem is **`ofSettings_resolves`**: it says of every loaded instance what it is
configured with, and when that is the configuration of the merged block. -/
namespace FaultTolerance.Settings
open Registry (defaultName)

/-! ### Fields -/

section Fields
variable {α : Type}

theorem lay_or (a b : Option α) (below : α) : lay (a.or b) below = lay a (lay b below) := by
  cases a <;> rfl

theorem layMillis_or (a b : Option Nat) (below : Duration) :
    layMillis (a.or b) below = layMillis a (layMillis b below) := by
  cases a <;> rfl

end Fields

/-! ### Layouts -/

/-- How the blocks of a primitive lay their fields over a configuration. `ω` is what some of the
fields describe together. -/
structure Layout (π κ ω : Type) where
  /-- Takes each field from the first block if that names it, and else from the second. -/
  atop : π → π → π
  /-- The block that names nothing. -/
  blank : π
  /-- Lays the fields that stand for themselves. -/
  plain : π → κ → κ
  /-- A block that names only the other ones. -/
  parts : π → π
  /-- Whether those describe anything. -/
  describes : π → Bool
  /-- What they describe, if they agree with each other. -/
  make : π → Except Error (Option ω)
  /-- Where it goes. -/
  whole : κ → ω
  withWhole : κ → ω → κ

namespace Layout
variable {π κ τ ω : Type}

/-- Lays a block over a configuration, together with what is described. -/
def onto (L : Layout π κ ω) (block : π) (w : Option ω) (c : κ) : κ :=
  L.withWhole (L.plain block c) (lay w (L.whole c))

/-- Many blocks, the nearest first, as one. -/
def merged (L : Layout π κ ω) (chain : List π) : π := chain.foldr L.atop L.blank

/-- The nearest block that describes anything. -/
def speaker? (L : Layout π κ ω) (chain : List π) : Option π := chain.find? L.describes

/-- What it describes. -/
def described (L : Layout π κ ω) (chain : List π) : Option ω :=
  (L.speaker? chain).bind fun block => (L.make block).toOption.join

/-- The fields are laid as the layout says, and apart from each other. -/
structure Lawful (L : Layout π κ ω) (k : Kind π κ τ) : Prop where
  overlay_eq (block : π) : k.overlay block = (L.make block).map (L.onto block)
  make_parts (block : π) : L.make (L.parts block) = L.make block
  isSome_make {block : π} {w : Option ω} : L.make block = .ok w → w.isSome = L.describes block
  make_silent {block : π} : L.describes block = false → L.make block = .ok none
  describes_atop (a b : π) : L.describes (L.atop a b) = (L.describes a || L.describes b)
  describes_blank : L.describes L.blank = false
  plain_atop (a b : π) (c : κ) : L.plain (L.atop a b) c = L.plain a (L.plain b c)
  plain_blank (c : κ) : L.plain L.blank c = c
  plain_withWhole (block : π) (c : κ) (w : ω) :
    L.plain block (L.withWhole c w) = L.withWhole (L.plain block c) w
  whole_withWhole (c : κ) (w : ω) : L.whole (L.withWhole c w) = w
  withWhole_withWhole (c : κ) (v w : ω) : L.withWhole (L.withWhole c v) w = L.withWhole c w
  withWhole_whole (c : κ) : L.withWhole c (L.whole c) = c

/-- What the blocks of a chain, the nearest first, are resolved to. -/
structure Resolves (L : Layout π κ ω) (k : Kind π κ τ) (chain : List π) (c : κ) : Prop where
  /-- All that the blocks name, and what the nearest one that describes anything describes on its
  own. -/
  eq : c = L.onto (L.merged chain) (L.described chain) k.standard
  /-- The merged block gives the same if and only if it describes the same. -/
  merged_iff : layAll k [L.merged chain] = .ok c ↔ L.make (L.merged chain) = .ok (L.described chain)
  /-- It does if that block names the same of what describes anything together. -/
  merged_of_parts : (∀ block, L.speaker? chain = some block →
    L.parts block = L.parts (L.merged chain)) → layAll k [L.merged chain] = .ok c

namespace Lawful
variable {L : Layout π κ ω} {k : Kind π κ τ} (hL : L.Lawful k) {chain : List π} {c : κ}
include hL

theorem onto_blank (c : κ) : L.onto L.blank none c = c := by
  unfold onto
  rw [hL.plain_blank]
  exact hL.withWhole_whole c

theorem onto_onto (a b : π) (v w : Option ω) (c : κ) :
    L.onto a v (L.onto b w c) = L.onto (L.atop a b) (v.or w) c := by
  unfold onto
  rw [hL.plain_withWhole, hL.withWhole_withWhole, hL.whole_withWhole, hL.plain_atop, lay_or]

theorem whole_onto (block : π) (w : Option ω) (c : κ) :
    L.whole (L.onto block w c) = lay w (L.whole c) := hL.whole_withWhole ..

theorem make_of_overlay {block : π} {change : κ → κ} (h : k.overlay block = .ok change) :
    ∃ w, L.make block = .ok w ∧ change = L.onto block w := by
  rw [hL.overlay_eq] at h
  cases hmake : L.make block with
  | error e =>
    rw [hmake] at h
    cases h
  | ok w =>
    rw [hmake] at h
    exact ⟨w, rfl, (Except.ok.inj h).symm⟩

theorem described_cons {block : π} {below : List π} {w : Option ω}
    (hmake : L.make block = .ok w) :
    L.described (block :: below) = w.or (L.described below) := by
  have hspeaks := hL.isSome_make hmake
  unfold described speaker?
  rw [List.find?_cons, ← hspeaks]
  cases w with
  | none => rfl
  | some w =>
    show (L.make block).toOption.join = some w
    rw [hmake]
    rfl

/-- A chain lays all that its blocks name, and what its nearest speaker describes. -/
theorem layAll_eq (h : layAll k chain = .ok c) :
    c = L.onto (L.merged chain) (L.described chain) k.standard := by
  induction chain generalizing c with
  | nil =>
    cases h
    exact (hL.onto_blank _).symm
  | cons block below ih =>
    obtain ⟨change, d, hchange, hbelow, rfl⟩ := layAll_cons_ok h
    obtain ⟨w, hmake, rfl⟩ := hL.make_of_overlay hchange
    rw [ih hbelow, hL.onto_onto, hL.described_cons hmake]
    rfl

/-- The merged block describes something if one of its blocks does. -/
theorem describes_merged (chain : List π) :
    L.describes (L.merged chain) = (L.speaker? chain).isSome := by
  unfold speaker? merged
  induction chain with
  | nil => exact hL.describes_blank
  | cons block below ih =>
    rw [List.foldr_cons, hL.describes_atop, ih, List.find?_cons]
    cases L.describes block <;> rfl

theorem make_speaker (h : layAll k chain = .ok c) {block : π}
    (hspeaker : L.speaker? chain = some block) : L.make block = .ok (L.described chain) := by
  induction chain generalizing c with
  | nil => cases hspeaker
  | cons head below ih =>
    obtain ⟨change, d, hchange, hbelow, rfl⟩ := layAll_cons_ok h
    obtain ⟨w, hmake, rfl⟩ := hL.make_of_overlay hchange
    have hspeaks := hL.isSome_make hmake
    unfold speaker? at hspeaker
    rw [List.find?_cons, ← hspeaks] at hspeaker
    rw [hL.described_cons hmake]
    cases w with
    | none => exact ih hbelow hspeaker
    | some w =>
      cases hspeaker
      exact hmake

theorem isSome_described (h : layAll k chain = .ok c) :
    (L.described chain).isSome = L.describes (L.merged chain) := by
  rw [hL.describes_merged]
  cases hspeaker : L.speaker? chain with
  | none =>
    unfold described
    rw [hspeaker]
    rfl
  | some block =>
    rw [hL.isSome_make (hL.make_speaker h hspeaker)]
    exact List.find?_some hspeaker

/-- When the blocks of a chain may be merged. -/
theorem layAll_merged_iff (h : layAll k chain = .ok c) :
    layAll k [L.merged chain] = .ok c ↔
      L.make (L.merged chain) = .ok (L.described chain) := by
  have hc := hL.layAll_eq h
  constructor
  · intro hmerged
    obtain ⟨change, d, hchange, hbelow, hd⟩ := layAll_cons_ok hmerged
    obtain ⟨w, hmake, rfl⟩ := hL.make_of_overlay hchange
    cases hbelow
    have hwhole : lay w (L.whole k.standard) = lay (L.described chain) (L.whole k.standard) := by
      rw [← hL.whole_onto, hd, hc, hL.whole_onto]
    have hsome : w.isSome = (L.described chain).isSome :=
      (hL.isSome_make hmake).trans (hL.isSome_described h).symm
    have hw : w = L.described chain := by
      cases w with
      | none => exact (Option.not_isSome_iff_eq_none.mp (by simp [← hsome])).symm
      | some w =>
        obtain ⟨v, hv⟩ := Option.isSome_iff_exists.mp hsome.symm
        rw [hv] at hwhole ⊢
        exact congrArg some hwhole
    rw [hmake, hw]
  · intro hmake
    have hchange := hL.overlay_eq (L.merged chain)
    rw [hmake] at hchange
    rw [hc]
    exact layAll_cons hchange rfl

theorem resolves (h : layAll k chain = .ok c) : L.Resolves k chain c where
  eq := hL.layAll_eq h
  merged_iff := hL.layAll_merged_iff h
  merged_of_parts := by
    intro hparts
    rw [hL.layAll_merged_iff h]
    cases hspeaker : L.speaker? chain with
    | none =>
      have hsilent : L.describes (L.merged chain) = false := by
        rw [hL.describes_merged, hspeaker]
        rfl
      rw [hL.make_silent hsilent]
      unfold described
      rw [hspeaker]
      rfl
    | some block =>
      rw [← hL.make_parts, ← hparts block hspeaker, hL.make_parts]
      exact hL.make_speaker h hspeaker

end Lawful

end Layout

/-! ### The four primitives -/

section Primitives
variable {ε ν : Type}

theorem isSome_of_map {x : Except Error Interval} {w : Option Interval}
    (h : x.map some = .ok w) : w.isSome = true := by
  cases x with
  | error e => cases h
  | ok i =>
    cases h
    rfl

namespace BreakerBlock

def layout (ε ν : Type) : Layout BreakerBlock (Breaker.Config ε ν) Interval where
  atop a b :=
    { base := a.base.or b.base
      failureRateThreshold := a.failureRateThreshold.or b.failureRateThreshold
      slowCallRateThreshold := a.slowCallRateThreshold.or b.slowCallRateThreshold
      slowCallDuration := a.slowCallDuration.or b.slowCallDuration
      windowKind := a.windowKind.or b.windowKind
      windowSize := a.windowSize.or b.windowSize
      minimumCalls := a.minimumCalls.or b.minimumCalls
      permittedProbes := a.permittedProbes.or b.permittedProbes
      maxHalfOpenWait := a.maxHalfOpenWait.or b.maxHalfOpenWait
      openWait := a.openWait.or b.openWait
      multiplier := a.multiplier.or b.multiplier
      maxOpenWait := a.maxOpenWait.or b.maxOpenWait }
  blank := {}
  plain b c :=
    { c with
      failureRateThreshold := lay b.failureRateThreshold c.failureRateThreshold
      slowCallRateThreshold := lay b.slowCallRateThreshold c.slowCallRateThreshold
      slowCallDuration := layMillis b.slowCallDuration c.slowCallDuration
      windowKind := lay b.windowKind c.windowKind
      windowSize := lay b.windowSize c.windowSize
      minimumCalls := lay b.minimumCalls c.minimumCalls
      permittedProbes := lay b.permittedProbes c.permittedProbes
      maxHalfOpenWait := layMillis b.maxHalfOpenWait c.maxHalfOpenWait }
  parts b := { openWait := b.openWait, multiplier := b.multiplier, maxOpenWait := b.maxOpenWait }
  describes b := b.multiplier.isSome || b.openWait.isSome
  make := interval
  whole c := c.openWait
  withWhole c openWait := { c with openWait }

theorem isSome_interval {b : BreakerBlock} {w : Option Interval} (h : b.interval = .ok w) :
    w.isSome = (b.multiplier.isSome || b.openWait.isSome) := by
  unfold interval at h
  cases hmultiplier : b.multiplier with
  | some multiplier =>
    rw [hmultiplier] at h
    exact isSome_of_map h
  | none =>
    cases hwait : b.openWait with
    | some wait =>
      rw [hmultiplier, hwait] at h
      cases h
      rfl
    | none =>
      rw [hmultiplier, hwait] at h
      cases h
      rfl

theorem layout_lawful : (layout ε ν).Lawful (Kind.breaker ε ν) where
  overlay_eq b := by
    show b.overlay = b.interval.map _
    unfold overlay
    cases b.interval <;> rfl
  make_parts _ := rfl
  isSome_make := isSome_interval
  make_silent {b} h := by
    obtain ⟨hmultiplier, hwait⟩ := Bool.or_eq_false_iff.mp h
    show b.interval = .ok none
    unfold interval
    rw [Option.isSome_eq_false_iff, Option.isNone_iff_eq_none] at hmultiplier hwait
    rw [hmultiplier, hwait]
  describes_atop a b := by
    show ((a.multiplier.or b.multiplier).isSome || (a.openWait.or b.openWait).isSome) =
      ((a.multiplier.isSome || a.openWait.isSome) || (b.multiplier.isSome || b.openWait.isSome))
    simp only [Option.isSome_or]
    ac_rfl
  describes_blank := rfl
  plain_atop a b c := by simp only [layout, lay_or, layMillis_or]
  plain_blank _ := rfl
  plain_withWhole _ _ _ := rfl
  whole_withWhole _ _ := rfl
  withWhole_withWhole _ _ _ := rfl
  withWhole_whole _ := rfl

end BreakerBlock

namespace LimiterBlock

def layout : Layout LimiterBlock Limiter.Config Unit where
  atop a b :=
    { base := a.base.or b.base
      limitForPeriod := a.limitForPeriod.or b.limitForPeriod
      refreshPeriod := a.refreshPeriod.or b.refreshPeriod
      timeout := a.timeout.or b.timeout }
  blank := {}
  plain b c :=
    { limitForPeriod := lay b.limitForPeriod c.limitForPeriod
      refreshPeriod := layMillis b.refreshPeriod c.refreshPeriod
      timeout := layMillis b.timeout c.timeout }
  parts _ := {}
  describes _ := false
  make _ := .ok none
  whole _ := ()
  withWhole c _ := c

theorem layout_lawful : layout.Lawful Kind.limiter where
  overlay_eq _ := rfl
  make_parts _ := rfl
  isSome_make h := by
    cases h
    rfl
  make_silent _ := rfl
  describes_atop _ _ := rfl
  describes_blank := rfl
  plain_atop a b c := by simp only [layout, lay_or, layMillis_or]
  plain_blank _ := rfl
  plain_withWhole _ _ _ := rfl
  whole_withWhole _ _ := rfl
  withWhole_withWhole _ _ _ := rfl
  withWhole_whole _ := rfl

end LimiterBlock

namespace BulkheadBlock

def layout : Layout BulkheadBlock Bulkhead.Config Unit where
  atop a b :=
    { base := a.base.or b.base
      maxConcurrentCalls := a.maxConcurrentCalls.or b.maxConcurrentCalls
      maxWait := a.maxWait.or b.maxWait }
  blank := {}
  plain b c :=
    { maxConcurrentCalls := lay b.maxConcurrentCalls c.maxConcurrentCalls
      maxWait := layMillis b.maxWait c.maxWait }
  parts _ := {}
  describes _ := false
  make _ := .ok none
  whole _ := ()
  withWhole c _ := c

theorem layout_lawful : layout.Lawful Kind.bulkhead where
  overlay_eq _ := rfl
  make_parts _ := rfl
  isSome_make h := by
    cases h
    rfl
  make_silent _ := rfl
  describes_atop _ _ := rfl
  describes_blank := rfl
  plain_atop a b c := by simp only [layout, lay_or, layMillis_or]
  plain_blank _ := rfl
  plain_withWhole _ _ _ := rfl
  whole_withWhole _ _ := rfl
  withWhole_withWhole _ _ _ := rfl
  withWhole_whole _ := rfl

end BulkheadBlock

namespace RetryBlock

def layout (ε ν : Type) : Layout RetryBlock (Retry.Config ε ν) Interval where
  atop a b :=
    { base := a.base.or b.base
      maxAttempts := a.maxAttempts.or b.maxAttempts
      wait := a.wait.or b.wait
      multiplier := a.multiplier.or b.multiplier
      maxWait := a.maxWait.or b.maxWait
      randomization := a.randomization.or b.randomization }
  blank := {}
  plain b c := { c with maxAttempts := lay b.maxAttempts c.maxAttempts }
  parts b :=
    { wait := b.wait, multiplier := b.multiplier, maxWait := b.maxWait
      randomization := b.randomization }
  describes b := b.multiplier.isSome || b.randomization.isSome || b.wait.isSome
  make := interval
  whole c := c.interval
  withWhole c interval := { c with interval }

theorem isSome_interval {b : RetryBlock} {w : Option Interval} (h : b.interval = .ok w) :
    w.isSome = (b.multiplier.isSome || b.randomization.isSome || b.wait.isSome) := by
  unfold interval at h
  dsimp only at h
  cases hmultiplier : b.multiplier with
  | some multiplier =>
    cases hfactor : b.randomization with
    | some factor =>
      rw [hmultiplier, hfactor] at h
      exact isSome_of_map h
    | none =>
      rw [hmultiplier, hfactor] at h
      exact isSome_of_map h
  | none =>
    cases hfactor : b.randomization with
    | some factor =>
      rw [hmultiplier, hfactor] at h
      exact isSome_of_map h
    | none =>
      rw [hmultiplier, hfactor] at h
      cases h
      exact Option.isSome_map

theorem layout_lawful : (layout ε ν).Lawful (Kind.retry ε ν) where
  overlay_eq b := by
    show b.overlay = b.interval.map _
    unfold overlay
    cases b.interval <;> rfl
  make_parts _ := rfl
  isSome_make := isSome_interval
  make_silent {b} h := by
    obtain ⟨hothers, hwait⟩ := Bool.or_eq_false_iff.mp h
    obtain ⟨hmultiplier, hfactor⟩ := Bool.or_eq_false_iff.mp hothers
    show b.interval = .ok none
    unfold interval
    rw [Option.isSome_eq_false_iff, Option.isNone_iff_eq_none] at hmultiplier hfactor hwait
    rw [hmultiplier, hfactor, hwait]
    rfl
  describes_atop a b := by
    show ((a.multiplier.or b.multiplier).isSome || (a.randomization.or b.randomization).isSome ||
        (a.wait.or b.wait).isSome) =
      ((a.multiplier.isSome || a.randomization.isSome || a.wait.isSome) ||
        (b.multiplier.isSome || b.randomization.isSome || b.wait.isSome))
    simp only [Option.isSome_or]
    ac_rfl
  describes_blank := rfl
  plain_atop a b c := by simp only [layout, lay_or]
  plain_blank _ := rfl
  plain_withWhole _ _ _ := rfl
  whole_withWhole _ _ := rfl
  withWhole_withWhole _ _ _ := rfl
  withWhole_whole _ := rfl

end RetryBlock

end Primitives

/-! ### Loaded instances -/

section Loaded
variable {ε ν : Type}

theorem breaker_config (now : Nat) (name : String) (c : Breaker.Config ε ν) (b : Breaker ε ν)
    (h : (Kind.breaker ε ν).make now name c = .ok b) : b.config = c := by
  obtain ⟨_, h⟩ := ok_of_bind h
  obtain ⟨_, _, h⟩ := bind_eq_ok h
  cases h
  rfl

theorem limiter_config (now : Nat) (name : String) (c : Limiter.Config) (l : Limiter)
    (h : Kind.limiter.make now name c = .ok l) : l.config = c := by
  obtain ⟨_, h⟩ := ok_of_bind h
  cases h
  rfl

theorem bulkhead_config (now : Nat) (name : String) (c : Bulkhead.Config) (b : Bulkhead)
    (h : Kind.bulkhead.make now name c = .ok b) : b.config = c := by
  obtain ⟨_, h⟩ := ok_of_bind h
  cases h
  rfl

theorem retry_config (now : Nat) (name : String) (c : Retry.Config ε ν) (r : Retry ε ν)
    (h : (Kind.retry ε ν).make now name c = .ok r) : r.config = c := by
  obtain ⟨_, h⟩ := ok_of_bind h
  cases h
  rfl

/-- **What loaded instances are configured with.** Limiters and bulkheads have the configuration of
the one block that their chain merges into. So have breakers and retries but for the wait, which
is the one that the nearest block describes that describes one, from the fields that it names
itself. The merged block gives the same configuration if and only if it describes the same wait; it
does if all the fields of the wait that are named are named in one block. -/
theorem ofSettings_resolves {s : Settings} {now : Nat}
    (hdone : (Registries.ofSettings s now : Progress (Registries ε ν)).failure = none) :
    let r := (Registries.ofSettings s now : Progress (Registries ε ν)).state
    s.limiters.Configured .limiter (·.config) r.limiters (fun chain c =>
        layAll .limiter [LimiterBlock.layout.merged chain] = .ok c) ∧
      s.bulkheads.Configured .bulkhead (·.config) r.bulkheads (fun chain c =>
        layAll .bulkhead [BulkheadBlock.layout.merged chain] = .ok c) ∧
      s.breakers.Configured (.breaker ε ν) (·.config) r.breakers
        ((BreakerBlock.layout ε ν).Resolves (.breaker ε ν)) ∧
      s.retries.Configured (.retry ε ν) (·.config) r.retries
        ((RetryBlock.layout ε ν).Resolves (.retry ε ν)) := by
  intro r
  obtain ⟨hbreakers, hlimiters, hbulkheads, hretries⟩ := ofSettings_loads hdone
  refine ⟨hlimiters.configured (limiter_config now) fun chain c h => ?_,
    hbulkheads.configured (bulkhead_config now) fun chain c h => ?_,
    hbreakers.configured (breaker_config now) fun chain c h =>
      BreakerBlock.layout_lawful.resolves h,
    hretries.configured (retry_config now) fun chain c h => RetryBlock.layout_lawful.resolves h⟩
  · exact (LimiterBlock.layout_lawful.resolves h).merged_of_parts fun _ _ => rfl
  · exact (BulkheadBlock.layout_lawful.resolves h).merged_of_parts fun _ _ => rfl

/-- Two blocks that name one field of the wait each. -/
def patient : BreakerBlock := { windowSize := some 20, openWait := some 5000 }

def hurried : BreakerBlock := { permittedProbes := some 3, multiplier := some 2.0 }

def scattered : Settings where
  breakers := { configs := [(defaultName, patient)], instances := [("payments", hurried)] }
  limiters :=
    { configs :=
        [(defaultName, { limitForPeriod := some 5 }), ("slow", { refreshPeriod := some 2 })]
      instances := [("api", { base := some "slow", timeout := some 0 })] }

theorem scattered_loaded :
    (Registries.ofSettings scattered : Progress (Registries Error Unit)).failure = none :=
  Option.isNone_iff_eq_none.mp (by decide +kernel)

theorem scattered_lineage :
    Lineage (Kind.breaker Error Unit) scattered.breakers.configs
      ((Kind.breaker Error Unit).foundation hurried) [patient] := .standard

/-- The limiter is made of three blocks. The breaker has all that its two blocks name, but the wait
of the nearest one alone. -/
theorem scattered_resolves :
    let r := (Registries.ofSettings scattered : Progress (Registries Error Unit)).state
    (∃ entry, r.limiters.find? "api" = some entry ∧ entry.value.config = ⟨5, .ofMillis 2, .zero⟩) ∧
      ∃ entry, r.breakers.find? "payments" = some entry ∧
        entry.value.config.windowSize = 20 ∧ entry.value.config.permittedProbes = 3 ∧
        entry.value.config.openWait.description =
          "exponential(60s, x2, max 18446744073709551615.999999999s)" := by
  obtain ⟨hlimiters, _, hbreakers, _⟩ := ofSettings_resolves scattered_loaded
  constructor
  · obtain ⟨below, entry, hlineage, hentry, hmerged⟩ := hlimiters "api" _ rfl
    refine ⟨entry, hentry, ?_⟩
    cases hlineage.unique (.shared (by decide) rfl .standard)
    exact (Except.ok.inj hmerged).symm
  · obtain ⟨below, entry, hlineage, hentry, hresolves⟩ := hbreakers "payments" hurried rfl
    cases hlineage.unique scattered_lineage
    have hconfig : entry.value.config = _ := hresolves.eq
    refine ⟨entry, hentry, ?_⟩
    rw [hconfig]
    decide +kernel

/-- The first wait is a minute and not the five seconds of the block below: the block that names a
multiplier has overridden what it does not name. -/
theorem multiplier_forgets_wait :
    let p : Progress (Registries Error Unit) := Registries.ofSettings scattered
    p.failure = none ∧ scattered.breakers.instances.find? "payments" = some hurried ∧
      Lineage (Kind.breaker Error Unit) scattered.breakers.configs
        ((Kind.breaker Error Unit).foundation hurried) [patient] ∧
      ∃ entry, p.state.breakers.find? "payments" = some entry ∧
        layAll (.breaker Error Unit) [(BreakerBlock.layout Error Unit).merged [hurried, patient]] ≠
          .ok entry.value.config := by
  intro p
  have hloaded : (p.state.breakers.find? "payments").map (·.value.config.openWait.description) =
      some "exponential(60s, x2, max 18446744073709551615.999999999s)" := by decide +kernel
  have hmerged : (layAll (.breaker Error Unit)
      [(BreakerBlock.layout Error Unit).merged [hurried, patient]]).toOption.map
        (·.openWait.description) =
      some "exponential(5s, x2, max 18446744073709551615.999999999s)" := by decide +kernel
  obtain ⟨entry, hentry, hminute⟩ := Option.map_eq_some_iff.mp hloaded
  refine ⟨scattered_loaded, rfl, scattered_lineage, entry, hentry, fun hsame => ?_⟩
  rw [hsame] at hmerged
  have hseconds : entry.value.config.openWait.description = _ := Option.some.inj hmerged
  rw [hminute] at hseconds
  revert hseconds
  decide

end Loaded

end FaultTolerance.Settings
