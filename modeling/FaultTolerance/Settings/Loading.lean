import FaultTolerance.Registry.Basic
import FaultTolerance.Settings.Basic

/-!
Filling the registries from settings.

A section is loaded in two passes. First its shared configurations are registered, each after the
one that it builds on (`sharedOrder`); then the instances are made. A block without a base builds
on the default configuration, which is the block of that name laid over the built-in one. Loading
stops at the first failure; what was registered before it stays.
-/

namespace FaultTolerance.Settings

open Registry (defaultName)

/-! ### The order of shared configurations -/

variable {π κ τ σ : Type}

/-- Follows the bases of a block down to what is placed already, is the default or is not there.
The answer lists the blocks on the way, each the base of the one before; it is an error if a block
comes up twice. -/
def chainAfter (base : π → Option String) (configs : Catalog π) (placed chain : List String)
    (name : String) : Except Error (List String) :=
  if name = defaultName ∨ name ∈ placed then .ok chain
  else
    match _found : configs.find? name with
    | none => .ok chain
    | some block =>
      if _fresh : name ∈ chain then .error (.configurationCycle (chain ++ [name]))
      else
        match base block with
        | none => .ok (chain ++ [name])
        | some next => chainAfter base configs placed (chain ++ [name]) next
termination_by configs.unseen chain
decreasing_by exact Catalog.unseen_lt _fresh _found

/-- Appends the names that are not placed yet. -/
def place (placed names : List String) : List String :=
  names.foldl (fun placed name => if name ∈ placed then placed else placed ++ [name]) placed

/-- Places blocks one after the other, each after its base. -/
def placeAll (heading : String) (base : π → Option String) (configs : Catalog π) :
    (starts placed : List String) → Except Failure (List String)
  | [], placed => .ok placed
  | start :: starts, placed =>
    match chainAfter base configs placed [] start with
    | .error e => .error (.resilience heading start e)
    | .ok chain => placeAll heading base configs starts (place placed chain.reverse)

/-- The names of the shared configurations but the default one, every base before what builds on
it. -/
def sharedOrder (k : Kind π κ τ) (configs : Catalog π) : Except Failure (List String) :=
  placeAll k.heading k.base configs configs.names []

/-! ### Progress -/

/-- How far loading has come. -/
structure Progress (σ : Type) where
  state : σ
  log : List LogLine := []
  failure : Option Failure := none

namespace Progress

/-- Goes on unless something has failed. -/
def andThen (p : Progress σ) (next : σ → Progress σ) : Progress σ :=
  match p.failure with
  | some _ => p
  | none =>
    let q := next p.state
    { q with log := p.log ++ q.log }

/-- Does something for each element of a list. -/
def each {α : Type} (next : α → σ → Progress σ) : List α → σ → Progress σ
  | [], state => { state }
  | a :: as, state => (next a state).andThen (each next as)

/-- Sees the state as a part of a larger one. -/
def within {ρ : Type} (put : σ → ρ) (p : Progress σ) : Progress ρ :=
  { state := put p.state, log := p.log, failure := p.failure }

/-- What a successful loading has built. -/
def toExcept (p : Progress σ) : Except Failure σ :=
  match p.failure with
  | some f => .error f
  | none => .ok p.state

end Progress

/-! ### Sections -/

/-- The part of the program that reports on loading. -/
def logTarget : String := "bulwark::settings"

/-- The configuration that blocks without a base build on. -/
def defaultConfig (k : Kind π κ τ) (s : Section π) : Except Failure κ :=
  match s.configs.find? defaultName with
  | none => .ok k.standard
  | some block =>
    let made : Except Error κ :=
      match k.base block with
      | some base =>
        .error (.invalidConfig ("the default config cannot derive from '" ++ base ++ "'"))
      | none => do
        let change ← k.overlay block
        let config := change k.standard
        k.validate config
        return config
    made.mapError (.resilience k.heading defaultName)

/-- Registers one shared configuration. It stays registered if it turns out not to be valid. -/
def registerShared (k : Kind π κ τ) (configs : Catalog π) (name : String) (r : Registry κ τ) :
    Progress (Registry κ τ) :=
  let failed (r : Registry κ τ) (e : Error) : Progress (Registry κ τ) :=
    { state := r, failure := some (.resilience k.heading name e) }
  match configs.find? name with
  | none => { state := r }
  | some block =>
    match k.overlay block with
    | .error e => failed r e
    | .ok change =>
      match r.insertTemplate name (.derived ((k.base block).getD defaultName) change) with
      | (r, .error e) => failed r e
      | (r, .ok ()) =>
        match (r.configuration name).bind k.validate with
        | .error e => failed r e
        | .ok _ => { state := r, log := [⟨.debug, logTarget, "shared config registered"⟩] }

/-- The configuration of an instance: its block over what it builds on. -/
def instanceConfig (k : Kind π κ τ) (r : Registry κ τ) (block : π) : Except Error κ := do
  let below ← match k.base block with
    | some base => r.configuration base
    | none => pure r.standard
  let change ← k.overlay block
  return change below

/-- What the log says about events of a registry that nobody follows. -/
def entryLog (created : LogLine) (events : List (Registry.Event τ)) : List LogLine :=
  events.flatMap fun _ =>
    [created, ⟨.debug, "bulwark_core_resilience::registry", "registry entry added"⟩,
      ⟨.debug, "bulwark_core_resilience::event", "no consumers for event"⟩]

/-- Makes one instance unless there is one of its name. -/
def createInstance (k : Kind π κ τ) (entry : String × π) (r : Registry κ τ) :
    Progress (Registry κ τ) :=
  match (instanceConfig k r entry.2).bind fun c => r.getOrCreate entry.1 (.given c) with
  | .error e => { state := r, failure := some (.resilience k.heading entry.1 e) }
  | .ok (r, events, _) =>
    { state := r
      log := entryLog k.created events ++ [⟨.debug, logTarget, "instance created"⟩] }

def applySection (k : Kind π κ τ) (s : Section π) (r : Registry κ τ) : Progress (Registry κ τ) :=
  match sharedOrder k s.configs with
  | .error f => { state := r, failure := some f }
  | .ok order =>
    (Progress.each (registerShared k s.configs) order r).andThen
      (Progress.each (createInstance k) s.instances)

end Settings

/-- One registry for each primitive. -/
structure Registries (ε ν : Type) where
  breakers : Registry (Breaker.Config ε ν) (Breaker ε ν)
  limiters : Registry Limiter.Config Limiter
  bulkheads : Registry Bulkhead.Config Bulkhead
  retries : Registry (Retry.Config ε ν) (Retry ε ν)

namespace Registries

open Settings

variable {ε ν : Type}

/-- Registries over the built-in configurations. Their instances begin at the given reading. -/
def new (now : Nat := 0) : Registries ε ν where
  breakers := .new (Kind.breaker ε ν).standard ((Kind.breaker ε ν).make now)
  limiters := .new Kind.limiter.standard (Kind.limiter.make now)
  bulkheads := .new Kind.bulkhead.standard (Kind.bulkhead.make now)
  retries := .new (Kind.retry ε ν).standard ((Kind.retry ε ν).make now)

/-- Registers the shared configurations of settings and makes their instances. The blocks of the
default configurations are left out, for a registry's own default never changes. -/
def apply (r : Registries ε ν) (s : Settings) : Progress (Registries ε ν) :=
  ((((({ state := r } : Progress (Registries ε ν)).andThen fun r =>
      (applySection (.breaker ε ν) s.breakers r.breakers).within
        fun breakers => { r with breakers }).andThen fun r =>
      (applySection .limiter s.limiters r.limiters).within
        fun limiters => { r with limiters }).andThen fun r =>
      (applySection .bulkhead s.bulkheads r.bulkheads).within
        fun bulkheads => { r with bulkheads }).andThen fun r =>
      (applySection (.retry ε ν) s.retries r.retries).within
        fun retries => { r with retries }).andThen fun r =>
      { state := r, log := [⟨.info, logTarget, "settings applied"⟩] }

/-- Registries over the default configurations of settings. -/
def withDefaults (s : Settings) (now : Nat := 0) : Except Failure (Registries ε ν) := do
  let breakers ← defaultConfig (.breaker ε ν) s.breakers
  let limiters ← defaultConfig .limiter s.limiters
  let bulkheads ← defaultConfig .bulkhead s.bulkheads
  let retries ← defaultConfig (.retry ε ν) s.retries
  return {
    breakers := .new breakers ((Kind.breaker ε ν).make now)
    limiters := .new limiters (Kind.limiter.make now)
    bulkheads := .new bulkheads (Kind.bulkhead.make now)
    retries := .new retries ((Kind.retry ε ν).make now) }

/-- Registries as settings describe them when they are loaded at the given reading. -/
def ofSettings (s : Settings) (now : Nat := 0) : Progress (Registries ε ν) :=
  match withDefaults s now with
  | .error f => { state := new now, failure := some f }
  | .ok r => r.apply s

def describe (r : Registries ε ν) : String :=
  let shown (names : List String) : String := Text.list (names.map Text.quoted)
  Text.record "Registries"
    [("circuit_breakers", shown r.breakers.names), ("rate_limiters", shown r.limiters.names),
      ("bulkheads", shown r.bulkheads.names), ("retries", shown r.retries.names)]

end Registries

end FaultTolerance
