import FaultTolerance.Settings.Loading
import FaultTolerance.Stack.Action
import FaultTolerance.Telemetry.Record

/-!
All instances of a program, and who follows them.

Attaching follows every instance that there is, and every instance that is added or put in the
place of another one later. Attaching twice follows everything twice. A report of an instance
becomes one record for each follower.
-/

namespace FaultTolerance.Telemetry

open Stack (Action Layer Reply Report)

/-! ### Followers -/

/-- How often the instances of a registry are followed. -/
structure Following where
  /-- How often a new instance is followed. -/
  newcomers : Nat := 0
  /-- Followers by serial number. -/
  followers : List (Nat × Nat) := []
  deriving DecidableEq, Repr, Inhabited

namespace Following

variable {κ τ : Type}

def count (f : Following) (serial : Nat) : Nat := (f.followers.lookup serial).getD 0

/-- More followers for an instance. -/
def follow (f : Following) (more serial : Nat) : Following :=
  { f with followers := (serial, f.count serial + more) ::
      f.followers.filter (·.1 ≠ serial) }

/-- Follows every instance once more, those to come as well. -/
def attach (f : Following) (r : Registry κ τ) : Following :=
  let f := r.all.foldl (fun f e => f.follow 1 e.serial) f
  { f with newcomers := f.newcomers + 1 }

/-- An event of the registry. -/
def hear (f : Following) : Registry.Event τ → Following
  | .added _ e | .replaced _ _ e => f.follow f.newcomers e.serial
  | .removed .. => f

def hearAll (f : Following) (events : List (Registry.Event τ)) : Following :=
  events.foldl hear f

end Following

/-! ### Fleets -/

/-- A registry and its followers. -/
structure Squad (κ τ : Type) where
  registry : Registry κ τ
  following : Following := {}

namespace Squad

variable {κ τ : Type}

def attach (s : Squad κ τ) : Squad κ τ :=
  { s with following := s.following.attach s.registry }

/-- Does something to the instance of the given name, which is made if there is none, and passes
its reports on to its followers. -/
def act {α : Type} (s : Squad κ τ) (name : String)
    (action : τ → τ × List Report × α) : Except Error (Squad κ τ × List Record × α) := do
  let (registry, events, entry) ← s.registry.getOrCreate name
  let following := s.following.hearAll events
  let (value, reports, answer) := action entry.value
  let records := reports.flatMap fun r =>
    List.replicate (following.count entry.serial) (Record.ofReport "" entry.name r)
  return ({ registry := registry.update name value, following }, records, answer)

/-- Puts a new instance in the place of another one; answers whether there was one. -/
def replace (s : Squad κ τ) (name : String) (config : κ) : Except Error (Squad κ τ × Bool) := do
  let (registry, entry) ← s.registry.build name config
  let (registry, events, old) := registry.replace name entry
  return ({ registry, following := s.following.hearAll events }, old.isSome)

/-- Takes an instance out; answers whether there was one. -/
def remove (s : Squad κ τ) (name : String) : Squad κ τ × Bool :=
  let (registry, events, old) := s.registry.remove name
  ({ registry, following := s.following.hearAll events }, old.isSome)

end Squad

/-- The instances of all primitives. -/
structure Fleet (ε ν : Type) where
  breakers : Squad (Breaker.Config ε ν) (Breaker ε ν)
  limiters : Squad Limiter.Config Limiter
  bulkheads : Squad Bulkhead.Config Bulkhead
  retries : Squad (Retry.Config ε ν) (Retry ε ν)

namespace Fleet

variable {ε ν : Type}

def ofRegistries (r : Registries ε ν) : Fleet ε ν where
  breakers := ⟨r.breakers, {}⟩
  limiters := ⟨r.limiters, {}⟩
  bulkheads := ⟨r.bulkheads, {}⟩
  retries := ⟨r.retries, {}⟩

/-- Follows all instances once more, those to come as well. -/
def attach (f : Fleet ε ν) : Fleet ε ν where
  breakers := f.breakers.attach
  limiters := f.limiters.attach
  bulkheads := f.bulkheads.attach
  retries := f.retries.attach

variable [Fault ε]

/-- An action on the breaker of the given name, which answers the state after it too. -/
def actBreaker (f : Fleet ε ν) (now : Nat) (name : String) (action : Action ε ν) :
    Except Error (Fleet ε ν × List Record × Reply × Breaker.State) := do
  let (breakers, records, answer) ← f.breakers.act name fun b =>
    let (b, events, reply) := Layer.actBreaker now b action
    (b, events.map .breaker, reply, b.metrics.state)
  return ({ f with breakers }, records, answer)

def actLimiter (f : Fleet ε ν) (now : Nat) (name : String) (action : Action ε ν) :
    Except Error (Fleet ε ν × List Record × Reply) := do
  let (limiters, records, reply) ← f.limiters.act name fun l =>
    let (l, events, reply) := Layer.actLimiter now l action
    (l, events.map .limiter, reply)
  return ({ f with limiters }, records, reply)

def actBulkhead (f : Fleet ε ν) (name : String) (action : Action ε ν) :
    Except Error (Fleet ε ν × List Record × Reply) := do
  let (bulkheads, records, reply) ← f.bulkheads.act name fun b =>
    let (b, events, reply) := Layer.actBulkhead b action
    (b, events.map .bulkhead, reply)
  return ({ f with bulkheads }, records, reply)

/-- Reports outcomes of one call to a retry, one attempt after the other. -/
def actRetry (f : Fleet ε ν) (name : String) (outcomes : List (Except ε ν)) :
    Except Error (Fleet ε ν × List Record × Nat) := do
  let (retries, records, attempts) ← f.retries.act name fun r =>
    outcomes.foldl
      (fun (r, reports, attempts) outcome =>
        let (r, events, _) := r.onOutcome (attempts + 1) outcome
        (r, reports ++ events.map .retry, attempts + 1))
      (r, ([] : List Report), 0)
  return ({ f with retries }, records, attempts)

end Fleet

end FaultTolerance.Telemetry
