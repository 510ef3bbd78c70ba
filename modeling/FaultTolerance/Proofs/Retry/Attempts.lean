import Mathlib.Data.List.Chain
import Mathlib.Data.List.Infix
import FaultTolerance.Stack.World

/-! What a single call of a retry comes to.

The endings of the runs of its operation, in order, decide everything: how many runs there are
(`Config.attempts`), what is published and waited for in between and at the end (`Config.story`),
and where the call is counted (`Config.counter?`). None of it asks what other calls do, but that
each wait is measured out by a draw of its own, if it is random. A retry that is told an outcome
decides accordingly (`onOutcome_again`, `onOutcome_stop`). -/
namespace FaultTolerance.Retry
open Stack (Ending)
variable {ε ν : Type}

/-! ### Counters -/

/-- The four ways to end that are counted. -/
inductive Counter where
  | succeededWithoutRetry
  | succeededWithRetry
  | failedWithoutRetry
  | failedWithRetry
  deriving DecidableEq, Repr

namespace Metrics

def get (m : Metrics) : Counter → Nat
  | .succeededWithoutRetry => m.succeededWithoutRetry
  | .succeededWithRetry => m.succeededWithRetry
  | .failedWithoutRetry => m.failedWithoutRetry
  | .failedWithRetry => m.failedWithRetry

/-- Counts one more call. -/
def count (m : Metrics) : Counter → Metrics
  | .succeededWithoutRetry => { m with succeededWithoutRetry := m.succeededWithoutRetry + 1 }
  | .succeededWithRetry => { m with succeededWithRetry := m.succeededWithRetry + 1 }
  | .failedWithoutRetry => { m with failedWithoutRetry := m.failedWithoutRetry + 1 }
  | .failedWithRetry => { m with failedWithRetry := m.failedWithRetry + 1 }

theorem get_count (m : Metrics) (counted read : Counter) :
    (m.count counted).get read = m.get read + (decide (counted = read)).toNat := by
  cases counted <;> cases read <;> rfl

end Metrics

/-- The retry after a call that is counted, if it is. -/
def counted (r : Retry ε ν) (counter? : Option Counter) : Retry ε ν :=
  { r with metrics := counter?.elim r.metrics r.metrics.count }

/-- The retry after it has used so many draws. -/
def spent (r : Retry ε ν) (count : Nat) : Retry ε ν := { r with draws := r.draws.drop count }

@[simp] theorem spent_config (r : Retry ε ν) (count : Nat) : (r.spent count).config = r.config :=
  rfl

@[simp] theorem spent_metrics (r : Retry ε ν) (count : Nat) :
    (r.spent count).metrics = r.metrics := rfl

theorem spent_spent (r : Retry ε ν) (first rest : Nat) :
    (r.spent first).spent rest = r.spent (first + rest) := by
  unfold spent
  rw [Draws.drop_drop]

@[simp] theorem spent_zero (r : Retry ε ν) : r.spent 0 = r := by
  unfold spent
  rw [Draws.drop_zero]

@[simp] theorem counted_none (r : Retry ε ν) : r.counted none = r := rfl

@[simp] theorem counted_config (r : Retry ε ν) (counter? : Option Counter) :
    (r.counted counter?).config = r.config := rfl

theorem get_counted (r : Retry ε ν) (counter? : Option Counter) (read : Counter) :
    (r.counted counter?).metrics.get read =
      r.metrics.get read + (decide (counter? = some read)).toNat := by
  cases counter? with
  | none => rfl
  | some counter =>
    simp only [counted, Option.elim_some, Metrics.get_count, Option.some.injEq]

/-! ### Outcomes -/

namespace Config
variable (c : Config ε ν)

/-- Whether a call ends with the outcome, however many attempts are left. -/
def isFinal : Except ε ν → Bool
  | .ok v => !c.isRetriedResult v
  | .error e => c.isIgnored e || !c.isRetriedError e

/-- Whether a call ends when its operation ends like this. A panic ends it. -/
def isEndedBy (e : Ending ε ν) : Bool := e.outcome?.all c.isFinal

/-- Where a call is counted that ends with the outcome after so many attempts. -/
def counter? (attempts : Nat) : Except ε ν → Option Counter
  | .ok v =>
    if c.isRetriedResult v then some .failedWithRetry
    else if attempts ≤ 1 then some .succeededWithoutRetry
    else some .succeededWithRetry
  | .error e =>
    if c.isIgnored e then none
    else if c.isRetriedError e then some .failedWithRetry
    else some .failedWithoutRetry

/-- Only a call that ends with an ignored error is counted nowhere. -/
theorem counter?_eq_none_iff (attempts : Nat) (outcome : Except ε ν) :
    c.counter? attempts outcome = none ↔ ∃ e, outcome = .error e ∧ c.isIgnored e = true := by
  cases outcome with
  | ok v =>
    simp only [counter?]
    split <;> simp
    split <;> simp
  | error e =>
    simp only [counter?]
    split <;> simp [*]
    split <;> simp

end Config

/-- What a retry says of an outcome that it does not accept. -/
def textOf [Fault ε] : Except ε ν → String
  | .ok _ => "result matched retry_on_result"
  | .error e => Fault.text e

/-- What is published when a call ends with the outcome after so many attempts. -/
def Config.closing [Fault ε] (c : Config ε ν) (attempts : Nat) : Except ε ν → List Event
  | .ok v =>
    if c.isRetriedResult v then [.error attempts (textOf (.ok v : Except ε ν))]
    else if attempts ≤ 1 then []
    else [.success attempts]
  | .error e =>
    if c.isIgnored e then [.ignoredError (Fault.text e)] else [.error attempts (Fault.text e)]

section Decisions
variable [Fault ε] {r : Retry ε ν} {attempts : Nat} {outcome : Except ε ν}

/-- What is not final is tried again while there is an attempt left. -/
theorem onOutcome_again (hopen : r.config.isFinal outcome = false)
    (hleft : attempts < r.config.maxAttempts) :
    r.onOutcome attempts outcome =
      (r.spent 1,
        [.retry attempts (r.config.interval.wait attempts r.draws.next) (textOf outcome)],
        .retry (r.config.interval.wait attempts r.draws.next)) := by
  have hgiveUp (text : String) : r.retryOrGiveUp attempts text =
      (r.spent 1, [.retry attempts (r.config.interval.wait attempts r.draws.next) text],
        .retry (r.config.interval.wait attempts r.draws.next)) := by
    simp only [retryOrGiveUp, if_pos hleft]
    rfl
  cases outcome with
  | ok v =>
    have hretried : r.config.isRetriedResult v = true := by simpa [Config.isFinal] using hopen
    simp only [onOutcome, onResult, if_pos hretried, hgiveUp, textOf]
  | error e =>
    obtain ⟨hignored, hretried⟩ :
        r.config.isIgnored e = false ∧ r.config.isRetriedError e = true := by
      simpa [Config.isFinal] using hopen
    simp only [onOutcome, onError, hignored, Bool.false_eq_true, if_false, if_pos hretried,
      hgiveUp, textOf]

/-- Anything else is counted and published, and the call ends. -/
theorem onOutcome_stop
    (hstop : r.config.isFinal outcome = true ∨ r.config.maxAttempts ≤ attempts) :
    r.onOutcome attempts outcome =
      (r.counted (r.config.counter? attempts outcome), r.config.closing attempts outcome,
        .stop) := by
  have hgiveUp (text : String) (hnone : ¬ attempts < r.config.maxAttempts) :
      r.retryOrGiveUp attempts text =
        (r.counted (some .failedWithRetry), [.error attempts text], .stop) := by
    simp only [retryOrGiveUp, if_neg hnone]
    rfl
  cases outcome with
  | ok v =>
    simp only [onOutcome, onResult, Config.counter?, Config.closing]
    split
    case isTrue hretried =>
      have hnone : ¬ attempts < r.config.maxAttempts := by
        simpa [Config.isFinal, hretried] using hstop
      exact hgiveUp _ hnone
    case isFalse => split <;> rfl
  | error e =>
    simp only [onOutcome, onError, Config.counter?, Config.closing]
    split
    case isTrue => rfl
    case isFalse hignored =>
      split
      case isTrue hretried =>
        have hnone : ¬ attempts < r.config.maxAttempts := by
          simpa [Config.isFinal, hignored, hretried] using hstop
        exact hgiveUp _ hnone
      case isFalse => rfl

end Decisions

/-! ### Attempts -/

namespace Config
variable (c : Config ε ν) {endings : Nat → Ending ε ν} {n : Nat}

/-- How many attempts a call makes: up to the first run that ends it, and no more than allowed. -/
def attempts (endings : Nat → Ending ε ν) : Nat :=
  (List.range (c.maxAttempts - 1)).findIdx (fun j => c.isEndedBy (endings j)) + 1

variable {c}

theorem lt_attempts (hopen : ∀ j < n, c.isEndedBy (endings j) = false)
    (hleft : n < c.maxAttempts) : n < c.attempts endings := by
  refine Nat.lt_succ_of_le ?_
  rcases Nat.lt_or_ge n (c.maxAttempts - 1) with hlt | hge
  · have hlen : n < (List.range (c.maxAttempts - 1)).length := by rwa [List.length_range]
    exact List.le_findIdx_of_not hlen fun j hj => by
      rw [List.getElem_range]
      exact hopen j hj
  · have hlast : c.maxAttempts - 1 = n := by omega
    rw [hlast, List.findIdx_eq_length_of_false fun j hj => hopen j (List.mem_range.mp hj),
      List.length_range]

/-- A call ends with its first attempt that ends it, or with the last one that is allowed. -/
theorem attempts_eq (hopen : ∀ j < n, c.isEndedBy (endings j) = false)
    (hleft : n < c.maxAttempts)
    (hstop : c.isEndedBy (endings n) = true ∨ c.maxAttempts ≤ n + 1) :
    c.attempts endings = n + 1 := by
  refine Nat.le_antisymm (Nat.succ_le_succ ?_) (lt_attempts hopen hleft)
  rcases Nat.lt_or_ge n (c.maxAttempts - 1) with hlt | hge
  · have hends : c.isEndedBy (endings n) = true := hstop.resolve_right (by omega)
    refine Nat.le_of_not_lt fun hmore => ?_
    have hnot := List.not_of_lt_findIdx hmore
    rw [List.getElem_range, hends] at hnot
    cases hnot
  · refine Nat.le_trans List.findIdx_le_length ?_
    rwa [List.length_range]

end Config

/-! ### What is seen of a call -/

/-- How a call waits between two attempts. -/
inductive Manner where
  /-- It sleeps on its thread. -/
  | blocking
  /-- It gives way until its timer goes off. -/
  | suspending
  deriving DecidableEq, Repr

inductive Sight where
  /-- A run of the operation begins. -/
  | ran
  | told (event : Event)
  /-- The thread of the call sleeps. -/
  | slept (d : Duration)
  deriving DecidableEq, Repr

/-- The attempt that is to be repeated and the wait for it, if that is what is reported. -/
def Sight.retry? : Sight → Option (Nat × Duration)
  | told (.retry attempt wait _) => some (attempt, wait)
  | _ => none

/-- What is seen of a wait. Nothing is seen of a suspended call until it goes on. -/
def Manner.sleeps : Manner → Duration → List Sight
  | blocking, d => [.slept d]
  | suspending, _ => []

namespace Config
variable [Fault ε] (c : Config ε ν) (m : Manner) (drawn : Draws) (endings : Nat → Ending ε ν)

/-- What follows an attempt that is not the last one. -/
def meanwhile (attempts : Nat) (outcome : Except ε ν) : List Sight :=
  .told (.retry attempts (c.interval.wait attempts (drawn attempts)) (textOf outcome)) ::
    m.sleeps (c.interval.wait attempts (drawn attempts))

/-- What follows the last attempt. -/
def farewell (attempts : Nat) (e : Ending ε ν) : List Sight :=
  (e.outcome?.elim [] (c.closing attempts)).map .told

/-- What is seen of so many attempts that are not the last one. -/
def rounds (n : Nat) : List Sight :=
  (List.range n).flatMap fun j =>
    .ran :: (endings j).outcome?.elim [] (c.meanwhile m drawn (j + 1))

/-- Everything that is seen of a call. The wait after an attempt uses the draw of its number. -/
def story : List Sight :=
  c.rounds m drawn endings (c.attempts endings - 1) ++
    .ran :: c.farewell (c.attempts endings) (endings (c.attempts endings - 1))

variable {c m drawn endings} {n : Nat}

theorem rounds_succ (n : Nat) : c.rounds m drawn endings (n + 1) =
    c.rounds m drawn endings n ++
      .ran :: (endings n).outcome?.elim [] (c.meanwhile m drawn (n + 1)) := by
  simp only [rounds, List.range_succ, List.flatMap_append, List.flatMap_singleton]

theorem ran_prefix_rounds {k : Nat} (hlt : n < k) :
    c.rounds m drawn endings n ++ [.ran] <+: c.rounds m drawn endings k := by
  induction k, hlt using Nat.le_induction with
  | base =>
    rw [rounds_succ, List.prefix_append_right_inj]
    exact ⟨_, rfl⟩
  | succ k _ ih =>
    rw [rounds_succ]
    exact ih.trans (List.prefix_append ..)

/-- Each attempt of a call is seen after the rounds before it. -/
theorem ran_prefix_story (h : n < c.attempts endings) :
    c.rounds m drawn endings n ++ [.ran] <+: c.story m drawn endings := by
  unfold story
  rcases Nat.lt_or_ge n (c.attempts endings - 1) with hlt | hge
  · exact (ran_prefix_rounds hlt).trans (List.prefix_append ..)
  · have hlast : c.attempts endings - 1 = n := by omega
    rw [hlast, List.prefix_append_right_inj]
    exact ⟨_, rfl⟩

end Config

/-! ### The way of a call -/

/-- Where a call stands between two sights. -/
inductive Stage (ε ν : Type) where
  /-- It makes its next attempt from the given time on. -/
  | ready (attempts due : Nat)
  /-- It runs its operation after so many attempts. -/
  | running (attempts : Nat)
  | ended (attempts : Nat) (e : Ending ε ν)

namespace Stage

/-- How often the operation was run. -/
def runs : Stage ε ν → Nat
  | ready n _ | ended n _ => n
  | running n => n + 1

/-- How many attempts were not the last one. -/
def earlier : Stage ε ν → Nat
  | ready n _ | running n => n
  | ended n _ => n - 1

/-- Where the call is counted, if it has ended. -/
def counter? (c : Config ε ν) : Stage ε ν → Option Counter
  | ended n e => e.outcome?.bind (c.counter? n)
  | ready .. | running _ => none

/-- What is seen of the attempt at hand. -/
def sights [Fault ε] (c : Config ε ν) : Stage ε ν → List Sight
  | ready .. => []
  | running _ => [.ran]
  | ended n e => .ran :: c.farewell n e

end Stage

/-- From when on a call goes on that is told to wait. A thread that sleeps needs no timer. -/
def Manner.due [Timer] (timer : Nat) (wait : Duration) : Manner → Nat
  | blocking => 0
  | suspending => Timer.wakeAt timer wait

/-- Sights at one time. -/
def stamped (timer : Nat) (sights : List Sight) : List (Nat × Sight) := sights.map (timer, ·)

/-- A suspended call that is told to wait goes on when its timer goes off, not earlier. -/
def Spaced [Timer] (x y : Nat × Sight) : Prop :=
  match x.2, y.2 with
  | .told (.retry _ wait _), .ran => Timer.wakeAt x.1 wait ≤ y.1
  | _, _ => True

variable [Timer] [Fault ε]

/-- The stages of a call, with all that is seen of it until then. The wait after an attempt uses the
draw of its number. -/
inductive Path (c : Config ε ν) (m : Manner) (drawn : Draws) (endings : Nat → Ending ε ν) :
    Stage ε ν → List (Nat × Sight) → Prop
  | here : Path c m drawn endings (.ready 0 0) []
  | begins {n due timer : Nat} {log : List (Nat × Sight)}
    (h : Path c m drawn endings (.ready n due) log) (hdue : due ≤ timer) :
    Path c m drawn endings (.running n) (log ++ stamped timer [.ran])
  | again {n timer : Nat} {log : List (Nat × Sight)} {outcome : Except ε ν}
    (h : Path c m drawn endings (.running n) log)
    (houtcome : (endings n).outcome? = some outcome)
    (hopen : c.isFinal outcome = false) (hleft : n + 1 < c.maxAttempts) :
    Path c m drawn endings
      (.ready (n + 1) (m.due timer (c.interval.wait (n + 1) (drawn (n + 1)))))
      (log ++ stamped timer (c.meanwhile m drawn (n + 1) outcome))
  | ends {n timer : Nat} {log : List (Nat × Sight)} (h : Path c m drawn endings (.running n) log)
    (hstop : c.isEndedBy (endings n) = true ∨ c.maxAttempts ≤ n + 1) :
    Path c m drawn endings (.ended (n + 1) (endings n))
      (log ++ stamped timer (c.farewell (n + 1) (endings n)))

section Paths
variable {c : Config ε ν} {m : Manner} {drawn : Draws} {endings : Nat → Ending ε ν}
  {stage : Stage ε ν} {log : List (Nat × Sight)} {n : Nat} {e : Ending ε ν}

omit [Timer] [Fault ε] in
@[simp] theorem stamped_nil (timer : Nat) : stamped timer [] = [] := rfl

omit [Timer] [Fault ε] in
theorem stamped_append (timer : Nat) (sights rest : List Sight) :
    stamped timer (sights ++ rest) = stamped timer sights ++ stamped timer rest :=
  List.map_append

omit [Timer] [Fault ε] in
theorem map_snd_append_stamped (log : List (Nat × Sight)) (timer : Nat) (sights : List Sight) :
    (log ++ stamped timer sights).map Prod.snd = log.map Prod.snd ++ sights := by
  simp only [stamped, List.map_append, List.map_map, Function.comp_def, List.map_id']

omit [Timer] in
theorem ran_not_mem_meanwhile (outcome : Except ε ν) :
    Sight.ran ∉ c.meanwhile m drawn n outcome := by
  cases m <;> simp [Config.meanwhile, Manner.sleeps]

omit [Timer] in
theorem ran_not_mem_farewell : Sight.ran ∉ c.farewell n e := by
  simp [Config.farewell]

omit [Timer] in
theorem retry?_meanwhile (outcome : Except ε ν) :
    (c.meanwhile m drawn n outcome).filterMap Sight.retry? =
      [(n, c.interval.wait n (drawn n))] := by
  cases m <;> rfl

omit [Timer] in
theorem retry?_farewell : (c.farewell n e).filterMap Sight.retry? = [] := by
  have hclosing (outcome : Except ε ν) :
      ((c.closing n outcome).map Sight.told).filterMap Sight.retry? = [] := by
    cases outcome with
    | ok v =>
      simp only [Config.closing]
      (repeat' split) <;> rfl
    | error e =>
      simp only [Config.closing]
      split <;> rfl
  unfold Config.farewell
  cases e.outcome? with
  | none => rfl
  | some outcome => exact hclosing outcome

/-- No attempt but the last one ends a call, and there are no more than allowed. -/
theorem Path.opens (h : Path c m drawn endings stage log) (hpos : 0 < c.maxAttempts) :
    stage.earlier < c.maxAttempts ∧ ∀ j < stage.earlier, c.isEndedBy (endings j) = false := by
  induction h with
  | here => exact ⟨hpos, nofun⟩
  | begins _ _ ih | ends _ _ ih => exact ih
  | @again n timer log outcome _ houtcome hopen hleft ih =>
    refine ⟨hleft, fun j hj => ?_⟩
    rcases Nat.lt_succ_iff_lt_or_eq.mp hj with hlt | rfl
    · exact ih.2 j hlt
    · simp only [Config.isEndedBy, houtcome, Option.all_some, hopen]

theorem Path.ended_eq (h : Path c m drawn endings (.ended n e) log) (hpos : 0 < c.maxAttempts) :
    n = c.attempts endings ∧ e = endings (n - 1) := by
  cases h with
  | ends h hstop =>
    obtain ⟨hleft, hopen⟩ := h.opens hpos
    exact ⟨(Config.attempts_eq hopen hleft hstop).symm, rfl⟩

theorem Path.sights (h : Path c m drawn endings stage log) :
    log.map Prod.snd = c.rounds m drawn endings stage.earlier ++ stage.sights c := by
  induction h with
  | here => rfl
  | begins _ _ ih =>
    rw [map_snd_append_stamped, ih]
    exact congrArg (· ++ _) (List.append_nil _)
  | again _ houtcome _ _ ih =>
    rw [map_snd_append_stamped, ih]
    simp only [Stage.earlier, Stage.sights, Config.rounds_succ, houtcome, Option.elim_some,
      List.append_assoc, List.append_nil, List.singleton_append]
  | ends _ _ ih =>
    rw [map_snd_append_stamped, ih, List.append_assoc]
    rfl

/-- The whole story is seen of a call that has ended. -/
theorem Path.story_eq (h : Path c m drawn endings (.ended n e) log) (hpos : 0 < c.maxAttempts) :
    log.map Prod.snd = c.story m drawn endings := by
  obtain ⟨hlast, hending⟩ := h.ended_eq hpos
  rw [h.sights, Config.story, ← hlast, ← hending]
  rfl

/-- Nothing is seen of a call but its story, as far as it has come. -/
theorem Path.prefix_story (h : Path c m drawn endings stage log) (hpos : 0 < c.maxAttempts) :
    log.map Prod.snd <+: c.story m drawn endings := by
  obtain ⟨hleft, hopen⟩ := h.opens hpos
  cases stage with
  | ready n due =>
    rw [h.sights, Stage.sights, List.append_nil]
    exact (List.prefix_append ..).trans
      (Config.ran_prefix_story (Config.lt_attempts hopen hleft))
  | running n =>
    rw [h.sights]
    exact Config.ran_prefix_story (Config.lt_attempts hopen hleft)
  | ended n e =>
    exact h.story_eq hpos ▸ List.prefix_refl _

theorem Path.count_ran (h : Path c m drawn endings stage log) :
    (log.map Prod.snd).count .ran = stage.runs := by
  induction h with
  | here => rfl
  | begins _ _ ih =>
    rw [map_snd_append_stamped, List.count_append, ih]
    rfl
  | again _ _ _ _ ih =>
    rw [map_snd_append_stamped, List.count_append, ih,
      List.count_eq_zero_of_not_mem (ran_not_mem_meanwhile _)]
    rfl
  | ends _ _ ih =>
    rw [map_snd_append_stamped, List.count_append, ih,
      List.count_eq_zero_of_not_mem ran_not_mem_farewell]
    rfl

/-- Each attempt but the last one is followed by a report that says so, with the wait. -/
theorem Path.retries (h : Path c m drawn endings stage log) :
    (log.map Prod.snd).filterMap Sight.retry? =
      (List.range stage.earlier).map fun j =>
        (j + 1, c.interval.wait (j + 1) (drawn (j + 1))) := by
  induction h with
  | here => rfl
  | begins _ _ ih =>
    rw [map_snd_append_stamped, List.filterMap_append, ih]
    exact List.append_nil _
  | again _ _ _ _ ih =>
    rw [map_snd_append_stamped, List.filterMap_append, ih, retry?_meanwhile]
    simp only [Stage.earlier, List.range_succ, List.map_append, List.map_cons, List.map_nil]
  | ends _ _ ih =>
    rw [map_snd_append_stamped, List.filterMap_append, ih, retry?_farewell]
    exact List.append_nil _

/-! #### Time -/

omit [Fault ε] in
theorem spaced_of_ne_ran (x : Nat × Sight) {y : Nat × Sight} (h : y.2 ≠ .ran) : Spaced x y := by
  unfold Spaced
  split
  case h_1 hran => exact absurd hran h
  case h_2 => trivial

omit [Fault ε] in
/-- Nothing but an attempt is waited for. -/
theorem isChain_append_stamped (h : log.IsChain Spaced) {sights : List Sight} (timer : Nat)
    (hquiet : .ran ∉ sights) : (log ++ stamped timer sights).IsChain Spaced := by
  have hne : ∀ y ∈ stamped timer sights, y.2 ≠ .ran := by
    intro y hy hran
    obtain ⟨sight, hsight, rfl⟩ := List.mem_map.mp hy
    exact hquiet (hran ▸ hsight)
  refine h.append (List.Pairwise.isChain ?_) fun x _ y hy => ?_
  · exact List.pairwise_of_forall_mem_list fun x _ y hy => spaced_of_ne_ran x (hne y hy)
  · exact spaced_of_ne_ran x (hne y (List.mem_of_mem_head? hy))

/-- Whether the next attempt of a call may follow what was seen last. -/
def Stage.Follows (last : Nat × Sight) : Stage ε ν → Prop
  | ready _ due => ∀ timer, due ≤ timer → Spaced last (timer, .ran)
  | running _ | ended .. => True

theorem Path.spaced (h : Path c m drawn endings stage log) :
    log.IsChain Spaced ∧ ∀ last ∈ log.getLast?, stage.Follows last := by
  induction h with
  | here => exact ⟨.nil, nofun⟩
  | begins _ hdue ih =>
    refine ⟨ih.1.append (.singleton _) fun x hx y hy => ?_, fun _ _ => trivial⟩
    cases hy
    exact ih.2 x hx _ hdue
  | @again n timer log outcome _ houtcome hopen hleft ih =>
    refine ⟨isChain_append_stamped ih.1 _ (ran_not_mem_meanwhile _), fun last hlast => ?_⟩
    cases m with
    | blocking =>
      have hslept : (timer, .slept (c.interval.wait (n + 1) (drawn (n + 1)))) = last := by
        simpa [Config.meanwhile, Manner.sleeps, stamped, List.getLast?_append] using hlast
      subst hslept
      exact fun _ _ => trivial
    | suspending =>
      have htold : (timer, .told (.retry (n + 1) (c.interval.wait (n + 1) (drawn (n + 1)))
          (textOf outcome))) = last := by
        simpa [Config.meanwhile, Manner.sleeps, stamped, List.getLast?_append] using hlast
      subst htold
      exact fun _ hdue => hdue
  | ends _ _ ih =>
    exact ⟨isChain_append_stamped ih.1 _ ran_not_mem_farewell, fun _ _ => trivial⟩

/-- A suspended call waits from its last report on, for as long as that says. -/
theorem Path.told_last {due : Nat} (h : Path c .suspending drawn endings (.ready (n + 1) due) log) :
    ∃ timer text,
      log.getLast? =
          some (timer, .told (.retry (n + 1) (c.interval.wait (n + 1) (drawn (n + 1))) text)) ∧
        due = Timer.wakeAt timer (c.interval.wait (n + 1) (drawn (n + 1))) := by
  cases h with
  | @again n timer log outcome _ _ _ _ =>
    refine ⟨timer, textOf outcome, ?_, rfl⟩
    simp [Config.meanwhile, Manner.sleeps, stamped, List.getLast?_append]

/-- What a call draws later on does not matter so far. -/
theorem Path.congr {other : Draws} (h : Path c m drawn endings stage log)
    (hsame : ∀ k ≤ stage.earlier, other k = drawn k) : Path c m other endings stage log := by
  induction h with
  | here => exact .here
  | begins _ hdue ih => exact (ih hsame).begins hdue
  | @again n timer log outcome _ houtcome hopen hleft ih =>
    have hnext : other (n + 1) = drawn (n + 1) := hsame (n + 1) (Nat.le_refl _)
    have hlater : Path c m other endings
        (.ready (n + 1) (m.due timer (c.interval.wait (n + 1) (other (n + 1))))) _ :=
      (ih fun k hk => hsame k (Nat.le_succ_of_le hk)).again houtcome hopen hleft
    unfold Config.meanwhile at hlater ⊢
    rwa [hnext] at hlater
  | ends _ hstop ih => exact (ih hsame).ends hstop

end Paths

/-! #### Draws -/

/-- What a retry has still to draw is the rest of its draws. -/
def DrawsFrom (draws : Draws) (r : Retry ε ν) : Prop := ∃ used, r.draws = draws.drop used

omit [Timer] [Fault ε] in
theorem DrawsFrom.spent {draws : Draws} {r : Retry ε ν} (h : r.DrawsFrom draws) (count : Nat) :
    (r.spent count).DrawsFrom draws := by
  obtain ⟨used, hused⟩ := h
  exact ⟨used + count, by rw [Retry.spent, hused, Draws.drop_drop]⟩

/-- A call is at a stage, with all that is seen of it until then. Its waits have used draws of the
retry. -/
def Way (c : Config ε ν) (m : Manner) (draws : Draws) (endings : Nat → Ending ε ν)
    (stage : Stage ε ν) (log : List (Nat × Sight)) : Prop :=
  ∃ pick : Nat → Nat, Path c m (fun n => draws (pick n)) endings stage log

namespace Way
variable {c : Config ε ν} {m : Manner} {draws : Draws} {endings : Nat → Ending ε ν}
  {stage : Stage ε ν} {log : List (Nat × Sight)} {n : Nat}

theorem here : Way c m draws endings (.ready 0 0) [] := ⟨id, .here⟩

theorem begins {due timer : Nat} (h : Way c m draws endings (.ready n due) log)
    (hdue : due ≤ timer) : Way c m draws endings (.running n) (log ++ stamped timer [.ran]) := by
  obtain ⟨pick, h⟩ := h
  exact ⟨pick, h.begins hdue⟩

/-- The next wait uses one of the draws. -/
theorem again {timer : Nat} {outcome : Except ε ν} (h : Way c m draws endings (.running n) log)
    (houtcome : (endings n).outcome? = some outcome) (hopen : c.isFinal outcome = false)
    (hleft : n + 1 < c.maxAttempts) (index : Nat) {wait : Duration}
    (hwait : c.interval.wait (n + 1) (draws index) = wait) :
    Way c m draws endings (.ready (n + 1) (m.due timer wait))
      (log ++ stamped timer (.told (.retry (n + 1) wait (textOf outcome)) :: m.sleeps wait)) := by
  obtain ⟨pick, h⟩ := h
  refine ⟨fun k => if k = n + 1 then index else pick k, ?_⟩
  have hsame : ∀ k ≤ n, draws (if k = n + 1 then index else pick k) = draws (pick k) := by
    intro k hk
    rw [if_neg (by omega)]
  have hlater : Path c m (fun k => draws (if k = n + 1 then index else pick k)) endings
      (.ready (n + 1) (m.due timer (c.interval.wait (n + 1) _))) _ :=
    (h.congr hsame).again houtcome hopen hleft
  simp only [Config.meanwhile, if_true, hwait] at hlater
  exact hlater

theorem ends {timer : Nat} (h : Way c m draws endings (.running n) log)
    (hstop : c.isEndedBy (endings n) = true ∨ c.maxAttempts ≤ n + 1) :
    Way c m draws endings (.ended (n + 1) (endings n))
      (log ++ stamped timer (c.farewell (n + 1) (endings n))) := by
  obtain ⟨pick, h⟩ := h
  exact ⟨pick, h.ends hstop⟩

theorem opens (h : Way c m draws endings stage log) (hpos : 0 < c.maxAttempts) :
    stage.earlier < c.maxAttempts ∧ ∀ j < stage.earlier, c.isEndedBy (endings j) = false := by
  obtain ⟨_, h⟩ := h
  exact h.opens hpos

theorem ended_eq {e : Ending ε ν} (h : Way c m draws endings (.ended n e) log)
    (hpos : 0 < c.maxAttempts) : n = c.attempts endings ∧ e = endings (n - 1) := by
  obtain ⟨_, h⟩ := h
  exact h.ended_eq hpos

end Way

end FaultTolerance.Retry
