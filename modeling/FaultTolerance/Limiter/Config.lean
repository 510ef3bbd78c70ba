import FaultTolerance.Validation
import FaultTolerance.Publisher

/-!
What a rate limiter is told, and what it reports.
-/

namespace FaultTolerance.Limiter

structure Config where
  /-- Permissions per refresh period. -/
  limitForPeriod : Nat := 50
  refreshPeriod : Duration := ⟨500⟩
  /-- The longest that a caller waits for a permission. -/
  timeout : Duration := .ofSeconds 5
  deriving DecidableEq, Repr, Inhabited

namespace Config

/-- So many permissions per second. -/
def perSecond (limit : Nat) : Config :=
  { limitForPeriod := limit, refreshPeriod := .ofSeconds 1 }

def validate (c : Config) : Except Error Unit := do
  require (c.limitForPeriod != 0) "limit_for_period must be greater than 0"
  require (c.refreshPeriod.nanos != 0) "limit_refresh_period must be at least 1ns"

/-- The length of a cycle in clock ticks. -/
def period (c : Config) : Nat := max c.refreshPeriod.ticks 1

theorem period_pos (c : Config) : 0 < c.period :=
  Nat.lt_of_lt_of_le Nat.one_pos (Nat.le_max_right ..)

def describe (c : Config) : String :=
  Text.record "RateLimiterConfig"
    [("limit_for_period", toString c.limitForPeriod),
      ("limit_refresh_period", Text.duration c.refreshPeriod),
      ("timeout_duration", Text.duration c.timeout)]

end Config

inductive Event where
  | successfulAcquire (permits : Nat)
  | failedAcquire (permits : Nat)
  | drained (permits : Int)
  deriving DecidableEq, Repr

namespace Event

def kind : Event → String
  | successfulAcquire .. => "SUCCESSFUL_ACQUIRE"
  | failedAcquire .. => "FAILED_ACQUIRE"
  | drained .. => "DRAINED"

def describe : Event → String
  | successfulAcquire permits => Text.record "SuccessfulAcquire" [("permits", toString permits)]
  | failedAcquire permits => Text.record "FailedAcquire" [("permits", toString permits)]
  | drained permits => Text.record "Drained" [("permits", toString permits)]

end Event

instance : Reported Event := ⟨Event.kind, Event.describe⟩

end FaultTolerance.Limiter
