import FaultTolerance.Main
import FaultTolerance.Proofs.Adaptive.Direction
import FaultTolerance.Proofs.Breaker.HalfOpenWait
import FaultTolerance.Proofs.Breaker.MetricsOnly
import FaultTolerance.Proofs.Breaker.ProbeLimit
import FaultTolerance.Proofs.Breaker.ProbeSupply
import FaultTolerance.Proofs.Breaker.Renewal
import FaultTolerance.Proofs.Breaker.Verdict
import FaultTolerance.Proofs.Bulkhead.Limits
import FaultTolerance.Proofs.Bulkhead.Waiters
import FaultTolerance.Proofs.Limiter.Departures
import FaultTolerance.Proofs.Limiter.LastTick
import FaultTolerance.Proofs.Publisher.Delivery
import FaultTolerance.Proofs.Registry.Replay
import FaultTolerance.Proofs.Retry.Calls
import FaultTolerance.Proofs.Ring.Cursors
import FaultTolerance.Proofs.Settings.Completeness
import FaultTolerance.Proofs.Stack.Agreement
import FaultTolerance.Proofs.Stack.Interruption
import FaultTolerance.Proofs.Stack.Transparency
import FaultTolerance.Telemetry.Fleet
