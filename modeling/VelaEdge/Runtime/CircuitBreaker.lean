import VelaEdge.Runtime.LocalDb

/-! The circuit breaker of a protocol connection. It opens after a number of failures in a row, lets
a request pass once it has been open long enough, and closes again after enough successes. -/
namespace VelaEdge.Runtime

open Core LocalDb

structure ProtocolCircuitBreakerConfig where
  enabled : Bool
  failureThreshold : Nat
  openDurationMs : Nat
  halfOpenSuccessThreshold : Nat

inductive ProtocolCircuitState where
  | closed
  | opened
  | halfOpen
deriving DecidableEq

structure ProtocolCircuitBreaker where
  config : ProtocolCircuitBreakerConfig
  state : ProtocolCircuitState
  consecutiveFailures : Nat
  halfOpenSuccesses : Nat
  openedAt : Option Time

namespace ProtocolCircuitBreaker

variable (breaker : ProtocolCircuitBreaker) (now : Time)

/-- The source's `open`. -/
def trip : ProtocolCircuitBreaker :=
  { breaker with state := .opened, openedAt := some now, halfOpenSuccesses := 0 }

def close : ProtocolCircuitBreaker :=
  { breaker with
    state := .closed, consecutiveFailures := 0, halfOpenSuccesses := 0, openedAt := none }

def elapsed : Time :=
  (breaker.openedAt.map fun openedAt => max 0 (now - openedAt)).getD 0

/-- The breaker afterwards, and whether it lets the request pass. -/
def allowRequest : ProtocolCircuitBreaker × Bool :=
  if !breaker.config.enabled then (breaker.close, true)
  else if breaker.state = .opened then
    if milliseconds breaker.config.openDurationMs ≤ breaker.elapsed now then
      ({ breaker with state := .halfOpen, halfOpenSuccesses := 0 }, true)
    else (breaker, false)
  else (breaker, true)

def retryAfterMs : Nat :=
  let retryAfter := milliseconds breaker.config.openDurationMs - breaker.elapsed now
  min ((retryAfter + 999999) / 1000000).toNat u64Max

def openError (connectionId : String) : String :=
  s!"protocol connection {connectionId} circuit breaker is open; retry after {
    breaker.retryAfterMs now} ms"

def recordSuccess : ProtocolCircuitBreaker :=
  if !breaker.config.enabled then breaker.close
  else match breaker.state with
    | .closed => { breaker with consecutiveFailures := 0 }
    | .halfOpen =>
      let successes := min (breaker.halfOpenSuccesses + 1) u32Max
      if breaker.config.halfOpenSuccessThreshold ≤ successes then breaker.close
      else { breaker with halfOpenSuccesses := successes }
    | .opened => breaker

def recordFailure : ProtocolCircuitBreaker :=
  if !breaker.config.enabled then breaker.close
  else match breaker.state with
    | .closed =>
      let failures := min (breaker.consecutiveFailures + 1) u32Max
      let counted := { breaker with consecutiveFailures := failures }
      if breaker.config.failureThreshold ≤ failures then counted.trip now else counted
    | .halfOpen => breaker.trip now
    | .opened => breaker

section Steps

variable {breaker}

theorem allowRequest_passes (h : (breaker.allowRequest now).2 = true) :
    (breaker.allowRequest now).1.state ≠ .opened := by
  unfold allowRequest at h ⊢
  split_ifs with hd ho he
  · simp [close]
  · simp
  · simp [hd,ho,he] at h
  · exact ho

theorem recordSuccess_state (h : breaker.state ≠ .opened) :
    breaker.recordSuccess.state ≠ .opened := by
  unfold recordSuccess
  split_ifs
  · simp [close]
  · split
    · exact h
    · dsimp only
      split_ifs
      · simp [close]
      · exact h
    · next ho => exact absurd ho h

end Steps

end ProtocolCircuitBreaker

end VelaEdge.Runtime
