import Moltbunker.Lib.Text

/-!
# Deployments

The record that the container manager keeps of a deployment (`internal/daemon/deployment.go`), as
far as it decides what happens to the escrow of the deployment. Times are in nanoseconds; the zero
time of Go is `none`.
-/

namespace Moltbunker.Daemon

open Lib

/-- `types.ContainerStatus` -/
inductive ContainerStatus where
  | pending
  | created
  | running
  | paused
  | stopped
  | failed
  | replicating
  deriving DecidableEq

/-- `Deployment`; `originated` says that its `OriginatorID` is this node. -/
structure Deployment where
  status : ContainerStatus
  startedAt : Option ℕ
  stoppedAt : Option ℕ
  volumeExpiresAt : Option ℕ
  originated : Bool
  reservationID : Text
  escrowFinalized : Bool
  deriving DecidableEq

/-- A second. -/
def second : ℕ := 1000000000

/-- `int64(uptime.Seconds())`: the sum of the whole seconds and the fraction is a `float64`, and is
rounded up to the next second when the fraction is that close to it. -/
def uptimeSecs (uptime : ℕ) : ℕ :=
  if (second - uptime % second) * 2 ^ 53 ≤ second * 2 ^ (uptime / second).log2 then
    uptime / second + 1
  else uptime / second

/-- `volumeRetentionDuration` -/
def volumeRetentionDuration : ℕ := 72 * 3600 * second

namespace Deployment

/-- The status that `Stop` sets at its end. -/
def stop (d : Deployment) (now : ℕ) : Deployment :=
  { d with
    status := .stopped
    stoppedAt := some now
    volumeExpiresAt := some (now + volumeRetentionDuration) }

/-- `Start` is refused: the container is not stopped, or its volume has expired. -/
def startRefused (d : Deployment) (now : ℕ) : Prop :=
  d.status ≠ .stopped ∨ ∃ expiresAt ∈ d.volumeExpiresAt, expiresAt < now

instance (d : Deployment) (now : ℕ) : Decidable (d.startRefused now) :=
  inferInstanceAs (Decidable (_ ∨ ∃ expiresAt ∈ d.volumeExpiresAt, expiresAt < now))

/-- The state that `Start` sets at its end. -/
def start (d : Deployment) (now : ℕ) : Deployment :=
  { d with
    status := .running
    startedAt := some now
    stoppedAt := none
    volumeExpiresAt := none }

end Deployment

end Moltbunker.Daemon
