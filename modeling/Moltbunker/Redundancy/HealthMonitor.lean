import Moltbunker.Lib.GoTime
import Moltbunker.Lib.Tally
import Moltbunker.Lib.Text

/-!
# The health monitor

`internal/redundancy/health.go`: for every container the replicas with the times of their last
heartbeats. A check takes a snapshot of all replicas and then goes through it without the lock. It
probes replica 0, which is the local one, and takes the others for unhealthy when they have been
silent for too long. A replica whose status does not change keeps the time of its heartbeat,
whatever the probe says.

* `getUnhealthyReplicas_eq_nil` — no replica is listed exactly if all are healthy and not silent.
-/

namespace Moltbunker.Redundancy

open Lib

/-- `maxTrackedContainers` -/
def maxTrackedContainers : ℕ := 10000

/-- `timeout`, as `NewHealthMonitor` sets it -/
def timeout : Duration := 30 * Duration.second

/-- `ReplicaHealth`, without its keys and the status it was made from. -/
structure ReplicaHealth where
  lastHeartbeat : ℤ
  healthy : Bool
  deriving DecidableEq

/-- `types.HealthStatus`, as far as it is read; a time that is zero is none. -/
structure HealthStatus where
  healthy : Bool
  lastUpdate : Option ℤ

/-- `HealthMonitor`: the replicas, and whether there is a probe. -/
structure HealthMonitor where
  replicas : Table Text (Table ℕ ReplicaHealth)
  probe : Bool

/-- `replicaSnapshot` -/
structure ReplicaSnapshot where
  containerID : Text
  idx : ℕ
  healthy : Bool
  lastHeartbeat : ℤ
  deriving DecidableEq

/-- The replica counts as unhealthy: it is not healthy, or it has been silent for too long. -/
def ReplicaHealth.Unhealthy (now : ℤ) (health : ReplicaHealth) : Prop :=
  health.healthy = false ∨ timeout < Time.sub now health.lastHeartbeat

instance (now : ℤ) (health : ReplicaHealth) : Decidable (health.Unhealthy now) :=
  inferInstanceAs (Decidable (_ ∨ _))

namespace HealthMonitor

variable (hm : HealthMonitor)

/-- The replicas of a container. -/
def replicasOf (containerID : Text) : Table ℕ ReplicaHealth :=
  (hm.replicas.lookup containerID).getD ∅

/-- `cleanStaleLocked` -/
def cleanStaleLocked (now : ℤ) (maxAge : Duration) : HealthMonitor where
  replicas :=
    { entries := hm.replicas.entries.filter fun container =>
        container.2.entries.any fun replica => Time.add now (-maxAge) < replica.2.lastHeartbeat
      nodupKeys := hm.replicas.nodupKeys.sublist List.filter_sublist }
  probe := hm.probe

/-- A replica of a container is written. -/
def setReplica (containerID : Text) (idx : ℕ) (health : ReplicaHealth) : HealthMonitor :=
  { hm with
    replicas := hm.replicas.insert containerID ((hm.replicasOf containerID).insert idx health) }

/-- `UpdateHealth` -/
def updateHealth (now : ℤ) (containerID : Text) (replicaIndex : ℕ)
    (health : HealthStatus) : HealthMonitor :=
  let replica : ReplicaHealth := ⟨health.lastUpdate.getD now, health.healthy⟩
  if (hm.replicas.lookup containerID).isSome then hm.setReplica containerID replicaIndex replica
  else
    let cleaned :=
      if maxTrackedContainers ≤ tableSize hm.replicas then hm.cleanStaleLocked now timeout else hm
    if maxTrackedContainers ≤ tableSize cleaned.replicas then cleaned
    else cleaned.setReplica containerID replicaIndex replica

/-- `RemoveContainer` -/
def removeContainer (containerID : Text) : HealthMonitor :=
  { hm with replicas := hm.replicas.erase containerID }

/-- `GetUnhealthyReplicas` -/
def getUnhealthyReplicas (now : ℤ) (containerID : Text) : List ℕ :=
  ((hm.replicasOf containerID).entries.filter fun replica => replica.2.Unhealthy now).map
    Sigma.fst

/-- The snapshot that `checkHealth` takes. -/
def snapshots : List ReplicaSnapshot :=
  hm.replicas.entries.flatMap fun container => container.2.entries.map fun replica =>
    ⟨container.1, replica.1, replica.2.healthy, replica.2.lastHeartbeat⟩

/-- `checkHealth` for one replica of the snapshot; the probe answers, or it fails. -/
def checkReplica (now : ℤ) (snap : ReplicaSnapshot) (probed : Option Bool) : HealthMonitor :=
  let healthy :=
    if hm.probe ∧ snap.idx = 0 then probed.getD false
    else if timeout < Time.sub now snap.lastHeartbeat then false
    else snap.healthy
  if healthy = snap.healthy then hm
  else
    match (hm.replicasOf snap.containerID).lookup snap.idx with
    | none => hm
    | some _ => hm.setReplica snap.containerID snap.idx ⟨now, healthy⟩

/-- No replica is listed exactly if each is healthy and not silent for too long. -/
lemma getUnhealthyReplicas_eq_nil (hm : HealthMonitor) (now : ℤ) (containerID : Text) :
    hm.getUnhealthyReplicas now containerID = [] ↔
      ∀ idx health, (hm.replicasOf containerID).lookup idx = some health →
        ¬ health.Unhealthy now := by
  simp only [getUnhealthyReplicas, List.map_eq_nil_iff, List.filter_eq_nil_iff, decide_eq_true_eq]
  constructor
  · intro h idx health hlookup
    exact h ⟨idx, health⟩ (AList.mem_lookup_iff.mp hlookup)
  · rintro h ⟨idx, health⟩ hmem
    exact h idx health (AList.mem_lookup_iff.mpr hmem)

end HealthMonitor

end Moltbunker.Redundancy
