import Moltbunker.Lib.Path
import Moltbunker.Redundancy.HealthMonitor

/-!
# Violations that a node reports against itself

`monitorHealthFailures` of `internal/daemon/container_manager.go` asks the health monitor every
minute for the unhealthy replicas of every running deployment, and reports each of them as a
violation of the node's own wallet, not more often than once in ten minutes. Replica 1 is marked by
the acknowledgements of peers (`handleDeployAck` of `internal/daemon/message_handlers.go`), whoever
sends them, and the remote replicas by their silence.

The locks are released between the snapshot of a check and each of its updates, between the list of
the running deployments and the visit to each of them, and between the reports; the steps of a run
are what happens in between, at any times.

* `no_report_of_healthy` — nothing is reported for a deployment if at each visit all of its replicas
  are healthy and none is silent;
* `failed_ack_is_reported` — a peer that sends a failed acknowledgement, and the silence of all
  peers, make a node whose probes are healthy report itself.
-/

namespace Moltbunker.Daemon

open Lib Text Redundancy

/-- The monitor, the deployments and the reporter. -/
structure HealthWorld where
  monitor : HealthMonitor
  /-- whether the status of a deployment is running -/
  deployments : Table Text Bool
  /-- what is left of the snapshot of a check -/
  checks : List ReplicaSnapshot
  /-- the running deployments that are left of a tick -/
  visits : List Text
  /-- the unhealthy replicas that are left of a visit -/
  unhealthy : List (Text × ℕ)
  /-- `reported`: when a replica was reported -/
  reported : Table Text ℤ
  /-- the calls of `ReportViolation`, the last one first -/
  reports : List (Text × ℕ)

inductive HealthAction where
  /-- `UpdateHealth` for a replica of a new deployment -/
  | deployed (containerID : Text) (idx : ℕ) (now : ℤ)
  /-- `handleDeployAck` -/
  | ack (containerID : Text) (success : Bool) (now : ℤ)
  /-- a deployment is stored or its status changes -/
  | status (containerID : Text) (running : Bool)
  /-- a deployment is deleted from the map -/
  | delete (containerID : Text)
  /-- `RemoveContainer` -/
  | removeContainer (containerID : Text)
  /-- `checkHealth` takes its snapshot, in some order -/
  | check (order : List ReplicaSnapshot)
  /-- `checkHealth` for the next replica -/
  | checkNext (now : ℤ) (probed : Option Bool)
  /-- a tick of the reporter, with the running deployments in some order -/
  | tick (order : List Text)
  /-- the next running deployment is visited, its unhealthy replicas in some order -/
  | visit (now : ℤ) (order : List ℕ)
  /-- the next unhealthy replica -/
  | report (now : ℤ)
  /-- old entries are removed from `reported` -/
  | cleanReported (now : ℤ)

namespace HealthWorld

/-- `reportKey` -/
def reportKey (containerID : Text) (replicaIdx : ℕ) : Text :=
  containerID ++ text "-" ++ decimal replicaIdx

/-- The replica was reported in the last ten minutes. -/
def recentlyReported (s : HealthWorld) (now : ℤ) (replica : Text × ℕ) : Bool :=
  match s.reported.lookup (reportKey replica.1 replica.2) with
  | none => false
  | some lastReport => decide (Time.sub now lastReport < 10 * Duration.minute)

/-- The running deployments. -/
def running (s : HealthWorld) : List Text :=
  (s.deployments.entries.filter fun deployment => deployment.2).map Sigma.fst

/-- One step of the monitor, the reporter or a handler. -/
def next (s : HealthWorld) : HealthAction → Option HealthWorld
  | .deployed containerID idx now =>
    some { s with monitor := s.monitor.updateHealth now containerID idx ⟨true, some now⟩ }
  | .ack containerID success now =>
    some { s with monitor := s.monitor.updateHealth now containerID 1 ⟨success, some now⟩ }
  | .status containerID running =>
    some { s with deployments := s.deployments.insert containerID running }
  | .delete containerID => some { s with deployments := s.deployments.erase containerID }
  | .removeContainer containerID =>
    some { s with monitor := s.monitor.removeContainer containerID }
  | .check order =>
    if s.checks = [] ∧ order.Perm s.monitor.snapshots then some { s with checks := order }
    else none
  | .checkNext now probed =>
    match s.checks with
    | [] => none
    | snap :: rest =>
      some { s with monitor := s.monitor.checkReplica now snap probed, checks := rest }
  | .tick order =>
    if s.visits = [] ∧ s.unhealthy = [] ∧ order.Perm s.running then
      some { s with visits := order }
    else none
  | .visit now order =>
    match s.visits, s.unhealthy with
    | containerID :: rest, [] =>
      if order.Perm (s.monitor.getUnhealthyReplicas now containerID) then
        some { s with visits := rest, unhealthy := order.map fun idx => (containerID, idx) }
      else none
    | _, _ => none
  | .report now =>
    match s.unhealthy with
    | [] => none
    | replica :: rest =>
      if s.recentlyReported now replica then some { s with unhealthy := rest }
      else some { s with
        unhealthy := rest
        reported := s.reported.insert (reportKey replica.1 replica.2) now
        reports := replica :: s.reports }
  | .cleanReported now =>
    some { s with
      reported :=
        { entries := s.reported.entries.filter fun entry =>
            ¬ Duration.hour < Time.sub now entry.2
          nodupKeys := s.reported.nodupKeys.sublist List.filter_sublist } }

/-! ## What a step does to the reports -/

variable {s s' : HealthWorld} {a : HealthAction}

/-- A step leaves the reports and what is to be reported, lists the unhealthy replicas of a
deployment, or goes on to the next of them. -/
inductive ReportMove (s : HealthWorld) : HealthAction → HealthWorld → Prop
  | same {a : HealthAction} {s' : HealthWorld} (hunhealthy : s'.unhealthy = s.unhealthy)
      (hreports : s'.reports = s.reports) : ReportMove s a s'
  | listed {now : ℤ} {order : List ℕ} {s' : HealthWorld} (containerID : Text) (rest : List Text)
      (hvisits : s.visits = containerID :: rest)
      (horder : order.Perm (s.monitor.getUnhealthyReplicas now containerID))
      (hunhealthy : s'.unhealthy = order.map fun idx => (containerID, idx))
      (hreports : s'.reports = s.reports) : ReportMove s (.visit now order) s'
  | gone {now : ℤ} {s' : HealthWorld} (replica : Text × ℕ) (rest : List (Text × ℕ))
      (hbefore : s.unhealthy = replica :: rest) (hunhealthy : s'.unhealthy = rest)
      (hreports : ∀ r ∈ s'.reports, r = replica ∨ r ∈ s.reports) :
      ReportMove s (.report now) s'

/-- Every step is such a move. -/
lemma reportMove_next (h : s.next a = some s') : ReportMove s a s' := by
  cases a <;> simp only [next] at h
  case deployed | ack | status | delete | removeContainer | cleanReported =>
    cases h
    exact .same rfl rfl
  case check order | tick order =>
    split_ifs at h
    cases h
    exact .same rfl rfl
  case checkNext now probed =>
    split at h
    · cases h
    · cases h
      exact .same rfl rfl
  case visit now order =>
    split at h
    · next containerID rest hvisits hnone =>
      split_ifs at h with horder
      cases h
      exact .listed containerID rest hvisits horder rfl rfl
    · cases h
  case report now =>
    split at h
    · cases h
    · next replica rest hbefore =>
      split_ifs at h
      · cases h
        exact .gone replica rest hbefore rfl fun r hmem => .inr hmem
      · cases h
        exact .gone replica rest hbefore rfl fun r hmem => List.mem_cons.mp hmem

/-! ## Runs -/

variable (D : Text)

/-- Nothing has been reported for the deployment. -/
def NotReported (s : HealthWorld) : Prop := ∀ r ∈ s.reports, r.1 ≠ D

instance (s : HealthWorld) : Decidable (NotReported D s) :=
  inferInstanceAs (Decidable (∀ r ∈ s.reports, r.1 ≠ D))

/-- Nothing is to be reported for the deployment. -/
def NotListed (s : HealthWorld) : Prop := ∀ r ∈ s.unhealthy, r.1 ≠ D

/-- When the deployment is visited, each of its replicas is healthy and has not been silent for too
long. -/
def HealthyAtVisit (s : HealthWorld) : HealthAction → Prop
  | .visit now _ => ∀ rest, s.visits = D :: rest →
      ∀ idx health, (s.monitor.replicasOf D).lookup idx = some health → ¬ health.Unhealthy now
  | _ => True

variable {D}

lemma not_reported_next (hs : NotReported D s ∧ NotListed D s) (hG : HealthyAtVisit D s a)
    (h : s.next a = some s') : NotReported D s' ∧ NotListed D s' := by
  obtain ⟨hreported, hlisted⟩ := hs
  cases reportMove_next h with
  | same hunhealthy hreports =>
    refine ⟨?_, ?_⟩
    · rw [NotReported, hreports]
      exact hreported
    · rw [NotListed, hunhealthy]
      exact hlisted
  | listed containerID rest hvisits horder hunhealthy hreports =>
    refine ⟨by rw [NotReported, hreports]; exact hreported, ?_⟩
    intro r hmem hr
    rw [hunhealthy] at hmem
    obtain ⟨idx, hidx, rfl⟩ := List.mem_map.mp hmem
    obtain rfl : containerID = D := hr
    -- the list of unhealthy replicas of the deployment is empty
    have hnone := (HealthMonitor.getUnhealthyReplicas_eq_nil _ _ _).mpr (hG rest hvisits)
    rw [hnone] at horder
    rw [horder.eq_nil] at hidx
    cases hidx
  | gone replica rest hbefore hunhealthy hreports =>
    rw [NotListed, hbefore] at hlisted
    refine ⟨?_, ?_⟩
    · intro r hmem
      rcases hreports r hmem with rfl | hold
      · exact hlisted r List.mem_cons_self
      · exact hreported r hold
    · rw [NotListed, hunhealthy]
      exact fun r hmem => hlisted r (List.mem_cons_of_mem _ hmem)

/-- **When a node does not report itself.** If at each visit to a deployment its replicas are
healthy and not silent, nothing is reported for it. -/
theorem no_report_of_healthy (hreported : NotReported D s) (hlisted : NotListed D s)
    {l : List (HealthAction × HealthWorld)}
    (hpath : Path (fun s a s' => HealthWorld.next s a = some s') s l)
    (hhealthy : StepsMeet (HealthyAtVisit D) s l) : StatesMeet (NotReported D) s l := by
  have hboth : StatesMeet (fun s => NotReported D s ∧ NotListed D s) s l := by
    refine Path.invariant_of_steps ?_ ⟨hreported, hlisted⟩ hpath hhealthy
    intro s a s' hs hG hstep
    exact not_reported_next hs hG hstep
  exact hboth.mono fun _ hs => hs.1

/-! ## A node that reports itself -/

/-- The probe of this step, if it is one, finds the container running. -/
def probesHealthy : HealthAction → Bool
  | .checkNext _ probed => decide (probed = some true)
  | _ => true

/-- A node with a probe and without deployments. -/
def idle : HealthWorld where
  monitor := ⟨∅, true⟩
  deployments := ∅
  checks := []
  visits := []
  unhealthy := []
  reported := ∅
  reports := []

/-- A time in seconds. -/
def seconds (n : ℤ) : ℤ := n * 1000000000

/-- A deployment with two replicas is made and runs. -/
def deployActions : List HealthAction :=
  [.deployed (text "dep-1") 0 0, .deployed (text "dep-1") 1 0, .status (text "dep-1") true]

/-- A check at this time that finds the local replica running. -/
def checkActions (now : ℤ) : List HealthAction :=
  [.check [⟨text "dep-1", 1, true, 0⟩, ⟨text "dep-1", 0, true, 0⟩], .checkNext now (some true),
    .checkNext now (some true)]

/-- A peer sends that it failed, and the reporter ticks. -/
def failedAckActions : List HealthAction :=
  deployActions ++ checkActions (seconds 5) ++
    [.ack (text "dep-1") false (seconds 6), .tick [text "dep-1"], .visit (seconds 10) [1],
      .report (seconds 10)]

/-- Nothing comes from any peer, and the reporter ticks after a minute. -/
def silenceActions : List HealthAction :=
  deployActions ++ checkActions (seconds 40) ++
    [.tick [text "dep-1"], .visit (seconds 60) [1, 0], .report (seconds 60), .report (seconds 60)]

/-- The reporter ticks while all heartbeats are recent. -/
def earlyTickActions : List HealthAction :=
  deployActions ++ checkActions (seconds 5) ++ [.tick [text "dep-1"], .visit (seconds 10) []]

instance (s : HealthWorld) (a : HealthAction) : Decidable (HealthyAtVisit D s a) :=
  match a with
  | .visit now _ =>
    match hvisits : s.visits with
    | [] => isTrue fun rest h => by simp [hvisits] at h
    | containerID :: others =>
      if hD : containerID = D then
        decidable_of_iff (s.monitor.getUnhealthyReplicas now D = []) (by
          rw [HealthMonitor.getUnhealthyReplicas_eq_nil, HealthyAtVisit, hvisits]
          exact ⟨fun h _ _ => h, fun h => h others (by rw [hD])⟩)
      else isTrue fun rest h => absurd (List.cons.inj (hvisits.symm.trans h)).1 hD
  | .deployed .. | .ack .. | .status .. | .delete .. | .removeContainer .. | .check .. |
    .checkNext .. | .tick .. | .report .. | .cleanReported .. => isTrue trivial

/-- Nothing is reported for a deployment that is visited while all of its heartbeats are recent. -/
theorem no_report_early_tick :
    (trace next idle earlyTickActions).length = 8 ∧
      StatesMeet (NotReported (text "dep-1")) idle (trace next idle earlyTickActions) := by
  refine ⟨by decide +kernel, ?_⟩
  refine no_report_of_healthy (fun _ h => absurd h List.not_mem_nil)
    (fun _ h => absurd h List.not_mem_nil) (trace_path ..) ?_
  decide +kernel

/-- All probes are healthy, and the node reports itself: for replica 1 after an acknowledgement of
failure, and for both replicas after a minute without messages. -/
theorem failed_ack_is_reported :
    (failedAckActions.all probesHealthy = true ∧
        (endState idle (trace next idle failedAckActions)).reports = [(text "dep-1", 1)] ∧
        ¬ StatesMeet (NotReported (text "dep-1")) idle (trace next idle failedAckActions)) ∧
      silenceActions.all probesHealthy = true ∧
        (endState idle (trace next idle silenceActions)).reports =
          [(text "dep-1", 0), (text "dep-1", 1)] := by
  refine ⟨⟨by decide +kernel, by decide +kernel, fun hmeet => ?_⟩, by decide +kernel⟩
  exact absurd hmeet.endState (by decide +kernel)

end HealthWorld

end Moltbunker.Daemon
