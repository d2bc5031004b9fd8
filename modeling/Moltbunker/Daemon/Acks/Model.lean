import Moltbunker.Contracts.Escrow.Model
import Moltbunker.Identity.NodeID

/-!
# Acknowledgements of a deployment

The originator of a deployment waits for its replicas. `Deploy` creates a tracker; peers answer with
`deploy_ack` messages, which `handleDeployAck` (`internal/daemon/message_handlers.go`) counts in the
tracker. At the first success it has `activateEscrow` (`container_manager.go`) submit
`selectProviders` for the reservation, with the wallets of the nodes that the acknowledgements name.
`WaitForReplicas` and `GetReplicaStatus` (`replication.go`) report the count.

A tracker stays where a goroutine holds it after it was taken out of the map, so trackers are kept
in a list, and the map gives places in it. The channel that wakes `WaitForReplicas` is left out: the
count that it returns is read from the tracker when it returns (`Wake`).

A run (`Net`) also records who has sent a successful acknowledgement (`sent`), which ones a tracker
has counted (`counted`) and what was submitted.
-/

namespace Moltbunker.Daemon.Acks

open Lib Text Function
open Contracts (Address)
open Identity (NodeID)

/-! ## The tracker -/

/-- `replicaAck` -/
structure ReplicaAck where
  nodeID : Text
  region : Text
  success : Bool
  error : Text
  deriving DecidableEq

/-- The payload of a `deploy_ack` message. -/
structure DeployAck where
  containerID : Text
  success : Bool
  error : Text
  nodeID : Text
  region : Text
  deriving DecidableEq

/-- `pendingDeployment` -/
structure PendingDeployment where
  containerID : Text
  ackCount : ℕ
  successCount : ℕ
  acks : List ReplicaAck
  created : ℕ
  escrowActivated : Bool
  deriving DecidableEq

namespace PendingDeployment

/-- The tracker that `Deploy` creates. -/
def new (containerID : Text) (now : ℕ) : PendingDeployment := ⟨containerID, 0, 0, [], now, false⟩

/-- The acknowledgement is the first success. -/
def shouldActivate (p : PendingDeployment) (ack : DeployAck) : Bool :=
  ack.success && !p.escrowActivated

/-- The tracker after an acknowledgement. -/
def record (p : PendingDeployment) (ack : DeployAck) : PendingDeployment :=
  { p with
    ackCount := p.ackCount + 1
    successCount := if ack.success then p.successCount + 1 else p.successCount
    acks := p.acks ++ [⟨ack.nodeID, ack.region, ack.success, ack.error⟩]
    escrowActivated := p.escrowActivated || p.shouldActivate ack }

end PendingDeployment

/-- Why `WaitForReplicas` returns: there was a success before, the channel was closed, it has
received a success, or it has waited long enough. -/
inductive Wake where
  | ready
  | closed
  | acked
  | timedOut

/-- `WaitForReplicas`, with the tracker as it is when it returns. -/
def waitForReplicas (p : PendingDeployment) : Wake → ℕ × Option Text
  | .timedOut =>
    if p.successCount = 0 then
      (0, some (text "timeout waiting for replica acks: received " ++ decimal p.ackCount ++
        text " acks, " ++ decimal p.successCount ++ text " successful"))
    else (p.successCount, none)
  | _ => (p.successCount, none)

/-! ## Wallets -/

/-- What the daemon knows of wallets when a message arrives: its own, those of the stake verifier if
it has one, and those of the peers of the router. The chain knows which providers are active. -/
structure Env where
  walletAddress : Address
  getWallet : Option (NodeID → Option Address)
  peers : List (NodeID × Address)
  isActiveProvider : Address → Bool

/-- The wallet that `activateEscrow` finds for a node, zero if it finds none. -/
def Env.walletOf (env : Env) (nodeID : NodeID) : Address :=
  let wallet :=
    match env.getWallet with
    | some getWallet => (getWallet nodeID).getD 0
    | none => 0
  if wallet ≠ 0 then wallet
  else
    match env.peers.find? fun peer => peer.1 = nodeID ∧ peer.2 ≠ 0 with
    | some peer => peer.2
    | none => 0

/-- The node that an acknowledgement names. -/
def namedNode (nodeID : Text) : Option NodeID :=
  (hexDecode nodeID).bind fun bytes => if h : bytes.length = 32 then some ⟨bytes, h⟩ else none

/-- One turn of the loop of `activateEscrow`, over the providers found so far. -/
def addProvider (env : Env) (found : List Address) (ack : ReplicaAck) : List Address :=
  if ack.success = false ∨ found.length ≥ 3 then found
  else
    match namedNode ack.nodeID with
    | none => found
    | some nodeID =>
      let wallet := env.walletOf nodeID
      if wallet = 0 ∨ wallet ∈ found then found else found ++ [wallet]

/-- The providers that are submitted: the local wallet, and the wallets of the first two nodes that
have one of their own. -/
def providers (env : Env) (acks : List ReplicaAck) (i : Fin 3) : Address :=
  (acks.foldl (addProvider env) [env.walletAddress]).getD i 0

/-- A call of `SelectProviders`. -/
structure Submission where
  deploymentID : Text
  providers : Fin 3 → Address
  env : Env

/-- `activateEscrow` -/
def activateEscrow (payment : Bool) (env : Env) (deploymentID : Text) (acks : List ReplicaAck) :
    Option Submission :=
  if payment then some ⟨deploymentID, providers env acks, env⟩ else none

/-! ## The manager -/

/-- The part of `ContainerManager` that keeps the trackers. -/
structure Manager where
  payment : Bool
  trackers : List PendingDeployment
  pendingDeployments : Text → Option ℕ

namespace Manager

variable (s : Manager)

/-- The tracker of a deployment, with its place. -/
def pending (id : Text) : Option (ℕ × PendingDeployment) :=
  (s.pendingDeployments id).bind fun i => (s.trackers[i]?).map fun p => (i, p)

/-- `handleDeployAck`; a payload that does not decode is `none`. -/
def handleDeployAck (env : Env) (payload : Option DeployAck) : Manager × Option Submission :=
  match payload with
  | none => (s, none)
  | some ack =>
    match s.pending ack.containerID with
    | none => (s, none)
    | some (i, p) =>
      ({ s with trackers := s.trackers.set i (p.record ack) },
        if p.shouldActivate ack then
          activateEscrow s.payment env ack.containerID (p.record ack).acks
        else none)

/-- `GetReplicaStatus` -/
def getReplicaStatus (id : Text) : ℕ × ℕ × Bool :=
  match s.pending id with
  | none => (0, 0, false)
  | some (_, p) => (p.ackCount, p.successCount, true)

/-- `Deploy` creates a tracker. -/
def track (id : Text) (now : ℕ) : Manager :=
  { s with
    trackers := s.trackers ++ [.new id now]
    pendingDeployments := update s.pendingDeployments id (some s.trackers.length) }

/-- `Stop`, `Delete` and the end of `waitForReplicaAcks` remove a tracker. -/
def forget (id : Text) : Manager :=
  { s with pendingDeployments := update s.pendingDeployments id none }

/-- `pendingDeploymentTTL`, in seconds -/
def pendingDeploymentTTL : ℕ := 5 * 60

/-- A tick of `cleanStalePendingDeployments` -/
def cleanStale (now : ℕ) : Manager :=
  { s with
    pendingDeployments := fun id =>
      match s.pending id with
      | some (i, p) => if now - p.created > pendingDeploymentTTL then none else some i
      | none => none }

end Manager

/-! ## Runs -/

/-- A success that a tracker has counted. -/
structure Counted where
  tracker : ℕ
  containerID : Text
  peer : NodeID
  ack : DeployAck
  env : Env

/-- The manager and the history of the run. -/
structure Net where
  manager : Manager
  submissions : List Submission
  /-- the peers that have sent a successful acknowledgement, and of which deployment -/
  sent : List (NodeID × Text)
  counted : List Counted

/-- What can happen. -/
inductive Action where
  | deploy (id : Text) (now : ℕ)
  /-- a message over a connection whose other end is the peer -/
  | ack (env : Env) (peer : NodeID) (payload : Option DeployAck)
  | forget (id : Text)
  | clean (now : ℕ)

/-- A daemon without deployments. -/
def Net.init (payment : Bool) : Net := ⟨⟨payment, [], fun _ => none⟩, [], [], []⟩

/-- The sender of a successful acknowledgement. -/
def sentBy (peer : NodeID) : Option DeployAck → List (NodeID × Text)
  | some ack => if ack.success then [(peer, ack.containerID)] else []
  | none => []

/-- What a tracker counts as a success. -/
def countedBy (s : Manager) (env : Env) (peer : NodeID) : Option DeployAck → List Counted
  | some ack =>
    match s.pending ack.containerID with
    | some (i, _) => if ack.success then [⟨i, ack.containerID, peer, ack, env⟩] else []
    | none => []
  | none => []

/-- One step. -/
def Net.next (s : Net) : Action → Net
  | .deploy id now => { s with manager := s.manager.track id now }
  | .ack env peer payload =>
    let result := s.manager.handleDeployAck env payload
    { manager := result.1
      submissions := s.submissions ++ result.2.toList
      sent := s.sent ++ sentBy peer payload
      counted := s.counted ++ countedBy s.manager env peer payload }
  | .forget id => { s with manager := s.manager.forget id }
  | .clean now => { s with manager := s.manager.cleanStale now }

/-- The step relation. -/
def Step (s : Net) (a : Action) (s' : Net) : Prop := s.next a = s'

/-! ## One message -/

variable {s : Manager} {env : Env} {peer : NodeID} {payload : Option DeployAck} {id : Text}

variable {i : ℕ} {p : PendingDeployment}

/-- The place of a tracker in the map and in the list. -/
lemma Manager.pending_eq_some :
    s.pending id = some (i, p) ↔ s.pendingDeployments id = some i ∧ s.trackers[i]? = some p := by
  simp only [Manager.pending, Option.bind_eq_some_iff, Option.map_eq_some_iff, Prod.mk.injEq]
  constructor
  · rintro ⟨j, hj, q, hq, rfl, rfl⟩
    exact ⟨hj, hq⟩
  · rintro ⟨hi, hp⟩
    exact ⟨i, hi, p, hp, rfl, rfl⟩

/-- **What a message does.** It finds no tracker and changes nothing, or it is recorded in the
tracker that it finds. -/
theorem handleDeployAck_cases
    (payload : Option DeployAck) :
    (s.handleDeployAck env payload = (s, none) ∧ countedBy s env peer payload = []) ∨
    ∃ ack i p, payload = some ack ∧ s.pendingDeployments ack.containerID = some i ∧
      s.trackers[i]? = some p ∧
      s.handleDeployAck env payload = ({ s with trackers := s.trackers.set i (p.record ack) },
        if p.shouldActivate ack then
          activateEscrow s.payment env ack.containerID (p.record ack).acks
        else none) ∧
      countedBy s env peer payload =
        if ack.success then [⟨i, ack.containerID, peer, ack, env⟩] else [] := by
  cases payload with
  | none => exact .inl ⟨rfl, rfl⟩
  | some ack =>
    cases hp : s.pending ack.containerID with
    | none => simp [Manager.handleDeployAck, countedBy, hp]
    | some x =>
      obtain ⟨i, p⟩ := x
      obtain ⟨hi, htracker⟩ := Manager.pending_eq_some.mp hp
      refine .inr ⟨ack, i, p, rfl, hi, htracker, ?_, ?_⟩
      · simp only [Manager.handleDeployAck, hp]
      · simp only [countedBy, hp]

/-! ## Trackers and the map -/

/-- The map leads to trackers of their deployments, and a tracker that has not activated has seen no
success. -/
structure Manager.Wf (s : Manager) : Prop where
  mapped : ∀ id i, s.pendingDeployments id = some i →
    ∃ p, s.trackers[i]? = some p ∧ p.containerID = id
  fails : ∀ p ∈ s.trackers, p.escrowActivated = false → ∀ ack ∈ p.acks, ack.success = false

namespace Manager.Wf

lemma init (payment : Bool) : (Net.init payment).manager.Wf where
  mapped _ _ h := by cases h
  fails := nofun

lemma containerID_eq (h : s.Wf)
    (hi : s.pendingDeployments id = some i) (hp : s.trackers[i]? = some p) :
    p.containerID = id := by
  obtain ⟨q, hq, hid⟩ := h.mapped id i hi
  rw [hp] at hq
  cases hq
  exact hid

/-- A smaller map. -/
lemma restrict (h : s.Wf) {pendingDeployments : Text → Option ℕ}
    (hle : ∀ id i, pendingDeployments id = some i → s.pendingDeployments id = some i) :
    Wf { s with pendingDeployments := pendingDeployments } where
  mapped id i hi := h.mapped id i (hle id i hi)
  fails := h.fails

lemma forget (h : s.Wf) : (s.forget id).Wf := by
  apply h.restrict
  intro id' i hi
  by_cases hid : id' = id
  · rw [hid, update_self] at hi
    cases hi
  · rwa [update_of_ne hid] at hi

lemma cleanStale (h : s.Wf) (now : ℕ) : (s.cleanStale now).Wf := by
  apply h.restrict
  intro id i hi
  split at hi
  · next j p hp =>
    split at hi
    · cases hi
    · cases hi
      exact (Manager.pending_eq_some.mp hp).1
  · cases hi

end Manager.Wf

/-- The trackers after `Deploy`. -/
lemma Manager.getElem?_track {now : ℕ} (h : (s.track id now).trackers[i]? = some p) :
    s.trackers[i]? = some p ∨ i = s.trackers.length ∧ p = .new id now := by
  simp only [Manager.track] at h
  rcases Nat.lt_trichotomy i s.trackers.length with hlt | rfl | hgt
  · rw [List.getElem?_append_left hlt] at h
    exact .inl h
  · exact .inr ⟨rfl, by simpa using h.symm⟩
  · rw [List.getElem?_eq_none (by simpa using hgt)] at h
    cases h

lemma Manager.Wf.track (h : s.Wf) (id : Text) (now : ℕ) : (s.track id now).Wf := by
  refine ⟨?_, ?_⟩
  · intro id' i hi
    simp only [Manager.track] at hi ⊢
    by_cases hid : id' = id
    · subst hid
      rw [update_self] at hi
      cases hi
      exact ⟨.new id' now, by simp, rfl⟩
    · rw [update_of_ne hid] at hi
      obtain ⟨p, hp, hc⟩ := h.mapped id' i hi
      have hlt := (List.getElem?_eq_some_iff.mp hp).1
      refine ⟨p, ?_, hc⟩
      rw [List.getElem?_append_left hlt]
      exact hp
  · intro p hp
    obtain ⟨i, hi⟩ := List.getElem?_of_mem hp
    rcases Manager.getElem?_track hi with hi | ⟨-, rfl⟩
    · exact h.fails p (List.mem_of_getElem? hi)
    · intro _ ack hack
      cases hack

lemma record_escrowActivated {ack : DeployAck} (h : (p.record ack).escrowActivated = false) :
    p.escrowActivated = false ∧ ack.success = false := by
  simp only [PendingDeployment.record, PendingDeployment.shouldActivate, Bool.or_eq_false_iff] at h
  obtain ⟨hp, hack⟩ := h
  rw [hp] at hack
  exact ⟨hp, by simpa using hack⟩

/-- An acknowledgement is recorded. -/
lemma Manager.Wf.record (h : s.Wf) (hp : s.trackers[i]? = some p) (ack : DeployAck) :
    Wf { s with trackers := s.trackers.set i (p.record ack) } := by
  refine ⟨?_, ?_⟩
  · intro id j hj
    obtain ⟨q, hq, hqid⟩ := h.mapped id j hj
    by_cases hji : j = i
    · subst hji
      rw [hp] at hq
      cases hq
      have hlt := (List.getElem?_eq_some_iff.mp hp).1
      exact ⟨p.record ack, List.getElem?_set_self hlt, hqid⟩
    · exact ⟨q, (List.getElem?_set_ne (Ne.symm hji)).trans hq, hqid⟩
  · intro q hq hact
    rcases List.mem_or_eq_of_mem_set hq with hq | rfl
    · exact h.fails q hq hact
    · obtain ⟨hpact, hfail⟩ := record_escrowActivated hact
      intro x hx
      simp only [PendingDeployment.record, List.mem_append, List.mem_singleton] at hx
      rcases hx with hx | rfl
      · exact h.fails p (List.mem_of_getElem? hp) hpact x hx
      · exact hfail

/-! ## Providers -/

variable {acks : List ReplicaAck}

/-- Acknowledgements of failures add no provider. -/
lemma foldl_addProvider_of_fail {found : List Address}
    (h : ∀ ack ∈ acks, ack.success = false) : acks.foldl (addProvider env) found = found := by
  induction acks generalizing found with
  | nil => rfl
  | cons ack acks ih =>
    rw [List.foldl_cons, addProvider, if_pos (.inl (h ack List.mem_cons_self))]
    exact ih fun a ha => h a (List.mem_cons_of_mem ack ha)

/-- An acknowledgement adds the wallet of the node that it names, or nothing. -/
lemma addProvider_cases (found : List Address) (ack : ReplicaAck) :
    addProvider env found ack = found ∨ ∃ nodeID, namedNode ack.nodeID = some nodeID ∧
      addProvider env found ack = found ++ [env.walletOf nodeID] := by
  unfold addProvider
  split
  · exact .inl rfl
  split
  · exact .inl rfl
  · next nodeID hnode =>
    dsimp only
    split
    · exact .inl rfl
    · exact .inr ⟨nodeID, hnode, rfl⟩

/-- After failures and one success there are at most two providers: the local wallet and the wallet
of the node that the success names. -/
lemma providers_snapshot {ack : ReplicaAck} (h : ∀ a ∈ acks, a.success = false) :
    providers env (acks ++ [ack]) 2 = 0 ∧ (providers env (acks ++ [ack]) 1 = 0 ∨
      ∃ nodeID, namedNode ack.nodeID = some nodeID ∧
        providers env (acks ++ [ack]) 1 = env.walletOf nodeID) := by
  unfold providers
  rw [List.foldl_append, foldl_addProvider_of_fail h, List.foldl_cons, List.foldl_nil]
  rcases addProvider_cases [env.walletAddress] ack with hadd | ⟨nodeID, hnode, hadd⟩
  · rw [hadd]
    exact ⟨rfl, .inl rfl⟩
  · rw [hadd]
    exact ⟨rfl, .inr ⟨nodeID, hnode, rfl⟩⟩

end Moltbunker.Daemon.Acks
