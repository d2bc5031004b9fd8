import Moltbunker.Daemon.Deployment
import Moltbunker.Payment.EscrowErrors

/-!
# Deployments and their escrows

The container manager (`internal/daemon/container_manager.go`) keeps its deployments in memory and
writes copies of them to a store (`state.go`). The escrow client (`internal/payment/
escrow_contract.go`) keeps the reservation of each job in a cache, which is lost at a restart and
which a timer empties. A transaction that the client has submitted is mined, reverts or is dropped
later, and the contract changes by the calls of others too.

A call of the daemon that waits between two changes is cut there: what is left to do is a `Task`.
Copies of the deployments are written record by record (bbolt) or all at once (the JSON file), at
any time after they were made. The ids of the deployments are eight random bytes, which are not
drawn twice; the record `bound` has the reservation that each id was deployed with.

* `jobID_injective` — different deployments have different jobs;
* `exec_terminal` — no call changes a reservation that is over.
-/

namespace Moltbunker.Daemon.Escrows

open Lib Text Function
open Contracts (Address Msg)
open Contracts.Escrow
open Payment

/-! ## Names -/

/-- The random part of a deployment id. -/
abbrev DeploymentID : Type := List.Vector UInt8 8

/-- `generateDeploymentID` -/
def idString (id : DeploymentID) : Text := text "dep-" ++ hexEncode id.toList

/-- `JobIDFromString` -/
def jobIDFromString (s : Text) : List UInt8 :=
  (s.flatMap String.utf8EncodeChar ++ List.replicate 32 0).take 32

/-- The job of a deployment. -/
def jobID (id : DeploymentID) : List UInt8 := jobIDFromString (idString id)

/-- The deployment of a job, read off its sixteen digits. -/
def ofJobID (j : List UInt8) : Option DeploymentID :=
  match hexDecode (((j.drop 4).take 16).map fun b => Char.ofNat b.toNat) with
  | none => none
  | some bytes => if h : bytes.length = 8 then some ⟨bytes, h⟩ else none

/-- The reservation number as the contract gets it. -/
def chainID (r : ℤ) : ℕ := (r % 2 ^ 256).toNat

/-! ## The daemon, the store and the chain -/

/-- What became of a transaction. -/
inductive Fate where
  | pending
  | mined
  | reverted
  | dropped
  deriving DecidableEq

/-- A transaction that a node has accepted. -/
structure Tx where
  call : ExtCall
  fate : Fate

/-- What a goroutine still has to do: the end of `Stop`, with the flag first if the finalization
`tx` was accepted; `markEscrowFinalized`, after the finalization `tx` or an error; the end of
`Delete`. -/
inductive Task where
  | stopping (id : DeploymentID) (tx : Option ℕ)
  | mark (id : DeploymentID) (tx : Option ℕ)
  | forget (id : DeploymentID)
  deriving DecidableEq

/-- Deployments by their ids. -/
abbrev Records : Type := DeploymentID → Option Deployment

structure State where
  now : ℕ
  deployments : Records
  /-- `reservationIDs` and `reservationTimes` -/
  cache : List UInt8 → Option (ℤ × ℕ)
  tasks : List Task
  /-- the goroutines of `reconcileEscrowsOnStartup` that have not called yet -/
  sweeping : DeploymentID → Bool
  /-- copies that are being written -/
  saves : List Records
  store : Records
  storage : Storage
  txs : ℕ → Option Tx
  /-- the number of transactions -/
  count : ℕ
  /-- the reservation that an id was deployed with -/
  bound : DeploymentID → Option Text

/-- What a node answers to a transaction. -/
inductive Sent where
  | accepted
  | noOpts (err : Err)
  | refused (err : Err)

/-- The error of a call of the client. -/
def Sent.error (context : Text) : Sent → Option Err
  | .accepted => none
  | .noOpts err => some (err.wrap (text "failed to get transaction options: "))
  | .refused err => some (err.wrap context)

/-- The error of `getReservationID`. -/
def noReservation (id : DeploymentID) : Err :=
  ⟨text "no reservation ID found for job " ++ hexEncode ((jobID id).take 8), none⟩

namespace State

/-! ## The escrow client -/

variable (s : State)

/-- A transaction is accepted. -/
def submit (call : ExtCall) : State :=
  { s with
    txs := update s.txs s.count (some ⟨call, .pending⟩)
    count := s.count + 1 }

/-- `storeReservationID` -/
def storeReservationID (id : DeploymentID) (r : ℤ) : State :=
  { s with cache := update s.cache (jobID id) (some (r, s.now)) }

/-- `removeReservationID` -/
def removeReservationID (j : List UInt8) : State :=
  { s with cache := update s.cache j none }

/-- A transaction on the reservation of a job. -/
def callJob (id : DeploymentID) (context : Text) (call : ℕ → ExtCall) (sent : Sent) :
    Except Err State :=
  match s.cache (jobID id) with
  | none => .error (noReservation id)
  | some (r, _) =>
    match sent.error context with
    | some err => .error err
    | none => .ok (s.submit (call (chainID r)))

/-- `FinalizeJob` -/
def finalizeJob (id : DeploymentID) (sent : Sent) : Except Err State :=
  (s.callJob id (text "failed to finalize reservation: ") .finalizeReservation sent).map
    fun s => s.removeReservationID (jobID id)

/-- `RefundJob` -/
def refundJob (id : DeploymentID) (sent : Sent) : Except Err State :=
  (s.callJob id (text "failed to refund: ") .refund sent).map
    fun s => s.removeReservationID (jobID id)

/-- An error is logged, and nothing has changed. -/
def logged : Except Err State → State
  | .ok s' => s'
  | .error _ => s

/-- `ReleaseJobPayment` with the seconds since `StartedAt`, if that is set. -/
def release (id : DeploymentID) (startedAt : Option ℕ) (sent : Sent) : State :=
  match startedAt with
  | none => s
  | some t => s.logged (s.callJob id (text "failed to release payment: ")
      (fun r => .releasePayment r (uptimeSecs (s.now - t))) sent)

/-- `CleanupStaleReservations(24h)` -/
def cleanupStaleReservations : State :=
  { s with cache := fun j => (s.cache j).filter fun e => s.now ≤ e.2 + 24 * 3600 * second }

/-! ## The container manager -/

/-- A deployment is written or deleted. -/
def put (id : DeploymentID) (d : Option Deployment) : State :=
  { s with deployments := update s.deployments id d }

/-- A goroutine has something left to do. -/
def addTask (task : Task) : State := { s with tasks := task :: s.tasks }

/-- The flag is set on a deployment that is still there. -/
def setFinalized (id : DeploymentID) : State :=
  s.put id ((s.deployments id).map fun d => { d with escrowFinalized := true })

end State

/-- The reservation of a deploy: without a payment service, made by the user, or made by the daemon,
which may fail to read its number. -/
inductive Paying where
  | unpaid
  | external (reservationID : Text)
  | created (r : Option ℕ)

/-- How a deploy goes on: it fails and the escrow is refunded, or the deployment is stored, and runs
if there is containerd. -/
inductive Launch where
  | failed (refund : Sent)
  | stored (running : Bool)

/-- What can happen next. -/
inductive Action where
  | wait (n : ℕ)
  | deploy (id : DeploymentID) (paying : Paying) (launch : Launch)
  | stop (id : DeploymentID) (release finalize : Sent)
  | start (id : DeploymentID)
  | delete (id : DeploymentID) (release close : Sent)
  /-- `FinalizeAllEscrows`, on one deployment -/
  | finalizeAllEscrows (id : DeploymentID) (release finalize : Sent)
  /-- `reconcileContainerStatus`, on one deployment -/
  | reconcileContainerStatus (id : DeploymentID) (actual : ContainerStatus) (refund : Sent)
  | cleanup
  /-- the event of the end of reservation `n` reaches the consumer, which finds the job `j` -/
  | escrowEvent (n : ℕ) (j : List UInt8)
  | task (i : ℕ)
  /-- the daemon is started again; what containerd knows, if there is one -/
  | restart (containerd : Option (DeploymentID → Option ContainerStatus))
  | sweep (id : DeploymentID) (finalize : Sent)
  | snapshot
  | write (i : ℕ) (id : DeploymentID)
  | writeAll (i : ℕ)
  | mine (k : ℕ) (m : Msg)
  | drop (k : ℕ)
  /-- a call of anybody to the contract -/
  | call (m : Msg) (c : ExtCall)

namespace Paying

/-- The reservation that is stored for the job. -/
def reservation : Paying → Option ℤ
  | .unpaid => none
  | .external t => setString t
  | .created r => r.map fun n => (n : ℤ)

/-- The deploy is refused: the number of the reservation is not one. -/
def refused : Paying → Bool
  | .external t => (setString t).isNone
  | _ => false

/-- `ReservationID` of the deployment. -/
def reservationID (p : Paying) : Text := (p.reservation.map ofInt).getD []

end Paying

namespace State

variable (s : State)

/-- The mapping of the reservation of a deploy. -/
def register (id : DeploymentID) (paying : Paying) : State :=
  let s := { s with bound := update s.bound id (some paying.reservationID) }
  match paying.reservation with
  | none => s
  | some r => s.storeReservationID id r

/-- The deployment that `Deploy` stores. -/
def deployed (paying : Paying) (running : Bool) : Deployment where
  status := if running then .running else .pending
  startedAt := if running then some s.now else none
  stoppedAt := none
  volumeExpiresAt := none
  originated := true
  reservationID := paying.reservationID
  escrowFinalized := false

variable (id : DeploymentID)

/-- `Deploy` -/
def deploy (paying : Paying) (launch : Launch) : State :=
  if paying.refused = true then s
  else
    let s := s.register id paying
    match launch with
    | .failed refund => s.logged (s.refundJob id refund)
    | .stored running => s.put id (some (s.deployed paying running))

/-- `Stop`, up to the flag. -/
def stop (release finalize : Sent) : State :=
  match s.deployments id with
  | none => s
  | some d =>
    if d.originated = true then
      let s := s.release id d.startedAt release
      match s.finalizeJob id finalize with
      | .ok s' => s'.addTask (.stopping id (some s.count))
      | .error _ => s.addTask (.stopping id none)
    else s.addTask (.stopping id none)

/-- `Start` -/
def start : State :=
  match s.deployments id with
  | none => s
  | some d => if d.startRefused s.now then s else s.put id (some (d.start s.now))

/-- What `Delete` pays for a deployment: the uptime of a running one, and the end of its escrow. -/
def settleDeleted (d : Deployment) (release close : Sent) : State :=
  if d.status = .running then
    let s := s.release id d.startedAt release
    s.logged (s.finalizeJob id close)
  else if d.status = .stopped then s.logged (s.finalizeJob id close)
  else s.logged (s.refundJob id close)

/-- `Delete`, up to the store. The flag that it sets is on a record that nothing refers to. -/
def delete (release close : Sent) : State :=
  match s.deployments id with
  | none => s
  | some d =>
    let s := s.put id none
    let s := if d.originated = true then s.settleDeleted id d release close else s
    s.addTask (.forget id)

/-- `FinalizeAllEscrows`, on one deployment. -/
def finalizeAllEscrows (release finalize : Sent) : State :=
  match s.deployments id with
  | none => s
  | some d =>
    if d.status = .running ∧ d.startedAt ≠ none ∧ d.originated = true then
      let s := s.release id d.startedAt release
      s.logged (s.finalizeJob id finalize)
    else s

/-- `reconcileContainerStatus`, on one deployment. -/
def reconcileContainerStatus (actual : ContainerStatus) (refund : Sent) : State :=
  match s.deployments id with
  | none => s
  | some d =>
    if d.status = .running ∧ actual ≠ .running then
      let s := s.put id (some { d with status := actual })
      if d.originated = true then s.logged (s.refundJob id refund) else s
    else s

/-- One task goes on. -/
def runTask (i : ℕ) : State :=
  match s.tasks[i]? with
  | none => s
  | some (.stopping id (some _)) =>
    { s.setFinalized id with tasks := s.tasks.set i (.stopping id none) }
  | some (.stopping id none) =>
    { s.put id ((s.deployments id).map fun d => d.stop s.now) with tasks := s.tasks.eraseIdx i }
  | some (.mark id _) => { s.setFinalized id with tasks := s.tasks.eraseIdx i }
  | some (.forget id) =>
    { s with
      store := update s.store id none
      tasks := s.tasks.eraseIdx i }

end State

/-- `reconcileOnStartup`, on one deployment. -/
def reconcileOnStartup (containerd : Option (DeploymentID → Option ContainerStatus))
    (id : DeploymentID) (d : Deployment) : Deployment :=
  match containerd with
  | none => d
  | some status =>
    match status id with
    | some actual => { d with status := actual }
    | none =>
      if d.status = .running ∨ d.status = .pending then { d with status := .stopped } else d

/-- `reconcileEscrowsOnStartup` takes a deployment for an orphan. -/
def Deployment.orphan (d : Deployment) : Bool :=
  d.originated && !d.escrowFinalized && (d.status == .stopped || d.status == .failed)

/-- The cache after `reconcileEscrowsOnStartup`. -/
def rehydrate (records : Records) (now : ℕ) (j : List UInt8) : Option (ℤ × ℕ) :=
  match ofJobID j with
  | none => none
  | some id =>
    if jobID id = j then
      match records id with
      | none => none
      | some d =>
        if Deployment.orphan d then (setString d.reservationID).map fun r => (r, now) else none
    else none

namespace State

/-- The daemon is started again. -/
def restart (s : State) (containerd : Option (DeploymentID → Option ContainerStatus)) : State :=
  let records : Records := fun id => (s.store id).map (reconcileOnStartup containerd id)
  { s with
    deployments := records
    cache := rehydrate records s.now
    tasks := []
    sweeping := fun id => (records id).any Deployment.orphan
    saves := [] }

/-- A goroutine of `reconcileEscrowsOnStartup`. -/
def sweep (abi : Abi) (s : State) (id : DeploymentID) (finalize : Sent) : State :=
  if s.sweeping id = true then
    let s := { s with sweeping := update s.sweeping id false }
    match s.finalizeJob id finalize with
    | .ok s' => s'.addTask (.mark id (some s.count))
    | .error err => if isAlreadyTerminalEscrowErr abi err then s.addTask (.mark id none) else s
  else s

variable (s : State)

/-- A record of a copy is written. -/
def write (i : ℕ) (id : DeploymentID) : State :=
  match s.saves[i]? with
  | none => s
  | some records =>
    match records id with
    | none => s
    | some d => { s with store := update s.store id (some d) }

/-- A copy replaces the store. -/
def writeAll (i : ℕ) : State :=
  match s.saves[i]? with
  | none => s
  | some records => { s with store := records }

/-- The fate of a transaction. -/
def decided (k : ℕ) (tx : Tx) (fate : Fate) : State :=
  { s with txs := update s.txs k (some { tx with fate := fate }) }

/-- A pending transaction gets into a block. -/
def mine (k : ℕ) (m : Msg) : State :=
  match s.txs k with
  | none => s
  | some tx =>
    if tx.fate = .pending then
      match exec m s.storage tx.call with
      | .ok out => { s.decided k tx .mined with storage := out.1 }
      | .error _ => s.decided k tx .reverted
    else s

/-- A pending transaction is dropped. -/
def drop (k : ℕ) : State :=
  match s.txs k with
  | none => s
  | some tx => if tx.fate = .pending then s.decided k tx .dropped else s

/-- A call of anybody. -/
def call (m : Msg) (c : ExtCall) : State :=
  match exec m s.storage c with
  | .ok out => { s with storage := out.1 }
  | .error _ => s

/-- One step. -/
def next (abi : Abi) (s : State) : Action → State
  | .wait n => { s with now := s.now + n }
  | .deploy id paying launch => s.deploy id paying launch
  | .stop id release finalize => s.stop id release finalize
  | .start id => s.start id
  | .delete id release close => s.delete id release close
  | .finalizeAllEscrows id release finalize => s.finalizeAllEscrows id release finalize
  | .reconcileContainerStatus id actual refund => s.reconcileContainerStatus id actual refund
  | .cleanup => s.cleanupStaleReservations
  | .escrowEvent _ j => s.removeReservationID j
  | .task i => s.runTask i
  | .restart containerd => s.restart containerd
  | .sweep id finalize => s.sweep abi id finalize
  | .snapshot => { s with saves := s.deployments :: s.saves }
  | .write i id => s.write i id
  | .writeAll i => s.writeAll i
  | .mine k m => s.mine k m
  | .drop k => s.drop k
  | .call m c => s.call m c

end State

/-- The reservation is finalized or refunded. -/
def Finished (storage : Storage) (n : ℕ) : Prop :=
  (storage.reservations n).status = .completed ∨ (storage.reservations n).status = .refunded

instance (storage : Storage) (n : ℕ) : Decidable (Finished storage n) :=
  inferInstanceAs (Decidable (_ ∨ _))

/-- The node does not make up data: what it returns for a call is the error of the contract. -/
def Honest (abi : Abi) (storage : Storage) (c : ExtCall) : Sent → Prop
  | .refused err => ∀ data ∈ extractRevertData abi err,
      ∃ m e, exec m storage c = .error e ∧ data = abi.encode e
  | .noOpts err => extractRevertData abi err = none
  | .accepted => True

/-- What is known of the surroundings: ids are not drawn twice, events are of reservations that
ended, and revert data is what the contract returned. -/
def Allowed (abi : Abi) (s : State) : Action → Prop
  | .deploy id _ _ => s.bound id = none
  | .escrowEvent n j =>
    n < 2 ^ 256 ∧ Finished s.storage n ∧ (s.cache j).map Prod.fst = some (n : ℤ)
  | .sweep id finalize => ∀ e ∈ s.cache (jobID id),
      Honest abi s.storage (.finalizeReservation (chainID e.1)) finalize
  | _ => True

/-- The step relation. -/
def Step (abi : Abi) (s : State) (a : Action) (s' : State) : Prop :=
  Allowed abi s a ∧ s.next abi a = s'

/-- Reservations that were not made have no status. -/
def Sound (storage : Storage) : Prop :=
  ∀ n, storage.nextReservationId ≤ n → (storage.reservations n).status = .none

/-- A daemon that is started for the first time. -/
structure Fresh (s : State) : Prop where
  deployments : ∀ id, s.deployments id = none
  cache : ∀ j, s.cache j = none
  tasks : s.tasks = []
  saves : s.saves = []
  store : ∀ id, s.store id = none
  storage : Sound s.storage
  txs : ∀ k, s.txs k = none
  bound : ∀ id, s.bound id = none

/-! ## Jobs -/

variable {c : Char} {storage : Storage} {m : Msg} {out : Outcome} {id : DeploymentID}

/-- The ids are in ASCII. -/
lemma lt_of_mem_idString (h : c ∈ idString id) : c.toNat < 128 := by
  have hdigit : ∀ n < 16, (Nat.digitChar n).toNat < 128 := by decide
  have hhead : ∀ c ∈ text "dep-", c.toNat < 128 := by
    rw [show text "dep-" = ['d', 'e', 'p', '-'] from rfl]
    simp
  rcases List.mem_append.mp h with h | h
  · exact hhead c h
  · obtain ⟨b, -, hc⟩ := List.mem_flatMap.mp h
    have hb := b.toNat_lt
    rcases List.mem_pair.mp hc with rfl | rfl <;> exact hdigit _ (by omega)

lemma utf8EncodeChar_idString (h : c ∈ idString id) :
    String.utf8EncodeChar c = [UInt8.ofNat c.toNat] ∧
      Char.ofNat (UInt8.ofNat c.toNat).toNat = c := by
  have hlt := lt_of_mem_idString h
  constructor
  · have hle : c.toNat ≤ 127 := Nat.le_of_lt_succ hlt
    simp [String.utf8EncodeChar, hle]
  · have hsize : c.toNat < UInt8.size := hlt.trans (by decide)
    rw [UInt8.toNat_ofNat_of_lt' hsize, Char.ofNat_toNat]

/-- The deployment can be read off its job. -/
lemma ofJobID_jobID (id : DeploymentID) : ofJobID (jobID id) = some id := by
  have hlength : (hexEncode id.toList).length = 16 := by rw [length_hexEncode, id.toList_length]
  have hbytes : (idString id).flatMap String.utf8EncodeChar =
      (idString id).map fun c => UInt8.ofNat c.toNat := by
    rw [← List.flatMap_singleton' ((idString id).map _), List.flatMap_map]
    exact List.flatMap_congr fun c hc => (utf8EncodeChar_idString hc).1
  have hdigits : (((jobID id).drop 4).take 16).map (fun b => Char.ofNat b.toNat) =
      hexEncode id.toList := by
    unfold jobID jobIDFromString
    rw [hbytes, List.drop_take, List.take_take, idString, List.map_append, List.append_assoc,
      List.drop_left' (by rfl), List.take_left' (by rw [List.length_map, hlength]; rfl),
      List.map_map]
    refine (List.map_congr_left fun c hc => ?_).trans (List.map_id _)
    exact (utf8EncodeChar_idString (List.mem_append_right _ hc)).2
  unfold ofJobID
  rw [hdigits, hexDecode_hexEncode]
  exact dif_pos id.toList_length

lemma jobID_injective {id id' : DeploymentID} (h : jobID id = jobID id') : id = id' := by
  have hid := ofJobID_jobID id
  rw [h, ofJobID_jobID] at hid
  exact (Option.some.inj hid).symm

/-! ## The contract -/

lemma exec_sound {c : ExtCall} (hs : Sound storage) (h : exec m storage c = .ok out) :
    Sound out.1 := by
  cases exec_effect h with
  | created _ =>
    intro n hn
    have hlt : storage.nextReservationId < n := hn
    show (update storage.reservations _ _ n).status = .none
    rw [update_of_ne hlt.ne']
    exact hs n hlt.le
  | @turned _ id _ hc hturn =>
    intro n hn
    rw [hturn.storage.nextReservationId] at hn
    have hnone := hs n hn
    have hne : n ≠ id := by
      rintro rfl
      rcases hturn.isOpen with hopen | hopen <;> rw [hnone] at hopen <;>
        exact Status.noConfusion hopen
    rw [hturn.storage.reservations]
    show (update storage.reservations _ _ n).status = .none
    rw [update_of_ne hne]
    exact hnone
  | quiet _ _ hreservations _ hnext =>
    intro n hn
    rw [hreservations]
    rw [hnext] at hn
    exact hs n hn

/-- **A reservation that is over stays as it is.** -/
theorem exec_terminal {c : ExtCall} {n : ℕ} (hs : Sound storage)
    (hn : (storage.reservations n).status.Terminal) (h : exec m storage c = .ok out) :
    out.1.reservations n = storage.reservations n := by
  have hclosed : ¬ (storage.reservations n).Open := by
    intro hopen
    rcases hn with hn | hn | hn <;> rcases hopen with hopen | hopen <;> rw [hn] at hopen <;>
      exact Status.noConfusion hopen
  cases exec_effect h with
  | created _ =>
    have hne : n ≠ storage.nextReservationId := by
      rintro rfl
      rw [hs _ le_rfl] at hn
      rcases hn with hn | hn | hn <;> exact Status.noConfusion hn
    exact update_of_ne hne _ _
  | @turned _ id _ hc hturn =>
    have hne : n ≠ id := fun heq => hclosed (heq ▸ hturn.isOpen)
    rw [hturn.storage.reservations]
    exact update_of_ne hne _ _
  | quiet _ _ hreservations _ _ => rw [hreservations]

end Moltbunker.Daemon.Escrows
