import Moltbunker.Contracts.Staking.Slash

/-!
# `BunkerStaking`: the functions of a provider

Registration, identity, the two-step exit (`requestUnstake`, `completeUnstake`), the beneficiary
change and the freeze of one provider, with the parts that name what a returned call left.
-/

namespace Moltbunker.Contracts.Staking

open Lib Function

namespace Storage

/-! ## Staking -/

/-- The first-registration writes shared by `stake` and `stakeWithIdentity`. -/
def registered (info : ProviderInfo) (m : Msg) : ProviderInfo :=
  { info with
    active := true
    beneficiary := m.sender
    registeredAt := .ofNat 48 m.timestamp }

/-- `info.stakedAmount = uint128(newTotal)` -/
def withStake (info : ProviderInfo) (newTotal : ℕ) : ProviderInfo :=
  { info with stakedAmount := .ofNat 128 newTotal }

variable (s : Storage)

variable (m : Msg)

/-- The writes that end `stake` and `stakeWithIdentity`: the provider's new stake, the total, and
the transfer of the tokens. -/
def acceptStake (info : ProviderInfo) (newTotal amount : ℕ) : Exec Outcome := do
  let totalStaked ← addW 256 s.totalStaked amount
  return ({ s with
      providers := update s.providers m.sender (withStake info newTotal)
      totalStaked := totalStaked },
    [.transferFrom m.sender amount])

/-- `stake(amount)` -/
def stake (amount : ℕ) : Exec Outcome := do
  whenNotPaused s
  let s ← s.updateReward m.timestamp m.sender
  revertIf (amount = 0) .zeroAmount
  let info := s.providers m.sender
  revertIf (info.frozen = true) (.providerIsFrozen m.sender)
  let newTotal ← addW 256 info.stakedAmount.toNat amount
  if info.active = false then
    revertIf (newTotal < s.starterMinStake) (.belowMinimumStake newTotal s.starterMinStake)
    s.acceptStake m (registered info m) newTotal amount
  else
    s.acceptStake m info newTotal amount

/-- `stakeWithIdentity(amount, nodeId, region, capabilities)` -/
def stakeWithIdentity (amount : ℕ) (nodeId region : Bytes32)
    (capabilities : BitVec 64) : Exec Outcome := do
  whenNotPaused s
  let s ← s.updateReward m.timestamp m.sender
  revertIf (amount = 0) .zeroAmount
  let info := s.providers m.sender
  revertIf (info.frozen = true) (.providerIsFrozen m.sender)
  let newTotal ← addW 256 info.stakedAmount.toNat amount
  if info.active = false then
    revertIf (newTotal < s.starterMinStake) (.belowMinimumStake newTotal s.starterMinStake)
    if nodeId ≠ 0 then
      revertIf (s.nodeIdToProvider nodeId ≠ 0) (.nodeIdAlreadyClaimed nodeId)
      let info' := { registered info m with
        nodeId := nodeId
        region := region
        capabilities := capabilities }
      let s' := { s with nodeIdToProvider := update s.nodeIdToProvider nodeId m.sender }
      s'.acceptStake m info' newTotal amount
    else
      s.acceptStake m (registered info m) newTotal amount
  else
    -- An active provider changes its identity through `updateIdentity` only.
    revertIf (nodeId ≠ 0) .useUpdateIdentity
    s.acceptStake m info newTotal amount

/-- `updateIdentity(nodeId, region, capabilities)` -/
def updateIdentity (nodeId region : Bytes32) (capabilities : BitVec 64) : Exec Outcome := do
  let info := s.providers m.sender
  revertIf (info.active = false) (.providerNotActive m.sender)
  revertIf (info.frozen = true) (.providerIsFrozen m.sender)
  if nodeId ≠ info.nodeId then
    revertIf (nodeId ≠ 0 ∧ s.nodeIdToProvider nodeId ≠ 0) (.nodeIdAlreadyClaimed nodeId)
    let released :=
      if info.nodeId ≠ 0 then update s.nodeIdToProvider info.nodeId 0
      else s.nodeIdToProvider
    let claimed := if nodeId ≠ 0 then update released nodeId m.sender else released
    return ({ s with
      providers := update s.providers m.sender { info with
        nodeId := nodeId
        region := region
        capabilities := capabilities }
      nodeIdToProvider := claimed }, [])
  else
    return ({ s with
      providers := update s.providers m.sender { info with
        region := region
        capabilities := capabilities } }, [])

/-! ## Leaving -/

/-- `requestUnstake(amount)` -/
def requestUnstake (amount : ℕ) : Exec Outcome := do
  whenNotPaused s
  let s ← s.updateReward m.timestamp m.sender
  revertIf (amount = 0) .zeroAmount
  let info := s.providers m.sender
  revertIf (info.active = false) (.providerNotActive m.sender)
  revertIf (info.frozen = true) (.providerIsFrozen m.sender)
  revertIf (amount > info.stakedAmount.toNat) (.insufficientStake amount info.stakedAmount.toNat)
  let stakedAmount ← subB info.stakedAmount (.ofNat 128 amount)
  let infoUnbonding ← addB info.totalUnbonding (.ofNat 128 amount)
  let totalStaked ← subC s.totalStaked amount
  let totalUnbonding ← addW 256 s.totalUnbonding amount
  let active := if stakedAmount.toNat < s.starterMinStake then false else info.active
  let queue := s.unstakeQueues m.sender
  revertIf (queue.length > 50) .tooManyUnstakeRequests
  let unlockTime ← addW 256 m.timestamp s.unbondingPeriod
  return ({ s with
    providers := update s.providers m.sender { info with
      stakedAmount := stakedAmount
      totalUnbonding := infoUnbonding
      active := active }
    totalStaked := totalStaked
    totalUnbonding := totalUnbonding
    unstakeQueues := update s.unstakeQueues m.sender
      (queue ++ [⟨.ofNat 128 amount, .ofNat 48 unlockTime, false⟩]) }, [])

/-- `completeUnstake(requestIndex)` -/
def completeUnstake (requestIndex : ℕ) : Exec Outcome := do
  let info := s.providers m.sender
  revertIf (info.frozen = true) (.providerIsFrozen m.sender)
  let queue := s.unstakeQueues m.sender
  match queue[requestIndex]? with
  | none => throw (.error (.invalidUnstakeIndex requestIndex queue.length))
  | some req =>
    revertIf (req.completed = true) (.unstakeAlreadyCompleted requestIndex)
    revertIf (m.timestamp < req.unlockTime.toNat)
      (.unbondingNotReady req.unlockTime.toNat m.timestamp)
    let amount := req.amount.toNat
    let infoUnbonding ← subB info.totalUnbonding (.ofNat 128 amount)
    let totalUnbonding ← subC s.totalUnbonding amount
    return ({ s with
      providers := update s.providers m.sender { info with
        totalUnbonding := infoUnbonding }
      totalUnbonding := totalUnbonding
      unstakeQueues := update s.unstakeQueues m.sender
        (queue.set requestIndex { req with completed := true }) },
      [.transfer m.sender amount])

/-! ## Beneficiary and freeze -/

/-- `initiateBeneficiaryChange(newBeneficiary)` -/
def initiateBeneficiaryChange (newBeneficiary : Address) : Exec Outcome := do
  revertIf (newBeneficiary = 0) .zeroAddress
  revertIf ((s.providers m.sender).active = false) (.providerNotActive m.sender)
  let effectiveTime ← addW 256 m.timestamp beneficiaryTimelock
  return ({ s with
    pendingBeneficiaries := update s.pendingBeneficiaries m.sender
      ⟨newBeneficiary, .ofNat 48 effectiveTime⟩ }, [])

/-- `executeBeneficiaryChange()` -/
def executeBeneficiaryChange : Exec Outcome := do
  let pending := s.pendingBeneficiaries m.sender
  revertIf (pending.newBeneficiary = 0) (.noPendingBeneficiaryChange m.sender)
  revertIf (m.timestamp < pending.effectiveTime.toNat)
    (.beneficiaryTimelockNotElapsed pending.effectiveTime.toNat m.timestamp)
  return ({ s.modifyProvider m.sender fun i => { i with beneficiary := pending.newBeneficiary } with
    pendingBeneficiaries := update s.pendingBeneficiaries m.sender ⟨0, 0⟩ }, [])

/-- `freezeProvider(provider)` -/
def freezeProvider (provider : Address) : Exec Outcome := do
  onlySlasher m s
  revertIf ((s.providers provider).active = false) (.providerNotActive provider)
  return (s.modifyProvider provider fun i => { i with frozen := true }, [])

/-- `unfreezeProvider(provider)` -/
def unfreezeProvider (provider : Address) : Exec Outcome := do
  onlyOwner m s
  return (s.modifyProvider provider fun i => { i with frozen := false }, [])

/-! ## What a returned call did -/

/-- What both staking functions establish: the checkpoint returned, the amount was not zero, and
`info'` is the sender's record with the new stake. -/
structure Deposits (s : Storage) (m : Msg) (amount : ℕ) (info' : ProviderInfo) : Prop where
  notPaused : s.paused = false
  update : s.updateReward m.timestamp m.sender = .ok (s.updated m.timestamp m.sender)
  amount_ne : amount ≠ 0
  stakedAmount :
    info'.stakedAmount = .ofNat 128 ((s.providers m.sender).stakedAmount.toNat + amount)
  totalUnbonding : info'.totalUnbonding = (s.providers m.sender).totalUnbonding

/-- The storage both staking functions leave, for a new record and new identity claims. -/
def afterStake (amount : ℕ) (info' : ProviderInfo) (claims : Bytes32 → Address) : Storage :=
  { s.updated m.timestamp m.sender with
    providers := update s.providers m.sender info'
    totalStaked := s.totalStaked + amount
    nodeIdToProvider := claims }

variable {s : Storage} {m : Msg} {amount : ℕ} {r : Outcome}

lemma acceptStake_eq_ok {info : ProviderInfo} {newTotal : ℕ}
    (h : s.acceptStake m info newTotal amount = .ok r) :
    r = ({ s with
        providers := update s.providers m.sender (withStake info newTotal)
        totalStaked := s.totalStaked + amount }, [.transferFrom m.sender amount]) := by
  simp only [acceptStake, bind_eq_ok, addW_eq_ok, pure_eq_ok] at h
  obtain ⟨_, ⟨-, rfl⟩, rfl⟩ := h
  rfl

/-- The identity map after the sender moves from one identity to another. -/
def movedClaims (claims : Bytes32 → Address) (sender : Address) (old new : Bytes32) :
    Bytes32 → Address :=
  let released := if old ≠ 0 then update claims old 0 else claims
  if new ≠ 0 then update released new sender else released

end Storage

end Moltbunker.Contracts.Staking
