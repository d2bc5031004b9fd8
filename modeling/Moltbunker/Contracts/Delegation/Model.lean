import Moltbunker.Contracts.Chain

/-!
# `BunkerDelegation`

The contract `contracts/src/BunkerDelegation.sol`, function by function, and what each returned call
did (`Effect`, `exec_effect`). A function returns its new storage and the token calls it makes;
packed fields are stored with their width, `uint256` is `ℕ` with the checks of the compiler.

`delegate` and `toggleAcceptDelegations` ask the staking contract whether a provider is active. Its
answers are an argument of the call here, so that every staking contract is covered. Left out are
the emitted events, the views and the constant `VERSION`; ownership is OpenZeppelin's.
-/

namespace Moltbunker.Contracts.Delegation

open Lib Function

/-! ## Constants -/

/-- `BPS_DENOMINATOR` -/
def bpsDenominator : ℕ := 10000

/-- `MAX_UNBONDING_QUEUE` -/
def maxUnbondingQueue : ℕ := 20

/-! ## Types and storage -/

/-- `struct DelegationInfo` -/
structure DelegationInfo where
  provider : Address
  amount : BitVec 128
  delegatedAt : BitVec 48
  active : Bool
  deriving DecidableEq

/-- `struct ProviderDelegationConfig` -/
structure ProviderDelegationConfig where
  rewardCutBps : BitVec 16
  /-- the reward cut that waits for its timelock -/
  pendingRewardCutBps : BitVec 16
  rewardCutEffectiveAt : BitVec 48
  feeShareBps : BitVec 16
  totalDelegated : BitVec 128
  acceptingDelegations : Bool
  deriving DecidableEq

/-- `struct UnbondingRequest` -/
structure UnbondingRequest where
  amount : BitVec 128
  unlockTime : BitVec 48
  completed : Bool
  deriving DecidableEq

/-- The errors of the contract and of the access modifiers it inherits. -/
inductive DelegationError where
  | zeroAmount
  | zeroAddress
  | providerNotAccepting (provider : Address)
  | alreadyDelegated (delegator : Address)
  | notDelegated (delegator : Address)
  | rewardCutTooHigh (requested maximum : BitVec 16)
  | insufficientDelegation (requested available : ℕ)
  | unbondingNotReady (unlockTime currentTime : ℕ)
  | invalidUnbondingIndex (index queueLength : ℕ)
  | unbondingAlreadyCompleted (index : ℕ)
  | providerNotActive (provider : Address)
  | tooManyUnbondingRequests
  | noPendingRewardCut
  | rewardCutTimelockActive
  | invalidUnbondingPeriod
  | invalidRewardCutCap
  /-- `Ownable`: the caller is not the owner. -/
  | ownableUnauthorizedAccount (account : Address)
  /-- `Pausable`: the contract is paused. -/
  | enforcedPause
  /-- `Pausable`: the contract is not paused. -/
  | expectedPause
  deriving DecidableEq

/-- The storage of the contract. -/
structure Storage where
  unbondingPeriod : ℕ
  maxRewardCutBps : ℕ
  stakingContract : Address
  totalDelegated : ℕ
  delegations : Address → DelegationInfo
  providerConfigs : Address → ProviderDelegationConfig
  unbondingQueues : Address → List UnbondingRequest
  /-- `Pausable` -/
  paused : Bool
  /-- `Ownable` -/
  owner : Address

/-- Calls of this contract. -/
abbrev Exec (α : Type) : Type := Call DelegationError α

/-- What a returned call leaves: the storage, and the token calls it made. -/
abbrev Outcome : Type := Storage × List TokenCall

/-- The storage that the constructor leaves: 7 days of unbonding, at most half of the rewards. -/
def Storage.deployed (stakingContract initialOwner : Address) : Storage where
  unbondingPeriod := 7 * 86400
  maxRewardCutBps := 5000
  stakingContract := stakingContract
  totalDelegated := 0
  delegations _ := ⟨0, 0, 0, false⟩
  providerConfigs _ := ⟨0, 0, 0, 0, 0, false⟩
  unbondingQueues _ := []
  paused := false
  owner := initialOwner

/-- `constructor(_token, _stakingContract, _initialOwner)` -/
def constructor (token stakingContract initialOwner : Address) : Exec Storage := do
  revertIf (token = 0 ∨ initialOwner = 0) .zeroAddress
  return .deployed stakingContract initialOwner

/-! ## Modifiers -/

/-- `onlyOwner` -/
def onlyOwner (m : Msg) (s : Storage) : Exec Unit :=
  revertIf (m.sender ≠ s.owner) (.ownableUnauthorizedAccount m.sender)

/-- `whenNotPaused` -/
def whenNotPaused (s : Storage) : Exec Unit := revertIf (s.paused = true) .enforcedPause

namespace Storage

variable (s : Storage)

/-- Write the configuration of a provider. -/
def setConfig (provider : Address) (config : ProviderDelegationConfig) : Storage :=
  { s with providerConfigs := update s.providerConfigs provider config }

/-! ## Provider configuration -/

variable (m : Msg)

/-- `setDelegationConfig(rewardCutBps, feeShareBps)` -/
def setDelegationConfig (rewardCutBps feeShareBps : BitVec 16) : Exec Outcome := do
  revertIf (rewardCutBps > .ofNat 16 s.maxRewardCutBps)
    (.rewardCutTooHigh rewardCutBps (.ofNat 16 s.maxRewardCutBps))
  let config := s.providerConfigs m.sender
  if rewardCutBps > config.rewardCutBps then
    let effectiveAt ← addW 256 m.timestamp s.unbondingPeriod
    return (s.setConfig m.sender { config with
      pendingRewardCutBps := rewardCutBps
      rewardCutEffectiveAt := .ofNat 48 effectiveAt
      feeShareBps := feeShareBps }, [])
  else
    return (s.setConfig m.sender { config with
      rewardCutBps := rewardCutBps
      feeShareBps := feeShareBps }, [])

/-- `finalizeRewardCut()` -/
def finalizeRewardCut : Exec Outcome := do
  let config := s.providerConfigs m.sender
  revertIf (config.pendingRewardCutBps = 0) .noPendingRewardCut
  revertIf (m.timestamp < config.rewardCutEffectiveAt.toNat) .rewardCutTimelockActive
  return (s.setConfig m.sender { config with
    rewardCutBps := config.pendingRewardCutBps
    pendingRewardCutBps := 0
    rewardCutEffectiveAt := 0 }, [])

/-- `toggleAcceptDelegations(accepting)` -/
def toggleAcceptDelegations (accepting : Bool)
    (isActiveProvider : Address → Bool) : Exec Outcome := do
  revertIf (accepting = true ∧ s.stakingContract ≠ 0 ∧ isActiveProvider m.sender = false)
    (.providerNotActive m.sender)
  return (s.setConfig m.sender { s.providerConfigs m.sender with
    acceptingDelegations := accepting }, [])

/-! ## Delegators -/

/-- `delegate(provider, amount)` -/
def delegate (provider : Address) (amount : ℕ)
    (isActiveProvider : Address → Bool) : Exec Outcome := do
  whenNotPaused s
  revertIf (amount = 0) .zeroAmount
  revertIf (provider = 0) .zeroAddress
  revertIf (s.stakingContract ≠ 0 ∧ isActiveProvider provider = false) (.providerNotActive provider)
  let config := s.providerConfigs provider
  revertIf (config.acceptingDelegations = false) (.providerNotAccepting provider)
  revertIf ((s.delegations m.sender).active = true) (.alreadyDelegated m.sender)
  let delegatedTo ← addB config.totalDelegated (.ofNat 128 amount)
  let totalDelegated ← addW 256 s.totalDelegated amount
  return ({ s with
    delegations := update s.delegations m.sender
      ⟨provider, .ofNat 128 amount, .ofNat 48 m.timestamp, true⟩
    providerConfigs := update s.providerConfigs provider
      { config with totalDelegated := delegatedTo }
    totalDelegated := totalDelegated }, [.transferFrom m.sender amount])

/-- `requestUndelegate(amount)` -/
def requestUndelegate (amount : ℕ) : Exec Outcome := do
  whenNotPaused s
  revertIf (amount = 0) .zeroAmount
  revertIf ((s.unbondingQueues m.sender).length ≥ maxUnbondingQueue) .tooManyUnbondingRequests
  let info := s.delegations m.sender
  revertIf (info.active = false) (.notDelegated m.sender)
  revertIf (amount > info.amount.toNat) (.insufficientDelegation amount info.amount.toNat)
  let left ← subB info.amount (.ofNat 128 amount)
  let config := s.providerConfigs info.provider
  let delegatedTo ← subB config.totalDelegated (.ofNat 128 amount)
  let totalDelegated ← subC s.totalDelegated amount
  let unlockTime ← addW 256 m.timestamp s.unbondingPeriod
  return ({ s with
    delegations := update s.delegations m.sender { info with
      amount := left
      active := if left = 0 then false else info.active }
    providerConfigs := update s.providerConfigs info.provider
      { config with totalDelegated := delegatedTo }
    totalDelegated := totalDelegated
    unbondingQueues := update s.unbondingQueues m.sender
      (s.unbondingQueues m.sender ++ [⟨.ofNat 128 amount, .ofNat 48 unlockTime, false⟩]) }, [])

/-- `completeUndelegate(requestIndex)` -/
def completeUndelegate (requestIndex : ℕ) : Exec Outcome := do
  match (s.unbondingQueues m.sender)[requestIndex]? with
  | none => throw (.error (.invalidUnbondingIndex requestIndex (s.unbondingQueues m.sender).length))
  | some req =>
    revertIf (req.completed = true) (.unbondingAlreadyCompleted requestIndex)
    revertIf (m.timestamp < req.unlockTime.toNat)
      (.unbondingNotReady req.unlockTime.toNat m.timestamp)
    return ({ s with
      unbondingQueues := update s.unbondingQueues m.sender
        ((s.unbondingQueues m.sender).set requestIndex { req with completed := true }) },
      [.transfer m.sender req.amount.toNat])

/-! ## Setters -/

/-- The shape of the owner's setters: `onlyOwner`, the checks of the argument, one write. -/
def adminWrite (m : Msg) (s : Storage) (checks : Exec Unit) (s' : Storage) : Exec Outcome := do
  onlyOwner m s
  checks
  return (s', [])

/-- `setStakingContract(_stakingContract)` -/
def setStakingContract (stakingContract : Address) : Exec Outcome :=
  adminWrite m s (return ()) { s with stakingContract := stakingContract }

/-- `setUnbondingPeriod(newPeriod)`: one minute to 30 days. -/
def setUnbondingPeriod (newPeriod : ℕ) : Exec Outcome :=
  adminWrite m s (revertIf (newPeriod < 60 ∨ newPeriod > 30 * 86400) .invalidUnbondingPeriod)
    { s with unbondingPeriod := newPeriod }

/-- `setMaxRewardCutBps(newMax)` -/
def setMaxRewardCutBps (newMax : BitVec 16) : Exec Outcome :=
  adminWrite m s (revertIf (newMax = 0 ∨ newMax > .ofNat 16 bpsDenominator) .invalidRewardCutCap)
    { s with maxRewardCutBps := newMax.toNat }

/-- `pause()` -/
def pause : Exec Outcome :=
  adminWrite m s (whenNotPaused s) { s with paused := true }

/-- `unpause()` -/
def unpause : Exec Outcome :=
  adminWrite m s (revertIf (s.paused = false) .expectedPause) { s with paused := false }

end Storage

/-! ## Calls -/

/-- The external state-changing functions of the contract, with their arguments. -/
inductive ExtCall where
  | setDelegationConfig (rewardCutBps feeShareBps : BitVec 16)
  | finalizeRewardCut
  | toggleAcceptDelegations (accepting : Bool) (isActiveProvider : Address → Bool)
  | delegate (provider : Address) (amount : ℕ) (isActiveProvider : Address → Bool)
  | requestUndelegate (amount : ℕ)
  | completeUndelegate (requestIndex : ℕ)
  | setStakingContract (stakingContract : Address)
  | setUnbondingPeriod (newPeriod : ℕ)
  | setMaxRewardCutBps (newMax : BitVec 16)
  | pause
  | unpause

/-- Run one external function. -/
def exec (m : Msg) (s : Storage) : ExtCall → Exec Outcome
  | .setDelegationConfig rewardCutBps feeShareBps =>
    s.setDelegationConfig m rewardCutBps feeShareBps
  | .finalizeRewardCut => s.finalizeRewardCut m
  | .toggleAcceptDelegations accepting isActiveProvider =>
    s.toggleAcceptDelegations m accepting isActiveProvider
  | .delegate provider amount isActiveProvider => s.delegate m provider amount isActiveProvider
  | .requestUndelegate amount => s.requestUndelegate m amount
  | .completeUndelegate requestIndex => s.completeUndelegate m requestIndex
  | .setStakingContract stakingContract => s.setStakingContract m stakingContract
  | .setUnbondingPeriod newPeriod => s.setUnbondingPeriod m newPeriod
  | .setMaxRewardCutBps newMax => s.setMaxRewardCutBps m newMax
  | .pause => s.pause m
  | .unpause => s.unpause m

/-! ## What a returned call did -/

/-- The calls of the owner. -/
def ExtCall.admin : ExtCall → Bool
  | .setStakingContract _ => true
  | .setUnbondingPeriod _ => true
  | .setMaxRewardCutBps _ => true
  | .pause => true
  | .unpause => true
  | _ => false

/-- What a returned call did. -/
inductive Effect (m : Msg) (s : Storage) : ExtCall → Outcome → Prop
  | scheduled {cut share : BitVec 16} (hmax : cut ≤ .ofNat 16 s.maxRewardCutBps)
      (hraise : (s.providerConfigs m.sender).rewardCutBps < cut) :
      Effect m s (.setDelegationConfig cut share)
        (s.setConfig m.sender { s.providerConfigs m.sender with
          pendingRewardCutBps := cut
          rewardCutEffectiveAt := .ofNat 48 (m.timestamp + s.unbondingPeriod)
          feeShareBps := share }, [])
  | lowered {cut share : BitVec 16} (hlower : cut ≤ (s.providerConfigs m.sender).rewardCutBps) :
      Effect m s (.setDelegationConfig cut share)
        (s.setConfig m.sender { s.providerConfigs m.sender with
          rewardCutBps := cut
          feeShareBps := share }, [])
  | finalized (hpending : (s.providerConfigs m.sender).pendingRewardCutBps ≠ 0)
      (htime : (s.providerConfigs m.sender).rewardCutEffectiveAt.toNat ≤ m.timestamp) :
      Effect m s .finalizeRewardCut
        (s.setConfig m.sender { s.providerConfigs m.sender with
          rewardCutBps := (s.providerConfigs m.sender).pendingRewardCutBps
          pendingRewardCutBps := 0
          rewardCutEffectiveAt := 0 }, [])
  | toggled {accepting : Bool} {isActiveProvider : Address → Bool} :
      Effect m s (.toggleAcceptDelegations accepting isActiveProvider)
        (s.setConfig m.sender { s.providerConfigs m.sender with
          acceptingDelegations := accepting }, [])
  | delegated {provider : Address} {amount : ℕ} {isActiveProvider : Address → Bool}
      {delegatedTo : BitVec 128} (hinactive : (s.delegations m.sender).active = false)
      (hdelegatedTo : delegatedTo.toNat = (s.providerConfigs provider).totalDelegated.toNat +
        (BitVec.ofNat 128 amount).toNat) :
      Effect m s (.delegate provider amount isActiveProvider)
        ({ s with
          delegations := update s.delegations m.sender
            ⟨provider, .ofNat 128 amount, .ofNat 48 m.timestamp, true⟩
          providerConfigs := update s.providerConfigs provider
            { s.providerConfigs provider with totalDelegated := delegatedTo }
          totalDelegated := s.totalDelegated + amount }, [.transferFrom m.sender amount])
  | undelegated {amount : ℕ} {left delegatedTo : BitVec 128} {unlockTime : BitVec 48}
      (hactive : (s.delegations m.sender).active = true)
      (hleft : left.toNat + amount = (s.delegations m.sender).amount.toNat)
      (hdelegatedTo : delegatedTo.toNat + amount =
        (s.providerConfigs (s.delegations m.sender).provider).totalDelegated.toNat)
      (htotal : amount ≤ s.totalDelegated) :
      Effect m s (.requestUndelegate amount)
        ({ s with
          delegations := update s.delegations m.sender { s.delegations m.sender with
            amount := left
            active := if left = 0 then false else (s.delegations m.sender).active }
          providerConfigs := update s.providerConfigs (s.delegations m.sender).provider
            { s.providerConfigs (s.delegations m.sender).provider with
              totalDelegated := delegatedTo }
          totalDelegated := s.totalDelegated - amount
          unbondingQueues := update s.unbondingQueues m.sender
            (s.unbondingQueues m.sender ++ [⟨.ofNat 128 amount, unlockTime, false⟩]) }, [])
  | completed {i : ℕ} {req : UnbondingRequest} (hreq : (s.unbondingQueues m.sender)[i]? = some req)
      (hopen : req.completed = false) (htime : req.unlockTime.toNat ≤ m.timestamp) :
      Effect m s (.completeUndelegate i)
        ({ s with
          unbondingQueues := update s.unbondingQueues m.sender
            ((s.unbondingQueues m.sender).set i { req with completed := true }) },
          [.transfer m.sender req.amount.toNat])
  | admin {c : ExtCall} {s' : Storage} (hc : c.admin = true)
      (hdelegations : s'.delegations = s.delegations)
      (hconfigs : s'.providerConfigs = s.providerConfigs)
      (hqueues : s'.unbondingQueues = s.unbondingQueues)
      (htotal : s'.totalDelegated = s.totalDelegated)
      (hmax : s'.maxRewardCutBps = s.maxRewardCutBps ∨
        ∃ newMax, c = .setMaxRewardCutBps newMax ∧ s'.maxRewardCutBps = newMax.toNat) :
      Effect m s c (s', [])

variable {m : Msg} {s : Storage} {r : Outcome} {amount : ℕ}

lemma setDelegationConfig_effect {cut share : BitVec 16}
    (h : s.setDelegationConfig m cut share = .ok r) :
    Effect m s (.setDelegationConfig cut share) r := by
  simp only [Storage.setDelegationConfig, bind_eq_ok, revertIf_eq_ok] at h
  obtain ⟨_, hmax, h⟩ := h
  split at h
  · next hraise =>
    simp only [bind_eq_ok, addW_eq_ok, pure_eq_ok] at h
    obtain ⟨_, ⟨-, rfl⟩, rfl⟩ := h
    exact .scheduled (BitVec.not_lt.mp hmax) hraise
  · next hraise =>
    cases pure_eq_ok.mp h
    exact .lowered (BitVec.not_lt.mp hraise)

lemma delegate_effect {provider : Address} {isActiveProvider : Address → Bool}
    (h : s.delegate m provider amount isActiveProvider = .ok r) :
    Effect m s (.delegate provider amount isActiveProvider) r := by
  simp only [Storage.delegate, bind_eq_ok, revertIf_eq_ok, addW_eq_ok, pure_eq_ok] at h
  obtain ⟨_, -, _, -, _, -, _, -, _, -, _, hinactive, delegatedTo, hadd, _, ⟨-, rfl⟩, rfl⟩ := h
  exact .delegated (Bool.not_eq_true _ ▸ hinactive) (addB_eq_ok hadd).2

lemma requestUndelegate_effect (h : s.requestUndelegate m amount = .ok r) :
    Effect m s (.requestUndelegate amount) r := by
  simp only [Storage.requestUndelegate, bind_eq_ok, revertIf_eq_ok, addW_eq_ok, subC_eq_ok,
    pure_eq_ok] at h
  obtain ⟨_, -, _, -, _, -, _, hactive, _, hle, left, hleft, delegatedTo, hto, _, ⟨htotal, rfl⟩, _,
    ⟨-, rfl⟩, rfl⟩ := h
  have hamount : (BitVec.ofNat 128 amount).toNat = amount :=
    toNat_ofNat_eq_iff.mpr ((not_lt.mp hle).trans_lt (s.delegations m.sender).amount.isLt)
  obtain ⟨-, hle₁, hleft⟩ := subB_eq_ok hleft
  obtain ⟨-, hle₂, hto⟩ := subB_eq_ok hto
  exact .undelegated (Bool.not_eq_false _ ▸ hactive) (by omega) (by omega) htotal

lemma completeUndelegate_effect {i : ℕ} (h : s.completeUndelegate m i = .ok r) :
    Effect m s (.completeUndelegate i) r := by
  unfold Storage.completeUndelegate at h
  split at h
  · cases h
  · next req hreq =>
    simp only [bind_eq_ok, revertIf_eq_ok, pure_eq_ok] at h
    obtain ⟨_, hopen, _, htime, rfl⟩ := h
    exact .completed hreq (Bool.not_eq_true _ ▸ hopen) (not_lt.mp htime)

lemma adminWrite_eq_ok {s' : Storage} {checks : Exec Unit}
    (h : Storage.adminWrite m s checks s' = .ok r) : r = (s', []) := by
  simp only [Storage.adminWrite, bind_eq_ok, pure_eq_ok] at h
  obtain ⟨_, -, _, -, rfl⟩ := h
  rfl

/-- **What a returned call did.** -/
theorem exec_effect {c : ExtCall} (h : exec m s c = .ok r) : Effect m s c r := by
  cases c with
  | setDelegationConfig cut share => exact setDelegationConfig_effect h
  | finalizeRewardCut =>
    simp only [exec, Storage.finalizeRewardCut, bind_eq_ok, revertIf_eq_ok, pure_eq_ok] at h
    obtain ⟨_, hpending, _, htime, rfl⟩ := h
    exact .finalized hpending (not_lt.mp htime)
  | toggleAcceptDelegations accepting isActive =>
    simp only [exec, Storage.toggleAcceptDelegations, bind_eq_ok, pure_eq_ok] at h
    obtain ⟨_, -, rfl⟩ := h
    exact .toggled
  | delegate provider amount isActive => exact delegate_effect h
  | requestUndelegate amount => exact requestUndelegate_effect h
  | completeUndelegate i => exact completeUndelegate_effect h
  | setMaxRewardCutBps newMax =>
    cases adminWrite_eq_ok h
    exact .admin rfl rfl rfl rfl rfl (.inr ⟨newMax, rfl, rfl⟩)
  | _ =>
    cases adminWrite_eq_ok h
    exact .admin rfl rfl rfl rfl rfl (.inl rfl)

/-! ## On the chain -/

/-- The contract; of roles it has the owner only. -/
def contract : Chain.Contract Storage ExtCall Address DelegationError where
  Initial s := ∃ token stakingContract initialOwner,
    constructor token stakingContract initialOwner = .ok s
  exec := exec
  setRoles s owner := { s with owner := owner }
  pulls_sender h := by
    intro holder v hmem
    cases exec_effect h with
    | delegated _ _ =>
      rw [List.mem_singleton] at hmem
      exact (TokenCall.transferFrom.inj hmem).1
    | completed _ _ _ =>
      rw [List.mem_singleton] at hmem
      cases hmem
    | _ => cases hmem

/-- The contract with its token and the clock. -/
abbrev World : Type := Chain.World Storage supplyCap

/-- What can happen next. -/
abbrev Action : Type := Chain.Action ExtCall Address

/-- The storage of a deployment. -/
lemma storage_deployed {self : Address} {w : World} (hw : Chain.Deployed contract self w) :
    ∃ stakingContract owner, w.storage = .deployed stakingContract owner := by
  obtain ⟨_, stakingContract, owner, hs⟩ := hw.initial
  simp only [constructor, bind_eq_ok, pure_eq_ok] at hs
  obtain ⟨_, -, hs⟩ := hs
  exact ⟨stakingContract, owner, hs.symm⟩

end Moltbunker.Contracts.Delegation
