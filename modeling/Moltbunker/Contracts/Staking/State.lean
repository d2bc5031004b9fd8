import Moltbunker.Contracts.Token

/-!
# `BunkerStaking`: storage

The types and the storage of `contracts/src/BunkerStaking.sol`, field by field and under the
source's names, and the state its constructor leaves.

A `uint256` word is a natural number and its arithmetic is checked where it is done; the narrower
words are stored with their width (`BitVec 128` for `uint128`, and so on), so that no record can
hold a value the contract could not, and a cast `uint128(x)` is `BitVec.ofNat 128 x`. A mapping is a
function and an array is a list with the entry of index `0` first. Left out are the fields that no
function reads back (`TierConfig.maxConcurrentJobs`, `priorityQueue`, `governance`), the emitted
events and the constant `VERSION`.

Ownership and roles are OpenZeppelin's. The model keeps what the modifiers read, `owner` and the
holders of `SLASHER_ROLE`; how these change is not the contract's own code, and the runs of
`World.lean` let them change in any way between two calls.
-/

namespace Moltbunker.Contracts.Staking

open Lib

/-! ## Constants -/

/-- `BENEFICIARY_TIMELOCK`: 24 hours. -/
def beneficiaryTimelock : ℕ := 24 * 3600

/-- `BPS_DENOMINATOR` -/
def bpsDenominator : ℕ := 10000

/-- `MAX_EMISSION_MULTIPLIER` -/
def maxEmissionMultiplier : ℕ := 50000

/-- The scale `1e18` of the reward-per-token index. -/
def indexScale : ℕ := 10 ^ 18

/-! ## Types -/

/-- `enum Tier` -/
inductive Tier where
  | none | starter | bronze | silver | gold | platinum
  deriving DecidableEq, Repr

/-- `enum SlashReason` -/
inductive SlashReason where
  | none | downtime | jobAbandonment | securityViolation | fraud | slaViolation | dataLoss
  deriving DecidableEq, Repr

/-- `struct TierConfig` -/
structure TierConfig where
  minStake : ℕ
  rewardMultiplierBps : BitVec 16
  deriving DecidableEq

/-- `struct UnstakeRequest` -/
structure UnstakeRequest where
  amount : BitVec 128
  unlockTime : BitVec 48
  completed : Bool
  deriving DecidableEq

/-- `struct PendingBeneficiary` -/
structure PendingBeneficiary where
  newBeneficiary : Address
  effectiveTime : BitVec 48
  deriving DecidableEq

/-- `struct SlashProposal` -/
structure SlashProposal where
  provider : Address
  amount : ℕ
  reason : String
  proposedAt : ℕ
  executed : Bool
  appealed : Bool
  resolved : Bool
  slashReason : SlashReason
  /-- `appealWindow` at proposal time -/
  appealWindowSnapshot : ℕ
  /-- `slashBurnBps` at proposal time -/
  slashBurnBpsSnapshot : BitVec 16
  deriving DecidableEq

/-- `struct ProviderInfo` -/
structure ProviderInfo where
  stakedAmount : BitVec 128
  totalUnbonding : BitVec 128
  beneficiary : Address
  registeredAt : BitVec 48
  active : Bool
  nodeId : Bytes32
  region : Bytes32
  capabilities : BitVec 64
  frozen : Bool
  deriving DecidableEq

/-- `struct VestedReward` -/
structure VestedReward where
  totalAmount : BitVec 128
  releasedAmount : BitVec 128
  vestingStart : BitVec 48
  deriving DecidableEq

/-- The errors of the contract and of the access modifiers it inherits. -/
inductive StakingError where
  | zeroAmount
  | belowMinimumStake (amount minimum : ℕ)
  | insufficientStake (requested available : ℕ)
  | unbondingNotReady (unlockTime currentTime : ℕ)
  | unstakeAlreadyCompleted (index : ℕ)
  | invalidUnstakeIndex (index queueLength : ℕ)
  | providerNotActive (provider : Address)
  | beneficiaryTimelockNotElapsed (effectiveTime currentTime : ℕ)
  | noPendingBeneficiaryChange (provider : Address)
  | zeroAddress
  | insufficientSlashableBalance (requested available : ℕ)
  | noRewardsToClaimError
  | rewardDurationNotFinished
  | rewardsDurationZero
  | rewardRateTooHigh (rewardRate balance : ℕ)
  | invalidProposalId (proposalId : ℕ)
  | proposalAlreadyExecuted (proposalId : ℕ)
  | proposalAppealed (proposalId : ℕ)
  | appealWindowNotElapsed (proposalId windowEnd : ℕ)
  | appealWindowElapsed (proposalId : ℕ)
  | notProposalProvider (proposalId : ℕ) (caller : Address)
  | proposalAlreadyAppealed (proposalId : ℕ)
  | proposalNotAppealed (proposalId : ℕ)
  | proposalAlreadyResolved (proposalId : ℕ)
  | cannotConfigureNoneTier
  | tierOrderViolation (tier : Tier) (minStake : ℕ) (adjacentTier : Tier) (adjacentMinStake : ℕ)
  | nodeIdAlreadyClaimed (nodeId : Bytes32)
  | providerIsFrozen (provider : Address)
  | invalidSlashReason
  | invalidImmediateReleaseBps (bps : ℕ)
  | noVestedRewardsClaimable
  | invalidSlashPercentage (bps : ℕ)
  | invalidEmissionMultiplier (multiplier : ℕ)
  | invalidVestingPeriod
  | tooManyUnstakeRequests
  | useUpdateIdentity
  | multiplierTooLow
  | multiplierTooHigh
  | invalidMultiplierCap
  | invalidUnbondingPeriod
  | invalidFeeSplit
  | invalidAppealWindow
  | slashingNotEnabled
  /-- `Ownable`: the caller is not the owner. -/
  | ownableUnauthorizedAccount (account : Address)
  /-- `AccessControl`: the caller does not hold `SLASHER_ROLE`. -/
  | accessControlUnauthorizedAccount (account : Address)
  /-- `Pausable`: the contract is paused. -/
  | enforcedPause
  /-- `Pausable`: the contract is not paused. -/
  | expectedPause
  deriving DecidableEq

/-! ## Storage -/

/-- The storage of the contract. -/
structure Storage where
  unbondingPeriod : ℕ
  slashBurnBps : ℕ
  slashTreasuryBps : ℕ
  maxTierMultiplierBps : ℕ
  appealWindow : ℕ
  treasury : Address
  totalStaked : ℕ
  totalUnbonding : ℕ
  providers : Address → ProviderInfo
  unstakeQueues : Address → List UnstakeRequest
  pendingBeneficiaries : Address → PendingBeneficiary
  tierConfigs : Tier → TierConfig
  rewardsDuration : ℕ
  rewardRate : ℕ
  periodFinish : ℕ
  lastUpdateTime : ℕ
  rewardPerTokenStored : ℕ
  userRewardPerTokenPaid : Address → ℕ
  rewards : Address → ℕ
  slashProposalCount : ℕ
  slashProposals : ℕ → SlashProposal
  nodeIdToProvider : Bytes32 → Address
  slashPercentageBps : SlashReason → BitVec 16
  slashingEnabled : Bool
  vestingPeriod : ℕ
  immediateReleaseBps : ℕ
  vestedRewards : Address → List VestedReward
  totalComputeHoursReported : ℕ
  emissionMultiplier : ℕ
  maxEmissionRate : ℕ
  /-- `Pausable` -/
  paused : Bool
  /-- `Ownable` -/
  owner : Address
  /-- `hasRole(SLASHER_ROLE, ·)` -/
  isSlasher : Address → Bool

/-- The zero value of a provider's record. -/
def ProviderInfo.zero : ProviderInfo where
  stakedAmount := 0
  totalUnbonding := 0
  beneficiary := 0
  registeredAt := 0
  active := false
  nodeId := 0
  region := 0
  capabilities := 0
  frozen := false

/-- The zero value of a slash proposal. -/
def SlashProposal.zero : SlashProposal where
  provider := 0
  amount := 0
  reason := ""
  proposedAt := 0
  executed := false
  appealed := false
  resolved := false
  slashReason := .none
  appealWindowSnapshot := 0
  slashBurnBpsSnapshot := 0

/-- The tier table set by the constructor. -/
def defaultTierConfigs : Tier → TierConfig
  | .none => ⟨0, 0⟩
  | .starter => ⟨1000000 * 10 ^ 18, 10000⟩
  | .bronze => ⟨5000000 * 10 ^ 18, 10000⟩
  | .silver => ⟨10000000 * 10 ^ 18, 10500⟩
  | .gold => ⟨100000000 * 10 ^ 18, 11000⟩
  | .platinum => ⟨1000000000 * 10 ^ 18, 12000⟩

/-- The slash percentages set by the constructor. -/
def defaultSlashPercentageBps : SlashReason → BitVec 16
  | .none => 0
  | .downtime => 100
  | .jobAbandonment => 500
  | .slaViolation => 1000
  | .dataLoss => 2500
  | .securityViolation => 5000
  | .fraud => 10000

/-- The storage after the constructor ran for `_treasury` and `_initialOwner`. No account holds
`SLASHER_ROLE` yet. -/
def Storage.deployed (treasury initialOwner : Address) : Storage where
  unbondingPeriod := 14 * 86400
  slashBurnBps := 8000
  slashTreasuryBps := 2000
  maxTierMultiplierBps := 12000
  appealWindow := 48 * 3600
  treasury := treasury
  totalStaked := 0
  totalUnbonding := 0
  providers _ := .zero
  unstakeQueues _ := []
  pendingBeneficiaries _ := ⟨0, 0⟩
  tierConfigs := defaultTierConfigs
  rewardsDuration := 7 * 86400
  rewardRate := 0
  periodFinish := 0
  lastUpdateTime := 0
  rewardPerTokenStored := 0
  userRewardPerTokenPaid _ := 0
  rewards _ := 0
  slashProposalCount := 0
  slashProposals _ := .zero
  nodeIdToProvider _ := 0
  slashPercentageBps := defaultSlashPercentageBps
  slashingEnabled := false
  vestingPeriod := 90 * 86400
  immediateReleaseBps := 2500
  vestedRewards _ := []
  totalComputeHoursReported := 0
  emissionMultiplier := 10000
  maxEmissionRate := 0
  paused := false
  owner := initialOwner
  isSlasher _ := false

/-- The constructor: rejects zero addresses. -/
def constructor (token treasury initialOwner : Address) : Call StakingError Storage := do
  revertIf (token = 0 ∨ treasury = 0 ∨ initialOwner = 0) .zeroAddress
  return .deployed treasury initialOwner

/-! ## Modifiers -/

/-- Calls of the contract, which may revert with one of its errors. -/
abbrev Exec (α : Type) : Type := Call StakingError α

/-- What an external function returns: the new storage and the token calls it made. -/
abbrev Outcome : Type := Storage × List TokenCall

/-- `modifier onlyOwner` -/
def onlyOwner (m : Msg) (s : Storage) : Exec Unit :=
  revertIf (m.sender ≠ s.owner) (.ownableUnauthorizedAccount m.sender)

/-- `modifier onlyRole(SLASHER_ROLE)` -/
def onlySlasher (m : Msg) (s : Storage) : Exec Unit :=
  revertIf (s.isSlasher m.sender = false) (.accessControlUnauthorizedAccount m.sender)

/-- `modifier whenNotPaused` -/
def whenNotPaused (s : Storage) : Exec Unit := revertIf (s.paused = true) .enforcedPause

variable {s : Storage} {u : Unit}

lemma onlyOwner_eq_ok {m : Msg} : onlyOwner m s = .ok u ↔ m.sender = s.owner := by
  unfold onlyOwner
  rw [revertIf_eq_ok, not_not]

lemma onlySlasher_eq_ok {m : Msg} : onlySlasher m s = .ok u ↔ s.isSlasher m.sender = true := by
  unfold onlySlasher
  rw [revertIf_eq_ok, Bool.not_eq_false]

lemma whenNotPaused_eq_ok : whenNotPaused s = .ok u ↔ s.paused = false := by
  unfold whenNotPaused
  rw [revertIf_eq_ok, Bool.not_eq_true]

end Moltbunker.Contracts.Staking
