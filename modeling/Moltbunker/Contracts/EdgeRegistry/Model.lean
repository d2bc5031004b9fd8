import Moltbunker.Contracts.Staking.Proposal

/-!
# `BunkerEdgeRegistry`

The contract `contracts/src/BunkerEdgeRegistry.sol`, function by function. It reads the staking
contract through `getProviderInfo`, which returns a provider's record as it is stored, and changes
it only by calling `slash`: a function returns its new storage together with the slashes it asks
for (`SlashCall`), and the runs of `World.lean` execute them in the staking contract.

Words are represented as in the staking contract. Left out are the emitted events, the views and
the constant `VERSION`; ownership and roles are OpenZeppelin's.
-/

namespace Moltbunker.Contracts.EdgeRegistry

open Lib Function

/-! ## Constants -/

/-- `MIN_EDGE_STAKE_FLOOR` -/
def minEdgeStakeFloor : ℕ := 1000000 * 10 ^ 18

/-- `MIN_EDGE_STAKE_CEILING` -/
def minEdgeStakeCeiling : ℕ := 1000000000 * 10 ^ 18

/-- `APPEAL_WINDOW_FLOOR`: 12 hours. -/
def appealWindowFloor : ℕ := 12 * 3600

/-- `APPEAL_WINDOW_CEILING`: 14 days. -/
def appealWindowCeiling : ℕ := 14 * 86400

/-! ## Types and storage -/

/-- `struct EdgeProviderInfo` -/
structure EdgeProviderInfo where
  nodeId : Bytes32
  region : Bytes32
  registeredAt : BitVec 48
  active : Bool
  frozen : Bool
  endpointURL : String
  tlsPubkeyHash : List (BitVec 8)
  deriving DecidableEq

/-- `struct EdgeSlashProposal` -/
structure EdgeSlashProposal where
  provider : Address
  amount : BitVec 128
  proposedAt : BitVec 48
  executed : Bool
  appealed : Bool
  resolved : Bool
  /-- `appealWindow` at proposal time -/
  appealWindowSnapshot : ℕ
  reason : String
  deriving DecidableEq

/-- The errors of the contract and of the access modifiers it inherits. -/
inductive EdgeError where
  | zeroAddress
  | zeroAmount
  | insufficientStake (actual required : ℕ)
  | insufficientSlashableBalance (amount slashable : ℕ)
  | alreadyRegistered (provider : Address)
  | notActive (provider : Address)
  | nodeIdAlreadyClaimed (nodeId : Bytes32)
  | providerIsFrozen (provider : Address)
  | slashingNotEnabled
  | invalidProposalId (proposalId : ℕ)
  | proposalAlreadyExecuted (proposalId : ℕ)
  | appealWindowNotElapsed (proposalId : ℕ)
  | appealWindowElapsed (proposalId : ℕ)
  | proposalAppealed (proposalId : ℕ)
  | proposalNotAppealed (proposalId : ℕ)
  | proposalAlreadyResolved (proposalId : ℕ)
  | notProposalProvider (proposalId : ℕ) (caller : Address)
  | invalidMinStake (minStake : ℕ)
  | invalidAppealWindow
  /-- `Ownable`: the caller is not the owner. -/
  | ownableUnauthorizedAccount (account : Address)
  /-- `AccessControl`: the caller does not hold `SLASHER_ROLE`. -/
  | accessControlUnauthorizedAccount (account : Address)
  /-- `Pausable`: the contract is paused. -/
  | enforcedPause
  /-- `Pausable`: the contract is not paused. -/
  | expectedPause
  deriving DecidableEq

/-- The storage of the contract. -/
structure Storage where
  minStakeForEdge : ℕ
  appealWindow : ℕ
  slashingEnabled : Bool
  edgeProviders : Address → EdgeProviderInfo
  nodeIdToEdgeProvider : Bytes32 → Address
  slashProposalCount : ℕ
  slashProposals : ℕ → EdgeSlashProposal
  /-- `Pausable` -/
  paused : Bool
  /-- `Ownable` -/
  owner : Address
  /-- `hasRole(SLASHER_ROLE, ·)` -/
  isSlasher : Address → Bool

/-- The zero value of an edge provider's record. -/
def EdgeProviderInfo.zero : EdgeProviderInfo where
  nodeId := 0
  region := 0
  registeredAt := 0
  active := false
  frozen := false
  endpointURL := ""
  tlsPubkeyHash := []

/-- The zero value of a proposal. -/
def EdgeSlashProposal.zero : EdgeSlashProposal where
  provider := 0
  amount := 0
  proposedAt := 0
  executed := false
  appealed := false
  resolved := false
  appealWindowSnapshot := 0
  reason := ""

/-- The storage after the constructor ran for `_initialOwner`. -/
def Storage.deployed (initialOwner : Address) : Storage where
  minStakeForEdge := 50000000 * 10 ^ 18
  appealWindow := 48 * 3600
  slashingEnabled := false
  edgeProviders _ := .zero
  nodeIdToEdgeProvider _ := 0
  slashProposalCount := 0
  slashProposals _ := .zero
  paused := false
  owner := initialOwner
  isSlasher _ := false

/-- Calls of the contract, which may revert with one of its errors. -/
abbrev Exec (α : Type) : Type := Call EdgeError α

/-- `stakingContract.slash(provider, amount)` -/
structure SlashCall where
  provider : Address
  amount : ℕ
  deriving DecidableEq

/-- What an external function returns: the new storage and the slashes it asked for. -/
abbrev Outcome : Type := Storage × List SlashCall

/-- The constructor: rejects zero addresses. -/
def constructor (stakingContract initialOwner : Address) : Exec Storage := do
  revertIf (stakingContract = 0 ∨ initialOwner = 0) .zeroAddress
  return .deployed initialOwner

/-! ## Modifiers -/

/-- `modifier onlyOwner` -/
def onlyOwner (m : Msg) (s : Storage) : Exec Unit :=
  revertIf (m.sender ≠ s.owner) (.ownableUnauthorizedAccount m.sender)

/-- `modifier onlyRole(SLASHER_ROLE)` -/
def onlySlasher (m : Msg) (s : Storage) : Exec Unit :=
  revertIf (s.isSlasher m.sender = false) (.accessControlUnauthorizedAccount m.sender)

/-- `modifier whenNotPaused` -/
def whenNotPaused (s : Storage) : Exec Unit := revertIf (s.paused = true) .enforcedPause

lemma onlyOwner_eq_ok {m : Msg} {s : Storage} {u : Unit} :
    onlyOwner m s = .ok u ↔ m.sender = s.owner := by
  unfold onlyOwner
  rw [revertIf_eq_ok, not_not]

lemma onlySlasher_eq_ok {m : Msg} {s : Storage} {u : Unit} :
    onlySlasher m s = .ok u ↔ s.isSlasher m.sender = true := by
  unfold onlySlasher
  rw [revertIf_eq_ok, Bool.not_eq_false]

namespace Storage

variable (s : Storage)

/-- Write to one edge provider's record. -/
def modifyProvider (p : Address) (f : EdgeProviderInfo → EdgeProviderInfo) : Storage :=
  { s with edgeProviders := update s.edgeProviders p (f (s.edgeProviders p)) }

/-- Write to one proposal. -/
def modifyProposal (id : ℕ) (f : EdgeSlashProposal → EdgeSlashProposal) : Storage :=
  { s with slashProposals := update s.slashProposals id (f (s.slashProposals id)) }

/-! ## Registration -/

/-- `_requireMinStake(provider)`, with the staking contract's storage. -/
def requireMinStake (staking : Staking.Storage) (provider : Address) : Exec Unit :=
  let stakedAmount := (staking.providers provider).stakedAmount.toNat
  revertIf (stakedAmount < s.minStakeForEdge) (.insufficientStake stakedAmount s.minStakeForEdge)

variable (m : Msg)

/-- `registerEdgeProvider(nodeId, region, endpointURL, tlsPubkeyHash)` -/
def registerEdgeProvider (staking : Staking.Storage)
    (nodeId region : Bytes32) (endpointURL : String) (tlsPubkeyHash : List (BitVec 8)) :
    Exec Outcome := do
  whenNotPaused s
  let info := s.edgeProviders m.sender
  revertIf (info.active = true) (.alreadyRegistered m.sender)
  revertIf (info.frozen = true) (.providerIsFrozen m.sender)
  revertIf (nodeId ≠ 0 ∧ s.nodeIdToEdgeProvider nodeId ≠ 0) (.nodeIdAlreadyClaimed nodeId)
  s.requireMinStake staking m.sender
  let s' := s.modifyProvider m.sender fun i => { i with
    nodeId := nodeId
    region := region
    endpointURL := endpointURL
    tlsPubkeyHash := tlsPubkeyHash
    registeredAt := .ofNat 48 m.timestamp
    active := true }
  if nodeId ≠ 0 then
    return ({ s' with
      nodeIdToEdgeProvider := update s'.nodeIdToEdgeProvider nodeId m.sender }, [])
  else
    return (s', [])

/-- `deregisterEdgeProvider()`; `frozen` is kept. -/
def deregisterEdgeProvider : Exec Outcome := do
  let info := s.edgeProviders m.sender
  revertIf (info.active = false) (.notActive m.sender)
  let s' := s.modifyProvider m.sender fun i => { i with
    active := false
    nodeId := 0
    region := 0
    endpointURL := ""
    tlsPubkeyHash := [] }
  if info.nodeId ≠ 0 then
    return ({ s' with
      nodeIdToEdgeProvider := update s'.nodeIdToEdgeProvider info.nodeId 0 }, [])
  else
    return (s', [])

/-- `updateEndpoint(endpointURL, tlsPubkeyHash)` -/
def updateEndpoint (endpointURL : String) (tlsPubkeyHash : List (BitVec 8)) : Exec Outcome := do
  let info := s.edgeProviders m.sender
  revertIf (info.active = false) (.notActive m.sender)
  revertIf (info.frozen = true) (.providerIsFrozen m.sender)
  return (s.modifyProvider m.sender fun i => { i with
    endpointURL := endpointURL
    tlsPubkeyHash := tlsPubkeyHash }, [])

/-- `freezeEdgeProvider(provider)` -/
def freezeEdgeProvider (provider : Address) : Exec Outcome := do
  onlySlasher m s
  revertIf ((s.edgeProviders provider).active = false) (.notActive provider)
  return (s.modifyProvider provider fun i => { i with frozen := true }, [])

/-- `unfreezeEdgeProvider(provider)` -/
def unfreezeEdgeProvider (provider : Address) : Exec Outcome := do
  onlyOwner m s
  return (s.modifyProvider provider fun i => { i with frozen := false }, [])

/-! ## Slash proposals -/

/-- The record a proposal is created with. -/
def newProposal (provider : Address) (amount : BitVec 128)
    (reason : String) : EdgeSlashProposal where
  provider := provider
  amount := amount
  proposedAt := .ofNat 48 m.timestamp
  executed := false
  appealed := false
  resolved := false
  appealWindowSnapshot := s.appealWindow
  reason := reason

/-- `proposeEdgeSlash(provider, amount, reason)` -/
def proposeEdgeSlash (staking : Staking.Storage) (provider : Address)
    (amount : BitVec 128) (reason : String) : Exec Outcome := do
  onlySlasher m s
  revertIf (provider = 0) .zeroAddress
  revertIf (amount = 0) .zeroAmount
  revertIf ((s.edgeProviders provider).active = false) (.notActive provider)
  let slashable ← addW 256 (staking.providers provider).stakedAmount.toNat
    (staking.providers provider).totalUnbonding.toNat
  revertIf (amount.toNat > slashable) (.insufficientSlashableBalance amount.toNat slashable)
  let count ← addW 256 s.slashProposalCount 1
  return ({ s with
    slashProposalCount := count
    slashProposals := update s.slashProposals s.slashProposalCount
      (s.newProposal m provider amount reason) }, [])

/-- `_getValidProposal(proposalId)` -/
def getValidProposal (proposalId : ℕ) : Exec EdgeSlashProposal := do
  revertIf (proposalId ≥ s.slashProposalCount) (.invalidProposalId proposalId)
  return s.slashProposals proposalId

/-- `executeEdgeSlash(proposalId)` -/
def executeEdgeSlash (proposalId : ℕ) : Exec Outcome := do
  onlySlasher m s
  revertIf (s.slashingEnabled = false) .slashingNotEnabled
  let proposal ← s.getValidProposal proposalId
  revertIf (proposal.executed = true) (.proposalAlreadyExecuted proposalId)
  revertIf (proposal.appealed = true) (.proposalAppealed proposalId)
  let windowEnd ← addW 256 proposal.proposedAt.toNat proposal.appealWindowSnapshot
  revertIf (m.timestamp < windowEnd) (.appealWindowNotElapsed proposalId)
  return (s.modifyProposal proposalId fun x => { x with executed := true },
    [⟨proposal.provider, proposal.amount.toNat⟩])

/-- `appealEdgeSlash(proposalId)` -/
def appealEdgeSlash (proposalId : ℕ) : Exec Outcome := do
  let proposal ← s.getValidProposal proposalId
  revertIf (proposal.executed = true) (.proposalAlreadyExecuted proposalId)
  revertIf (proposal.appealed = true) (.proposalAppealed proposalId)
  revertIf (m.sender ≠ proposal.provider) (.notProposalProvider proposalId m.sender)
  let windowEnd ← addW 256 proposal.proposedAt.toNat proposal.appealWindowSnapshot
  revertIf (m.timestamp ≥ windowEnd) (.appealWindowElapsed proposalId)
  return (s.modifyProposal proposalId fun x => { x with appealed := true }, [])

/-- `resolveEdgeSlashAppeal(proposalId, uphold)` -/
def resolveEdgeSlashAppeal (proposalId : ℕ) (uphold : Bool) : Exec Outcome := do
  onlyOwner m s
  let proposal ← s.getValidProposal proposalId
  revertIf (proposal.appealed = false) (.proposalNotAppealed proposalId)
  revertIf (proposal.resolved = true) (.proposalAlreadyResolved proposalId)
  revertIf (proposal.executed = true) (.proposalAlreadyExecuted proposalId)
  if uphold = true then
    revertIf (s.slashingEnabled = false) .slashingNotEnabled
    let marked := s.modifyProposal proposalId fun x => { x with
      resolved := true
      executed := true }
    return (marked, [⟨proposal.provider, proposal.amount.toNat⟩])
  else
    return (s.modifyProposal proposalId fun x => { x with resolved := true }, [])

/-! ## Administration -/

/-- `setMinStakeForEdge(newMinStake)` -/
def setMinStakeForEdge (newMinStake : ℕ) : Exec Outcome := do
  onlyOwner m s
  revertIf (newMinStake < minEdgeStakeFloor ∨ newMinStake > minEdgeStakeCeiling)
    (.invalidMinStake newMinStake)
  return ({ s with minStakeForEdge := newMinStake }, [])

/-- `setAppealWindow(newWindow)` -/
def setAppealWindow (newWindow : ℕ) : Exec Outcome := do
  onlyOwner m s
  revertIf (newWindow < appealWindowFloor ∨ newWindow > appealWindowCeiling) .invalidAppealWindow
  return ({ s with appealWindow := newWindow }, [])

/-- `setSlashingEnabled(enabled)` -/
def setSlashingEnabled (enabled : Bool) : Exec Outcome := do
  onlyOwner m s
  return ({ s with slashingEnabled := enabled }, [])

/-- `pause()` -/
def pause : Exec Outcome := do
  onlyOwner m s
  revertIf (s.paused = true) .enforcedPause
  return ({ s with paused := true }, [])

/-- `unpause()` -/
def unpause : Exec Outcome := do
  onlyOwner m s
  revertIf (s.paused = false) .expectedPause
  return ({ s with paused := false }, [])

end Storage

end Moltbunker.Contracts.EdgeRegistry
