import Moltbunker.Contracts.Staking.Stake

/-!
# `BunkerStaking`: slashing and the appeal system

The two immediate slashes and the proposal life cycle: `proposeSlash`, `proposeSlashByReason`,
`executeSlash`, `appealSlash` and `resolveAppeal`. `executeSlash` and an upheld appeal share their
last part (`applyProposal`), where the proposed amount is cut down to the provider's current
slashable balance before it is slashed.
-/

namespace Moltbunker.Contracts.Staking

open Lib Function

namespace Storage

variable (s : Storage)

/-- `getSlashableBalance(provider)`, in plain numbers: two `uint128` words add up within a
`uint256`. -/
def slashable (p : Address) : ℕ :=
  (s.providers p).stakedAmount.toNat + (s.providers p).totalUnbonding.toNat

/-! ## Immediate slashes -/

/-- The body that `slash` and `slashImmediate` share. -/
def slashWithoutAppeal (m : Msg) (provider : Address) (amount : ℕ) : Exec Outcome := do
  onlySlasher m s
  let s ← s.updateReward m.timestamp provider
  revertIf (s.slashingEnabled = false) .slashingNotEnabled
  s.internalExecuteSlash m provider amount (BitVec.ofNat 16 s.slashBurnBps).toNat

/-- `slashImmediate(provider, amount)` -/
def slashImmediate (m : Msg) (provider : Address) (amount : ℕ) : Exec Outcome :=
  s.slashWithoutAppeal m provider amount

/-- `slash(provider, amount)` -/
def slash (m : Msg) (provider : Address) (amount : ℕ) : Exec Outcome :=
  s.slashWithoutAppeal m provider amount

/-! ## Proposals -/

/-- Write to one proposal. -/
def modifyProposal (id : ℕ) (f : SlashProposal → SlashProposal) : Storage :=
  { s with slashProposals := update s.slashProposals id (f (s.slashProposals id)) }

/-- The record a proposal is created with. -/
def newProposal (m : Msg) (provider : Address) (amount : ℕ) (reason : String)
    (slashReason : SlashReason) : SlashProposal where
  provider := provider
  amount := amount
  reason := reason
  proposedAt := m.timestamp
  executed := false
  appealed := false
  resolved := false
  slashReason := slashReason
  appealWindowSnapshot := s.appealWindow
  slashBurnBpsSnapshot := .ofNat 16 s.slashBurnBps

/-- `proposalId = slashProposalCount++; slashProposals[proposalId] = ...` -/
def pushProposal (proposal : SlashProposal) : Exec Outcome := do
  let count ← addW 256 s.slashProposalCount 1
  return ({ s with
    slashProposalCount := count
    slashProposals := update s.slashProposals s.slashProposalCount proposal }, [])

/-- `proposeSlash(provider, amount, reason)` -/
def proposeSlash (m : Msg) (provider : Address) (amount : ℕ) (reason : String) : Exec Outcome := do
  onlySlasher m s
  revertIf (amount = 0) .zeroAmount
  let slashableTotal ← addW 256 (s.providers provider).stakedAmount.toNat
    (s.providers provider).totalUnbonding.toNat
  revertIf (amount > slashableTotal) (.insufficientSlashableBalance amount slashableTotal)
  s.pushProposal (s.newProposal m provider amount reason .none)

/-- `proposeSlashByReason(provider, reason)` -/
def proposeSlashByReason (m : Msg) (provider : Address) (reason : SlashReason) : Exec Outcome := do
  onlySlasher m s
  revertIf (reason = .none) .invalidSlashReason
  let stakedAmount := (s.providers provider).stakedAmount.toNat
  let product ← mulW 256 stakedAmount (s.slashPercentageBps reason).toNat
  let amount ← divC product bpsDenominator
  revertIf (amount = 0) .zeroAmount
  let slashableTotal ← addW 256 stakedAmount (s.providers provider).totalUnbonding.toNat
  revertIf (amount > slashableTotal) (.insufficientSlashableBalance amount slashableTotal)
  s.pushProposal (s.newProposal m provider amount "" reason)

/-- `_getValidProposal(proposalId)` -/
def getValidProposal (proposalId : ℕ) : Exec SlashProposal := do
  revertIf (proposalId ≥ s.slashProposalCount) (.invalidProposalId proposalId)
  return s.slashProposals proposalId

/-- The part that `executeSlash` and an upheld `resolveAppeal` share: checkpoint the provider,
cut the amount down to the slashable balance, slash it unless nothing is left. -/
def applyProposal (m : Msg) (proposal : SlashProposal) : Exec Outcome := do
  let s ← s.doUpdateReward m.timestamp proposal.provider
  let slashableTotal ← addW 256 (s.providers proposal.provider).stakedAmount.toNat
    (s.providers proposal.provider).totalUnbonding.toNat
  let actualAmount := if proposal.amount > slashableTotal then slashableTotal else proposal.amount
  if actualAmount > 0 then
    s.internalExecuteSlash m proposal.provider actualAmount proposal.slashBurnBpsSnapshot.toNat
  else
    return (s, [])

/-- `executeSlash(proposalId)` -/
def executeSlash (m : Msg) (proposalId : ℕ) : Exec Outcome := do
  onlySlasher m s
  revertIf (s.slashingEnabled = false) .slashingNotEnabled
  let proposal ← s.getValidProposal proposalId
  revertIf (proposal.executed = true) (.proposalAlreadyExecuted proposalId)
  revertIf (proposal.appealed = true) (.proposalAppealed proposalId)
  let windowEnd ← addW 256 proposal.proposedAt proposal.appealWindowSnapshot
  revertIf (m.timestamp < windowEnd) (.appealWindowNotElapsed proposalId windowEnd)
  (s.modifyProposal proposalId fun x => { x with executed := true }).applyProposal m proposal

/-- `appealSlash(proposalId)` -/
def appealSlash (m : Msg) (proposalId : ℕ) : Exec Outcome := do
  let proposal ← s.getValidProposal proposalId
  revertIf (proposal.executed = true) (.proposalAlreadyExecuted proposalId)
  revertIf (proposal.appealed = true) (.proposalAlreadyAppealed proposalId)
  revertIf (m.sender ≠ proposal.provider) (.notProposalProvider proposalId m.sender)
  let windowEnd ← addW 256 proposal.proposedAt proposal.appealWindowSnapshot
  revertIf (m.timestamp ≥ windowEnd) (.appealWindowElapsed proposalId)
  return (s.modifyProposal proposalId fun x => { x with appealed := true }, [])

/-- `resolveAppeal(proposalId, uphold)` -/
def resolveAppeal (m : Msg) (proposalId : ℕ) (uphold : Bool) : Exec Outcome := do
  onlyOwner m s
  let proposal ← s.getValidProposal proposalId
  revertIf (proposal.appealed = false) (.proposalNotAppealed proposalId)
  revertIf (proposal.resolved = true) (.proposalAlreadyResolved proposalId)
  revertIf (proposal.executed = true) (.proposalAlreadyExecuted proposalId)
  if uphold = true then
    revertIf (s.slashingEnabled = false) .slashingNotEnabled
    let marked := s.modifyProposal proposalId fun x => { x with
      resolved := true
      executed := true }
    marked.applyProposal m proposal
  else
    return (s.modifyProposal proposalId fun x => { x with resolved := true }, [])

/-- `setSlashPercentage(reason, bps)` -/
def setSlashPercentage (m : Msg) (reason : SlashReason) (bps : BitVec 16) : Exec Outcome := do
  onlyOwner m s
  revertIf (reason = .none) .invalidSlashReason
  revertIf (bps.toNat > bpsDenominator) (.invalidSlashPercentage bps.toNat)
  return ({ s with slashPercentageBps := update s.slashPercentageBps reason bps }, [])

/-! ## What a returned call did -/

variable {s : Storage} {m : Msg} {p : Address} {amount : ℕ} {r : Outcome} {id : ℕ}
  {x : SlashProposal}

/-- **A slash takes exactly its amount** from the slashable balance of a provider whose queue owes
what the provider's counter says. -/
theorem Slashes.slashable_eq {info' : ProviderInfo} (h : s.Slashes m p amount info' r)
    (hqueue : (s.providers p).totalUnbonding.toNat = openAmount (s.unstakeQueues p)) :
    r.1.slashable p + amount = s.slashable p := by
  have hle := h.amount_le
  have hstaked := h.stakedAmount
  have hunbonding := h.totalUnbonding
  rw [h.storage]
  unfold slashable afterSlash
  dsimp only
  rw [update_self]
  omega

lemma slashWithoutAppeal_eq_ok (h : s.slashWithoutAppeal m p amount = .ok r) :
    s.isSlasher m.sender = true ∧ s.slashingEnabled = true ∧
      s.updateReward m.timestamp p = .ok (s.updated m.timestamp p) ∧
      ∃ info', (s.updated m.timestamp p).Slashes m p amount info' r := by
  simp only [slashWithoutAppeal, bind_eq_ok, onlySlasher_eq_ok, revertIf_eq_ok] at h
  obtain ⟨_, hrole, u, hu, _, henabled, h⟩ := h
  obtain ⟨rfl, -⟩ := updateReward_eq_ok hu
  exact ⟨hrole, Bool.eq_true_of_not_eq_false henabled, hu, internalExecuteSlash_eq_ok h⟩

/-- What applying a proposal did to the storage `s` in which it is already marked: the provider is
checkpointed, and the proposed amount, cut down to the slashable balance, is slashed. -/
def Applies (s : Storage) (m : Msg) (proposal : SlashProposal) (r : Outcome) : Prop :=
  s.updateReward m.timestamp proposal.provider =
      .ok (s.updated m.timestamp proposal.provider) ∧
    ((min proposal.amount (s.slashable proposal.provider) = 0 ∧
        r = (s.updated m.timestamp proposal.provider, [])) ∨
      ∃ info', (s.updated m.timestamp proposal.provider).Slashes m proposal.provider
        (min proposal.amount (s.slashable proposal.provider)) info' r)

lemma applyProposal_eq_ok {proposal : SlashProposal} (h : s.applyProposal m proposal = .ok r) :
    s.Applies m proposal r := by
  simp only [applyProposal, ite_gt_eq_min, bind_eq_ok, addW_eq_ok] at h
  obtain ⟨u, hu, _, ⟨-, rfl⟩, h⟩ := h
  obtain ⟨rfl, -⟩ := updateReward_eq_ok hu
  refine ⟨hu, ?_⟩
  split at h
  · exact .inr (internalExecuteSlash_eq_ok h)
  · next hpos => exact .inl ⟨Nat.eq_zero_of_not_pos hpos, (pure_eq_ok.mp h).symm⟩

lemma getValidProposal_eq_ok (h : s.getValidProposal id = .ok x) :
    id < s.slashProposalCount ∧ x = s.slashProposals id := by
  simp only [getValidProposal, bind_eq_ok, revertIf_eq_ok, pure_eq_ok] at h
  obtain ⟨_, hid, rfl⟩ := h
  exact ⟨not_le.mp hid, rfl⟩

end Storage

end Moltbunker.Contracts.Staking
