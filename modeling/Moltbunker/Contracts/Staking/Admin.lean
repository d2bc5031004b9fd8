import Moltbunker.Contracts.Staking.Claim

/-!
# `BunkerStaking`: reward epochs and parameters

`notifyRewardAmount`, which starts a reward epoch, and the owner's setters. A setter checks its
argument and writes; `adminWrite` is that shape, and each setter is it applied to its own checks
and its own write.
-/

namespace Moltbunker.Contracts.Staking

open Lib

/-- `Tier(uint8(tier) - 1)` where `uint8(tier) > 1` -/
def Tier.below : Tier → Option Tier
  | .none => Option.none
  | .starter => Option.none
  | .bronze => some .starter
  | .silver => some .bronze
  | .gold => some .silver
  | .platinum => some .gold

/-- `Tier(uint8(tier) + 1)` where `uint8(tier) < uint8(Tier.Platinum)` -/
def Tier.above : Tier → Option Tier
  | .none => some .starter
  | .starter => some .bronze
  | .bronze => some .silver
  | .silver => some .gold
  | .gold => some .platinum
  | .platinum => Option.none

namespace Storage

/-! ## Reward epochs -/

/-- `balance > lockedStake ? balance - lockedStake : 0` -/
def rewardBalance (balance lockedStake : ℕ) : ℕ :=
  if balance > lockedStake then balance - lockedStake else 0

/-- The check `maxLiability > rewardBalance` that `notifyRewardAmount` and
`setMaxTierMultiplierBps` share, for a reward rate and a multiplier cap. -/
def checkLiability (s : Storage) (m : Msg) (rate multiplierCap : ℕ) : Exec Unit := do
  let lockedStake ← addW 256 s.totalStaked s.totalUnbonding
  let emitted ← mulW 256 rate s.rewardsDuration
  let scaled ← mulW 256 emitted multiplierCap
  let maxLiability ← divC scaled bpsDenominator
  revertIf (maxLiability > rewardBalance m.balance lockedStake)
    (.rewardRateTooHigh rate (rewardBalance m.balance lockedStake))

/-- The reward rate before the emission cap: the new reward, with what the running epoch has not
emitted rolled over. -/
def uncappedRate (s : Storage) (t adjustedReward : ℕ) : Exec ℕ := do
  if t ≥ s.periodFinish then
    divC adjustedReward s.rewardsDuration
  else
    let remaining ← subC s.periodFinish t
    let leftover ← mulW 256 remaining s.rewardRate
    let total ← addW 256 adjustedReward leftover
    divC total s.rewardsDuration

/-- `notifyRewardAmount(reward)` -/
def notifyRewardAmount (s : Storage) (m : Msg) (reward : ℕ) : Exec Outcome := do
  onlyOwner m s
  let s ← s.updateReward m.timestamp 0
  revertIf (s.rewardsDuration = 0) .rewardsDurationZero
  let product ← mulW 256 reward s.emissionMultiplier
  let adjustedReward ← divC product bpsDenominator
  let uncapped ← s.uncappedRate m.timestamp adjustedReward
  let rewardRate :=
    if s.maxEmissionRate > 0 ∧ uncapped > s.maxEmissionRate then s.maxEmissionRate else uncapped
  s.checkLiability m rewardRate s.maxTierMultiplierBps
  let periodFinish ← addW 256 m.timestamp s.rewardsDuration
  return ({ s with
    rewardRate := rewardRate
    lastUpdateTime := m.timestamp
    periodFinish := periodFinish }, [])

/-! ## Setters -/

/-- The shape of the owner's setters: `onlyOwner`, the checks of the argument, one write. -/
def adminWrite (m : Msg) (s : Storage) (checks : Exec Unit) (s' : Storage) : Exec Outcome := do
  onlyOwner m s
  checks
  return (s', [])

variable (s : Storage)

variable (m : Msg)

/-- `setRewardsDuration(_rewardsDuration)` -/
def setRewardsDuration (rewardsDuration : ℕ) : Exec Outcome :=
  adminWrite m s
    (do revertIf (rewardsDuration = 0) .rewardsDurationZero
        revertIf (m.timestamp < s.periodFinish) .rewardDurationNotFinished)
    { s with rewardsDuration := rewardsDuration }

/-- `setVestingParams(_vestingPeriod, _immediateReleaseBps)` -/
def setVestingParams (vestingPeriod immediateReleaseBps : ℕ) : Exec Outcome :=
  adminWrite m s
    (do revertIf (immediateReleaseBps > bpsDenominator)
          (.invalidImmediateReleaseBps immediateReleaseBps)
        revertIf (vestingPeriod > 0 ∧ vestingPeriod < 60) .invalidVestingPeriod)
    { s with
      vestingPeriod := vestingPeriod
      immediateReleaseBps := immediateReleaseBps }

/-- `reportComputeHours(hours_)`: the one setter of the slasher role. -/
def reportComputeHours (hours : ℕ) : Exec Outcome := do
  onlySlasher m s
  let total ← addW 256 s.totalComputeHoursReported hours
  return ({ s with totalComputeHoursReported := total }, [])

/-- `setEmissionMultiplier(multiplierBps)` -/
def setEmissionMultiplier (multiplierBps : ℕ) : Exec Outcome :=
  adminWrite m s
    (revertIf (multiplierBps = 0 ∨ multiplierBps > maxEmissionMultiplier)
      (.invalidEmissionMultiplier multiplierBps))
    { s with emissionMultiplier := multiplierBps }

/-- `setMaxEmissionRate(maxRate)` -/
def setMaxEmissionRate (maxRate : ℕ) : Exec Outcome :=
  adminWrite m s (return ()) { s with maxEmissionRate := maxRate }

/-- `setTreasury(newTreasury)` -/
def setTreasury (newTreasury : Address) : Exec Outcome :=
  adminWrite m s (revertIf (newTreasury = 0) .zeroAddress) { s with treasury := newTreasury }

/-- The order check of `setTierMinStake` against one neighbour of the tier. -/
def checkNeighbour (tier : Tier) (minStake : ℕ) (neighbour : Option Tier)
    (violated : ℕ → ℕ → Bool) : Exec Unit :=
  match neighbour with
  | none => return ()
  | some other =>
    revertIf (violated minStake (s.tierConfigs other).minStake = true)
      (.tierOrderViolation tier minStake other (s.tierConfigs other).minStake)

/-- `setTierMinStake(tier, minStake)` -/
def setTierMinStake (tier : Tier) (minStake : ℕ) : Exec Outcome :=
  adminWrite m s
    (do revertIf (tier = .none) .cannotConfigureNoneTier
        s.checkNeighbour tier minStake tier.below fun new below => new ≤ below
        s.checkNeighbour tier minStake tier.above fun new above => new ≥ above)
    { s with
      tierConfigs := Function.update s.tierConfigs tier
        { s.tierConfigs tier with minStake := minStake } }

/-- `setTierRewardMultiplier(tier, multiplierBps)` -/
def setTierRewardMultiplier (tier : Tier) (multiplierBps : BitVec 16) : Exec Outcome :=
  adminWrite m s
    (do revertIf (tier = .none) .cannotConfigureNoneTier
        revertIf (multiplierBps.toNat < bpsDenominator) .multiplierTooLow
        revertIf (multiplierBps.toNat > s.maxTierMultiplierBps) .multiplierTooHigh)
    { s with
      tierConfigs := Function.update s.tierConfigs tier
        { s.tierConfigs tier with rewardMultiplierBps := multiplierBps } }

/-- `setMaxTierMultiplierBps(newMax)` -/
def setMaxTierMultiplierBps (newMax : BitVec 16) : Exec Outcome :=
  adminWrite m s
    (do revertIf (newMax.toNat < bpsDenominator ∨ newMax.toNat > 20000) .invalidMultiplierCap
        if m.timestamp < s.periodFinish ∧ s.rewardRate > 0 then
          s.checkLiability m s.rewardRate newMax.toNat
        else
          return ())
    { s with maxTierMultiplierBps := newMax.toNat }

/-- `setUnbondingPeriod(newPeriod)` -/
def setUnbondingPeriod (newPeriod : ℕ) : Exec Outcome :=
  adminWrite m s (revertIf (newPeriod < 60 ∨ newPeriod > 90 * 86400) .invalidUnbondingPeriod)
    { s with unbondingPeriod := newPeriod }

/-- `setSlashFeeSplit(burnBps, treasuryBps)` -/
def setSlashFeeSplit (burnBps treasuryBps : BitVec 16) : Exec Outcome :=
  adminWrite m s (revertIf (burnBps.toNat + treasuryBps.toNat ≠ bpsDenominator) .invalidFeeSplit)
    { s with
      slashBurnBps := burnBps.toNat
      slashTreasuryBps := treasuryBps.toNat }

/-- `setAppealWindow(newWindow)` -/
def setAppealWindow (newWindow : ℕ) : Exec Outcome :=
  adminWrite m s (revertIf (newWindow < 60 ∨ newWindow > 14 * 86400) .invalidAppealWindow)
    { s with appealWindow := newWindow }

/-- `setSlashingEnabled(enabled)` -/
def setSlashingEnabled (enabled : Bool) : Exec Outcome :=
  adminWrite m s (return ()) { s with slashingEnabled := enabled }

/-- `pause()` -/
def pause : Exec Outcome :=
  adminWrite m s (revertIf (s.paused = true) .enforcedPause) { s with paused := true }

/-- `unpause()` -/
def unpause : Exec Outcome :=
  adminWrite m s (revertIf (s.paused = false) .expectedPause) { s with paused := false }

/-! ## What a returned call did -/

variable {m : Msg} {s : Storage}

lemma adminWrite_eq_ok {s' : Storage} {checks : Exec Unit} {r : Outcome}
    (h : adminWrite m s checks s' = .ok r) :
    m.sender = s.owner ∧ checks = .ok () ∧ r = (s', []) := by
  simp only [adminWrite, bind_eq_ok, onlyOwner_eq_ok, pure_eq_ok] at h
  obtain ⟨_, howner, _, hchecks, rfl⟩ := h
  exact ⟨howner, hchecks, rfl⟩

lemma rewardBalance_eq (balance locked : ℕ) :
    rewardBalance balance locked = balance - locked := by
  unfold rewardBalance
  split <;> omega

/-- The liability check bounds the worst case of the epoch by the tokens not locked as stake. -/
lemma checkLiability_eq_ok {rate cap : ℕ} {u : Unit} (h : s.checkLiability m rate cap = .ok u) :
    rate * s.rewardsDuration * cap / bpsDenominator ≤
      m.balance - (s.totalStaked + s.totalUnbonding) := by
  simp only [checkLiability, bind_eq_ok, addW_eq_ok, mulW_eq_ok, divC_eq_ok, revertIf_eq_ok] at h
  obtain ⟨_, ⟨-, rfl⟩, _, ⟨-, rfl⟩, _, ⟨-, rfl⟩, _, ⟨-, rfl⟩, h⟩ := h
  rw [rewardBalance_eq] at h
  exact not_lt.mp h

/-- The reward rate that `notifyRewardAmount(reward)` sets at time `t`, in plain numbers. -/
def notifiedRate (s : Storage) (t reward : ℕ) : ℕ :=
  let uncapped := (reward * s.emissionMultiplier / bpsDenominator +
    (s.periodFinish - t) * s.rewardRate) / s.rewardsDuration
  if s.maxEmissionRate > 0 ∧ uncapped > s.maxEmissionRate then s.maxEmissionRate else uncapped

lemma uncappedRate_eq_ok {t adjusted r : ℕ} (h : s.uncappedRate t adjusted = .ok r) :
    r = (adjusted + (s.periodFinish - t) * s.rewardRate) / s.rewardsDuration := by
  unfold uncappedRate at h
  split at h
  · next hend =>
    rw [(divC_eq_ok.mp h).2, Nat.sub_eq_zero_of_le hend, Nat.zero_mul, Nat.add_zero]
  · simp only [bind_eq_ok, subC_eq_ok, mulW_eq_ok, addW_eq_ok, divC_eq_ok] at h
    obtain ⟨_, ⟨-, rfl⟩, _, ⟨-, rfl⟩, _, ⟨-, rfl⟩, -, rfl⟩ := h
    rfl

end Storage

end Moltbunker.Contracts.Staking
