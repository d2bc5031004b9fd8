import Moltbunker.Contracts.Staking.State

/-!
# `BunkerStaking`: the reward index and vesting

The views that the state-changing functions are built on: the tier of a stake, the reward-per-token
index of the Synthetix pattern with its checkpoint (`modifier updateReward`, `_doUpdateReward`),
and the linear vesting of a claimed reward.

Each function is written with the checked arithmetic of the source. Beside it stands its value in
plain natural numbers (`indexAt`, `accrued`, `multiplierBps`, `vestedValue`), and the equivalence
that says that the checked function returns that value exactly when nothing overflows.
-/

namespace Moltbunker.Contracts.Staking

open Lib Function

/-! ## Tiers -/

/-- `_getTier`, for a tier table -/
def tierOf (tiers : Tier → TierConfig) (stakeAmount : ℕ) : Tier :=
  if stakeAmount ≥ (tiers .platinum).minStake then .platinum
  else if stakeAmount ≥ (tiers .gold).minStake then .gold
  else if stakeAmount ≥ (tiers .silver).minStake then .silver
  else if stakeAmount ≥ (tiers .bronze).minStake then .bronze
  else if stakeAmount ≥ (tiers .starter).minStake then .starter
  else .none

/-- The multiplier that `earned` applies to a stake: its tier's, and none below every tier. -/
def multiplierBps (tiers : Tier → TierConfig) (stakeAmount : ℕ) : ℕ :=
  if tierOf tiers stakeAmount = .none then bpsDenominator
  else (tiers (tierOf tiers stakeAmount)).rewardMultiplierBps.toNat

/-- What a stake accrues, after its multiplier, while the index moves by `since`. -/
def accrued (tiers : Tier → TierConfig) (stakedAmount since : ℕ) : ℕ :=
  stakedAmount * since / indexScale * multiplierBps tiers stakedAmount / bpsDenominator

namespace Storage

variable (s : Storage)

/-- `_getTier(stakeAmount)` -/
def getTier (stakeAmount : ℕ) : Tier := tierOf s.tierConfigs stakeAmount

/-- The smallest stake of an active provider. -/
def starterMinStake : ℕ := (s.tierConfigs .starter).minStake

/-! ## The reward index -/

/-- `lastTimeRewardApplicable` at time `t` -/
def lastTimeRewardApplicable (t : ℕ) : ℕ :=
  if t < s.periodFinish then t else s.periodFinish

/-- `rewardPerToken` at time `t` -/
def rewardPerToken (t : ℕ) : Exec ℕ := do
  if s.totalStaked = 0 then
    return s.rewardPerTokenStored
  else
    let elapsed ← subC (s.lastTimeRewardApplicable t) s.lastUpdateTime
    let emitted ← mulW 256 elapsed s.rewardRate
    let scaled ← mulW 256 emitted indexScale
    let delta ← divC scaled s.totalStaked
    addW 256 s.rewardPerTokenStored delta

/-- `earned` at time `t` -/
def earned (t : ℕ) (provider : Address) : Exec ℕ := do
  let stakedAmount := (s.providers provider).stakedAmount.toNat
  let index ← s.rewardPerToken t
  let since ← subC index (s.userRewardPerTokenPaid provider)
  let product ← mulW 256 stakedAmount since
  let newDelta ← divC product indexScale
  let tier := s.getTier stakedAmount
  if tier ≠ .none then
    let multiplied ← mulW 256 newDelta (s.tierConfigs tier).rewardMultiplierBps.toNat
    let newDelta' ← divC multiplied bpsDenominator
    addW 256 newDelta' (s.rewards provider)
  else
    addW 256 newDelta (s.rewards provider)

/-- The two assignments that open `updateReward`: store the index and its time. -/
def storeIndex (t index : ℕ) : Storage :=
  { s with
    rewardPerTokenStored := index
    lastUpdateTime := s.lastTimeRewardApplicable t }

/-- Checkpoint one account at the stored index. -/
def checkpoint (account : Address) (reward : ℕ) : Storage :=
  { s with
    rewards := update s.rewards account reward
    userRewardPerTokenPaid :=
      update s.userRewardPerTokenPaid account s.rewardPerTokenStored }

/-- `modifier updateReward(account)` -/
def updateReward (t : ℕ) (account : Address) : Exec Storage := do
  let index ← s.rewardPerToken t
  let s₁ := s.storeIndex t index
  if account ≠ 0 then
    let reward ← s₁.earned t account
    return s₁.checkpoint account reward
  else
    return s₁

/-- `_doUpdateReward(account)`: the modifier's body as an internal function. -/
def doUpdateReward (t : ℕ) (account : Address) : Exec Storage :=
  s.updateReward t account

/-! ### The index in plain numbers -/

/-- By how much the index grows until time `t`. -/
def indexGain (t : ℕ) : ℕ :=
  if s.totalStaked = 0 then 0
  else (s.lastTimeRewardApplicable t - s.lastUpdateTime) * s.rewardRate * indexScale / s.totalStaked

/-- The index at time `t`. -/
def indexAt (t : ℕ) : ℕ := s.rewardPerTokenStored + s.indexGain t

/-- `earned` in plain numbers. -/
def earnedAt (t : ℕ) (provider : Address) : ℕ :=
  accrued s.tierConfigs (s.providers provider).stakedAmount.toNat
    (s.indexAt t - s.userRewardPerTokenPaid provider) + s.rewards provider

variable {s : Storage} {t : ℕ} {p : Address}

/-- `rewardPerToken` returns the plain index when it returns. -/
lemma rewardPerToken_eq_ok {r : ℕ} (h : s.rewardPerToken t = .ok r) :
    r = s.indexAt t ∧ (s.totalStaked ≠ 0 → s.lastUpdateTime ≤ s.lastTimeRewardApplicable t) := by
  unfold rewardPerToken at h
  split at h
  · next h₀ =>
    rw [pure_eq_ok] at h
    subst h
    exact ⟨by simp [indexAt, indexGain, h₀], fun h => absurd h₀ h⟩
  · next h₀ =>
    simp only [bind_eq_ok, subC_eq_ok, mulW_eq_ok, divC_eq_ok, addW_eq_ok] at h
    obtain ⟨_, ⟨hle, rfl⟩, _, ⟨-, rfl⟩, _, ⟨-, rfl⟩, _, ⟨-, rfl⟩, -, rfl⟩ := h
    exact ⟨by simp [indexAt, indexGain, h₀], fun _ => hle⟩

/-- `rewardPerToken` returns when the clock has not run back and the products fit. -/
lemma rewardPerToken_ok (hclock : s.lastUpdateTime ≤ s.lastTimeRewardApplicable t)
    (hmul : (s.lastTimeRewardApplicable t - s.lastUpdateTime) * s.rewardRate * indexScale < 2 ^ 256)
    (hadd : s.indexAt t < 2 ^ 256) : s.rewardPerToken t = .ok (s.indexAt t) := by
  unfold rewardPerToken
  by_cases h₀ : s.totalStaked = 0
  · rw [if_pos h₀]
    simp [indexAt, indexGain, h₀]
  · rw [if_neg h₀]
    simp only [bind_eq_ok, subC_eq_ok, mulW_eq_ok, divC_eq_ok, addW_eq_ok]
    refine ⟨_, ⟨hclock, rfl⟩, _, ⟨?_, rfl⟩, _, ⟨hmul, rfl⟩, _, ⟨h₀, rfl⟩, ?_, ?_⟩
    · exact (Nat.le_mul_of_pos_right _ (by decide)).trans_lt hmul
    · simpa [indexAt, indexGain, h₀] using hadd
    · simp [indexAt, indexGain, h₀]

/-- The multiplier step of `earned`, both branches at once. -/
lemma accrued_eq (stakedAmount since : ℕ) : accrued s.tierConfigs stakedAmount since =
    if s.getTier stakedAmount ≠ .none then
      stakedAmount * since / indexScale *
        (s.tierConfigs (s.getTier stakedAmount)).rewardMultiplierBps.toNat / bpsDenominator
    else stakedAmount * since / indexScale := by
  unfold accrued multiplierBps getTier
  by_cases h : tierOf s.tierConfigs stakedAmount = .none
  · rw [if_pos h, if_neg (not_not.mpr h)]
    exact Nat.mul_div_cancel _ (by decide)
  · rw [if_neg h, if_pos h]

/-- `earned` returns the plain value when it returns. -/
lemma earned_eq_ok {r : ℕ} (h : s.earned t p = .ok r) :
    r = s.earnedAt t p ∧ s.userRewardPerTokenPaid p ≤ s.indexAt t := by
  unfold earned at h
  simp only [bind_eq_ok, subC_eq_ok, mulW_eq_ok, divC_eq_ok] at h
  obtain ⟨index, hindex, _, ⟨hle, rfl⟩, _, ⟨-, rfl⟩, _, ⟨-, rfl⟩, h⟩ := h
  obtain ⟨rfl, -⟩ := rewardPerToken_eq_ok hindex
  refine ⟨?_, hle⟩
  unfold earnedAt
  rw [accrued_eq]
  split at h
  · next ht =>
    simp only [bind_eq_ok, mulW_eq_ok, divC_eq_ok, addW_eq_ok] at h
    obtain ⟨_, ⟨-, rfl⟩, _, ⟨-, rfl⟩, -, rfl⟩ := h
    rw [if_pos ht]
  · next ht =>
    rw [addW_eq_ok] at h
    rw [if_neg ht]
    exact h.2

/-- `earned` returns when the index does, the checkpoint is behind it and the products fit. -/
lemma earned_ok (hindex : s.rewardPerToken t = .ok (s.indexAt t))
    (hpaid : s.userRewardPerTokenPaid p ≤ s.indexAt t)
    (hmul : (s.providers p).stakedAmount.toNat *
      (s.indexAt t - s.userRewardPerTokenPaid p) < 2 ^ 256)
    (hmult : (s.providers p).stakedAmount.toNat *
      (s.indexAt t - s.userRewardPerTokenPaid p) / indexScale *
        multiplierBps s.tierConfigs (s.providers p).stakedAmount.toNat < 2 ^ 256)
    (hadd : s.earnedAt t p < 2 ^ 256) : s.earned t p = .ok (s.earnedAt t p) := by
  unfold earned
  rw [hindex, ok_bind]
  simp only [bind_eq_ok, subC_eq_ok, mulW_eq_ok, divC_eq_ok]
  refine ⟨_, ⟨hpaid, rfl⟩, _, ⟨hmul, rfl⟩, _, ⟨by decide, rfl⟩, ?_⟩
  unfold earnedAt at hadd ⊢
  unfold multiplierBps at hmult
  rw [accrued_eq] at hadd ⊢
  unfold getTier at hadd ⊢
  by_cases ht : tierOf s.tierConfigs (s.providers p).stakedAmount.toNat = .none
  · rw [if_neg (not_not.mpr ht)] at hadd ⊢
    rw [if_neg (not_not.mpr ht), addW_eq_ok]
    exact ⟨hadd, rfl⟩
  · rw [if_pos ht] at hadd ⊢
    rw [if_neg ht] at hmult
    rw [if_pos ht]
    simp only [bind_eq_ok, mulW_eq_ok, divC_eq_ok, addW_eq_ok]
    exact ⟨_, ⟨hmult, rfl⟩, _, ⟨by decide, rfl⟩, hadd, rfl⟩

/-! ### The checkpoint in plain numbers -/

/-- `updateReward` in plain numbers. -/
def updated (s : Storage) (t : ℕ) (account : Address) : Storage :=
  { s with
    rewardPerTokenStored := s.indexAt t
    lastUpdateTime := s.lastTimeRewardApplicable t
    rewards :=
      if account ≠ 0 then update s.rewards account (s.earnedAt t account) else s.rewards
    userRewardPerTokenPaid :=
      if account ≠ 0 then update s.userRewardPerTokenPaid account (s.indexAt t)
      else s.userRewardPerTokenPaid }

/-- Right after the index was stored it has nothing to gain. -/
lemma indexGain_storeIndex (t x : ℕ) : (s.storeIndex t x).indexGain t = 0 := by
  have hclock : (s.storeIndex t x).lastTimeRewardApplicable t -
      (s.storeIndex t x).lastUpdateTime = 0 := Nat.sub_self _
  unfold indexGain
  rw [hclock]
  simp

lemma indexAt_storeIndex : (s.storeIndex t (s.indexAt t)).indexAt t = s.indexAt t := by
  conv_lhs => rw [indexAt, indexGain_storeIndex]
  rfl

/-- Storing the index does not change what an account has earned. -/
lemma earnedAt_storeIndex : (s.storeIndex t (s.indexAt t)).earnedAt t p = s.earnedAt t p := by
  unfold earnedAt
  rw [indexAt_storeIndex]
  rfl

/-- **What a checkpoint does.** It stores the plain index and, for an account, the plain value of
`earned`; it returns only if the clock and the account's checkpoint are behind the index. -/
theorem updateReward_eq_ok {s' : Storage} (h : s.updateReward t p = .ok s') : s' = s.updated t p ∧
    (s.totalStaked ≠ 0 → s.lastUpdateTime ≤ s.lastTimeRewardApplicable t) ∧
    (p ≠ 0 → s.userRewardPerTokenPaid p ≤ s.indexAt t) := by
  unfold updateReward at h
  rw [bind_eq_ok] at h
  obtain ⟨index, hindex, h⟩ := h
  obtain ⟨rfl, hclock⟩ := rewardPerToken_eq_ok hindex
  split at h
  · next hp =>
    rw [bind_eq_ok] at h
    obtain ⟨reward, hreward, h⟩ := h
    obtain ⟨rfl, hpaid⟩ := earned_eq_ok hreward
    rw [indexAt_storeIndex] at hpaid
    rw [pure_eq_ok, earnedAt_storeIndex] at h
    refine ⟨?_, hclock, fun _ => hpaid⟩
    rw [← h]
    simp [updated, checkpoint, storeIndex, hp]
  · next hp =>
    rw [pure_eq_ok] at h
    refine ⟨?_, hclock, fun h => absurd h hp⟩
    rw [← h]
    simp [updated, storeIndex, hp]

/-- The checkpoint returns when the index does and, for an account, `earned` does. -/
lemma updateReward_ok (hindex : s.rewardPerToken t = .ok (s.indexAt t))
    (hearned : p ≠ 0 → (s.storeIndex t (s.indexAt t)).earned t p = .ok (s.earnedAt t p)) :
    s.updateReward t p = .ok (s.updated t p) := by
  unfold updateReward
  rw [hindex, ok_bind]
  by_cases hp : p = 0
  · rw [if_neg (not_not.mpr hp)]
    simp [updated, storeIndex, hp]
  · rw [if_pos hp, hearned hp, ok_bind]
    simp [updated, checkpoint, storeIndex, hp]

/-! ## Vesting -/

/-- `_vestedAmount(entry)` at time `t` -/
def vestedAmount (s : Storage) (t : ℕ) (entry : VestedReward) : Exec ℕ := do
  if s.vestingPeriod = 0 then
    return entry.totalAmount.toNat
  else
    let elapsed ← subC t entry.vestingStart.toNat
    if elapsed ≥ s.vestingPeriod then
      return entry.totalAmount.toNat
    else
      let product ← mulW 256 entry.totalAmount.toNat elapsed
      divC product s.vestingPeriod

end Storage

/-- What has vested of an entry, in plain numbers, for a vesting period. -/
def vestedValue (vestingPeriod t : ℕ) (entry : VestedReward) : ℕ :=
  if vestingPeriod = 0 then entry.totalAmount.toNat
  else if t - entry.vestingStart.toNat ≥ vestingPeriod then entry.totalAmount.toNat
  else entry.totalAmount.toNat * (t - entry.vestingStart.toNat) / vestingPeriod

/-- No more vests than the entry holds. -/
lemma vestedValue_le_total (period t : ℕ) (entry : VestedReward) :
    vestedValue period t entry ≤ entry.totalAmount.toNat := by
  unfold vestedValue
  split
  · exact le_rfl
  · next h₀ =>
    split
    · exact le_rfl
    · next h =>
      refine Nat.div_le_of_le_mul ?_
      rw [mul_comm period]
      exact Nat.mul_le_mul_left _ (by omega)

/-- Vesting only goes forward in time. -/
lemma vestedValue_mono {period t t' : ℕ} (h : t ≤ t') {entry : VestedReward} :
    vestedValue period t entry ≤ vestedValue period t' entry := by
  by_cases hfull : period = 0 ∨ t' - entry.vestingStart.toNat ≥ period
  · have hvalue : vestedValue period t' entry = entry.totalAmount.toNat := by
      unfold vestedValue
      rcases hfull with h₀ | h'
      · rw [if_pos h₀]
      · rw [if_pos h', ite_self]
    rw [hvalue]
    exact vestedValue_le_total period t entry
  · have h₀ : period ≠ 0 := fun e => hfull (.inl e)
    have h₁ : ¬ t' - entry.vestingStart.toNat ≥ period := fun e => hfull (.inr e)
    unfold vestedValue
    rw [if_neg h₀, if_neg h₀, if_neg h₁, if_neg (by omega)]
    exact Nat.div_le_div_right (Nat.mul_le_mul_left _ (by omega))

namespace Storage

/-- `_vestedAmount` returns the plain value when it returns. -/
lemma vestedAmount_eq_ok {s : Storage} {t r : ℕ} {entry : VestedReward}
    (h : s.vestedAmount t entry = .ok r) : r = vestedValue s.vestingPeriod t entry := by
  unfold vestedAmount at h
  unfold vestedValue
  split at h
  · next h₀ =>
    rw [if_pos h₀]
    exact (pure_eq_ok.mp h).symm
  · next h₀ =>
    rw [bind_eq_ok] at h
    obtain ⟨elapsed, helapsed, h⟩ := h
    obtain ⟨-, rfl⟩ := subC_eq_ok.mp helapsed
    rw [if_neg h₀]
    split at h
    · next h₁ =>
      rw [if_pos h₁]
      exact (pure_eq_ok.mp h).symm
    · next h₁ =>
      simp only [bind_eq_ok, mulW_eq_ok, divC_eq_ok] at h
      obtain ⟨_, ⟨-, rfl⟩, -, rfl⟩ := h
      rw [if_neg h₁]

/-- `_vestedAmount` returns on every entry that began in the past. -/
lemma vestedAmount_ok {s : Storage} {t : ℕ} {entry : VestedReward}
    (hstart : entry.vestingStart.toNat ≤ t) (ht : t < timestampBound) :
    s.vestedAmount t entry = .ok (vestedValue s.vestingPeriod t entry) := by
  unfold vestedAmount vestedValue
  by_cases h₀ : s.vestingPeriod = 0
  · rw [if_pos h₀, if_pos h₀]
    rfl
  · rw [if_neg h₀, if_neg h₀]
    rw [subC_ok hstart, ok_bind]
    by_cases h₁ : t - entry.vestingStart.toNat ≥ s.vestingPeriod
    · rw [if_pos h₁, if_pos h₁]
      rfl
    · rw [if_neg h₁, if_neg h₁]
      simp only [bind_eq_ok, mulW_eq_ok, divC_eq_ok]
      refine ⟨_, ⟨?_, rfl⟩, h₀, rfl⟩
      calc entry.totalAmount.toNat * (t - entry.vestingStart.toNat)
          < 2 ^ 128 * 2 ^ 64 := by
            refine Nat.mul_lt_mul'' entry.totalAmount.isLt ?_
            unfold timestampBound at ht
            omega
        _ ≤ 2 ^ 256 := by norm_num

end Storage

end Moltbunker.Contracts.Staking
