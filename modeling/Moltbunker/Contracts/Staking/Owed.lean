import Moltbunker.Contracts.Staking.Ledger

/-!
# `BunkerStaking`: what the contract owes in rewards

The rewards the contract owes are of three kinds: credited to an account, vesting in an entry, and
accrued since the last checkpoint. `owed value M` adds them up in units of `1e18 * 10000`-th
tokens, counting an entry by `value` and accruals by a multiplier `M`:

    owed value M b = 1e18 * 10000 * credited value b + M * unpaid b.staked b.paid b.index.

For `M` above the multipliers in force only the passing of time adds to it, by `M` times the
emission (`owed_accrue`); a credit loses a rounding (`owed_credit`), and a stake changes hands
without changing what is owed, because its owner was credited just before (`owed_deposit`,
`owed_unbond`). The three results of the next modules are this one account read with three values
of an entry: the bounds that exclude overflow, the emission of an epoch, and solvency.
-/

namespace Moltbunker.Contracts.Staking

open Lib Function
open Finset

/-- The largest multiplier of a tier table, at least `1.0x`. -/
def largestMultiplier (tiers : Tier → TierConfig) : ℕ :=
  max bpsDenominator (max (tiers .starter).rewardMultiplierBps.toNat
    (max (tiers .bronze).rewardMultiplierBps.toNat (max (tiers .silver).rewardMultiplierBps.toNat
      (max (tiers .gold).rewardMultiplierBps.toNat (tiers .platinum).rewardMultiplierBps.toNat))))

/-- No stake is paid a larger multiplier. -/
lemma multiplierBps_le_largest {tiers : Tier → TierConfig} {x : ℕ} :
    multiplierBps tiers x ≤ largestMultiplier tiers := by
  unfold multiplierBps largestMultiplier
  split
  · exact le_max_left _ _
  · next h =>
    cases htier : tierOf tiers x with
    | none => exact absurd htier h
    | starter => simp
    | bronze => simp
    | silver => simp
    | gold => simp
    | platinum => simp

lemma largestMultiplier_lt (tiers : Tier → TierConfig) : largestMultiplier tiers < 2 ^ 16 := by
  have h := fun tier => (tiers tier).rewardMultiplierBps.isLt
  unfold largestMultiplier bpsDenominator
  simp only [max_lt_iff]
  exact ⟨by norm_num, h _, h _, h _, h _, h _⟩

namespace Books

variable {b b' : Books} {value : VestedReward → ℕ} {M : ℕ}

/-- The rewards credited to accounts and held in vesting entries, an entry counted by `value`. -/
def credited (value : VestedReward → ℕ) (b : Books) : ℕ :=
  ∑ p, (b.rewards p + ((b.vested p).map value).sum)

/-- What is owed in rewards, scaled up; accruals count with the multiplier `M`. -/
def owed (value : VestedReward → ℕ) (M : ℕ) (b : Books) : ℕ :=
  indexScale * bpsDenominator * b.credited value + M * unpaid b.staked b.paid b.index

/-- What is credited and vesting changes with one account. -/
lemma credited_change (p : Address) (hrewards : ∀ q, q ≠ p → b'.rewards q = b.rewards q)
    (hvested : ∀ q, q ≠ p → b'.vested q = b.vested q) :
    b'.credited value + (b.rewards p + ((b.vested p).map value).sum) =
      b.credited value + (b'.rewards p + ((b'.vested p).map value).sum) :=
  @sum_change_at Address _ _ (fun q => b.rewards q + ((b.vested q).map value).sum)
    (fun q => b'.rewards q + ((b'.vested q).map value).sum) p
    fun q hq => by simp only [hrewards q hq, hvested q hq]

lemma clock_le_now : b.clock ≤ b.now := by
  unfold clock
  split <;> omega

lemma clock_le_finish : b.clock ≤ b.finish := by
  unfold clock
  split <;> omega

lemma le_clock (hnow : b.last ≤ b.now) (hfinish : b.last ≤ b.finish) : b.last ≤ b.clock := by
  unfold clock
  split <;> assumption

/-- **Time adds the emission**, times the multiplier. -/
theorem owed_accrue (hledger : b.Ledger) (hpaid : ∀ p, b.paid p ≤ b.index) :
    (b.post .accrue).owed value M ≤
      b.owed value M + M * ((b.clock - b.last) * b.rate * indexScale) := by
  have hgain : unpaid b.staked b.paid (b.index + b.indexGain) ≤
      unpaid b.staked b.paid b.index + (b.clock - b.last) * b.rate * indexScale := by
    unfold indexGain
    split
    · exact Nat.le_add_right _ _
    · exact unpaid_advance_le hpaid hledger.staked_le _
  calc (b.post .accrue).owed value M
      = indexScale * bpsDenominator * b.credited value +
          M * unpaid b.staked b.paid (b.index + b.indexGain) := rfl
    _ ≤ indexScale * bpsDenominator * b.credited value +
          M * (unpaid b.staked b.paid b.index + (b.clock - b.last) * b.rate * indexScale) :=
        Nat.add_le_add_left (Nat.mul_le_mul_left _ hgain) _
    _ = b.owed value M + M * ((b.clock - b.last) * b.rate * indexScale) := by
        unfold owed
        ring

/-- **A credit does not add to what is owed**: the account gets at most its share. -/
theorem owed_credit {p : Address} (hM : multiplierBps b.tiers (b.staked p) ≤ M) :
    (b.post (.credit p)).owed value M ≤ b.owed value M := by
  by_cases hp : p = 0
  · subst hp
    simp [owed, credited, post]
  · have hcredited : (b.post (.credit p)).credited value = b.credited value + b.accruedTo p := by
      have h := @credited_change b (b.post (.credit p)) value p
        (fun q hq => by simp [post, hp, hq]) (fun q hq => rfl)
      simp only [post, ne_eq, hp, not_false_eq_true, if_true, update_self] at h ⊢
      omega
    have hunpaid : unpaid (b.post (.credit p)).staked (b.post (.credit p)).paid
        (b.post (.credit p)).index + b.staked p * (b.index - b.paid p) =
          unpaid b.staked b.paid b.index := by
      have h := unpaid_settle b.staked b.paid b.index p
      simpa only [post, ne_eq, hp, not_false_eq_true, if_true] using h
    have hshare : indexScale * bpsDenominator * b.accruedTo p ≤
        M * (b.staked p * (b.index - b.paid p)) :=
      (scaled_share_le).trans (Nat.mul_le_mul_right _ hM)
    unfold owed
    rw [hcredited, ← hunpaid, Nat.mul_add, Nat.mul_add]
    omega

/-- A deposit does not change what is owed. -/
lemma owed_deposit {p : Address} {amount : ℕ} (ha : b.Admits (.deposit p amount)) :
    (b.post (.deposit p amount)).owed value M = b.owed value M := by
  have h := unpaid_reweigh (ha.2.credited ha.1) b.staked ((b.staked p + amount) % 2 ^ 128)
  unfold owed
  simp only [post]
  rw [h]
  rfl

lemma owed_unbond {p : Address} {amount : ℕ} {unlockTime : BitVec 48}
    (ha : b.Admits (.unbond p amount unlockTime)) :
    (b.post (.unbond p amount unlockTime)).owed value M = b.owed value M := by
  have h := unpaid_reweigh (ha.2.1.credited ha.1) b.staked (b.staked p - amount)
  unfold owed
  simp only [post]
  rw [h]
  rfl

/-- A slash changes what is owed only through the entries it forfeits. -/
lemma owed_slash {p : Address} {amount : ℕ} (hledger : b.Ledger)
    (ha : b.Admits (.slash p amount)) : (b.post (.slash p amount)).owed value M +
      indexScale * bpsDenominator * ((b.vested p).map value).sum =
    b.owed value M + indexScale * bpsDenominator *
      ((b.vested p).map fun e => value (forfeitedEntry b.vestingPeriod b.now e)).sum := by
  have hsettled := ha.2.1.credited (hledger.slash_ne_zero ha)
  have hunpaid := unpaid_reweigh hsettled b.staked (b.staked p - amount)
  have hcredited := @credited_change b (b.post (.slash p amount)) value p (fun q hq => rfl)
    (fun q hq => by simp [post, hq])
  have hmap : ((b.post (.slash p amount)).vested p).map value =
      (b.vested p).map fun e => value (forfeitedEntry b.vestingPeriod b.now e) := by
    simp [post, Function.comp_def]
  rw [hmap] at hcredited
  have hcredited' : (b.post (.slash p amount)).credited value + ((b.vested p).map value).sum =
      b.credited value +
        ((b.vested p).map fun e => value (forfeitedEntry b.vestingPeriod b.now e)).sum := by
    have hr : (b.post (.slash p amount)).rewards p = b.rewards p := rfl
    omega
  unfold owed
  rw [Nat.add_right_comm, ← Nat.mul_add, hcredited', Nat.mul_add]
  simp only [post] at hunpaid ⊢
  rw [hunpaid]
  ring

/-- A claim turns a credit into a payment and an entry. -/
lemma owed_claim {p : Address} (immediate : ℕ) : (b.post (.claim p immediate)).owed value M +
      indexScale * bpsDenominator * (b.rewards p + ((b.vested p).map value).sum) =
    b.owed value M + indexScale * bpsDenominator *
      ((Storage.pushEntry (b.vested p) b.now (b.rewards p - immediate)).map value).sum := by
  have hcredited := @credited_change b (b.post (.claim p immediate)) value p
    (fun q hq => by simp [post, hq]) (fun q hq => by simp [post, hq])
  simp only [post, update_self, Nat.zero_add] at hcredited
  unfold owed
  rw [Nat.add_right_comm, ← Nat.mul_add]
  simp only [post]
  rw [hcredited]
  ring

/-- A release changes what is owed only through the entries it pays. -/
lemma owed_release {p : Address} : (b.post (.release p)).owed value M +
      indexScale * bpsDenominator * ((b.vested p).map value).sum =
    b.owed value M + indexScale * bpsDenominator *
      ((swapPop (fun e => e.releasedAmount == e.totalAmount)
        ((b.vested p).map (claimedEntry b.vestingPeriod b.now))).map value).sum := by
  have hcredited := @credited_change b (b.post (.release p)) value p (fun q hq => rfl)
    (fun q hq => by simp [post, hq])
  simp only [post, update_self] at hcredited
  have hcredited' : (b.post (.release p)).credited value + ((b.vested p).map value).sum =
      b.credited value + ((swapPop (fun e => e.releasedAmount == e.totalAmount)
        ((b.vested p).map (claimedEntry b.vestingPeriod b.now))).map value).sum := by
    simp only [post]
    omega
  unfold owed
  rw [Nat.add_right_comm, ← Nat.mul_add, hcredited', Nat.mul_add]
  simp only [post]
  ring

end Books

end Moltbunker.Contracts.Staking
