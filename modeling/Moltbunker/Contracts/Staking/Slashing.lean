import Moltbunker.Contracts.Staking.Bounds

/-!
# `BunkerStaking`: when a slash lands

A slash reverts when its amount exceeds the slashable balance, and also when the tokens are not
there: the cap on what it forfeits on top of the amount is computed from counters that are already
reduced while the slashed tokens are still in the contract, so the amount is counted twice.
`slash_step_iff` is the exact condition in every reachable state whose balance covers the stake
counters, and `forfeiture_capped_iff` says when the cap keeps them covered.
-/

namespace Moltbunker.Contracts.Staking

open Lib Storage

/-- The tokens of a payout can be handed out iff the contract has that many. -/
lemma runCalls_payoutCalls_iff {self : Address} {s : Storage} {T : Token supplyCap}
    {total burnBps : ℕ} (hself : self ≠ 0) (htreasury : s.treasury ≠ 0)
    (hbps : burnBps ≤ bpsDenominator) :
    (∃ T', Token.runCalls self (s.payoutCalls total burnBps) T = .ok T') ↔
      total ≤ T.balanceOf self := by
  have hle : total * burnBps / bpsDenominator ≤ total :=
    Nat.div_le_of_le_mul (by rw [mul_comm bpsDenominator]; exact Nat.mul_le_mul_left _ hbps)
  unfold Storage.payoutCalls
  generalize total * burnBps / bpsDenominator = burned at hle ⊢
  have hcons : ∀ cs, (∃ T', Token.runCalls self (.burn burned :: cs) T = .ok T') ↔
      ∃ T₁, Token.burn self burned T = .ok T₁ ∧ ∃ T', Token.runCalls self cs T₁ = .ok T' := by
    intro cs
    simp only [Token.runCalls, Token.runCall, bind_eq_ok]
    constructor
    · rintro ⟨T', T₁, h₁, h⟩
      exact ⟨T₁, h₁, T', h⟩
    · rintro ⟨T₁, h₁, T', h⟩
      exact ⟨T', T₁, h₁, h⟩
  rw [hcons]
  constructor
  · rintro ⟨T₁, hburn, T', hrest⟩
    obtain ⟨hburned, -, hbal⟩ := Token.burn_eq_ok hburn
    split at hrest
    · rw [Token.runCalls, bind_eq_ok] at hrest
      obtain ⟨T₂, htransfer, -⟩ := hrest
      obtain ⟨-, -, hv, -⟩ := Token.transfer_eq_ok.mp htransfer
      rw [hbal, Function.update_self] at hv
      omega
    · omega
  · intro htotal
    obtain ⟨T₁, hburn⟩ := Token.burn_ok hself (hle.trans htotal)
    obtain ⟨-, -, hbal⟩ := Token.burn_eq_ok hburn
    have hbal₁ : T₁.balanceOf self = T.balanceOf self - burned := by
      rw [hbal, Function.update_self]
    refine ⟨T₁, hburn, ?_⟩
    split
    · have hv : total - burned ≤ T₁.balanceOf self := by omega
      refine ⟨T₁.move self s.treasury _ hv, ?_⟩
      rw [Token.runCalls, Token.runCall, Token.transfer_ok hself htreasury hv]
      rfl
    · exact ⟨T₁, rfl⟩

/-- The forfeiture cap counts the slashed amount a second time. -/
lemma slashTotal_le_iff {s : Storage} {m : Msg} {p : Address} {amount : ℕ}
    (hledger : (s.books m.timestamp m.balance).Ledger) (hle : amount ≤ s.slashable p)
    (hcover : s.totalStaked + s.totalUnbonding ≤ m.balance) : s.slashTotal m p amount ≤ m.balance ↔
    amount + s.unvestedTotal m.timestamp p ≤ m.balance ∨
      2 * amount ≤ s.totalStaked + s.totalUnbonding := by
  have hstaked : (s.providers p).stakedAmount.toNat ≤ s.totalStaked := hledger.staked_le_total
  have hunbonding : (s.providers p).totalUnbonding.toNat ≤ s.totalUnbonding :=
    hledger.unbonding_le_total
  have hqueue : (s.providers p).totalUnbonding.toNat = openAmount (s.unstakeQueues p) :=
    hledger.queue_eq p
  unfold slashable at hle
  have havailable : s.availableForForfeit m.balance p amount =
      m.balance + amount - (s.totalStaked + s.totalUnbonding) := by
    unfold availableForForfeit
    omega
  unfold slashTotal
  omega

section Landing

variable {self sender p : Address} {w : World} {t amount : ℕ}

variable (hw : Sound self w) (ht : w.Admits t) (hrole : w.staking.isSlasher sender = true)
  (henabled : w.staking.slashingEnabled = true) (hne : amount ≠ 0)
  (hcover : w.staking.totalStaked + w.staking.totalUnbonding ≤ w.token.balanceOf self)
include hw ht hrole henabled hne hcover

/-- A slash that the provider can pay returns, and hands out its total. -/
lemma slash_returns (hle : amount ≤ w.staking.slashable p) :
    ∃ s', exec (w.msg self sender t) w.staking (.slash p amount) =
      .ok (s', w.staking.payoutCalls (w.staking.slashTotal (w.msg self sender t) p amount)
        (BitVec.ofNat 16 w.staking.slashBurnBps).toNat) := by
  have hupdate : w.staking.updateReward t p = .ok (w.staking.updated t p) :=
    updateReward_returns hw.ledger hw.bounded ht.1 ht.2 p
  have hbps : (BitVec.ofNat 16 w.staking.slashBurnBps).toNat ≤ bpsDenominator :=
    (toNat_ofNat_le _ _).trans hw.parameters.burnBps
  have hstart : ∀ e ∈ w.staking.vestedRewards p, e.vestingStart.toNat ≤ t :=
    fun e he => (hw.bounded.started p e he).trans ht.1
  have hsum : w.staking.unvestedTotal t p < 2 ^ 256 :=
    hw.bounded.entries_lt fun e => Nat.sub_le _ _
  have hcap : w.token.balanceOf self < 2 ^ 128 :=
    (w.token.balanceOf_le_cap self).trans_lt supplyCap_lt
  obtain ⟨s', hs'⟩ := @internalExecuteSlash_ok (w.staking.updated t p)
    (w.msg self sender t) p amount (BitVec.ofNat 16 w.staking.slashBurnBps).toNat hne hle
    hw.ledger.staked_le_total (hw.ledger.queue_eq p).symm hw.ledger.unbonding_le_total
    hcover hcap hbps ht.2 hstart hsum
  refine ⟨s', ?_⟩
  show w.staking.slashWithoutAppeal (w.msg self sender t) p amount = _
  simp only [slashWithoutAppeal, bind_eq_ok, onlySlasher_eq_ok, revertIf_eq_ok]
  exact ⟨(), hrole, _, hupdate, (), by simp [updated, henabled], hs'⟩

/-- **When a slash lands.** -/
theorem slash_step_iff (hself : self ≠ 0) (hsender : sender ≠ self) (hzero : sender ≠ 0) :
    (∃ w', Step self w (.call sender t (.slash p amount)) w') ↔ amount ≤ w.staking.slashable p ∧
        (amount + w.staking.unvestedTotal t p ≤ w.token.balanceOf self ∨
          2 * amount ≤ w.staking.totalStaked + w.staking.totalUnbonding) := by
  have hbps : (BitVec.ofNat 16 w.staking.slashBurnBps).toNat ≤ bpsDenominator :=
    (toNat_ofNat_le _ _).trans hw.parameters.burnBps
  have hledger : (w.staking.books t (w.token.balanceOf self)).Ledger :=
    Books.Ledger.post (e := .tick t) hw.ledger ht
  have hpay : ∀ hle : amount ≤ w.staking.slashable p,
      ((∃ T', Token.runCalls self (w.staking.payoutCalls
          (w.staking.slashTotal (w.msg self sender t) p amount)
          (BitVec.ofNat 16 w.staking.slashBurnBps).toNat) w.token = .ok T') ↔
        (amount + w.staking.unvestedTotal t p ≤ w.token.balanceOf self ∨
          2 * amount ≤ w.staking.totalStaked + w.staking.totalUnbonding)) := by
    intro hle
    rw [runCalls_payoutCalls_iff hself hw.parameters.treasury hbps]
    exact slashTotal_le_iff (m := w.msg self sender t) hledger hle hcover
  constructor
  · rintro ⟨w', hstep⟩
    obtain ⟨_, -, -, -, hexec, htoken, -⟩ := call_of_step hstep
    obtain ⟨-, -, -, info', hslash⟩ := Storage.slashWithoutAppeal_eq_ok hexec
    have hle : amount ≤ w.staking.slashable p := hslash.amount_le
    obtain ⟨s', hs'⟩ := slash_returns hw ht hrole henabled hne hcover hle
    have hexec' : exec (w.msg self sender t) w.staking (.slash p amount) = _ := hexec
    rw [hs'] at hexec'
    cases hexec'
    exact ⟨hle, (hpay hle).mp ⟨_, htoken⟩⟩
  · rintro ⟨hle, hroom⟩
    obtain ⟨s', hs'⟩ := slash_returns hw ht hrole henabled hne hcover hle
    obtain ⟨T', hT'⟩ := (hpay hle).mpr hroom
    exact ⟨_, step_call ht hsender hzero hs' hT'⟩

end Landing

/-! ## The forfeiture cap -/

/-- What the balance holds beyond the stake counters. -/
def Storage.rewardPool (s : Storage) (balance : ℕ) : ℕ :=
  balance - s.totalStaked - s.totalUnbonding

/-- What the stake and the open requests of a provider give to a slash of `amount`. -/
def Storage.taken (s : Storage) (p : Address) (amount : ℕ) : ℕ :=
  min amount (s.providers p).stakedAmount.toNat +
    min (amount - (s.providers p).stakedAmount.toNat) (openAmount (s.unstakeQueues p))

/-- **The cap on what a slash forfeits** bounds what leaves the contract by the amount and the
reward pool, and leaves the balance above the counters, exactly when it is not needed: when the
amount and the unvested rewards are within the pool and what the provider gives. -/
theorem forfeiture_capped_iff {s : Storage} {m : Msg} {p : Address} {amount burnBps : ℕ}
    {r : Outcome} (hcover : s.totalStaked + s.totalUnbonding ≤ m.balance)
    (h : s.internalExecuteSlash m p amount burnBps = .ok r) :
    (outflow r.2 ≤ amount + s.rewardPool m.balance ∧
      r.1.totalStaked + r.1.totalUnbonding + outflow r.2 ≤ m.balance) ↔
    amount + s.unvestedTotal m.timestamp p ≤ s.rewardPool m.balance + s.taken p amount := by
  obtain ⟨info', hslash⟩ := internalExecuteSlash_eq_ok h
  have hne := hslash.amount_ne
  have hstake := hslash.fromActive_le
  have hqueue := hslash.fromQueue_le
  have htotals : r.1.totalStaked + r.1.totalUnbonding + s.taken p amount =
      s.totalStaked + s.totalUnbonding := by
    rw [hslash.storage]
    simp only [afterSlash, taken]
    omega
  have hcap : s.availableForForfeit m.balance p amount =
      s.rewardPool m.balance + s.taken p amount := by
    unfold availableForForfeit rewardPool taken
    omega
  have htaken : s.taken p amount ≤ amount := by
    unfold taken
    omega
  have hpool : s.rewardPool m.balance + (s.totalStaked + s.totalUnbonding) = m.balance := by
    unfold rewardPool
    omega
  rw [hslash.outflow, slashTotal, hcap]
  omega

/-- A provider with a stake of `100` and `50` in rewards that have just started to vest. -/
def vestingProvider : Storage :=
  { Storage.deployed 1 2 with
    totalStaked := 100
    providers := Function.update (fun _ => .zero) 3 { ProviderInfo.zero with stakedAmount := 100 }
    vestedRewards := Function.update (fun _ => []) 3 [⟨50, 0, 0⟩] }

theorem forfeiture_capped_fullPool :
    ∃ r, vestingProvider.internalExecuteSlash ⟨2, 0, 200⟩ 3 40 8000 = .ok r ∧
      outflow r.2 ≤ 40 + vestingProvider.rewardPool 200 ∧
      r.1.totalStaked + r.1.totalUnbonding + outflow r.2 ≤ 200 := by
  cases h : vestingProvider.internalExecuteSlash ⟨2, 0, 200⟩ 3 40 8000 with
  | ok r => exact ⟨r, rfl, (forfeiture_capped_iff (by decide) h).mpr (by decide +kernel)⟩
  | error e =>
    have hok : (vestingProvider.internalExecuteSlash ⟨2, 0, 200⟩ 3 40 8000).isOk = true := by
      decide +kernel
    rw [h] at hok
    cases hok

/-- **The slashed amount is counted twice.** The contract holds the stake and nothing else, so the
reward pool is empty; a slash of `40` hands out `80`, and what is left does not cover the stakes. -/
theorem amount_forfeited_again :
    vestingProvider.totalStaked + vestingProvider.totalUnbonding ≤ 100 ∧
      ∃ r ∈ (vestingProvider.internalExecuteSlash ⟨2, 0, 100⟩ 3 40 8000).toOption,
        outflow r.2 ≤ 100 ∧ ¬ outflow r.2 ≤ 40 + vestingProvider.rewardPool 100 ∧
        ¬ r.1.totalStaked + r.1.totalUnbonding + outflow r.2 ≤ 100 := by
  decide +kernel

end Moltbunker.Contracts.Staking
