import Moltbunker.Contracts.Staking.Bounds

/-!
# `BunkerStaking`: solvency

Rewards and principal lie in one balance. The principal stays covered as long as what the balance
holds beyond it covers every reward the contract still owes: credited, vesting, accrued, and to be
emitted until the end of the epoch (`Books.Solvent`). Every posting keeps this but three, which the
contract does not guard well enough:

* `notifyRewardAmount` compares the surplus with the new epoch alone and not with what is owed
  from the epochs before, so the same tokens can back two epochs (`epoch_funded_twice`);
* `setTierRewardMultiplier` raises what accrued and is still to be emitted without looking at the
  surplus;
* a slash forfeits the unvested part of an entry again that an earlier slash already forfeited.

A run whose calls of these three kinds are covered is solvent (`principal_solvent`).
-/

namespace Moltbunker.Contracts.Staking

open Lib Function Books
open Finset

/-- What is left in an entry. -/
def remainingOf (e : VestedReward) : ℕ := e.totalAmount.toNat - e.releasedAmount.toNat

variable {t : ℕ} {self : Address} {w : World}

variable {period : ℕ} {e : VestedReward} {a : Action}

/-- A forfeiture takes its amount out of an entry that was not slashed before. -/
lemma unvested_add_remaining (h : e.releasedAmount.toNat ≤ vestedValue period t e) :
    unvestedValue period t e + remainingOf (forfeitedEntry period t e) ≤ remainingOf e := by
  unfold forfeitedEntry
  split
  · simp only [unvestedValue, remainingOf]
    omega
  · next hzero =>
    omega

/-- A claim takes its amount out of an entry. -/
lemma claimable_add_remaining (h : e.releasedAmount.toNat ≤ vestedValue period t e) :
    claimableValue period t e + remainingOf (claimedEntry period t e) = remainingOf e := by
  have hle := vestedValue_le_total period t e
  have hreleased := claimedEntry_releasedAmount period t e
  have htotal : (claimedEntry period t e).totalAmount = e.totalAmount := rfl
  unfold claimableValue remainingOf
  rw [hreleased, htotal]
  omega

/-- Entry by entry bounds add up. -/
lemma sum_map_add_le {α : Type*} {f g h : α → ℕ} {l : List α}
    (hle : ∀ x ∈ l, f x + g x ≤ h x) : (l.map f).sum + (l.map g).sum ≤ (l.map h).sum := by
  rw [← List.sum_map_add]
  exact List.sum_le_sum hle

namespace Books

variable {b : Books} {e : Posting}

/-- What the balance holds beyond the principal covers the rewards owed, and an emission of `rate`
for `duration` on top, all at the multiplier `M`. The amounts are scaled; the last token of the
surplus may be covered in part. -/
def Covers (b : Books) (M rate duration : ℕ) : Prop :=
  b.owed remainingOf M + M * (duration * rate * indexScale) <
    indexScale * bpsDenominator * (b.balance - b.locked + 1)

/-- **Solvency**: the balance covers the principal, and the surplus covers the rewards. -/
structure Solvent (b : Books) : Prop where
  principal : b.locked ≤ b.balance
  rewards : b.Covers (largestMultiplier b.tiers) b.rate (b.finish - b.last)

/-- The condition under which a posting keeps the books solvent. -/
def Safe (b : Books) : Posting → Prop
  | .slash p _ => ∀ e ∈ b.vested p, e.releasedAmount.toNat ≤ vestedValue b.vestingPeriod b.now e
  | .startEpoch rate finish => b.Covers (largestMultiplier b.tiers) rate (finish - b.now)
  | .retune _ tiers => b.Covers (largestMultiplier tiers) b.rate (b.finish - b.last)
  | _ => True

/-- What is vesting for one account is owed. -/
lemma entries_le_owed (M : ℕ) (p : Address) :
    indexScale * bpsDenominator * (b.rewards p + ((b.vested p).map remainingOf).sum) ≤
      b.owed remainingOf M :=
  (Nat.mul_le_mul_left _
    (entry_le_sum (fun q => b.rewards q + ((b.vested q).map remainingOf).sum) p)).trans
    (Nat.le_add_right _ _)

/-- The surplus covers any part of what is owed. -/
lemma Solvent.le_surplus (h : b.Solvent) {x : ℕ}
    (hx : indexScale * bpsDenominator * x ≤ b.owed remainingOf (largestMultiplier b.tiers)) :
    x ≤ b.balance - b.locked := by
  have hcover := h.rewards
  unfold Covers at hcover
  have hlt : indexScale * bpsDenominator * x <
      indexScale * bpsDenominator * (b.balance - b.locked + 1) := by omega
  exact Nat.lt_succ_iff.mp (Nat.lt_of_mul_lt_mul_left hlt)

variable {b' : Books}

/-- **Paying out a part `x` of what is owed** keeps the books solvent. -/
theorem Solvent.pay (h : b.Solvent) (x : ℕ)
    (howed : b'.owed remainingOf (largestMultiplier b.tiers) + indexScale * bpsDenominator * x ≤
      b.owed remainingOf (largestMultiplier b.tiers)) (hprincipal : b'.locked ≤ b'.balance)
    (hsurplus : b.balance - b.locked ≤ b'.balance - b'.locked + x) (htiers : b'.tiers = b.tiers)
    (hrate : b'.rate = b.rate) (htime : b'.finish - b'.last = b.finish - b.last) : b'.Solvent := by
  refine ⟨hprincipal, ?_⟩
  rw [htiers, hrate, htime]
  have hcover := h.rewards
  unfold Covers at hcover ⊢
  have hsplit : indexScale * bpsDenominator * (b.balance - b.locked + 1) ≤
      indexScale * bpsDenominator * (b'.balance - b'.locked + 1) +
        indexScale * bpsDenominator * x := by
    rw [← Nat.mul_add]
    exact Nat.mul_le_mul_left _ (by omega)
  omega

/-- A posting that pays no reward. -/
lemma Solvent.of_surplus (h : b.Solvent)
    (howed : b'.owed remainingOf (largestMultiplier b.tiers) ≤
      b.owed remainingOf (largestMultiplier b.tiers)) (hprincipal : b'.locked ≤ b'.balance)
    (hsurplus : b.balance - b.locked ≤ b'.balance - b'.locked) (htiers : b'.tiers = b.tiers)
    (hrate : b'.rate = b.rate) (htime : b'.finish - b'.last = b.finish - b.last) : b'.Solvent :=
  h.pay 0 (by rw [Nat.mul_zero, Nat.add_zero]; exact howed) hprincipal hsurplus htiers hrate htime

/-- What accrues was to be emitted. -/
lemma Solvent.accrue (h : b.Solvent) (hledger : b.Ledger) (hbounded : b.Bounded) :
    (b.post .accrue).Solvent := by
  refine ⟨h.principal, ?_⟩
  have howed := @owed_accrue b remainingOf (largestMultiplier b.tiers) hledger hbounded.paid_le
  have hle := le_clock hbounded.last_le_now hbounded.last_le_finish
  have hfin := b.clock_le_finish
  have hsplit : largestMultiplier b.tiers * ((b.finish - b.last) * b.rate * indexScale) =
      largestMultiplier b.tiers * ((b.clock - b.last) * b.rate * indexScale) +
        largestMultiplier b.tiers * ((b.finish - b.clock) * b.rate * indexScale) := by
    rw [show b.finish - b.last = (b.clock - b.last) + (b.finish - b.clock) by omega]
    ring
  have hcover := h.rewards
  unfold Covers at hcover ⊢
  show (b.post .accrue).owed remainingOf (largestMultiplier b.tiers) +
    largestMultiplier b.tiers * ((b.finish - b.clock) * b.rate * indexScale) <
      indexScale * bpsDenominator * (b.balance - b.locked + 1)
  omega

variable {p : Address}

/-- A claim pays out of what was credited. -/
lemma Solvent.claim {immediate : ℕ} (h : b.Solvent) (hle : immediate ≤ b.rewards p) :
    (b.post (.claim p immediate)).Solvent := by
  have howed := @owed_claim b remainingOf (largestMultiplier b.tiers) p immediate
  have hpush : ((Storage.pushEntry (b.vested p) b.now (b.rewards p - immediate)).map
      remainingOf).sum ≤ ((b.vested p).map remainingOf).sum + (b.rewards p - immediate) := by
    unfold Storage.pushEntry
    split
    · rw [List.map_append, List.sum_append]
      have := toNat_ofNat_le 128 (b.rewards p - immediate)
      simpa [remainingOf] using this
    · exact Nat.le_add_right _ _
  have hpaid : ((Storage.pushEntry (b.vested p) b.now (b.rewards p - immediate)).map
      remainingOf).sum + immediate ≤ b.rewards p + ((b.vested p).map remainingOf).sum := by omega
  have hscaled := Nat.mul_le_mul_left (indexScale * bpsDenominator) hpaid
  rw [Nat.mul_add] at hscaled
  have hsurplus : immediate ≤ b.balance - b.locked := by
    refine h.le_surplus (le_trans ?_ (b.entries_le_owed _ p))
    exact Nat.mul_le_mul_left _ (hle.trans (Nat.le_add_right _ _))
  have hprincipal := h.principal
  have hbalance : (b.post (.claim p immediate)).balance = b.balance - immediate := rfl
  have hlocked : (b.post (.claim p immediate)).locked = b.locked := rfl
  exact h.pay immediate (by omega) (by omega) (by omega) rfl rfl rfl

/-- A release pays out of what was vesting. -/
lemma Solvent.release (h : b.Solvent) (ha : b.Admits (.release p)) :
    (b.post (.release p)).Solvent := by
  have howed := @owed_release b remainingOf (largestMultiplier b.tiers) p
  have hkept : ((swapPop (fun e => e.releasedAmount == e.totalAmount)
      ((b.vested p).map (claimedEntry b.vestingPeriod b.now))).map remainingOf).sum =
      ((b.vested p).map fun e => remainingOf (claimedEntry b.vestingPeriod b.now e)).sum := by
    rw [sum_map_swapPop, List.map_map]
    · rfl
    · intro e _ he
      rw [beq_iff_eq] at he
      simp [remainingOf, he]
  have hpaid : b.claimable p +
      ((b.vested p).map fun e => remainingOf (claimedEntry b.vestingPeriod b.now e)).sum ≤
        ((b.vested p).map remainingOf).sum :=
    sum_map_add_le fun e he => (claimable_add_remaining (ha e he)).le
  have hscaled := Nat.mul_le_mul_left (indexScale * bpsDenominator) hpaid
  rw [Nat.mul_add] at hscaled
  have hsurplus : b.claimable p ≤ b.balance - b.locked := by
    refine h.le_surplus (le_trans ?_ (b.entries_le_owed _ p))
    exact Nat.mul_le_mul_left _ (by omega)
  have hprincipal := h.principal
  have hbalance : (b.post (.release p)).balance = b.balance - b.claimable p := rfl
  have hlocked : (b.post (.release p)).locked = b.locked := rfl
  rw [hkept] at howed
  exact h.pay (b.claimable p) (by omega) (by omega) (by omega) rfl rfl rfl

/-- A slash of an account whose entries were not slashed before forfeits out of what was vesting.
That keeps the forfeiture within the surplus: the cap of the contract alone does not, since it
reads the balance before the slashed stake has left it. -/
lemma Solvent.slash {amount : ℕ} (h : b.Solvent) (hledger : b.Ledger)
    (ha : b.Admits (.slash p amount)) (hsafe : b.Safe (.slash p amount)) :
    (b.post (.slash p amount)).Solvent := by
  have howed := @owed_slash b remainingOf (largestMultiplier b.tiers) p amount hledger ha
  have hpaid : b.unvested p +
      ((b.vested p).map fun e => remainingOf (forfeitedEntry b.vestingPeriod b.now e)).sum ≤
        ((b.vested p).map remainingOf).sum :=
    sum_map_add_le fun e he => unvested_add_remaining (hsafe e he)
  have hforfeits : b.forfeits p amount ≤ b.unvested p := min_le_left _ _
  have hscaled := Nat.mul_le_mul_left (indexScale * bpsDenominator)
    ((Nat.add_le_add_right hforfeits _).trans hpaid)
  rw [Nat.mul_add] at hscaled
  have hsurplus : b.forfeits p amount ≤ b.balance - b.locked := by
    refine h.le_surplus (le_trans ?_ (b.entries_le_owed _ p))
    exact Nat.mul_le_mul_left _ (by omega)
  have hprincipal := h.principal
  -- the principal shrinks by exactly the slashed amount
  obtain ⟨-, -, hle, hstake, -, hqueue⟩ := ha
  have hfrom : b.fromStake p amount + b.fromQueue p amount = amount := by
    rw [hledger.fromQueue_eq hle]
    unfold fromStake
    omega
  have hbalance : (b.post (.slash p amount)).balance =
      b.balance - (amount + b.forfeits p amount) := rfl
  have hlocked : (b.post (.slash p amount)).locked + amount = b.locked := by
    simp only [locked, post]
    omega
  exact h.pay (b.forfeits p amount) (by omega) (by omega) (by omega) rfl rfl rfl

/-- **Every safe posting keeps the books solvent.** -/
theorem Solvent.post (h : b.Solvent) (hledger : b.Ledger) (hbounded : b.Bounded)
    (ha : b.Admits e) (hsafe : b.Safe e) : (b.post e).Solvent := by
  have hprincipal := h.principal
  cases e with
  | tick t => exact h.of_surplus le_rfl hprincipal le_rfl rfl rfl rfl
  | accrue => exact h.accrue hledger hbounded
  | credit p =>
    exact h.of_surplus (owed_credit multiplierBps_le_largest)
      hprincipal le_rfl rfl rfl rfl
  | deposit p amount =>
    refine h.of_surplus (owed_deposit ha).le ?_ ?_ rfl rfl rfl
    all_goals
      simp only [locked, post] at hprincipal ⊢
      omega
  | unbond p amount unlockTime =>
    have htotal : amount ≤ b.totalStaked := ha.2.2.2.1
    refine h.of_surplus (owed_unbond ha).le ?_ ?_ rfl rfl rfl
    all_goals
      simp only [locked, post] at hprincipal ⊢
      omega
  | withdraw p i req =>
    have htotal : req.amount.toNat ≤ b.totalUnbonding := ha.2.2.2
    refine h.of_surplus le_rfl ?_ ?_ rfl rfl rfl
    all_goals
      simp only [locked, post] at hprincipal ⊢
      omega
  | slash p amount => exact h.slash hledger ha hsafe
  | claim p immediate => exact h.claim ha
  | release p => exact h.release ha
  | startEpoch rate finish => exact ⟨hprincipal, hsafe⟩
  | retune vestingPeriod tiers => exact ⟨hprincipal, hsafe⟩
  | donate amount =>
    refine h.of_surplus le_rfl ?_ ?_ rfl rfl rfl
    all_goals
      simp only [locked, post] at hprincipal ⊢
      omega

end Books

/-! ## Runs -/

/-- The condition on a step: a new epoch is covered together with what is owed when it starts, a
new multiplier is covered for all that is owed and still to be emitted, and a slash hits entries
that were not slashed before. -/
def SolvencyGuard (self : Address) (w : World) : Action → Prop
  | .call _ t (.notifyRewardAmount reward) =>
    (((w.books self).post (.tick t)).post .accrue).Covers
      (largestMultiplier w.staking.tierConfigs) (w.staking.notifiedRate t reward)
      w.staking.rewardsDuration
  | .call _ _ (.setTierRewardMultiplier tier multiplierBps) =>
    (w.books self).Covers
      (largestMultiplier (update w.staking.tierConfigs tier
        { w.staking.tierConfigs tier with rewardMultiplierBps := multiplierBps }))
      w.staking.rewardRate (w.staking.periodFinish - w.staking.lastUpdateTime)
  | .call _ t c => ∀ p, slashTarget w.staking c = some p → ReleasedVested w.staking t p
  | _ => True

/-- A new minimum does not change the multipliers. -/
lemma largestMultiplier_minStake (tiers : Tier → TierConfig) (tier : Tier) (minStake : ℕ) :
    largestMultiplier (update tiers tier { tiers tier with minStake := minStake }) =
      largestMultiplier tiers := by
  have h : ∀ x, (update tiers tier { tiers tier with minStake := minStake }
      x).rewardMultiplierBps = (tiers x).rewardMultiplierBps :=
    read_update_self TierConfig.rewardMultiplierBps rfl
  unfold largestMultiplier
  simp only [h]

/-- A slash that meets the condition hits entries that were not slashed before. -/
lemma SolvencyGuard.slash {sender p : Address} {c : ExtCall}
    (hG : SolvencyGuard self w (.call sender t c)) (hc : slashTarget w.staking c = some p) :
    ReleasedVested w.staking t p := by
  cases c with
  | notifyRewardAmount reward => cases hc
  | setTierRewardMultiplier tier bps => cases hc
  | _ => exact hG p hc

/-- **A guarded step posts safely.** -/
theorem safe_step (hw : (w.books self).Solvent) (hG : SolvencyGuard self w a) (d : ℕ) :
    LabelsMeet Books.Safe post (w.books self) (stepJournal self w a ++ [.donate d]) := by
  refine labels_step ?_ ?_ (fun _ _ _ _ => trivial) ?_ ?_ d
  · intro b e he
    cases e with
    | slash _ _ | startEpoch _ _ | retune _ _ => cases he
    | _ => trivial
  · rintro sender t c p amount rfl hc
    exact hG.slash hc
  · rintro sender t reward rfl
    show Books.Covers _ _ _ (t + w.staking.rewardsDuration - t)
    rw [Nat.add_sub_cancel_left]
    exact hG
  · rintro sender t c period tiers rfl hc
    cases c with
    | setVestingParams _ _ =>
      cases hc
      exact hw.rewards
    | setTierMinStake tier minStake =>
      cases hc
      show Books.Covers _ (largestMultiplier (update w.staking.tierConfigs tier _)) _ _
      rw [largestMultiplier_minStake]
      exact hw.rewards
    | setTierRewardMultiplier tier bps =>
      cases hc
      exact hG
    | _ => cases hc

/-- **A guarded step keeps the contract solvent.** -/
theorem solvent_step {w' : World} (hs : Sound self w) (hw : (w.books self).Solvent)
    (hG : SolvencyGuard self w a) (h : Step self w a w') : (w'.books self).Solvent := by
  obtain ⟨⟨d, hrun⟩, -⟩ := step_refines hs.toWorldOk h
  have hinv := hrun.invariant_of_labels (G := Books.Safe)
    (P := fun b => b.Ledger ∧ b.Bounded ∧ b.Solvent)
    (fun b e hb hsafe ha => ⟨hb.1.post ha, hb.2.1.post hb.1 ha, hb.2.2.post hb.1 hb.2.1 ha hsafe⟩)
    ⟨hs.ledger, hs.bounded, hw⟩ (safe_step hw hG d)
  exact hinv.2.2

lemma solvent_deployed (h : Deployed self w) : (w.books self).Solvent := by
  obtain ⟨treasury, owner, hs⟩ := books_deployed h
  unfold World.books
  rw [hs]
  refine ⟨Nat.zero_le _, ?_⟩
  simp [Books.Covers, owed, credited, unpaid, Storage.books, Storage.deployed,
    indexScale, bpsDenominator]

/-- **Principal solvency.** In every run from a deployment in which each new epoch and each new
multiplier is covered and each slash hits entries that were not slashed before, the token balance
covers the stakes and the unbonding requests in every state. -/
theorem principal_solvent {self : Address} {w₀ : World} {l : List (Action × World)}
    (hdep : Deployed self w₀) (hl : Path (Step self) w₀ l)
    (hG : StepsMeet (SolvencyGuard self) w₀ l) :
    StatesMeet (fun w => w.staking.totalStaked + w.staking.totalUnbonding ≤
      w.token.balanceOf self) w₀ l := by
  have hinv : StatesMeet (fun w => Sound self w ∧ (w.books self).Solvent) w₀ l :=
    hl.invariant_of_steps
      (fun w a w' hw hg hs => ⟨hw.1.step hs, solvent_step hw.1 hw.2 hg hs⟩)
      ⟨.deployed hdep, solvent_deployed hdep⟩ hG
  exact hinv.mono fun w hw => hw.2.principal

/-- Before the first epoch nothing is owed. -/
lemma Books.Bounded.owed_eq_zero {b : Books} (h : b.Bounded) (hlast : b.last = 0) {M : ℕ}
    (hM : M ≤ 2 ^ 16) : b.owed remainingOf M = 0 := by
  have hle : b.owed remainingOf M ≤ b.owed totalOf (2 ^ 16) := by
    refine Nat.add_le_add (Nat.mul_le_mul_left _ ?_) (Nat.mul_le_mul_right _ hM)
    refine Finset.sum_le_sum fun p _ => Nat.add_le_add_left ?_ _
    exact List.sum_le_sum fun e _ => Nat.sub_le _ _
  have hbound := h.owed_le
  rw [hlast] at hbound
  have hzero : 2 ^ 16 * emissionBound 0 = 0 := rfl
  omega

theorem principal_solvent_oneEpoch :
    (World.fresh.trace 100 (stakeAndFund ++ oneEpoch)).length = 7 ∧
      StatesMeet (fun w => w.staking.totalStaked + w.staking.totalUnbonding ≤
        w.token.balanceOf 100) World.fresh (World.fresh.trace 100 (stakeAndFund ++ oneEpoch)) := by
  refine ⟨by decide +kernel, principal_solvent (World.fresh_deployed (by decide))
    (World.trace_path _) ?_⟩
  rw [World.trace, trace_append _ (by decide +kernel), ← World.trace, stepsMeet_append]
  constructor
  · refine stepsMeet_of_mem fun x hx w => ?_
    have hmem := mem_of_mem_trace hx
    simp only [stakeAndFund, List.mem_cons, List.not_mem_nil, or_false] at hmem
    rcases hmem with h | h | h | h <;> rw [h]
    · trivial
    · trivial
    · exact fun p hp => by simp [slashTarget] at hp
    · trivial
  · refine stepsMeet_trace_cons ?_ fun w => stepsMeet_of_mem fun x hx w => ?_
    · -- nothing is owed when the first epoch starts
      have hs : Sound 100 (endState World.fresh (World.fresh.trace 100 stakeAndFund)) :=
        .reached (World.fresh_reached (by decide) _)
      have hbounded := (hs.bounded.tick (t := 0) ⟨by decide +kernel, by decide⟩).accrue
        (hs.ledger.post (e := .tick 0) ⟨by decide +kernel, by decide⟩)
      have howed := hbounded.owed_eq_zero (by decide +kernel)
        (largestMultiplier_lt (endState World.fresh
          (World.fresh.trace 100 stakeAndFund)).staking.tierConfigs).le
      unfold SolvencyGuard Books.Covers
      dsimp only
      rw [howed]
      decide +kernel
    · have hmem := mem_of_mem_trace hx
      simp only [List.mem_cons, List.not_mem_nil, or_false] at hmem
      rcases hmem with h | h <;> rw [h]
      · exact fun p hp => by simp [slashTarget] at hp
      · exact fun p hp => by simp [slashTarget] at hp

/-- A second epoch is announced on the tokens that back the first. -/
def twoEpochs : List Action :=
  [.call 2 0 (.notifyRewardAmount (604800 * 10 ^ 18)),
    .call 2 604800 (.notifyRewardAmount (604800 * 10 ^ 18)), .call 3 1209600 .claimRewards,
    .call 3 (1209600 + 90 * 86400) .claimVestedRewards]

/-- The rewards of two epochs that the same tokens back are paid out of the stake. -/
theorem epoch_funded_twice :
    ∃ w, Reached 100 w ∧
      w.token.balanceOf 100 < w.staking.totalStaked + w.staking.totalUnbonding :=
  ⟨_, World.fresh_reached (by decide) (stakeAndFund ++ twoEpochs), by decide +kernel⟩

end Moltbunker.Contracts.Staking
