import Moltbunker.Contracts.Staking.Owed

/-!
# `BunkerStaking`: no overflow

The reward arithmetic multiplies stakes, index differences and multipliers in 256 bits. It never
overflows on a chain whose time fits 64 bits: the rate of an epoch is at most the token supply, so
the contract can owe at most supply times seconds, and every product of the reward functions is a
part of that (`Bounded.owed_le`). With the order of the reward clock and of the checkpoints this
makes the checkpoint of every account return in every reachable state (`updateReward_returns`).
-/

namespace Moltbunker.Contracts.Staking

open Lib Storage
open Finset

/-- The most that could ever have been emitted until time `t`, in units of the index. -/
def emissionBound (t : ℕ) : ℕ := indexScale * supplyCap * t

variable {t : ℕ} {self : Address} {w : World}

lemma emissionBound_mono {t' : ℕ} (h : t ≤ t') : emissionBound t ≤ emissionBound t' :=
  Nat.mul_le_mul_left _ h

/-- An emission at a rate below the supply keeps within the bound. -/
lemma emissionBound_add {rate last t : ℕ} (hrate : rate ≤ supplyCap) (hle : last ≤ t) :
    emissionBound last + (t - last) * rate * indexScale ≤ emissionBound t := by
  have hstep : (t - last) * rate * indexScale ≤ (t - last) * supplyCap * indexScale :=
    Nat.mul_le_mul_right _ (Nat.mul_le_mul_left _ hrate)
  have hsplit : emissionBound t = emissionBound last + (t - last) * supplyCap * indexScale := by
    unfold emissionBound
    obtain ⟨d, rfl⟩ := Nat.exists_eq_add_of_le hle
    rw [Nat.add_sub_cancel_left]
    ring
  omega

/-- Everything below `2 ^ 16` times the bound fits a word. -/
lemma emissionBound_lt (h : t < timestampBound) : 2 ^ 16 * emissionBound t < 2 ^ 256 :=
  calc 2 ^ 16 * emissionBound t
      ≤ 2 ^ 16 * emissionBound timestampBound := Nat.mul_le_mul_left _ (emissionBound_mono h.le)
    _ < 2 ^ 256 := by decide

/-- What the entries were opened with. -/
def totalOf (e : VestedReward) : ℕ := e.totalAmount.toNat

namespace Books

/-- Clocks, checkpoints and amounts are in order. -/
structure Bounded (b : Books) : Prop where
  last_le_now : b.last ≤ b.now
  last_le_finish : b.last ≤ b.finish
  now_lt : b.now < timestampBound
  paid_le : ∀ p, b.paid p ≤ b.index
  rate_le : b.rate ≤ supplyCap
  index_le : b.index ≤ emissionBound b.last
  owed_le : b.owed totalOf (2 ^ 16) ≤ 2 ^ 16 * emissionBound b.last
  started : ∀ p, ∀ e ∈ b.vested p, e.vestingStart.toNat ≤ b.now

variable {b : Books} {e : Posting}

variable {t amount : ℕ} {p : Address}

lemma Bounded.tick (h : b.Bounded) (ha : b.Admits (.tick t)) : (b.post (.tick t)).Bounded :=
  { h with
    last_le_now := h.last_le_now.trans ha.1
    now_lt := ha.2
    started := fun p e he => (h.started p e he).trans ha.1 }

lemma Bounded.accrue (h : b.Bounded) (hledger : b.Ledger) : (b.post .accrue).Bounded := by
  have hclock := le_clock h.last_le_now h.last_le_finish
  have hemit := emissionBound_add h.rate_le hclock
  have hgain : b.indexGain ≤ (b.clock - b.last) * b.rate * indexScale := by
    unfold indexGain
    split
    · exact Nat.zero_le _
    · exact Nat.div_le_self _ _
  have howed := @owed_accrue b totalOf (2 ^ 16) hledger h.paid_le
  refine ⟨b.clock_le_now, b.clock_le_finish, h.now_lt,
    fun p => (h.paid_le p).trans (Nat.le_add_right _ _), h.rate_le, ?_, ?_, h.started⟩
  · show b.index + b.indexGain ≤ emissionBound b.clock
    exact (Nat.add_le_add h.index_le hgain).trans hemit
  · show (b.post .accrue).owed totalOf (2 ^ 16) ≤ 2 ^ 16 * emissionBound b.clock
    calc (b.post .accrue).owed totalOf (2 ^ 16)
        ≤ 2 ^ 16 * emissionBound b.last + 2 ^ 16 * ((b.clock - b.last) * b.rate * indexScale) :=
          howed.trans (Nat.add_le_add_right h.owed_le _)
      _ = 2 ^ 16 * (emissionBound b.last + (b.clock - b.last) * b.rate * indexScale) := by ring
      _ ≤ 2 ^ 16 * emissionBound b.clock := Nat.mul_le_mul_left _ hemit

lemma Bounded.credit (h : b.Bounded) (p : Address) : (b.post (.credit p)).Bounded := by
  have hM : multiplierBps b.tiers (b.staked p) ≤ 2 ^ 16 :=
    (multiplierBps_le_largest).trans (largestMultiplier_lt _).le
  refine { h with
    paid_le := fun q => ?_
    owed_le := (owed_credit hM).trans h.owed_le }
  by_cases hp : p = 0
  · simpa [post, hp] using h.paid_le q
  · by_cases hq : q = p
    · simp [post, hp, hq]
    · simpa [post, hp, hq] using h.paid_le q

/-- The entries after a claim began in the past. -/
lemma started_pushEntry {entries : List VestedReward}
    (h : ∀ e ∈ entries, e.vestingStart.toNat ≤ t) :
    ∀ e ∈ pushEntry entries t amount, e.vestingStart.toNat ≤ t := by
  unfold pushEntry
  split
  · intro e he
    rcases List.mem_append.mp he with he | he
    · exact h e he
    · rw [List.mem_singleton] at he
      subst he
      exact toNat_ofNat_le 48 t
  · exact h

/-- A claim opens an entry of at most what it leaves to vest. -/
lemma totalOf_pushEntry (entries : List VestedReward) (t amount : ℕ) :
    ((pushEntry entries t amount).map totalOf).sum ≤
      (entries.map totalOf).sum + amount := by
  unfold pushEntry
  split
  · rw [List.map_append, List.sum_append]
    have := toNat_ofNat_le 128 amount
    simpa [totalOf] using this
  · exact Nat.le_add_right _ _

variable (h : b.Bounded)
include h

lemma Bounded.claim {immediate : ℕ} : (b.post (.claim p immediate)).Bounded := by
  have howed := @owed_claim b totalOf (2 ^ 16) p immediate
  have hpush := totalOf_pushEntry (b.vested p) b.now (b.rewards p - immediate)
  have hle : ((pushEntry (b.vested p) b.now (b.rewards p - immediate)).map totalOf).sum ≤
      b.rewards p + ((b.vested p).map totalOf).sum := by omega
  have hmul := Nat.mul_le_mul_left (indexScale * bpsDenominator) hle
  refine { h with
    owed_le := ?_
    started := fun q => ?_ }
  · show (b.post (.claim p immediate)).owed totalOf (2 ^ 16) ≤ 2 ^ 16 * emissionBound b.last
    have := h.owed_le
    omega
  · by_cases hq : q = p
    · subst hq
      simpa [post] using started_pushEntry (h.started q)
    · simpa [post, hq] using h.started q

lemma Bounded.release : (b.post (.release p)).Bounded := by
  have howed := @owed_release b totalOf (2 ^ 16) p
  have hle := sum_map_swapPop_le totalOf (fun e => e.releasedAmount == e.totalAmount)
    ((b.vested p).map (claimedEntry b.vestingPeriod b.now))
  have hsame : (((b.vested p).map (claimedEntry b.vestingPeriod b.now)).map totalOf) =
      (b.vested p).map totalOf := by simp [Function.comp_def, totalOf, claimedEntry]
  rw [hsame] at hle
  have hmul := Nat.mul_le_mul_left (indexScale * bpsDenominator) hle
  refine { h with
    owed_le := ?_
    started := fun q => ?_ }
  · show (b.post (.release p)).owed totalOf (2 ^ 16) ≤ 2 ^ 16 * emissionBound b.last
    have := h.owed_le
    omega
  · by_cases hq : q = p
    · subst hq
      intro e he
      simp only [post, Function.update_self, mem_swapPop, List.mem_map] at he
      obtain ⟨⟨e', he', rfl⟩, -⟩ := he
      exact h.started q e' he'
    · simpa [post, hq] using h.started q

lemma Bounded.slash (hledger : b.Ledger) (ha : b.Admits (.slash p amount)) :
    (b.post (.slash p amount)).Bounded := by
  have howed := @owed_slash b totalOf (2 ^ 16) p amount hledger ha
  have hsame : (fun e => totalOf (forfeitedEntry b.vestingPeriod b.now e)) = totalOf := by
    funext e
    unfold forfeitedEntry totalOf
    split <;> rfl
  rw [hsame] at howed
  refine { h with
    owed_le := ?_
    started := fun q => ?_ }
  · show (b.post (.slash p amount)).owed totalOf (2 ^ 16) ≤ 2 ^ 16 * emissionBound b.last
    have := h.owed_le
    omega
  · by_cases hq : q = p
    · subst hq
      intro e he
      simp only [post, Function.update_self, List.mem_map] at he
      obtain ⟨e', he', rfl⟩ := he
      have := h.started q e' he'
      unfold forfeitedEntry
      split <;> exact this
    · simpa [post, hq] using h.started q

lemma Bounded.startEpoch {rate finish : ℕ}
    (ha : b.Admits (.startEpoch rate finish)) : (b.post (.startEpoch rate finish)).Bounded :=
  { h with
    last_le_now := le_rfl
    last_le_finish := ha.1
    rate_le := ha.2
    index_le := h.index_le.trans (emissionBound_mono h.last_le_now)
    owed_le := h.owed_le.trans (Nat.mul_le_mul_left _ (emissionBound_mono h.last_le_now)) }

/-- **Every posting keeps the bounds.** -/
theorem Bounded.post (hledger : b.Ledger) (ha : b.Admits e) : (b.post e).Bounded := by
  cases e with
  | tick t => exact h.tick ha
  | accrue => exact h.accrue hledger
  | credit p => exact h.credit p
  | deposit p amount => exact { h with owed_le := (owed_deposit ha).le.trans h.owed_le }
  | unbond p amount unlockTime =>
    exact { h with owed_le := (owed_unbond ha).le.trans h.owed_le }
  | withdraw p i req => exact { h with }
  | slash p amount => exact h.slash hledger ha
  | claim p immediate => exact h.claim
  | release p => exact h.release
  | startEpoch rate finish => exact h.startEpoch ha
  | retune vestingPeriod tiers => exact { h with }
  | donate amount => exact { h with }

/-! ## What the bounds give -/

lemma Bounded.lt_word {x : ℕ} (hx : x ≤ 2 ^ 16 * emissionBound b.last) : x < 2 ^ 256 :=
  hx.trans_lt (emissionBound_lt (h.last_le_now.trans_lt h.now_lt))

/-- The share that an account accrued is within the bound, also after its multiplier. -/
lemma Bounded.share_le (p : Address) :
    2 ^ 16 * (b.staked p * (b.index - b.paid p)) ≤ 2 ^ 16 * emissionBound b.last :=
  (Nat.mul_le_mul_left _ (share_le_unpaid b.staked b.paid b.index p)).trans
    ((Nat.le_add_left _ _).trans h.owed_le)

/-- What one account was credited and has vesting is within the bound. -/
lemma Bounded.credited_le (p : Address) :
    b.rewards p + ((b.vested p).map totalOf).sum ≤ 2 ^ 16 * emissionBound b.last :=
  calc b.rewards p + ((b.vested p).map totalOf).sum
      ≤ b.credited totalOf :=
        entry_le_sum (fun q => b.rewards q + ((b.vested q).map totalOf).sum) p
    _ ≤ indexScale * bpsDenominator * b.credited totalOf :=
        Nat.le_mul_of_pos_left _ (by decide)
    _ ≤ 2 ^ 16 * emissionBound b.last := (Nat.le_add_right _ _).trans h.owed_le

/-- What one account would be credited is within the bound. -/
lemma Bounded.accruedTo_add_rewards_le :
    b.accruedTo p + b.rewards p ≤ 2 ^ 16 * emissionBound b.last := by
  have hM : multiplierBps b.tiers (b.staked p) ≤ 2 ^ 16 :=
    (multiplierBps_le_largest).trans (largestMultiplier_lt _).le
  have hshare : indexScale * bpsDenominator * b.accruedTo p ≤
      2 ^ 16 * unpaid b.staked b.paid b.index :=
    (scaled_share_le).trans
      (Nat.mul_le_mul hM (share_le_unpaid b.staked b.paid b.index p))
  have hrewards : b.rewards p ≤ b.credited totalOf :=
    (Nat.le_add_right _ _).trans
      (entry_le_sum (fun q => b.rewards q + ((b.vested q).map totalOf).sum) p)
  calc b.accruedTo p + b.rewards p
      ≤ indexScale * bpsDenominator * (b.accruedTo p + b.rewards p) :=
        Nat.le_mul_of_pos_left _ (by decide)
    _ = indexScale * bpsDenominator * b.accruedTo p + indexScale * bpsDenominator * b.rewards p :=
        Nat.mul_add _ _ _
    _ ≤ 2 ^ 16 * unpaid b.staked b.paid b.index +
          indexScale * bpsDenominator * b.credited totalOf :=
        Nat.add_le_add hshare (Nat.mul_le_mul_left _ hrewards)
    _ = b.owed totalOf (2 ^ 16) := Nat.add_comm _ _
    _ ≤ 2 ^ 16 * emissionBound b.last := h.owed_le

/-- A sum of parts of the entries of one account fits a word. -/
lemma Bounded.entries_lt {part : VestedReward → ℕ}
    (hpart : ∀ e, part e ≤ totalOf e) : ((b.vested p).map part).sum < 2 ^ 256 := by
  refine h.lt_word (le_trans ?_ ((Nat.le_add_left _ _).trans (h.credited_le p)))
  exact List.sum_le_sum fun e _ => hpart e

end Books

section Returns

variable {s : Storage} {now balance t : ℕ}

variable (hledger : (s.books now balance).Ledger) (hbounded : (s.books now balance).Bounded)
  (hle : now ≤ t) (ht : t < timestampBound)
include hledger hbounded hle ht

/-- The books when the index is brought up to date at time `t`. -/
lemma Books.Bounded.upTo :
    ((s.books t balance).post .accrue).Ledger ∧ ((s.books t balance).post .accrue).Bounded := by
  have hledger' : (s.books t balance).Ledger := Books.Ledger.post (e := .tick t) hledger ⟨hle, ht⟩
  have hbounded' : (s.books t balance).Bounded := hbounded.tick ⟨hle, ht⟩
  exact ⟨hledger'.post trivial, hbounded'.accrue hledger'⟩

/-- `rewardPerToken` returns. -/
lemma rewardPerToken_returns : s.rewardPerToken t = .ok (s.indexAt t) := by
  have h₁ := (hbounded.upTo hledger hle ht).2
  have hclock : s.lastUpdateTime ≤ s.lastTimeRewardApplicable t :=
    @Books.le_clock (s.books t balance) (hbounded.last_le_now.trans hle) hbounded.last_le_finish
  have hemit := @emissionBound_add s.rewardRate _ _ hbounded.rate_le hclock
  refine rewardPerToken_ok hclock (h₁.lt_word ?_) (h₁.lt_word ?_)
  · exact ((Nat.le_add_left _ _).trans hemit).trans (Nat.le_mul_of_pos_left _ (by norm_num))
  · exact h₁.index_le.trans (Nat.le_mul_of_pos_left _ (by norm_num))

/-- `earned` returns for every account. -/
lemma earned_returns (p : Address) : s.earned t p = .ok (s.earnedAt t p) := by
  have h₁ := (hbounded.upTo hledger hle ht).2
  have hshare := h₁.share_le p
  refine earned_ok (rewardPerToken_returns hledger hbounded hle ht) (h₁.paid_le p)
    (h₁.lt_word ?_) (h₁.lt_word ?_) (h₁.lt_word h₁.accruedTo_add_rewards_le)
  · exact (Nat.le_mul_of_pos_left _ (by norm_num)).trans hshare
  · refine le_trans ?_ hshare
    rw [Nat.mul_comm (2 ^ 16)]
    exact Nat.mul_le_mul (Nat.div_le_self _ _)
      ((multiplierBps_le_largest).trans (largestMultiplier_lt _).le)

/-- **The checkpoint returns** for every account. -/
theorem updateReward_returns (p : Address) : s.updateReward t p = .ok (s.updated t p) := by
  obtain ⟨hledger₁, hbounded₁⟩ := hbounded.upTo hledger hle ht
  refine updateReward_ok (rewardPerToken_returns hledger hbounded hle ht) fun _ => ?_
  have hearned := @earned_returns (s.storeIndex t (s.indexAt t)) t balance t hledger₁ hbounded₁
    le_rfl ht p
  rw [hearned, earnedAt_storeIndex]

end Returns

/-! ## Along runs -/

/-- What every reachable world has: the ledger, the parameters and the bounds. -/
structure Sound (contract : Address) (w : World) : Prop extends Kept contract w where
  bounded : (w.books contract).Bounded

lemma Sound.deployed (h : Deployed self w) : Sound self w := by
  obtain ⟨treasury, owner, hs⟩ := books_deployed h
  have hnow := h.2.1
  refine ⟨.deployed h, ?_⟩
  unfold World.books
  rw [hs]
  refine ⟨Nat.zero_le _, le_rfl, hnow, fun _ => le_rfl, Nat.zero_le _, Nat.zero_le _, ?_, ?_⟩
  · simp [Books.owed, Books.credited, unpaid, Storage.books, Storage.deployed]
  · simp [Storage.books, Storage.deployed]

/-- **Every step keeps the bounds.** -/
theorem Sound.step {w w' : World} {a : Action} (hw : Sound self w)
    (h : Step self w a w') : Sound self w' := by
  obtain ⟨⟨d, hrun⟩, -⟩ := step_refines hw.toWorldOk h
  refine ⟨hw.toKept.step h, ?_⟩
  have hinv := hrun.invariant (P := fun b => b.Ledger ∧ b.Bounded)
    (fun _ _ _ hb ha => ⟨hb.1.post ha, hb.2.post hb.1 ha⟩) ⟨hw.ledger, hw.bounded⟩
  exact hinv.2

lemma Sound.reached (h : Reached self w) : Sound self w := by
  obtain ⟨w₀, hdep, hreach⟩ := h
  exact Reachable.invariant (P := Sound self) (fun _ _ _ hw hs => hw.step hs) (.deployed hdep)
    hreach

end Moltbunker.Contracts.Staking
