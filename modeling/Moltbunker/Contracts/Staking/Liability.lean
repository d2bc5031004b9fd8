import Moltbunker.Contracts.Staking.RewardClock
import Moltbunker.Contracts.Staking.Emission

/-!
# `BunkerStaking`: the liability of an epoch

`notifyRewardAmount` checks that the unlocked balance covers the new epoch at the multiplier cap,
and `setMaxTierMultiplierBps` repeats the check for a new cap. An `EpochTrack` follows one epoch
through a run: the index between its start and its end, what the accounts were credited for it,
and the largest cap that a check used for it. What all accounts accrue for the time of the epoch is
at most what was checked (`epoch_liability_bounded`), if no tier pays more than the cap when the
epoch starts. A cap that is lowered below the multipliers in force breaks it
(`cap_below_multipliers`): the check then counts the epoch at less than it pays.
-/

namespace Moltbunker.Contracts.Staking

open Lib Function
open Finset

/-! ## One epoch in a run -/

/-- An epoch, followed through a run. -/
structure EpochTrack where
  /-- the index at which it started -/
  start : ℕ
  /-- the index at which another epoch replaced it -/
  stop : Option ℕ
  /-- the largest multiplier that a solvency check used for it -/
  cap : ℕ
  /-- what the accounts were credited for its time -/
  credited : Address → ℕ

namespace EpochTrack

/-- The epoch that has just started. -/
def begun (s : Storage) : EpochTrack where
  start := s.rewardPerTokenStored
  stop := none
  cap := s.maxTierMultiplierBps
  credited _ := 0

variable (g : EpochTrack)

/-- The index, as far as it belongs to the epoch. -/
def upper (index : ℕ) : ℕ :=
  match g.stop with
  | none => index
  | some j => min index j

/-- What `p` has accrued for the time of the epoch since it was last credited, by the formula of
`earned`. -/
def pendingAt (s : Storage) (t : ℕ) (p : Address) : ℕ :=
  accrued s.tierConfigs (s.providers p).stakedAmount.toNat
    (g.upper (s.indexAt t) - max (s.userRewardPerTokenPaid p) g.start)

/-- What all accounts have accrued for the time of the epoch until time `t`. -/
def accruedBy (s : Storage) (t : ℕ) : ℕ :=
  ∑ p, (g.credited p + g.pendingAt s t p)

/-- `p` is credited with what it has accrued. -/
def credit (s : Storage) (t : ℕ) (p : Address) : EpochTrack :=
  { g with credited := update g.credited p (g.credited p + g.pendingAt s t p) }

end EpochTrack

/-- The account whose rewards a call checkpoints. -/
def creditedAccount (s : Storage) (sender : Address) : ExtCall → Option Address
  | .stake _ => some sender
  | .stakeWithIdentity _ _ _ _ => some sender
  | .requestUnstake _ => some sender
  | .claimRewards => some sender
  | .slash p _ => some p
  | .slashImmediate p _ => some p
  | .executeSlash id => some (s.slashProposals id).provider
  | .resolveAppeal id true => some (s.slashProposals id).provider
  | _ => none

namespace EpochTrack

variable (g : EpochTrack)

/-- The epoch after a step. A further epoch replaces it; a check of `setMaxTierMultiplierBps` that
is made while it runs counts for it. -/
def next (w : World) : Action → EpochTrack
  | .call _ t (.notifyRewardAmount _) => { g with stop := some (g.upper (w.staking.indexAt t)) }
  | .call _ t (.setMaxTierMultiplierBps newMax) =>
    if g.stop = none ∧ t < w.staking.periodFinish ∧ 0 < w.staking.rewardRate then
      { g with cap := max g.cap newMax.toNat }
    else g
  | .call sender t c =>
    match creditedAccount w.staking sender c with
    | some p => if p ≠ 0 then g.credit w.staking t p else g
    | none => g
  | _ => g

/-- The epoch after a run. -/
def after (g : EpochTrack) : World → List (Action × World) → EpochTrack
  | _, [] => g
  | w, (a, w') :: rest => (g.next w a).after w' rest

/-- While the epoch runs the contract itself keeps the multipliers under the cap. From its last
second on, no multiplier is set above what was checked for it. -/
def Guard (w : World) : Action → Prop
  | .call _ t (.setTierRewardMultiplier _ multiplierBps) =>
    g.stop ≠ none ∨ w.staking.periodFinish ≤ t → multiplierBps.toNat ≤ g.cap
  | _ => True

/-- Every step of the run meets the guard. -/
def Guarded (g : EpochTrack) : World → List (Action × World) → Prop
  | _, [] => True
  | w, (a, w') :: rest => g.Guard w a ∧ (g.next w a).Guarded w' rest

/-! ## In the books -/

/-- What `p` has accrued for the epoch since it was last credited, read from the books. -/
def pending (b : Books) (p : Address) : ℕ :=
  accrued b.tiers (b.staked p) (g.upper b.index - max (b.paid p) g.start)

/-- The epoch after a posting. -/
def post (b : Books) : Posting → EpochTrack
  | .credit p =>
    if p ≠ 0 then
      { g with credited := update g.credited p (g.credited p + g.pending b p) }
    else g
  | .startEpoch _ _ => { g with stop := some (g.upper b.index) }
  | _ => g

/-- The epoch after a list of postings. -/
def posts (g : EpochTrack) (b : Books) : List Posting → EpochTrack
  | [] => g
  | e :: rest => (g.post b e).posts (b.post e) rest

/-- What the accounts were credited and have accrued for the epoch, scaled up; accruals count with
the cap. -/
def liability (b : Books) : ℕ :=
  indexScale * bpsDenominator * ∑ p, g.credited p +
    g.cap * unpaid b.staked (fun p => max (b.paid p) g.start) (g.upper b.index)

/-- The seconds of the epoch that the stored index covers. -/
def seconds (t₀ duration : ℕ) (b : Books) : ℕ :=
  match g.stop with
  | none => b.last - t₀
  | some _ => duration

/-- The epoch of the track pays `rate` from `t₀` for `duration` seconds, and the books keep its
liability within the emission at the cap. -/
structure Within (rate t₀ duration : ℕ) (g : EpochTrack) (b : Books) : Prop where
  start_le : g.start ≤ b.index
  cap_pos : 0 < g.cap
  tiers_le : rate = 0 ∨ largestMultiplier b.tiers ≤ g.cap
  running : g.stop = none → b.rate = rate ∧ b.finish = t₀ + duration ∧ t₀ ≤ b.last
  stop_le : ∀ j, g.stop = some j → j ≤ b.index
  liability_le : g.liability b ≤ g.cap * (g.seconds t₀ duration b * rate * indexScale)

variable {g : EpochTrack} {b b' : Books} {rate t₀ duration : ℕ}

lemma upper_le (index : ℕ) : g.upper index ≤ index := by
  unfold upper
  split
  · exact le_rfl
  · exact min_le_left _ _

section Within

variable (h : g.Within rate t₀ duration b)
include h

/-- **An account accrues at most its share at the cap.** In an epoch that pays nothing there is no
share. -/
theorem Within.pending_le (p : Address) : indexScale * bpsDenominator * g.pending b p ≤
      g.cap * (b.staked p * (g.upper b.index - max (b.paid p) g.start)) := by
  rcases h.tiers_le with hrate | htiers
  · have hle := h.liability_le
    have hshare := share_le_unpaid b.staked (fun p => max (b.paid p) g.start) (g.upper b.index) p
    rw [hrate, Nat.mul_zero, Nat.zero_mul, Nat.mul_zero, Nat.le_zero] at hle
    obtain ⟨-, hzero⟩ := Nat.add_eq_zero_iff.mp hle
    have hunpaid := (Nat.mul_eq_zero.mp hzero).resolve_left h.cap_pos.ne'
    rw [hunpaid, Nat.le_zero] at hshare
    unfold pending accrued
    rw [hshare, Nat.zero_div, Nat.zero_mul, Nat.zero_div, Nat.mul_zero]
    exact Nat.zero_le _
  · exact (scaled_share_le).trans
      (Nat.mul_le_mul_right _ ((multiplierBps_le_largest).trans htiers))

/-- What the accounts accrue together is within the emission. -/
lemma Within.total_le : indexScale * bpsDenominator * ∑ p, (g.credited p + g.pending b p) ≤
      g.cap * (g.seconds t₀ duration b * rate * indexScale) := by
  refine le_trans ?_ h.liability_le
  unfold liability unpaid
  rw [Finset.sum_add_distrib, Nat.mul_add]
  refine Nat.add_le_add_left ?_ _
  rw [Finset.mul_sum, Finset.mul_sum]
  exact Finset.sum_le_sum fun p _ => h.pending_le p

/-- The seconds that count are at most the duration. -/
lemma Within.seconds_le (hb : b.Bounded) : g.seconds t₀ duration b ≤ duration := by
  unfold seconds
  split
  · next hstop =>
    have hlast := hb.last_le_finish
    have hfinish := (h.running hstop).2.1
    omega
  · exact le_rfl

/-! ### One posting -/

/-- A posting that moves no accrual keeps the bound. -/
lemma Within.of_eq (htiers : b'.tiers = b.tiers)
    (hrate : b'.rate = b.rate) (hfinish : b'.finish = b.finish) (hlast : b'.last = b.last)
    (hindex : b'.index = b.index)
    (hunpaid : unpaid b'.staked (fun p => max (b'.paid p) g.start) (g.upper b.index) =
      unpaid b.staked (fun p => max (b.paid p) g.start) (g.upper b.index)) :
    g.Within rate t₀ duration b' := by
  refine ⟨hindex ▸ h.start_le, h.cap_pos, htiers ▸ h.tiers_le, ?_, hindex ▸ h.stop_le, ?_⟩
  · rw [hrate, hfinish, hlast]
    exact h.running
  · have hle := h.liability_le
    unfold liability seconds at hle ⊢
    rwa [hindex, hunpaid, hlast]

end Within

/-- A settled account changes its stake. -/
lemma unpaid_stake {p : Address} (hp : b.paid p = b.index) (x : ℕ) :
    unpaid (update b.staked p x) (fun p => max (b.paid p) g.start) (g.upper b.index) =
      unpaid b.staked (fun p => max (b.paid p) g.start) (g.upper b.index) := by
  have hle : g.upper b.index ≤ max (b.paid p) g.start :=
    (g.upper_le _).trans (hp.ge.trans (le_max_left _ _))
  exact @unpaid_reweigh_beyond Address _ (fun p => max (b.paid p) g.start) _ _ p hle b.staked x

lemma Within.accrue (h : g.Within rate t₀ duration b) (hledger : b.Ledger) (hb : b.Bounded) :
    g.Within rate t₀ duration (b.post .accrue) := by
  have hclock := Books.le_clock hb.last_le_now hb.last_le_finish
  have hbase : ∀ p, max (b.paid p) g.start ≤ b.index := fun p => max_le (hb.paid_le p) h.start_le
  refine ⟨h.start_le.trans (Nat.le_add_right _ _), h.cap_pos, h.tiers_le, fun hstop => ?_,
    fun j hj => (h.stop_le j hj).trans (Nat.le_add_right _ _), ?_⟩
  · obtain ⟨hrate, hfinish, hlast⟩ := h.running hstop
    exact ⟨hrate, hfinish, hlast.trans hclock⟩
  · have hle := h.liability_le
    cases hstop : g.stop with
    | none =>
      obtain ⟨hrate, -, hlast⟩ := h.running hstop
      have hgain : unpaid b.staked (fun p => max (b.paid p) g.start) (b.index + b.indexGain) ≤
          unpaid b.staked (fun p => max (b.paid p) g.start) b.index +
            (b.clock - b.last) * rate * indexScale := by
        unfold Books.indexGain
        rw [hrate]
        split
        · exact Nat.le_add_right _ _
        · exact unpaid_advance_le hbase hledger.staked_le _
      have hsplit : (b.clock - t₀) * rate * indexScale =
          (b.last - t₀) * rate * indexScale + (b.clock - b.last) * rate * indexScale := by
        rw [← Nat.add_mul, ← Nat.add_mul]
        congr 2
        omega
      simp only [liability, seconds, upper, hstop] at hle ⊢
      show _ + g.cap * unpaid b.staked (fun p => max (b.paid p) g.start)
        (b.index + b.indexGain) ≤ g.cap * ((b.clock - t₀) * rate * indexScale)
      rw [hsplit, Nat.mul_add]
      have hmul := Nat.mul_le_mul_left g.cap hgain
      rw [Nat.mul_add] at hmul
      omega
    | some j =>
      -- the index beyond the end of the epoch does not count
      have hj := h.stop_le j hstop
      have hmin : min (b.index + b.indexGain) j = min b.index j := by omega
      simp only [liability, seconds, upper, hstop] at hle ⊢
      show _ + g.cap * unpaid b.staked _ (min (b.index + b.indexGain) j) ≤ _
      rwa [hmin]

lemma Within.credit (h : g.Within rate t₀ duration b) (p : Address) :
    (g.post b (.credit p)).Within rate t₀ duration (b.post (.credit p)) := by
  by_cases hp : p = 0
  · subst hp
    exact h.of_eq rfl rfl rfl rfl rfl rfl
  have hpost : g.post b (.credit p) =
      { g with credited := update g.credited p (g.credited p + g.pending b p) } :=
    if_pos hp
  have hpaid : (b.post (.credit p)).paid = update b.paid p b.index := if_pos hp
  rw [hpost]
  refine ⟨h.start_le, h.cap_pos, h.tiers_le, h.running, h.stop_le, le_trans ?_ h.liability_le⟩
  have hsum := total_update g.credited p (g.credited p + g.pending b p)
  have hunpaid := unpaid_settle_beyond b.staked (fun p => max (b.paid p) g.start) p
    ((g.upper_le b.index).trans (le_max_left b.index g.start))
  have hpending := h.pending_le p
  unfold liability
  show indexScale * bpsDenominator * ∑ q, update g.credited p _ q +
    g.cap * unpaid b.staked (fun q => max ((b.post (.credit p)).paid q) g.start)
      (g.upper b.index) ≤ _
  rw [hpaid, read_update (fun x => max x g.start), ← hunpaid, Nat.mul_add]
  have hcredited : ∑ q, update g.credited p (g.credited p + g.pending b p) q =
      ∑ q, g.credited q + g.pending b p := by omega
  rw [hcredited, Nat.mul_add]
  omega

/-- Another epoch replaces this one, which then counts in full. -/
lemma Within.startEpoch {newRate finish : ℕ} (h : g.Within rate t₀ duration b)
    (hb : b.Bounded) : (g.post b (.startEpoch newRate finish)).Within rate t₀ duration
    (b.post (.startEpoch newRate finish)) := by
  have hupper : ({ g with stop := some (g.upper b.index) } : EpochTrack).upper b.index =
      g.upper b.index := min_eq_right (g.upper_le _)
  refine ⟨h.start_le, h.cap_pos, h.tiers_le, fun hstop => by simp [post] at hstop,
    fun j hj => ?_, ?_⟩
  · obtain rfl : g.upper b.index = j := by simpa [post] using hj
    exact g.upper_le _
  · show _ + g.cap * unpaid b.staked _
      (({ g with stop := some (g.upper b.index) } : EpochTrack).upper b.index) ≤
        g.cap * (duration * rate * indexScale)
    rw [hupper]
    refine h.liability_le.trans (Nat.mul_le_mul_left _ ?_)
    exact Nat.mul_le_mul_right _ (Nat.mul_le_mul_right _ (h.seconds_le hb))

/-- The tiers that a posting sets are within the cap, or the epoch pays nothing. -/
def TiersWithin (rate cap : ℕ) (_ : Books) : Posting → Prop
  | .retune _ tiers => rate = 0 ∨ largestMultiplier tiers ≤ cap
  | _ => True

/-- **Every posting keeps the liability of the epoch within its emission.** -/
theorem Within.post (h : g.Within rate t₀ duration b) (hledger : b.Ledger) (hb : b.Bounded)
    {e : Posting} (ha : b.Admits e) (hG : TiersWithin rate g.cap b e) :
    (g.post b e).Within rate t₀ duration (b.post e) := by
  cases e with
  | accrue => exact h.accrue hledger hb
  | credit p => exact h.credit p
  | deposit p amount =>
    exact h.of_eq rfl rfl rfl rfl rfl (g.unpaid_stake (ha.2.credited ha.1) _)
  | unbond p amount unlockTime =>
    exact h.of_eq rfl rfl rfl rfl rfl (g.unpaid_stake (ha.2.1.credited ha.1) _)
  | slash p amount =>
    exact h.of_eq rfl rfl rfl rfl rfl
      (g.unpaid_stake (ha.2.1.credited (hledger.slash_ne_zero ha)) _)
  | startEpoch newRate finish => exact h.startEpoch hb
  | retune vestingPeriod tiers =>
    exact ⟨h.start_le, h.cap_pos, hG, h.running, h.stop_le, h.liability_le⟩
  | _ => exact h.of_eq rfl rfl rfl rfl rfl rfl

/-- A check at a larger cap counts the epoch at the larger cap. -/
lemma Within.raise (h : g.Within rate t₀ duration b) {cap : ℕ} (hle : g.cap ≤ cap) :
    ({ g with cap := cap } : EpochTrack).Within rate t₀ duration b := by
  refine ⟨h.start_le, h.cap_pos.trans_le hle, h.tiers_le.imp_right fun hM => hM.trans hle,
    h.running, h.stop_le, ?_⟩
  have hbound := h.liability_le
  have hunpaid : unpaid b.staked (fun p => max (b.paid p) g.start) (g.upper b.index) ≤
      g.seconds t₀ duration b * rate * indexScale :=
    Nat.le_of_mul_le_mul_left ((Nat.le_add_left _ _).trans hbound) h.cap_pos
  obtain ⟨more, rfl⟩ := Nat.exists_eq_add_of_le hle
  have hmore := Nat.mul_le_mul_left more hunpaid
  show _ + (g.cap + more) * _ ≤ (g.cap + more) * _
  rw [Nat.add_mul, Nat.add_mul]
  exact (Nat.add_assoc _ _ _).symm.le.trans (Nat.add_le_add hbound hmore)

/-! ### The postings of a step -/

@[simp] lemma post_cap (g : EpochTrack) (b : Books) (e : Posting) : (g.post b e).cap = g.cap := by
  cases e with
  | credit p =>
    unfold post
    dsimp only
    split <;> rfl
  | _ => rfl

variable {l : List Posting}

lemma Within.posts (h : g.Within rate t₀ duration b) (hledger : b.Ledger) (hb : b.Bounded)
    (hrun : Journal b l b') (hG : LabelsMeet (TiersWithin rate g.cap) Books.post b l) :
    (g.posts b l).Within rate t₀ duration b' := by
  induction l generalizing g b with
  | nil =>
    have heq : b = b' := hrun
    exact heq ▸ h
  | cons e l ih =>
    refine ih (h.post hledger hb hrun.1 hG.1) (hledger.post hrun.1) (hb.post hledger hrun.1)
      hrun.2 ?_
    rw [post_cap]
    exact hG.2

/-- A step is its postings, up to what `setMaxTierMultiplierBps` adds to the cap. -/
lemma next_eq_posts (self : Address) {w : World} {a : Action}
    (ha : ∀ sender t newMax, a ≠ .call sender t (.setMaxTierMultiplierBps newMax)) (d : ℕ) :
    g.next w a = g.posts (w.books self) (stepJournal self w a ++ [.donate d]) := by
  have hproposal : ∀ t x,
      (if x.provider ≠ 0 then g.credit w.staking t x.provider else g) =
        g.posts (w.books self) (.tick t :: proposalJournal w.staking x ++ [.donate d]) := by
    intro t x
    unfold proposalJournal
    by_cases hzero : min x.amount (w.staking.slashable x.provider) = 0
    · rw [if_pos hzero]
      rfl
    · rw [if_neg hzero]
      rfl
  cases a with
  | call sender t c =>
    cases c with
    | setMaxTierMultiplierBps newMax => exact absurd rfl (ha sender t newMax)
    | completeUnstake i =>
      simp only [stepJournal, callJournal]
      split <;> rfl
    | executeSlash id => exact hproposal t _
    | resolveAppeal id uphold =>
      cases uphold with
      | true => exact hproposal t _
      | false => rfl
    | _ => rfl
  | _ => rfl

/-- No posting revives an epoch. -/
lemma stop_of_posts (h : (g.posts b l).stop = none) : g.stop = none := by
  induction l generalizing g b with
  | nil => exact h
  | cons e l ih =>
    have hpost : (g.post b e).stop = none := ih h
    cases e with
    | credit p =>
      unfold post at hpost
      dsimp only at hpost
      split at hpost <;> exact hpost
    | startEpoch _ _ => cases hpost
    | _ => exact hpost

lemma posts_cap (g : EpochTrack) (b : Books) : (g.posts b l).cap = g.cap := by
  induction l generalizing g b with
  | nil => rfl
  | cons e l ih => exact (ih _ _).trans (post_cap g b e)

end EpochTrack

/-! ## Along runs -/

variable {tier : Tier} {tiers : Tier → TierConfig} {M : ℕ}

lemma le_largestMultiplier (h : tier ≠ .none) :
    (tiers tier).rewardMultiplierBps.toNat ≤ largestMultiplier tiers := by
  unfold largestMultiplier
  cases tier with
  | none => exact absurd rfl h
  | _ => simp

lemma largestMultiplier_le (hM : bpsDenominator ≤ M)
    (h : ∀ tier, tier ≠ .none → (tiers tier).rewardMultiplierBps.toNat ≤ M) :
    largestMultiplier tiers ≤ M := by
  unfold largestMultiplier
  simp only [max_le_iff]
  exact ⟨hM, h _ nofun, h _ nofun, h _ nofun, h _ nofun, h _ nofun⟩

/-- One tier is set. -/
lemma largestMultiplier_update {config : TierConfig} (h : largestMultiplier tiers ≤ M)
    (hconfig : tier ≠ .none → config.rewardMultiplierBps.toNat ≤ M) :
    largestMultiplier (update tiers tier config) ≤ M := by
  refine largestMultiplier_le ((le_max_left _ _).trans h) fun tier' htier' => ?_
  by_cases heq : tier' = tier
  · subst heq
    rw [update_self]
    exact hconfig htier'
  · rw [update_of_ne heq]
    exact (le_largestMultiplier htier').trans h

/-- No tier pays more than the cap. -/
def TiersCapped (s : Storage) : Prop :=
  ∀ tier, tier ≠ .none → (s.tierConfigs tier).rewardMultiplierBps.toNat ≤ s.maxTierMultiplierBps

/-- What a run keeps of an epoch. While it runs, the cap of the contract is one that was checked. -/
structure EpochSound (contract : Address) (rate t₀ duration : ℕ) (g : EpochTrack) (w : World) :
    Prop where
  sound : Sound contract w
  within : g.Within rate t₀ duration (w.books contract)
  checked : g.stop = none → w.now < t₀ + duration → 0 < rate →
    w.staking.maxTierMultiplierBps ≤ g.cap

section Steps

variable {self : Address} {rate t₀ duration : ℕ} {g : EpochTrack} {w w' : World} {a : Action}

/-- The tiers that a step sets are within the cap. -/
lemma EpochSound.tiersWithin (h : EpochSound self rate t₀ duration g w) (hG : g.Guard w a)
    (hs : Step self w a w') (d : ℕ) :
    LabelsMeet (EpochTrack.TiersWithin rate g.cap) Books.post (w.books self)
      (stepJournal self w a ++ [.donate d]) := by
  refine labels_step ?_ (fun _ _ _ _ _ _ _ => trivial) (fun _ _ _ _ => trivial)
    (fun _ _ _ _ => trivial) ?_ d
  · intro b e he
    cases e with
    | retune _ _ => cases he
    | _ => trivial
  · rintro sender t c period tiers rfl hc
    have htiers := h.within.tiers_le
    cases c with
    | setVestingParams vestingPeriod bps =>
      cases hc
      exact htiers
    | setTierMinStake tier minStake =>
      cases hc
      exact htiers.imp_right fun hle => largestMultiplier_update hle fun htier =>
        (le_largestMultiplier htier).trans hle
    | setTierRewardMultiplier tier bps =>
      cases hc
      rcases Nat.eq_zero_or_pos rate with hrate | hrate
      · exact .inl hrate
      refine htiers.imp_right fun hle => largestMultiplier_update hle fun _ => ?_
      -- while the epoch runs the contract compares with its cap; after that the guard applies
      by_cases hrun : g.stop = none ∧ t < w.staking.periodFinish
      · obtain ⟨hstop, htime⟩ := hrun
        obtain ⟨_, hadm, -, -, hexec, -⟩ := call_of_step hs
        have hfinish : w.staking.periodFinish = t₀ + duration := (h.within.running hstop).2.1
        have hcap := h.checked hstop (hadm.1.trans_lt (hfinish ▸ htime)) hrate
        obtain ⟨-, hchecks, -⟩ := Storage.adminWrite_eq_ok hexec
        simp only [bind_eq_ok, revertIf_eq_ok] at hchecks
        obtain ⟨_, -, _, -, hmax⟩ := hchecks
        exact (not_lt.mp hmax).trans hcap
      · refine hG ?_
        by_cases hstop : g.stop = none
        · exact .inr (not_lt.mp fun htime => hrun ⟨hstop, htime⟩)
        · exact .inl hstop
    | _ => cases hc

/-- Only `setMaxTierMultiplierBps` sets the cap of the contract. -/
lemma maxTierMultiplierBps_step (hs : Step self w a w')
    (ha : ∀ sender t newMax, a ≠ .call sender t (.setMaxTierMultiplierBps newMax)) :
    w'.staking.maxTierMultiplierBps = w.staking.maxTierMultiplierBps := by
  rcases step_cases hs with ⟨sender, t, c, calls, rfl, -, -, -, hexec, -⟩ |
    ⟨t, op, rfl, -, -, -, hw'⟩ | ⟨t, owner, isSlasher, rfl, -, rfl⟩
  · have hchange : SettingsChange (w.msg self sender t) w.staking c w'.staking :=
      settings_exec hexec
    generalize w'.staking = s' at hchange ⊢
    cases hchange with
    | same hduration hcap => exact hcap
    | duration hfinish => rfl
    | cap hcheck => exact absurd rfl (ha sender t _)
  · rw [hw']
  · rfl

lemma now_le_of_step (hs : Step self w a w') : w.now ≤ w'.now := by
  rcases step_cases hs with ⟨_, _, _, _, -, hadm, -, -, -, -, hnow⟩ | ⟨_, _, -, hadm, -, -, hw'⟩ |
    ⟨_, _, _, -, hadm, rfl⟩
  · exact hnow ▸ hadm.1
  · rw [hw']
    exact hadm.1
  · exact hadm.1

/-- **Every step keeps the liability of the epoch within its emission.** -/
theorem EpochSound.step (h : EpochSound self rate t₀ duration g w) (hG : g.Guard w a)
    (hs : Step self w a w') : EpochSound self rate t₀ duration (g.next w a) w' := by
  obtain ⟨⟨d, hrun⟩, -⟩ := step_refines h.sound.toWorldOk hs
  have hposts := h.within.posts h.sound.ledger h.sound.bounded hrun (h.tiersWithin hG hs d)
  by_cases ha : ∀ sender t newMax, a ≠ .call sender t (.setMaxTierMultiplierBps newMax)
  · rw [EpochTrack.next_eq_posts self ha d]
    refine ⟨h.sound.step hs, hposts, fun hstop hnow hrate => ?_⟩
    rw [maxTierMultiplierBps_step hs ha, EpochTrack.posts_cap]
    exact h.checked (EpochTrack.stop_of_posts hstop) ((now_le_of_step hs).trans_lt hnow) hrate
  · push Not at ha
    obtain ⟨sender, t, newMax, rfl⟩ := ha
    have hwithin : g.Within rate t₀ duration (w'.books self) := hposts
    have hnew : w'.staking.maxTierMultiplierBps = newMax.toNat ∧ w'.now = t := by
      obtain ⟨_, -, -, -, hexec, -, hnow⟩ := call_of_step hs
      obtain ⟨-, -, heq⟩ := Storage.adminWrite_eq_ok hexec
      exact ⟨congrArg (fun r : Outcome => r.1.maxTierMultiplierBps) heq, hnow⟩
    unfold EpochTrack.next
    dsimp only
    split
    · exact ⟨h.sound.step hs, hwithin.raise (le_max_left _ _), fun _ _ _ =>
        hnew.1.le.trans (le_max_right _ _)⟩
    · next hcond =>
      refine ⟨h.sound.step hs, hwithin, fun hstop hnow hrate => absurd ?_ hcond⟩
      obtain ⟨hr, hfinish, -⟩ := h.within.running hstop
      have hfinish' : w.staking.periodFinish = t₀ + duration := hfinish
      have hr' : w.staking.rewardRate = rate := hr
      rw [hnew.2] at hnow
      exact ⟨hstop, hfinish' ▸ hnow, hr' ▸ hrate⟩

lemma EpochSound.run (h : EpochSound self rate t₀ duration g w) {l : List (Action × World)}
    (hl : Path (Step self) w l) (hG : g.Guarded w l) :
    EpochSound self rate t₀ duration (g.after w l) (endState w l) := by
  induction l generalizing g w with
  | nil => exact h
  | cons x l ih =>
    exact ih (h.step hG.1 hl.1) hl.2 hG.2

variable {t : ℕ}

/-- What the accounts have accrued at a later time is within the emission. -/
lemma EpochSound.accruedBy_le (h : EpochSound self rate t₀ duration g w) (ht : w.Admits t) :
    g.accruedBy w.staking t ≤ rate * duration * g.cap / bpsDenominator := by
  have hledger : ((w.books self).post (.tick t)).Ledger := h.sound.ledger.post ht
  have hbounded : ((w.books self).post (.tick t)).Bounded := h.sound.bounded.tick ht
  have htick : g.Within rate t₀ duration ((w.books self).post (.tick t)) :=
    h.within.of_eq rfl rfl rfl rfl rfl rfl
  have hnow := htick.accrue hledger hbounded
  have htotal : indexScale * bpsDenominator * g.accruedBy w.staking t ≤ _ := hnow.total_le
  have hseconds := hnow.seconds_le (hbounded.accrue hledger)
  rw [Nat.le_div_iff_mul_le (by decide)]
  refine Nat.le_of_mul_le_mul_left (c := indexScale) ?_ (by decide)
  calc indexScale * (g.accruedBy w.staking t * bpsDenominator)
      = indexScale * bpsDenominator * g.accruedBy w.staking t := by ring
    _ ≤ g.cap * (g.seconds t₀ duration _ * rate * indexScale) := htotal
    _ ≤ g.cap * (duration * rate * indexScale) :=
        Nat.mul_le_mul_left _ (Nat.mul_le_mul_right _ (Nat.mul_le_mul_right _ hseconds))
    _ = indexScale * (rate * duration * g.cap) := by ring

/-- The epoch that has just started. -/
lemma EpochSound.begun {sender : Address} {reward : ℕ} (hw : Sound self w)
    (htiers : TiersCapped w.staking)
    (hs : Step self w (.call sender t (.notifyRewardAmount reward)) w') :
    EpochSound self w'.staking.rewardRate t w'.staking.rewardsDuration (.begun w'.staking) w' := by
  have hsound := hw.step hs
  refine ⟨hsound, ?_, fun _ _ _ => le_rfl⟩
  obtain ⟨_, -, -, -, hexec, -⟩ := call_of_step hs
  have hcap := hsound.parameters.multiplierCap
  generalize hr : (w'.staking, _) = r at hexec
  cases notifyRewardAmount_effect hexec with
  | notifyRewardAmount =>
    have hstaking := congrArg Prod.fst hr
    dsimp only at hstaking
    refine ⟨le_rfl, lt_of_lt_of_le (by decide) hcap, .inr (largestMultiplier_le hcap ?_), ?_, nofun,
      ?_⟩
    · show ∀ tier, tier ≠ .none → (w'.staking.tierConfigs tier).rewardMultiplierBps.toNat ≤
        w'.staking.maxTierMultiplierBps
      rw [hstaking]
      exact htiers
    · intro _
      show w'.staking.rewardRate = _ ∧ w'.staking.periodFinish = t + w'.staking.rewardsDuration ∧
        t ≤ w'.staking.lastUpdateTime
      rw [hstaking]
      exact ⟨rfl, rfl, le_rfl⟩
    · have hzero : unpaid (w'.books self).staked
          (fun p => max ((w'.books self).paid p) w'.staking.rewardPerTokenStored)
          w'.staking.rewardPerTokenStored = 0 :=
        Finset.sum_eq_zero fun p _ => by rw [Nat.sub_eq_zero_of_le (le_max_right _ _), Nat.mul_zero]
      have hliability : (EpochTrack.begun w'.staking).liability (w'.books self) = 0 := by
        show indexScale * bpsDenominator * ∑ _p : Address, 0 + w'.staking.maxTierMultiplierBps *
          unpaid (w'.books self).staked
            (fun p => max ((w'.books self).paid p) w'.staking.rewardPerTokenStored)
            w'.staking.rewardPerTokenStored = 0
        rw [hzero, Finset.sum_const_zero, Nat.mul_zero, Nat.mul_zero]
      rw [hliability]
      exact Nat.zero_le _
  | slash hc | propose _ _ _ _ hc => simp at hc
  | quiet hc => cases hc

end Steps

/-- **The liability of an epoch is what was checked for it**, if no tier paid more than the cap when
it started and, once it is over, no multiplier is set above what was checked for it. -/
theorem epoch_liability_bounded {self sender : Address} {w₀ w : World} {t₀ reward : ℕ}
    (hw₀ : Reached self w₀) (htiers : TiersCapped w₀.staking)
    (hstart : Step self w₀ (.call sender t₀ (.notifyRewardAmount reward)) w)
    {l : List (Action × World)} (hl : Path (Step self) w l)
    (hG : (EpochTrack.begun w.staking).Guarded w l) {t : ℕ} (ht : (endState w l).Admits t) :
    ((EpochTrack.begun w.staking).after w l).accruedBy (endState w l).staking t ≤
      w.staking.rewardRate * w.staking.rewardsDuration *
        ((EpochTrack.begun w.staking).after w l).cap / bpsDenominator :=
  ((EpochSound.begun (.reached hw₀) htiers hstart).run hl hG).accruedBy_le ht

/-- A run that sets no multiplier meets the guard. -/
lemma EpochTrack.guarded_of_mem {g : EpochTrack} {w : World} {l : List (Action × World)}
    (h : ∀ x ∈ l, ∀ (g : EpochTrack) (w : World), g.Guard w x.1) : g.Guarded w l := by
  induction l generalizing g w with
  | nil => trivial
  | cons x l ih =>
    exact ⟨h x List.mem_cons_self g w, ih fun y hy => h y (List.mem_cons_of_mem x hy)⟩

/-- The world in which account `3` has staked and the owner has started an epoch. -/
def epochStarted (before : List Action) : Option World :=
  (endState World.fresh (World.fresh.trace 100 before)).next 100
    (.call 2 0 (.notifyRewardAmount (604800 * 10 ^ 18)))

theorem epoch_liability_bounded_claimed : ∃ w, epochStarted stakeAndFund = some w ∧
    (w.trace 100 [.call 3 604800 .claimRewards]).length = 1 ∧
    ((EpochTrack.begun w.staking).after w (w.trace 100 [.call 3 604800 .claimRewards])).accruedBy
        (endState w (w.trace 100 [.call 3 604800 .claimRewards])).staking 604800 ≤
      w.staking.rewardRate * w.staking.rewardsDuration *
        ((EpochTrack.begun w.staking).after w
          (w.trace 100 [.call 3 604800 .claimRewards])).cap / bpsDenominator := by
  have hsome : (epochStarted stakeAndFund).isSome := by decide +kernel
  refine ⟨(epochStarted stakeAndFund).get hsome, (Option.some_get hsome).symm,
    by decide +kernel +revert, ?_⟩
  refine epoch_liability_bounded (World.fresh_reached (by decide) stakeAndFund) ?_
    (Option.some_get hsome).symm (World.trace_path _)
    (EpochTrack.guarded_of_mem fun x hx => ?_) (by decide +kernel +revert)
  · intro tier _
    cases tier <;> decide +kernel
  · have hmem := mem_of_mem_trace hx
    rw [List.mem_singleton] at hmem
    rw [hmem]
    exact fun _ _ => trivial

/-- A provider of the top tier stakes, the pool holds what an epoch emits at `1.0x`, and the owner
lowers the cap to `1.0x`. -/
def lowerCap : List Action :=
  [.token 0 (.mint 3 (10 ^ 27)), .token 0 (.approve 3 100 (10 ^ 27)), .call 3 0 (.stake (10 ^ 27)),
    .token 0 (.mint 100 (604800 * 10 ^ 18)), .call 2 0 (.setMaxTierMultiplierBps 10000)]

/-- **A cap below the multipliers in force.** The owner lowers the cap to `1.0x` while the top tier
pays `1.2x`. The check of the next epoch then counts it at `1.0x`, and at its end the provider has
accrued more than was checked. -/
theorem cap_below_multipliers : ∃ w₀ w, Reached 100 w₀ ∧
    Step 100 w₀ (.call 2 0 (.notifyRewardAmount (604800 * 10 ^ 18))) w ∧
    w.staking.rewardRate * w.staking.rewardsDuration * (EpochTrack.begun w.staking).cap /
        bpsDenominator <
      (EpochTrack.begun w.staking).accruedBy w.staking w.staking.periodFinish := by
  have hsome : (epochStarted lowerCap).isSome := by decide +kernel
  refine ⟨_, (epochStarted lowerCap).get hsome, World.fresh_reached (by decide) lowerCap,
    (Option.some_get hsome).symm, lt_of_lt_of_le ?_ (entry_le_sum _ 3)⟩
  decide +kernel +revert

end Moltbunker.Contracts.Staking
