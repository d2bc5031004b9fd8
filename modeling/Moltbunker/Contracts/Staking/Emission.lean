import Moltbunker.Contracts.Staking.Bounds

/-!
# `BunkerStaking`: the emission of an epoch

How much all accounts together can earn between two times of one epoch. `Books.accruing` is what
was credited and what has accrued, each account at the multiplier of its own stake. Credits and
changes of stake do not add to it, because a stake changes only right after its owner was credited;
the index adds at most the largest multiplier times the emission (`accruing_accrue`).

What the view `earned` shows at the start of the interval is less than what has accrued by then,
because three divisions truncate: the index is a whole number, and so are the share of an account
and its share after the multiplier. All of it shows at the end of the interval, so the bound has a
rounding term for the start (`emission_bounded`), and without it the bound fails
(`index_unit_emitted_at_once`).
-/

namespace Moltbunker.Contracts.Staking

open Lib Function
open Finset

namespace Books

variable {b b' : Books} {e : Posting}

/-- A stake times its multiplier. -/
def weight (b : Books) (p : Address) : ℕ := multiplierBps b.tiers (b.staked p) * b.staked p

/-- What was credited and what has accrued, scaled up, at the multipliers of the accounts. -/
def accruing (b : Books) : ℕ :=
  indexScale * bpsDenominator * ∑ p, b.rewards p + unpaid b.weight b.paid b.index

/-- What accrues depends on five fields of the books. -/
lemma accruing_congr (hrewards : b'.rewards = b.rewards) (hstaked : b'.staked = b.staked)
    (htiers : b'.tiers = b.tiers) (hpaid : b'.paid = b.paid) (hindex : b'.index = b.index) :
    b'.accruing = b.accruing := by
  unfold accruing weight
  rw [hrewards, hstaked, htiers, hpaid, hindex]

/-- The books when the index is brought up to date at time `t`. -/
def upTo (b : Books) (t : ℕ) : Books := (b.post (.tick t)).post .accrue

lemma sum_weight_le (h : b.Ledger) :
    ∑ p, b.weight p ≤ largestMultiplier b.tiers * b.totalStaked :=
  calc ∑ p, b.weight p
      ≤ ∑ p, largestMultiplier b.tiers * b.staked p :=
        Finset.sum_le_sum fun p _ =>
          Nat.mul_le_mul_right _ multiplierBps_le_largest
    _ = largestMultiplier b.tiers * ∑ p, b.staked p := by rw [Finset.mul_sum]
    _ ≤ largestMultiplier b.tiers * b.totalStaked := Nat.mul_le_mul_left _ h.staked_le

/-- A gain of the index adds at most the largest multiplier times the gain of all stakes. -/
lemma unpaid_weight_advance_le (h : b.Ledger) (hpaid : ∀ p, b.paid p ≤ b.index) {gain x : ℕ}
    (hgain : b.totalStaked * gain ≤ x) : unpaid b.weight b.paid (b.index + gain) ≤
    unpaid b.weight b.paid b.index + largestMultiplier b.tiers * x := by
  rw [unpaid_advance hpaid]
  refine Nat.add_le_add_left ?_ _
  calc (∑ p, b.weight p) * gain
      ≤ largestMultiplier b.tiers * b.totalStaked * gain := Nat.mul_le_mul_right _ (sum_weight_le h)
    _ = largestMultiplier b.tiers * (b.totalStaked * gain) := Nat.mul_assoc _ _ _
    _ ≤ largestMultiplier b.tiers * x := Nat.mul_le_mul_left _ hgain

/-- The stakes together gain at most the emission. -/
lemma totalStaked_mul_indexGain_le :
    b.totalStaked * b.indexGain ≤ (b.clock - b.last) * b.rate * indexScale := by
  unfold indexGain
  split
  · rw [Nat.mul_zero]
    exact Nat.zero_le _
  · exact Nat.mul_div_le _ _

/-- **Time adds the emission**, times the largest multiplier. -/
theorem accruing_accrue (h : b.Ledger) (hpaid : ∀ p, b.paid p ≤ b.index) :
    (b.post .accrue).accruing ≤
      b.accruing + largestMultiplier b.tiers * ((b.clock - b.last) * b.rate * indexScale) := by
  have hadv := unpaid_weight_advance_le h hpaid b.totalStaked_mul_indexGain_le
  have hpost : (b.post .accrue).accruing = indexScale * bpsDenominator * ∑ p, b.rewards p +
      unpaid b.weight b.paid (b.index + b.indexGain) := rfl
  calc (b.post .accrue).accruing
      = indexScale * bpsDenominator * ∑ p, b.rewards p +
          unpaid b.weight b.paid (b.index + b.indexGain) := hpost
    _ ≤ indexScale * bpsDenominator * ∑ p, b.rewards p + (unpaid b.weight b.paid b.index +
          largestMultiplier b.tiers * ((b.clock - b.last) * b.rate * indexScale)) :=
        Nat.add_le_add_left hadv _
    _ = b.accruing + largestMultiplier b.tiers * ((b.clock - b.last) * b.rate * indexScale) :=
        (Nat.add_assoc _ _ _).symm

/-- An account is credited at most what it accrued. -/
lemma accruing_credit (p : Address) : (b.post (.credit p)).accruing ≤ b.accruing := by
  by_cases hp : p = 0
  · simp [accruing, post, hp]
  · have hsum := total_update b.rewards p (b.accruedTo p + b.rewards p)
    have hsettle := unpaid_settle b.weight b.paid b.index p
    have hshare : indexScale * bpsDenominator * b.accruedTo p ≤
        b.weight p * (b.index - b.paid p) :=
      (scaled_share_le).trans (Nat.mul_assoc _ _ _).ge
    have hrewards : ∑ q, update b.rewards p (b.accruedTo p + b.rewards p) q =
        ∑ q, b.rewards q + b.accruedTo p := by omega
    have hpost : (b.post (.credit p)).accruing = indexScale * bpsDenominator *
        ∑ q, update b.rewards p (b.accruedTo p + b.rewards p) q +
          unpaid b.weight (update b.paid p b.index) b.index := by
      simp only [accruing, post, ne_eq, hp, not_false_eq_true, if_true]
      rfl
    rw [hpost, hrewards, Nat.mul_add]
    unfold accruing
    omega

/-- A stake that changes while nothing is accrued to its owner leaves what accrues as it was. -/
lemma accruing_restake {p : Address} (hsettled : b.paid p = b.index) {x : ℕ}
    (hstaked : b'.staked = update b.staked p x) (htiers : b'.tiers = b.tiers)
    (hrewards : b'.rewards = b.rewards) (hpaid : b'.paid = b.paid) (hindex : b'.index = b.index) :
    b'.accruing = b.accruing := by
  have hweight : b'.weight = update b.weight p (multiplierBps b.tiers x * x) := by
    unfold weight
    rw [hstaked, htiers]
    exact read_update (fun y => multiplierBps b.tiers y * y) b.staked p x
  unfold accruing
  rw [hrewards, hpaid, hindex, hweight, unpaid_reweigh hsettled]

/-! ## The bound along a run -/

/-- What may be accruing when the reward clock shows `c`, counted from the books `b₀`: what was
accruing then, the emission since, and one unit of the index, which may have been all but emitted
before. -/
def allowance (b₀ : Books) (c : ℕ) : ℕ :=
  (b₀.upTo b₀.now).accruing + largestMultiplier b₀.tiers * b₀.totalStaked +
    largestMultiplier b₀.tiers * ((c - b₀.clock) * b₀.rate * indexScale)

/-- The books `b` have stayed within the emission since `b₀`: whenever the index is brought up to
date, what was claimed since and what is accruing then is allowed. -/
structure Within (b b₀ : Books) (claimed : ℕ) : Prop where
  tiers_eq : b.tiers = b₀.tiers
  rate_eq : b.rate = b₀.rate
  finish_eq : b.finish = b₀.finish
  started : b₀.clock ≤ b.clock
  bound : ∀ t, b.now ≤ t →
    (b.upTo t).accruing + indexScale * bpsDenominator * claimed ≤ b₀.allowance (b.upTo t).last

variable {b₀ : Books} {claimed : ℕ}

lemma allowance_add {c c' : ℕ} (h : b₀.clock ≤ c) (h' : c ≤ c') :
    b₀.allowance c + largestMultiplier b₀.tiers * ((c' - c) * b₀.rate * indexScale) =
      b₀.allowance c' := by
  unfold allowance
  rw [show c' - b₀.clock = (c - b₀.clock) + (c' - c) by omega]
  ring

lemma upTo_last {t : ℕ} : (b.upTo t).last = if t < b.finish then t else b.finish := rfl

/-- The reward clock does not run back. -/
lemma clock_le_upTo_last {t : ℕ} (h : b.now ≤ t) : b.clock ≤ (b.upTo t).last := by
  rw [upTo_last]
  unfold clock
  split <;> split <;> omega

/-- Bringing an index up to date that is up to date changes nothing. -/
lemma accruing_of_current (h : b.last = b.clock) : (b.upTo b.now).accruing = b.accruing := by
  have hgain : b.indexGain = 0 := by
    unfold indexGain
    rw [h, Nat.sub_self, Nat.zero_mul, Nat.zero_mul, Nat.zero_div, ite_self]
  have hindex : (b.upTo b.now).index = b.index + b.indexGain := rfl
  refine accruing_congr rfl rfl rfl rfl ?_
  rw [hindex, hgain, Nat.add_zero]

/-- The bound depends on the fields of the reward accounting only. -/
lemma Within.congr (h : b.Within b₀ claimed) (hnow : b.now ≤ b'.now)
    (hrewards : b'.rewards = b.rewards) (hstaked : b'.staked = b.staked)
    (htotal : b'.totalStaked = b.totalStaked) (htiers : b'.tiers = b.tiers)
    (hpaid : b'.paid = b.paid) (hindex : b'.index = b.index) (hrate : b'.rate = b.rate)
    (hfinish : b'.finish = b.finish) (hlast : b'.last = b.last) : b'.Within b₀ claimed := by
  refine ⟨htiers.trans h.tiers_eq, hrate.trans h.rate_eq, hfinish.trans h.finish_eq,
    h.started.trans ?_, fun t ht => ?_⟩
  · have hclock := b.clock_le_upTo_last hnow
    unfold clock at hclock ⊢
    rw [hfinish]
    exact hclock
  · have hgain : (b'.post (.tick t)).indexGain = (b.post (.tick t)).indexGain := by
      show (if b'.totalStaked = 0 then 0 else ((if t < b'.finish then t else b'.finish) - b'.last) *
        b'.rate * indexScale / b'.totalStaked) = _
      rw [htotal, hfinish, hlast, hrate]
      rfl
    have hacc : (b'.upTo t).accruing = (b.upTo t).accruing := by
      refine accruing_congr hrewards hstaked htiers hpaid ?_
      show b'.index + (b'.post (.tick t)).indexGain = b.index + (b.post (.tick t)).indexGain
      rw [hindex, hgain]
    rw [hacc, upTo_last, hfinish, ← upTo_last]
    exact h.bound t (hnow.trans ht)

/-- Where the index is up to date, it is enough to look at the present. -/
lemma within_of_current (hledger : b.Ledger) (hbounded : b.Bounded) (htiers : b.tiers = b₀.tiers)
    (hrate : b.rate = b₀.rate) (hfinish : b.finish = b₀.finish) (hlast : b.last = b.clock)
    (hstart : b₀.clock ≤ b.clock)
    (h : b.accruing + indexScale * bpsDenominator * claimed ≤ b₀.allowance b.clock) :
    b.Within b₀ claimed := by
  refine ⟨htiers, hrate, hfinish, hstart, fun t ht => ?_⟩
  have hacc : (b.upTo t).accruing ≤ b.accruing + largestMultiplier b.tiers *
      (((b.upTo t).last - b.last) * b.rate * indexScale) :=
    @accruing_accrue (b.post (.tick t)) { hledger with } hbounded.paid_le
  rw [htiers, hrate, hlast] at hacc
  rw [← allowance_add hstart (b.clock_le_upTo_last ht)]
  omega

/-- The bound at the present, where the index is up to date. -/
lemma Within.current (h : b.Within b₀ claimed) (hlast : b.last = b.clock) :
    b.accruing + indexScale * bpsDenominator * claimed ≤ b₀.allowance b.clock := by
  rw [← accruing_of_current hlast]
  exact h.bound b.now le_rfl

/-- The postings that neither start an epoch, nor set the tiers, nor claim. -/
def Plain (b : Books) : Posting → Prop
  | .claim _ _ => False
  | .startEpoch _ _ => False
  | .retune _ tiers => tiers = b.tiers
  | _ => True

/-- **A plain posting keeps the bound.** -/
theorem Within.post (h : b.Within b₀ claimed) (hledger : b.Ledger) (hbounded : b.Bounded)
    (hplain : b.Plain e) (ha : b.Admits e) : (b.post e).Within b₀ claimed := by
  have hledger' := hledger.post ha
  have hbounded' := hbounded.post hledger ha
  -- a change of a settled stake, with the index up to date
  have hrestake : ∀ {b' : Books} {p : Address} {x : ℕ}, b'.Ledger → b'.Bounded → p ≠ 0 →
      b.Settled p → b'.staked = update b.staked p x → b'.tiers = b.tiers →
      b'.rewards = b.rewards → b'.paid = b.paid → b'.index = b.index → b'.rate = b.rate →
      b'.finish = b.finish → b'.last = b.last → b'.clock = b.clock → b'.Within b₀ claimed := by
    intro b' p x hl hb hp hset hstaked htiers hrewards hpaid hindex hrate hfinish hlast hclock
    refine within_of_current hl hb (htiers.trans h.tiers_eq) (hrate.trans h.rate_eq)
      (hfinish.trans h.finish_eq) (by rw [hlast, hclock]; exact hset.current)
      (by rw [hclock]; exact h.started) ?_
    rw [accruing_restake (hset.credited hp) hstaked htiers hrewards hpaid hindex, hclock]
    exact h.current hset.current
  cases e with
  | tick t => exact h.congr ha.1 rfl rfl rfl rfl rfl rfl rfl rfl rfl
  | accrue =>
    exact within_of_current hledger' hbounded' h.tiers_eq h.rate_eq h.finish_eq rfl h.started
      (h.bound b.now le_rfl)
  | credit p =>
    refine within_of_current hledger' hbounded' h.tiers_eq h.rate_eq h.finish_eq ha h.started ?_
    exact (Nat.add_le_add_right (b.accruing_credit p) _).trans (h.current ha)
  | deposit p amount =>
    exact hrestake hledger' hbounded' ha.1 ha.2 rfl rfl rfl rfl rfl rfl rfl rfl rfl
  | unbond p amount unlockTime =>
    exact hrestake hledger' hbounded' ha.1 ha.2.1 rfl rfl rfl rfl rfl rfl rfl rfl rfl
  | slash p amount =>
    exact hrestake hledger' hbounded' (hledger.slash_ne_zero ha) ha.2.1 rfl rfl rfl rfl rfl rfl
      rfl rfl rfl
  | withdraw p i req | release p | donate amount =>
    exact h.congr le_rfl rfl rfl rfl rfl rfl rfl rfl rfl rfl
  | claim p immediate | startEpoch rate finish => exact hplain.elim
  | retune vestingPeriod tiers =>
    exact h.congr le_rfl rfl rfl rfl hplain rfl rfl rfl rfl rfl

/-- A claim moves what was credited to what was claimed. -/
lemma Within.claim (h : b.Within b₀ claimed) (p : Address) (immediate : ℕ) :
    (b.post (.claim p immediate)).Within b₀ (claimed + b.rewards p) := by
  refine ⟨h.tiers_eq, h.rate_eq, h.finish_eq, h.started, fun t ht => ?_⟩
  have hbound := h.bound t ht
  have hsum := total_update b.rewards p 0
  have hrewards : ∑ q, b.rewards q = ∑ q, update b.rewards p 0 q + b.rewards p := by
    omega
  have hpost : ((b.post (.claim p immediate)).upTo t).accruing +
      indexScale * bpsDenominator * b.rewards p = (b.upTo t).accruing := by
    have hleft : ((b.post (.claim p immediate)).upTo t).accruing =
        indexScale * bpsDenominator * ∑ q, update b.rewards p 0 q +
          unpaid (b.upTo t).weight b.paid (b.upTo t).index := rfl
    have hright : (b.upTo t).accruing = indexScale * bpsDenominator * ∑ q, b.rewards q +
        unpaid (b.upTo t).weight b.paid (b.upTo t).index := rfl
    rw [hleft, hright, hrewards]
    ring
  have hlast : ((b.post (.claim p immediate)).upTo t).last = (b.upTo t).last := rfl
  rw [hlast, Nat.mul_add]
  omega

/-- **The bound at its start.** -/
theorem within_start (hledger : b.Ledger) (hbounded : b.Bounded) : b.Within b 0 := by
  refine ⟨rfl, rfl, rfl, le_rfl, fun t ht => ?_⟩
  have hclock := b.clock_le_upTo_last ht
  have hlast := le_clock hbounded.last_le_now hbounded.last_le_finish
  -- the gain until `t` is the gain until now and some more
  obtain ⟨g, hgain, hg⟩ : ∃ g, (b.post (.tick t)).indexGain = b.indexGain + g ∧
      b.totalStaked * g ≤
        ((b.upTo t).last - b.clock) * b.rate * indexScale + b.totalStaked := by
    have hfrom : b.indexGain = if b.totalStaked = 0 then 0 else
      (b.clock - b.last) * b.rate * indexScale / b.totalStaked := rfl
    have hto : (b.post (.tick t)).indexGain = if b.totalStaked = 0 then 0 else
      ((b.upTo t).last - b.last) * b.rate * indexScale / b.totalStaked := rfl
    rw [hfrom, hto]
    by_cases htotal : b.totalStaked = 0
    · rw [if_pos htotal, if_pos htotal]
      exact ⟨0, rfl, by rw [Nat.mul_zero]; exact Nat.zero_le _⟩
    · rw [if_neg htotal, if_neg htotal]
      have hsplit : ((b.upTo t).last - b.last) * b.rate * indexScale =
          (b.clock - b.last) * b.rate * indexScale +
            ((b.upTo t).last - b.clock) * b.rate * indexScale := by
        rw [show (b.upTo t).last - b.last = (b.clock - b.last) + ((b.upTo t).last - b.clock) by
          omega]
        ring
      rw [hsplit]
      exact gain_split _ _ _
  have hadv : unpaid (b.upTo b.now).weight b.paid ((b.upTo b.now).index + g) ≤
      unpaid (b.upTo b.now).weight b.paid (b.upTo b.now).index + largestMultiplier b.tiers *
        (((b.upTo t).last - b.clock) * b.rate * indexScale + b.totalStaked) :=
    @unpaid_weight_advance_le (b.upTo b.now) { hledger with }
      (fun p => (hbounded.paid_le p).trans (Nat.le_add_right _ _)) g _ hg
  have hindex : (b.upTo t).index = (b.upTo b.now).index + g := by
    show b.index + (b.post (.tick t)).indexGain = b.index + b.indexGain + g
    omega
  have hacc : (b.upTo t).accruing = indexScale * bpsDenominator * ∑ p, b.rewards p +
      unpaid (b.upTo b.now).weight b.paid ((b.upTo b.now).index + g) := by
    rw [← hindex]
    rfl
  have hnow : (b.upTo b.now).accruing = indexScale * bpsDenominator * ∑ p, b.rewards p +
      unpaid (b.upTo b.now).weight b.paid (b.upTo b.now).index := rfl
  unfold allowance
  rw [Nat.mul_add] at hadv
  omega

/-! ## What is earned -/

/-- The accounts together have earned at most what has accrued. -/
lemma earned_le_accruing :
    indexScale * bpsDenominator * ∑ p, (b.accruedTo p + b.rewards p) ≤ b.accruing := by
  have hshares : ∑ p, indexScale * bpsDenominator * b.accruedTo p ≤
      unpaid b.weight b.paid b.index :=
    Finset.sum_le_sum fun p _ => (scaled_share_le).trans (Nat.mul_assoc _ _ _).ge
  rw [← Finset.mul_sum] at hshares
  rw [Finset.sum_add_distrib, Nat.mul_add]
  unfold accruing
  omega

/-- The accounts that have accrued something since they were credited. -/
def uncredited (b : Books) : Finset Address := {p | 0 < b.staked p * (b.index - b.paid p)}

/-- What has accrued is what the accounts have earned, up to two roundings for each. -/
lemma accruing_le_earned :
    b.accruing ≤ indexScale * bpsDenominator * ∑ p, (b.accruedTo p + b.rewards p) +
      b.uncredited.card * (indexScale * (largestMultiplier b.tiers + 9999)) := by
  have hshare : ∀ p, b.weight p * (b.index - b.paid p) ≤
      indexScale * bpsDenominator * b.accruedTo p +
        if 0 < b.staked p * (b.index - b.paid p) then
          indexScale * (largestMultiplier b.tiers + 9999) else 0 := by
    intro p
    unfold weight
    rw [Nat.mul_assoc]
    split
    · refine (share_le_scaled_add (by decide) (by decide) _ _).trans (Nat.add_le_add_left ?_ _)
      exact Nat.mul_le_mul_left _ (Nat.add_le_add multiplierBps_le_largest le_rfl)
    · next h =>
      rw [Nat.eq_zero_of_not_pos h, Nat.mul_zero]
      exact Nat.zero_le _
  have hsum : unpaid b.weight b.paid b.index ≤
      indexScale * bpsDenominator * ∑ p, b.accruedTo p +
        b.uncredited.card * (indexScale * (largestMultiplier b.tiers + 9999)) := by
    refine (Finset.sum_le_sum fun p _ => hshare p).trans ?_
    rw [Finset.sum_add_distrib, ← Finset.mul_sum, ← Finset.sum_filter, Finset.sum_const,
      smul_eq_mul]
    rfl
  rw [Finset.sum_add_distrib, Nat.mul_add]
  unfold accruing
  omega

end Books

/-! ## Runs within an epoch -/

/-- The steps that neither start an epoch nor set a tier. -/
def Action.keepsEpoch : Action → Bool
  | .call _ _ (.notifyRewardAmount _) => false
  | .call _ _ (.setTierMinStake _ _) => false
  | .call _ _ (.setTierRewardMultiplier _ _) => false
  | _ => true

/-- The reward that `p` claims in a step: all it has earned by then. -/
def claimedAt (w : World) (p : Address) : Action → ℕ
  | .call sender t .claimRewards => if sender = p then w.staking.earnedAt t p else 0
  | _ => 0

/-- The rewards that `p` claims in a run. -/
def claimedIn (p : Address) : World → List (Action × World) → ℕ
  | _, [] => 0
  | w, (a, w') :: rest => claimedAt w p a + claimedIn p w' rest

lemma sum_claimedAt_call (w : World) (sender : Address) {t : ℕ} :
    ∑ p, claimedAt w p (.call sender t .claimRewards) = w.staking.earnedAt t sender := by
  simp only [claimedAt]
  simp

variable {a : Action} {self : Address} {w : World} {b₀ : Books} {claimed : ℕ}

lemma sum_claimedAt_other (h : ∀ sender t, a ≠ .call sender t .claimRewards) :
    ∑ p, claimedAt w p a = 0 := by
  refine Finset.sum_eq_zero fun p _ => ?_
  cases a with
  | call sender t c =>
    cases c with
    | claimRewards => exact absurd rfl (h sender t)
    | _ => rfl
  | token t op => rfl
  | access t owner isSlasher => rfl

/-- The postings of a step within an epoch are plain, if it is not a claim. -/
lemma plain_step (hG : a.keepsEpoch = true)
    (hclaim : ∀ sender t, a ≠ .call sender t .claimRewards) (d : ℕ) :
    LabelsMeet Books.Plain Books.post (w.books self) (stepJournal self w a ++ [.donate d]) := by
  refine labels_step ?_ (fun _ _ _ _ _ _ _ => trivial) (fun sender t _ ha => hclaim sender t ha)
    ?_ ?_ d
  · intro b e he
    cases e with
    | claim _ _ | startEpoch _ _ | retune _ _ => cases he
    | _ => trivial
  · rintro sender t reward rfl
    cases hG
  · rintro sender t c period tiers rfl hc
    cases c with
    | setVestingParams _ _ =>
      cases hc
      rfl
    | setTierMinStake _ _ => cases hG
    | setTierRewardMultiplier _ _ => cases hG
    | _ => cases hc

/-- **A step within an epoch keeps the bound.** -/
theorem within_step {w' : World} (hs : Sound self w)
    (hw : (w.books self).Within b₀ claimed) (hG : a.keepsEpoch = true) (h : Step self w a w') :
    (w'.books self).Within b₀ (claimed + ∑ p, claimedAt w p a) := by
  obtain ⟨⟨d, hrun⟩, -⟩ := step_refines hs.toWorldOk h
  have hplain : ∀ (b : Books) (e : Posting), (b.Ledger ∧ b.Bounded ∧ b.Within b₀ claimed) →
      b.Plain e → b.Admits e →
        (b.post e).Ledger ∧ (b.post e).Bounded ∧ (b.post e).Within b₀ claimed :=
    fun b e hb hp ha => ⟨hb.1.post ha, hb.2.1.post hb.1 ha, hb.2.2.post hb.1 hb.2.1 hp ha⟩
  by_cases hclaim : ∃ sender t, a = .call sender t .claimRewards
  · obtain ⟨sender, t, rfl⟩ := hclaim
    rw [sum_claimedAt_call]
    obtain ⟨_, -, -, hzero, -⟩ := call_of_step h
    obtain ⟨htick, haccrue, hcredit, hclaim, hdonate, hend⟩ := hrun
    -- the claim is made after the checkpoint, so it takes what was earned
    have h₁ := hplain _ (.tick t) ⟨hs.ledger, hs.bounded, hw⟩ trivial htick
    have h₂ := hplain _ .accrue h₁ trivial haccrue
    have h₃ := hplain _ (.credit sender) h₂ trivial hcredit
    have h₄ := h₃.2.2.claim sender
      (w.staking.immediatePart ((w.staking.updated t sender).rewards sender))
    have hrewards : ((((w.books self).post (.tick t)).post .accrue).post
        (.credit sender)).rewards sender = w.staking.earnedAt t sender := by
      simp only [Books.post, ne_eq, hzero, not_false_eq_true, if_true, update_self]
      rfl
    rw [hrewards] at h₄
    rw [← hend]
    exact h₄.congr le_rfl rfl rfl rfl rfl rfl rfl rfl rfl rfl
  · have hother : ∀ sender t, a ≠ .call sender t .claimRewards :=
      fun sender t heq => hclaim ⟨sender, t, heq⟩
    rw [sum_claimedAt_other hother, Nat.add_zero]
    exact (hrun.invariant_of_labels hplain ⟨hs.ledger, hs.bounded, hw⟩ (plain_step hG hother d)).2.2

/-- **A run within an epoch keeps the bound.** -/
theorem within_run {l : List (Action × World)} (hs : Sound self w)
    (hw : (w.books self).Within b₀ claimed) (hl : Path (Step self) w l)
    (hG : StepsMeet (fun _ a => a.keepsEpoch = true) w l) :
    Sound self (endState w l) ∧ ((endState w l).books self).Within b₀
      (claimed + ∑ p, claimedIn p w l) := by
  induction l generalizing w claimed with
  | nil => simpa [claimedIn] using ⟨hs, hw⟩
  | cons x l ih =>
    have hrest := ih (hs.step hl.1) (within_step hs hw hG.1 hl.1) hl.2 hG.2
    simp only [claimedIn, Finset.sum_add_distrib]
    rw [← Nat.add_assoc]
    exact hrest

/-- `earned`, read from the books. -/
lemma earnedAt_eq (s : Storage) (now balance t : ℕ) (p : Address) :
    s.earnedAt t p = ((s.books now balance).upTo t).accruedTo p +
      ((s.books now balance).upTo t).rewards p := rfl

/-- What the truncations of the view `earned` at time `t` can hide, scaled up: a unit of the index,
and less than two units for each account that has accrued since it was credited. -/
def roundingAt (s : Storage) (t : ℕ) : ℕ :=
  largestMultiplier s.tierConfigs * s.totalStaked +
    (Finset.univ.filter fun p => 0 < (s.providers p).stakedAmount.toNat *
      (s.indexAt t - s.userRewardPerTokenPaid p)).card *
        (indexScale * (largestMultiplier s.tierConfigs + 9999))

/-- **The emission bound.** From a reachable state, by any steps that neither start an epoch nor
set a tier, until any later time `t`: what all accounts have earned and claimed grows by at most
the largest multiplier times the emission, up to what the truncations hid at the start. -/
theorem emission_bounded {self : Address} {w : World} {l : List (Action × World)} {t : ℕ}
    (hw : Reached self w) (hl : Path (Step self) w l)
    (hG : StepsMeet (fun _ a => a.keepsEpoch = true) w l) (ht : (endState w l).now ≤ t)
    (hlt : t < timestampBound) :
    (∀ p, w.staking.earned w.now p = .ok (w.staking.earnedAt w.now p)) ∧
      (∀ p, (endState w l).staking.earned t p = .ok ((endState w l).staking.earnedAt t p)) ∧
      indexScale * bpsDenominator *
          ∑ p, ((endState w l).staking.earnedAt t p + claimedIn p w l) ≤
        indexScale * bpsDenominator * ∑ p, w.staking.earnedAt w.now p +
          largestMultiplier w.staking.tierConfigs *
            ((t - w.now) * w.staking.rewardRate * indexScale) +
          roundingAt w.staking w.now := by
  have hs := Sound.reached hw
  obtain ⟨hs', hwithin⟩ := within_run hs (Books.within_start hs.ledger hs.bounded) hl hG
  refine ⟨earned_returns hs.ledger hs.bounded le_rfl hs.bounded.now_lt,
    earned_returns hs'.ledger hs'.bounded ht hlt, ?_⟩
  have hbound := hwithin.bound t ht
  have hend : indexScale * bpsDenominator * ∑ p, (endState w l).staking.earnedAt t p ≤
      (((endState w l).books self).upTo t).accruing := by
    simp only [earnedAt_eq _ (endState w l).now ((endState w l).token.balanceOf self)]
    exact Books.earned_le_accruing
  have hstart : ((w.books self).upTo w.now).accruing ≤
      indexScale * bpsDenominator * ∑ p, w.staking.earnedAt w.now p +
        (Finset.univ.filter fun p => 0 < (w.staking.providers p).stakedAmount.toNat *
          (w.staking.indexAt w.now - w.staking.userRewardPerTokenPaid p)).card *
            (indexScale * (largestMultiplier w.staking.tierConfigs + 9999)) := by
    exact Books.accruing_le_earned
  -- the reward clock moves by at most the time that passes
  have hclock : (((endState w l).books self).upTo t).last - (w.books self).clock ≤ t - w.now := by
    have hfinish := hwithin.finish_eq
    rw [Books.upTo_last, hfinish]
    show (if t < w.staking.periodFinish then t else w.staking.periodFinish) -
      (if w.now < w.staking.periodFinish then w.now else w.staking.periodFinish) ≤ t - w.now
    split <;> split <;> omega
  have hemit : largestMultiplier w.staking.tierConfigs *
      (((((endState w l).books self).upTo t).last - (w.books self).clock) *
        w.staking.rewardRate * indexScale) ≤
      largestMultiplier w.staking.tierConfigs *
        ((t - w.now) * w.staking.rewardRate * indexScale) :=
    Nat.mul_le_mul_left _ (Nat.mul_le_mul_right _ (Nat.mul_le_mul_right _ hclock))
  have hallow : (w.books self).allowance (((endState w l).books self).upTo t).last =
      ((w.books self).upTo w.now).accruing +
        largestMultiplier w.staking.tierConfigs * w.staking.totalStaked +
          largestMultiplier w.staking.tierConfigs *
            (((((endState w l).books self).upTo t).last - (w.books self).clock) *
              w.staking.rewardRate * indexScale) := rfl
  rw [hallow, Nat.zero_add] at hbound
  rw [Finset.sum_add_distrib, Nat.mul_add]
  unfold roundingAt
  omega

/-- An account stakes `1e27`, an epoch of `10000` per second starts, and the index is about to reach
its first unit. -/
def slowEpoch : World :=
  endState World.fresh (World.fresh.trace 100
    [.token 0 (.mint 3 (10 ^ 27)), .token 0 (.approve 3 100 (10 ^ 27)),
      .call 3 0 (.stake (10 ^ 27)), .token 0 (.mint 100 (10 ^ 18)),
      .call 2 0 (.notifyRewardAmount (10000 * 604800)), .access 99999 2 fun _ => false])

lemma slowEpoch_reached : Reached 100 slowEpoch := World.fresh_reached (by decide) _

/-- The account claims, and unstakes a part. -/
def claimAndUnstake : List Action :=
  [.call 3 200000 .claimRewards, .call 3 200001 (.requestUnstake (10 ^ 26))]

theorem emission_bounded_claimAndUnstake :
    (slowEpoch.trace 100 claimAndUnstake).length = 2 ∧
      (indexScale * bpsDenominator *
          ∑ p,
            ((endState slowEpoch (slowEpoch.trace 100 claimAndUnstake)).staking.earnedAt 300000 p +
            claimedIn p slowEpoch (slowEpoch.trace 100 claimAndUnstake)) ≤
        indexScale * bpsDenominator * ∑ p, slowEpoch.staking.earnedAt slowEpoch.now p +
          largestMultiplier slowEpoch.staking.tierConfigs *
            ((300000 - slowEpoch.now) * slowEpoch.staking.rewardRate * indexScale) +
          roundingAt slowEpoch.staking slowEpoch.now) :=
  ⟨by decide +kernel, (emission_bounded slowEpoch_reached (World.trace_path _)
    (by decide +kernel) (by decide +kernel) (by decide)).2.2⟩

/-- Before the index moves nobody has earned anything. -/
lemma slowEpoch_earned {p : Address} : slowEpoch.staking.earnedAt slowEpoch.now p = 0 := by
  have hbounded := (Sound.reached slowEpoch_reached).bounded
  have hcredited := hbounded.credited_le p
  have hlast : (slowEpoch.books 100).last = 0 := by decide +kernel
  rw [hlast] at hcredited
  have hzero : 2 ^ 16 * emissionBound 0 = 0 := rfl
  have hrewards : slowEpoch.staking.rewards p = 0 := by
    have : (slowEpoch.books 100).rewards p = slowEpoch.staking.rewards p := rfl
    omega
  have hindex : slowEpoch.staking.indexAt slowEpoch.now = 0 := by decide +kernel
  unfold Storage.earnedAt
  rw [hindex, hrewards]
  simp [accrued]

/-- In the next second the index gains its first unit, and the account earns in that second what
was emitted in more than a day. -/
theorem index_unit_emitted_at_once :
    Reached 100 slowEpoch ∧ slowEpoch.now + 1 ≤ slowEpoch.staking.periodFinish ∧
      bpsDenominator * ∑ p, slowEpoch.staking.earnedAt slowEpoch.now p +
          slowEpoch.staking.rewardRate * 1 * largestMultiplier slowEpoch.staking.tierConfigs <
        bpsDenominator * ∑ p, (slowEpoch.staking.earnedAt (slowEpoch.now + 1) p +
          claimedIn p slowEpoch []) := by
  refine ⟨slowEpoch_reached, by decide +kernel, ?_⟩
  have hstart : ∑ p, slowEpoch.staking.earnedAt slowEpoch.now p = 0 :=
    Finset.sum_eq_zero fun p _ => slowEpoch_earned
  have hend := entry_le_sum (fun p => slowEpoch.staking.earnedAt (slowEpoch.now + 1) p +
    claimedIn p slowEpoch []) 3
  have hearned : slowEpoch.staking.rewardRate * 1 *
      largestMultiplier slowEpoch.staking.tierConfigs <
        bpsDenominator * (slowEpoch.staking.earnedAt (slowEpoch.now + 1) 3 +
          claimedIn 3 slowEpoch []) := by decide +kernel
  rw [hstart, Nat.mul_zero, Nat.zero_add]
  exact hearned.trans_le (Nat.mul_le_mul_left _ hend)

end Moltbunker.Contracts.Staking
