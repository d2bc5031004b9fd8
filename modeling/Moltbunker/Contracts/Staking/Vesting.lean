import Moltbunker.Contracts.Staking.Bounds

/-!
# `BunkerStaking`: claiming vested rewards

`claimVestedRewards` and `getClaimableVested` subtract what an entry has released from what has
vested, for every entry of the provider, and panic if one of the differences is negative. Two
calls make one negative:

* a slash marks an entry that has not fully vested as fully released, so the provider cannot claim
  from any entry until that one has vested (`slashed_provider_locked_out`);
* a longer vesting period applies to the entries that exist, and can move what has vested below
  what was released.

A run never gets there exactly if each of its slashes hits fully vested entries and each of its
vesting periods leaves every entry with as much vested as released (`vesting_open_iff`).
-/

namespace Moltbunker.Contracts.Staking

open Lib Function

namespace Books

variable {b : Books} {e : Posting}

/-- No entry has released more than has vested. -/
def Open (b : Books) : Prop :=
  ∀ p, ∀ x ∈ b.vested p, x.releasedAmount.toNat ≤ vestedValue b.vestingPeriod b.now x

/-- The condition under which a posting keeps the entries open. -/
def Fair (b : Books) : Posting → Prop
  | .slash p _ =>
    ∀ x ∈ b.vested p, vestedValue b.vestingPeriod b.now x = x.totalAmount.toNat
  | .retune vestingPeriod _ =>
    ∀ p, ∀ x ∈ b.vested p, x.releasedAmount.toNat ≤ vestedValue vestingPeriod b.now x
  | _ => True

/-- Entries of one account are replaced by open ones. -/
lemma open_update {p : Address} {entries : List VestedReward} (h : b.Open)
    (hentries : ∀ x ∈ entries, x.releasedAmount.toNat ≤ vestedValue b.vestingPeriod b.now x) :
    ∀ q, ∀ x ∈ update b.vested p entries q,
      x.releasedAmount.toNat ≤ vestedValue b.vestingPeriod b.now x := by
  intro q x hx
  by_cases hq : q = p
  · subst hq
    rw [update_self] at hx
    exact hentries x hx
  · rw [update_of_ne hq] at hx
    exact h q x hx

/-- **A fair posting keeps the entries open.** -/
theorem Open.post (h : b.Open) (hfair : b.Fair e) (ha : b.Admits e) : (b.post e).Open := by
  cases e with
  | tick t => exact fun p x hx => (h p x hx).trans (vestedValue_mono ha.1)
  | slash p amount =>
    refine open_update h fun x hx => ?_
    obtain ⟨y, hy, rfl⟩ := List.mem_map.mp hx
    have hvested : ¬ unvestedValue b.vestingPeriod b.now y > 0 := by
      unfold unvestedValue
      rw [hfair y hy]
      omega
    unfold forfeitedEntry
    rw [if_neg hvested]
    exact h p y hy
  | claim p immediate =>
    refine open_update h fun x hx => ?_
    unfold Storage.pushEntry at hx
    split at hx
    · rcases List.mem_append.mp hx with hx | hx
      · exact h p x hx
      · rw [List.mem_singleton] at hx
        subst hx
        exact Nat.zero_le _
    · exact h p x hx
  | release p =>
    refine open_update h fun x hx => ?_
    obtain ⟨hx, -⟩ := mem_swapPop.mp hx
    obtain ⟨y, -, rfl⟩ := List.mem_map.mp hx
    exact (claimedEntry_releasedAmount _ _ y).le
  | retune vestingPeriod tiers => exact hfair
  | _ => exact h

/-- An entry that a slash leaves open had fully vested. -/
lemma vested_of_forfeited {period t : ℕ} {x : VestedReward}
    (h : (forfeitedEntry period t x).releasedAmount.toNat ≤
      vestedValue period t (forfeitedEntry period t x)) :
    vestedValue period t x = x.totalAmount.toNat := by
  have hle := vestedValue_le_total period t x
  unfold forfeitedEntry at h
  split at h
  · exact le_antisymm hle h
  · next hzero =>
    unfold unvestedValue at hzero
    omega

end Books

/-! ## Runs -/

/-- No provider is locked out: every entry has released at most what has vested, and from now on
neither the view nor the claim panics. -/
structure VestingOpen (w : World) : Prop where
  released : ∀ p, ReleasedVested w.staking w.now p
  view : ∀ p t, w.Admits t → ∃ v, w.staking.getClaimableVested t p = .ok v
  claim : ∀ p t balance, w.Admits t →
    w.staking.claimVestedRewards ⟨p, t, balance⟩ ≠ .error .panic

/-- The condition on a step: a slash hits fully vested entries, and a new vesting period leaves
every entry with as much vested as released. -/
def VestingGuard (w : World) : Action → Prop
  | .call _ t c =>
    (∀ p, slashTarget w.staking c = some p → ∀ e ∈ w.staking.vestedRewards p,
      vestedValue w.staking.vestingPeriod t e = e.totalAmount.toNat) ∧
    ∀ vestingPeriod bps, c = .setVestingParams vestingPeriod bps →
      ∀ p, ∀ e ∈ w.staking.vestedRewards p,
        e.releasedAmount.toNat ≤ vestedValue vestingPeriod t e
  | _ => True

variable {self : Address} {w w' : World} {a : Action}

/-- In a sound world open entries are all it takes. -/
lemma vestingOpen_iff (hs : Sound self w) : VestingOpen w ↔ (w.books self).Open := by
  refine ⟨fun h => h.released, fun h => ?_⟩
  have hstart : ∀ p t, w.Admits t → ∀ e ∈ w.staking.vestedRewards p, e.vestingStart.toNat ≤ t :=
    fun p t ht e he => (hs.bounded.started p e he).trans ht.1
  have hopen : ∀ p t, w.Admits t → ∀ e ∈ w.staking.vestedRewards p,
      e.releasedAmount.toNat ≤ vestedValue w.staking.vestingPeriod t e :=
    fun p t ht e he => (h p e he).trans (vestedValue_mono ht.1)
  have hsum : ∀ p t, w.staking.claimableTotal t p < 2 ^ 256 := fun p t =>
    hs.bounded.entries_lt fun e => (Nat.sub_le _ _).trans (vestedValue_le_total _ t e)
  exact ⟨h, fun p t ht => ⟨_, Storage.getClaimableVested_ok ht.2 (hstart p t ht) (hopen p t ht)
      (hsum p t)⟩,
    fun p t _ ht => Storage.claimVestedRewards_no_panic ht.2 (hstart p t ht) (hopen p t ht)
      (hsum p t)⟩

/-- A step that meets the condition posts fairly. -/
lemma fair_step (hw : (w.books self).Open) (hG : VestingGuard w a) (h : Step self w a w')
    (d : ℕ) :
    LabelsMeet Books.Fair Books.post (w.books self) (stepJournal self w a ++ [.donate d]) := by
  refine labels_step ?_ ?_ (fun _ _ _ _ => trivial) (fun _ _ _ _ => trivial) ?_ d
  · intro b e he
    cases e with
    | slash _ _ | retune _ _ => cases he
    | _ => trivial
  · rintro sender t c p amount rfl hc
    exact hG.1 p hc
  · rintro sender t c period tiers rfl hc
    -- a tier setter keeps the period, and what has vested does not shrink with time
    have hkeep : ∀ p, ∀ x ∈ w.staking.vestedRewards p,
        x.releasedAmount.toNat ≤ vestedValue w.staking.vestingPeriod t x := by
      obtain ⟨_, hadm, -⟩ := call_of_step h
      exact fun p x hx => (hw p x hx).trans (vestedValue_mono hadm.1)
    cases c with
    | setVestingParams period bps =>
      cases hc
      exact hG.2 period bps rfl
    | setTierMinStake _ _ =>
      cases hc
      exact hkeep
    | setTierRewardMultiplier _ _ =>
      cases hc
      exact hkeep
    | _ => cases hc

/-- **Exactly the steps that meet the condition keep the entries open.** -/
theorem open_step_iff (hs : Sound self w) (hw : (w.books self).Open) (h : Step self w a w') :
    (w'.books self).Open ↔ VestingGuard w a := by
  obtain ⟨⟨d, hrun⟩, -⟩ := step_refines hs.toWorldOk h
  refine ⟨fun hopen => ?_, fun hG => hrun.invariant_of_labels
    (fun b e hb hfair ha => hb.post hfair ha) hw (fair_step hw hG h d)⟩
  cases a with
  | token t op => trivial
  | access t owner isSlasher => trivial
  | call sender t c =>
    constructor
    · intro p hc e he
      obtain ⟨amount, hjournal⟩ := @callJournal_slash _ (w.msg self sender t) _ _ hc
      rw [stepJournal, hjournal] at hrun
      obtain ⟨-, -, -, -, -, hend⟩ := hrun
      rw [← hend] at hopen
      have hmem : forfeitedEntry w.staking.vestingPeriod t e ∈ update
          w.staking.vestedRewards p ((w.staking.vestedRewards p).map
            (forfeitedEntry w.staking.vestingPeriod t)) p := by
        rw [update_self]
        exact List.mem_map_of_mem he
      exact Books.vested_of_forfeited (hopen p _ hmem)
    · rintro vestingPeriod bps rfl p e he
      obtain ⟨-, -, -, hend⟩ := hrun
      rw [← hend] at hopen
      exact hopen p e he

/-- **Vesting never locks a provider out, exactly when** each slash of the run hits fully vested
entries and each new vesting period leaves every entry with as much vested as released. -/
theorem vesting_open_iff {self : Address} {w₀ : World} {l : List (Action × World)}
    (hdep : Deployed self w₀) (hl : Path (Step self) w₀ l) :
    StatesMeet VestingOpen w₀ l ↔ StepsMeet VestingGuard w₀ l := by
  refine hl.statesMeet_iff_stepsMeet (I := Sound self) (fun w a w' hs h => hs.step h)
    (fun w a w' hs hw h => ?_) (.deployed hdep) ?_
  · rw [vestingOpen_iff (hs.step h)]
    exact open_step_iff hs ((vestingOpen_iff hs).mp hw) h
  · rw [vestingOpen_iff (.deployed hdep)]
    obtain ⟨treasury, owner, hs⟩ := books_deployed hdep
    unfold World.books
    rw [hs]
    intro p e he
    simp [Storage.books, Storage.deployed] at he

theorem vesting_open_iff_oneEpoch :
    (World.fresh.trace 100 (stakeAndFund ++ oneEpoch)).length = 7 ∧
      StatesMeet VestingOpen World.fresh (World.fresh.trace 100 (stakeAndFund ++ oneEpoch)) := by
  refine ⟨by decide +kernel, (vesting_open_iff (@World.fresh_deployed 100 (by decide))
    (World.trace_path _)).mpr ?_⟩
  refine stepsMeet_of_mem fun x hx w => ?_
  have hmem := mem_of_mem_trace hx
  simp only [stakeAndFund, oneEpoch, List.cons_append, List.nil_append, List.mem_cons,
    List.not_mem_nil, or_false] at hmem
  rcases hmem with h | h | h | h | h | h | h <;> rw [h] <;>
    simp [VestingGuard, slashTarget]

/-- After the slash the entry has released more than has vested, and both functions panic. -/
theorem slashed_provider_locked_out :
    ∃ w, Reached 100 w ∧ ¬ ReleasedVested w.staking w.now 3 ∧
      w.staking.getClaimableVested w.now 3 = .error .panic ∧
      w.staking.claimVestedRewards ⟨3, w.now, w.token.balanceOf 100⟩ = .error .panic :=
  ⟨_, World.fresh_reached (by decide) slashEarly, by decide +kernel, by decide +kernel,
    panics_iff.mp (by decide +kernel)⟩

end Moltbunker.Contracts.Staking
