import Moltbunker.Contracts.Staking.Bounds

/-!
# `BunkerStaking`: the reward clock

The checkpoint time, the reward clock and the end of the epoch, and the stored index, what the
accounts were credited at and the index that `rewardPerToken` shows: in every reachable state they
are in order, so that no subtraction of the reward code underflows, and none of them ever runs
backwards (`reward_clock_forward`).

The bounds of `Bounds.lean` hold the order within one state. What one step can do to the index is
read off its postings (`reading_step`). The end of the epoch moves only when an epoch starts, to the
present time plus the duration; since the duration changes only between epochs, the end is never
further away than one duration (`finish_within`), and so it never moves back.
-/

namespace Moltbunker.Contracts.Staking

open Lib Storage World

/-! ## The settings of an epoch -/

/-- What a call did to the duration and to the multiplier cap. Each has one setter: the first works
only between epochs, the second checks the epoch that runs. -/
inductive SettingsChange (m : Msg) (s : Storage) : ExtCall → Storage → Prop
  | same {c : ExtCall} {s' : Storage} (hduration : s'.rewardsDuration = s.rewardsDuration)
      (hcap : s'.maxTierMultiplierBps = s.maxTierMultiplierBps) : SettingsChange m s c s'
  | duration {d : ℕ} (hfinish : s.periodFinish ≤ m.timestamp) :
      SettingsChange m s (.setRewardsDuration d) { s with rewardsDuration := d }
  | cap {newMax : BitVec 16}
      (hcheck : m.timestamp < s.periodFinish → 0 < s.rewardRate →
        s.checkLiability m s.rewardRate newMax.toNat = .ok ()) :
      SettingsChange m s (.setMaxTierMultiplierBps newMax)
        { s with maxTierMultiplierBps := newMax.toNat }

variable {s : Storage} {m : Msg} {r : Outcome} {c : ExtCall} {self : Address} {w : World}

lemma settings_applies {u : Storage} {x : SlashProposal} (h : u.Applies m x r)
    (hduration : u.rewardsDuration = s.rewardsDuration)
    (hcap : u.maxTierMultiplierBps = s.maxTierMultiplierBps) : SettingsChange m s c r.1 := by
  obtain ⟨-, ⟨-, rfl⟩ | ⟨info', hslash⟩⟩ := h
  · exact .same hduration hcap
  · rw [hslash.storage]
    exact .same hduration hcap

/-- The quiet calls that are no setter of the epoch keep its settings. -/
lemma settings_quiet (hc : c.quiet = true) (h : exec m s c = .ok r) :
    SettingsChange m s c r.1 := by
  cases c with
  | setRewardsDuration d =>
    obtain ⟨-, hchecks, rfl⟩ := adminWrite_eq_ok h
    simp only [bind_eq_ok, revertIf_eq_ok] at hchecks
    obtain ⟨_, -, hfinish⟩ := hchecks
    exact .duration (not_lt.mp hfinish)
  | setMaxTierMultiplierBps newMax =>
    obtain ⟨-, hchecks, rfl⟩ := adminWrite_eq_ok h
    simp only [bind_eq_ok] at hchecks
    obtain ⟨_, -, hcheck⟩ := hchecks
    refine .cap fun htime hrate => ?_
    rwa [if_pos ⟨htime, hrate⟩] at hcheck
  | initiateBeneficiaryChange _ | setSlashPercentage _ _ =>
    simp only [exec, initiateBeneficiaryChange, setSlashPercentage, bind_eq_ok, pure_eq_ok] at h
    obtain ⟨_, -, _, -, _, -, rfl⟩ := h
    exact .same rfl rfl
  | executeBeneficiaryChange | freezeProvider _ | reportComputeHours _ =>
    simp only [exec, executeBeneficiaryChange, freezeProvider, reportComputeHours, bind_eq_ok,
      pure_eq_ok] at h
    obtain ⟨_, -, _, -, rfl⟩ := h
    exact .same rfl rfl
  | unfreezeProvider p =>
    simp only [exec, unfreezeProvider, bind_eq_ok, pure_eq_ok] at h
    obtain ⟨_, -, rfl⟩ := h
    exact .same rfl rfl
  | setEmissionMultiplier _ | setMaxEmissionRate _ | setTreasury _ | setUnbondingPeriod _
  | setSlashFeeSplit _ _ | setAppealWindow _ | setSlashingEnabled _ | pause | unpause =>
    obtain ⟨-, -, rfl⟩ := adminWrite_eq_ok h
    exact .same rfl rfl
  | _ => cases hc

lemma settings_exec (h : exec m s c = .ok r) : SettingsChange m s c r.1 := by
  cases exec_effect h with
  | slash hc hrole henabled hupdate hslash =>
    rw [hslash.storage]
    exact .same rfl rfl
  | executeSlash hrole henabled hid hexec happ htime hr =>
    exact settings_applies (s := s) hr rfl rfl
  | uphold howner henabled hid happ hres hexec hr => exact settings_applies (s := s) hr rfl rfl
  | quiet hc hquiet => exact settings_quiet hc h
  | _ => exact .same rfl rfl

/-! ## The index -/

namespace Books

variable {b : Books} {e : Posting}

/-- The index that `rewardPerToken` shows. -/
def reading (b : Books) : ℕ := b.index + b.indexGain

lemma reading_of_current (h : b.last = b.clock) : b.reading = b.index := by
  unfold reading indexGain
  rw [h, Nat.sub_self, Nat.zero_mul, Nat.zero_mul, Nat.zero_div, ite_self, Nat.add_zero]

/-- As time passes the reading grows. -/
lemma reading_le_tick {t : ℕ} (h : b.now ≤ t) : b.reading ≤ (b.post (.tick t)).reading := by
  have hclock : b.clock ≤ (b.post (.tick t)).clock := by
    show b.clock ≤ if t < b.finish then t else b.finish
    unfold clock
    split <;> split <;> omega
  refine Nat.add_le_add_left ?_ _
  show (if b.totalStaked = 0 then 0 else (b.clock - b.last) * b.rate * indexScale / b.totalStaked) ≤
    if b.totalStaked = 0 then 0 else
      ((b.post (.tick t)).clock - b.last) * b.rate * indexScale / b.totalStaked
  split
  · exact le_rfl
  · exact Nat.div_le_div_right (Nat.mul_le_mul_right _ (Nat.mul_le_mul_right _ (by omega)))

/-- An epoch starts on an index that is up to date. -/
def StartsCurrent (b : Books) : Posting → Prop
  | .startEpoch _ _ => b.last = b.clock
  | _ => True

/-- **No posting takes the reading back.** -/
theorem reading_post (ha : b.Admits e) (hstart : b.StartsCurrent e) :
    b.reading ≤ (b.post e).reading := by
  -- where the index is up to date, a change of the stakes adds nothing
  have hcurrent : b.last = b.clock → (b.post e).index = b.index →
      b.reading ≤ (b.post e).reading := by
    intro h hindex
    rw [reading_of_current h, ← hindex]
    exact Nat.le_add_right _ _
  cases e with
  | tick t => exact reading_le_tick ha.1
  | accrue => exact Nat.le_add_right _ _
  | deposit p amount => exact hcurrent ha.2.current rfl
  | unbond p amount unlockTime => exact hcurrent ha.2.1.current rfl
  | slash p amount => exact hcurrent ha.2.1.current rfl
  | startEpoch rate finish => exact hcurrent hstart rfl
  | _ => exact le_rfl

end Books

/-- **No step takes the index back.** -/
theorem reading_step {w' : World} {a : Action} (hok : WorldOk self w) (h : Step self w a w') :
    (w.books self).reading ≤ (w'.books self).reading := by
  obtain ⟨⟨d, hrun⟩, -⟩ := step_refines hok h
  refine hrun.invariant_of_labels (P := fun b => (w.books self).reading ≤ b.reading)
    (G := Books.StartsCurrent) (fun b e hb hG ha => hb.trans (Books.reading_post ha hG)) le_rfl
    (labels_step ?_ (fun _ _ _ _ _ _ _ => trivial) (fun _ _ _ _ => trivial)
      (fun _ _ _ _ => rfl) (fun _ _ _ _ _ _ _ => trivial) d)
  intro b e he
  cases e with
  | startEpoch _ _ => cases he
  | _ => trivial

/-! ## The end of the epoch -/

/-- The end of the epoch is at most one duration away. -/
def FinishWithin (w : World) : Prop := w.staking.periodFinish ≤ w.now + w.staking.rewardsDuration

/-- Where the end of the epoch moves in a call. -/
lemma finish_effect (he : Effect m s c r) : r.1.periodFinish = s.periodFinish ∨
    r.1.periodFinish = m.timestamp + s.rewardsDuration := by
  cases he with
  | notifyRewardAmount _ _ _ _ => exact .inr rfl
  | slash hc hrole henabled hupdate hslash =>
    rw [hslash.storage]
    exact .inl rfl
  | executeSlash hrole henabled hid hexec happ htime hr
  | uphold howner henabled hid happ hres hexec hr =>
    obtain ⟨-, ⟨-, rfl⟩ | ⟨info', hslash⟩⟩ := hr
    · exact .inl rfl
    · rw [hslash.storage]
      exact .inl rfl
  | quiet hc hquiet => exact .inl (congrArg Books.finish (hquiet.books 0 0))
  | _ => exact .inl rfl

/-- **The end of the epoch never moves back**, and stays within one duration. -/
theorem finish_step {w' : World} {a : Action} (hw : FinishWithin w) (h : Step self w a w') :
    w.staking.periodFinish ≤ w'.staking.periodFinish ∧ FinishWithin w' := by
  unfold FinishWithin at hw ⊢
  rcases step_cases h with ⟨sender, t, c, calls, rfl, ⟨htime, -⟩, -, -, hexec, -, hnow⟩ |
    ⟨t, op, rfl, ⟨htime, -⟩, -, -, hw'⟩ | ⟨t, owner, isSlasher, rfl, ⟨htime, -⟩, rfl⟩
  · have hfinish : w'.staking.periodFinish = w.staking.periodFinish ∨
        w'.staking.periodFinish = t + w.staking.rewardsDuration :=
      finish_effect (exec_effect hexec)
    have hsettings : w'.staking.rewardsDuration = w.staking.rewardsDuration ∨
        (w'.staking.periodFinish = w.staking.periodFinish ∧ w.staking.periodFinish ≤ t) := by
      have hchange : SettingsChange (w.msg self sender t) w.staking c w'.staking :=
        settings_exec hexec
      generalize w'.staking = s' at hchange ⊢
      cases hchange with
      | same hduration hcap => exact .inl hduration
      | duration hfinish => exact .inr ⟨rfl, hfinish⟩
      | cap hcheck => exact .inl rfl
    omega
  · rw [hw']
    exact ⟨le_rfl, hw.trans (Nat.add_le_add_right htime _)⟩
  · exact ⟨le_rfl, hw.trans (Nat.add_le_add_right htime _)⟩

lemma finish_within (h : Reached self w) : FinishWithin w := by
  obtain ⟨w₀, hdep, hreach⟩ := h
  refine Reachable.invariant (P := FinishWithin) (fun _ _ _ hw hs => (finish_step hw hs).2) ?_
    hreach
  obtain ⟨treasury, owner, hs⟩ := books_deployed hdep
  unfold FinishWithin
  rw [hs]
  exact Nat.zero_le _

/-! ## Forward only -/

lemma indexAt_mono {t t' : ℕ} (h : t ≤ t') : s.indexAt t ≤ s.indexAt t' :=
  Books.reading_le_tick (b := s.books t 0) h

/-- **The reward clock and the index never run backwards.** At every admissible time the two
subtractions of the reward code are defined, `rewardPerToken` and `earned` return, and
`rewardPerToken` grows with time. Along every run neither the end of the epoch nor the index moves
back. -/
theorem reward_clock_forward {self : Address} {w : World} (hw : Reached self w) :
    (∀ t, w.Admits t →
      w.staking.lastUpdateTime ≤ w.staking.lastTimeRewardApplicable t ∧
      ∃ x, w.staking.rewardPerToken t = .ok x ∧ w.staking.rewardPerTokenStored ≤ x ∧
        (∀ p, w.staking.userRewardPerTokenPaid p ≤ w.staking.rewardPerTokenStored ∧
          ∃ y, w.staking.earned t p = .ok y) ∧
        ∀ t', t ≤ t' → t' < timestampBound →
          ∃ x', w.staking.rewardPerToken t' = .ok x' ∧ x ≤ x') ∧
      ∀ l, Path (Step self) w l →
        w.staking.periodFinish ≤ (endState w l).staking.periodFinish ∧
        w.staking.indexAt w.now ≤ (endState w l).staking.indexAt (endState w l).now := by
  have hs : Sound self w := .reached hw
  refine ⟨fun t ht => ⟨?_, w.staking.indexAt t, ?_, ?_, fun p => ⟨hs.bounded.paid_le p, ?_⟩,
    fun t' hle hlt => ?_⟩, fun l hl => ?_⟩
  · exact Books.le_clock (b := w.staking.books t (w.token.balanceOf self))
      (hs.bounded.last_le_now.trans ht.1) hs.bounded.last_le_finish
  · exact rewardPerToken_returns hs.ledger hs.bounded ht.1 ht.2
  · exact Nat.le_add_right _ _
  · exact ⟨_, earned_returns hs.ledger hs.bounded ht.1 ht.2 p⟩
  · exact ⟨_, rewardPerToken_returns hs.ledger hs.bounded (ht.1.trans hle) hlt, indexAt_mono hle⟩
  · have hinv := hl.invariant (P := fun w' => (WorldOk self w' ∧ FinishWithin w') ∧
        w.staking.periodFinish ≤ w'.staking.periodFinish ∧
        (w.books self).reading ≤ (w'.books self).reading)
      (fun v a v' hv hstep => ⟨⟨(step_refines hv.1.1 hstep).2, (finish_step hv.1.2 hstep).2⟩,
        hv.2.1.trans (finish_step hv.1.2 hstep).1, hv.2.2.trans (reading_step hv.1.1 hstep)⟩)
      ⟨⟨hs.toWorldOk, finish_within hw⟩, le_rfl, le_rfl⟩
    exact hinv.endState.2

theorem reward_clock_forward_oneEpoch :
    (fresh.trace 100 (stakeAndFund ++ oneEpoch)).length = 7 ∧
      fresh.staking.periodFinish ≤
        (endState fresh
          (fresh.trace 100 (stakeAndFund ++ oneEpoch))).staking.periodFinish ∧
      fresh.staking.indexAt fresh.now ≤
        (endState fresh (fresh.trace 100 (stakeAndFund ++ oneEpoch))).staking.indexAt
          (endState fresh (fresh.trace 100 (stakeAndFund ++ oneEpoch))).now :=
  ⟨by decide +kernel,
    (reward_clock_forward (fresh_reached (by decide) [])).2 _ (trace_path _)⟩

end Moltbunker.Contracts.Staking
