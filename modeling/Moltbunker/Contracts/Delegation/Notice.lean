import Moltbunker.Contracts.Delegation.Ledger

/-!
# `BunkerDelegation`: notice of a higher reward cut

A provider that raises its reward cut schedules the new cut and may finalize it when the unbonding
period has passed, so that its delegators can leave before. For that the cut that takes effect must
be the one of the provider's last announcement. `lastConfig` follows the announcements of a provider
through a run, and `reward_cut_announced` states the notice for every run in which nobody lowers a
cut, or the cap, below a scheduled one.

Without that it fails (`raised_after_lowering`): a call that lowers the cut leaves the scheduled one
in its slot, and the provider can finalize it at any later time.
-/

namespace Moltbunker.Contracts.Delegation

open Lib Function
open Chain (Step Deployed Reached)

/-- A call of `setDelegationConfig`, with what was in force when it was made. -/
structure Announcement where
  time : ℕ
  cut : BitVec 16
  /-- the reward cut before the call -/
  cutBefore : BitVec 16
  /-- the unbonding period -/
  notice : ℕ
  deriving DecidableEq

/-- The announcement that a step is, if it is one of the provider `p`. -/
def announcement (p : Address) (w : World) : Action → Option Announcement
  | .call sender t (.setDelegationConfig cut _) =>
    if sender = p then
      some ⟨t, cut, (w.storage.providerConfigs p).rewardCutBps, w.storage.unbondingPeriod⟩
    else none
  | _ => none

/-- The last announcement of `p` after a run, given the last one before it. -/
def lastConfig (p : Address) : Option Announcement → World → List (Action × World) →
    Option Announcement
  | last, _, [] => last
  | last, w, (a, w') :: rest => lastConfig p ((announcement p w a).or last) w' rest

/-- No cut is lowered, and no cap set, below a scheduled cut, and the end of the notice fits its 48
bits. -/
def NoticeGuard (w : World) : Action → Prop
  | .call sender t (.setDelegationConfig cut _) =>
    (cut ≤ (w.storage.providerConfigs sender).rewardCutBps →
      (w.storage.providerConfigs sender).pendingRewardCutBps = 0) ∧
    ((w.storage.providerConfigs sender).rewardCutBps < cut →
      t + w.storage.unbondingPeriod < 2 ^ 48)
  | .call _ _ (.setMaxRewardCutBps newMax) =>
    ∀ p, (w.storage.providerConfigs p).pendingRewardCutBps ≤ newMax
  | _ => True

variable {self : Address} {w w' : World} {a : Action} {p : Address}

/-- The announcement raised the cut to `v`, and its notice is over at time `t`. -/
structure Announcement.Raises (n : Announcement) (v : BitVec 16) (t : ℕ) : Prop where
  cut : n.cut = v
  raise : n.cutBefore < n.cut
  notice : n.time + n.notice ≤ t

/-- A scheduled cut is that of the last announcement, and within the cap. -/
structure Scheduled (p : Address) (last : Option Announcement) (s : Storage) : Prop where
  announced : (s.providerConfigs p).pendingRewardCutBps ≠ 0 →
    ∃ n, last = some n ∧ n.Raises (s.providerConfigs p).pendingRewardCutBps
      (s.providerConfigs p).rewardCutEffectiveAt.toNat
  capped : (s.providerConfigs p).pendingRewardCutBps.toNat ≤ s.maxRewardCutBps

/-! ## One step -/

variable {last : Option Announcement} {s : Storage} {cut share : BitVec 16} {s' : Storage}

/-- The slot of the scheduled cut and the cap are as they were. -/
lemma Scheduled.congr (h : Scheduled p last s)
    (hpending : (s'.providerConfigs p).pendingRewardCutBps =
      (s.providerConfigs p).pendingRewardCutBps)
    (heffective : (s'.providerConfigs p).rewardCutEffectiveAt =
      (s.providerConfigs p).rewardCutEffectiveAt) (hmax : s'.maxRewardCutBps = s.maxRewardCutBps) :
    Scheduled p last s' := by
  refine ⟨?_, ?_⟩
  · rw [hpending, heffective]
    exact h.announced
  · rw [hpending, hmax]
    exact h.capped

/-- Nothing is scheduled. -/
lemma Scheduled.none (h : (s.providerConfigs p).pendingRewardCutBps = 0) :
    Scheduled p last s := by
  refine ⟨fun hne => absurd h hne, ?_⟩
  rw [h]
  exact Nat.zero_le _

/-- A write of the configuration of `q` that leaves the cap keeps the schedule of any other
provider; that of `q` is left to show. -/
lemma Scheduled.write {last' : Option Announcement} {q : Address}
    {config : ProviderDelegationConfig} (h : Scheduled p last s)
    (hconfigs : s'.providerConfigs = update s.providerConfigs q config)
    (hmax : s'.maxRewardCutBps = s.maxRewardCutBps) (hother : p ≠ q → last' = last)
    (hself : p = q → s'.providerConfigs p = config → Scheduled p last' s') :
    Scheduled p last' s' := by
  by_cases hp : p = q
  · apply hself hp
    rw [hconfigs, hp, update_self]
  · rw [hother hp]
    apply h.congr
    · rw [hconfigs, update_of_ne hp]
    · rw [hconfigs, update_of_ne hp]
    · exact hmax

/-- `setDelegationConfig` is an announcement of its sender, and none of any other provider. -/
lemma announcement_other {sender : Address} {t : ℕ} (hne : p ≠ sender) :
    (announcement p w (.call sender t (.setDelegationConfig cut share))).or last = last := by
  unfold announcement
  dsimp only
  rw [if_neg (Ne.symm hne)]
  rfl

/-- **Every step that meets the guard keeps the schedule.** -/
theorem Scheduled.step (hw : Scheduled p last w.storage)
    (hG : NoticeGuard w a) (h : Step contract self w a w') :
    Scheduled p ((announcement p w a).or last) w'.storage := by
  rcases Chain.step_cases h with ⟨sender, t, c, calls, rfl, -, -, -, hexec, -, -⟩ |
    ⟨_, _, rfl, -, -, -, hw'⟩ | ⟨_, _, rfl, -, rfl⟩
  · have heff := exec_effect hexec
    generalize w'.storage = s' at heff ⊢
    cases heff with
    | @scheduled cut share hmax hraise =>
      refine hw.write rfl rfl announcement_other ?_
      rintro rfl hself
      simp only [announcement, if_true, Option.some_or]
      -- the end of the notice is not cut off
      have heffective : (BitVec.ofNat 48 (t + w.storage.unbondingPeriod)).toNat =
          t + w.storage.unbondingPeriod := toNat_ofNat_eq_iff.mpr (hG.2 hraise)
      refine ⟨fun _ => ⟨_, rfl, ?_⟩, ?_⟩
      · rw [hself]
        exact ⟨rfl, hraise, heffective.ge⟩
      · rw [hself]
        calc cut.toNat ≤ (BitVec.ofNat 16 w.storage.maxRewardCutBps).toNat := hmax
          _ ≤ w.storage.maxRewardCutBps := Nat.mod_le _ _
    | lowered hlower =>
      refine hw.write rfl rfl announcement_other ?_
      rintro rfl hself
      apply Scheduled.none
      rw [hself]
      exact hG.1 hlower
    | finalized hpending htime =>
      refine hw.write rfl rfl (fun _ => rfl) ?_
      intro _ hself
      apply Scheduled.none
      rw [hself]
    | toggled =>
      refine hw.write rfl rfl (fun _ => rfl) ?_
      rintro rfl hself
      apply hw.congr
      · rw [hself]
        rfl
      · rw [hself]
        rfl
      · rfl
    | delegated hinactive hto | undelegated hactive hleft hto htotal =>
      refine hw.write rfl rfl (fun _ => rfl) ?_
      rintro rfl hself
      apply hw.congr
      · rw [hself]
      · rw [hself]
      · rfl
    | completed hreq hopen htime => exact hw.congr rfl rfl rfl
    | admin hc hdelegations hconfigs hqueues htotal hmax =>
      have hnone : (announcement p w (.call sender t c)).or last = last := by
        cases c with
        | setDelegationConfig _ _ => cases hc
        | _ => rfl
      rw [hnone]
      rcases hmax with hmax | ⟨newMax, rfl, hmax⟩
      · apply hw.congr
        · rw [hconfigs]
        · rw [hconfigs]
        · exact hmax
      · refine ⟨?_, ?_⟩
        · rw [hconfigs]
          exact hw.announced
        · rw [hconfigs, hmax]
          exact hG p
  · rw [hw']
    exact hw
  · exact hw.congr rfl rfl rfl

/-- **The only way up**: a reward cut rises when its provider finalizes a scheduled one, at its
time. -/
theorem rise_finalizes (h : Step contract self w a w')
    (hrise : (w.storage.providerConfigs p).rewardCutBps <
      (w'.storage.providerConfigs p).rewardCutBps) :
    (w.storage.providerConfigs p).pendingRewardCutBps ≠ 0 ∧
      (w'.storage.providerConfigs p).rewardCutBps =
        (w.storage.providerConfigs p).pendingRewardCutBps ∧
      (w.storage.providerConfigs p).rewardCutEffectiveAt.toNat ≤ w'.now ∧
      w'.storage.maxRewardCutBps = w.storage.maxRewardCutBps := by
  obtain ⟨-, hnow⟩ := Chain.step_now h
  -- a write of `config` to `q` that raises the cut of `p` is one of `p`, and `config` has that cut
  have hwritten : ∀ {q : Address} {config : ProviderDelegationConfig},
      (w.storage.providerConfigs p).rewardCutBps <
        (update w.storage.providerConfigs q config p).rewardCutBps →
      p = q ∧ (w.storage.providerConfigs q).rewardCutBps < config.rewardCutBps := by
    intro q config hlt
    by_cases hp : p = q
    · subst hp
      rw [update_self] at hlt
      exact ⟨rfl, hlt⟩
    · rw [update_of_ne hp] at hlt
      exact absurd hlt (BitVec.lt_irrefl _)
  rcases Chain.step_cases h with ⟨sender, t, c, calls, rfl, -, -, -, hexec, -, -⟩ |
    ⟨_, _, rfl, -, -, -, hw'⟩ | ⟨_, _, rfl, -, rfl⟩
  · have heff := exec_effect hexec
    generalize w'.storage = s' at heff hrise ⊢
    cases heff with
    | scheduled hmax hraise | toggled | delegated hinactive hto
    | undelegated hactive hleft hto htotal => exact absurd (hwritten hrise).2 (BitVec.lt_irrefl _)
    | lowered hlower => exact absurd (hwritten hrise).2 (BitVec.not_lt.mpr hlower)
    | finalized hpending htime =>
      obtain ⟨rfl, -⟩ := hwritten hrise
      refine ⟨hpending, ?_, ?_, rfl⟩
      · show (update w.storage.providerConfigs p _ p).rewardCutBps = _
        rw [update_self]
        rfl
      · rw [hnow]
        exact htime
    | completed hreq hopen htime => exact absurd hrise (BitVec.lt_irrefl _)
    | admin hc hdelegations hconfigs hqueues htotal hmax =>
      rw [hconfigs] at hrise
      exact absurd hrise (BitVec.lt_irrefl _)
  · rw [hw'] at hrise
    exact absurd hrise (BitVec.lt_irrefl _)
  · exact absurd hrise (BitVec.lt_irrefl _)

/-! ## Over a run -/

/-- A run whose steps all meet the guard keeps the schedule. -/
lemma Scheduled.run {l : List (Action × World)} (hw : Scheduled p last w.storage)
    (hl : Path (Step contract self) w l) (hG : StepsMeet NoticeGuard w l) :
    Scheduled p (lastConfig p last w l) (endState w l).storage := by
  induction l generalizing w last with
  | nil => exact hw
  | cons x l ih =>
    obtain ⟨hstep, hl⟩ := hl
    obtain ⟨hguard, hG⟩ := hG
    exact ih (hw.step hguard hstep) hl hG

/-- **No bait and switch on the reward cut.** In every run whose steps all meet the guard, when the
reward cut of a provider rises, the provider's last configuration announced that cut, at least the
unbonding period of then before, and the cut is within the cap. -/
theorem reward_cut_announced {w₀ : World} {l : List (Action × World)}
    (hw₀ : Deployed contract self w₀) (hl : Path (Step contract self) w₀ l)
    (hG : StepsMeet NoticeGuard w₀ l) (h : Step contract self (endState w₀ l) a w')
    (hrise : ((endState w₀ l).storage.providerConfigs p).rewardCutBps <
      (w'.storage.providerConfigs p).rewardCutBps) :
    ∃ n, lastConfig p none w₀ l = some n ∧
      n.Raises (w'.storage.providerConfigs p).rewardCutBps w'.now ∧
      (w'.storage.providerConfigs p).rewardCutBps.toNat ≤ w'.storage.maxRewardCutBps := by
  have hinit : Scheduled p none w₀.storage := by
    obtain ⟨_, _, hs⟩ := storage_deployed hw₀
    rw [hs]
    exact Scheduled.none rfl
  have hend := hinit.run hl hG
  obtain ⟨hpending, hcut, htime, hmax⟩ := rise_finalizes h hrise
  obtain ⟨n, hn, hraises⟩ := hend.announced hpending
  refine ⟨n, hn, ⟨?_, hraises.raise, hraises.notice.trans htime⟩, ?_⟩
  · rw [hcut]
    exact hraises.cut
  · rw [hcut, hmax]
    exact hend.capped

/-- A provider announces a cut of 30 percent and finalizes it a week later. -/
theorem reward_cut_announced_finalized :
    let l := fresh.trace contract 100 [.call 3 0 (.setDelegationConfig 3000 0)]
    ∃ w', Step contract 100 (endState fresh l) (.call 3 604800 .finalizeRewardCut) w' ∧
      (w'.storage.providerConfigs 3).rewardCutBps = 3000 ∧
      ∃ n, lastConfig 3 none fresh l = some n ∧
        n.Raises (w'.storage.providerConfigs 3).rewardCutBps w'.now ∧
        (w'.storage.providerConfigs 3).rewardCutBps.toNat ≤ w'.storage.maxRewardCutBps := by
  intro l
  have hsome : ((endState fresh l).next contract 100
      (.call 3 604800 .finalizeRewardCut)).isSome = true := by decide +kernel
  have hcut : ((Option.get _ hsome).storage.providerConfigs 3).rewardCutBps = 3000 := by
    decide +kernel +revert
  have hstep : Step contract 100 (endState fresh l) (.call 3 604800 .finalizeRewardCut)
      (Option.get _ hsome) := (Option.some_get hsome).symm
  have hguard : StepsMeet NoticeGuard fresh l := ⟨⟨by decide, by decide⟩, trivial⟩
  refine ⟨_, hstep, hcut, ?_⟩
  apply reward_cut_announced (fresh_deployed (by decide)) (Chain.World.trace_path contract 100)
    hguard hstep
  rw [hcut]
  decide +kernel

/-- With a cut of 10 percent a provider schedules 30, lowers its cut to 5, and finalizes. -/
def lowering : List Action :=
  [.call 3 0 (.setDelegationConfig 1000 0), .call 3 604800 .finalizeRewardCut,
    .call 3 604800 (.setDelegationConfig 3000 0), .call 3 604801 (.setDelegationConfig 500 0)]

/-- **The announcement that is not the last.** The cut rises from 5 to 30 percent, and the last that
the provider announced was to lower it to 5. -/
theorem raised_after_lowering :
    let l := fresh.trace contract 100 lowering
    ∃ w', Deployed contract 100 fresh ∧ Path (Step contract 100) fresh l ∧
      Step contract 100 (endState fresh l) (.call 3 1209600 .finalizeRewardCut) w' ∧
      ((endState fresh l).storage.providerConfigs 3).rewardCutBps = 500 ∧
      (w'.storage.providerConfigs 3).rewardCutBps = 3000 ∧
      lastConfig 3 none fresh l = some ⟨604801, 500, 1000, 604800⟩ := by
  intro l
  have hsome : ((endState fresh l).next contract 100
      (.call 3 1209600 .finalizeRewardCut)).isSome = true := by decide +kernel
  exact ⟨Option.get _ hsome, fresh_deployed (by decide), Chain.World.trace_path contract 100,
    (Option.some_get hsome).symm, by decide +kernel, by decide +kernel +revert, by decide +kernel⟩

end Moltbunker.Contracts.Delegation
