import Moltbunker.Contracts.Staking.Books

/-!
# `BunkerStaking`: what a call does

One theorem, `exec_effect`, says what each of the external functions did when it returned, from a
lemma for each (`stake_effect`, …). The effects keep the guards that later arguments use and name
the new storage; the error of a failed guard is in the definition. The functions that only set parameters or flags outside the accounting, the identities and the
proposals are one case of it (`Quiet`). Every invariant below is proved from the cases of `Effect`
and none looks at the functions again.
-/

namespace Moltbunker.Contracts.Staking

open Lib Function Storage

/-! ## Bounded parameters -/

/-- The bounds that the setters and the constructor keep on the parameters. -/
structure Parameters (s : Storage) : Prop where
  multiplierCap : bpsDenominator ≤ s.maxTierMultiplierBps
  burnBps : s.slashBurnBps ≤ bpsDenominator
  burnSnapshot : ∀ id, (s.slashProposals id).slashBurnBpsSnapshot.toNat ≤ bpsDenominator
  treasury : s.treasury ≠ 0
  unbondingPeriod : s.unbondingPeriod ≤ 90 * 86400

lemma Parameters.deployed {treasury owner : Address} (h : treasury ≠ 0) :
    Parameters (.deployed treasury owner) where
  multiplierCap := by simp [Storage.deployed, bpsDenominator]
  burnBps := by simp [Storage.deployed, bpsDenominator]
  burnSnapshot _ := by simp [Storage.deployed, SlashProposal.zero]
  treasury := h
  unbondingPeriod := by simp [Storage.deployed]

variable {s : Storage} {m : Msg} {r : Outcome}

/-- The parameters depend on a few fields only. -/
lemma Parameters.of_eq {s' : Storage} (h : Parameters s)
    (h₁ : s'.maxTierMultiplierBps = s.maxTierMultiplierBps) (h₂ : s'.slashBurnBps = s.slashBurnBps)
    (h₃ : ∀ id, (s'.slashProposals id).slashBurnBpsSnapshot =
      (s.slashProposals id).slashBurnBpsSnapshot) (h₄ : s'.treasury = s.treasury)
    (h₅ : s'.unbondingPeriod = s.unbondingPeriod) : Parameters s' where
  multiplierCap := h₁ ▸ h.multiplierCap
  burnBps := h₂ ▸ h.burnBps
  burnSnapshot id := h₃ id ▸ h.burnSnapshot id
  treasury := h₄ ▸ h.treasury
  unbondingPeriod := h₅ ▸ h.unbondingPeriod

variable {p : Address} {amount : ℕ} {f : SlashProposal → SlashProposal} {c : ExtCall}

/-- A new proposal snapshots the burn share in force. -/
lemma Parameters.pushProposal {reason : String} {slashReason : SlashReason} (h : Parameters s) :
    Parameters { s with
      slashProposalCount := s.slashProposalCount + 1
      slashProposals := update s.slashProposals s.slashProposalCount
        (s.newProposal m p amount reason slashReason) } := by
  refine ⟨h.multiplierCap, h.burnBps, fun id => ?_, h.treasury, h.unbondingPeriod⟩
  by_cases hid : id = s.slashProposalCount
  · subst hid
    simp only [update_self, newProposal]
    exact (toNat_ofNat_le _ _).trans h.burnBps
  · simp only [update_of_ne hid]
    exact h.burnSnapshot id

lemma Parameters.modifyProposal {id : ℕ} (h : Parameters s)
    (hf : ∀ x, (f x).slashBurnBpsSnapshot = x.slashBurnBpsSnapshot) :
    Parameters (s.modifyProposal id f) :=
  h.of_eq rfl rfl (read_update_self SlashProposal.slashBurnBpsSnapshot (hf _)) rfl rfl

lemma Parameters.slashes {info' : ProviderInfo} (h : Parameters s)
    (hr : s.Slashes m p amount info' r) : Parameters r.1 := by
  rw [hr.storage]
  exact h.of_eq rfl rfl (fun _ => rfl) rfl rfl

lemma Parameters.updated (h : Parameters s) (t : ℕ) :
    Parameters (s.updated t p) := h.of_eq rfl rfl (fun _ => rfl) rfl rfl

lemma Parameters.applies {x : SlashProposal} (h : Parameters s) (hr : s.Applies m x r) :
    Parameters r.1 := by
  obtain ⟨-, ⟨-, rfl⟩ | ⟨info', hslash⟩⟩ := hr
  · exact h.updated _
  · exact (h.updated _).slashes hslash

/-! ## Quiet calls -/

/-- The change of storage by a call that touches neither the books nor the identities nor the
proposals, and keeps the parameters in their bounds. -/
structure Quiet (s s' : Storage) : Prop where
  books : ∀ now balance, s'.books now balance = s.books now balance
  nodeId : ∀ p, (s'.providers p).nodeId = (s.providers p).nodeId
  claims : s'.nodeIdToProvider = s.nodeIdToProvider
  proposals : s'.slashProposals = s.slashProposals
  count : s'.slashProposalCount = s.slashProposalCount
  parameters : Parameters s → Parameters s'

/-- The calls whose change is quiet. -/
def ExtCall.quiet : ExtCall → Bool
  | .initiateBeneficiaryChange _ => true
  | .executeBeneficiaryChange => true
  | .freezeProvider _ => true
  | .unfreezeProvider _ => true
  | .setSlashPercentage _ _ => true
  | .setRewardsDuration _ => true
  | .reportComputeHours _ => true
  | .setEmissionMultiplier _ => true
  | .setMaxEmissionRate _ => true
  | .setTreasury _ => true
  | .setMaxTierMultiplierBps _ => true
  | .setUnbondingPeriod _ => true
  | .setSlashFeeSplit _ _ => true
  | .setAppealWindow _ => true
  | .setSlashingEnabled _ => true
  | .pause => true
  | .unpause => true
  | _ => false

/-- The amounts of the providers when one record is written. -/
lemma amounts_update (f : Address → ProviderInfo) (p : Address) (i : ProviderInfo) :
    (fun q => (update f p i q).stakedAmount.toNat) =
        update (fun q => (f q).stakedAmount.toNat) p i.stakedAmount.toNat ∧
      (fun q => (update f p i q).totalUnbonding.toNat) =
        update (fun q => (f q).totalUnbonding.toNat) p i.totalUnbonding.toNat :=
  ⟨read_update (fun i : ProviderInfo => i.stakedAmount.toNat) f p i,
    read_update (fun i : ProviderInfo => i.totalUnbonding.toNat) f p i⟩

section Write

variable (s : Storage) (p : Address) {f : ProviderInfo → ProviderInfo}
  (hstaked : ∀ i, (f i).stakedAmount = i.stakedAmount)
  (hunbonding : ∀ i, (f i).totalUnbonding = i.totalUnbonding)
include hstaked hunbonding

/-- A write to a provider's record that keeps its amounts keeps the books. -/
lemma books_modifyProvider (now balance : ℕ) :
    (s.modifyProvider p f).books now balance = s.books now balance := by
  simp only [books, modifyProvider, amounts_update, hstaked, hunbonding, update_eq_self]

/-- A write to a provider's record that keeps its amounts and its identity is quiet. -/
lemma Quiet.modifyProvider (hnode : ∀ i, (f i).nodeId = i.nodeId) :
    Quiet s (s.modifyProvider p f) where
  books := books_modifyProvider s p hstaked hunbonding
  nodeId := read_update_self ProviderInfo.nodeId (hnode _)
  claims := rfl
  proposals := rfl
  count := rfl
  parameters h := h.of_eq rfl rfl (fun _ => rfl) rfl rfl

end Write

/-! ## The effect of a call -/

/-- What a returned call did, by function. -/
inductive Effect (m : Msg) (s : Storage) : ExtCall → Outcome → Prop
  | stake {amount : ℕ} {info' : ProviderInfo} (hdep : s.Deposits m amount info')
      (hnode : info'.nodeId = (s.providers m.sender).nodeId) :
      Effect m s (.stake amount)
        (s.afterStake m amount info' s.nodeIdToProvider, [.transferFrom m.sender amount])
  | stakeWithIdentity {amount : ℕ} {nodeId region : Bytes32} {capabilities : BitVec 64}
      {info' : ProviderInfo} {claims : Bytes32 → Address} (hdep : s.Deposits m amount info')
      (hnode : ((s.providers m.sender).active = false ∧ nodeId ≠ 0 ∧
          s.nodeIdToProvider nodeId = 0 ∧ info'.nodeId = nodeId ∧
          claims = update s.nodeIdToProvider nodeId m.sender) ∨
        (nodeId = 0 ∧ info'.nodeId = (s.providers m.sender).nodeId ∧
          claims = s.nodeIdToProvider)) :
      Effect m s (.stakeWithIdentity amount nodeId region capabilities)
        (s.afterStake m amount info' claims, [.transferFrom m.sender amount])
  | updateIdentity {nodeId region : Bytes32} {capabilities : BitVec 64}
      {claims : Bytes32 → Address}
      (hnode : (nodeId ≠ (s.providers m.sender).nodeId ∧
          (nodeId ≠ 0 → s.nodeIdToProvider nodeId = 0) ∧
          claims = movedClaims s.nodeIdToProvider m.sender
            (s.providers m.sender).nodeId nodeId) ∨
        (nodeId = (s.providers m.sender).nodeId ∧ claims = s.nodeIdToProvider)) :
      Effect m s (.updateIdentity nodeId region capabilities)
        ({ s with
          providers := update s.providers m.sender { s.providers m.sender with
            nodeId := nodeId
            region := region
            capabilities := capabilities }
          nodeIdToProvider := claims }, [])
  | requestUnstake {amount : ℕ} {info' : ProviderInfo}
      (hupdate : s.updateReward m.timestamp m.sender = .ok (s.updated m.timestamp m.sender))
      (hne : amount ≠ 0) (hle : amount ≤ (s.providers m.sender).stakedAmount.toNat)
      (htotal : amount ≤ s.totalStaked)
      (hstaked : info'.stakedAmount.toNat = (s.providers m.sender).stakedAmount.toNat - amount)
      (hunbonding : info'.totalUnbonding.toNat =
        (s.providers m.sender).totalUnbonding.toNat + amount)
      (hnode : info'.nodeId = (s.providers m.sender).nodeId) :
      Effect m s (.requestUnstake amount)
        ({ s.updated m.timestamp m.sender with
          providers := update s.providers m.sender info'
          totalStaked := s.totalStaked - amount
          totalUnbonding := s.totalUnbonding + amount
          unstakeQueues := update s.unstakeQueues m.sender (s.unstakeQueues m.sender ++
            [⟨.ofNat 128 amount, .ofNat 48 (m.timestamp + s.unbondingPeriod), false⟩]) }, [])
  | completeUnstake {i : ℕ} {req : UnstakeRequest} {info' : ProviderInfo}
      (hreq : (s.unstakeQueues m.sender)[i]? = some req) (hopen : req.completed = false)
      (htime : req.unlockTime.toNat ≤ m.timestamp)
      (hle : req.amount.toNat ≤ (s.providers m.sender).totalUnbonding.toNat)
      (htotal : req.amount.toNat ≤ s.totalUnbonding)
      (hstaked : info'.stakedAmount = (s.providers m.sender).stakedAmount)
      (hunbonding : info'.totalUnbonding.toNat =
        (s.providers m.sender).totalUnbonding.toNat - req.amount.toNat)
      (hnode : info'.nodeId = (s.providers m.sender).nodeId) :
      Effect m s (.completeUnstake i)
        ({ s with
          providers := update s.providers m.sender info'
          totalUnbonding := s.totalUnbonding - req.amount.toNat
          unstakeQueues := update s.unstakeQueues m.sender
            ((s.unstakeQueues m.sender).set i { req with completed := true }) },
          [.transfer m.sender req.amount.toNat])
  | slash {c : ExtCall} {p : Address} {amount : ℕ} {info' : ProviderInfo} {r : Outcome}
      (hc : c = .slash p amount ∨ c = .slashImmediate p amount)
      (hrole : s.isSlasher m.sender = true) (henabled : s.slashingEnabled = true)
      (hupdate : s.updateReward m.timestamp p = .ok (s.updated m.timestamp p))
      (hslash : (s.updated m.timestamp p).Slashes m p amount info' r) : Effect m s c r
  | propose {c : ExtCall} (p : Address) (amount : ℕ) (text : String) (reason : SlashReason)
      (hc : c = .proposeSlash p amount text ∨ c = .proposeSlashByReason p reason) :
      Effect m s c
        ({ s with
          slashProposalCount := s.slashProposalCount + 1
          slashProposals := update s.slashProposals s.slashProposalCount
            (s.newProposal m p amount text reason) }, [])
  | executeSlash {id : ℕ} {r : Outcome} (hrole : s.isSlasher m.sender = true)
      (henabled : s.slashingEnabled = true) (hid : id < s.slashProposalCount)
      (hexec : (s.slashProposals id).executed = false)
      (happ : (s.slashProposals id).appealed = false)
      (htime : (s.slashProposals id).proposedAt + (s.slashProposals id).appealWindowSnapshot ≤
        m.timestamp)
      (hr : (s.modifyProposal id fun x => { x with executed := true }).Applies m
        (s.slashProposals id) r) : Effect m s (.executeSlash id) r
  | appealSlash {id : ℕ} (hid : id < s.slashProposalCount)
      (hexec : (s.slashProposals id).executed = false)
      (happ : (s.slashProposals id).appealed = false)
      (hsender : m.sender = (s.slashProposals id).provider)
      (htime : m.timestamp <
        (s.slashProposals id).proposedAt + (s.slashProposals id).appealWindowSnapshot) :
      Effect m s (.appealSlash id)
        (s.modifyProposal id fun x => { x with appealed := true }, [])
  | uphold {id : ℕ} {r : Outcome} (howner : m.sender = s.owner)
      (henabled : s.slashingEnabled = true) (hid : id < s.slashProposalCount)
      (happ : (s.slashProposals id).appealed = true)
      (hres : (s.slashProposals id).resolved = false)
      (hexec : (s.slashProposals id).executed = false)
      (hr : (s.modifyProposal id fun x => { x with
        resolved := true
        executed := true }).Applies m (s.slashProposals id) r) :
      Effect m s (.resolveAppeal id true) r
  | dismiss {id : ℕ} (howner : m.sender = s.owner) (hid : id < s.slashProposalCount)
      (happ : (s.slashProposals id).appealed = true)
      (hres : (s.slashProposals id).resolved = false)
      (hexec : (s.slashProposals id).executed = false) :
      Effect m s (.resolveAppeal id false)
        (s.modifyProposal id fun x => { x with resolved := true }, [])
  | claimRewards
      (hupdate : s.updateReward m.timestamp m.sender = .ok (s.updated m.timestamp m.sender))
      (hne : (s.updated m.timestamp m.sender).rewards m.sender ≠ 0)
      (hle : s.immediatePart ((s.updated m.timestamp m.sender).rewards m.sender) ≤
        (s.updated m.timestamp m.sender).rewards m.sender) :
      Effect m s .claimRewards
        ({ s.updated m.timestamp m.sender with
          rewards := update (s.updated m.timestamp m.sender).rewards m.sender 0
          vestedRewards := update s.vestedRewards m.sender
            (pushEntry (s.vestedRewards m.sender) m.timestamp
              ((s.updated m.timestamp m.sender).rewards m.sender -
                s.immediatePart ((s.updated m.timestamp m.sender).rewards m.sender))) },
          if s.immediatePart ((s.updated m.timestamp m.sender).rewards m.sender) > 0 then
            [.transfer m.sender
              (s.immediatePart ((s.updated m.timestamp m.sender).rewards m.sender))] else [])
  | claimVestedRewards
      (hle : ∀ e ∈ s.vestedRewards m.sender,
        e.releasedAmount.toNat ≤ vestedValue s.vestingPeriod m.timestamp e) :
      Effect m s .claimVestedRewards
        ({ s with
          vestedRewards := update s.vestedRewards m.sender
            (s.entriesAfterClaim m.timestamp m.sender) },
          [.transfer m.sender (s.claimableTotal m.timestamp m.sender)])
  | notifyRewardAmount {reward : ℕ} (howner : m.sender = s.owner)
      (hupdate : s.updateReward m.timestamp 0 = .ok (s.updated m.timestamp 0))
      (hduration : s.rewardsDuration ≠ 0)
      (hliability : s.notifiedRate m.timestamp reward * s.rewardsDuration *
        s.maxTierMultiplierBps / bpsDenominator ≤
          m.balance - (s.totalStaked + s.totalUnbonding)) :
      Effect m s (.notifyRewardAmount reward)
        ({ s.updated m.timestamp 0 with
          rewardRate := s.notifiedRate m.timestamp reward
          lastUpdateTime := m.timestamp
          periodFinish := m.timestamp + s.rewardsDuration }, [])
  | setVestingParams {vestingPeriod immediateReleaseBps : ℕ} (howner : m.sender = s.owner) :
      Effect m s (.setVestingParams vestingPeriod immediateReleaseBps)
        ({ s with
          vestingPeriod := vestingPeriod
          immediateReleaseBps := immediateReleaseBps }, [])
  | setTierMinStake {tier : Tier} {minStake : ℕ} (howner : m.sender = s.owner) :
      Effect m s (.setTierMinStake tier minStake)
        ({ s with
          tierConfigs := update s.tierConfigs tier
            { s.tierConfigs tier with minStake := minStake } }, [])
  | setTierRewardMultiplier {tier : Tier} {multiplierBps : BitVec 16}
      (howner : m.sender = s.owner) (hlow : bpsDenominator ≤ multiplierBps.toNat)
      (hcap : multiplierBps.toNat ≤ s.maxTierMultiplierBps) :
      Effect m s (.setTierRewardMultiplier tier multiplierBps)
        ({ s with
          tierConfigs := update s.tierConfigs tier
            { s.tierConfigs tier with rewardMultiplierBps := multiplierBps } }, [])
  | quiet {c : ExtCall} {s' : Storage} (hc : c.quiet = true) (hquiet : Quiet s s') :
      Effect m s c (s', [])

/-! ## What each function did -/

section Calls

variable {id : ℕ} {nodeId region : Bytes32} {capabilities : BitVec 64}

lemma stake_effect (h : s.stake m amount = .ok r) : Effect m s (.stake amount) r := by
  simp only [Storage.stake, bind_eq_ok, whenNotPaused_eq_ok, revertIf_eq_ok, addW_eq_ok] at h
  obtain ⟨_, hpaused, u, hu, _, hamount, _, -, _, ⟨-, rfl⟩, h⟩ := h
  obtain ⟨rfl, -⟩ := updateReward_eq_ok hu
  split at h
  · -- first registration, or a registration after a deactivation
    obtain ⟨_, -, h⟩ := bind_eq_ok.mp h
    obtain rfl := acceptStake_eq_ok h
    exact .stake ⟨hpaused, hu, hamount, rfl, rfl⟩ rfl
  · obtain rfl := acceptStake_eq_ok h
    exact .stake ⟨hpaused, hu, hamount, rfl, rfl⟩ rfl

/-- `stakeWithIdentity` claims a node identity, which was free, when an inactive provider names one;
otherwise it leaves every identity alone. -/
lemma stakeWithIdentity_effect
    (h : s.stakeWithIdentity m amount nodeId region capabilities = .ok r) :
    Effect m s (.stakeWithIdentity amount nodeId region capabilities) r := by
  simp only [Storage.stakeWithIdentity, bind_eq_ok, whenNotPaused_eq_ok, revertIf_eq_ok,
    addW_eq_ok] at h
  obtain ⟨_, hpaused, u, hu, _, hamount, _, -, _, ⟨-, rfl⟩, h⟩ := h
  obtain ⟨rfl, -⟩ := updateReward_eq_ok hu
  split at h
  · next hactive =>
    obtain ⟨_, -, h⟩ := bind_eq_ok.mp h
    split at h
    · next hnode =>
      obtain ⟨_, hfree, h⟩ := bind_eq_ok.mp h
      have hfree := not_not.mp (revertIf_eq_ok.mp hfree)
      obtain rfl := acceptStake_eq_ok h
      exact .stakeWithIdentity ⟨hpaused, hu, hamount, rfl, rfl⟩
        (.inl ⟨hactive, hnode, hfree, rfl, rfl⟩)
    · next hnode =>
      obtain rfl := acceptStake_eq_ok h
      exact .stakeWithIdentity ⟨hpaused, hu, hamount, rfl, rfl⟩
        (.inr ⟨not_not.mp hnode, rfl, rfl⟩)
  · obtain ⟨_, hnode, h⟩ := bind_eq_ok.mp h
    have hnode := not_not.mp (revertIf_eq_ok.mp hnode)
    obtain rfl := acceptStake_eq_ok h
    exact .stakeWithIdentity ⟨hpaused, hu, hamount, rfl, rfl⟩ (.inr ⟨hnode, rfl, rfl⟩)

/-- A new identity was free; the old one is released. -/
lemma updateIdentity_effect (h : s.updateIdentity m nodeId region capabilities = .ok r) :
    Effect m s (.updateIdentity nodeId region capabilities) r := by
  simp only [Storage.updateIdentity, bind_eq_ok, revertIf_eq_ok] at h
  obtain ⟨_, -, _, -, h⟩ := h
  split at h
  · next hne =>
    simp only [bind_eq_ok, revertIf_eq_ok, pure_eq_ok] at h
    obtain ⟨_, hfree, rfl⟩ := h
    refine .updateIdentity (.inl ⟨hne, fun h₀ => ?_, rfl⟩)
    by_contra hclaimed
    exact hfree ⟨h₀, hclaimed⟩
  · next heq =>
    have heq := not_not.mp heq
    rw [← pure_eq_ok.mp h, ← heq]
    exact .updateIdentity (.inr ⟨heq, rfl⟩)

/-- The amount moves from the stake to the end of the queue. -/
lemma requestUnstake_effect (h : s.requestUnstake m amount = .ok r) :
    Effect m s (.requestUnstake amount) r := by
  simp only [Storage.requestUnstake, bind_eq_ok, whenNotPaused_eq_ok, revertIf_eq_ok, addW_eq_ok,
    subC_eq_ok, pure_eq_ok] at h
  obtain ⟨_, -, u, hu, _, hamount, _, -, _, -, _, hle, staked', hstaked, unbonding', hunbonding,
    _, ⟨htotal, rfl⟩, _, ⟨-, rfl⟩, _, -, _, ⟨-, rfl⟩, rfl⟩ := h
  obtain ⟨rfl, -⟩ := updateReward_eq_ok hu
  have hle : amount ≤ (s.providers m.sender).stakedAmount.toNat := not_lt.mp hle
  -- the amount is at most a stored word, so the two casts are exact
  have hcast : (BitVec.ofNat 128 amount).toNat = amount :=
    toNat_ofNat_eq_iff.mpr (hle.trans_lt (s.providers m.sender).stakedAmount.isLt)
  obtain ⟨-, -, hstaked⟩ := subB_eq_ok hstaked
  obtain ⟨-, hunbonding⟩ := addB_eq_ok hunbonding
  rw [hcast] at hstaked hunbonding
  exact .requestUnstake hu hamount hle htotal hstaked hunbonding rfl

/-- An open request past its time is closed and paid. -/
lemma completeUnstake_effect (h : s.completeUnstake m id = .ok r) :
    Effect m s (.completeUnstake id) r := by
  simp only [Storage.completeUnstake, bind_eq_ok, revertIf_eq_ok] at h
  obtain ⟨_, -, h⟩ := h
  split at h
  · exact absurd h (by simp [throw_eq_ok])
  · next req hreq =>
    simp only [bind_eq_ok, revertIf_eq_ok, subC_eq_ok, pure_eq_ok] at h
    obtain ⟨_, hopen, _, htime, unbonding', hunbonding, _, ⟨htotal, rfl⟩, rfl⟩ := h
    obtain ⟨-, hle, hunbonding⟩ := subB_eq_ok hunbonding
    have hcast : (BitVec.ofNat 128 req.amount.toNat).toNat = req.amount.toNat :=
      toNat_ofNat_eq_iff.mpr req.amount.isLt
    rw [hcast] at hle hunbonding
    exact .completeUnstake hreq (Bool.eq_false_of_not_eq_true hopen) (not_lt.mp htime) hle htotal
      rfl hunbonding rfl

lemma executeSlash_effect (h : s.executeSlash m id = .ok r) :
    Effect m s (.executeSlash id) r := by
  simp only [Storage.executeSlash, bind_eq_ok, onlySlasher_eq_ok, revertIf_eq_ok, addW_eq_ok] at h
  obtain ⟨_, hrole, _, henabled, x, hx, _, hexec, _, happ, _, ⟨-, rfl⟩, _, htime, h⟩ := h
  obtain ⟨hid, rfl⟩ := getValidProposal_eq_ok hx
  exact .executeSlash hrole (Bool.eq_true_of_not_eq_false henabled) hid
    (Bool.eq_false_of_not_eq_true hexec) (Bool.eq_false_of_not_eq_true happ) (not_lt.mp htime)
    (applyProposal_eq_ok h)

lemma appealSlash_effect (h : s.appealSlash m id = .ok r) : Effect m s (.appealSlash id) r := by
  simp only [Storage.appealSlash, bind_eq_ok, revertIf_eq_ok, addW_eq_ok, pure_eq_ok] at h
  obtain ⟨x, hx, _, hexec, _, happ, _, hsender, _, ⟨-, rfl⟩, _, htime, rfl⟩ := h
  obtain ⟨hid, rfl⟩ := getValidProposal_eq_ok hx
  exact .appealSlash hid (Bool.eq_false_of_not_eq_true hexec) (Bool.eq_false_of_not_eq_true happ)
    (not_not.mp hsender) (not_le.mp htime)

lemma resolveAppeal_effect {uphold : Bool} (h : s.resolveAppeal m id uphold = .ok r) :
    Effect m s (.resolveAppeal id uphold) r := by
  simp only [Storage.resolveAppeal, bind_eq_ok, onlyOwner_eq_ok, revertIf_eq_ok] at h
  obtain ⟨_, howner, x, hx, _, happ, _, hres, _, hexec, h⟩ := h
  obtain ⟨hid, rfl⟩ := getValidProposal_eq_ok hx
  have happ := Bool.eq_true_of_not_eq_false happ
  have hres := Bool.eq_false_of_not_eq_true hres
  have hexec := Bool.eq_false_of_not_eq_true hexec
  cases uphold with
  | true =>
    obtain ⟨_, henabled, h⟩ := bind_eq_ok.mp h
    exact .uphold howner (Bool.eq_true_of_not_eq_false (revertIf_eq_ok.mp henabled)) hid happ hres
      hexec (applyProposal_eq_ok h)
  | false =>
    obtain rfl := pure_eq_ok.mp h
    exact .dismiss howner hid happ hres hexec

lemma proposeSlash_effect {reason : String} (h : s.proposeSlash m p amount reason = .ok r) :
    Effect m s (.proposeSlash p amount reason) r := by
  simp only [Storage.proposeSlash, pushProposal, bind_eq_ok, addW_eq_ok, pure_eq_ok] at h
  obtain ⟨_, -, _, -, _, -, _, -, _, ⟨-, rfl⟩, rfl⟩ := h
  exact .propose p amount reason .none (.inl rfl)

lemma proposeSlashByReason_effect {reason : SlashReason}
    (h : s.proposeSlashByReason m p reason = .ok r) :
    Effect m s (.proposeSlashByReason p reason) r := by
  simp only [Storage.proposeSlashByReason, pushProposal, bind_eq_ok, addW_eq_ok, pure_eq_ok] at h
  obtain ⟨_, -, _, -, _, -, amount, -, _, -, _, -, _, -, _, ⟨-, rfl⟩, rfl⟩ := h
  exact .propose p amount "" reason (.inr rfl)

lemma claimRewards_effect (h : s.claimRewards m = .ok r) : Effect m s .claimRewards r := by
  simp only [Storage.claimRewards, bind_eq_ok, revertIf_eq_ok, mulW_eq_ok, divC_eq_ok, subC_eq_ok,
    pure_eq_ok] at h
  obtain ⟨u, hu, _, -, _, hne, _, ⟨-, rfl⟩, _, ⟨-, rfl⟩, _, ⟨hle, rfl⟩, rfl⟩ := h
  obtain ⟨rfl, -⟩ := updateReward_eq_ok hu
  exact .claimRewards hu hne hle

/-- The index is stored, and the epoch restarts at the new rate, whose worst case under
`maxTierMultiplierBps` the unlocked balance covers. -/
lemma notifyRewardAmount_effect {reward : ℕ} (h : s.notifyRewardAmount m reward = .ok r) :
    Effect m s (.notifyRewardAmount reward) r := by
  simp only [Storage.notifyRewardAmount, bind_eq_ok, onlyOwner_eq_ok, revertIf_eq_ok, mulW_eq_ok,
    divC_eq_ok, addW_eq_ok, pure_eq_ok] at h
  obtain ⟨_, howner, u, hu, _, hduration, _, ⟨-, rfl⟩, _, ⟨-, rfl⟩, uncapped, hrate, _, hcheck,
    _, ⟨-, rfl⟩, rfl⟩ := h
  obtain ⟨rfl, -⟩ := updateReward_eq_ok hu
  obtain rfl := uncappedRate_eq_ok hrate
  exact .notifyRewardAmount howner hu hduration (checkLiability_eq_ok hcheck)

end Calls

/-- **What a returned call did.** -/
theorem exec_effect (h : exec m s c = .ok r) : Effect m s c r := by
  -- a setter that writes to no watched field, and keeps the parameters
  have hset : ∀ {c : ExtCall} {checks : Exec Unit} {s' : Storage}, c.quiet = true →
      adminWrite m s checks s' = .ok r → (checks = .ok () → Quiet s s') →
      Effect m s c r := by
    intro c checks s' hc hr hquiet
    obtain ⟨-, hchecks, rfl⟩ := adminWrite_eq_ok hr
    exact .quiet hc (hquiet hchecks)
  have hsame : ∀ {s' : Storage}, s'.maxTierMultiplierBps = s.maxTierMultiplierBps →
      s'.slashBurnBps = s.slashBurnBps → s'.slashProposals = s.slashProposals →
      s'.treasury = s.treasury → s'.unbondingPeriod = s.unbondingPeriod →
      Parameters s → Parameters s' :=
    fun h₁ h₂ h₃ h₄ h₅ hp => hp.of_eq h₁ h₂ (fun id => by rw [h₃]) h₄ h₅
  cases c with
  | stake _ => exact stake_effect h
  | stakeWithIdentity _ _ _ _ => exact stakeWithIdentity_effect h
  | updateIdentity _ _ _ => exact updateIdentity_effect h
  | requestUnstake _ => exact requestUnstake_effect h
  | completeUnstake _ => exact completeUnstake_effect h
  | initiateBeneficiaryChange _ | setSlashPercentage _ _ =>
    simp only [exec, initiateBeneficiaryChange, setSlashPercentage, bind_eq_ok, pure_eq_ok] at h
    obtain ⟨_, -, _, -, _, -, rfl⟩ := h
    exact .quiet rfl ⟨fun _ _ => rfl, fun _ => rfl, rfl, rfl, rfl, hsame rfl rfl rfl rfl rfl⟩
  | executeBeneficiaryChange =>
    simp only [exec, executeBeneficiaryChange, bind_eq_ok, pure_eq_ok] at h
    obtain ⟨_, -, _, -, rfl⟩ := h
    have hq := Quiet.modifyProvider s m.sender (f := fun i => { i with
      beneficiary := (s.pendingBeneficiaries m.sender).newBeneficiary })
      (fun _ => rfl) (fun _ => rfl) (fun _ => rfl)
    exact .quiet rfl ⟨hq.books, hq.nodeId, rfl, rfl, rfl, hsame rfl rfl rfl rfl rfl⟩
  | freezeProvider provider =>
    simp only [exec, freezeProvider, bind_eq_ok, pure_eq_ok] at h
    obtain ⟨_, -, _, -, rfl⟩ := h
    exact .quiet rfl (.modifyProvider s _ (fun _ => rfl) (fun _ => rfl) (fun _ => rfl))
  | unfreezeProvider provider =>
    simp only [exec, unfreezeProvider, bind_eq_ok, pure_eq_ok] at h
    obtain ⟨_, -, rfl⟩ := h
    exact .quiet rfl (.modifyProvider s _ (fun _ => rfl) (fun _ => rfl) (fun _ => rfl))
  | slashImmediate provider amount =>
    obtain ⟨hrole, henabled, hupdate, _, hslash⟩ := slashWithoutAppeal_eq_ok h
    exact .slash (.inr rfl) hrole henabled hupdate hslash
  | slash provider amount =>
    obtain ⟨hrole, henabled, hupdate, _, hslash⟩ := slashWithoutAppeal_eq_ok h
    exact .slash (.inl rfl) hrole henabled hupdate hslash
  | proposeSlash _ _ _ => exact proposeSlash_effect h
  | proposeSlashByReason _ _ => exact proposeSlashByReason_effect h
  | executeSlash _ => exact executeSlash_effect h
  | appealSlash _ => exact appealSlash_effect h
  | resolveAppeal _ _ => exact resolveAppeal_effect h
  | claimRewards => exact claimRewards_effect h
  | claimVestedRewards =>
    obtain ⟨hle, rfl⟩ := claimVestedRewards_eq_ok h
    exact .claimVestedRewards hle
  | notifyRewardAmount _ => exact notifyRewardAmount_effect h
  | setVestingParams vestingPeriod immediateReleaseBps =>
    obtain ⟨howner, -, rfl⟩ := adminWrite_eq_ok h
    exact .setVestingParams howner
  | reportComputeHours hours =>
    simp only [exec, reportComputeHours, bind_eq_ok, pure_eq_ok] at h
    obtain ⟨_, -, _, -, rfl⟩ := h
    exact .quiet rfl ⟨fun _ _ => rfl, fun _ => rfl, rfl, rfl, rfl, hsame rfl rfl rfl rfl rfl⟩
  | setTierMinStake tier minStake =>
    obtain ⟨howner, -, rfl⟩ := adminWrite_eq_ok h
    exact .setTierMinStake howner
  | setTierRewardMultiplier tier multiplierBps =>
    obtain ⟨howner, hchecks, rfl⟩ := adminWrite_eq_ok h
    simp only [bind_eq_ok, revertIf_eq_ok] at hchecks
    obtain ⟨_, -, _, hlow, hcap⟩ := hchecks
    exact .setTierRewardMultiplier howner (not_lt.mp hlow) (not_lt.mp hcap)
  | setTreasury newTreasury =>
    refine hset rfl h fun hcheck => ⟨fun _ _ => rfl, fun _ => rfl, rfl, rfl, rfl, fun hp => ?_⟩
    exact ⟨hp.multiplierCap, hp.burnBps, hp.burnSnapshot, revertIf_eq_ok.mp hcheck,
      hp.unbondingPeriod⟩
  | setMaxTierMultiplierBps newMax =>
    refine hset rfl h fun hcheck => ⟨fun _ _ => rfl, fun _ => rfl, rfl, rfl, rfl, fun hp => ?_⟩
    obtain ⟨_, hcap, -⟩ := bind_eq_ok.mp hcheck
    have hcap := revertIf_eq_ok.mp hcap
    exact ⟨not_lt.mp fun hlt => hcap (.inl hlt), hp.burnBps, hp.burnSnapshot, hp.treasury,
      hp.unbondingPeriod⟩
  | setUnbondingPeriod newPeriod =>
    refine hset rfl h fun hcheck => ⟨fun _ _ => rfl, fun _ => rfl, rfl, rfl, rfl, fun hp => ?_⟩
    have hcheck := revertIf_eq_ok.mp hcheck
    exact ⟨hp.multiplierCap, hp.burnBps, hp.burnSnapshot, hp.treasury,
      not_lt.mp fun hlt => hcheck (.inr hlt)⟩
  | setSlashFeeSplit burnBps treasuryBps =>
    refine hset rfl h fun hcheck => ⟨fun _ _ => rfl, fun _ => rfl, rfl, rfl, rfl, fun hp => ?_⟩
    have hsum := not_not.mp (revertIf_eq_ok.mp hcheck)
    exact ⟨hp.multiplierCap, (Nat.le_add_right _ _).trans hsum.le, hp.burnSnapshot, hp.treasury,
      hp.unbondingPeriod⟩
  -- the remaining setters write one field that nothing above watches
  | _ =>
    exact hset rfl h fun _ =>
      ⟨fun _ _ => rfl, fun _ => rfl, rfl, rfl, rfl, hsame rfl rfl rfl rfl rfl⟩

/-- **Every call keeps the parameters in their bounds.** -/
theorem Parameters.effect (h : Parameters s) (he : Effect m s c r) : Parameters r.1 := by
  cases he with
  | propose p amount text reason hc => exact h.pushProposal
  | slash hc hrole henabled hupdate hslash => exact (h.updated _).slashes hslash
  | executeSlash _ _ _ _ _ _ hr | uphold _ _ _ _ _ _ hr =>
    refine Parameters.applies ?_ hr
    exact h.modifyProposal fun _ => rfl
  | appealSlash _ _ _ _ _ | dismiss _ _ _ _ _ =>
    dsimp only
    exact h.modifyProposal fun _ => rfl
  | quiet hc hquiet => exact hquiet.parameters h
  | _ => exact h.of_eq rfl rfl (fun _ => rfl) rfl rfl

end Moltbunker.Contracts.Staking
