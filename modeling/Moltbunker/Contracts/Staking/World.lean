import Moltbunker.Contracts.Staking.Admin
import Moltbunker.Lib.Path

/-!
# `BunkerStaking`: runs

The contract together with its token and the clock. A step is a call of one of the contract's
external functions by any account but the contract itself, an operation of other accounts on the
token, or a change of the owner and of the slashers. Ownership and roles are managed by inherited
code, so the last kind of step lets them change arbitrarily.

Time does not run backwards, and stays within the 64 bits of the header field. A call that
reverts, in the contract or in the token, is no step. `World.next` is executable, and the step
relation `Step` is its graph.
-/

namespace Moltbunker.Contracts.Staking

open Lib

/-- The external state-changing functions of the contract, with their arguments. -/
inductive ExtCall where
  | stake (amount : ℕ)
  | stakeWithIdentity (amount : ℕ) (nodeId region : Bytes32) (capabilities : BitVec 64)
  | updateIdentity (nodeId region : Bytes32) (capabilities : BitVec 64)
  | requestUnstake (amount : ℕ)
  | completeUnstake (requestIndex : ℕ)
  | initiateBeneficiaryChange (newBeneficiary : Address)
  | executeBeneficiaryChange
  | freezeProvider (provider : Address)
  | unfreezeProvider (provider : Address)
  | slashImmediate (provider : Address) (amount : ℕ)
  | slash (provider : Address) (amount : ℕ)
  | proposeSlash (provider : Address) (amount : ℕ) (reason : String)
  | proposeSlashByReason (provider : Address) (reason : SlashReason)
  | executeSlash (proposalId : ℕ)
  | appealSlash (proposalId : ℕ)
  | resolveAppeal (proposalId : ℕ) (uphold : Bool)
  | setSlashPercentage (reason : SlashReason) (bps : BitVec 16)
  | claimRewards
  | claimVestedRewards
  | notifyRewardAmount (reward : ℕ)
  | setRewardsDuration (rewardsDuration : ℕ)
  | setVestingParams (vestingPeriod immediateReleaseBps : ℕ)
  | reportComputeHours (hours : ℕ)
  | setEmissionMultiplier (multiplierBps : ℕ)
  | setMaxEmissionRate (maxRate : ℕ)
  | setTreasury (newTreasury : Address)
  | setTierMinStake (tier : Tier) (minStake : ℕ)
  | setTierRewardMultiplier (tier : Tier) (multiplierBps : BitVec 16)
  | setMaxTierMultiplierBps (newMax : BitVec 16)
  | setUnbondingPeriod (newPeriod : ℕ)
  | setSlashFeeSplit (burnBps treasuryBps : BitVec 16)
  | setAppealWindow (newWindow : ℕ)
  | setSlashingEnabled (enabled : Bool)
  | pause
  | unpause

/-- Run one external function. -/
def exec (m : Msg) (s : Storage) : ExtCall → Exec Outcome
  | .stake amount => s.stake m amount
  | .stakeWithIdentity amount nodeId region capabilities =>
    s.stakeWithIdentity m amount nodeId region capabilities
  | .updateIdentity nodeId region capabilities => s.updateIdentity m nodeId region capabilities
  | .requestUnstake amount => s.requestUnstake m amount
  | .completeUnstake requestIndex => s.completeUnstake m requestIndex
  | .initiateBeneficiaryChange newBeneficiary => s.initiateBeneficiaryChange m newBeneficiary
  | .executeBeneficiaryChange => s.executeBeneficiaryChange m
  | .freezeProvider provider => s.freezeProvider m provider
  | .unfreezeProvider provider => s.unfreezeProvider m provider
  | .slashImmediate provider amount => s.slashImmediate m provider amount
  | .slash provider amount => s.slash m provider amount
  | .proposeSlash provider amount reason => s.proposeSlash m provider amount reason
  | .proposeSlashByReason provider reason => s.proposeSlashByReason m provider reason
  | .executeSlash proposalId => s.executeSlash m proposalId
  | .appealSlash proposalId => s.appealSlash m proposalId
  | .resolveAppeal proposalId uphold => s.resolveAppeal m proposalId uphold
  | .setSlashPercentage reason bps => s.setSlashPercentage m reason bps
  | .claimRewards => s.claimRewards m
  | .claimVestedRewards => s.claimVestedRewards m
  | .notifyRewardAmount reward => s.notifyRewardAmount m reward
  | .setRewardsDuration rewardsDuration => s.setRewardsDuration m rewardsDuration
  | .setVestingParams vestingPeriod immediateReleaseBps =>
    s.setVestingParams m vestingPeriod immediateReleaseBps
  | .reportComputeHours hours => s.reportComputeHours m hours
  | .setEmissionMultiplier multiplierBps => s.setEmissionMultiplier m multiplierBps
  | .setMaxEmissionRate maxRate => s.setMaxEmissionRate m maxRate
  | .setTreasury newTreasury => s.setTreasury m newTreasury
  | .setTierMinStake tier minStake => s.setTierMinStake m tier minStake
  | .setTierRewardMultiplier tier multiplierBps => s.setTierRewardMultiplier m tier multiplierBps
  | .setMaxTierMultiplierBps newMax => s.setMaxTierMultiplierBps m newMax
  | .setUnbondingPeriod newPeriod => s.setUnbondingPeriod m newPeriod
  | .setSlashFeeSplit burnBps treasuryBps => s.setSlashFeeSplit m burnBps treasuryBps
  | .setAppealWindow newWindow => s.setAppealWindow m newWindow
  | .setSlashingEnabled enabled => s.setSlashingEnabled m enabled
  | .pause => s.pause m
  | .unpause => s.unpause m

/-- The contract, its token and the clock. -/
structure World where
  /-- the timestamp of the last step -/
  now : ℕ
  staking : Storage
  token : Token supplyCap

/-- What can happen next, at a time `t`. -/
inductive Action where
  /-- `sender` calls an external function of the contract. -/
  | call (sender : Address) (t : ℕ) (c : ExtCall)
  /-- Another account uses the token. -/
  | token (t : ℕ) (op : Token.Op)
  /-- Ownership or the slasher role changes. -/
  | access (t : ℕ) (owner : Address) (isSlasher : Address → Bool)

namespace World

/-- What a call by `sender` at time `t` reads from its surroundings. -/
def msg (self : Address) (w : World) (sender : Address) (t : ℕ) : Msg :=
  ⟨sender, t, w.token.balanceOf self⟩

/-- The clock may move from `w.now` to `t`. -/
def Admits (w : World) (t : ℕ) : Prop := w.now ≤ t ∧ t < timestampBound

instance (w : World) (t : ℕ) : Decidable (w.Admits t) := inferInstanceAs (Decidable (_ ∧ _))

/-- One step of the world in which the contract lives at `self`. -/
def next (self : Address) (w : World) : Action → Option World
  | .call sender t c =>
    if w.Admits t ∧ sender ≠ self ∧ sender ≠ 0 then
      match exec (w.msg self sender t) w.staking c with
      | .error _ => none
      | .ok (s', calls) =>
        match Token.runCalls self calls w.token with
        | .error _ => none
        | .ok T' => some ⟨t, s', T'⟩
    else none
  | .token t op =>
    if w.Admits t ∧ op.actor ≠ some self then
      match op.apply w.token with
      | .error _ => none
      | .ok T' => some ⟨t, w.staking, T'⟩
    else none
  | .access t owner isSlasher =>
    if w.Admits t then
      some ⟨t, { w.staking with
        owner := owner
        isSlasher := isSlasher }, w.token⟩
    else none

end World

/-- The step relation of the contract at `self`. -/
def Step (self : Address) (w : World) (a : Action) (w' : World) : Prop := w.next self a = some w'

/-- The worlds in which the contract has just been deployed at `self`. The token may be in any
state in which the new address has approved nobody. -/
def Deployed (self : Address) (w : World) : Prop :=
  self ≠ 0 ∧ w.now < timestampBound ∧ (∃ tokenAddress treasury initialOwner,
    constructor tokenAddress treasury initialOwner = .ok w.staking) ∧
    ∀ spender, w.token.allowance self spender = 0

/-- The worlds that some run from a deployment reaches. -/
def Reached (self : Address) (w : World) : Prop :=
  ∃ w₀, Deployed self w₀ ∧ Reachable (Step self) w₀ w

/-! ## What a step does -/

variable {self : Address} {w : World}

variable {w' : World} {a : Action} {sender : Address} {t : ℕ} {c : ExtCall}

/-- **The three kinds of steps.** -/
theorem step_cases (h : Step self w a w') :
    (∃ sender t c calls, a = .call sender t c ∧ w.Admits t ∧ sender ≠ self ∧ sender ≠ 0 ∧
        exec (w.msg self sender t) w.staking c = .ok (w'.staking, calls) ∧
        Token.runCalls self calls w.token = .ok w'.token ∧ w'.now = t) ∨
      (∃ t op, a = .token t op ∧ w.Admits t ∧ op.actor ≠ some self ∧
        op.apply w.token = .ok w'.token ∧ w' = ⟨t, w.staking, w'.token⟩) ∨
      (∃ t owner isSlasher, a = .access t owner isSlasher ∧ w.Admits t ∧
        w' = ⟨t, { w.staking with
          owner := owner
          isSlasher := isSlasher }, w.token⟩) := by
  unfold Step at h
  cases a <;> simp only [World.next] at h
  case call sender t c =>
    split at h
    · next hadm =>
      split at h
      · cases h
      · next s' calls hexec =>
        split at h
        · cases h
        · next T' htoken =>
          cases h
          exact .inl ⟨sender, t, c, calls, rfl, hadm.1, hadm.2.1, hadm.2.2, hexec, htoken,
            rfl⟩
    · cases h
  case token t op =>
    split at h
    · next hadm =>
      split at h
      · cases h
      · next T' happly =>
        cases h
        exact .inr (.inl ⟨t, op, rfl, hadm.1, hadm.2, happly, rfl⟩)
    · cases h
  case access t owner isSlasher =>
    split at h
    · next hadm =>
      cases h
      exact .inr (.inr ⟨t, owner, isSlasher, rfl, hadm, rfl⟩)
    · cases h

/-- A step that is a call returned, in the contract and in the token. -/
lemma call_of_step (h : Step self w (.call sender t c) w') :
    ∃ calls, w.Admits t ∧ sender ≠ self ∧ sender ≠ 0 ∧
      exec (w.msg self sender t) w.staking c = .ok (w'.staking, calls) ∧
      Token.runCalls self calls w.token = .ok w'.token ∧ w'.now = t := by
  rcases step_cases h with ⟨_, _, _, calls, heq, hcall⟩ | ⟨_, _, heq, -⟩ | ⟨_, _, _, heq, -⟩
  · cases heq
    exact ⟨calls, hcall⟩
  · cases heq
  · cases heq

/-- A call that returns, in the contract and in the token, is a step. -/
lemma step_call {s' : Storage} {calls : List TokenCall} {T' : Token supplyCap} (ht : w.Admits t)
    (hself : sender ≠ self) (hzero : sender ≠ 0)
    (hexec : exec (w.msg self sender t) w.staking c = .ok (s', calls))
    (htoken : Token.runCalls self calls w.token = .ok T') :
    Step self w (.call sender t c) ⟨t, s', T'⟩ := by
  unfold Step World.next
  dsimp only
  rw [if_pos ⟨ht, hself, hzero⟩, hexec]
  dsimp only
  rw [htoken]

/-! ## Concrete runs -/

/-- The run of a list of actions, up to the first that is refused. -/
def World.trace (self : Address) (w : World) (actions : List Action) : List (Action × World) :=
  Lib.trace (World.next self) w actions

lemma World.trace_path (actions : List Action) :
    Path (Step self) w (w.trace self actions) := Lib.trace_path w actions

/-- A fresh deployment at time `0`, with treasury `1` and owner `2`, before any token exists. -/
def World.fresh : World := ⟨0, .deployed 1 2, .empty supplyCap⟩

lemma World.fresh_deployed (h : self ≠ 0) : Deployed self World.fresh :=
  ⟨h, by decide, ⟨1, 1, 2, rfl⟩, fun _ => rfl⟩

/-- Every run of a list of actions from the fresh deployment reaches its last state. -/
lemma World.fresh_reached (h : self ≠ 0) (actions : List Action) :
    Reached self (endState World.fresh (World.fresh.trace self actions)) :=
  ⟨World.fresh, World.fresh_deployed h, _, World.trace_path actions, rfl⟩

/-- A provider stakes, and the reward pool holds 1.2 times what a first epoch will emit. -/
def stakeAndFund : List Action :=
  [.token 0 (.mint 3 (10 ^ 24)), .token 0 (.approve 3 100 (10 ^ 24)), .call 3 0 (.stake (10 ^ 24)),
    .token 0 (.mint 100 (725760 * 10 ^ 18))]

/-- One epoch is emitted in full, claimed, and vested. -/
def oneEpoch : List Action :=
  [.call 2 0 (.notifyRewardAmount (604800 * 10 ^ 18)), .call 3 604800 .claimRewards,
    .call 3 (604800 + 90 * 86400) .claimVestedRewards]

/-- Account `4` becomes a slasher, and slashing is switched on. -/
def enableSlashing : List Action :=
  [.access 604800 2 fun a => a == 4, .call 2 604800 (.setSlashingEnabled true)]

/-- A provider claims the rewards of an epoch, and is slashed one second later. -/
def slashEarly : List Action :=
  stakeAndFund ++ [.call 2 0 (.notifyRewardAmount (604800 * 10 ^ 18)),
    .call 3 604800 .claimRewards] ++ enableSlashing ++ [.call 4 604801 (.slash 3 1)]

end Moltbunker.Contracts.Staking
