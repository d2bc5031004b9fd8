import Moltbunker.Contracts.Staking.World
import Moltbunker.Lib.Accrual

/-!
# `BunkerStaking`: the books

The accounting of the contract as a machine of its own. `Books` keeps what the contract owes and
holds (stakes, unbonding requests, accrued and vesting rewards, the token balance) and nothing of
roles, identities or proposals. A `Posting` is one accounting event; `post` says what it does and
`Admits` when it may happen.

Every call of the contract is a short list of postings (`callJournal`); that it is, is the content
of `Refine.lean`. Invariants of the accounting are proved once per posting, for a dozen postings
instead of three dozen functions.
-/

namespace Moltbunker.Contracts.Staking

open Lib Function

/-- The accounting state. -/
structure Books where
  now : ℕ
  /-- the tokens the contract holds -/
  balance : ℕ
  staked : Address → ℕ
  totalStaked : ℕ
  unbonding : Address → ℕ
  totalUnbonding : ℕ
  queue : Address → List UnstakeRequest
  rate : ℕ
  finish : ℕ
  last : ℕ
  index : ℕ
  paid : Address → ℕ
  rewards : Address → ℕ
  vested : Address → List VestedReward
  vestingPeriod : ℕ
  tiers : Tier → TierConfig

/-- The accounting events. -/
inductive Posting where
  /-- time passes -/
  | tick (t : ℕ)
  /-- the index is brought up to date -/
  | accrue
  /-- an account is credited with what it accrued -/
  | credit (p : Address)
  | deposit (p : Address) (amount : ℕ)
  /-- stake moves to the end of the unbonding queue -/
  | unbond (p : Address) (amount : ℕ) (unlockTime : BitVec 48)
  /-- an unbonding request is paid -/
  | withdraw (p : Address) (i : ℕ) (req : UnstakeRequest)
  /-- stake, then requests, are slashed, and unvested rewards forfeited -/
  | slash (p : Address) (amount : ℕ)
  /-- the credited rewards are paid in part and vest for the rest -/
  | claim (p : Address) (immediate : ℕ)
  /-- everything vested is paid -/
  | release (p : Address)
  | startEpoch (rate finish : ℕ)
  /-- the vesting period and the tiers are set -/
  | retune (vestingPeriod : ℕ) (tiers : Tier → TierConfig)
  /-- tokens arrive that nobody is credited for -/
  | donate (amount : ℕ)

/-- The postings that move stakes, requests and accruals only. -/
def Posting.ordinary : Posting → Bool
  | .slash _ _ => false
  | .claim _ _ => false
  | .startEpoch _ _ => false
  | .retune _ _ => false
  | _ => true

namespace Books

variable (b : Books)

/-- The tokens owed to stakers. -/
def locked : ℕ := b.totalStaked + b.totalUnbonding

/-- The time up to which rewards are emitted. -/
def clock : ℕ := if b.now < b.finish then b.now else b.finish

/-- The index gain since the last update. -/
def indexGain : ℕ :=
  if b.totalStaked = 0 then 0
  else (b.clock - b.last) * b.rate * indexScale / b.totalStaked

variable (p : Address)

/-- What `p` has accrued since it was last credited. -/
def accruedTo : ℕ := accrued b.tiers (b.staked p) (b.index - b.paid p)

/-- The unvested rewards of `p`. -/
def unvested : ℕ :=
  ((b.vested p).map (unvestedValue b.vestingPeriod b.now)).sum

/-- What `p` can claim of its vesting rewards. -/
def claimable : ℕ :=
  ((b.vested p).map (claimableValue b.vestingPeriod b.now)).sum

/-- The parts of a slash of `amount` that the stake and the queue pay. -/
def fromStake (amount : ℕ) : ℕ := min amount (b.staked p)

@[inherit_doc fromStake]
def fromQueue (amount : ℕ) : ℕ :=
  min (amount - b.staked p) (openAmount (b.queue p))

/-- What a slash of `amount` forfeits: the unvested rewards, up to what the balance holds beyond
the stakes that remain. -/
def forfeits (amount : ℕ) : ℕ :=
  min (b.unvested p) (b.balance - (b.totalStaked - b.fromStake p amount) -
    (b.totalUnbonding - b.fromQueue p amount))

/-- What a posting does. -/
def post : Posting → Books
  | .tick t => { b with now := t }
  | .accrue =>
    { b with
      index := b.index + b.indexGain
      last := b.clock }
  | .credit p =>
    { b with
      rewards :=
        if p ≠ 0 then update b.rewards p (b.accruedTo p + b.rewards p) else b.rewards
      paid := if p ≠ 0 then update b.paid p b.index else b.paid }
  | .deposit p amount =>
    { b with
      -- the stored word keeps the low 128 bits only
      staked := update b.staked p ((b.staked p + amount) % 2 ^ 128)
      totalStaked := b.totalStaked + amount
      balance := b.balance + amount }
  | .unbond p amount unlockTime =>
    { b with
      staked := update b.staked p (b.staked p - amount)
      totalStaked := b.totalStaked - amount
      unbonding := update b.unbonding p (b.unbonding p + amount)
      totalUnbonding := b.totalUnbonding + amount
      queue := update b.queue p (b.queue p ++ [⟨.ofNat 128 amount, unlockTime, false⟩]) }
  | .withdraw p i req =>
    { b with
      unbonding := update b.unbonding p (b.unbonding p - req.amount.toNat)
      totalUnbonding := b.totalUnbonding - req.amount.toNat
      queue := update b.queue p ((b.queue p).set i { req with completed := true })
      balance := b.balance - req.amount.toNat }
  | .slash p amount =>
    { b with
      staked := update b.staked p (b.staked p - amount)
      totalStaked := b.totalStaked - b.fromStake p amount
      unbonding := update b.unbonding p (b.unbonding p - b.fromQueue p amount)
      totalUnbonding := b.totalUnbonding - b.fromQueue p amount
      queue := update b.queue p (cutQueue (b.queue p) (amount - b.staked p)).1
      vested := update b.vested p
        ((b.vested p).map (forfeitedEntry b.vestingPeriod b.now))
      balance := b.balance - (amount + b.forfeits p amount) }
  | .claim p immediate =>
    { b with
      rewards := update b.rewards p 0
      vested := update b.vested p
        (Storage.pushEntry (b.vested p) b.now (b.rewards p - immediate))
      balance := b.balance - immediate }
  | .release p =>
    { b with
      vested := update b.vested p
        (swapPop (fun e => e.releasedAmount == e.totalAmount)
          ((b.vested p).map (claimedEntry b.vestingPeriod b.now)))
      balance := b.balance - b.claimable p }
  | .startEpoch rate finish =>
    { b with
      rate := rate
      last := b.now
      finish := finish }
  | .retune vestingPeriod tiers =>
    { b with
      vestingPeriod := vestingPeriod
      tiers := tiers }
  | .donate amount => { b with balance := b.balance + amount }

/-- The index is up to date, and `p` has been credited for it. -/
structure Settled (b : Books) (p : Address) : Prop where
  current : b.last = b.clock
  credited : p ≠ 0 → b.paid p = b.index

/-- When a posting may happen. A stake changes only right after its owner was credited. -/
def Admits : Posting → Prop
  | .tick t => b.now ≤ t ∧ t < timestampBound
  | .accrue => True
  | .credit _ => b.last = b.clock
  | .deposit p _ => p ≠ 0 ∧ b.Settled p
  | .unbond p amount _ =>
    p ≠ 0 ∧ b.Settled p ∧ amount ≤ b.staked p ∧ amount ≤ b.totalStaked ∧ amount < 2 ^ 128
  | .withdraw p i req =>
    (b.queue p)[i]? = some req ∧ req.completed = false ∧ req.amount.toNat ≤ b.unbonding p ∧
      req.amount.toNat ≤ b.totalUnbonding
  | .slash p amount =>
    amount ≠ 0 ∧ b.Settled p ∧ amount ≤ b.staked p + b.unbonding p ∧
      b.fromStake p amount ≤ b.totalStaked ∧ b.fromQueue p amount ≤ b.unbonding p ∧
      b.fromQueue p amount ≤ b.totalUnbonding
  | .claim p immediate => immediate ≤ b.rewards p
  | .release p =>
    ∀ e ∈ b.vested p, e.releasedAmount.toNat ≤ vestedValue b.vestingPeriod b.now e
  | .startEpoch rate finish => b.now ≤ finish ∧ rate ≤ supplyCap
  | .retune _ _ => True
  | .donate _ => True

end Books

/-! ## The books of the contract -/

/-- The books of a storage, for the time and the token balance. -/
def Storage.books (s : Storage) (now balance : ℕ) : Books where
  now := now
  balance := balance
  staked p := (s.providers p).stakedAmount.toNat
  totalStaked := s.totalStaked
  unbonding p := (s.providers p).totalUnbonding.toNat
  totalUnbonding := s.totalUnbonding
  queue := s.unstakeQueues
  rate := s.rewardRate
  finish := s.periodFinish
  last := s.lastUpdateTime
  index := s.rewardPerTokenStored
  paid := s.userRewardPerTokenPaid
  rewards := s.rewards
  vested := s.vestedRewards
  vestingPeriod := s.vestingPeriod
  tiers := s.tierConfigs

/-- The books of a world. -/
def World.books (self : Address) (w : World) : Books :=
  w.staking.books w.now (w.token.balanceOf self)

variable (s : Storage)

/-- The postings of applying a proposal. -/
def proposalJournal (proposal : SlashProposal) : List Posting :=
  [.accrue, .credit proposal.provider] ++
    (if min proposal.amount (s.slashable proposal.provider) = 0 then []
    else [.slash proposal.provider (min proposal.amount (s.slashable proposal.provider))])

/-- The postings of a call that returns. Calls that are not listed do no accounting. -/
def callJournal (m : Msg) : ExtCall → List Posting
  | .stake amount => [.accrue, .credit m.sender, .deposit m.sender amount]
  | .stakeWithIdentity amount _ _ _ => [.accrue, .credit m.sender, .deposit m.sender amount]
  | .requestUnstake amount =>
    [.accrue, .credit m.sender,
      .unbond m.sender amount (.ofNat 48 (m.timestamp + s.unbondingPeriod))]
  | .completeUnstake i =>
    match (s.unstakeQueues m.sender)[i]? with
    | some req => [.withdraw m.sender i req]
    | none => []
  | .slashImmediate p amount => [.accrue, .credit p, .slash p amount]
  | .slash p amount => [.accrue, .credit p, .slash p amount]
  | .executeSlash id => proposalJournal s (s.slashProposals id)
  | .resolveAppeal id true => proposalJournal s (s.slashProposals id)
  | .claimRewards =>
    [.accrue, .credit m.sender,
      .claim m.sender (s.immediatePart ((s.updated m.timestamp m.sender).rewards m.sender))]
  | .claimVestedRewards => [.release m.sender]
  | .notifyRewardAmount reward =>
    [.accrue,
      .startEpoch (s.notifiedRate m.timestamp reward) (m.timestamp + s.rewardsDuration)]
  | .setVestingParams vestingPeriod _ => [.retune vestingPeriod s.tierConfigs]
  | .setTierMinStake tier minStake =>
    [.retune s.vestingPeriod (update s.tierConfigs tier
      { s.tierConfigs tier with minStake := minStake })]
  | .setTierRewardMultiplier tier multiplierBps =>
    [.retune s.vestingPeriod (update s.tierConfigs tier
      { s.tierConfigs tier with rewardMultiplierBps := multiplierBps })]
  | _ => []

/-! ## Slashes and settings -/

/-- The provider that applying a proposal slashes: none when nothing is left to slash. -/
def proposalTarget (proposal : SlashProposal) : Option Address :=
  if min proposal.amount (s.slashable proposal.provider) = 0 then none
  else some proposal.provider

/-- The provider that a call slashes, if it slashes one. -/
def slashTarget : ExtCall → Option Address
  | .slash p _ => some p
  | .slashImmediate p _ => some p
  | .executeSlash id => proposalTarget s (s.slashProposals id)
  | .resolveAppeal id true => proposalTarget s (s.slashProposals id)
  | _ => none

/-- The vesting period and the tier table that a call sets, if it sets one of them. -/
def retuned : ExtCall → Option (ℕ × (Tier → TierConfig))
  | .setVestingParams vestingPeriod _ => some (vestingPeriod, s.tierConfigs)
  | .setTierMinStake tier minStake =>
    some (s.vestingPeriod, update s.tierConfigs tier
      { s.tierConfigs tier with minStake := minStake })
  | .setTierRewardMultiplier tier multiplierBps =>
    some (s.vestingPeriod, update s.tierConfigs tier
      { s.tierConfigs tier with rewardMultiplierBps := multiplierBps })
  | _ => none

/-- No entry of `p` has released more than has vested by time `t`. -/
def ReleasedVested (t : ℕ) (p : Address) : Prop :=
  ∀ e ∈ s.vestedRewards p, e.releasedAmount.toNat ≤ vestedValue s.vestingPeriod t e

instance (s : Storage) (t : ℕ) (p : Address) : Decidable (ReleasedVested s t p) :=
  inferInstanceAs (Decidable (∀ e ∈ _, _))

end Moltbunker.Contracts.Staking
