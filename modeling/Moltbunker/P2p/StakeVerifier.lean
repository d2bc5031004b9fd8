import Moltbunker.Identity.NodeID
import Moltbunker.Lib.GoTime
import Moltbunker.Lib.Tally

/-!
# Stakes of peers

`internal/p2p/stake_verifier.go` and `internal/p2p/rate_limits.go`: which wallet a peer has
announced, what the chain says about the stake of a wallet, and what a peer may do at its tier. What
the chain says is kept for a while.

The answers of the chain are arguments, as is the time.
-/

namespace Moltbunker.P2p

open Lib Function
open Identity (NodeID)

/-- `common.Address` -/
abbrev Wallet := List.Vector UInt8 20

/-! ## Tiers -/

/-- The name of a tier; `other` is a name that no table has. -/
inductive Tier where
  | unstaked
  | unknown
  | starter
  | bronze
  | silver
  | gold
  | platinum
  | other
  deriving DecidableEq

/-- `TierRateLimit` -/
structure TierRateLimit where
  rate : ℕ
  burst : ℕ

/-- `GetTierRateLimit` -/
def Tier.rateLimit : Tier → TierRateLimit
  | .unstaked | .other => ⟨10, 20⟩
  | .unknown => ⟨20, 40⟩
  | .starter => ⟨50, 100⟩
  | .bronze => ⟨100, 200⟩
  | .silver => ⟨200, 400⟩
  | .gold => ⟨500, 1000⟩
  | .platinum => ⟨1000, 2000⟩

/-- `GetTierBanDuration` -/
def Tier.banDuration : Tier → Duration
  | .unstaked | .unknown | .other => .hour
  | .starter | .bronze => 30 * .minute
  | .silver => 15 * .minute
  | .gold | .platinum => 5 * .minute

/-! ## The chain -/

/-- What `HasMinimumStake` and `GetTier` of the payment service answer; an error is `none`. -/
structure ChainAnswer where
  hasMinimumStake : Option Bool
  tier : Option Tier

/-- The answers for each wallet. -/
abbrev Chain := Wallet → ChainAnswer

/-- `CachedStakeInfo` -/
structure CachedStakeInfo where
  hasMinStake : Bool
  tier : Tier
  fetchedAt : ℤ
  isError : Bool

/-- `fetchStakeInfo` -/
def fetchStakeInfo (chain : Chain) (now : ℤ) (wallet : Wallet) : CachedStakeInfo :=
  match (chain wallet).hasMinimumStake with
  | none => ⟨false, .other, now, true⟩
  | some hasMinStake =>
    match (chain wallet).tier with
    | none => ⟨hasMinStake, .other, now, true⟩
    | some tier => ⟨hasMinStake, tier, now, false⟩

/-! ## The verifier -/

/-- `StakeVerifier`; `paymentService` says that there is one. -/
structure StakeVerifier where
  peerWallets : Table NodeID Wallet
  stakeCache : Wallet → Option CachedStakeInfo
  paymentService : Bool
  cacheTTL : Duration
  negativeTTL : Duration
  errorTTL : Duration

/-- `NewStakeVerifier` -/
def newStakeVerifier (paymentService : Bool) : StakeVerifier where
  peerWallets := ∅
  stakeCache _ := none
  paymentService := paymentService
  cacheTTL := 5 * .minute
  negativeTTL := 2 * .minute
  errorTTL := 30 * .second

namespace StakeVerifier

variable (sv : StakeVerifier)

/-- How long an answer is kept. -/
def ttl (info : CachedStakeInfo) : Duration :=
  if info.isError then sv.errorTTL
  else if info.hasMinStake then sv.cacheTTL
  else sv.negativeTTL

/-- The answer that is kept for a wallet, if it is not too old. -/
def cached (now : ℤ) (wallet : Wallet) : Option CachedStakeInfo :=
  (sv.stakeCache wallet).filter fun info => Time.sub now info.fetchedAt < sv.ttl info

/-- `getCachedOrFetch` -/
def getCachedOrFetch (chain : Chain) (now : ℤ) (wallet : Wallet) :
    StakeVerifier × CachedStakeInfo :=
  match sv.cached now wallet with
  | some info => (sv, info)
  | none =>
    let info := fetchStakeInfo chain now wallet
    ({ sv with stakeCache := update sv.stakeCache wallet (some info) }, info)

/-- `RegisterPeerWallet` -/
def registerPeerWallet (nodeID : NodeID) (wallet : Wallet) : StakeVerifier :=
  { sv with peerWallets := sv.peerWallets.insert nodeID wallet }

/-- `HasAnnounced` -/
def hasAnnounced (nodeID : NodeID) : Bool :=
  (sv.peerWallets.lookup nodeID).isSome

/-- `IsStaked` -/
def isStaked (chain : Chain) (now : ℤ) (nodeID : NodeID) : StakeVerifier × Bool :=
  match sv.peerWallets.lookup nodeID with
  | none => (sv, false)
  | some wallet =>
    if sv.paymentService then
      let fetched := sv.getCachedOrFetch chain now wallet
      (fetched.1, fetched.2.hasMinStake)
    else (sv, false)

/-- The tier that an answer of the chain gives. -/
def tierOf (info : CachedStakeInfo) : Tier :=
  if info.isError then .unknown
  else if info.hasMinStake then info.tier
  else .unstaked

/-- `GetTier` -/
def getTier (chain : Chain) (now : ℤ) (nodeID : NodeID) : StakeVerifier × Tier :=
  match sv.peerWallets.lookup nodeID with
  | none => (sv, .unstaked)
  | some wallet =>
    if sv.paymentService then
      let fetched := sv.getCachedOrFetch chain now wallet
      (fetched.1, tierOf fetched.2)
    else (sv, .unknown)

/-- `RemovePeer`: what is kept for the wallet goes with the last peer that has it. -/
def removePeer (nodeID : NodeID) : StakeVerifier :=
  match sv.peerWallets.lookup nodeID with
  | none => sv
  | some wallet =>
    let peerWallets := sv.peerWallets.erase nodeID
    let walletInUse := peerWallets.entries.any fun e => e.2 == wallet
    { sv with
      peerWallets := peerWallets
      stakeCache := if walletInUse then sv.stakeCache
        else update sv.stakeCache wallet none }

/-- `InvalidateWallet` -/
def invalidateWallet (wallet : Wallet) : StakeVerifier :=
  { sv with stakeCache := update sv.stakeCache wallet none }

/-- The wallets that were announced do not change when a stake is looked up. -/
lemma getTier_peerWallets {sv : StakeVerifier} {chain : Chain} {now : ℤ} {nodeID : NodeID} :
    (sv.getTier chain now nodeID).1.peerWallets = sv.peerWallets := by
  unfold getTier getCachedOrFetch
  split
  · rfl
  split
  · dsimp only
    split <;> rfl
  · rfl

/-- What was just looked up is found again. -/
lemma getCachedOrFetch_again {sv : StakeVerifier} {chain : Chain} {now : ℤ} (wallet : Wallet) :
    ((sv.getCachedOrFetch chain now wallet).1.getCachedOrFetch chain now wallet).2 =
      (sv.getCachedOrFetch chain now wallet).2 := by
  cases hcached : sv.cached now wallet with
  | some info => simp [getCachedOrFetch, hcached]
  | none =>
    simp only [getCachedOrFetch, hcached]
    -- the answer is kept now, unless it is not to be kept at all
    split
    · next info hinfo =>
      simp only [cached, update_self, Option.filter_eq_some_iff, Option.some.injEq]
        at hinfo
      exact hinfo.1.symm
    · rfl

lemma getTier_again {sv : StakeVerifier} {chain : Chain} {now : ℤ} {nodeID : NodeID} :
    ((sv.getTier chain now nodeID).1.getTier chain now nodeID).2 =
      (sv.getTier chain now nodeID).2 := by
  cases hwallet : sv.peerWallets.lookup nodeID with
  | none => simp [getTier, hwallet]
  | some wallet =>
    cases hpay : sv.paymentService with
    | false => simp [getTier, hwallet, hpay]
    | true =>
      have hkept : (sv.getCachedOrFetch chain now wallet).1.peerWallets = sv.peerWallets ∧
          (sv.getCachedOrFetch chain now wallet).1.paymentService = sv.paymentService := by
        unfold getCachedOrFetch
        split <;> exact ⟨rfl, rfl⟩
      simp [getTier, hwallet, hpay, hkept, getCachedOrFetch_again]

end StakeVerifier

end Moltbunker.P2p
