import Moltbunker.Contracts.Chain

/-!
# `BunkerEscrow`

The contract `contracts/src/BunkerEscrow.sol`, function by function. A function returns its new
storage and the token calls it makes; packed fields are stored with their width, `uint256` is `ℕ`
with the checks of the compiler.

`selectProviders` asks the staking contract whether a provider is active. Its answers are an
argument of the call here, so that every staking contract is covered.

`nextReservationId` is incremented unchecked; a counter of 256 bits does not come around in a run of
fewer than `2 ^ 256` calls, and is a natural number here. Left out are the emitted events, the views
and the constant `VERSION`; ownership and roles are OpenZeppelin's.
-/

namespace Moltbunker.Contracts.Escrow

open Lib Function

/-! ## Constants -/

/-- `BPS_DENOMINATOR` -/
def bpsDenominator : ℕ := 10000

/-- `PROVIDERS_PER_RESERVATION` -/
def providersPerReservation : ℕ := 3

/-- `MAX_PROTOCOL_FEE_BPS` -/
def maxProtocolFeeBps : ℕ := 2000

/-! ## Types and storage -/

/-- `enum Status` -/
inductive Status where
  | none
  | created
  | active
  | completed
  | refunded
  | disputed
  deriving DecidableEq

/-- `struct Reservation` -/
structure Reservation where
  requester : Address
  totalAmount : BitVec 128
  releasedAmount : BitVec 128
  duration : BitVec 48
  startTime : BitVec 48
  status : Status
  providers : Fin 3 → Address
  deriving DecidableEq

/-- The zero value of a reservation. -/
def Reservation.zero : Reservation where
  requester := 0
  totalAmount := 0
  releasedAmount := 0
  duration := 0
  startTime := 0
  status := .none
  providers _ := 0

/-- The errors of the contract and of the access modifiers it inherits. -/
inductive EscrowError where
  | zeroAmount
  | zeroAddress
  | zeroDuration
  | amountOverflow (amount : ℕ)
  | durationOverflow (duration : ℕ)
  | invalidReservation (reservationId : ℕ)
  | invalidStatus (reservationId : ℕ) (expected actual : Status)
  | settledDurationExceedsTotal (settled total : ℕ)
  | nothingToRelease (reservationId : ℕ)
  | protocolFeeTooHigh (requested maximum : ℕ)
  | notRequesterOrOperator (caller : Address) (reservationId : ℕ)
  | invalidDisputeAmounts (requesterAmt providerAmt available : ℕ)
  | notRequester (caller : Address) (reservationId : ℕ)
  | thresholdTooHigh (requested maximum : ℕ)
  | notProvider (caller : Address) (reservationId : ℕ)
  | providerNotStaked (provider : Address)
  | duplicateProvider
  | cannotDisableStakingVerification
  | invalidFeeSplit
  /-- `Ownable`: the caller is not the owner. -/
  | ownableUnauthorizedAccount (account : Address)
  /-- `AccessControl`: the caller does not hold `OPERATOR_ROLE`. -/
  | accessControlUnauthorizedAccount (account : Address)
  /-- `Pausable`: the contract is paused. -/
  | enforcedPause
  /-- `Pausable`: the contract is not paused. -/
  | expectedPause
  deriving DecidableEq

/-- The storage of the contract. -/
structure Storage where
  feeBurnBps : ℕ
  feeTreasuryBps : ℕ
  treasury : Address
  protocolFeeBps : ℕ
  nextReservationId : ℕ
  totalBurned : ℕ
  totalTreasuryFees : ℕ
  lowBalanceThresholdBps : BitVec 16
  stakingContract : Address
  /-- `_reservations` -/
  reservations : ℕ → Reservation
  /-- the fee at the creation of a reservation -/
  reservationFeeBps : ℕ → BitVec 16
  /-- `Pausable` -/
  paused : Bool
  /-- `Ownable` -/
  owner : Address
  /-- `hasRole(OPERATOR_ROLE, ·)` -/
  isOperator : Address → Bool

/-- Calls of this contract. -/
abbrev Exec (α : Type) : Type := Call EscrowError α

/-- What a returned call leaves: the storage, and the token calls it made. -/
abbrev Outcome : Type := Storage × List TokenCall

/-- The storage that the constructor leaves. -/
def Storage.deployed (treasury initialOwner : Address) : Storage where
  feeBurnBps := 8000
  feeTreasuryBps := 2000
  treasury := treasury
  protocolFeeBps := 500
  nextReservationId := 1
  totalBurned := 0
  totalTreasuryFees := 0
  lowBalanceThresholdBps := 2000
  stakingContract := 0
  reservations _ := .zero
  reservationFeeBps _ := 0
  paused := false
  owner := initialOwner
  isOperator _ := false

/-- `constructor(_token, _treasury, _initialOwner)` -/
def constructor (token treasury initialOwner : Address) : Exec Storage := do
  revertIf (token = 0 ∨ treasury = 0 ∨ initialOwner = 0) .zeroAddress
  return .deployed treasury initialOwner

/-! ## Modifiers -/

/-- `onlyOwner` -/
def onlyOwner (m : Msg) (s : Storage) : Exec Unit :=
  revertIf (m.sender ≠ s.owner) (.ownableUnauthorizedAccount m.sender)

/-- `onlyRole(OPERATOR_ROLE)` -/
def onlyOperator (m : Msg) (s : Storage) : Exec Unit :=
  revertIf (s.isOperator m.sender = false) (.accessControlUnauthorizedAccount m.sender)

/-- `whenNotPaused` -/
def whenNotPaused (s : Storage) : Exec Unit := revertIf (s.paused = true) .enforcedPause

/-- `token.safeTransfer(dst, amount)` where `amount > 0` -/
def sendIf (dst : Address) (amount : ℕ) : List TokenCall :=
  if amount > 0 then [.transfer dst amount] else []

/-- `_burnTokens(amount)` where `amount > 0` -/
def burnIf (amount : ℕ) : List TokenCall := if amount > 0 then [.burn amount] else []

namespace Storage

variable (s : Storage)

/-- Write a reservation. -/
def setReservation (reservationId : ℕ) (res : Reservation) : Storage :=
  { s with reservations := update s.reservations reservationId res }

/-! ## Requesters -/

/-- `createReservation(amount, duration)` -/
def createReservation (m : Msg) (amount duration : ℕ) : Exec Outcome := do
  whenNotPaused s
  revertIf (amount = 0) .zeroAmount
  revertIf (duration = 0) .zeroDuration
  revertIf (amount > 2 ^ 128 - 1) (.amountOverflow amount)
  revertIf (duration > 2 ^ 48 - 1) (.durationOverflow duration)
  return ({ s with
    nextReservationId := s.nextReservationId + 1
    reservations := update s.reservations s.nextReservationId
      { requester := m.sender
        totalAmount := .ofNat 128 amount
        releasedAmount := 0
        duration := .ofNat 48 duration
        startTime := 0
        status := .created
        providers := fun _ => 0 }
    reservationFeeBps := update s.reservationFeeBps s.nextReservationId
      (.ofNat 16 s.protocolFeeBps) }, [.transferFrom m.sender amount])

/-- `increaseDeposit(reservationId, amount)` -/
def increaseDeposit (m : Msg) (reservationId amount : ℕ) : Exec Outcome := do
  whenNotPaused s
  revertIf (amount = 0) .zeroAmount
  let res := s.reservations reservationId
  revertIf (res.requester = 0) (.invalidReservation reservationId)
  revertIf (m.sender ≠ res.requester) (.notRequester m.sender reservationId)
  revertIf (res.status ≠ .created ∧ res.status ≠ .active)
    (.invalidStatus reservationId .created res.status)
  let newTotal ← addW 256 res.totalAmount.toNat amount
  revertIf (newTotal > 2 ^ 128 - 1) (.amountOverflow newTotal)
  return (s.setReservation reservationId { res with totalAmount := .ofNat 128 newTotal },
    [.transferFrom m.sender amount])

/-! ## Payments -/

/-- `_distributePayment(reservationId, res, grossAmount)`. The fee breakdown it returns is read by
events only. -/
def distributePayment (reservationId : ℕ) (res : Reservation) (grossAmount : ℕ) : Exec Outcome := do
  let scaled ← mulW 256 grossAmount (s.reservationFeeBps reservationId).toNat
  let fee ← divC scaled bpsDenominator
  let netToProviders ← subC grossAmount fee
  let burnScaled ← mulW 256 fee s.feeBurnBps
  let burnAmount ← divC burnScaled bpsDenominator
  let treasuryAmount ← subC fee burnAmount
  let totalBurned ← addW 256 s.totalBurned burnAmount
  let totalTreasuryFees ← addW 256 s.totalTreasuryFees treasuryAmount
  let perProvider ← divC netToProviders providersPerReservation
  let even ← mulW 256 perProvider providersPerReservation
  let dust ← subC netToProviders even
  let first ← addW 256 perProvider dust
  return ({ s with
    totalBurned := totalBurned
    totalTreasuryFees := totalTreasuryFees },
    burnIf burnAmount ++ sendIf s.treasury treasuryAmount ++ sendIf (res.providers 0) first ++
      sendIf (res.providers 1) perProvider ++ sendIf (res.providers 2) perProvider)

/-- `if (grossAmount > 0) _distributePayment(reservationId, res, grossAmount)` -/
def distributeIf (reservationId : ℕ) (res : Reservation) (grossAmount : ℕ) : Exec Outcome :=
  if grossAmount > 0 then s.distributePayment reservationId res grossAmount else return (s, [])

/-- `_checkLowBalance(reservationId, res)`: its arithmetic, without the event. -/
def checkLowBalance (res : Reservation) : Exec Unit := do
  let _ ← subC res.totalAmount.toNat res.releasedAmount.toNat
  let scaled ← mulW 256 res.totalAmount.toNat s.lowBalanceThresholdBps.toNat
  let _ ← divC scaled bpsDenominator
  return ()

/-- `block.timestamp - res.startTime`, at most `res.duration` -/
def elapsed (res : Reservation) (t : ℕ) : Exec ℕ := do
  let elapsed ← subC t res.startTime.toNat
  return if elapsed > res.duration.toNat then res.duration.toNat else elapsed

/-- `(uint256(res.totalAmount) * seconds) / uint256(res.duration)` -/
def proportionalTotal (res : Reservation) (seconds : ℕ) : Exec ℕ := do
  let scaled ← mulW 256 res.totalAmount.toNat seconds
  divC scaled res.duration.toNat

/-- The common end of `claim` and `releasePayment`: pay what is due beyond `releasedAmount`. -/
def releaseUpTo (reservationId proportionalTotal : ℕ) : Exec Outcome := do
  let res := s.reservations reservationId
  revertIf (proportionalTotal ≤ res.releasedAmount.toNat) (.nothingToRelease reservationId)
  let grossRelease ← subC proportionalTotal res.releasedAmount.toNat
  let released ← addB res.releasedAmount (.ofNat 128 grossRelease)
  let res := { res with releasedAmount := released }
  let r ← (s.setReservation reservationId res).distributePayment reservationId res grossRelease
  s.checkLowBalance res
  return r

/-! ## Providers and operators -/

/-- `claim(reservationId)` -/
def claim (m : Msg) (reservationId : ℕ) : Exec Outcome := do
  whenNotPaused s
  let res := s.reservations reservationId
  revertIf (res.status ≠ .active) (.invalidStatus reservationId .active res.status)
  revertIf (∀ i, res.providers i ≠ m.sender) (.notProvider m.sender reservationId)
  let elapsed ← elapsed res m.timestamp
  let due ← proportionalTotal res elapsed
  s.releaseUpTo reservationId due

/-- The checks of one address in the loop of `selectProviders`. -/
def checkProvider (isActiveProvider : Address → Bool) (provider : Address) : Exec Unit := do
  revertIf (provider = 0) .zeroAddress
  revertIf (s.stakingContract ≠ 0 ∧ isActiveProvider provider = false) (.providerNotStaked provider)

variable (m : Msg)

/-- `selectProviders(reservationId, providerAddrs)` -/
def selectProviders (reservationId : ℕ) (providerAddrs : Fin 3 → Address)
    (isActiveProvider : Address → Bool) : Exec Outcome := do
  onlyOperator m s
  whenNotPaused s
  let res := s.reservations reservationId
  revertIf (res.status ≠ .created) (.invalidStatus reservationId .created res.status)
  s.checkProvider isActiveProvider (providerAddrs 0)
  s.checkProvider isActiveProvider (providerAddrs 1)
  s.checkProvider isActiveProvider (providerAddrs 2)
  revertIf (providerAddrs 0 = providerAddrs 1 ∨ providerAddrs 0 = providerAddrs 2 ∨
    providerAddrs 1 = providerAddrs 2) .duplicateProvider
  return (s.setReservation reservationId { res with
    providers := providerAddrs
    startTime := .ofNat 48 m.timestamp
    status := .active }, [])

/-- `releasePayment(reservationId, settledDuration)` -/
def releasePayment (reservationId settledDuration : ℕ) : Exec Outcome := do
  onlyOperator m s
  whenNotPaused s
  let res := s.reservations reservationId
  revertIf (res.status ≠ .active) (.invalidStatus reservationId .active res.status)
  revertIf (settledDuration > res.duration.toNat)
    (.settledDurationExceedsTotal settledDuration res.duration.toNat)
  let due ← proportionalTotal res settledDuration
  s.releaseUpTo reservationId due

/-- `finalizeReservation(reservationId)` -/
def finalizeReservation (reservationId : ℕ) : Exec Outcome := do
  onlyOperator m s
  let res := s.reservations reservationId
  revertIf (res.status ≠ .active) (.invalidStatus reservationId .active res.status)
  let remaining ← subC res.totalAmount.toNat res.releasedAmount.toNat
  let res := { res with
    releasedAmount := res.totalAmount
    status := .completed }
  let s := s.setReservation reservationId res
  let r ← s.distributeIf reservationId res remaining
  s.checkLowBalance res
  return r

/-- What `refund` pays to the providers of an active reservation first: the time that passed. -/
def payEarned (reservationId : ℕ) : Exec Outcome := do
  let res := s.reservations reservationId
  if res.status = .active then
    let elapsed ← elapsed res m.timestamp
    let due ← proportionalTotal res elapsed
    if due > res.releasedAmount.toNat then
      let earnedUnreleased ← subC due res.releasedAmount.toNat
      let (s, calls) ← s.distributePayment reservationId res earnedUnreleased
      let released ← addB res.releasedAmount (.ofNat 128 earnedUnreleased)
      return (s.setReservation reservationId { res with releasedAmount := released }, calls)
    else
      return (s, [])
  else
    return (s, [])

/-- `refund(reservationId)` -/
def refund (reservationId : ℕ) : Exec Outcome := do
  let res := s.reservations reservationId
  revertIf (res.status ≠ .active ∧ res.status ≠ .created)
    (.invalidStatus reservationId .active res.status)
  revertIf (m.sender ≠ res.requester ∧ s.isOperator m.sender = false)
    (.notRequesterOrOperator m.sender reservationId)
  let (s, calls) ← s.payEarned m reservationId
  let res := s.reservations reservationId
  let remaining ← subC res.totalAmount.toNat res.releasedAmount.toNat
  return (s.setReservation reservationId { res with
    releasedAmount := res.totalAmount
    status := .refunded }, calls ++ sendIf res.requester remaining)

/-- `settleDispute(reservationId, requesterAmount, providerAmount)` -/
def settleDispute (reservationId requesterAmount providerAmount : ℕ) : Exec Outcome := do
  onlyOperator m s
  let res := s.reservations reservationId
  revertIf (res.status ≠ .active) (.invalidStatus reservationId .active res.status)
  let remaining ← subC res.totalAmount.toNat res.releasedAmount.toNat
  let sum ← addW 256 requesterAmount providerAmount
  revertIf (sum ≠ remaining) (.invalidDisputeAmounts requesterAmount providerAmount remaining)
  let res := { res with
    releasedAmount := res.totalAmount
    status := .disputed }
  let s := s.setReservation reservationId res
  let r ← s.distributeIf reservationId res providerAmount
  return (r.1, sendIf res.requester requesterAmount ++ r.2)

/-! ## Setters -/

/-- The shape of the owner's setters: `onlyOwner`, the checks of the argument, one write. -/
def adminWrite (m : Msg) (s : Storage) (checks : Exec Unit) (s' : Storage) : Exec Outcome := do
  onlyOwner m s
  checks
  return (s', [])

/-- `setProtocolFee(newFeeBps)` -/
def setProtocolFee (newFeeBps : ℕ) : Exec Outcome :=
  adminWrite m s
    (revertIf (newFeeBps > maxProtocolFeeBps) (.protocolFeeTooHigh newFeeBps maxProtocolFeeBps))
    { s with protocolFeeBps := newFeeBps }

/-- `setTreasury(newTreasury)` -/
def setTreasury (newTreasury : Address) : Exec Outcome :=
  adminWrite m s (revertIf (newTreasury = 0) .zeroAddress) { s with treasury := newTreasury }

/-- `setLowBalanceThreshold(newThresholdBps)` -/
def setLowBalanceThreshold (newThresholdBps : BitVec 16) : Exec Outcome :=
  adminWrite m s (revertIf (newThresholdBps.toNat > 5000)
      (.thresholdTooHigh newThresholdBps.toNat 5000))
    { s with lowBalanceThresholdBps := newThresholdBps }

/-- `setStakingContract(_stakingContract)` -/
def setStakingContract (stakingContract : Address) : Exec Outcome :=
  adminWrite m s
    (revertIf (s.stakingContract ≠ 0 ∧ stakingContract = 0) .cannotDisableStakingVerification)
    { s with stakingContract := stakingContract }

/-- `setFeeSplit(burnBps, treasuryBps)` -/
def setFeeSplit (burnBps treasuryBps : BitVec 16) : Exec Outcome :=
  adminWrite m s (revertIf (burnBps.toNat + treasuryBps.toNat ≠ bpsDenominator) .invalidFeeSplit)
    { s with
      feeBurnBps := burnBps.toNat
      feeTreasuryBps := treasuryBps.toNat }

/-- `pause()` -/
def pause : Exec Outcome :=
  adminWrite m s (whenNotPaused s) { s with paused := true }

/-- `unpause()` -/
def unpause : Exec Outcome :=
  adminWrite m s (revertIf (s.paused = false) .expectedPause) { s with paused := false }

end Storage

/-! ## Calls -/

/-- The external state-changing functions of the contract, with their arguments. -/
inductive ExtCall where
  | createReservation (amount duration : ℕ)
  | increaseDeposit (reservationId amount : ℕ)
  | claim (reservationId : ℕ)
  | selectProviders (reservationId : ℕ) (providerAddrs : Fin 3 → Address)
      (isActiveProvider : Address → Bool)
  | releasePayment (reservationId settledDuration : ℕ)
  | finalizeReservation (reservationId : ℕ)
  | refund (reservationId : ℕ)
  | settleDispute (reservationId requesterAmount providerAmount : ℕ)
  | setProtocolFee (newFeeBps : ℕ)
  | setTreasury (newTreasury : Address)
  | setLowBalanceThreshold (newThresholdBps : BitVec 16)
  | setStakingContract (stakingContract : Address)
  | setFeeSplit (burnBps treasuryBps : BitVec 16)
  | pause
  | unpause

/-- Run one external function. -/
def exec (m : Msg) (s : Storage) : ExtCall → Exec Outcome
  | .createReservation amount duration => s.createReservation m amount duration
  | .increaseDeposit reservationId amount => s.increaseDeposit m reservationId amount
  | .claim reservationId => s.claim m reservationId
  | .selectProviders reservationId providerAddrs isActiveProvider =>
    s.selectProviders m reservationId providerAddrs isActiveProvider
  | .releasePayment reservationId settledDuration =>
    s.releasePayment m reservationId settledDuration
  | .finalizeReservation reservationId => s.finalizeReservation m reservationId
  | .refund reservationId => s.refund m reservationId
  | .settleDispute reservationId requesterAmount providerAmount =>
    s.settleDispute m reservationId requesterAmount providerAmount
  | .setProtocolFee newFeeBps => s.setProtocolFee m newFeeBps
  | .setTreasury newTreasury => s.setTreasury m newTreasury
  | .setLowBalanceThreshold newThresholdBps => s.setLowBalanceThreshold m newThresholdBps
  | .setStakingContract stakingContract => s.setStakingContract m stakingContract
  | .setFeeSplit burnBps treasuryBps => s.setFeeSplit m burnBps treasuryBps
  | .pause => s.pause m
  | .unpause => s.unpause m

end Moltbunker.Contracts.Escrow
