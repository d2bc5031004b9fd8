import Moltbunker.Contracts.Chain
import Moltbunker.Lib.OwnerIndex

/-!
# `BunkerRegistry`

The contract `contracts/src/BunkerRegistry.sol`, function by function: the registration of vanity
names, their expiry and renewal, reservations, transfers, metadata and reverse resolution, with the
fees and the owner's setters. A function returns its new storage and the token calls it makes.

* A name is its bytes, and `keccak256` of a name is a parameter `keccak` of the model. Nothing is
  assumed about it, so the results hold for every hash function.
* `getTier` is the answer of the staking contract's `getTier`, an argument of the calls that ask for
  it; `none` is the `catch` branch.
* Packed fields are stored with their width, `uint256` is `ℕ` with the checks of the compiler. A
  timestamp plus one of the owner's periods is a plain sum: the setters bound the periods by ten
  years.

Left out are the emitted events, the views that only read a field or repeat an internal function
(`nameCount`, `ownedNameAt`, `isExpired`, `isInGracePeriod`, `calculatePrice`), the errors that no
function throws and the constant `VERSION`; ownership is OpenZeppelin's.
-/

namespace Moltbunker.Contracts.NameRegistry

open Lib Function

/-! ## Constants -/

/-- `BURN_BPS` -/
def burnBps : ℕ := 8000

/-- `BPS_DENOMINATOR` -/
def bpsDenominator : ℕ := 10000

/-- `MAX_NAMES_PER_OWNER` -/
def maxNamesPerOwner : ℕ := 100

/-- `MIN_REGISTRATION_FEE` -/
def minRegistrationFee : ℕ := 1000 * 10 ^ 18

/-- `MAX_BULK_SIZE` -/
def maxBulkSize : ℕ := 20

/-- `MAX_DESCRIPTION_LENGTH` -/
def maxDescriptionLength : ℕ := 160

/-- `MAX_AVATAR_URL_LENGTH` -/
def maxAvatarURLLength : ℕ := 256

/-- `_tierDiscountBps`, by staking tier; no function writes it. -/
def tierDiscountBps : List ℕ := [0, 0, 500, 1000, 1500, 2000]

/-! ## Types and storage -/

/-- The bytes of a `string`. -/
abbrev Name : Type := List (BitVec 8)

/-- `struct SubdomainRecord` -/
structure SubdomainRecord where
  owner : Address
  deploymentID : Bytes32
  registeredAt : BitVec 48
  expiresAt : BitVec 48
  /-- `0` if the name is not reserved -/
  reservedUntil : BitVec 48
  referrer : Address
  deriving DecidableEq

/-- The record of a name that nobody has, which `delete` leaves. -/
def SubdomainRecord.empty : SubdomainRecord := ⟨0, 0, 0, 0, 0, 0⟩

/-- `struct Metadata` -/
structure Metadata where
  description : List (BitVec 8)
  avatarURL : List (BitVec 8)
  deriving DecidableEq

/-- What `delete metadata[nameHash]` leaves. -/
def Metadata.empty : Metadata := ⟨[], []⟩

/-- The errors of the contract and of the access modifiers it inherits. -/
inductive RegistryError where
  | nameAlreadyRegistered (name : Name)
  | nameNotRegistered (name : Name)
  | notNameOwner (name : Name) (caller : Address)
  | invalidName (name : Name)
  | invalidAddress
  | invalidDeploymentID
  | tooManyNames (owner : Address) (max : ℕ)
  | feeBelowMinimum (fee minimum : ℕ)
  | cannotTransferToSelf
  | nameExpired (name : Name)
  | nameReserved (name : Name)
  | reservationExpired (name : Name)
  | notReservationOwner (name : Name) (caller : Address)
  | invalidReferrer (referrer : Address)
  | metadataDescriptionTooLong (length max : ℕ)
  | metadataAvatarURLTooLong (length max : ℕ)
  | arrayLengthMismatch
  | arrayTooLarge (length max : ℕ)
  | nameNotSquatted (name : Name)
  | invalidPeriod
  | shortNamesDisabled
  /-- `Ownable`: the owner cannot be the zero address. -/
  | ownableInvalidOwner (owner : Address)
  /-- `Ownable`: the caller is not the owner. -/
  | ownableUnauthorizedAccount (account : Address)
  /-- `Pausable`: the contract is paused. -/
  | enforcedPause
  /-- `Pausable`: the contract is not paused. -/
  | expectedPause
  deriving DecidableEq

/-- The maps that the operations on names write. -/
structure Names where
  subdomains : Bytes32 → SubdomainRecord
  nameOf : Bytes32 → Name
  /-- `_ownedNames` -/
  ownedNames : Address → List Bytes32
  metadata : Bytes32 → Metadata
  primaryName : Bytes32 → Bytes32

/-- The storage of the contract. -/
structure Storage extends Names where
  treasury : Address
  registrationFee : ℕ
  stakingContract : Address
  expirationPeriod : ℕ
  gracePeriod : ℕ
  reservationPeriod : ℕ
  changeFee : ℕ
  referralDiscountBps : ℕ
  referralRewardBps : ℕ
  squattingGracePeriod : ℕ
  shortNamesEnabled : Bool
  reservedNames : Bytes32 → Bool
  /-- `Pausable` -/
  paused : Bool
  /-- `Ownable` -/
  owner : Address

/-- Calls of this contract. -/
abbrev Exec (α : Type) : Type := Call RegistryError α

/-- What a returned call leaves: the storage, and the token calls it made. -/
abbrev Outcome : Type := Storage × List TokenCall

/-- The storage that the constructor leaves. -/
def Storage.deployed (treasury : Address) (registrationFee : ℕ) (initialOwner : Address)
    (stakingContract : Address) : Storage where
  subdomains _ := .empty
  nameOf _ := []
  ownedNames _ := []
  metadata _ := .empty
  primaryName _ := 0
  treasury := treasury
  registrationFee := registrationFee
  stakingContract := stakingContract
  expirationPeriod := 365 * 86400
  gracePeriod := 30 * 86400
  reservationPeriod := 48 * 3600
  changeFee := 10000 * 10 ^ 18
  referralDiscountBps := 1000
  referralRewardBps := 500
  squattingGracePeriod := 7 * 86400
  shortNamesEnabled := false
  reservedNames _ := false
  paused := false
  owner := initialOwner

/-- `constructor(_token, _treasury, _registrationFee, _owner, _stakingContract)` -/
def constructor (token treasury : Address) (registrationFee : ℕ) (initialOwner : Address)
    (stakingContract : Address) : Exec Storage := do
  revertIf (initialOwner = 0) (.ownableInvalidOwner initialOwner)
  revertIf (token = 0 ∨ treasury = 0) .invalidAddress
  revertIf (registrationFee > 0 ∧ registrationFee < minRegistrationFee)
    (.feeBelowMinimum registrationFee minRegistrationFee)
  return .deployed treasury registrationFee initialOwner stakingContract

/-! ## Modifiers -/

/-- `onlyOwner` -/
def onlyOwner (m : Msg) (s : Storage) : Exec Unit :=
  revertIf (m.sender ≠ s.owner) (.ownableUnauthorizedAccount m.sender)

/-- `whenNotPaused` -/
def whenNotPaused (s : Storage) : Exec Unit := revertIf (s.paused = true) .enforcedPause

/-! ## Valid names -/

/-- `_isAlphanumeric(c)` -/
def isAlphanumeric (c : BitVec 8) : Bool :=
  (0x30 ≤ c ∧ c ≤ 0x39) ∨ (0x61 ≤ c ∧ c ≤ 0x7A)

/-- The loop of `_validateName` over the bytes between the first and the last one. -/
def validateMiddle (name : Name) : Bool → List (BitVec 8) → Exec Unit
  | _, [] => return ()
  | prevHyphen, c :: rest => do
      let isHyphen := c = 0x2D
      revertIf (isAlphanumeric c = false ∧ ¬ isHyphen) (.invalidName name)
      revertIf (isHyphen ∧ prevHyphen = true) (.invalidName name)
      validateMiddle name isHyphen rest

/-- `_validateName(name)` -/
def validateName (name : Name) : Exec Unit := do
  revertIf (name.length < 1 ∨ name.length > 32) (.invalidName name)
  revertIf (isAlphanumeric (name.headD 0) = false ∨ isAlphanumeric (name.getLastD 0) = false)
    (.invalidName name)
  validateMiddle name false name.tail.dropLast

/-- A reservation that ended without a claim: `reservedUntil > 0 && block.timestamp >
reservedUntil`. -/
def SubdomainRecord.lapsed (r : SubdomainRecord) (t : ℕ) : Bool :=
  0 < r.reservedUntil.toNat ∧ r.reservedUntil.toNat < t

namespace Storage

variable (keccak : Name → Bytes32)

/-! ## Expiry -/

variable (s : Storage)

/-- `_isExpired(nameHash)` -/
def isExpired (m : Msg) (nameHash : Bytes32) : Bool :=
  0 < (s.subdomains nameHash).expiresAt.toNat ∧
    (s.subdomains nameHash).expiresAt.toNat < m.timestamp

/-- `_isFullyExpired(nameHash)` -/
def isFullyExpired (m : Msg) (nameHash : Bytes32) : Bool :=
  0 < (s.subdomains nameHash).expiresAt.toNat ∧
    (s.subdomains nameHash).expiresAt.toNat + s.gracePeriod < m.timestamp

/-! ## Prices and fees -/

/-- `_calculatePrice(name)`, with the multipliers for names of one to four bytes. -/
def calculatePrice (name : Name) : Exec ℕ :=
  match name.length with
  | 1 => mulW 256 s.registrationFee 100
  | 2 => mulW 256 s.registrationFee 50
  | 3 => mulW 256 s.registrationFee 10
  | 4 => mulW 256 s.registrationFee 5
  | _ => return s.registrationFee

/-- `_applyStakingDiscount(price, user)` -/
def applyStakingDiscount (price : ℕ) (user : Address)
    (getTier : Address → Option (BitVec 8)) : Exec ℕ :=
  if s.stakingContract = 0 then
    return price
  else
    match getTier user with
    | none => return price
    | some tier => do
        let discount := tierDiscountBps.getD (min tier.toNat 5) 0
        if discount > 0 then
          let scaled ← mulW 256 price discount
          subC price (scaled / bpsDenominator)
        else
          return price

/-- `_applyReferralDiscount(price)`: what the user pays, and the reward of the referrer. -/
def applyReferralDiscount (price : ℕ) : Exec (ℕ × ℕ) := do
  let cut ← mulW 256 price s.referralDiscountBps
  let discounted ← subC price (cut / bpsDenominator)
  let reward ← mulW 256 price s.referralRewardBps
  return (discounted, reward / bpsDenominator)

/-- `_collectFee(payer, amount, referrer, referrerReward)` -/
def collectFee (payer : Address) (amount : ℕ) (referrer : Address)
    (referrerReward : ℕ) : Exec (List TokenCall) := do
  if amount = 0 then
    return []
  else
    let scaled ← mulW 256 amount burnBps
    let burnAmount := scaled / bpsDenominator
    let unburned ← subC amount burnAmount
    let treasuryAmount ← subC unburned referrerReward
    return .transferFrom payer amount ::
      ((if burnAmount > 0 then [.burn burnAmount] else []) ++
        (if treasuryAmount > 0 then [.transfer s.treasury treasuryAmount] else []) ++
        (if referrerReward > 0 then [.transfer referrer referrerReward] else []))

/-- The fee of `register`, `reserve` and `renew`: the price, the discounts, the collection. -/
def collectPrice (m : Msg) (name : Name) (referrer : Address)
    (getTier : Address → Option (BitVec 8)) : Exec (List TokenCall) := do
  let price ← s.calculatePrice name
  let price ← s.applyStakingDiscount price m.sender getTier
  if referrer ≠ 0 then
    let (discounted, referrerReward) ← s.applyReferralDiscount price
    s.collectFee m.sender discounted referrer referrerReward
  else
    s.collectFee m.sender price 0 0

/-- The fee of `updateDeployment` and `setMetadata`. -/
def collectChangeFee (m : Msg) : Exec (List TokenCall) :=
  if s.changeFee > 0 then s.collectFee m.sender s.changeFee 0 0 else return []

/-! ## Writes -/

/-- `_removeOwnedName(owner, nameHash)` -/
def removeOwnedName (owner : Address) (nameHash : Bytes32) : Storage :=
  { s with
    ownedNames := update s.ownedNames owner (swapPopFirst nameHash (s.ownedNames owner)) }

/-- `if (deploymentID != 0 && primaryName[deploymentID] == nameHash) delete
primaryName[deploymentID]` -/
def clearPrimary (deploymentID nameHash : Bytes32) : Storage :=
  { s with
    primaryName :=
      if deploymentID ≠ 0 ∧ s.primaryName deploymentID = nameHash then
        update s.primaryName deploymentID 0
      else s.primaryName }

variable (nameHash : Bytes32)

/-- `delete metadata[nameHash]` -/
def deleteMetadata : Storage :=
  { s with metadata := update s.metadata nameHash .empty }

/-- `delete subdomains[nameHash]; delete nameOf[nameHash]` -/
def deleteRecord : Storage :=
  { s with
    subdomains := update s.subdomains nameHash .empty
    nameOf := update s.nameOf nameHash [] }

/-- Write a record. -/
def setRecord (record : SubdomainRecord) : Storage :=
  { s with subdomains := update s.subdomains nameHash record }

/-- The end of `_registerInternal` and `reserve`: the new record, the name, and the list of the
new owner. -/
def place (name : Name) (record : SubdomainRecord) : Storage :=
  { s with
    subdomains := update s.subdomains nameHash record
    nameOf := update s.nameOf nameHash name
    ownedNames := update s.ownedNames record.owner
      (s.ownedNames record.owner ++ [nameHash]) }

/-! ## Registration -/

/-- The checks that `_registerInternal` and `reserve` start with. -/
def checkName (name : Name) : Exec Unit := do
  validateName name
  revertIf (name.length ≤ 3 ∧ s.shortNamesEnabled = false) .shortNamesDisabled
  revertIf (s.reservedNames (keccak name) = true) (.nameReserved name)

/-- The check of `MAX_NAMES_PER_OWNER` before a name is added to the list of `owner`. -/
def checkRoom (owner : Address) : Exec Unit :=
  revertIf ((s.ownedNames owner).length ≥ maxNamesPerOwner) (.tooManyNames owner maxNamesPerOwner)

/-- What `_registerInternal` does with the record that the name already has: one that is fully
expired or a lapsed reservation is cleaned up, any other is kept and the call reverts. -/
def cleanUp (m : Msg) (name : Name) : Exec Storage :=
  let nameHash := keccak name
  let record := s.subdomains nameHash
  if record.owner ≠ 0 then
    if s.isFullyExpired m nameHash = true then
      return ((s.removeOwnedName record.owner nameHash).clearPrimary record.deploymentID
        nameHash).deleteMetadata nameHash
    else if record.lapsed m.timestamp = true then
      return (s.removeOwnedName record.owner nameHash).deleteMetadata nameHash
    else
      throw (.error (.nameAlreadyRegistered name))
  else
    return s

/-- `_registerInternal(name, deploymentID, referrer)` -/
def registerInternal (m : Msg) (name : Name) (deploymentID : Bytes32)
    (referrer : Address) (getTier : Address → Option (BitVec 8)) : Exec Outcome := do
  s.checkName keccak name
  revertIf (deploymentID = 0) .invalidDeploymentID
  s.checkRoom m.sender
  let cleaned ← s.cleanUp keccak m name
  let calls ← cleaned.collectPrice m name referrer getTier
  return (cleaned.place (keccak name) name
    { owner := m.sender
      deploymentID := deploymentID
      registeredAt := .ofNat 48 m.timestamp
      expiresAt := .ofNat 48 (m.timestamp + s.expirationPeriod)
      reservedUntil := 0
      referrer := referrer }, calls)

/-- `register(name, deploymentID)` -/
def register (m : Msg) (name : Name) (deploymentID : Bytes32)
    (getTier : Address → Option (BitVec 8)) : Exec Outcome := do
  whenNotPaused s
  s.registerInternal keccak m name deploymentID 0 getTier

/-- `registerWithReferral(name, deploymentID, referrer)` -/
def registerWithReferral (m : Msg) (name : Name) (deploymentID : Bytes32)
    (referrer : Address) (getTier : Address → Option (BitVec 8)) : Exec Outcome := do
  whenNotPaused s
  revertIf (referrer = 0) (.invalidReferrer referrer)
  revertIf (referrer = m.sender) (.invalidReferrer referrer)
  s.registerInternal keccak m name deploymentID referrer getTier

/-- The loop of `bulkRegister`. -/
def registerAll (s : Storage) (m : Msg) (getTier : Address → Option (BitVec 8)) :
    List (Name × Bytes32) → Exec Outcome
  | [] => return (s, [])
  | (name, deploymentID) :: rest => do
      let (s, calls) ← s.registerInternal keccak m name deploymentID 0 getTier
      let (s, more) ← s.registerAll m getTier rest
      return (s, calls ++ more)

/-- `bulkRegister(names, deploymentIDs)` -/
def bulkRegister (m : Msg) (names : List Name) (deploymentIDs : List Bytes32)
    (getTier : Address → Option (BitVec 8)) : Exec Outcome := do
  whenNotPaused s
  revertIf (names.length ≠ deploymentIDs.length) .arrayLengthMismatch
  revertIf (names.length > maxBulkSize) (.arrayTooLarge names.length maxBulkSize)
  s.registerAll keccak m getTier (names.zip deploymentIDs)

/-! ## Renewal -/

/-- The checks of an owner's call: the name is registered, and by the sender. -/
def onlyNameOwner (m : Msg) (name : Name) : Exec Unit := do
  revertIf ((s.subdomains (keccak name)).owner = 0) (.nameNotRegistered name)
  revertIf ((s.subdomains (keccak name)).owner ≠ m.sender) (.notNameOwner name m.sender)

/-- A renewal that extends from `baseTime`. -/
def renewFrom (m : Msg) (name : Name) (baseTime : BitVec 48)
    (getTier : Address → Option (BitVec 8)) : Exec Outcome := do
  s.onlyNameOwner keccak m name
  revertIf (s.isFullyExpired m (keccak name) = true) (.nameExpired name)
  let calls ← s.collectPrice m name 0 getTier
  let expiresAt ← addB baseTime (.ofNat 48 s.expirationPeriod)
  return (s.setRecord (keccak name) { s.subdomains (keccak name) with expiresAt := expiresAt },
    calls)

/-- `renew(name)` -/
def renew (m : Msg) (name : Name) (getTier : Address → Option (BitVec 8)) : Exec Outcome := do
  whenNotPaused s
  let expiresAt := (s.subdomains (keccak name)).expiresAt
  s.renewFrom keccak m name
    (if m.timestamp > expiresAt.toNat then .ofNat 48 m.timestamp else expiresAt) getTier

/-- The loop of `bulkRenew`. It also extends from now if the record has no expiry, which `renew`
does not ask for. -/
def renewAll (s : Storage) (m : Msg) (getTier : Address → Option (BitVec 8)) :
    List Name → Exec Outcome
  | [] => return (s, [])
  | name :: rest => do
      let expiresAt := (s.subdomains (keccak name)).expiresAt
      let (s, calls) ← s.renewFrom keccak m name
        (if expiresAt = 0 ∨ m.timestamp > expiresAt.toNat then .ofNat 48 m.timestamp else expiresAt)
        getTier
      let (s, more) ← s.renewAll m getTier rest
      return (s, calls ++ more)

/-- `bulkRenew(names)` -/
def bulkRenew (m : Msg) (names : List Name)
    (getTier : Address → Option (BitVec 8)) : Exec Outcome := do
  whenNotPaused s
  revertIf (names.length > maxBulkSize) (.arrayTooLarge names.length maxBulkSize)
  s.renewAll keccak m getTier names

/-- The two ways to find the start of a renewal are the same. -/
lemma bulkRenew_base_eq (t : ℕ) (expiresAt : BitVec 48) :
    (if expiresAt = 0 ∨ t > expiresAt.toNat then BitVec.ofNat 48 t else expiresAt) =
      if t > expiresAt.toNat then .ofNat 48 t else expiresAt := by
  by_cases hlate : t > expiresAt.toNat
  · rw [if_pos (.inr hlate), if_pos hlate]
  · rw [if_neg hlate]
    by_cases hzero : expiresAt = 0
    · subst hzero
      have ht : t = 0 := Nat.le_zero.mp (not_lt.mp hlate)
      rw [if_pos (.inl rfl), ht]
      rfl
    · rw [if_neg (not_or.mpr ⟨hzero, hlate⟩)]

/-! ## Reservations -/

variable (m : Msg)

/-- What `reserve` does with the record that the name already has. -/
def vacate (name : Name) : Exec Storage :=
  let nameHash := keccak name
  let record := s.subdomains nameHash
  if record.owner ≠ 0 then
    if s.isFullyExpired m nameHash = false then do
      revertIf (record.reservedUntil = 0 ∨ m.timestamp ≤ record.reservedUntil.toNat)
        (.nameAlreadyRegistered name)
      return s.removeOwnedName record.owner nameHash
    else
      return s.removeOwnedName record.owner nameHash
  else
    return s

/-- `reserve(name)` -/
def reserve (name : Name) (getTier : Address → Option (BitVec 8)) : Exec Outcome := do
  whenNotPaused s
  s.checkName keccak name
  s.checkRoom m.sender
  let vacated ← s.vacate keccak m name
  let calls ← vacated.collectPrice m name 0 getTier
  return (vacated.place (keccak name) name
    { owner := m.sender
      deploymentID := 0
      registeredAt := .ofNat 48 m.timestamp
      expiresAt := .ofNat 48 (m.timestamp + s.expirationPeriod)
      reservedUntil := .ofNat 48 (m.timestamp + s.reservationPeriod)
      referrer := 0 }, calls)

/-- The checks of a reservation's owner. -/
def onlyReservationOwner (name : Name) : Exec Unit := do
  revertIf ((s.subdomains (keccak name)).owner = 0) (.nameNotRegistered name)
  revertIf ((s.subdomains (keccak name)).owner ≠ m.sender) (.notReservationOwner name m.sender)
  revertIf ((s.subdomains (keccak name)).reservedUntil = 0) (.nameNotRegistered name)

/-- `claimReservation(name, deploymentID)` -/
def claimReservation (name : Name) (deploymentID : Bytes32) : Exec Outcome := do
  whenNotPaused s
  revertIf (deploymentID = 0) .invalidDeploymentID
  s.onlyReservationOwner keccak m name
  let record := s.subdomains (keccak name)
  revertIf (m.timestamp > record.reservedUntil.toNat) (.reservationExpired name)
  return (s.setRecord (keccak name)
    { record with
      deploymentID := deploymentID
      reservedUntil := 0 }, [])

/-- `cancelReservation(name)` -/
def cancelReservation (name : Name) : Exec Outcome := do
  whenNotPaused s
  s.onlyReservationOwner keccak m name
  return ((s.deleteRecord (keccak name)).removeOwnedName (s.subdomains (keccak name)).owner
    (keccak name), [])

/-! ## The owner of a name -/

/-- `release(name)` -/
def release (name : Name) : Exec Outcome := do
  whenNotPaused s
  s.onlyNameOwner keccak m name
  let record := s.subdomains (keccak name)
  return ((((s.clearPrimary record.deploymentID (keccak name)).deleteRecord
    (keccak name)).deleteMetadata (keccak name)).removeOwnedName record.owner (keccak name), [])

/-- `transfer(name, newOwner)` -/
def transfer (name : Name) (newOwner : Address) : Exec Outcome := do
  whenNotPaused s
  revertIf (newOwner = 0) .invalidAddress
  revertIf (newOwner = m.sender) .cannotTransferToSelf
  s.checkRoom newOwner
  s.onlyNameOwner keccak m name
  revertIf (s.isExpired m (keccak name) = true) (.nameExpired name)
  let record := s.subdomains (keccak name)
  let taken := (s.setRecord (keccak name) { record with owner := newOwner }).removeOwnedName
    record.owner (keccak name)
  return ({ taken with
    ownedNames := update taken.ownedNames newOwner
      (taken.ownedNames newOwner ++ [keccak name]) }, [])

/-- `updateDeployment(name, newDeploymentID)` -/
def updateDeployment (name : Name) (newDeploymentID : Bytes32) : Exec Outcome := do
  whenNotPaused s
  revertIf (newDeploymentID = 0) .invalidDeploymentID
  s.onlyNameOwner keccak m name
  revertIf (s.isExpired m (keccak name) = true) (.nameExpired name)
  let calls ← s.collectChangeFee m
  let record := s.subdomains (keccak name)
  return ((s.clearPrimary record.deploymentID (keccak name)).setRecord (keccak name)
    { record with deploymentID := newDeploymentID }, calls)

/-- `setMetadata(name, description, avatarURL)` -/
def setMetadata (name : Name) (description avatarURL : List (BitVec 8)) : Exec Outcome := do
  whenNotPaused s
  revertIf (description.length > maxDescriptionLength)
    (.metadataDescriptionTooLong description.length maxDescriptionLength)
  revertIf (avatarURL.length > maxAvatarURLLength)
    (.metadataAvatarURLTooLong avatarURL.length maxAvatarURLLength)
  s.onlyNameOwner keccak m name
  revertIf (s.isExpired m (keccak name) = true) (.nameExpired name)
  let calls ← s.collectChangeFee m
  return ({ s with
    metadata := update s.metadata (keccak name) ⟨description, avatarURL⟩ }, calls)

/-- `setPrimaryName(name)` -/
def setPrimaryName (name : Name) : Exec Outcome := do
  whenNotPaused s
  s.onlyNameOwner keccak m name
  revertIf (s.isExpired m (keccak name) = true) (.nameExpired name)
  let deploymentID := (s.subdomains (keccak name)).deploymentID
  revertIf (deploymentID = 0) .invalidDeploymentID
  return ({ s with
    primaryName := update s.primaryName deploymentID (keccak name) }, [])

/-! ## Squatting -/

/-- `isSquatted` of `reclaimSquatted`: a lapsed reservation, or no deployment after the grace
period. -/
def isSquatted (s : Storage) (m : Msg) (nameHash : Bytes32) : Bool :=
  let record := s.subdomains nameHash
  record.lapsed m.timestamp = true ∨
    (record.deploymentID = 0 ∧ record.reservedUntil = 0 ∧
      record.registeredAt.toNat + s.squattingGracePeriod < m.timestamp)

/-- `reclaimSquatted(name)` -/
def reclaimSquatted (name : Name) : Exec Outcome := do
  whenNotPaused s
  revertIf ((s.subdomains (keccak name)).owner = 0) (.nameNotSquatted name)
  revertIf (s.isSquatted m (keccak name) = false) (.nameNotSquatted name)
  return (((s.deleteRecord (keccak name)).deleteMetadata (keccak name)).removeOwnedName
    (s.subdomains (keccak name)).owner (keccak name), [])

/-! ## Views -/

/-- `resolve(name)` -/
def resolve (name : Name) : Address × Bytes32 × ℕ :=
  let record := s.subdomains (keccak name)
  (record.owner, record.deploymentID, record.registeredAt.toNat)

/-- `isAvailable(name)` -/
def isAvailable (s : Storage) (m : Msg) (name : Name) : Bool :=
  let record := s.subdomains (keccak name)
  record.owner = 0 ∨ s.isFullyExpired m (keccak name) = true ∨ record.lapsed m.timestamp = true

/-- `reverseResolve(deploymentID)` -/
def reverseResolve (deploymentID : Bytes32) : Name :=
  if s.primaryName deploymentID = 0 then [] else s.nameOf (s.primaryName deploymentID)

/-! ## Setters -/

/-- The shape of the owner's setters: `onlyOwner`, the checks of the argument, one write. -/
def adminWrite (m : Msg) (s : Storage) (checks : Exec Unit) (s' : Storage) : Exec Outcome := do
  onlyOwner m s
  checks
  return (s', [])

/-- The check of the two fees. -/
def checkFee (fee : ℕ) : Exec Unit :=
  revertIf (fee > 0 ∧ fee < minRegistrationFee) (.feeBelowMinimum fee minRegistrationFee)

/-- The check of the four periods. -/
def checkPeriod (least greatest period : ℕ) : Exec Unit :=
  revertIf (period < least ∨ period > greatest) .invalidPeriod

/-- `setRegistrationFee(newFee)` -/
def setRegistrationFee (newFee : ℕ) : Exec Outcome :=
  adminWrite m s (checkFee newFee) { s with registrationFee := newFee }

/-- `setTreasury(newTreasury)` -/
def setTreasury (newTreasury : Address) : Exec Outcome :=
  adminWrite m s (revertIf (newTreasury = 0) .invalidAddress) { s with treasury := newTreasury }

/-- `setChangeFee(fee)` -/
def setChangeFee (fee : ℕ) : Exec Outcome :=
  adminWrite m s (checkFee fee) { s with changeFee := fee }

/-- `setExpirationPeriod(period)` -/
def setExpirationPeriod (period : ℕ) : Exec Outcome :=
  adminWrite m s (checkPeriod (30 * 86400) (3650 * 86400) period)
    { s with expirationPeriod := period }

/-- `setGracePeriod(period)` -/
def setGracePeriod (period : ℕ) : Exec Outcome :=
  adminWrite m s (checkPeriod (7 * 86400) (90 * 86400) period) { s with gracePeriod := period }

/-- `setReservationPeriod(period)` -/
def setReservationPeriod (period : ℕ) : Exec Outcome :=
  adminWrite m s (checkPeriod 3600 (7 * 86400) period) { s with reservationPeriod := period }

/-- `setSquattingGracePeriod(period)` -/
def setSquattingGracePeriod (period : ℕ) : Exec Outcome :=
  adminWrite m s (checkPeriod 86400 (30 * 86400) period) { s with squattingGracePeriod := period }

/-- `setReferralDiscountBps(bps)`: at most 20 percent. -/
def setReferralDiscountBps (bps : ℕ) : Exec Outcome :=
  adminWrite m s (revertIf (bps > 2000) .invalidPeriod) { s with referralDiscountBps := bps }

/-- `setReferralRewardBps(bps)`: at most 10 percent. -/
def setReferralRewardBps (bps : ℕ) : Exec Outcome :=
  adminWrite m s (revertIf (bps > 1000) .invalidPeriod) { s with referralRewardBps := bps }

/-- `setStakingContract(addr)` -/
def setStakingContract (addr : Address) : Exec Outcome :=
  adminWrite m s (return ()) { s with stakingContract := addr }

/-- `setShortNamesEnabled(enabled)` -/
def setShortNamesEnabled (enabled : Bool) : Exec Outcome :=
  adminWrite m s (return ()) { s with shortNamesEnabled := enabled }

/-- `setReservedName(name, reserved)` -/
def setReservedName (name : Name) (reserved : Bool) : Exec Outcome :=
  adminWrite m s (return ())
    { s with reservedNames := update s.reservedNames (keccak name) reserved }

/-- `batchReserveNames(names)` -/
def batchReserveNames (names : List Name) : Exec Outcome :=
  adminWrite m s (return ())
    { s with
      reservedNames := names.foldl (fun reserved name =>
        update reserved (keccak name) true) s.reservedNames }

/-- `pause()` -/
def pause : Exec Outcome :=
  adminWrite m s (whenNotPaused s) { s with paused := true }

/-- `unpause()` -/
def unpause : Exec Outcome :=
  adminWrite m s (revertIf (s.paused = false) .expectedPause) { s with paused := false }

end Storage

/-! ## Calls -/

/-- The external state-changing functions of the contract, with their arguments. -/
inductive ExtCall where
  | register (name : Name) (deploymentID : Bytes32) (getTier : Address → Option (BitVec 8))
  | registerWithReferral (name : Name) (deploymentID : Bytes32) (referrer : Address)
      (getTier : Address → Option (BitVec 8))
  | bulkRegister (names : List Name) (deploymentIDs : List Bytes32)
      (getTier : Address → Option (BitVec 8))
  | renew (name : Name) (getTier : Address → Option (BitVec 8))
  | bulkRenew (names : List Name) (getTier : Address → Option (BitVec 8))
  | reserve (name : Name) (getTier : Address → Option (BitVec 8))
  | claimReservation (name : Name) (deploymentID : Bytes32)
  | cancelReservation (name : Name)
  | release (name : Name)
  | transfer (name : Name) (newOwner : Address)
  | updateDeployment (name : Name) (newDeploymentID : Bytes32)
  | setMetadata (name : Name) (description avatarURL : List (BitVec 8))
  | reclaimSquatted (name : Name)
  | setPrimaryName (name : Name)
  | setRegistrationFee (newFee : ℕ)
  | setTreasury (newTreasury : Address)
  | setChangeFee (fee : ℕ)
  | setExpirationPeriod (period : ℕ)
  | setGracePeriod (period : ℕ)
  | setReservationPeriod (period : ℕ)
  | setSquattingGracePeriod (period : ℕ)
  | setReferralDiscountBps (bps : ℕ)
  | setReferralRewardBps (bps : ℕ)
  | setStakingContract (addr : Address)
  | setShortNamesEnabled (enabled : Bool)
  | setReservedName (name : Name) (reserved : Bool)
  | batchReserveNames (names : List Name)
  | pause
  | unpause

/-- Run one external function. -/
def exec (keccak : Name → Bytes32) (m : Msg) (s : Storage) : ExtCall → Exec Outcome
  | .register name deploymentID getTier => s.register keccak m name deploymentID getTier
  | .registerWithReferral name deploymentID referrer getTier =>
    s.registerWithReferral keccak m name deploymentID referrer getTier
  | .bulkRegister names deploymentIDs getTier =>
    s.bulkRegister keccak m names deploymentIDs getTier
  | .renew name getTier => s.renew keccak m name getTier
  | .bulkRenew names getTier => s.bulkRenew keccak m names getTier
  | .reserve name getTier => s.reserve keccak m name getTier
  | .claimReservation name deploymentID => s.claimReservation keccak m name deploymentID
  | .cancelReservation name => s.cancelReservation keccak m name
  | .release name => s.release keccak m name
  | .transfer name newOwner => s.transfer keccak m name newOwner
  | .updateDeployment name newDeploymentID => s.updateDeployment keccak m name newDeploymentID
  | .setMetadata name description avatarURL => s.setMetadata keccak m name description avatarURL
  | .reclaimSquatted name => s.reclaimSquatted keccak m name
  | .setPrimaryName name => s.setPrimaryName keccak m name
  | .setRegistrationFee newFee => s.setRegistrationFee m newFee
  | .setTreasury newTreasury => s.setTreasury m newTreasury
  | .setChangeFee fee => s.setChangeFee m fee
  | .setExpirationPeriod period => s.setExpirationPeriod m period
  | .setGracePeriod period => s.setGracePeriod m period
  | .setReservationPeriod period => s.setReservationPeriod m period
  | .setSquattingGracePeriod period => s.setSquattingGracePeriod m period
  | .setReferralDiscountBps bps => s.setReferralDiscountBps m bps
  | .setReferralRewardBps bps => s.setReferralRewardBps m bps
  | .setStakingContract addr => s.setStakingContract m addr
  | .setShortNamesEnabled enabled => s.setShortNamesEnabled m enabled
  | .setReservedName name reserved => s.setReservedName keccak m name reserved
  | .batchReserveNames names => s.batchReserveNames keccak m names
  | .pause => s.pause m
  | .unpause => s.unpause m

end Moltbunker.Contracts.NameRegistry
