import Moltbunker.Contracts.Chain

/-!
# `BunkerVerification`

The contract `contracts/src/BunkerVerification.sol`, function by function, and what each returned
call did (`Effect`, `exec_effect`). Packed fields are stored with their width, and the casts of the
source to `uint32` and `uint48` cut off as there; `uint256` is `ℕ` with the checks of the compiler.

The contract holds no tokens, so no call makes a token call. Left out are the emitted events, the
view `getAttestation`, which returns a record as it is, and the constant `VERSION`; ownership and
roles are OpenZeppelin's.
-/

namespace Moltbunker.Contracts.Verification

open Lib

/-! ## Types and storage -/

/-- `struct AttestationRecord` -/
structure AttestationRecord where
  /-- the hash of the container metrics -/
  lastAttestationHash : BitVec 256
  lastAttestationTime : BitVec 48
  totalAttestations : BitVec 32
  missedAttestations : BitVec 32
  consecutiveMissed : BitVec 32
  suspended : Bool
  deriving DecidableEq

/-- The errors of the contract and of the access modifiers it inherits. -/
inductive VerificationError where
  | attestationTooEarly (nextAllowed current : ℕ)
  | providerSuspendedError (provider : Address)
  | invalidAttestation
  | providerNotAttesting (provider : Address)
  | invalidInterval (interval : ℕ)
  | invalidMaxMissed (maxMissed : ℕ)
  | reinstatementCooldownActive
  | invalidCooldown
  /-- `Ownable`: the owner cannot be the zero address. -/
  | ownableInvalidOwner (owner : Address)
  /-- `Ownable`: the caller is not the owner. -/
  | ownableUnauthorizedAccount (account : Address)
  /-- `AccessControl`: the caller lacks the role. -/
  | accessControlUnauthorizedAccount (account : Address)
  deriving DecidableEq

/-- The storage of the contract. -/
structure Storage where
  attestationInterval : ℕ
  maxMissedAttestations : ℕ
  reinstatementCooldown : ℕ
  attestations : Address → AttestationRecord
  suspendedAt : Address → ℕ
  /-- `Ownable` -/
  owner : Address
  /-- `hasRole(VERIFIER_ROLE, ·)` -/
  isVerifier : Address → Bool

/-- Calls of this contract. -/
abbrev Exec (α : Type) : Type := Call VerificationError α

/-- What a returned call leaves: the storage, and the token calls it made (none). -/
abbrev Outcome : Type := Storage × List TokenCall

/-- The storage that the constructor leaves: one day between attestations, three misses in a row,
seven days of suspension. -/
def Storage.deployed (initialOwner : Address) : Storage where
  attestationInterval := 86400
  maxMissedAttestations := 3
  reinstatementCooldown := 7 * 86400
  attestations _ := ⟨0, 0, 0, 0, 0, false⟩
  suspendedAt _ := 0
  owner := initialOwner
  isVerifier _ := false

/-- `constructor(_initialOwner)` -/
def constructor (initialOwner : Address) : Exec Storage := do
  revertIf (initialOwner = 0) (.ownableInvalidOwner initialOwner)
  return .deployed initialOwner

/-! ## Modifiers -/

/-- `onlyOwner` -/
def onlyOwner (m : Msg) (s : Storage) : Exec Unit :=
  revertIf (m.sender ≠ s.owner) (.ownableUnauthorizedAccount m.sender)

/-- `onlyRole(VERIFIER_ROLE)` -/
def onlyVerifier (m : Msg) (s : Storage) : Exec Unit :=
  revertIf (s.isVerifier m.sender = false) (.accessControlUnauthorizedAccount m.sender)

namespace Storage

variable (s : Storage)

/-- Write the record of a provider. -/
def setRecord (provider : Address) (record : AttestationRecord) : Storage :=
  { s with attestations := Function.update s.attestations provider record }

variable (m : Msg)

/-- `suspendedAt[provider] = block.timestamp` -/
def stampSuspension (provider : Address) : Storage :=
  { s with suspendedAt := Function.update s.suspendedAt provider m.timestamp }

/-! ## Providers -/

/-- `submitAttestation(attestationHash)` -/
def submitAttestation (attestationHash : BitVec 256) : Exec Outcome := do
  revertIf (attestationHash = 0) .invalidAttestation
  let record := s.attestations m.sender
  revertIf (record.suspended = true) (.providerSuspendedError m.sender)
  if record.lastAttestationTime = 0 then
    -- the first attestation
    return (s.setRecord m.sender ⟨attestationHash, .ofNat 48 m.timestamp, 1, 0, 0, false⟩, [])
  else
    let nextAllowed ← addW 256 record.lastAttestationTime.toNat s.attestationInterval
    revertIf (m.timestamp < nextAllowed) (.attestationTooEarly nextAllowed m.timestamp)
    let totalAttestations ← addB record.totalAttestations 1
    return (s.setRecord m.sender { record with
      lastAttestationHash := attestationHash
      lastAttestationTime := .ofNat 48 m.timestamp
      totalAttestations := totalAttestations
      consecutiveMissed := 0 }, [])

/-! ## Verifiers -/

/-- `checkMissedAttestations(provider)` -/
def checkMissedAttestations (provider : Address) : Exec Outcome := do
  onlyVerifier m s
  let record := s.attestations provider
  revertIf (record.lastAttestationTime = 0) (.providerNotAttesting provider)
  revertIf (record.suspended = true) (.providerSuspendedError provider)
  let deadline ← addW 256 record.lastAttestationTime.toNat s.attestationInterval
  if m.timestamp ≤ deadline then
    return (s, [])
  else
    let elapsed ← subC m.timestamp record.lastAttestationTime.toNat
    let intervalsMissed ← divC elapsed s.attestationInterval
    if intervalsMissed = 0 then
      return (s, [])
    else
      let missedAttestations ← addB record.missedAttestations (.ofNat 32 intervalsMissed)
      let consecutiveMissed ← addB record.consecutiveMissed (.ofNat 32 intervalsMissed)
      let advance ← mulW 256 intervalsMissed s.attestationInterval
      let lastAttestationTime ← addW 256 record.lastAttestationTime.toNat advance
      let counted := { record with
        missedAttestations := missedAttestations
        consecutiveMissed := consecutiveMissed
        lastAttestationTime := .ofNat 48 lastAttestationTime }
      if consecutiveMissed ≥ .ofNat 32 s.maxMissedAttestations then
        return ((s.setRecord provider
          { counted with suspended := true }).stampSuspension m provider, [])
      else
        return (s.setRecord provider counted, [])

/-- `challengeAttestation(provider, fraudProof)` -/
def challengeAttestation (provider : Address) (fraudProof : List (BitVec 8)) : Exec Outcome := do
  onlyVerifier m s
  let record := s.attestations provider
  revertIf (record.lastAttestationTime = 0) (.providerNotAttesting provider)
  revertIf (fraudProof.length = 0) .invalidAttestation
  return ((s.setRecord provider { record with suspended := true }).stampSuspension m provider, [])

/-! ## The owner -/

/-- `reinstateProvider(provider)` -/
def reinstateProvider (provider : Address) : Exec Outcome := do
  onlyOwner m s
  let record := s.attestations provider
  revertIf (record.lastAttestationTime = 0) (.providerNotAttesting provider)
  let cooldownEnd ← addW 256 (s.suspendedAt provider) s.reinstatementCooldown
  revertIf (m.timestamp < cooldownEnd) .reinstatementCooldownActive
  return (s.setRecord provider { record with
    suspended := false
    consecutiveMissed := 0
    lastAttestationTime := .ofNat 48 m.timestamp }, [])

/-- The shape of the owner's setters: `onlyOwner`, the check of the argument, one write. -/
def adminWrite (m : Msg) (s : Storage) (check : Exec Unit) (s' : Storage) : Exec Outcome := do
  onlyOwner m s
  check
  return (s', [])

/-- `setAttestationInterval(interval)` -/
def setAttestationInterval (interval : ℕ) : Exec Outcome :=
  adminWrite m s (revertIf (interval = 0) (.invalidInterval interval))
    { s with attestationInterval := interval }

/-- `setMaxMissedAttestations(maxMissed)` -/
def setMaxMissedAttestations (maxMissed : ℕ) : Exec Outcome :=
  adminWrite m s (revertIf (maxMissed = 0) (.invalidMaxMissed maxMissed))
    { s with maxMissedAttestations := maxMissed }

/-- `setReinstatementCooldown(newCooldown)`: one minute to 30 days. -/
def setReinstatementCooldown (newCooldown : ℕ) : Exec Outcome :=
  adminWrite m s (revertIf (newCooldown < 60 ∨ newCooldown > 30 * 86400) .invalidCooldown)
    { s with reinstatementCooldown := newCooldown }

/-! ## The view -/

/-- `isAttestationCurrent(provider)` -/
def isAttestationCurrent (provider : Address) : Exec Bool := do
  let record := s.attestations provider
  if record.lastAttestationTime = 0 then
    return false
  else if record.suspended = true then
    return false
  else
    let age ← subC m.timestamp record.lastAttestationTime.toNat
    return age ≤ s.attestationInterval

end Storage

/-! ## Calls -/

/-- The external state-changing functions of the contract, with their arguments. -/
inductive ExtCall where
  | submitAttestation (attestationHash : BitVec 256)
  | checkMissedAttestations (provider : Address)
  | challengeAttestation (provider : Address) (fraudProof : List (BitVec 8))
  | reinstateProvider (provider : Address)
  | setAttestationInterval (interval : ℕ)
  | setMaxMissedAttestations (maxMissed : ℕ)
  | setReinstatementCooldown (newCooldown : ℕ)

/-- Run one external function. -/
def exec (m : Msg) (s : Storage) : ExtCall → Exec Outcome
  | .submitAttestation attestationHash => s.submitAttestation m attestationHash
  | .checkMissedAttestations provider => s.checkMissedAttestations m provider
  | .challengeAttestation provider fraudProof => s.challengeAttestation m provider fraudProof
  | .reinstateProvider provider => s.reinstateProvider m provider
  | .setAttestationInterval interval => s.setAttestationInterval m interval
  | .setMaxMissedAttestations maxMissed => s.setMaxMissedAttestations m maxMissed
  | .setReinstatementCooldown newCooldown => s.setReinstatementCooldown m newCooldown

/-! ## What a returned call did -/

/-- The owner's setters. -/
def ExtCall.admin : ExtCall → Bool
  | .setAttestationInterval _ => true
  | .setMaxMissedAttestations _ => true
  | .setReinstatementCooldown _ => true
  | _ => false

/-- The whole intervals from the provider's `lastAttestationTime` to `t`. -/
def Storage.intervalsMissed (s : Storage) (provider : Address) (t : ℕ) : ℕ :=
  (t - (s.attestations provider).lastAttestationTime.toNat) / s.attestationInterval

/-- The record of a provider after the misses up to `t` have been counted. -/
def Storage.counted (s : Storage) (provider : Address) (t : ℕ) (missed consecutive : BitVec 32) :
    AttestationRecord :=
  { s.attestations provider with
    missedAttestations := missed
    consecutiveMissed := consecutive
    lastAttestationTime := .ofNat 48 ((s.attestations provider).lastAttestationTime.toNat +
      s.intervalsMissed provider t * s.attestationInterval) }

/-- A check at time `t` counts misses: the provider is late, and the counters hold them. -/
structure Late (s : Storage) (provider : Address) (t : ℕ) (missed consecutive : BitVec 32) :
    Prop where
  attesting : (s.attestations provider).lastAttestationTime ≠ 0
  active : (s.attestations provider).suspended = false
  late : (s.attestations provider).lastAttestationTime.toNat + s.attestationInterval < t
  missed : missed.toNat = (s.attestations provider).missedAttestations.toNat +
    (BitVec.ofNat 32 (s.intervalsMissed provider t)).toNat
  consecutive : consecutive.toNat = (s.attestations provider).consecutiveMissed.toNat +
    (BitVec.ofNat 32 (s.intervalsMissed provider t)).toNat

/-- What a returned call did. -/
inductive Effect (m : Msg) (s : Storage) : ExtCall → Outcome → Prop
  | first {hash : BitVec 256} (hactive : (s.attestations m.sender).suspended = false)
      (hnone : (s.attestations m.sender).lastAttestationTime = 0) :
      Effect m s (.submitAttestation hash)
        (s.setRecord m.sender ⟨hash, .ofNat 48 m.timestamp, 1, 0, 0, false⟩, [])
  | renewed {hash : BitVec 256} {total : BitVec 32}
      (hactive : (s.attestations m.sender).suspended = false)
      (hdue : (s.attestations m.sender).lastAttestationTime.toNat + s.attestationInterval ≤
        m.timestamp)
      (htotal : total.toNat = (s.attestations m.sender).totalAttestations.toNat + 1) :
      Effect m s (.submitAttestation hash)
        (s.setRecord m.sender { s.attestations m.sender with
          lastAttestationHash := hash
          lastAttestationTime := .ofNat 48 m.timestamp
          totalAttestations := total
          consecutiveMissed := 0 }, [])
  | inTime {provider : Address} : Effect m s (.checkMissedAttestations provider) (s, [])
  | missed {provider : Address} {missed consecutive : BitVec 32}
      (hlate : Late s provider m.timestamp missed consecutive)
      (hfew : consecutive < .ofNat 32 s.maxMissedAttestations) :
      Effect m s (.checkMissedAttestations provider)
        (s.setRecord provider (s.counted provider m.timestamp missed consecutive), [])
  | suspended {provider : Address} {missed consecutive : BitVec 32}
      (hlate : Late s provider m.timestamp missed consecutive)
      (hmany : .ofNat 32 s.maxMissedAttestations ≤ consecutive) :
      Effect m s (.checkMissedAttestations provider)
        ((s.setRecord provider { s.counted provider m.timestamp missed consecutive with
          suspended := true }).stampSuspension m provider, [])
  | challenged {provider : Address} {fraudProof : List (BitVec 8)} :
      Effect m s (.challengeAttestation provider fraudProof)
        ((s.setRecord provider { s.attestations provider with
          suspended := true }).stampSuspension m provider, [])
  | reinstated {provider : Address}
      (hcooldown : s.suspendedAt provider + s.reinstatementCooldown ≤ m.timestamp) :
      Effect m s (.reinstateProvider provider)
        (s.setRecord provider { s.attestations provider with
          suspended := false
          consecutiveMissed := 0
          lastAttestationTime := .ofNat 48 m.timestamp }, [])
  | admin {c : ExtCall} {s' : Storage} (hc : c.admin = true)
      (hattestations : s'.attestations = s.attestations)
      (hsuspendedAt : s'.suspendedAt = s.suspendedAt) : Effect m s c (s', [])

variable {m : Msg} {s : Storage} {r : Outcome}

lemma submitAttestation_effect {hash : BitVec 256} (h : s.submitAttestation m hash = .ok r) :
    Effect m s (.submitAttestation hash) r := by
  simp only [Storage.submitAttestation, bind_eq_ok, revertIf_eq_ok] at h
  obtain ⟨_, -, _, hactive, h⟩ := h
  split at h
  · next hnone =>
    cases pure_eq_ok.mp h
    exact .first (Bool.not_eq_true _ ▸ hactive) hnone
  · simp only [bind_eq_ok, addW_eq_ok, revertIf_eq_ok, pure_eq_ok] at h
    obtain ⟨_, ⟨-, rfl⟩, _, hdue, total, htotal, rfl⟩ := h
    exact .renewed (Bool.not_eq_true _ ▸ hactive) (not_lt.mp hdue) (addB_eq_ok htotal).2

lemma checkMissedAttestations_effect {provider : Address}
    (h : s.checkMissedAttestations m provider = .ok r) :
    Effect m s (.checkMissedAttestations provider) r := by
  simp only [Storage.checkMissedAttestations, bind_eq_ok, revertIf_eq_ok, addW_eq_ok] at h
  obtain ⟨_, -, _, hattesting, _, hactive, _, ⟨-, rfl⟩, h⟩ := h
  split at h
  · cases pure_eq_ok.mp h
    exact .inTime
  · next hlate =>
    simp only [bind_eq_ok, subC_eq_ok, divC_eq_ok] at h
    obtain ⟨_, ⟨-, rfl⟩, _, ⟨-, rfl⟩, h⟩ := h
    split at h
    · cases pure_eq_ok.mp h
      exact .inTime
    · simp only [bind_eq_ok, mulW_eq_ok, addW_eq_ok] at h
      obtain ⟨missed, hmissed, consecutive, hconsecutive, _, ⟨-, rfl⟩, _, ⟨-, rfl⟩, h⟩ := h
      have hcounted : Late s provider m.timestamp missed consecutive :=
        ⟨hattesting, Bool.not_eq_true _ ▸ hactive, not_le.mp hlate, (addB_eq_ok hmissed).2,
          (addB_eq_ok hconsecutive).2⟩
      split at h
      · next hmany =>
        cases pure_eq_ok.mp h
        exact .suspended hcounted hmany
      · next hfew =>
        cases pure_eq_ok.mp h
        exact .missed hcounted (BitVec.not_le.mp hfew)

lemma adminWrite_eq_ok {s' : Storage} {check : Exec Unit}
    (h : Storage.adminWrite m s check s' = .ok r) : r = (s', []) := by
  simp only [Storage.adminWrite, bind_eq_ok, pure_eq_ok] at h
  obtain ⟨_, -, _, -, rfl⟩ := h
  rfl

/-- **What a returned call did.** -/
theorem exec_effect {c : ExtCall} (h : exec m s c = .ok r) : Effect m s c r := by
  cases c with
  | submitAttestation hash => exact submitAttestation_effect h
  | checkMissedAttestations provider => exact checkMissedAttestations_effect h
  | challengeAttestation provider fraudProof =>
    simp only [exec, Storage.challengeAttestation, bind_eq_ok, pure_eq_ok] at h
    obtain ⟨_, -, _, -, _, -, rfl⟩ := h
    exact .challenged
  | reinstateProvider provider =>
    simp only [exec, Storage.reinstateProvider, bind_eq_ok, addW_eq_ok, revertIf_eq_ok,
      pure_eq_ok] at h
    obtain ⟨_, -, _, -, _, ⟨-, rfl⟩, _, hcooldown, rfl⟩ := h
    exact .reinstated (not_lt.mp hcooldown)
  | _ =>
    cases adminWrite_eq_ok h
    exact .admin rfl rfl rfl

/-! ## On the chain -/

/-- Ownership and the verifiers. -/
structure Roles where
  owner : Address
  isVerifier : Address → Bool

/-- The contract. -/
def contract : Chain.Contract Storage ExtCall Roles VerificationError where
  Initial s := ∃ initialOwner, constructor initialOwner = .ok s
  exec := exec
  setRoles s roles :=
    { s with
      owner := roles.owner
      isVerifier := roles.isVerifier }
  pulls_sender h := by
    intro holder v hmem
    cases exec_effect h <;> cases hmem

/-- The contract with the clock and the token, which it never calls. -/
abbrev World : Type := Chain.World Storage supplyCap

/-- What can happen next. -/
abbrev Action : Type := Chain.Action ExtCall Roles

end Moltbunker.Contracts.Verification
