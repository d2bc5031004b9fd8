import Moltbunker.Lib.Text

/-!
# Wallet authentication

`internal/api/wallet_auth.go`: the manager of challenges and sessions, and what the handlers of the
API read of a request to tell whose wallet it comes from (`extractWalletAddress` in
`exec_handler.go`). The functions that read the clock or draw random bytes take what they read as an
argument; times are in nanoseconds.

The curve and the hash function are those of `go-ethereum` and enter as `Crypto`. An error carries
the text that the source gives it, without the text of the error that it wraps.
-/

namespace Moltbunker.Api

open Lib Text

/-! ## Requests and responses -/

/-- The methods of a request. -/
inductive Method where
  | get
  | post
  | put
  | delete
  | other (name : Text)
  deriving DecidableEq

/-- The status and the body of a response: an error with its message, or a payload. -/
structure Response (β : Type) where
  code : ℕ
  body : Except Text β

/-- `writeError` -/
def writeError {β : Type} (code : ℕ) (message : Text) : Response β := ⟨code, .error message⟩

/-- `http.Error` with the status `405` -/
def methodNotAllowed {β : Type} : Response β := writeError 405 (text "method not allowed")

/-! ## The manager -/

/-- A second. -/
def second : ℕ := 1000000000

/-- A challenge to be signed by the wallet `address`. -/
structure Challenge where
  nonce : Text
  address : Text
  message : Text
  createdAt : ℕ
  expiresAt : ℕ
  deriving DecidableEq

/-- A session of the wallet `address`. -/
structure WalletSession where
  address : Text
  token : Text
  createdAt : ℕ
  expiresAt : ℕ
  deriving DecidableEq

/-- `WalletAuthManager`: challenges by address, sessions by token. -/
structure WalletAuthManager where
  challenges : Text → Option Challenge
  sessions : Text → Option WalletSession
  timeout : ℕ

/-- `NewWalletAuthManager` -/
def newWalletAuthManager (timeout : ℕ) : WalletAuthManager where
  challenges _ := none
  sessions _ := none
  timeout := if timeout = 0 then 5 * 60 * second else timeout

/-- `common.IsHexAddress` -/
def isHexAddress (s : Text) : Bool :=
  let digits := if s.take 2 = text "0x" ∨ s.take 2 = text "0X" then s.drop 2 else s
  digits.length == 40 && digits.all fun c => (hexVal c).isSome

/-- The functions of `go-ethereum`: the hash of a text, the public key that a signature of a hash
recovers to, the address of a key and its checksummed form. -/
structure Crypto (Hash PublicKey Address : Type) where
  keccak256Hash : Text → Hash
  sigToPub : Hash → List UInt8 → Option PublicKey
  pubkeyToAddress : PublicKey → Address
  hex : Address → Text

/-- The message of a challenge. -/
def challengeMessage (address nonceHex : Text) (timestamp : ℕ) : Text :=
  text "Sign this message to authenticate with MoltBunker.\n\nWallet: " ++ address ++
    text "\nNonce: " ++ nonceHex ++ text "\nTimestamp: " ++ decimal timestamp

/-- What is hashed to sign a message. -/
def prefixedMessage (message : Text) : Text :=
  text "\x19Ethereum Signed Message:\n" ++ decimal message.byteLen ++ message

/-- The last byte of a signature, as `SigToPub` reads it. -/
def adjustV (sigBytes : List UInt8) : List UInt8 :=
  sigBytes.modify 64 fun v => if 27 ≤ v then v - 27 else v

namespace WalletAuthManager

variable (m : WalletAuthManager) (now : ℕ)

/-- A challenge that is created now. -/
def newChallenge (address : Text) (nonce : List.Vector UInt8 32) : Challenge :=
  let nonceHex := hexEncode nonce.toList
  ⟨nonceHex, address, challengeMessage address nonceHex (now / second), now, now + m.timeout⟩

/-- The challenge becomes the one of its address. -/
def setChallenge (challenge : Challenge) : WalletAuthManager :=
  { m with challenges := Function.update m.challenges challenge.address (some challenge) }

/-- `CreateChallenge`, with the outcome of `rand.Read`. -/
def createChallenge (rand : Option (List.Vector UInt8 32)) (address : Text) :
    Except Text (WalletAuthManager × Text) :=
  let address := address.toLower
  if ¬ isHexAddress address then .error (text "invalid wallet address format") else
  match m.challenges address with
  | some existing =>
    if now < existing.expiresAt then .ok (m, existing.message) else create address
  | none => create address
where
  /-- the part after the check for a challenge that is there -/
  create (address : Text) : Except Text (WalletAuthManager × Text) :=
    match rand with
    | none => .error (text "failed to generate nonce")
    | some nonce =>
      let challenge := m.newChallenge now address nonce
      .ok (m.setChallenge challenge, challenge.message)

/-- `CreateSession`, with the outcome of `rand.Read`. -/
def createSession (rand : Option (List.Vector UInt8 32)) (address : Text) :
    Except Text (WalletAuthManager × Text × ℕ) :=
  match rand with
  | none => .error (text "failed to generate session token")
  | some tokenBytes =>
    let token := text "wt_" ++ hexEncode tokenBytes.toList
    let expiresAt := now + 60 * 60 * second
    let session : WalletSession := ⟨address.toLower, token, now, expiresAt⟩
    .ok ({ m with sessions := Function.update m.sessions token (some session) }, token, expiresAt)

/-- `ValidateSession` -/
def validateSession (token : Text) : Option Text :=
  match m.sessions token with
  | none => none
  | some session => if session.expiresAt < now then none else some session.address

/-- `CleanupExpired` -/
def cleanupExpired : WalletAuthManager :=
  { m with
    challenges := fun address => (m.challenges address).filter fun ch => ¬ ch.expiresAt < now
    sessions := fun token => (m.sessions token).filter fun session => ¬ session.expiresAt < now }

/-- `GetChallengeForAddress` -/
def getChallengeForAddress (address : Text) : Option Challenge :=
  match m.challenges address.toLower with
  | none => none
  | some challenge => if challenge.expiresAt < now then none else some challenge

end WalletAuthManager

/-! ## Signatures -/

section Signatures

variable {Hash PublicKey Address : Type} (crypto : Crypto Hash PublicKey Address)

/-- `VerifySignature`, which does not read the manager. -/
def verifySignature (message signature claimedAddress : Text) : Except Text Text :=
  let claimedAddress := claimedAddress.toLower
  if ¬ isHexAddress claimedAddress then .error (text "invalid claimed address format") else
  match hexDecode (signature.trimPrefix (text "0x")) with
  | none => .error (text "invalid signature format")
  | some sigBytes =>
    if sigBytes.length ≠ 65 then
      .error (text "invalid signature length: expected 65, got " ++ decimal sigBytes.length)
    else
      match crypto.sigToPub (crypto.keccak256Hash (prefixedMessage message))
          (adjustV sigBytes) with
      | none => .error (text "failed to recover public key")
      | some pubKey =>
        let recoveredAddr := crypto.hex (crypto.pubkeyToAddress pubKey)
        if recoveredAddr.toLower ≠ claimedAddress then
          .error (text "signature does not match claimed address")
        else .ok recoveredAddr

/-- The difference of two signed 64-bit numbers. -/
def subInt64 (a b : ℤ) : ℤ := (a - b).bmod (2 ^ 64)

/-- `VerifyInlineAuth` -/
def verifyInlineAuth (now : ℕ) (walletAddr signature message : Text) : Except Text Text :=
  if ¬ (text "moltbunker-auth:").isPrefixOf message then
    .error (text "invalid auth message format")
  else
    match message.splitOn ':' with
    | _ :: part :: _ =>
      let timestamp := (scanInt part).getD 0
      let now : ℤ := (now / second : ℕ)
      if subInt64 now timestamp > 300 ∨ subInt64 timestamp now > 60 then
        .error (text "auth message timestamp expired or invalid")
      else verifySignature crypto message signature walletAddr
    | _ => .error (text "invalid auth message format")

/-- The headers of a request that identify its wallet; a missing one is empty. -/
structure Headers where
  authorization : Text
  walletAddress : Text
  walletSignature : Text
  walletMessage : Text
  deriving DecidableEq

/-- The wallet of the session that the request names with a bearer token. -/
def Headers.sessionWallet (h : Headers) (walletAuth : Option WalletAuthManager) (now : ℕ) :
    Option Text :=
  if h.authorization.length > 7 ∧ h.authorization.take 7 = text "Bearer " then
    let token := h.authorization.drop 7
    if token.length > 3 ∧ token.take 3 = text "wt_" then
      walletAuth.bind fun m => m.validateSession now token
    else none
  else none

/-- `extractWalletAddress`: empty if the request comes from no wallet. -/
def extractWalletAddress (walletAuth : Option WalletAuthManager) (now : ℕ) (h : Headers) : Text :=
  match h.sessionWallet walletAuth now with
  | some addr => addr
  | none =>
    if h.walletAddress ≠ [] ∧ h.walletSignature ≠ [] ∧ h.walletMessage ≠ [] ∧
        walletAuth.isSome then
      match verifyInlineAuth crypto now h.walletAddress h.walletSignature h.walletMessage with
      | .ok addr => addr
      | .error _ => []
    else []

/-- A signature recovers to the wallet of the message. -/
lemma verifySignature_eq_ok {message signature claimedAddress addr : Text}
    (h : verifySignature crypto message signature claimedAddress = .ok addr) :
    addr.toLower = claimedAddress.toLower ∧ ∃ sigBytes pubKey,
      crypto.sigToPub (crypto.keccak256Hash (prefixedMessage message)) sigBytes = some pubKey ∧
      addr = crypto.hex (crypto.pubkeyToAddress pubKey) := by
  unfold verifySignature at h
  dsimp only at h
  split at h
  · cases h
  split at h
  · cases h
  · next sigBytes _ =>
    split at h
    · cases h
    split at h
    · cases h
    · next pubKey hpub =>
      split at h
      · cases h
      · next heq =>
        simp only [Except.ok.injEq] at h
        subst h
        exact ⟨not_not.mp heq, _, pubKey, hpub, rfl⟩

end Signatures

end Moltbunker.Api
