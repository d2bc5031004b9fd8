import Moltbunker.Lib.Sha256
import Moltbunker.Lib.Text

/-!
# The identity of a node

A node computes its `NodeID` from its key (`internal/identity/keys.go`), and other nodes compute it
from the certificate that the node presents: `Transport.DialContext` in `internal/p2p/transport.go`,
`Node.handleConnection` in `internal/daemon/node.go` and `TLSTunnelDialer.DialProvider` in
`internal/daemon/tunnel_dialer.go`.

The key manager hashes the thirty-two bytes of the public key. The others hash the
`SubjectPublicKeyInfo` of the certificate, which by RFC 8410 is the same key after twelve bytes that
name its algorithm. The two have different lengths, so the two hashes are one only if SHA-256
collides on them (`NoCollision`).

* `identities_differ` — no other node ever finds the identity that a node claims: its dials are
  refused and its messages are dropped;
* `identities_differ_at` — the two identities of one key.
-/

namespace Moltbunker.Identity

open Lib Text

/-- `types.NodeID` -/
abbrev NodeID := List.Vector UInt8 32

/-- `NodeID.String` -/
def NodeID.string (id : NodeID) : Text := hexEncode id.toList

/-! ## Keys and certificates -/

/-- `KeyManager`: the public key and the identity that is computed with it. -/
structure KeyManager where
  publicKey : List.Vector UInt8 32
  nodeID : NodeID
  nodeID_eq : nodeID = sha256 publicKey.toList

/-- `GenerateKeys`, for the key that it has drawn. -/
def generateKeys (publicKey : List.Vector UInt8 32) : KeyManager :=
  ⟨publicKey, sha256 publicKey.toList, rfl⟩

/-- `LoadKeys`: the second half of a private key is the public key. -/
def loadKeys (privateKeyData : List UInt8) : Except Text KeyManager :=
  if h : privateKeyData.length = 64 then
    let publicKey : List.Vector UInt8 32 := ⟨privateKeyData.drop 32, by simp [h]⟩
    .ok ⟨publicKey, sha256 publicKey.toList, rfl⟩
  else
    .error (text "invalid private key file: expected 64 bytes, got " ++
      decimal privateKeyData.length)

/-- `x509.Certificate`, as far as it is read here; times are in seconds. -/
structure Certificate where
  rawSubjectPublicKeyInfo : List UInt8
  notBefore : ℕ
  notAfter : ℕ
  /-- `KeyUsage` has `KeyUsageDigitalSignature` -/
  digitalSignature : Bool

/-- The `SubjectPublicKeyInfo` of an Ed25519 key: a sequence of the algorithm `1.3.101.112` and the
key as a bit string. -/
def subjectPublicKeyInfo (publicKey : List.Vector UInt8 32) : List UInt8 :=
  [0x30, 0x2a, 0x30, 0x05, 0x06, 0x03, 0x2b, 0x65, 0x70, 0x03, 0x21, 0x00] ++ publicKey.toList

/-- `NewCertificateManager` -/
def newCertificateManager (now : ℕ) (km : KeyManager) : Certificate where
  rawSubjectPublicKeyInfo := subjectPublicKeyInfo km.publicKey
  notBefore := now
  notAfter := now + 365 * 24 * 3600
  digitalSignature := true

/-! ## The other nodes -/

/-- The identity that a certificate is taken for. -/
def Certificate.nodeID (cert : Certificate) : NodeID := sha256 cert.rawSubjectPublicKeyInfo

/-- `VerifyPeerCertificate` of a dial, with the pinned hash of the node if there is one. -/
def verifyPeerCertificate (pinned : Option (List UInt8)) (now : ℕ) (rawCerts : List Certificate) :
    Except Text Unit :=
  match rawCerts with
  | [] => .error (text "server provided no certificates")
  | cert :: _ =>
    if now < cert.notBefore ∨ cert.notAfter < now then
      .error (text "server certificate expired or not yet valid")
    else if cert.digitalSignature = false then
      .error (text "server certificate missing digital signature key usage")
    else
      match pinned with
      | none => .ok ()
      | some pinnedHash =>
        if pinnedHash.length ≠ 32 then .error (text "certificate pin length mismatch")
        else if cert.nodeID.toList ≠ pinnedHash then
          .error (text ("SECURITY: certificate does not match pinned certificate" ++
            " - possible MITM attack"))
        else .ok ()

/-- `DialContext` from the handshake on, to a peer that presents these certificates. It returns the
hash that it pins, if it pins one. -/
def dialContext (pins : Text → Option (List UInt8)) (nodeID : NodeID) (now : ℕ)
    (peerCertificates : List Certificate) : Except Text (Option (List UInt8)) :=
  match verifyPeerCertificate (pins nodeID.string) now peerCertificates with
  | .error err => .error (text "TLS handshake failed: " ++ err)
  | .ok () =>
    match peerCertificates with
    | [] => .ok none
    | peerCert :: _ =>
      if peerCert.nodeID ≠ nodeID then
        .error (text "SECURITY: peer certificate NodeID mismatch: expected " ++
          nodeID.string.take 16 ++ text ", got " ++ peerCert.nodeID.string.take 16)
      else if (pins nodeID.string).isSome then .ok none
      else .ok (some peerCert.nodeID.toList)

/-- The check of `DialProvider`; an empty identity is not checked. -/
def dialProvider (expectedNodeID : Text) (peerCertificates : List Certificate) :
    Except Text Unit :=
  if expectedNodeID = [] then .ok () else
  match peerCertificates with
  | [] => .error (text "provider presented no TLS certificate")
  | cert :: _ =>
    if cert.nodeID.string ≠ expectedNodeID then
      .error (text "provider NodeID mismatch: got " ++ cert.nodeID.string.take 16 ++
        text ", expected " ++ expectedNodeID.take 16)
    else .ok ()

/-- `types.Message`, as far as `handleConnection` reads it before it hands it on. -/
structure Message where
  sender : NodeID
  payloadSize : ℕ

/-- What becomes of a message. -/
inductive Verdict where
  /-- the connection is closed before a message is read -/
  | disconnected
  /-- the message names another sender -/
  | mismatch
  /-- the payload is too large -/
  | oversized
  /-- the message is handed to its handler -/
  | handled
  deriving DecidableEq

/-- `peerNodeID` of `handleConnection` -/
def peerNodeID : List Certificate → NodeID
  | [] => List.Vector.replicate 32 0
  | cert :: _ => cert.nodeID

/-- `maxMessagePayloadSize` -/
def maxMessagePayloadSize : ℕ := 10 * 1024 * 1024

/-- `handleConnection`, for one message over a connection with these certificates; `allow` is the
answer of the subnet limiter. -/
def handleConnection (allow : NodeID → Bool) (peerCertificates : List Certificate)
    (msg : Message) : Verdict :=
  let id := peerNodeID peerCertificates
  if id = List.Vector.replicate 32 0 then .disconnected
  else if ¬ allow id then .disconnected
  else if msg.sender ≠ id then .mismatch
  else if msg.payloadSize > maxMessagePayloadSize then .oversized
  else .handled

/-! ## Two identities -/

/-- A node has one identity: every other node derives from its certificate what it claims for
itself. -/
structure OneIdentity (km : KeyManager) (cert : Certificate) : Prop where
  dialContext : cert.nodeID = km.nodeID
  handleConnection : peerNodeID [cert] = km.nodeID
  dialProvider : cert.nodeID.string = km.nodeID.string

/-- SHA-256 does not collide on the two. -/
def NoCollision (xs ys : List UInt8) : Prop := sha256 xs = sha256 ys → xs = ys

/-- The encodings of a key that are hashed have different lengths. -/
lemma subjectPublicKeyInfo_ne (publicKey : List.Vector UInt8 32) :
    subjectPublicKeyInfo publicKey ≠ publicKey.toList := by
  intro h
  have hlen := congrArg List.length h
  simp [subjectPublicKeyInfo] at hlen

variable {km : KeyManager} {now : ℕ}

/-- The certificate of a node is taken for another node. -/
lemma certificate_nodeID_ne (now : ℕ)
    (hsha : NoCollision (subjectPublicKeyInfo km.publicKey) km.publicKey.toList) :
    (newCertificateManager now km).nodeID ≠ km.nodeID := by
  intro h
  rw [km.nodeID_eq] at h
  exact subjectPublicKeyInfo_ne km.publicKey (hsha h)

lemma NodeID.string_injective {id id' : NodeID} (h : id.string = id'.string) : id = id' :=
  Subtype.ext (hexEncode_injective h)

variable {nodeID : NodeID} {cert : Certificate}

lemma dialContext_of_ne {pins : Text → Option (List UInt8)} (h : cert.nodeID ≠ nodeID) :
    ∃ err, dialContext pins nodeID now [cert] = .error err := by
  unfold dialContext
  split
  · exact ⟨_, rfl⟩
  · dsimp only
    rw [if_pos h]
    exact ⟨_, rfl⟩

lemma dialProvider_of_ne (h : cert.nodeID ≠ nodeID) :
    ∃ err, dialProvider nodeID.string [cert] = .error err := by
  have hne : nodeID.string ≠ [] := by
    intro hnil
    have hlen := length_hexEncode nodeID.toList
    rw [show hexEncode nodeID.toList = [] from hnil] at hlen
    simp at hlen
  have hstring : cert.nodeID.string ≠ nodeID.string := fun heq => h (NodeID.string_injective heq)
  unfold dialProvider
  rw [if_neg hne]
  dsimp only
  rw [if_pos hstring]
  exact ⟨_, rfl⟩

lemma handleConnection_of_ne {allow : NodeID → Bool} {msg : Message}
    (h : cert.nodeID ≠ msg.sender) : handleConnection allow [cert] msg = .disconnected ∨
    handleConnection allow [cert] msg = .mismatch := by
  unfold handleConnection
  dsimp only
  split
  · exact .inl rfl
  split
  · exact .inl rfl
  · rw [if_pos fun heq => h (show peerNodeID [cert] = _ from heq.symm)]
    exact .inr rfl

/-- **A node has two identities.** Whatever its key, no other node finds the identity that the node
claims: it does not have one identity, a dial to it is refused by both dialers, and every message
that it signs with its identity is dropped. -/
theorem identities_differ
    (hsha : NoCollision (subjectPublicKeyInfo km.publicKey) km.publicKey.toList) :
    ¬ OneIdentity km (newCertificateManager now km) ∧
      (∀ pins t, ∃ err, dialContext pins km.nodeID t [newCertificateManager now km] =
        .error err) ∧
      (∃ err, dialProvider km.nodeID.string [newCertificateManager now km] = .error err) ∧
      ∀ allow msg, msg.sender = km.nodeID →
        handleConnection allow [newCertificateManager now km] msg = .disconnected ∨
        handleConnection allow [newCertificateManager now km] msg = .mismatch := by
  have hne := certificate_nodeID_ne now hsha
  refine ⟨fun h => hne h.dialContext, ?_, dialProvider_of_ne hne, ?_⟩
  · intro pins t
    exact dialContext_of_ne hne
  · intro allow msg hsender
    apply handleConnection_of_ne
    rw [hsender]
    exact hne

/-! ## One key -/

/-- A public key. -/
def someKey : List.Vector UInt8 32 :=
  ⟨[0xd7, 0x5a, 0x98, 0x01, 0x82, 0xb1, 0x0a, 0xb7, 0xd5, 0x4b, 0xfe, 0xd3, 0xc9, 0x64, 0x07, 0x3a,
    0x0e, 0xe1, 0x72, 0xf3, 0xda, 0xa6, 0x23, 0x25, 0xaf, 0x02, 0x1a, 0x68, 0xf7, 0x07, 0x51, 0x1a],
    rfl⟩

/-- The hashes of its two encodings differ. -/
lemma someKey_noCollision : NoCollision (subjectPublicKeyInfo someKey) someKey.toList := by
  have hne : sha256 (subjectPublicKeyInfo someKey) ≠ sha256 someKey.toList := by decide +kernel
  exact fun h => absurd h hne

theorem identities_differ_dial :
    ∃ err, dialContext (fun _ => none) (generateKeys someKey).nodeID 0
      [newCertificateManager 0 (generateKeys someKey)] = .error err :=
  (@identities_differ (generateKeys someKey) 0 someKey_noCollision).2.1 _ _

/-- **The two identities of one key.** -/
theorem identities_differ_at :
    (newCertificateManager 0 (generateKeys someKey)).nodeID ≠ (generateKeys someKey).nodeID ∧
      ¬ OneIdentity (generateKeys someKey) (newCertificateManager 0 (generateKeys someKey)) := by
  have hne : (newCertificateManager 0 (generateKeys someKey)).nodeID ≠
      (generateKeys someKey).nodeID := certificate_nodeID_ne 0 someKey_noCollision
  exact ⟨hne, fun h => hne h.dialContext⟩

end Moltbunker.Identity
