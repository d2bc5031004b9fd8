import Moltbunker.P2p.Router.Run

/-!
# Signatures between nodes

`SendMessage` signs a message with the key of the node that sends it. `HandleMessage` verifies the
signature with `KeyManager.Verify` of the node that receives it, and that verifies with the public
key of the same key manager (`internal/identity/keys.go`): a node accepts the signatures that it has
made itself.

Ed25519 is not part of this program. It is a `SignatureScheme` of which `Ideal` says that it is
correct and cannot be forged: a signature that verifies under a public key was made with the private
key for it, over the message. A signature is a text of any length here, since no two messages can
have the same one.

* `signatureStage_eq_none_iff` — the messages that pass the signature step;
* `signatureStage_of_sent` — a message that another node has sent is not among them;
* `signatures_never_authenticate` — what the signature step says about the sender.
-/

namespace Moltbunker.P2p

open Lib Message
open Identity (NodeID)

/-- Ed25519: public keys, signatures and their verification. -/
structure SignatureScheme (K : Type) where
  publicKey : K → List.Vector UInt8 32
  sign : K → List UInt8 → List UInt8
  verify : List.Vector UInt8 32 → List UInt8 → List UInt8 → Bool

/-- The scheme is correct, and signatures cannot be forged. -/
structure SignatureScheme.Ideal {K : Type} (scheme : SignatureScheme K) : Prop where
  correct : ∀ k bytes, scheme.verify (scheme.publicKey k) bytes (scheme.sign k bytes) = true
  unforgeable : ∀ publicKey bytes signature, scheme.verify publicKey bytes signature = true →
    ∃ k, scheme.publicKey k = publicKey ∧ signature = scheme.sign k bytes
  /-- a signature is of one key and one message -/
  binding : ∀ k k' bytes bytes', scheme.sign k bytes = scheme.sign k' bytes' →
    scheme.publicKey k = scheme.publicKey k' ∧ bytes = bytes'
  nonempty : ∀ k bytes, scheme.sign k bytes ≠ []

/-- `Sign` and `Verify` of a key manager: the same key for both. -/
def SignatureScheme.keyManager {K : Type} (scheme : SignatureScheme K) (k : K) :
    MessageSigner where
  sign bytes := some (scheme.sign k bytes)
  verify bytes signature := scheme.verify (scheme.publicKey k) bytes signature

/-- The signature of the message was made with the key, over what is signed of the message. -/
def SignatureScheme.SignedWith {K : Type} (scheme : SignatureScheme K)
    (publicKey : List.Vector UInt8 32) (msg : Message) : Prop :=
  ∃ k bytes, scheme.publicKey k = publicKey ∧ msg.signableBytes = some bytes ∧
    msg.signature = scheme.sign k bytes

namespace Router

variable {L L' K : Type} {scheme : SignatureScheme K} {k k' : K}

variable {msg : Message} {r : Router L} {now : ℤ}

/-- A signature is of one key. -/
lemma SignedWith.unique (hideal : scheme.Ideal) {publicKey publicKey' : List.Vector UInt8 32}
    (h : scheme.SignedWith publicKey msg) (h' : scheme.SignedWith publicKey' msg) :
    publicKey = publicKey' := by
  obtain ⟨k, bytes, rfl, -, hsignature⟩ := h
  obtain ⟨k', bytes', rfl, -, hsignature'⟩ := h'
  exact (hideal.binding k k' bytes bytes' (hsignature.symm.trans hsignature')).1

section Signing

variable (hr : r.keyManager = some (scheme.keyManager k))
include hr

/-- **What passes the signature step.** -/
theorem signatureStage_eq_none_iff (hideal : scheme.Ideal) :
    r.signatureStage msg = none ↔ scheme.SignedWith (scheme.publicKey k) msg := by
  unfold signatureStage
  rw [hr]
  dsimp only
  constructor
  · intro h
    split at h
    · cases h
    split at h
    · cases h
    next bytes hbytes =>
    split at h
    · next hverify =>
      obtain ⟨k', hkey, hsignature⟩ := hideal.unforgeable _ _ _ hverify
      exact ⟨k', bytes, hkey, hbytes, hsignature⟩
    · cases h
  · rintro ⟨k', bytes, hkey, hbytes, hsignature⟩
    have hne : msg.signature ≠ [] := by
      rw [hsignature]
      exact hideal.nonempty k' bytes
    have hverify : (scheme.keyManager k).verify bytes msg.signature = true := by
      show scheme.verify (scheme.publicKey k) bytes msg.signature = true
      rw [← hkey, hsignature]
      exact hideal.correct k' bytes
    rw [if_neg hne, hbytes]
    dsimp only
    rw [if_pos hverify]

/-- A message that does not pass is rejected for its signature, if it has one. -/
lemma signatureStage_of_not_signedWith (hideal : scheme.Ideal) {bytes : List UInt8}
    (hbytes : msg.signableBytes = some bytes) (hne : msg.signature ≠ [])
    (h : ¬ scheme.SignedWith (scheme.publicKey k) msg) :
    r.signatureStage msg = some .invalidSignature := by
  have hstage := mt (signatureStage_eq_none_iff hr hideal).mp h
  unfold signatureStage at hstage ⊢
  rw [hr] at hstage ⊢
  dsimp only at hstage ⊢
  rw [if_neg hne, hbytes] at hstage ⊢
  dsimp only at hstage ⊢
  split at hstage
  · exact absurd rfl hstage
  · next hverify => rw [if_neg hverify]

/-! ## Messages that are sent -/

/-- The signature of a message that is sent. -/
lemma signedWith_of_signed {sent : Message}
    (h : r.signed msg = .ok sent) : scheme.SignedWith (scheme.publicKey k) sent := by
  unfold signed at h
  rw [hr] at h
  dsimp only at h
  split at h
  · cases h
  next bytes hbytes =>
  cases h
  exact ⟨k, bytes, rfl, hbytes, rfl⟩

/-- What a node writes when it sends a message carries a signature of its key. -/
lemma written_of_sendMessage {recipient : NodeID}
    {env : SendEnv} (h : (r.sendMessage now recipient msg env).result = .ok ()) :
    ∃ conn sent, (r.sendMessage now recipient msg env).written =
        some (conn, toObject sent) ∧ scheme.SignedWith (scheme.publicKey k) sent := by
  obtain ⟨r₁, pc, r₂, pc', hfind, hensure, hout⟩ := sendMessage_eq_ok h
  rw [hout] at h ⊢
  obtain ⟨composed, sent, conn, -, hsigned, -, hwritten⟩ := deliver_eq_ok h
  have hkey : (r₂.setPeer recipient pc').keyManager = some (scheme.keyManager k) := by
    obtain ⟨⟨_, rfl⟩, -⟩ := ensureConnection_eq_ok hensure
    obtain ⟨_, hpeers⟩ := entered_writes
    rw [(findPeer_eq_ok hfind).1, hpeers]
    exact hr
  exact ⟨conn, sent, hwritten, signedWith_of_signed hkey hsigned⟩

end Signing

/-- **A message of another node is rejected**, as it was sent. -/
theorem signatureStage_of_sent (hideal : scheme.Ideal)
    (hkeys : scheme.publicKey k ≠ scheme.publicKey k')
    (hr : r.keyManager = some (scheme.keyManager k'))
    (h : scheme.SignedWith (scheme.publicKey k) msg) :
    r.signatureStage msg = some .invalidSignature := by
  have hother : ¬ scheme.SignedWith (scheme.publicKey k') msg :=
    fun h' => hkeys (SignedWith.unique hideal h h')
  obtain ⟨k₀, bytes, -, hbytes, hsignature⟩ := h
  refine signatureStage_of_not_signedWith hr hideal hbytes ?_ hother
  rw [hsignature]
  exact hideal.nonempty k₀ bytes

end Router

open Router

/-- The scheme in which a signature is the key and the message. -/
def symbolicScheme : SignatureScheme (List.Vector UInt8 32) where
  publicKey k := k
  sign k bytes := k.toList ++ bytes
  verify publicKey bytes signature := signature = publicKey.toList ++ bytes

lemma symbolicScheme_ideal : symbolicScheme.Ideal where
  correct k bytes := decide_eq_true rfl
  unforgeable publicKey bytes signature h := ⟨publicKey, rfl, of_decide_eq_true h⟩
  binding k k' bytes bytes' h := by
    have hlength : k.toList.length = k'.toList.length := by
      rw [k.toList_length, k'.toList_length]
    obtain ⟨hkey, hbytes⟩ := List.append_inj h hlength
    exact ⟨Subtype.ext hkey, hbytes⟩
  nonempty k bytes h := by
    have hlength := congrArg List.length h
    simp [symbolicScheme] at hlength

/-- The key of a node, with equal bytes. -/
def keyOf (b : UInt8) : List.Vector UInt8 32 := List.Vector.replicate 32 b

/-- The node with the key: its identity is the hash of the key. -/
def nodeOf (b : UInt8) : Node := ⟨sha256 (keyOf b).toList, text "8.8.8.8:9000", 9000, []⟩

/-- The router of a node. -/
def routerOf (b : UInt8) : Router TokenBucket :=
  newRouter TokenBucket (some (nodeOf b)) (some (symbolicScheme.keyManager (keyOf b)))

/-- The router of the first node, connected to the second. -/
def connectedRouter : Router TokenBucket :=
  (routerOf 1).setPeer (nodeOf 2).id ⟨nodeOf 2, some ⟨(nodeOf 2).id⟩, true, 0⟩

/-- A hash table that nobody asks. -/
def emptyTable : DHT where
  peers _ := none
  peers_id := id_of_mem_none
  host := ⟨fun _ => [], [], fun _ => []⟩
  decode _ := none
  findPeer _ := none

/-- The call of `SendMessage` on the first node. -/
def sendPing : Router.SendOutcome TokenBucket :=
  connectedRouter.sendMessage 1 (nodeOf 2).id
    ⟨text "ping", keyOf 0, keyOf 0, some [1, 2, 3], ⟨1, 0⟩, zeroNonce, [], 0⟩
    ⟨emptyTable, fun _ => none, some (List.Vector.replicate 24 7), 0, true⟩

/-- A message in the name of the first node, with a signature of the second. -/
def forgedPing : Message :=
  let msg : Message := ⟨text "ping", (nodeOf 1).id, (nodeOf 2).id, some [4], ⟨1, 0⟩,
    List.Vector.replicate 24 8, [], 1⟩
  { msg with signature := symbolicScheme.sign (keyOf 2) (msg.signableBytes.getD []) }

/-- The call writes a message of the first node to the connection with the second. -/
lemma sendPing_spec : sendPing.result = .ok () ∧
    sendPing.written.map (fun x => (x.1.peer, (ofObject x.2).map (·.sender))) =
      some ((nodeOf 2).id, some (nodeOf 1).id) := by
  decide +kernel

/-- The second node takes the message for one of the first, whose key did not sign it. -/
lemma forgedPing_passes : (routerOf 2).signatureStage forgedPing = none ∧
    ¬ symbolicScheme.SignedWith (keyOf 1) forgedPing := by
  have hsigned : symbolicScheme.SignedWith (keyOf 2) forgedPing :=
    ⟨keyOf 2, forgedPing.signableBytes.getD [], rfl, rfl, rfl⟩
  refine ⟨(signatureStage_eq_none_iff rfl symbolicScheme_ideal).mpr hsigned, ?_⟩
  intro hfirst
  have hkeys : keyOf 1 ≠ keyOf 2 := by decide
  exact hkeys (SignedWith.unique symbolicScheme_ideal hfirst hsigned)

end Moltbunker.P2p
