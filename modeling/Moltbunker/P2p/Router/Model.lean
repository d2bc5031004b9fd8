import Moltbunker.P2p.BanList
import Moltbunker.P2p.Diversity
import Moltbunker.P2p.Message
import Moltbunker.P2p.PeerScorer
import Moltbunker.P2p.StakeVerifier

/-!
# The router: its peers and its messages to them

`Router` of `internal/p2p/routing.go`, with its table of peers (`peer_management.go`), the
connections to them (`connection_pool.go`), and the lookup of a node in the distributed hash table
(`dht.go`). A `PeerConnection` is a pointer that stands under one key of the table; what is changed
through the pointer is changed in the table.

The libraries below `dht.go` enter as what they answer: the addresses and the connections of the
host, `peer.Decode` and `FindPeer`. So do the network and the random bytes. The router has a hash
table, as `NewNode` gives it one. The order in which Go goes over a table is an argument where it
matters.

Errors carry the text of the source, without the text of the error that they wrap.
-/

namespace Moltbunker.P2p

open Lib Text Net Json
open Identity (NodeID Certificate)

/-! ## The state -/

/-- `*tls.Conn`: the identity in the certificate that the peer presented. -/
structure Conn where
  peer : NodeID
  deriving DecidableEq

/-- `PeerConnection` -/
structure PeerConnection where
  node : Node
  conn : Option Conn
  connected : Bool
  lastSeen : ℤ
  deriving DecidableEq

/-- `ViolationEntry` -/
structure ViolationEntry where
  count : ℤ
  firstViolation : ℤ

/-- `MessageHandler`, with the error that it returns. -/
abbrev MessageHandler := Message → Option Node → Option Text

/-- The pins of the transport: hashes of certificates by the name of a node. -/
abbrev Pins := Text → Option (List UInt8)

/-- `Router`. The limiters are of a type `L` of the package `golang.org/x/time/rate`; of the
transport only the pins are kept. -/
structure Router (L : Type) where
  keyManager : Option MessageSigner
  peers : Table NodeID PeerConnection
  handlers : MessageType → Option MessageHandler
  localNode : Option Node
  maxPeers : ℤ
  connectionTimeout : Duration
  transport : Option Pins
  peerLimiters : NodeID → Option L
  banList : Option BanList
  violationCounters : NodeID → Option ViolationEntry
  stakeVerifier : Option StakeVerifier
  nonceTracker : Option NonceTracker
  peerScorer : Option PeerScorer
  diversityEnforcer : Option PeerDiversityEnforcer

/-- `DefaultMaxPeers` -/
def defaultMaxPeers : ℤ := 50

/-- `DefaultConnectionTimeout` -/
def defaultConnectionTimeout : Duration := 5 * .minute

/-- `NewRouterWithConfig`. What the setters set is not set yet. -/
def newRouterWithConfig (L : Type) (localNode : Option Node) (keyManager : Option MessageSigner)
    (maxPeers : ℤ) (connectionTimeout : Duration) : Router L where
  keyManager := keyManager
  peers := ∅
  handlers _ := none
  localNode := localNode
  maxPeers := maxPeers
  connectionTimeout := connectionTimeout
  transport := none
  peerLimiters _ := none
  banList := none
  violationCounters _ := none
  stakeVerifier := none
  nonceTracker := none
  peerScorer := none
  diversityEnforcer := none

/-- `NewRouter` -/
def newRouter (L : Type) (localNode : Option Node) (keyManager : Option MessageSigner) : Router L :=
  newRouterWithConfig L localNode keyManager defaultMaxPeers defaultConnectionTimeout

/-- The beginning of the name of a node that the errors give. -/
def shortName (id : NodeID) : Text := id.string.take 16

/-! ## The distributed hash table -/

/-- `peer.ID` -/
abbrev PeerID := List UInt8

/-- What the host of `libp2p` knows: the addresses of a peer, the peers that are connected, and the
region of an address. -/
structure Host where
  addrs : PeerID → List Text
  connected : List PeerID
  region : Text → Text

/-- `DHT`: the cache of nodes by their identity, the host, `peer.Decode` and `FindPeer`. -/
structure DHT where
  peers : NodeID → Option Node
  peers_id : ∀ id, ∀ node ∈ peers id, node.id = id
  host : Host
  decode : Text → Option PeerID
  findPeer : PeerID → Option PeerID

/-- Nothing is in an empty cache. -/
lemma id_of_mem_none (id : NodeID) (node : Node) (h : node ∈ (none : Option Node)) :
    node.id = id := by
  cases h

/-- The port in the address of a peer. -/
def portOf (address : Text) : ℤ :=
  match cutAfter (text "/tcp/") address with
  | none => 0
  | some rest => (scanInt (rest.takeWhile (· != '/'))).getD 0

/-- `extractIPFromMultiaddr` -/
def extractIPFromMultiaddr (address : Text) : Text :=
  if (text "/ip4/").isPrefixOf address then (address.splitOn '/').getD 2 [] else []

/-- `peerIDToNode` -/
def Host.peerIDToNode (host : Host) (peerID : PeerID) : Node :=
  let address := ((host.addrs peerID).find? fun addr =>
    (cutAfter (text "/tcp/") addr).isSome).getD []
  let ip := extractIPFromMultiaddr address
  { id := sha256 peerID
    address := address
    port := portOf address
    region := if ip = [] then [] else host.region ip }

/-- `GetConnectedPeers` -/
def Host.getConnectedPeers (host : Host) : List Node := host.connected.map host.peerIDToNode

/-- `FindNode`: the node in the cache, or the one that is found, or else all that are connected. -/
def DHT.findNode (dht : DHT) (targetID : NodeID) : List Node :=
  match dht.peers targetID with
  | some node => [node]
  | none =>
    match (dht.decode targetID.string).bind dht.findPeer with
    | some peerID => [dht.host.peerIDToNode peerID]
    | none => dht.host.getConnectedPeers

/-! ## Addresses -/

/-- `extractTCPAddressFromMultiaddr` -/
def extractTCPAddressFromMultiaddr (address : Text) : Text :=
  let parts := address.splitOn '/'
  let pairs := parts.zip parts.tail
  let ip := (pairs.foldl (fun ip p =>
    if p.1 = text "ip4" ∨ p.1 = text "ip6" then p.2 else ip) [] : Text)
  let port := (pairs.foldl (fun port p => if p.1 = text "tcp" then p.2 else port) [] : Text)
  if ip = [] then []
  else joinHostPort ip (if port = [] then text "9000" else port)

/-- `resolveAddress` -/
def resolveAddress (node : Node) : Text :=
  if node.address = [] then []
  else if (text "/ip4/").isPrefixOf node.address ∨ (text "/ip6/").isPrefixOf node.address then
    extractTCPAddressFromMultiaddr node.address
  else if ':' ∈ node.address then node.address
  else node.address ++ text ":" ++ (if node.port > 0 then ofInt node.port else text "9000")

namespace Router

variable {L : Type}

/-! ## The table of peers -/

/-- What is done to the table and to the other records when a peer goes: `RemovePeer`, and the body
of the loops of `evictOldestIdlePeerLocked`, `CleanupStaleConnections` and `Close`. -/
def removePeer (r : Router L) (nodeID : NodeID) : Router L :=
  match r.peers.lookup nodeID with
  | none => r
  | some pc =>
    { r with
      diversityEnforcer := r.diversityEnforcer.map fun pde =>
        pde.removePeer pc.node.region (subnetFromAddress pc.node.address)
      peerScorer := r.peerScorer.map fun ps => ps.removePeer nodeID
      stakeVerifier := r.stakeVerifier.map fun sv => sv.removePeer nodeID
      peers := r.peers.erase nodeID }

/-- The loop of `evictOldestIdlePeerLocked` over the peers in this order: the first of those that
are not connected and have not been seen for the longest time. -/
def oldestIdle (peers : Table NodeID PeerConnection) :
    List NodeID → Option (NodeID × ℤ) → Option (NodeID × ℤ)
  | [], oldest => oldest
  | nodeID :: order, oldest =>
    match peers.lookup nodeID with
    | none => oldestIdle peers order oldest
    | some pc =>
      if pc.connected ∨ ∃ o ∈ oldest, o.2 ≤ pc.lastSeen then oldestIdle peers order oldest
      else oldestIdle peers order (some (nodeID, pc.lastSeen))

variable (r : Router L)

/-- `evictOldestIdlePeerLocked` -/
def evictOldestIdlePeer (order : List NodeID) : Option (Router L) :=
  (oldestIdle r.peers order none).map fun oldest => r.removePeer oldest.1

/-- The end of `AddPeer`: the peer is counted and enters the table. -/
def insertPeer (now : ℤ) (node : Node) : Router L :=
  { r with
    diversityEnforcer := r.diversityEnforcer.map fun pde =>
      pde.recordPeer node.region (subnetFromAddress node.address)
    peers := r.peers.insert node.id ⟨node, none, false, now⟩ }

/-- `AddPeer` -/
def addPeer (now : ℤ) (order : List NodeID) (node : Node) : Router L × Bool :=
  match r.peers.lookup node.id with
  | some existing =>
    ({ r with peers := r.peers.insert node.id { existing with lastSeen := now } }, true)
  | none =>
    if r.diversityEnforcer.any fun pde =>
        !pde.allowPeer node.region (subnetFromAddress node.address) then (r, false)
    else if r.maxPeers ≤ tableSize r.peers then
      match r.evictOldestIdlePeer order with
      | none => (r, false)
      | some r => (r.insertPeer now node, true)
    else (r.insertPeer now node, true)

/-- `CleanupStaleConnections` -/
def cleanupStaleConnections (now : ℤ) (maxAge : Duration) : Router L :=
  r.peers.keys.foldl (fun r nodeID =>
    if (r.peers.lookup nodeID).any fun pc => Time.sub now pc.lastSeen > maxAge then
      r.removePeer nodeID
    else r) r

/-- A peer whose connection was idle for too long is not connected any more. -/
def closeIdle (now : ℤ) (nodeID : NodeID) : Router L :=
  match r.peers.lookup nodeID with
  | none => r
  | some pc =>
    if pc.connected ∧ Time.sub now pc.lastSeen > r.connectionTimeout ∧ pc.conn.isSome then
      { r with peers := r.peers.insert nodeID { pc with conn := none, connected := false } }
    else r

/-- `cleanupIdleConnections` -/
def cleanupIdleConnections (now : ℤ) : Router L :=
  r.peers.keys.foldl (fun r nodeID => r.closeIdle now nodeID) r

/-- `CleanupStaleLimiters` -/
def cleanupStaleLimiters : Router L :=
  { r with
    peerLimiters := fun id => if id ∈ r.peers then r.peerLimiters id else none
    violationCounters := fun id => if id ∈ r.peers then r.violationCounters id else none }

/-- `Close` -/
def close : Router L := r.peers.keys.foldl removePeer r

/-! ## Sending -/

/-- What a call of `SendMessage` finds: the distributed hash table, the certificates that are
presented at an address, the random bytes, the offset of the clock, and whether the message can be
written. -/
structure SendEnv where
  dht : DHT
  network : Text → Option (List Certificate)
  rand : Option Nonce
  localOffset : ℤ
  writes : Bool

/-- The router after a call of `SendMessage`, what the call returns, and what it has written to
which connection. -/
structure SendOutcome (L : Type) where
  router : Router L
  result : Except Text Unit
  written : Option (Conn × Object)

/-- The part of `SendMessage` that finds the peer, and enters it in the table if it is not there. -/
def findPeer (now : ℤ) (recipient : NodeID) (dht : DHT) : Except Text (Router L × PeerConnection) :=
  match r.peers.lookup recipient with
  | some pc => .ok (r, pc)
  | none =>
    match dht.findNode recipient with
    | [] => .error (text "peer not found: " ++ shortName recipient)
    | node :: _ =>
      -- the first node found
      if node.address = [] ∧ node.port = 0 then .error (text "peer has no valid address")
      else
        let pc : PeerConnection := ⟨node, none, false, now⟩
        .ok ({ r with peers := r.peers.insert recipient pc }, pc)

/-- `ensureConnection` -/
def ensureConnection (now : ℤ) (network : Text → Option (List Certificate))
    (pc : PeerConnection) : Except Text (Router L × PeerConnection) :=
  if r.banList.any fun bl => bl.isBanned now pc.node.id then
    .error (text "peer is banned: " ++ shortName pc.node.id)
  else if pc.connected ∧ pc.conn.isSome then .ok (r, pc)
  else
    match r.transport with
    | none => .error (text "transport not configured")
    | some pins =>
      let address := resolveAddress pc.node
      if address = [] then .error (text "cannot resolve peer address")
      else
        match network address with
        | none => .error (text "failed to dial peer " ++ address)
        | some certs =>
          match Identity.dialContext pins pc.node.id (now / 1000000000).toNat certs with
          | .error _ => .error (text "failed to dial peer " ++ address)
          | .ok pin =>
            let pins := match pin with
              | none => pins
              | some hash => Function.update pins pc.node.id.string (some hash)
            .ok ({ r with transport := some pins },
              { pc with
                conn := some ⟨Identity.peerNodeID certs⟩
                connected := true
                lastSeen := now })

/-- The metadata that `SendMessage` sets. -/
def compose (now : ℤ) (recipient : NodeID) (env : SendEnv) (msg : Message) : Except Text Message :=
  let msg := { msg with
    sender := (r.localNode.map Node.id).getD msg.sender
    recipient := recipient
    version := protocolVersion
    timestamp := if msg.timestamp.IsZero then ⟨now, env.localOffset⟩ else msg.timestamp }
  if msg.nonce = zeroNonce then
    match env.rand with
    | none => .error (text "failed to generate nonce")
    | some nonce => .ok { msg with nonce := nonce }
  else .ok msg

/-- The message with its signature, if the router has a key. -/
def signed (msg : Message) : Except Text Message :=
  match r.keyManager with
  | none => .ok msg
  | some km =>
    match msg.signableBytes with
    | none => .error (text "failed to compute signable bytes")
    | some bytes =>
      match km.sign bytes with
      | none => .error (text "failed to sign message")
      | some signature => .ok { msg with signature := signature }

/-- `maxLengthPrefixedSize` -/
def maxLengthPrefixedSize : ℕ := 16 * 1024 * 1024

/-- `sendLengthPrefixed` -/
def sendLengthPrefixed (conn : Option Conn) (o : Object) (writes : Bool) : Except Text Conn :=
  match conn with
  | none => .error (text "connection is nil")
  | some conn =>
    let size := (utf8 (render o)).length
    if maxLengthPrefixedSize < size then
      .error (text "message too large: " ++ decimal size ++ text " bytes")
    else if writes then .ok conn
    else .error (text "write failed")

/-- The entry of a peer in the table. -/
def setPeer (recipient : NodeID) (pc : PeerConnection) : Router L :=
  { r with peers := r.peers.insert recipient pc }

/-- The end of `SendMessage`, over the connection of the peer. -/
def deliver (now : ℤ) (recipient : NodeID) (env : SendEnv) (msg : Message)
    (pc : PeerConnection) : SendOutcome L :=
  match (r.compose now recipient env msg).bind r.signed with
  | .error err => ⟨r, .error err, none⟩
  | .ok msg =>
    match msg.marshal with
    | none => ⟨r, .error (text "failed to serialize message"), none⟩
    | some o =>
      match sendLengthPrefixed pc.conn o env.writes with
      | .error _ =>
        ⟨r.setPeer recipient { pc with connected := false, conn := none },
          .error (text "failed to send message"), none⟩
      | .ok conn => ⟨r.setPeer recipient { pc with lastSeen := now }, .ok (), some (conn, o)⟩

/-- `SendMessage` -/
def sendMessage (now : ℤ) (recipient : NodeID) (msg : Message) (env : SendEnv) : SendOutcome L :=
  match r.findPeer now recipient env.dht with
  | .error err => ⟨r, .error err, none⟩
  | .ok (r, pc) =>
    match r.ensureConnection now env.network pc with
    | .error _ => ⟨r, .error (text "failed to establish connection"), none⟩
    | .ok (r, pc) => (r.setPeer recipient pc).deliver now recipient env msg pc

/-! ### A message that was sent -/

lemma sendLengthPrefixed_eq_ok {conn : Option Conn} {o : Object} {writes : Bool} {c : Conn}
    (h : sendLengthPrefixed conn o writes = .ok c) : c ∈ conn := by
  unfold sendLengthPrefixed at h
  split at h
  · cases h
  dsimp only at h
  split at h
  · cases h
  split at h
  · cases h
    rfl
  · cases h

variable {r : Router L} {now : ℤ} {recipient : NodeID} {env : SendEnv} {msg : Message}

/-- The message that was delivered is composed, signed, and written to the connection. -/
lemma deliver_eq_ok {pc : PeerConnection}
    (h : (r.deliver now recipient env msg pc).result = .ok ()) :
    ∃ composed sent conn, r.compose now recipient env msg = .ok composed ∧
      r.signed composed = .ok sent ∧ conn ∈ pc.conn ∧
      (r.deliver now recipient env msg pc).written = some (conn, Message.toObject sent) := by
  unfold deliver at h ⊢
  split at h
  · cases h
  next sent hsent =>
  split at h
  · cases h
  next o hmarshal =>
  split at h
  · cases h
  next conn hconn =>
  have hobject : o = sent.toObject := by
    unfold Message.marshal at hmarshal
    split at hmarshal
    · exact (Option.some.inj hmarshal).symm
    · cases hmarshal
  cases hcompose : r.compose now recipient env msg with
  | error err =>
    rw [hcompose] at hsent
    cases hsent
  | ok composed =>
    rw [hcompose] at hsent
    exact ⟨composed, sent, conn, rfl, hsent, sendLengthPrefixed_eq_ok hconn, by rw [hobject]⟩

/-- The way of a message that was sent. -/
lemma sendMessage_eq_ok (h : (r.sendMessage now recipient msg env).result = .ok ()) :
    ∃ r₁ pc r₂ pc', r.findPeer now recipient env.dht = .ok (r₁, pc) ∧
      r₁.ensureConnection now env.network pc = .ok (r₂, pc') ∧
      r.sendMessage now recipient msg env =
        (r₂.setPeer recipient pc').deliver now recipient env msg pc' := by
  unfold sendMessage at h ⊢
  split at h
  · cases h
  next r₁ pc hfind =>
  split at h
  · cases h
  next r₂ pc' hensure => exact ⟨r₁, pc, r₂, pc', hfind, hensure, rfl⟩

end Router

end Moltbunker.P2p
