import Moltbunker.Lib.Path
import Moltbunker.P2p.Router.Inbound

/-!
# Runs of the router

What the router is asked to do, and at which time: `Action` has one constructor for each method of
the router and of its components that changes something. A `World` is a router and the time; a
`Step` is an action at a time that is not before the last one.

What the actions do to the table of peers is said once:

* `Touch`, `Edit` — one change of the table: a peer is touched, dropped, added, or exchanged for
  another;
* `entering` — the node that a message to an unknown peer enters, past `AddPeer`;
* `edits_next` — every action is a sequence of such changes, after that node has entered;
* `touches_sendMessage` — a message only touches peers, after that node has entered.
-/

namespace Moltbunker.P2p

open Lib
open Identity (NodeID)

variable {L : Type} (lim : RateLimiter L)

/-- What the router is asked to do. A broadcast is a sequence of messages. -/
inductive Action where
  | addPeer (order : List NodeID) (node : Node)
  | removePeer (nodeID : NodeID)
  | sendMessage (recipient : NodeID) (msg : Message) (env : Router.SendEnv)
  | handleMessage (chain : Chain) (msg : Message) (sender : Option Node)
  | cleanupIdleConnections
  | cleanupStaleConnections (maxAge : Duration)
  | cleanupStaleLimiters
  | refreshPeerLimiter (chain : Chain) (peerID : NodeID)
  | ban (peerID : NodeID) (reason : Text) (duration : Duration)
  | unban (peerID : NodeID)
  | cleanBans
  | recordEvent (peerID : NodeID) (event : PeerEvent)
  | decayScores
  | registerPeerWallet (nodeID : NodeID) (wallet : Wallet)
  | invalidateWallet (wallet : Wallet)
  | setPaymentService
  | cleanNonces
  | close

namespace Router

/-- The router after an action. -/
def next (r : Router L) (now : ℤ) : Action → Router L
  | .addPeer order node => (r.addPeer now order node).1
  | .removePeer nodeID => r.removePeer nodeID
  | .sendMessage recipient msg env => (r.sendMessage now recipient msg env).router
  | .handleMessage chain msg sender => (handleMessage lim r now chain msg sender).1
  | .cleanupIdleConnections => r.cleanupIdleConnections now
  | .cleanupStaleConnections maxAge => r.cleanupStaleConnections now maxAge
  | .cleanupStaleLimiters => r.cleanupStaleLimiters
  | .refreshPeerLimiter chain peerID => refreshPeerLimiter lim r now chain peerID
  | .ban peerID reason duration => r.ban now peerID reason duration
  | .unban peerID => { r with banList := r.banList.map fun bl => bl.unban peerID }
  | .cleanBans => { r with banList := r.banList.map fun bl => bl.cleanExpired now }
  | .recordEvent peerID event => r.recordEvent now peerID event
  | .decayScores => { r with peerScorer := r.peerScorer.map fun ps => ps.decayScores }
  | .registerPeerWallet nodeID wallet =>
    { r with stakeVerifier := r.stakeVerifier.map fun sv => sv.registerPeerWallet nodeID wallet }
  | .invalidateWallet wallet =>
    { r with stakeVerifier := r.stakeVerifier.map fun sv => sv.invalidateWallet wallet }
  | .setPaymentService =>
    { r with stakeVerifier := r.stakeVerifier.map fun sv => { sv with paymentService := true } }
  | .cleanNonces => { r with nonceTracker := r.nonceTracker.map fun nt => nt.cleanExpired now }
  | .close => r.close

/-- The order in which an action goes over the table is an order of its keys. -/
def Ordered (r : Router L) : Action → Prop
  | .addPeer order _ => order.Perm r.peers.keys
  | _ => True

end Router

/-- A router and the time. -/
structure World (L : Type) where
  router : Router L
  now : ℤ

/-- An action and its time. -/
abbrev Event := ℤ × Action

namespace World

/-- The world after an action. -/
def next (w : World L) (e : Event) : World L := ⟨w.router.next lim e.1 e.2, e.1⟩

/-- The action is taken at a time that is not before the last one. -/
def Step (w : World L) (e : Event) (w' : World L) : Prop :=
  w.now ≤ e.1 ∧ w.router.Ordered e.2 ∧ w' = w.next lim e

/-- Actions that are given in the order of their times are a run, if `AddPeer` is not among them.
Each of them meets what all of them meet. -/
lemma follow_path {C : Event → Prop} {w : World L} {events : List Event}
    (htimes : (w.now :: events.map Prod.fst).IsChain (· ≤ ·)) (hC : ∀ e ∈ events, C e)
    (hordered : ∀ e ∈ events, ∀ order node, e.2 ≠ .addPeer order node) :
    Path (fun w e w' => Step lim w e w' ∧ C e) w (follow (next lim) w events) := by
  induction events generalizing w with
  | nil => trivial
  | cons e events ih =>
    rw [List.map_cons, List.isChain_cons_cons] at htimes
    refine ⟨⟨⟨htimes.1, ?_, rfl⟩, hC e List.mem_cons_self⟩, ih htimes.2 ?_ ?_⟩
    · have hno := hordered e List.mem_cons_self
      obtain ⟨now, a⟩ := e
      cases a with
      | addPeer order node => exact absurd rfl (hno order node)
      | _ => trivial
    · exact fun e' he' => hC e' (List.mem_cons_of_mem e he')
    · exact fun e' he' => hordered e' (List.mem_cons_of_mem e he')

end World

namespace Router

/-! ## What an action does to the table -/

/-- The table, its limit and the enforcer are the same. -/
structure SameTable (r r' : Router L) : Prop where
  peers : r'.peers = r.peers
  maxPeers : r'.maxPeers = r.maxPeers
  diversityEnforcer : r'.diversityEnforcer = r.diversityEnforcer

lemma SameTable.refl (r : Router L) : SameTable r r := ⟨rfl, rfl, rfl⟩

variable {r r' : Router L} {recipient : NodeID} {dht : DHT} {now : ℤ} {pc : PeerConnection}

lemma SameTable.trans {r'' : Router L} (h : SameTable r r') (h' : SameTable r' r'') :
    SameTable r r'' :=
  ⟨h'.peers.trans h.peers, h'.maxPeers.trans h.maxPeers,
    h'.diversityEnforcer.trans h.diversityEnforcer⟩

/-- A change that leaves the nodes of the table as they are. -/
inductive Touch : Router L → Router L → Prop
  /-- something else changes -/
  | keep {r r' : Router L} (h : SameTable r r') : Touch r r'
  /-- a peer is seen, or its connection changes: to one with the node of its entry, if any -/
  | entry {r : Router L} {id : NodeID} {pc pc' : PeerConnection}
      (hpc : r.peers.lookup id = some pc) (hnode : pc'.node = pc.node)
      (hconn : ∀ c ∈ pc'.conn, c ∈ pc.conn ∨ c.peer = pc.node.id) : Touch r (r.setPeer id pc')

/-- One change of the table. -/
inductive Edit : Router L → Router L → Prop
  | touch {r r' : Router L} (h : Touch r r') : Edit r r'
  /-- a peer goes -/
  | drop {r : Router L} (id : NodeID) : Edit r (r.removePeer id)
  /-- a peer comes, and there is room for it -/
  | add {r : Router L} (now : ℤ) (node : Node) (hfree : r.peers.lookup node.id = none)
      (hroom : tableSize r.peers < r.maxPeers) : Edit r (r.insertPeer now node)
  /-- a peer comes in the place of another -/
  | exchange {r : Router L} {id : NodeID} {pc : PeerConnection} (now : ℤ) (node : Node)
      (hpc : r.peers.lookup id = some pc) (hfree : r.peers.lookup node.id = none) :
      Edit r ((r.removePeer id).insertPeer now node)

/-- A sequence of changes that leave the nodes as they are. -/
abbrev Touches : Router L → Router L → Prop := Relation.ReflTransGen Touch

/-- A sequence of changes. -/
abbrev Edits : Router L → Router L → Prop := Relation.ReflTransGen Edit

lemma Touches.keep (h : SameTable r r') : Touches r r' :=
  .single (.keep h)

lemma Touches.edits (h : Touches r r') : Edits r r' := by
  induction h with
  | refl => exact .refl
  | tail _ htouch ih => exact ih.tail (.touch htouch)

lemma Edits.keep (h : SameTable r r') : Edits r r' := (Touches.keep h).edits

/-- The loops over the table take one edit for each peer, or none. -/
lemma edits_foldl {f : Router L → NodeID → Router L} (h : ∀ r id, Edits r (f r id))
    (ids : List NodeID) (r : Router L) : Edits r (ids.foldl f r) := by
  induction ids generalizing r with
  | nil => exact .refl
  | cons id ids ih => exact (h r id).trans (ih (f r id))

/-! ### Adding and removing -/

lemma oldestIdle_mem {peers : Table NodeID PeerConnection} {order : List NodeID}
    {oldest : Option (NodeID × ℤ)} {found : NodeID × ℤ}
    (hold : ∀ o ∈ oldest, ∃ pc, peers.lookup o.1 = some pc)
    (h : oldestIdle peers order oldest = some found) :
    ∃ pc, peers.lookup found.1 = some pc := by
  induction order generalizing oldest with
  | nil => exact hold found h
  | cons id order ih =>
    unfold oldestIdle at h
    split at h
    · exact ih hold h
    · next pc hpc =>
      split at h
      · exact ih hold h
      · refine ih ?_ h
        rintro o ho
        rw [Option.mem_some_iff] at ho
        exact ⟨pc, ho ▸ hpc⟩

lemma edits_addPeer (order : List NodeID) (node : Node) :
    Edits r (r.addPeer now order node).1 := by
  unfold addPeer
  split
  · next existing hpc =>
    exact .single (.touch (.entry hpc rfl fun c hc => Or.inl hc))
  next hfree =>
  split
  · exact .refl
  split
  · -- the table is full
    unfold evictOldestIdlePeer
    cases hoff : oldestIdle r.peers order none with
    | none => exact .refl
    | some oldest =>
      obtain ⟨pc, hpc⟩ := oldestIdle_mem (fun o ho => absurd ho (by simp)) hoff
      exact .single (.exchange now node hpc hfree)
  · next hroom => exact .single (.add now node hfree (not_le.mp hroom))

lemma edits_cleanupStaleConnections (maxAge : Duration) :
    Edits r (r.cleanupStaleConnections now maxAge) := by
  refine edits_foldl (fun r id => ?_) _ r
  split
  · exact .single (.drop id)
  · exact .refl

lemma edits_cleanupIdleConnections : Edits r (r.cleanupIdleConnections now) := by
  refine edits_foldl (fun r id => ?_) _ r
  unfold closeIdle
  split
  · exact .refl
  · next pc hpc =>
    split
    · exact .single (.touch (.entry hpc rfl fun c hc => by cases hc))
    · exact .refl

/-! ### Sending -/

/-- The node that a message to this peer enters in the table. -/
def entering (r : Router L) (recipient : NodeID) (dht : DHT) : Option Node :=
  match r.peers.lookup recipient, dht.findNode recipient with
  | none, node :: _ => if node.address = [] ∧ node.port = 0 then none else some node
  | _, _ => none

/-- The entry of a node that is entered. -/
def newEntry (now : ℤ) (node : Node) : PeerConnection := ⟨node, none, false, now⟩

/-- The router once the node is entered. -/
def entered (r : Router L) (now : ℤ) (recipient : NodeID) (dht : DHT) : Router L :=
  match r.entering recipient dht with
  | none => r
  | some node => r.setPeer recipient (newEntry now node)

lemma entered_of_none (h : r.entering recipient dht = none) :
    r.entered now recipient dht = r := by
  unfold entered
  rw [h]

lemma entered_of_some {node : Node} (h : r.entering recipient dht = some node) :
    r.entered now recipient dht = r.setPeer recipient (newEntry now node) := by
  unfold entered
  rw [h]

lemma entered_writes : ∃ peers, r.entered now recipient dht = { r with peers := peers } := by
  unfold entered
  split <;> exact ⟨_, rfl⟩

/-- Where `SendMessage` finds the peer. -/
lemma findPeer_eq_ok (h : r.findPeer now recipient dht = .ok (r', pc)) :
    r' = r.entered now recipient dht ∧ r'.peers.lookup recipient = some pc := by
  unfold findPeer at h
  split at h
  · next pc' hpc =>
    cases h
    have hnone : r.entering recipient dht = none := by
      unfold entering
      rw [hpc]
    rw [entered_of_none hnone]
    exact ⟨rfl, hpc⟩
  next hfree =>
  split at h
  · cases h
  next node rest hfound =>
  split at h
  · cases h
  next haddress =>
  cases h
  have hsome : r.entering recipient dht = some node := by
    unfold entering
    rw [hfree, hfound]
    exact if_neg haddress
  rw [entered_of_some hsome]
  exact ⟨rfl, AList.lookup_insert _⟩

/-- A message is not sent if there is nobody to send it to, and nothing is entered then. -/
lemma entered_of_findPeer_error {err : Text} (h : r.findPeer now recipient dht = .error err) :
    r.entered now recipient dht = r := by
  have hnone : r.entering recipient dht = none := by
    unfold findPeer at h
    unfold entering
    split at h
    · cases h
    next hfree =>
    split at h
    · next hnil => rw [hfree, hnil]
    next node rest hfound =>
    split at h
    · next haddress =>
      rw [hfree, hfound]
      exact if_pos haddress
    · cases h
  exact entered_of_none hnone

/-- A dial succeeds only to the node that it was meant for. -/
lemma peerNodeID_of_dialContext {pins : Pins} {nodeID : NodeID} {now : ℕ}
    {certs : List Identity.Certificate} {pin : Option (List UInt8)}
    (h : Identity.dialContext pins nodeID now certs = .ok pin) :
    Identity.peerNodeID certs = nodeID := by
  cases certs with
  | nil =>
    cases h
  | cons cert rest =>
    unfold Identity.dialContext at h
    split at h
    · cases h
    · dsimp only at h
      split at h
      · cases h
      · next heq => exact not_not.mp heq

/-- What `ensureConnection` does. -/
lemma ensureConnection_eq_ok {network : Text → Option (List Identity.Certificate)}
    {pc' : PeerConnection} (h : r.ensureConnection now network pc = .ok (r', pc')) :
    (∃ pins, r' = { r with transport := pins }) ∧ pc'.node = pc.node ∧ pc'.conn.isSome ∧
      ∀ c ∈ pc'.conn, c ∈ pc.conn ∨ c.peer = pc.node.id := by
  unfold ensureConnection at h
  split at h
  · cases h
  split at h
  · next hconn =>
    cases h
    exact ⟨⟨_, rfl⟩, rfl, hconn.2, fun c hc => Or.inl hc⟩
  split at h
  · cases h
  dsimp only at h
  split at h
  · cases h
  split at h
  · cases h
  next certs hcerts =>
  split at h
  · cases h
  next pin hdial =>
  cases h
  refine ⟨⟨_, rfl⟩, rfl, rfl, ?_⟩
  intro c hc
  rw [Option.mem_some_iff] at hc
  exact Or.inr (hc ▸ peerNodeID_of_dialContext hdial)

lemma touches_deliver (hpc : r.peers.lookup recipient = some pc) {env : SendEnv}
    {msg : Message} : Touches r (r.deliver now recipient env msg pc).router := by
  unfold deliver
  split
  · exact .refl
  split
  · exact .refl
  split
  · exact .single (.entry hpc rfl fun c hc => by cases hc)
  · exact .single (.entry hpc rfl fun c hc => Or.inl hc)

lemma touches_sendMessage (r : Router L) (now : ℤ) (recipient : NodeID) (msg : Message)
    (env : SendEnv) :
    Touches (r.entered now recipient env.dht) (r.sendMessage now recipient msg env).router := by
  unfold sendMessage
  split
  · next err hfind =>
    rw [entered_of_findPeer_error hfind]
  next r₁ pc hfind =>
  obtain ⟨hr₁, hpc⟩ := findPeer_eq_ok hfind
  rw [← hr₁]
  split
  · exact .refl
  next r₂ pc' hensure =>
  obtain ⟨⟨pins, rfl⟩, hnode, -, hconn⟩ := ensureConnection_eq_ok hensure
  calc Touches r₁ { r₁ with transport := pins } := Touches.keep ⟨rfl, rfl, rfl⟩
    Touches _ (Router.setPeer _ recipient pc') :=
      .single (.entry hpc hnode hconn)
    Touches _ _ := touches_deliver (AList.lookup_insert _)

/-! ### Receiving -/

lemma sameTable_lookupTier (r : Router L) (now : ℤ) (chain : Chain) (peerID : NodeID) :
    SameTable r (r.lookupTier now chain peerID).1 := by
  unfold lookupTier
  split <;> exact ⟨rfl, rfl, rfl⟩

lemma sameTable_writes (chain : Chain) (id : NodeID) :
    Writes (SameTable (L := L)) now chain id where
  limiters _ _ := ⟨rfl, rfl, rfl⟩
  counters _ _ := ⟨rfl, rfl, rfl⟩
  scores _ _ _ _ := ⟨rfl, rfl, rfl⟩
  ban _ _ _ := ⟨rfl, rfl, rfl⟩
  tier r := sameTable_lookupTier r now chain id
  staked _ _ _ := ⟨rfl, rfl, rfl⟩

lemma sameTable_refreshPeerLimiter (chain : Chain) (peerID : NodeID) :
    SameTable r (refreshPeerLimiter lim r now chain peerID) := by
  have htier := sameTable_lookupTier r now chain peerID
  unfold refreshPeerLimiter
  dsimp only
  split
  · exact SameTable.refl r
  · exact ⟨htier.peers, htier.maxPeers, htier.diversityEnforcer⟩

lemma sameTable_recordEvent {peerID : NodeID} (event : PeerEvent) :
    SameTable r (r.recordEvent now peerID event) :=
  (sameTable_writes (fun _ => ⟨none, none⟩) peerID).recordEvent SameTable.refl
    SameTable.trans r event

/-- A message from a peer does not change the table. -/
lemma sameTable_handleMessage {chain : Chain} {msg : Message}
    (sender : Option Node) : SameTable r (handleMessage lim r now chain msg sender).1 :=
  writes_handleMessage SameTable.refl SameTable.trans
    (fun node _ => sameTable_writes chain node.id) (fun _ _ _ _ _ => ⟨rfl, rfl, rfl⟩) lim r

/-! ### All actions -/

/-- The router once the node that the action enters, if it enters one, is in the table. -/
def enteredBy (r : Router L) (now : ℤ) : Action → Router L
  | .sendMessage recipient _ env => r.entered now recipient env.dht
  | _ => r

/-- **What an action does to the table.** -/
theorem edits_next (a : Action) : Edits (r.enteredBy now a) (r.next lim now a) := by
  cases a with
  | addPeer order node => exact edits_addPeer order node
  | removePeer nodeID => exact .single (.drop nodeID)
  | sendMessage recipient msg env => exact (touches_sendMessage r now recipient msg env).edits
  | handleMessage chain msg sender =>
    exact Edits.keep (sameTable_handleMessage lim sender)
  | cleanupIdleConnections => exact edits_cleanupIdleConnections
  | cleanupStaleConnections maxAge => exact edits_cleanupStaleConnections maxAge
  | refreshPeerLimiter chain peerID =>
    exact Edits.keep (sameTable_refreshPeerLimiter lim chain peerID)
  | recordEvent peerID event =>
    exact Edits.keep (sameTable_recordEvent event)
  | close => exact edits_foldl (fun _ id => .single (.drop id)) _ r
  | _ => exact Edits.keep ⟨rfl, rfl, rfl⟩

end Router

end Moltbunker.P2p
