import Moltbunker.P2p.Router.Peers

/-!
# Messages and their addressees

`SendMessage` looks for the addressee in the table of peers, and asks the distributed hash table if
it is not there. `FindNode` answers with all connected peers if it does not find the node, and
`SendMessage` takes the first of them for the addressee: it enters that node in the table under the
key of the other.

A dial checks the certificate against the identity of the node that it was given, so that a
connection is always one with the node of its entry (`Authentic`). It is one with the addressee if
the entry is for the addressee (`Keyed`).

* `authentic_next` — what the certificates guarantee along every run;
* `keyed_next_iff` — one action keeps the table keyed exactly if it enters no other node;
* `addressed_of_keyed` — what becomes of a message then;
* `World.addressed_iff` — the runs along which messages reach only their addressees.
-/

namespace Moltbunker.P2p

open Lib
open Identity (NodeID Certificate)

namespace Router

variable {L : Type} (lim : RateLimiter L)

/-- Every entry of the table is for the node that it is found under. -/
def Keyed (r : Router L) : Prop :=
  ∀ id pc, r.peers.lookup id = some pc → pc.node.id = id

/-- Every connection is one with the node of its entry. -/
def Authentic (r : Router L) : Prop :=
  ∀ id pc, r.peers.lookup id = some pc → ∀ c ∈ pc.conn, c.peer = pc.node.id

/-- Neither the table nor the hash table has the node. -/
def Unknown (r : Router L) (recipient : NodeID) (dht : DHT) : Prop :=
  r.peers.lookup recipient = none ∧ ∀ node ∈ dht.findNode recipient, node.id ≠ recipient

/-- The message was written to a connection with the addressee. -/
def ReachesAddressee (recipient : NodeID) (msg : Message) (out : SendOutcome L) : Prop :=
  ∃ conn sent, out.written = some (conn, Message.toObject sent) ∧ conn.peer = recipient ∧
    sent.type = msg.type ∧ sent.payload = msg.payload ∧ sent.recipient = recipient

/-- A message that was sent has reached its addressee, and one to an unknown node is not sent. -/
def Addressed (r : Router L) (now : ℤ) : Action → Prop
  | .sendMessage recipient msg env =>
    let out := r.sendMessage now recipient msg env
    (out.result = .ok () → ReachesAddressee recipient msg out) ∧
      (r.Unknown recipient env.dht → out.result ≠ .ok ())
  | _ => True

/-- The action enters a node under the key of another. -/
def EntersOther (r : Router L) : Action → Prop
  | .sendMessage recipient _ env => ∃ node ∈ r.entering recipient env.dht, node.id ≠ recipient
  | _ => False

instance (r : Router L) : DecidablePred r.EntersOther
  | .sendMessage recipient _ env =>
    inferInstanceAs (Decidable (∃ node ∈ r.entering recipient env.dht, node.id ≠ recipient))
  | .addPeer .. | .removePeer .. | .handleMessage .. | .cleanupIdleConnections ..
  | .cleanupStaleConnections .. | .cleanupStaleLimiters .. | .refreshPeerLimiter .. | .ban ..
  | .unban .. | .cleanBans .. | .recordEvent .. | .decayScores .. | .registerPeerWallet ..
  | .invalidateWallet .. | .setPaymentService .. | .cleanNonces .. | .close .. => .isFalse id

/-! ## Entries -/

variable {P : NodeID → PeerConnection → Prop} {r r' : Router L} {recipient : NodeID} {now : ℤ}
  {env : SendEnv} {msg : Message} {sent : Message}

/-- What holds of every entry holds after a peer is entered for which it holds. -/
lemma forall_lookup_setPeer {id : NodeID} {pc : PeerConnection}
    (h : ∀ id pc, r.peers.lookup id = some pc → P id pc) (hpc : P id pc) :
    ∀ id' pc', (r.setPeer id pc).peers.lookup id' = some pc' → P id' pc' := by
  intro id' pc' hlookup
  have hinsert : (r.peers.insert id pc).lookup id' = some pc' := hlookup
  by_cases heq : id' = id
  · subst heq
    rw [AList.lookup_insert, Option.some.injEq] at hinsert
    exact hinsert ▸ hpc
  · rw [AList.lookup_insert_ne heq] at hinsert
    exact h id' pc' hinsert

lemma forall_lookup_removePeer (h : ∀ id pc, r.peers.lookup id = some pc → P id pc)
    (id : NodeID) : ∀ id' pc', (r.removePeer id).peers.lookup id' = some pc' → P id' pc' := by
  intro id' pc' hlookup
  apply h id' pc'
  unfold removePeer at hlookup
  split at hlookup
  · exact hlookup
  · have herase : (r.peers.erase id).lookup id' = some pc' := hlookup
    by_cases heq : id' = id
    · rw [heq, AList.lookup_erase] at herase
      cases herase
    · rwa [AList.lookup_erase_ne heq] at herase

/-- What holds of every entry holds after a change of the table, if it holds of the entries that
`AddPeer` makes and is kept when a peer is touched. -/
lemma forall_lookup_edit (hnew : ∀ now node, P node.id (newEntry now node))
    (htouch : ∀ id pc pc', P id pc → pc'.node = pc.node →
      (∀ c ∈ pc'.conn, c ∈ pc.conn ∨ c.peer = pc.node.id) → P id pc') (hedit : Edit r r')
    (h : ∀ id pc, r.peers.lookup id = some pc → P id pc) :
    ∀ id pc, r'.peers.lookup id = some pc → P id pc := by
  cases hedit with
  | touch ht =>
    cases ht with
    | keep hsame =>
      rw [hsame.peers]
      exact h
    | entry hpc hnode hconn =>
      exact forall_lookup_setPeer h (htouch _ _ _ (h _ _ hpc) hnode hconn)
  | drop id => exact forall_lookup_removePeer h id
  | add now node _ _ => exact forall_lookup_setPeer h (hnew now node)
  | exchange now node _ _ =>
    exact forall_lookup_setPeer (forall_lookup_removePeer h _) (hnew now node)

lemma keyed_edits (h : Edits r r') (hr : Keyed r) : Keyed r' := by
  induction h with
  | refl => exact hr
  | tail _ hedit ih =>
    refine forall_lookup_edit (fun _ _ => rfl) ?_ hedit ih
    intro id pc pc' hid hnode _
    rw [hnode, hid]

lemma authentic_edits (h : Edits r r') (hr : Authentic r) : Authentic r' := by
  induction h with
  | refl => exact hr
  | tail _ hedit ih =>
    refine forall_lookup_edit (fun _ _ c hc => by cases hc) ?_ hedit ih
    intro id pc pc' hpc hnode hconn c hc
    rw [hnode]
    rcases hconn c hc with hold | hpeer
    · exact hpc c hold
    · exact hpeer

/-- A node that is entered has no connection yet. -/
lemma authentic_entered (h : Authentic r) (now : ℤ) (recipient : NodeID) (dht : DHT) :
    Authentic (r.entered now recipient dht) := by
  cases hentering : r.entering recipient dht with
  | none => rwa [entered_of_none hentering]
  | some node =>
    rw [entered_of_some hentering]
    exact forall_lookup_setPeer h fun c hc => by cases hc

/-- **Connections are with the nodes of their entries**, whatever the router does. -/
theorem authentic_next (h : Authentic r) (a : Action) : Authentic (r.next lim now a) := by
  refine authentic_edits (edits_next lim a) ?_
  cases a with
  | sendMessage recipient msg env => exact authentic_entered h now recipient env.dht
  | _ => exact h

lemma keyed_entered_iff (hr : Keyed r) {dht : DHT} {node : Node}
    (h : r.entering recipient dht = some node) :
    Keyed (r.entered now recipient dht) ↔ node.id = recipient := by
  rw [entered_of_some h]
  constructor
  · intro hkeyed
    exact hkeyed recipient (newEntry now node) (AList.lookup_insert _)
  · intro hid
    exact forall_lookup_setPeer hr hid

/-- A touch leaves every entry with its node. -/
lemma Touch.keyed_of (h : Touch r r') (hr' : Keyed r') : Keyed r := by
  cases h with
  | keep hsame =>
    unfold Keyed at hr' ⊢
    rwa [hsame.peers] at hr'
  | @entry id pc pc' hpc hnode _ =>
    intro id₁ pc₁ hpc₁
    by_cases heq : id₁ = id
    · subst heq
      rw [hpc, Option.some.injEq] at hpc₁
      rw [← hpc₁, ← hnode]
      exact hr' id₁ pc' (AList.lookup_insert _)
    · apply hr' id₁ pc₁
      show (r.peers.insert id pc').lookup id₁ = some pc₁
      rw [AList.lookup_insert_ne heq]
      exact hpc₁

lemma Touches.keyed_of (h : Touches r r') (hr' : Keyed r') : Keyed r := by
  induction h with
  | refl => exact hr'
  | tail _ htouch ih => exact ih (htouch.keyed_of hr')

/-- **One action keeps the table keyed exactly if it enters no other node.** -/
theorem keyed_next_iff (hr : Keyed r) (a : Action) :
    Keyed (r.next lim now a) ↔ ¬ r.EntersOther a := by
  cases a with
  | sendMessage recipient msg env =>
    have htouches := touches_sendMessage r now recipient msg env
    have hiff : Keyed (r.sendMessage now recipient msg env).router ↔
        Keyed (r.entered now recipient env.dht) :=
      ⟨htouches.keyed_of, keyed_edits htouches.edits⟩
    refine hiff.trans ?_
    cases hentering : r.entering recipient env.dht with
    | none =>
      rw [entered_of_none hentering]
      simp [EntersOther, hentering, hr]
    | some node =>
      rw [keyed_entered_iff hr hentering]
      simp [EntersOther, hentering]
  | _ =>
    exact iff_of_true (keyed_edits (edits_next lim _) hr) id

/-! ## Messages -/

lemma compose_eq_ok (h : r.compose now recipient env msg = .ok sent) :
    sent.type = msg.type ∧ sent.payload = msg.payload ∧ sent.recipient = recipient := by
  unfold compose at h
  dsimp only at h
  split at h
  · split at h
    · cases h
    · cases h
      exact ⟨rfl, rfl, rfl⟩
  · cases h
    exact ⟨rfl, rfl, rfl⟩

lemma signed_eq_ok (h : r.signed msg = .ok sent) :
    sent.type = msg.type ∧ sent.payload = msg.payload ∧ sent.recipient = msg.recipient := by
  unfold signed at h
  split at h
  · cases h
    exact ⟨rfl, rfl, rfl⟩
  split at h
  · cases h
  split at h
  · cases h
  · cases h
    exact ⟨rfl, rfl, rfl⟩

/-- **Messages reach the node of the entry**, which is the addressee in a table that is keyed. -/
theorem reachesAddressee (hauth : Authentic r) (hkeyed : Keyed (r.entered now recipient env.dht))
    (h : (r.sendMessage now recipient msg env).result = .ok ()) :
    ReachesAddressee recipient msg (r.sendMessage now recipient msg env) := by
  have hentered := authentic_entered hauth now recipient env.dht
  obtain ⟨r₁, pc, r₂, pc', hfind, hensure, hout⟩ := sendMessage_eq_ok h
  obtain ⟨hr₁, hpc⟩ := findPeer_eq_ok hfind
  rw [← hr₁] at hkeyed hentered
  obtain ⟨-, -, -, hconn⟩ := ensureConnection_eq_ok hensure
  rw [hout] at h ⊢
  obtain ⟨composed, sent, conn, hcompose, hsigned, hmem, hwritten⟩ := deliver_eq_ok h
  obtain ⟨htype, hpayload, hrecipient⟩ := compose_eq_ok hcompose
  obtain ⟨htype', hpayload', hrecipient'⟩ := signed_eq_ok hsigned
  refine ⟨conn, sent, hwritten, ?_, htype'.trans htype, hpayload'.trans hpayload,
    hrecipient'.trans hrecipient⟩
  rw [← hkeyed recipient pc hpc]
  rcases hconn conn hmem with hold | hpeer
  · exact hentered recipient pc hpc conn hold
  · exact hpeer

/-- A message to an unknown node enters another, or is not sent. -/
lemma not_sent_of_unknown (hunknown : r.Unknown recipient env.dht)
    (h : ¬ r.EntersOther (.sendMessage recipient msg env)) :
    (r.sendMessage now recipient msg env).result ≠ .ok () := by
  obtain ⟨hfree, hothers⟩ := hunknown
  intro hok
  unfold sendMessage at hok
  split at hok
  · cases hok
  next r₁ pc hfind =>
  unfold findPeer at hfind
  rw [hfree] at hfind
  dsimp only at hfind
  split at hfind
  · cases hfind
  next node rest hfound =>
  split at hfind
  · cases hfind
  next haddress =>
  apply h
  have hentering : r.entering recipient env.dht = some node := by
    unfold entering
    rw [hfree, hfound]
    exact if_neg haddress
  refine ⟨node, hentering, hothers node ?_⟩
  rw [hfound]
  exact List.mem_cons_self

/-- What becomes of a message if the table is keyed and no other node is entered. -/
lemma addressed_of_keyed (hauth : Authentic r) (hkeyed : Keyed r) {a : Action}
    (h : ¬ r.EntersOther a) : r.Addressed now a := by
  cases a with
  | sendMessage recipient msg env =>
    have hentered : Keyed (r.entered now recipient env.dht) := by
      cases hentering : r.entering recipient env.dht with
      | none => rwa [entered_of_none hentering]
      | some node =>
        rw [keyed_entered_iff hkeyed hentering]
        by_contra hne
        exact h ⟨node, hentering, hne⟩
    exact ⟨reachesAddressee hauth hentered, fun hunknown => not_sent_of_unknown hunknown h⟩
  | _ => trivial

end Router

open Router

/-- **Messages reach only their addressees.** Along a run from a router without peers, every entry
of the table is for the node that it is found under, every message that is sent is written to a
connection with its addressee, and no message is sent to an unknown node, exactly if no message
enters a node under the key of another. -/
theorem World.addressed_iff {L : Type} (lim : RateLimiter L) {w : World L}
    (hw : w.router.peers = ∅) {l : List (Event × World L)} (hl : Path (World.Step lim) w l) :
    StatesMeet (fun w => Keyed w.router) w l ∧
        StepsMeet (fun w e => w.router.Addressed e.1 e.2) w l ↔
      StepsMeet (fun w e => ¬ w.router.EntersOther e.2) w l := by
  have hempty : ∀ id, w.router.peers.lookup id = none := by
    intro id
    rw [hw]
    rfl
  have hkeyed : Keyed w.router := fun id pc hpc => absurd hpc (by rw [hempty]; simp)
  have hauth : Authentic w.router := fun id pc hpc => absurd hpc (by rw [hempty]; simp)
  have hauths : ∀ (w : World L) (e : Event) (w' : World L), Authentic w.router →
      World.Step lim w e w' → Authentic w'.router := by
    rintro w e w' h ⟨-, -, rfl⟩
    exact authentic_next lim h e.2
  have hstep : ∀ (w : World L) (e : Event) (w' : World L), Authentic w.router → Keyed w.router →
      World.Step lim w e w' → (Keyed w'.router ↔ ¬ w.router.EntersOther e.2) := by
    rintro w e w' - h ⟨-, -, rfl⟩
    exact keyed_next_iff lim h e.2
  have hiff := hl.statesMeet_iff_stepsMeet (I := fun w => Authentic w.router)
    (P := fun w => Keyed w.router) hauths hstep hauth hkeyed
  constructor
  · rintro ⟨hstates, -⟩
    exact hiff.mp hstates
  · intro hsteps
    refine ⟨hiff.mpr hsteps, ?_⟩
    have hboth : StatesMeet (fun w => Authentic w.router ∧ Keyed w.router) w l := by
      refine hl.invariant_of_steps (G := fun w e => ¬ w.router.EntersOther e.2) ?_
        ⟨hauth, hkeyed⟩ hsteps
      rintro w e w' ⟨ha, hk⟩ hother hs
      exact ⟨hauths w e w' ha hs, (hstep w e w' ha hk hs).mpr hother⟩
    exact hl.stepsMeet (fun w e _ h hother _ => addressed_of_keyed h.1 h.2 hother) hboth hsteps

/-! ## A message to a node that nobody knows -/

/-- The identity that `libp2p` gives to a peer with an Ed25519 key: the key, in its encoding, as its
own hash. -/
def strangerPeerID : PeerID := [0x00, 0x24, 0x08, 0x01, 0x12, 0x20] ++ List.replicate 32 7

/-- A hash table that knows nothing and is connected to one peer. -/
def strangerTable : DHT where
  peers _ := none
  peers_id := id_of_mem_none
  host := ⟨fun _ => [text "/ip4/9.9.9.9/tcp/9000"], [strangerPeerID], fun _ => text "Europe"⟩
  decode _ := none
  findPeer _ := none

/-- A message to a node that is not in the table and not in the hash table. -/
def sendToUnknown : Action :=
  .sendMessage farNode.id emptyMessage ⟨strangerTable, fun _ => none, none, 0, true⟩

/-- The world after the message. -/
def afterUnknown : World TokenBucket := lonelyWorld.next tokenBucket (1, sendToUnknown)

/-- The node that is in the table afterwards, under the key of the addressee. -/
def strangerNode : Node :=
  ⟨sha256 strangerPeerID, text "/ip4/9.9.9.9/tcp/9000", 9000, text "Europe"⟩

/-- **Another node in the place of the addressee.** The message to an unknown node enters the peer
that happens to be connected under the key of the addressee. -/
theorem stranger_under_key :
    lonelyRouter.peers = ∅ ∧
      Path (World.Step tokenBucket) lonelyWorld [((1, sendToUnknown), afterUnknown)] ∧
      afterUnknown.router.peers.lookup farNode.id = some (newEntry 1 strangerNode) ∧
      strangerNode.id ≠ farNode.id ∧
      ¬ (StatesMeet (fun w => Keyed w.router) lonelyWorld [((1, sendToUnknown), afterUnknown)] ∧
        StepsMeet (fun w e => w.router.Addressed e.1 e.2) lonelyWorld
          [((1, sendToUnknown), afterUnknown)]) := by
  have hentry : afterUnknown.router.peers.lookup farNode.id = some (newEntry 1 strangerNode) := by
    decide +kernel
  have hne : strangerNode.id ≠ farNode.id := by decide +kernel
  refine ⟨rfl, ⟨⟨by decide, trivial, rfl⟩, trivial⟩, hentry, hne, ?_⟩
  rintro ⟨⟨-, hafter⟩, -⟩
  exact hne (hafter farNode.id _ hentry)

/-- The node is added with `AddPeer` before the message is sent to it. -/
theorem addressed_iff_known :
    let l := follow (World.next tokenBucket) lonelyWorld
      [(1, .addPeer [] farNode), (2, sendToUnknown)]
    StatesMeet (fun w => Keyed w.router) lonelyWorld l ∧
      StepsMeet (fun w e => w.router.Addressed e.1 e.2) lonelyWorld l := by
  refine (World.addressed_iff tokenBucket rfl ?_).mpr (by decide +kernel)
  exact ⟨⟨by decide, List.Perm.refl _, rfl⟩, ⟨by decide, trivial, rfl⟩, trivial⟩

end Moltbunker.P2p
