import Moltbunker.P2p.Router.Run

/-!
# The table of peers and the counters of the enforcer

The router counts its peers twice: in its table, and in the diversity enforcer, which has a total
and counters by region and by network. `AddPeer`, `RemovePeer`, the eviction and the cleanups change
both. `SendMessage` to a node that is not in the table enters it in the table alone, and does not
ask whether there is room.

* `Agrees` — the table is no larger than its limit and the counters are those of its nodes;
* `agrees_edit`, `Touch.agrees_congr` — what the changes of the table keep;
* `agrees_entered_iff` — what a message to an unknown node breaks;
* `agrees_iff` — the runs along which table and counters agree.
-/

namespace Moltbunker.P2p

open Lib PeerDiversityEnforcer
open Identity (NodeID)

namespace Router

variable {L : Type} (lim : RateLimiter L)

/-- The region that a peer is counted under. -/
def regionOf (pc : PeerConnection) : Option Text := counted pc.node.region

/-- The network that a peer is counted under. -/
def subnetOf (pc : PeerConnection) : Option Text := counted (subnetFromAddress pc.node.address)

/-- The counters of the enforcer are those of the table. -/
structure CountsAgree (pde : PeerDiversityEnforcer) (peers : Table NodeID PeerConnection) :
    Prop where
  total : pde.totalPeers = tableSize peers
  regions : Tallied pde.regionCounts peers regionOf
  subnets : Tallied pde.subnetCounts peers subnetOf

/-- The table is no larger than its limit, and the counters of the enforcer are those of the
table. -/
structure Agrees (r : Router L) : Prop where
  size : tableSize r.peers ≤ r.maxPeers
  counts : ∀ pde ∈ r.diversityEnforcer, CountsAgree pde r.peers

/-! ## Changes of the table -/

namespace CountsAgree

variable {pde : PeerDiversityEnforcer} {peers : Table NodeID PeerConnection} {id : NodeID}
  {pc : PeerConnection}

lemma removePeer (h : CountsAgree pde peers) (hpc : peers.lookup id = some pc) :
    CountsAgree (pde.removePeer pc.node.region (subnetFromAddress pc.node.address))
      (peers.erase id) := by
  constructor
  · have hsize := tableSize_erase hpc
    have htotal := h.total
    unfold PeerDiversityEnforcer.removePeer
    dsimp only
    split <;> omega
  · simp only [PeerDiversityEnforcer.removePeer, decrOf_counted]
    exact h.regions.erase hpc
  · simp only [PeerDiversityEnforcer.removePeer, decrOf_counted]
    exact h.subnets.erase hpc

lemma recordPeer (h : CountsAgree pde peers) (hfree : peers.lookup id = none)
    (pc : PeerConnection) :
    CountsAgree (pde.recordPeer pc.node.region (subnetFromAddress pc.node.address))
      (peers.insert id pc) := by
  constructor
  · rw [tableSize_insert hfree]
    unfold PeerDiversityEnforcer.recordPeer
    rw [h.total]
    rfl
  · simp only [PeerDiversityEnforcer.recordPeer, incrOf_counted]
    exact h.regions.insert hfree pc
  · simp only [PeerDiversityEnforcer.recordPeer, incrOf_counted]
    exact h.subnets.insert hfree pc

/-- A peer is written over by an entry for the same node. -/
lemma touch_iff (hpc : peers.lookup id = some pc) {pc' : PeerConnection}
    (hnode : pc'.node = pc.node) :
    CountsAgree pde (peers.insert id pc') ↔ CountsAgree pde peers := by
  have hregion : regionOf pc' = regionOf pc := by
    unfold regionOf
    rw [hnode]
  have hsubnet : subnetOf pc' = subnetOf pc := by
    unfold subnetOf
    rw [hnode]
  constructor
  · rintro ⟨htotal, hregions, hsubnets⟩
    rw [tableSize_replace hpc] at htotal
    exact ⟨htotal, (Tallied.replace_iff hpc hregion).mp hregions,
      (Tallied.replace_iff hpc hsubnet).mp hsubnets⟩
  · rintro ⟨htotal, hregions, hsubnets⟩
    rw [← tableSize_replace hpc] at htotal
    exact ⟨htotal, hregions.replace hpc hregion, hsubnets.replace hpc hsubnet⟩

end CountsAgree

variable {r r' : Router L} {node : Node}

lemma Agrees.removePeer (h : Agrees r) (id : NodeID) : Agrees (r.removePeer id) := by
  unfold Router.removePeer
  split
  · exact h
  · next pc hpc =>
    constructor
    · have hsize := tableSize_erase hpc
      have hle := h.size
      show (tableSize (r.peers.erase id) : ℤ) ≤ r.maxPeers
      omega
    · intro pde hpde
      obtain ⟨pde₀, hpde₀, rfl⟩ := Option.mem_map.mp hpde
      exact (h.counts pde₀ hpde₀).removePeer hpc

/-- The counters follow a peer that comes; the limit is another matter. -/
lemma counts_insertPeer (h : ∀ pde ∈ r.diversityEnforcer, CountsAgree pde r.peers)
    (hfree : r.peers.lookup node.id = none) {now : ℤ} :
    ∀ pde ∈ (r.insertPeer now node).diversityEnforcer,
      CountsAgree pde (r.insertPeer now node).peers := by
  intro pde hpde
  obtain ⟨pde₀, hpde₀, rfl⟩ := Option.mem_map.mp hpde
  exact (h pde₀ hpde₀).recordPeer hfree ⟨node, none, false, now⟩

lemma maxPeers_removePeer {id : NodeID} : (r.removePeer id).maxPeers = r.maxPeers := by
  unfold removePeer
  split <;> rfl

variable {pc : PeerConnection} {recipient : NodeID} {dht : DHT}

lemma peers_removePeer {id : NodeID} (hpc : r.peers.lookup id = some pc) :
    (r.removePeer id).peers = r.peers.erase id := by
  unfold removePeer
  rw [hpc]

lemma lookup_removePeer_of_none {id id' : NodeID} (h : r.peers.lookup id' = none) :
    (r.removePeer id).peers.lookup id' = none := by
  unfold removePeer
  split
  · exact h
  · show (r.peers.erase id).lookup id' = none
    by_cases heq : id' = id
    · rw [heq]
      exact AList.lookup_erase id r.peers
    · rw [AList.lookup_erase_ne heq]
      exact h

lemma Agrees.exchange (h : Agrees r) {id : NodeID} (hpc : r.peers.lookup id = some pc)
    (hfree : r.peers.lookup node.id = none) (now : ℤ) :
    Agrees ((r.removePeer id).insertPeer now node) := by
  have hfree' : (r.removePeer id).peers.lookup node.id = none := lookup_removePeer_of_none hfree
  refine ⟨?_, counts_insertPeer (h.removePeer id).counts hfree'⟩
  -- one peer less and one more
  have hsize := tableSize_erase hpc
  have hle := h.size
  show (tableSize ((r.removePeer id).peers.insert node.id _) : ℤ) ≤ (r.removePeer id).maxPeers
  rw [tableSize_insert hfree', peers_removePeer hpc, maxPeers_removePeer]
  omega

/-- A touch changes neither the number of the peers nor their nodes. -/
lemma Touch.agrees_congr (h : Touch r r') : Agrees r' ↔ Agrees r := by
  cases h with
  | keep hsame =>
    constructor
    · rintro ⟨hsize, hcounts⟩
      rw [hsame.peers, hsame.maxPeers] at hsize
      rw [hsame.peers, hsame.diversityEnforcer] at hcounts
      exact ⟨hsize, hcounts⟩
    · rintro ⟨hsize, hcounts⟩
      constructor
      · rw [hsame.peers, hsame.maxPeers]
        exact hsize
      · rw [hsame.peers, hsame.diversityEnforcer]
        exact hcounts
  | @entry id pc pc' hpc hnode _ =>
    have hsize : tableSize (r.setPeer id pc').peers = tableSize r.peers := tableSize_replace hpc
    constructor
    · rintro ⟨hle, hcounts⟩
      rw [hsize] at hle
      exact ⟨hle, fun pde hpde => (CountsAgree.touch_iff hpc hnode).mp (hcounts pde hpde)⟩
    · rintro ⟨hle, hcounts⟩
      rw [← hsize] at hle
      exact ⟨hle, fun pde hpde => (CountsAgree.touch_iff hpc hnode).mpr (hcounts pde hpde)⟩

lemma Touches.agrees_congr (h : Touches r r') : Agrees r' ↔ Agrees r := by
  induction h with
  | refl => exact Iff.rfl
  | tail _ htouch ih => exact htouch.agrees_congr.trans ih

/-- **The changes that the enforcer is told of.** -/
theorem agrees_edit (h : Edit r r') (hr : Agrees r) : Agrees r' := by
  cases h with
  | touch htouch => exact htouch.agrees_congr.mpr hr
  | drop id => exact hr.removePeer id
  | add now node hfree hroom =>
    refine ⟨?_, counts_insertPeer hr.counts hfree⟩
    show (tableSize (r.peers.insert node.id _) : ℤ) ≤ r.maxPeers
    rw [tableSize_insert hfree]
    omega
  | exchange now node hpc hfree => exact hr.exchange hpc hfree now

lemma agrees_edits (h : Edits r r') (hr : Agrees r) : Agrees r' := by
  induction h with
  | refl => exact hr
  | tail _ hedit ih => exact agrees_edit hedit ih

/-! ## Messages to unknown nodes -/

/-- The action enters a node in the table without asking the enforcer. -/
def EntersUncounted (r : Router L) : Action → Prop
  | .sendMessage recipient _ env =>
    (r.entering recipient env.dht).isSome ∧
      (r.diversityEnforcer.isSome ∨ r.maxPeers ≤ tableSize r.peers)
  | _ => False

instance (r : Router L) : DecidablePred r.EntersUncounted
  | .sendMessage _ _ _ => inferInstanceAs (Decidable (_ ∧ (_ ∨ _)))
  | .addPeer .. | .removePeer .. | .handleMessage .. | .cleanupIdleConnections ..
  | .cleanupStaleConnections .. | .cleanupStaleLimiters .. | .refreshPeerLimiter .. | .ban ..
  | .unban .. | .cleanBans .. | .recordEvent .. | .decayScores .. | .registerPeerWallet ..
  | .invalidateWallet .. | .setPaymentService .. | .cleanNonces .. | .close .. => .isFalse id

/-- Only a node that is not in the table enters it. -/
lemma lookup_of_entering (h : r.entering recipient dht = some node) :
    r.peers.lookup recipient = none := by
  unfold entering at h
  split at h
  · assumption
  · cases h

/-- **A node that enters past the enforcer.** The table has one peer more than are counted. -/
theorem agrees_entered_iff (hr : Agrees r) {now : ℤ} (h : r.entering recipient dht = some node) :
    Agrees (r.entered now recipient dht) ↔
      r.diversityEnforcer = none ∧ tableSize r.peers < r.maxPeers := by
  have hsize : tableSize (r.setPeer recipient (newEntry now node)).peers = tableSize r.peers + 1 :=
    tableSize_insert (lookup_of_entering h)
  have hmax : (r.setPeer recipient (newEntry now node)).maxPeers = r.maxPeers := rfl
  rw [entered_of_some h]
  constructor
  · rintro ⟨hle, hcounts⟩
    constructor
    · rw [Option.eq_none_iff_forall_not_mem]
      intro pde hpde
      have hold := (hr.counts pde hpde).total
      have hnew := (hcounts pde hpde).total
      omega
    · omega
  · rintro ⟨hnone, hroom⟩
    constructor
    · omega
    · intro pde hpde
      have habsurd : pde ∈ r.diversityEnforcer := hpde
      rw [hnone] at habsurd
      cases habsurd

/-- One action keeps the agreement exactly if it enters nobody past the enforcer. -/
lemma agrees_next_iff (hr : Agrees r) {now : ℤ} (a : Action) :
    Agrees (r.next lim now a) ↔ ¬ r.EntersUncounted a := by
  cases a with
  | sendMessage recipient msg env =>
    refine (touches_sendMessage r now recipient msg env).agrees_congr.trans ?_
    cases hentering : r.entering recipient env.dht with
    | none =>
      rw [entered_of_none hentering]
      simp [EntersUncounted, hentering, hr]
    | some node =>
      rw [agrees_entered_iff hr hentering]
      simp [EntersUncounted, hentering, Option.isSome_iff_ne_none]
  | _ =>
    exact iff_of_true (agrees_edits (edits_next lim _) hr) id

/-! ## Runs -/

/-- Nothing is in the table and nothing is counted. -/
structure Unpeopled (r : Router L) : Prop where
  peers : r.peers = ∅
  counts : ∀ pde ∈ r.diversityEnforcer, ∃ maxRegionShare maxSubnetShare,
    pde = newPeerDiversityEnforcerWithConfig maxRegionShare maxSubnetShare

/-- A router without peers agrees with its enforcer, and has room unless its limit is negative. -/
lemma Unpeopled.agrees_iff_room (h : Unpeopled r) : Agrees r ↔ 0 ≤ r.maxPeers := by
  have hsize : tableSize r.peers = 0 := by
    rw [h.peers]
    rfl
  constructor
  · rintro ⟨hle, -⟩
    omega
  · intro hmax
    refine ⟨by omega, fun pde hpde => ?_⟩
    obtain ⟨maxRegionShare, maxSubnetShare, rfl⟩ := h.counts pde hpde
    rw [h.peers]
    exact ⟨rfl, Tallied.empty regionOf, Tallied.empty subnetOf⟩

end Router

open Router

/-- **Table and counters.** Along a run from a router without peers, the table is within its limit
and the counters of the enforcer are those of the table exactly if the limit is not negative and no
message to an unknown node enters one past the enforcer. -/
theorem World.agrees_iff {L : Type} (lim : RateLimiter L) {w : World L}
    (hw : Unpeopled w.router) {l : List (Event × World L)} (hl : Path (World.Step lim) w l) :
    StatesMeet (fun w => Agrees w.router) w l ↔
      0 ≤ w.router.maxPeers ∧ StepsMeet (fun w e => ¬ w.router.EntersUncounted e.2) w l := by
  have hstep : ∀ (w : World L) (e : Event) (w' : World L), True → Agrees w.router →
      World.Step lim w e w' → (Agrees w'.router ↔ ¬ w.router.EntersUncounted e.2) := by
    rintro w e w' - hagrees ⟨-, -, rfl⟩
    exact agrees_next_iff lim hagrees e.2
  constructor
  · intro hstates
    have hstart : Agrees w.router := hstates.head
    exact ⟨hw.agrees_iff_room.mp hstart, (hl.statesMeet_iff_stepsMeet (I := fun _ => True)
      (fun _ _ _ _ _ => trivial) hstep trivial hstart).mp hstates⟩
  · rintro ⟨hmax, hsteps⟩
    exact (hl.statesMeet_iff_stepsMeet (I := fun _ => True) (fun _ _ _ _ _ => trivial) hstep
      trivial (hw.agrees_iff_room.mpr hmax)).mpr hsteps

/-! ## A message to a node that only the hash table knows -/

/-- A router with an enforcer and no peers. -/
def lonelyRouter : Router TokenBucket :=
  { newRouter TokenBucket none none with diversityEnforcer := some newPeerDiversityEnforcer }

/-- A node at a public address. -/
def farNode : Node := ⟨List.Vector.replicate 32 1, text "8.8.8.8:9000", 9000, []⟩

/-- A hash table that has the node in its cache. -/
def farTable : DHT where
  peers id := if id = farNode.id then some farNode else none
  peers_id id node h := by
    split at h
    · next heq =>
      rw [Option.mem_some_iff] at h
      rw [← h, heq]
    · cases h
  host := ⟨fun _ => [], [], fun _ => []⟩
  decode _ := none
  findPeer _ := none

/-- A message without content. -/
def emptyMessage : Message :=
  ⟨text "ping", List.Vector.replicate 32 0, List.Vector.replicate 32 0, none, ⟨0, 0⟩, zeroNonce, [],
    0⟩

/-- The message is sent to the node; nothing answers at its address. -/
def sendToFar : Action :=
  .sendMessage farNode.id emptyMessage ⟨farTable, fun _ => none, none, 0, true⟩

/-- The world before anything is sent. -/
def lonelyWorld : World TokenBucket := ⟨lonelyRouter, 0⟩

/-- The world after the message. -/
def afterSend : World TokenBucket := lonelyWorld.next tokenBucket (1, sendToFar)

lemma lonelyRouter_unpeopled : Unpeopled lonelyRouter := by
  refine ⟨rfl, fun pde hpde => ⟨0.5, 0.3, ?_⟩⟩
  exact (Option.mem_some_iff.mp hpde).symm

/-- One message to a node that is not in the table, and the table has a peer of which the enforcer
does not know. -/
theorem unknown_recipient_uncounted :
    Unpeopled lonelyRouter ∧ 0 ≤ lonelyRouter.maxPeers ∧
      Path (World.Step tokenBucket) lonelyWorld [((1, sendToFar), afterSend)] ∧
      tableSize afterSend.router.peers = 1 ∧
      afterSend.router.diversityEnforcer.map (·.totalPeers) = some 0 ∧
      ¬ StatesMeet (fun w => Agrees w.router) lonelyWorld [((1, sendToFar), afterSend)] := by
  refine ⟨lonelyRouter_unpeopled, by decide, ⟨⟨by decide, trivial, rfl⟩, trivial⟩,
    by decide +kernel, by decide +kernel, ?_⟩
  rintro ⟨hstart, hafter⟩
  have hkept : Agrees (lonelyRouter.next tokenBucket 1 sendToFar) := hafter
  exact (agrees_next_iff tokenBucket hstart sendToFar).mp hkept (by decide +kernel)

/-- The node is added with `AddPeer` before the message is sent to it. -/
theorem agrees_iff_known :
    StatesMeet (fun w : World TokenBucket => Agrees w.router) lonelyWorld
      (follow (World.next tokenBucket) lonelyWorld
        [(1, .addPeer [] farNode), (2, sendToFar), (3, .removePeer farNode.id)]) := by
  refine (World.agrees_iff tokenBucket lonelyRouter_unpeopled ?_).mpr
    ⟨by decide, by decide +kernel⟩
  exact ⟨⟨by decide, List.Perm.refl _, rfl⟩, ⟨by decide, trivial, rfl⟩, ⟨by decide, trivial, rfl⟩,
    trivial⟩

end Moltbunker.P2p
