import Moltbunker.Identity.NodeID
import Moltbunker.Lib.Net
import Moltbunker.Lib.Path
import Moltbunker.Lib.Tally

/-!
# Peers of one subnet

`internal/p2p/subnet_limiter.go`: the number of peers from one network is limited, and a table of
the peers is kept with a counter for each network. Addresses that are not public do not count.

`Allow` for a peer that comes from another network than before takes the peer off its old counter
and then asks whether there is room in the new one. If there is none, it returns with the peer still
in the table, and the old counter is one too low from then on.

* `countsExact_next_iff` — one call keeps the counters exact iff it is no such move;
* `countsExact_iff` — so does a sequence of calls;
* `two_of_one_subnet` — with a limit of one, two peers of one network.
-/

namespace Moltbunker.P2p

open Lib Text Net Function
open Identity (NodeID)

/-! ## Networks -/

/-- `subnetPrefix`: the first three bytes of an address of version 4, the first six of version 6. -/
def subnetPrefix (ip : IP) : Text :=
  match ip.to4 with
  | some v4 =>
    (text ".").intercalate ((v4.take 3).map fun b => decimal b.toNat) ++ text ".0/24"
  | none =>
    let start : IP := ⟨ip.toList.take 6 ++ List.replicate 10 0, by simp⟩
    start.string6 ++ text "/48"

/-- The private ranges. -/
def privateRanges : List IPNet :=
  [⟨[10, 0, 0, 0], 8⟩, ⟨[172, 16, 0, 0], 12⟩, ⟨[192, 168, 0, 0], 16⟩,
    ⟨0xfc :: List.replicate 15 0, 7⟩, ⟨0xfe :: 0x80 :: List.replicate 14 0, 10⟩]

/-- `isExemptIP` -/
def isExemptIP (ip : IP) : Bool := ip.isLoopback || privateRanges.any fun pr => pr.contains ip

/-- The network for which a peer at this address counts, if it counts. -/
def trackedSubnet (remoteAddr : Text) : Option Text :=
  let host := match splitHostPort remoteAddr with
    | some (host, _) => host
    | none => remoteAddr
  if (text ".onion").isSuffixOf host then none
  else
    match parseIP host with
    | none => none
    | some ip => if isExemptIP ip then none else some (subnetPrefix ip)

/-! ## The limiter -/

/-- `SubnetLimiter` -/
structure SubnetLimiter where
  subnetCounts : Counts Text
  peerSubnets : Table NodeID Text
  maxPerSubnet : ℤ
  maxPerSubnet_pos : 0 < maxPerSubnet

/-- `NewSubnetLimiter` -/
def newSubnetLimiter (maxPerSubnet : ℤ) : SubnetLimiter :=
  if h : maxPerSubnet ≤ 0 then ⟨fun _ => 0, ∅, 3, by decide⟩
  else ⟨fun _ => 0, ∅, maxPerSubnet, not_le.mp h⟩

namespace SubnetLimiter

variable (sl : SubnetLimiter)

/-- The end of `Allow`: the limit is checked and the peer is tracked. -/
def track (nodeID : NodeID) (subnet : Text) : SubnetLimiter × Bool :=
  if sl.maxPerSubnet ≤ sl.subnetCounts subnet then (sl, false)
  else
    ({ sl with
      subnetCounts := sl.subnetCounts.incr subnet
      peerSubnets := sl.peerSubnets.insert nodeID subnet }, true)

/-- `Allow` -/
def allow (remoteAddr : Text) (nodeID : NodeID) : SubnetLimiter × Bool :=
  match trackedSubnet remoteAddr with
  | none => (sl, true)
  | some subnet =>
    match sl.peerSubnets.lookup nodeID with
    | none => sl.track nodeID subnet
    | some existingSubnet =>
      if existingSubnet = subnet then (sl, true)
      else
        -- the old tracking is removed, except from the table
        { sl with subnetCounts := sl.subnetCounts.decr existingSubnet }.track nodeID subnet

/-- `Remove` -/
def remove (nodeID : NodeID) : SubnetLimiter :=
  match sl.peerSubnets.lookup nodeID with
  | none => sl
  | some subnet =>
    { sl with
      peerSubnets := sl.peerSubnets.erase nodeID
      subnetCounts := sl.subnetCounts.decr subnet }

/-- A call of the limiter. -/
inductive Call where
  | allow (remoteAddr : Text) (nodeID : NodeID)
  | remove (nodeID : NodeID)

/-- The limiter after a call. -/
def next : Call → SubnetLimiter
  | .allow remoteAddr nodeID => (sl.allow remoteAddr nodeID).1
  | .remove nodeID => sl.remove nodeID

/-- The counters are exact, and no more peers share a network than the limit allows. -/
structure CountsExact (sl : SubnetLimiter) : Prop where
  /-- a counter is the number of nodes in its network -/
  counts : Tallied sl.subnetCounts sl.peerSubnets some
  bound : ∀ subnet, sl.subnetCounts subnet ≤ sl.maxPerSubnet
  sharing : ∀ subnet (nodes : Finset NodeID),
    (∀ n ∈ nodes, sl.peerSubnets.lookup n = some subnet) → (nodes.card : ℤ) ≤ sl.maxPerSubnet

/-- The call is of a peer that is tracked in another network, from a network that is full. -/
def Call.MovesToFull : Call → Prop
  | .allow remoteAddr nodeID =>
    ∃ subnet ∈ trackedSubnet remoteAddr, ∃ existingSubnet ∈ sl.peerSubnets.lookup nodeID,
      existingSubnet ≠ subnet ∧ sl.maxPerSubnet ≤ sl.subnetCounts subnet
  | .remove _ => False

/-! ## One call -/

variable {sl : SubnetLimiter} {nodeID : NodeID} {subnet existingSubnet : Text}

/-- Exact counters within the limit leave no room for more nodes. -/
lemma countsExact_of_bound (hcounts : Tallied sl.subnetCounts sl.peerSubnets some)
    (hbound : ∀ subnet, sl.subnetCounts subnet ≤ sl.maxPerSubnet) : sl.CountsExact := by
  refine ⟨hcounts, hbound, ?_⟩
  intro subnet nodes hnodes
  have hcard : nodes.card ≤ tally sl.peerSubnets some subnet := by
    apply card_le_tableCount
    intro n hn
    exact ⟨subnet, hnodes n hn, by simp⟩
  have hcount := hcounts subnet
  have hlimit := hbound subnet
  omega

variable {c : Counts Text} {max : ℤ}

lemma incr_le (h : ∀ s, c s ≤ max) (hroom : ¬ max ≤ c subnet) : ∀ s, c.incr subnet s ≤ max := by
  intro s
  unfold Counts.incr
  rw [update_apply]
  have hs := h s
  split <;> omega

lemma decr_le (h : ∀ s, c s ≤ max) (hpos : 0 < max) : ∀ s, c.decr subnet s ≤ max := by
  intro s
  unfold Counts.decr
  rw [update_apply]
  have hs := h s
  have hsubnet := h subnet
  split
  · split <;> omega
  · exact hs

/-- A new peer is tracked, or refused. -/
lemma CountsExact.track (h : sl.CountsExact) (hnew : sl.peerSubnets.lookup nodeID = none) :
    (sl.track nodeID subnet).1.CountsExact := by
  unfold SubnetLimiter.track
  split
  · exact h
  · next hroom =>
    exact countsExact_of_bound (h.counts.insert hnew subnet) (incr_le h.bound hroom)

lemma CountsExact.remove (h : sl.CountsExact) : (sl.remove nodeID).CountsExact := by
  unfold SubnetLimiter.remove
  split
  · exact h
  · next subnet hlookup =>
    exact countsExact_of_bound (h.counts.erase hlookup) (decr_le h.bound sl.maxPerSubnet_pos)

/-- A peer moves to another network, and this goes well iff the other one is not full. -/
lemma CountsExact.move_iff (h : sl.CountsExact)
    (hlookup : sl.peerSubnets.lookup nodeID = some existingSubnet)
    (hne : existingSubnet ≠ subnet) :
    ({ sl with subnetCounts := sl.subnetCounts.decr existingSubnet }.track
      nodeID subnet).1.CountsExact ↔ ¬ sl.maxPerSubnet ≤ sl.subnetCounts subnet := by
  have hsame : sl.subnetCounts.decr existingSubnet subnet = sl.subnetCounts subnet :=
    update_of_ne hne.symm ..
  unfold SubnetLimiter.track
  split
  · next hfull =>
    refine iff_of_false ?_ (not_not.mpr (hsame ▸ hfull))
    intro hexact
    exact h.counts.not_decr hlookup rfl hexact.counts
  · next hroom =>
    refine iff_of_true ?_ (hsame ▸ hroom)
    have hbound : ∀ s, sl.subnetCounts.decr existingSubnet s ≤ sl.maxPerSubnet :=
      decr_le h.bound sl.maxPerSubnet_pos
    exact countsExact_of_bound (h.counts.move hlookup subnet) (incr_le hbound hroom)

/-- **One call.** -/
theorem countsExact_next_iff (h : sl.CountsExact) (c : Call) :
    (sl.next c).CountsExact ↔ ¬ c.MovesToFull sl := by
  cases c with
  | remove nodeID => exact iff_of_true h.remove not_false
  | allow remoteAddr nodeID =>
    simp only [next, allow, Call.MovesToFull]
    cases hsubnet : trackedSubnet remoteAddr with
    | none => simpa using h
    | some subnet =>
      cases hlookup : sl.peerSubnets.lookup nodeID with
      | none => simpa using h.track hlookup
      | some existingSubnet =>
        by_cases heq : existingSubnet = subnet
        · simpa [heq] using h
        · simpa [heq] using h.move_iff hlookup heq

/-! ## Sequences of calls -/

lemma newSubnetLimiter_countsExact (maxPerSubnet : ℤ) :
    (newSubnetLimiter maxPerSubnet).CountsExact := by
  unfold newSubnetLimiter
  split
  · exact countsExact_of_bound (Tallied.empty some) (fun _ => show (0 : ℤ) ≤ 3 by decide)
  · next hpos => exact countsExact_of_bound (Tallied.empty some) (fun _ => le_of_not_ge hpos)

/-- **Exact counters.** Along every sequence of calls the counters are exact and within the limit
iff no peer that is tracked comes from another network that is full. -/
theorem countsExact_iff (maxPerSubnet : ℤ) (calls : List Call) :
    StatesMeet CountsExact (newSubnetLimiter maxPerSubnet)
        (follow next (newSubnetLimiter maxPerSubnet) calls) ↔
      StepsMeet (fun sl c => ¬ c.MovesToFull sl) (newSubnetLimiter maxPerSubnet)
        (follow next (newSubnetLimiter maxPerSubnet) calls) := by
  refine (follow_path _ calls).statesMeet_iff_stepsMeet (I := fun _ => True)
    (fun _ _ _ _ _ => trivial) ?_ trivial (newSubnetLimiter_countsExact maxPerSubnet)
  rintro sl c sl' - hsl rfl
  exact countsExact_next_iff hsl c

/-- A node. -/
def someNode (b : UInt8) : NodeID := List.Vector.replicate 32 b

/-- With a limit of one: two nodes in two networks, the first of them comes from the network of the
second and is refused, and a third node comes from the network of the first. -/
def moveAndReplace : List Call :=
  [.allow (text "8.8.8.8:9000") (someNode 1), .allow (text "9.9.9.9:9000") (someNode 2),
    .allow (text "9.9.9.10:9000") (someNode 1), .allow (text "8.8.8.9:9000") (someNode 3)]

/-- The limiter after these calls. -/
def afterReplace : SubnetLimiter :=
  endState (newSubnetLimiter 1) (follow next (newSubnetLimiter 1) moveAndReplace)

/-- **Two nodes of one network**, and a counter that says that there is one. -/
theorem two_of_one_subnet :
    afterReplace.maxPerSubnet = 1 ∧ afterReplace.subnetCounts (text "8.8.8.0/24") = 1 ∧
      afterReplace.peerSubnets.lookup (someNode 1) = some (text "8.8.8.0/24") ∧
      afterReplace.peerSubnets.lookup (someNode 3) = some (text "8.8.8.0/24") ∧
      ¬ StatesMeet CountsExact (newSubnetLimiter 1)
        (follow next (newSubnetLimiter 1) moveAndReplace) := by
  refine ⟨by decide +kernel, by decide +kernel, by decide +kernel, by decide +kernel, ?_⟩
  intro hmeet
  have hend : afterReplace.subnetCounts (text "8.8.8.0/24") =
      tally afterReplace.peerSubnets some (text "8.8.8.0/24") := hmeet.endState.counts _
  revert hend
  decide +kernel

end SubnetLimiter

end Moltbunker.P2p
