import Moltbunker.Lib.Net
import Moltbunker.Lib.Tally

/-!
# Diversity of peers

`internal/p2p/diversity.go`, with `subnetFromAddress` of `internal/p2p/peer_management.go`: no
region and no network may have too large a share of the peers. The enforcer keeps a total and
counters by region and by network; peers without a region or without a network that can be read off
their address are only in the total.

`float64` of Go is `Float`, whose operations are those of the same standard.
-/

namespace Moltbunker.P2p

open Lib Text Net

/-- `subnetFromAddress`: the network of an address, empty if there is none. -/
def subnetFromAddress (address : Text) : Text :=
  let ip :=
    if (text "/ip4/").isPrefixOf address ∨ (text "/ip6/").isPrefixOf address then
      -- the third part, after the empty one and the name of the version
      (address.splitOn '/').getD 2 address
    else
      match splitHostPort address with
      | some (host, _) => host
      | none => address
  match parseIP ip with
  | none => []
  | some parsed =>
    match parsed.to4 with
    | some v4 => (text ".").intercalate ((v4.take 2).map fun b => decimal b.toNat) ++
        text ".0.0/16"
    | none =>
      let bytes := parsed.toList
      hexEncode (bytes.take 2) ++ text ":" ++ hexEncode ((bytes.drop 2).take 2) ++ text ":" ++
        hexEncode ((bytes.drop 4).take 2) ++ text "::/48"

/-- `PeerDiversityEnforcer` -/
structure PeerDiversityEnforcer where
  regionCounts : Counts Text
  subnetCounts : Counts Text
  totalPeers : ℤ
  maxRegionShare : Float
  maxSubnetShare : Float

/-- `NewPeerDiversityEnforcerWithConfig` -/
def newPeerDiversityEnforcerWithConfig (maxRegionShare maxSubnetShare : Float) :
    PeerDiversityEnforcer :=
  ⟨fun _ => 0, fun _ => 0, 0, maxRegionShare, maxSubnetShare⟩

/-- `NewPeerDiversityEnforcer` -/
def newPeerDiversityEnforcer : PeerDiversityEnforcer := newPeerDiversityEnforcerWithConfig 0.5 0.3

/-- The kind that a peer is counted under; an empty name is not counted. -/
def counted (name : Text) : Option Text := if name = [] then none else some name

namespace PeerDiversityEnforcer

/-- `AllowPeer` -/
def allowPeer (pde : PeerDiversityEnforcer) (region subnet : Text) : Bool :=
  if pde.totalPeers < 4 then true
  else
    let newTotal := Float.ofInt (pde.totalPeers + 1)
    if region ≠ [] ∧ region ≠ text "Unknown" ∧
        Float.ofInt (pde.regionCounts region + 1) / newTotal > pde.maxRegionShare then false
    else if subnet ≠ [] ∧
        Float.ofInt (pde.subnetCounts subnet + 1) / newTotal > pde.maxSubnetShare then false
    else true

/-- `RecordPeer` -/
def recordPeer (pde : PeerDiversityEnforcer) (region subnet : Text) : PeerDiversityEnforcer :=
  { pde with
    totalPeers := pde.totalPeers + 1
    regionCounts := if region ≠ [] then pde.regionCounts.incr region else pde.regionCounts
    subnetCounts := if subnet ≠ [] then pde.subnetCounts.incr subnet else pde.subnetCounts }

/-- `RemovePeer` -/
def removePeer (pde : PeerDiversityEnforcer) (region subnet : Text) : PeerDiversityEnforcer :=
  { pde with
    totalPeers := if pde.totalPeers - 1 < 0 then 0 else pde.totalPeers - 1
    regionCounts := if region ≠ [] then pde.regionCounts.decr region else pde.regionCounts
    subnetCounts := if subnet ≠ [] then pde.subnetCounts.decr subnet else pde.subnetCounts }

/-- The counters that are changed are those of the kind. -/
lemma incrOf_counted (c : Counts Text) (name : Text) :
    (if name ≠ [] then c.incr name else c) = c.incrOf (counted name) := by
  unfold counted
  by_cases h : name = [] <;> simp [h, Counts.incrOf]

lemma decrOf_counted (c : Counts Text) (name : Text) :
    (if name ≠ [] then c.decr name else c) = c.decrOf (counted name) := by
  unfold counted
  by_cases h : name = [] <;> simp [h, Counts.decrOf]

end PeerDiversityEnforcer

end Moltbunker.P2p
