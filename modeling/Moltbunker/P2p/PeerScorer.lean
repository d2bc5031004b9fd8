import Moltbunker.Identity.NodeID
import Moltbunker.Lib.GoTime

/-!
# Scores of peers

`internal/p2p/peer_scorer.go`: what a peer does moves its score up or down, and a peer whose score
is too low is banned. `float64` of Go is `Float`, whose operations are those of the same standard.

The counters of events and the time of the last one are written and not read here, and are left out.
So are the two thresholds below which only the log says more.
-/

namespace Moltbunker.P2p

open Lib
open Identity (NodeID)

/-- `PeerEvent` -/
inductive PeerEvent where
  | validMessage
  | invalidMessage
  | failedDeploy
  | gossipSpam
  | rateLimitHit
  | malformedPayload
  | goodUptime
  deriving DecidableEq

/-- `eventDeltas` -/
def PeerEvent.delta : PeerEvent → Float
  | .validMessage => 0.001
  | .invalidMessage => -0.05
  | .failedDeploy => -0.10
  | .gossipSpam => -0.03
  | .rateLimitHit => -0.02
  | .malformedPayload => -0.05
  | .goodUptime => 0.01

/-- `PeerScorer`; `banList` and `stakeVerifier` say that they are set, to those of the router. -/
structure PeerScorer where
  scores : NodeID → Option Float
  banThreshold : Float
  decayRate : Float
  banList : Bool
  stakeVerifier : Bool

/-- `NewPeerScorer` with the default configuration. -/
def newPeerScorer (banList stakeVerifier : Bool) : PeerScorer where
  scores _ := none
  banThreshold := 0.1
  decayRate := 0.01
  banList := banList
  stakeVerifier := stakeVerifier

namespace PeerScorer

/-- A score between zero and one. -/
def clamp (score : Float) : Float :=
  let score := if score > 1.0 then 1.0 else score
  if score < 0.0 then 0.0 else score

/-- The score of a peer after an event. A peer that is not known has a neutral score. -/
def scoreAfter (ps : PeerScorer) (nodeID : NodeID) (event : PeerEvent) : Float :=
  clamp ((ps.scores nodeID).getD 0.5 + event.delta)

/-- `RecordEvent`, up to the check of the thresholds. -/
def recordEvent (ps : PeerScorer) (nodeID : NodeID) (event : PeerEvent) : PeerScorer :=
  { ps with scores := Function.update ps.scores nodeID (some (ps.scoreAfter nodeID event)) }

/-- `checkThresholds` after an event: for how long the peer is banned, if it is. A peer that has not
announced a wallet is banned for good. -/
def banAfter (ps : PeerScorer) (announced : Bool) (nodeID : NodeID) (event : PeerEvent) :
    Option Duration :=
  if ps.scoreAfter nodeID event < ps.banThreshold ∧ ps.banList then
    some (if ps.stakeVerifier ∧ ¬ announced then 0 else .hour)
  else none

/-- A score that decays towards a half. -/
def decayed (rate score : Float) : Float :=
  if score > 0.5 then
    let score := score - rate
    if score < 0.5 then 0.5 else score
  else if score < 0.5 then
    let score := score + rate
    if score > 0.5 then 0.5 else score
  else score

/-- `DecayScores` -/
def decayScores (ps : PeerScorer) : PeerScorer :=
  { ps with scores := fun id => (ps.scores id).map (decayed ps.decayRate) }

/-- `RemovePeer` -/
def removePeer (ps : PeerScorer) (nodeID : NodeID) : PeerScorer :=
  { ps with scores := Function.update ps.scores nodeID none }

end PeerScorer

end Moltbunker.P2p
