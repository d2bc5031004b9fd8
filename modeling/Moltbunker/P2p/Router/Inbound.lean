import Moltbunker.P2p.Router.Model

/-!
# The router: messages from its peers

`HandleMessage` of `internal/p2p/routing.go`: the stages that a message goes through, with the rate
limiters, the counters of violations and the scores that they write.

The limiters are those of `golang.org/x/time/rate`, which is not part of this program: a
`RateLimiter` says how one is made and how it answers. `tokenBucket` is the one of the package, for
runs on concrete messages.

A handler is a function of the message. What it does to the router is further calls.
-/

namespace Moltbunker.P2p

open Lib Text Function
open Identity (NodeID)

/-! ## Rate limiters -/

/-- `rate.NewLimiter` and `Allow`. -/
structure RateLimiter (L : Type) where
  newLimiter : TierRateLimit → L
  allow : L → ℤ → L × Bool

/-- `rate.Limiter` -/
structure TokenBucket where
  limit : TierRateLimit
  tokens : Float
  last : Option ℤ

/-- The tokens of a bucket at a time; a bucket that was never used is full. -/
def TokenBucket.advance (lim : TokenBucket) (now : ℤ) : Float :=
  let burst := Float.ofNat lim.limit.burst
  match lim.last with
  | none => burst
  | some last =>
    let elapsed := Float.ofInt (now - min last now) / 1000000000
    let tokens := lim.tokens + elapsed * Float.ofNat lim.limit.rate
    if tokens > burst then burst else tokens

/-- The limiter of the package: a message takes a token, and has to wait if there is none. A wait of
less than a nanosecond is none. -/
def tokenBucket : RateLimiter TokenBucket where
  newLimiter limit := ⟨limit, Float.ofNat limit.burst, none⟩
  allow lim now :=
    let tokens := lim.advance now - 1
    if tokens < 0 ∧ 1 ≤ -tokens / Float.ofNat lim.limit.rate * 1000000000 then (lim, false)
    else ({ lim with tokens := tokens, last := some now }, true)

/-- `DefaultPeerMessageRate` and `DefaultPeerMessageBurst` -/
def defaultPeerLimit : TierRateLimit := ⟨100, 200⟩

/-- `violationWindow` -/
def violationWindow : Duration := 5 * .minute

/-- `violationThreshold` -/
def violationThreshold : ℤ := 3

/-- `autoBanDuration` -/
def autoBanDuration : Duration := .hour

/-- What becomes of a message. -/
inductive Verdict where
  /-- the peer has sent too much -/
  | rateLimited
  /-- the peer is banned -/
  | banned
  /-- the nonce or the timestamp is refused -/
  | nonceRefused (err : NonceError)
  /-- the nonce or the timestamp is refused, and the log asks for the name of a peer that is nil -/
  | crashed
  /-- the version is newer than the one of this node -/
  | newerVersion
  /-- the version is too old -/
  | outdatedVersion
  /-- there is no signature -/
  | missingSignature
  /-- the record that is signed cannot be written -/
  | noSignableBytes
  /-- the signature does not verify -/
  | invalidSignature
  /-- the type of the message requires a stake -/
  | unstaked
  /-- there is no handler for the type of the message -/
  | noHandler
  /-- the handler was called and returned this error -/
  | handled (err : Option Text)
  deriving DecidableEq

/-- The error that `HandleMessage` returns, for a message and the name of its sender. -/
def Verdict.error (msg : Message) (name : Text) : Verdict → Option Text
  | .rateLimited => some (text "peer rate limit exceeded: " ++ name)
  | .banned => some (text "peer is banned: " ++ name)
  | .nonceRefused _ => some (text "nonce check failed")
  | .crashed => none
  | .newerVersion => some (text "unsupported protocol version: " ++ decimal msg.version.toNat ++
      text " (max supported: " ++ decimal protocolVersion.toNat ++ text ")")
  | .outdatedVersion => some (text "outdated protocol version: " ++ decimal msg.version.toNat ++
      text " (minimum supported: " ++ decimal minSupportedVersion.toNat ++ text ")")
  | .missingSignature => some (text "missing message signature")
  | .noSignableBytes => some (text "failed to compute signable bytes for verification")
  | .invalidSignature => some (text "invalid message signature")
  | .unstaked => some (text "message type " ++ msg.type ++ text " requires stake: peer " ++ name)
  | .noHandler => some (text "no handler for message type: " ++ msg.type)
  | .handled err => err

/-- The message reaches its handler. -/
def Verdict.Accepted : Verdict → Prop
  | .handled _ => True
  | _ => False

instance : DecidablePred Verdict.Accepted
  | .handled _ => .isTrue trivial
  | .rateLimited | .banned | .nonceRefused _ | .crashed | .newerVersion | .outdatedVersion
  | .missingSignature | .noSignableBytes | .invalidSignature | .unstaked | .noHandler =>
    .isFalse id

namespace Router

variable {L : Type}

/-! ## What the stages write -/

/-- The tier of a peer, which is looked up through the stake verifier. -/
def lookupTier (r : Router L) (now : ℤ) (chain : Chain) (peerID : NodeID) :
    Router L × Option Tier :=
  match r.stakeVerifier with
  | none => (r, none)
  | some sv =>
    let found := sv.getTier chain now peerID
    ({ r with stakeVerifier := some found.1 }, some found.2)

/-- `getPeerLimiter` -/
def getPeerLimiter (lim : RateLimiter L) (r : Router L) (now : ℤ) (chain : Chain)
    (peerID : NodeID) : Router L × L :=
  match r.peerLimiters peerID with
  | some limiter => (r, limiter)
  | none =>
    let found := r.lookupTier now chain peerID
    let limiter := lim.newLimiter ((found.2.map Tier.rateLimit).getD defaultPeerLimit)
    ({ found.1 with peerLimiters := update found.1.peerLimiters peerID (some limiter) },
      limiter)

/-- A message of the peer asks its limiter. -/
def askLimiter (lim : RateLimiter L) (r : Router L) (now : ℤ) (chain : Chain) (peerID : NodeID) :
    Router L × Bool :=
  let found := getPeerLimiter lim r now chain peerID
  let asked := lim.allow found.2 now
  ({ found.1 with peerLimiters := update found.1.peerLimiters peerID (some asked.1) },
    asked.2)

/-- `RefreshPeerLimiter` -/
def refreshPeerLimiter (lim : RateLimiter L) (r : Router L) (now : ℤ) (chain : Chain)
    (peerID : NodeID) : Router L :=
  let found := r.lookupTier now chain peerID
  match found.2 with
  | none => r
  | some tier =>
    { found.1 with
      peerLimiters := update found.1.peerLimiters peerID
        (some (lim.newLimiter tier.rateLimit)) }

variable (r : Router L)

variable (now : ℤ)

/-- A ban, if there is a list of them. -/
def ban (peerID : NodeID) (reason : Text) (duration : Duration) : Router L :=
  { r with banList := r.banList.map fun bl => bl.ban now peerID reason duration }

/-- The counter of the violations of a peer after one more. -/
def nextViolation (peerID : NodeID) : ViolationEntry :=
  match r.violationCounters peerID with
  | none => ⟨1, now⟩
  | some entry =>
    if Time.sub now entry.firstViolation > violationWindow then ⟨1, now⟩
    else { entry with count := entry.count + 1 }

/-- One more violation is one too many. A counter that is new or starts again is not compared with
the threshold. -/
def ViolatesTooOften (peerID : NodeID) : Prop :=
  ∃ entry ∈ r.violationCounters peerID,
    ¬ Time.sub now entry.firstViolation > violationWindow ∧
      violationThreshold ≤ entry.count + 1

instance (r : Router L) (now : ℤ) (peerID : NodeID) : Decidable (r.ViolatesTooOften now peerID) :=
  inferInstanceAs (Decidable (∃ entry ∈ r.violationCounters peerID, _))

/-- The ban for violations: for how long depends on the tier. -/
def autoBan (chain : Chain) (peerID : NodeID) : Router L :=
  -- without a list of bans the tier is not looked up
  if r.banList.isNone then r
  else
    let found := r.lookupTier now chain peerID
    found.1.ban now peerID (text "auto-ban: repeated rate limit violations")
      ((found.2.map Tier.banDuration).getD autoBanDuration)

/-- `recordViolation` -/
def recordViolation (chain : Chain) (peerID : NodeID) : Router L :=
  if r.ViolatesTooOften now peerID then
    let r := r.autoBan now chain peerID
    { r with violationCounters := update r.violationCounters peerID none }
  else
    { r with violationCounters :=
        update r.violationCounters peerID (some (r.nextViolation now peerID)) }

/-- `RecordEvent` of the scorer, if there is one. -/
def recordEvent (peerID : NodeID) (event : PeerEvent) : Router L :=
  match r.peerScorer with
  | none => r
  | some ps =>
    let announced := r.stakeVerifier.any fun sv => sv.hasAnnounced peerID
    let r := { r with peerScorer := some (ps.recordEvent peerID event) }
    match ps.banAfter announced peerID event with
    | none => r
    | some duration => r.ban now peerID (text "peer score below ban threshold") duration

/-- An event of the sender of a message, if it is known. -/
def recordSender (sender : Option Node) (event : PeerEvent) : Router L :=
  match sender with
  | none => r
  | some node => r.recordEvent now node.id event

/-! ## The stages -/

/-- Stage 1: the limiter of the sender. -/
def limitStage (lim : RateLimiter L) (r : Router L) (now : ℤ) (chain : Chain)
    (sender : Option Node) : Router L × Bool :=
  match sender with
  | none => (r, true)
  | some node =>
    let asked := askLimiter lim r now chain node.id
    if asked.2 then (asked.1, true)
    else
      let r := asked.1.recordViolation now chain node.id
      (r.recordEvent now node.id .rateLimitHit, false)

/-- Stage 2: the sender is banned. -/
def SenderBanned (sender : Option Node) : Prop :=
  ∃ node ∈ sender, ∃ bl ∈ r.banList, bl.isBanned now node.id = true

instance (r : Router L) (now : ℤ) (sender : Option Node) : Decidable (r.SenderBanned now sender) :=
  inferInstanceAs (Decidable (∃ node ∈ sender, ∃ bl ∈ r.banList, _))

/-- Stage 3: the nonce and the timestamp. -/
def nonceStage (msg : Message) : Except NonceError (Router L) :=
  match r.nonceTracker with
  | none => .ok r
  | some nt =>
    match nt.check now msg.nonce msg.timestamp.nanos with
    | .error err => .error err
    | .ok nt => .ok { r with nonceTracker := some nt }

/-- Stage 4: the version. -/
def versionStage (msg : Message) : Option Verdict :=
  if msg.version > protocolVersion then some .newerVersion
  else if msg.version < minSupportedVersion then some .outdatedVersion
  else none

/-- Stage 5: the signature. -/
def signatureStage (msg : Message) : Option Verdict :=
  match r.keyManager with
  | none => none
  | some km =>
    if msg.signature = [] then some .missingSignature
    else
      match msg.signableBytes with
      | none => some .noSignableBytes
      | some bytes => if km.verify bytes msg.signature then none else some .invalidSignature

/-- Stage 6: the stake of the sender. -/
def stakeStage (chain : Chain) (msg : Message) (sender : Option Node) : Router L × Bool :=
  match sender, r.stakeVerifier with
  | some node, some sv =>
    if requiresStake msg.type then
      let asked := sv.isStaked chain now node.id
      ({ r with stakeVerifier := some asked.1 }, asked.2)
    else (r, true)
  | _, _ => (r, true)

/-- Stages 7 and 8: the handler, and the score for what it returns. -/
def dispatch (msg : Message) (sender : Option Node) : Router L × Verdict :=
  match r.handlers msg.type with
  | none => (r, .noHandler)
  | some handler =>
    let err := handler msg sender
    (r.recordSender now sender (if err.isSome then .malformedPayload else .validMessage),
      .handled err)

/-- Stages 5 to 8. -/
def authenticate (chain : Chain) (msg : Message) (sender : Option Node) : Router L × Verdict :=
  match r.signatureStage msg with
  -- the only failure for which the sender does not lose
  | some .noSignableBytes => (r, .noSignableBytes)
  | some verdict => (r.recordSender now sender .invalidMessage, verdict)
  | none =>
    let gate := r.stakeStage now chain msg sender
    if gate.2 then gate.1.dispatch now msg sender
    else (gate.1.recordSender now sender .invalidMessage, .unstaked)

/-- `HandleMessage` -/
def handleMessage (lim : RateLimiter L) (r : Router L) (now : ℤ) (chain : Chain) (msg : Message)
    (sender : Option Node) : Router L × Verdict :=
  let limited := limitStage lim r now chain sender
  if limited.2 = false then (limited.1, .rateLimited)
  else if limited.1.SenderBanned now sender then (limited.1, .banned)
  else
    match limited.1.nonceStage now msg with
    | .error err =>
      match sender with
      | none => (limited.1, .crashed)
      | some node => (limited.1.recordEvent now node.id .invalidMessage, .nonceRefused err)
    | .ok r =>
      match versionStage msg with
      | some verdict => (r, verdict)
      | none => r.authenticate now chain msg sender

/-! ## What a message writes -/

/-- A relation of the router before and after that holds across each write of the stages for a
peer. -/
structure Writes (R : Router L → Router L → Prop) (now : ℤ) (chain : Chain) (id : NodeID) :
    Prop where
  limiters : ∀ r limiter, R r { r with peerLimiters := update r.peerLimiters id limiter }
  counters : ∀ r entry, R r { r with violationCounters := update r.violationCounters id entry }
  scores : ∀ r ps event, r.peerScorer = some ps →
    R r { r with peerScorer := some (ps.recordEvent id event) }
  ban : ∀ r reason duration, R r (r.ban now id reason duration)
  tier : ∀ r, R r (r.lookupTier now chain id).1
  staked : ∀ r sv, r.stakeVerifier = some sv →
    R r { r with stakeVerifier := some (sv.isStaked chain now id).1 }

section Writes

variable {R : Router L → Router L → Prop} {now : ℤ} {chain : Chain} {id : NodeID}

section Closure

variable (h : Writes R now chain id) (hrefl : ∀ r, R r r)
  (htrans : ∀ {r r' r''}, R r r' → R r' r'' → R r r'') (r : Router L)
include h hrefl htrans

lemma Writes.recordEvent (event : PeerEvent) : R r (r.recordEvent now id event) := by
  unfold Router.recordEvent
  split
  · exact hrefl r
  · next ps hps =>
    have hscored := h.scores r ps event hps
    dsimp only
    split
    · exact hscored
    · exact htrans hscored (h.ban _ _ _)

lemma Writes.limitStage (lim : RateLimiter L)
    {node : Node} (hnode : node.id = id) : R r (limitStage lim r now chain (some node)).1 := by
  subst hnode
  have hask : R r (askLimiter lim r now chain node.id).1 := by
    unfold askLimiter getPeerLimiter
    split
    · exact h.limiters r _
    · exact htrans (htrans (h.tier r) (h.limiters _ _)) (h.limiters _ _)
  have hviolation : ∀ r, R r (r.recordViolation now chain node.id) := by
    intro r
    unfold recordViolation autoBan
    split
    · dsimp only
      split
      · exact h.counters r _
      · exact htrans (htrans (h.tier r) (h.ban _ _ _)) (h.counters _ _)
    · exact h.counters r _
  unfold Router.limitStage
  dsimp only
  split
  · exact hask
  · exact htrans (htrans hask (hviolation _)) (h.recordEvent hrefl htrans _ _)

end Closure

variable {msg : Message} {sender : Option Node}

/-- **What holds across the writes for the sender and across the nonces holds across a message.** -/
theorem writes_handleMessage (hrefl : ∀ r, R r r)
    (htrans : ∀ {r r' r''}, R r r' → R r' r'' → R r r'')
    (hsender : ∀ node ∈ sender, Writes R now chain node.id)
    (hnonces : ∀ r nt nt', r.nonceTracker = some nt →
      nt.check now msg.nonce msg.timestamp.nanos = .ok nt' →
      R r { r with nonceTracker := some nt' }) (lim : RateLimiter L) (r : Router L) :
    R r (handleMessage lim r now chain msg sender).1 := by
  have hlimit : R r (limitStage lim r now chain sender).1 := by
    cases sender with
    | none => exact hrefl r
    | some node => exact (hsender node rfl).limitStage hrefl htrans r lim rfl
  have hevent : ∀ r event, R r (r.recordSender now sender event) := by
    intro r event
    cases sender with
    | none => exact hrefl r
    | some node => exact (hsender node rfl).recordEvent hrefl htrans r event
  have hstake : ∀ r, R r (r.stakeStage now chain msg sender).1 := by
    intro r
    unfold stakeStage
    split
    · next node sv hsv =>
      split
      · exact (hsender node rfl).staked r sv hsv
      · exact hrefl r
    · exact hrefl r
  unfold handleMessage
  dsimp only
  split
  · exact hlimit
  split
  · exact hlimit
  split
  · split
    · exact hlimit
    · exact htrans hlimit (hevent _ .invalidMessage)
  next r' hnonce =>
  have hpassed : R r r' := by
    unfold nonceStage at hnonce
    split at hnonce
    · cases hnonce
      exact hlimit
    next nt hnt =>
    split at hnonce
    · cases hnonce
    · next nt' hcheck =>
      cases hnonce
      exact htrans hlimit (hnonces _ nt nt' hnt hcheck)
  split
  · exact hpassed
  refine htrans hpassed ?_
  unfold authenticate
  split
  · exact hrefl r'
  · exact hevent r' _
  dsimp only
  split
  · unfold dispatch
    split
    · exact hstake r'
    · exact htrans (hstake r') (hevent _ _)
  · exact htrans (hstake r') (hevent _ _)

end Writes

end Router

end Moltbunker.P2p
