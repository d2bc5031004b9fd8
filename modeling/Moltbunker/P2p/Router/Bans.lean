import Moltbunker.P2p.Router.Run

/-!
# How long bans last

Three mechanisms ban a peer: an explicit ban, repeated violations of the rate limit, and a score
that is too low. Each writes the entry of the peer in the list of bans, whatever is there. The rate
limit is checked before the ban, so that a peer that is banned can still violate it: a ban without
an end becomes one of an hour.

* `issuedBan` — the ban that an action issues to a peer that is banned, read off the state before
  the action;
* `bans_next` — until when the peer is banned after an action;
* `holds_next_iff` — one action keeps a ban exactly if the ban that it issues lasts as long;
* `World.holds_iff` — the runs along which a ban lasts until its end.
-/

namespace Moltbunker.P2p

open Lib
open Identity (NodeID)

namespace Router

variable {L : Type} (lim : RateLimiter L)

/-- The list of bans has the peer as banned at the time. -/
def IsBanned (r : Router L) (t : ℤ) (p : NodeID) : Prop :=
  ∃ bl ∈ r.banList, bl.isBanned t p = true

/-- The time is before the end of a ban; one without an end lasts forever. -/
def Before (t : ℤ) (expiresAt : Option ℤ) : Prop := ∀ e ∈ expiresAt, t < e

/-- The peer is banned from now on until the end. -/
def Holds (r : Router L) (now : ℤ) (p : NodeID) (expiresAt : Option ℤ) : Prop :=
  ∀ t, now ≤ t → Before t expiresAt → r.IsBanned t p

/-- A ban that is issued now lasts at least until the end. -/
def Outlasts (now : ℤ) (duration : Duration) (expiresAt : Option ℤ) : Prop :=
  ∀ t, now ≤ t → Before t expiresAt → ∀ e ∈ banEnd now duration, t ≤ e

/-! ## The bans that are issued -/

/-- The peer has announced a wallet. -/
def announced (r : Router L) (p : NodeID) : Bool :=
  r.stakeVerifier.any fun sv => sv.hasAnnounced p

/-- The ban for a score that an event makes too low. -/
def scoreBan (r : Router L) (p : NodeID) (event : PeerEvent) : Option Duration :=
  r.peerScorer.bind fun ps => ps.banAfter (r.announced p) p event

/-- The ban for one violation too many. -/
def violationBan (r : Router L) (now : ℤ) (chain : Chain) (p : NodeID) : Option Duration :=
  if r.ViolatesTooOften now p then
    some (((r.lookupTier now chain p).2.map Tier.banDuration).getD autoBanDuration)
  else none

/-- The ban that an action issues to a peer that is banned. Of two, the later one counts: the score
is changed after the violation is recorded. -/
def issuedBan (r : Router L) (now : ℤ) (p : NodeID) : Action → Option Duration
  | .ban id _ duration => if id = p then some duration else none
  | .recordEvent id event => if id = p then r.scoreBan p event else none
  | .handleMessage chain _ (some node) =>
    if node.id = p ∧ (askLimiter lim r now chain p).2 = false then
      (r.scoreBan p .rateLimitHit).or (r.violationBan now chain p)
    else none
  | _ => none

/-! ## What changes with a ban -/

/-- From now on the peer is banned as before, or for the duration. -/
structure BansFor (now : ℤ) (p : NodeID) (r r' : Router L) (duration : Option Duration) :
    Prop where
  listed : r'.banList.isSome = r.banList.isSome
  isBanned : r.banList.isSome → ∀ t, now ≤ t →
    (r'.IsBanned t p ↔
      match duration with
      | none => r.IsBanned t p
      | some d => ∀ e ∈ banEnd now d, t ≤ e)

namespace BansFor

variable {now : ℤ} {p : NodeID} {r r' r'' : Router L}

lemma of_banList_eq (h : r'.banList = r.banList) : BansFor now p r r' none := by
  refine ⟨by rw [h], fun _ t _ => ?_⟩
  unfold IsBanned
  rw [h]

/-- Of two bans the later one counts. -/
lemma trans {d d' : Option Duration} (h : BansFor now p r r' d) (h' : BansFor now p r' r'' d') :
    BansFor now p r r'' (d'.or d) := by
  refine ⟨h'.listed.trans h.listed, fun hlist t ht => ?_⟩
  have hlist' : r'.banList.isSome := by rw [h.listed]; exact hlist
  rw [h'.isBanned hlist' t ht]
  cases d' with
  | none => exact h.isBanned hlist t ht
  | some _ => exact Iff.rfl

/-- The list is changed, for the peer by the duration. -/
lemma of_map {f : BanList → BanList} {d : Option Duration}
    (hmap : r'.banList = r.banList.map f)
    (h : ∀ bl t, now ≤ t → ((f bl).isBanned t p = true ↔
      d.elim (bl.isBanned t p = true) fun d => ∀ e ∈ banEnd now d, t ≤ e)) :
    BansFor now p r r' d := by
  refine ⟨by rw [hmap, Option.isSome_map], fun hlist t ht => ?_⟩
  obtain ⟨bl, hbl⟩ := Option.isSome_iff_exists.mp hlist
  simp only [IsBanned, hmap, hbl, Option.map_some, Option.mem_some_iff, exists_eq_left', h bl t ht]
  cases d <;> rfl

/-- The peer itself is banned. -/
lemma ban_self {reason : Text} {duration : Duration} :
    BansFor now p r (r.ban now p reason duration) (some duration) :=
  of_map rfl fun _ _ _ => BanList.isBanned_ban_self reason duration

/-- Another peer is banned. -/
lemma ban_of_ne {id : NodeID} (hne : p ≠ id) (reason : Text) (duration : Duration) :
    BansFor now p r (r.ban now id reason duration) none := by
  refine of_map rfl fun bl t _ => ?_
  simp only [BanList.isBanned, BanList.ban, Function.update_of_ne hne, Option.elim_none]

end BansFor

/-! ## The stages -/

section Stages

variable {now : ℤ} {chain : Chain} {p : NodeID}

lemma banList_lookupTier (r : Router L) (id : NodeID) :
    (r.lookupTier now chain id).1.banList = r.banList := by
  unfold lookupTier
  split <;> rfl

lemma peerScorer_lookupTier (r : Router L) (id : NodeID) :
    (r.lookupTier now chain id).1.peerScorer = r.peerScorer := by
  unfold lookupTier
  split <;> rfl

lemma violationCounters_lookupTier (r : Router L) (id : NodeID) :
    (r.lookupTier now chain id).1.violationCounters = r.violationCounters := by
  unfold lookupTier
  split <;> rfl

/-- Who has announced a wallet does not change when a tier is looked up. -/
lemma announced_lookupTier (r : Router L) (id : NodeID) :
    (r.lookupTier now chain id).1.announced p = r.announced p := by
  unfold lookupTier
  split
  · rfl
  · next sv hsv =>
    simp only [announced, hsv, Option.any_some, StakeVerifier.hasAnnounced,
      StakeVerifier.getTier_peerWallets]

variable {r r' : Router L} {node : Node} {sender : Option Node} {msg : Message}

/-- The tier depends on the stake verifier only. -/
lemma lookupTier_congr (h : r'.stakeVerifier = r.stakeVerifier) (id : NodeID) :
    (r'.lookupTier now chain id).2 = (r.lookupTier now chain id).2 := by
  unfold lookupTier
  rw [h]
  cases r.stakeVerifier <;> rfl

lemma lookupTier_again (r : Router L) (id : NodeID) :
    ((r.lookupTier now chain id).1.lookupTier now chain id).2 =
      (r.lookupTier now chain id).2 := by
  unfold lookupTier
  cases hsv : r.stakeVerifier with
  | none => simp [hsv]
  | some sv => simp [StakeVerifier.getTier_again]

/-- Asking the limiter of a peer changes nothing that a ban depends on. -/
structure SameGrounds (now : ℤ) (chain : Chain) (p : NodeID) (r r' : Router L) : Prop where
  banList : r'.banList = r.banList
  peerScorer : r'.peerScorer = r.peerScorer
  violationCounters : r'.violationCounters = r.violationCounters
  announced : r'.announced p = r.announced p
  tier : (r'.lookupTier now chain p).2 = (r.lookupTier now chain p).2

lemma sameGrounds_askLimiter : SameGrounds now chain p r (askLimiter lim r now chain p).1 := by
  unfold askLimiter getPeerLimiter
  split
  · refine ⟨rfl, rfl, rfl, rfl, ?_⟩
    apply lookupTier_congr
    rfl
  · refine ⟨banList_lookupTier r p, peerScorer_lookupTier r p, violationCounters_lookupTier r p,
      announced_lookupTier r p, ?_⟩
    rw [← lookupTier_again r p]
    apply lookupTier_congr
    rfl

lemma SameGrounds.violationBan (h : SameGrounds now chain p r r') :
    r'.violationBan now chain p = r.violationBan now chain p := by
  have hoften : r'.ViolatesTooOften now p ↔ r.ViolatesTooOften now p := by
    unfold ViolatesTooOften
    rw [h.violationCounters]
  unfold Router.violationBan
  simp only [hoften, h.tier]

lemma bansFor_autoBan_self (hlist : r.banList.isSome) : BansFor now p r (r.autoBan now chain p)
    (some (((r.lookupTier now chain p).2.map Tier.banDuration).getD autoBanDuration)) := by
  have hnone : ¬ r.banList.isNone := by
    rw [Option.isNone_iff_eq_none]
    intro heq
    rw [heq] at hlist
    cases hlist
  unfold autoBan
  rw [if_neg hnone]
  have hlookup : BansFor now p r (r.lookupTier now chain p).1 none :=
    BansFor.of_banList_eq (banList_lookupTier r p)
  exact hlookup.trans BansFor.ban_self

/-- A violation of the peer itself. -/
lemma bansFor_recordViolation_self (hlist : r.banList.isSome) :
    BansFor now p r (r.recordViolation now chain p) (r.violationBan now chain p) := by
  unfold recordViolation violationBan
  split
  · obtain ⟨hlisted, hbanned⟩ : BansFor now p r (r.autoBan now chain p) _ :=
      bansFor_autoBan_self hlist
    exact ⟨hlisted, hbanned⟩
  · exact BansFor.of_banList_eq rfl

/-- The writes for another peer. -/
lemma bansFor_writes (chain : Chain) {id : NodeID} (hne : p ≠ id) :
    Writes (fun r r' : Router L => BansFor now p r r' none) now chain id where
  limiters _ _ := .of_banList_eq rfl
  counters _ _ := .of_banList_eq rfl
  scores _ _ _ _ := .of_banList_eq rfl
  ban _ _ _ := .ban_of_ne hne _ _
  tier r := .of_banList_eq (banList_lookupTier r id)
  staked _ _ _ := .of_banList_eq rfl

/-- An event of the peer itself. -/
lemma bansFor_recordEvent_self {event : PeerEvent} :
    BansFor now p r (r.recordEvent now p event) (r.scoreBan p event) := by
  cases hps : r.peerScorer with
  | none =>
    simp only [recordEvent, scoreBan, hps, Option.bind_none]
    exact BansFor.of_banList_eq rfl
  | some ps =>
    simp only [recordEvent, scoreBan, hps, Option.bind_some]
    change BansFor now p r
      (match ps.banAfter (r.announced p) p event with
        | none => { r with peerScorer := some (ps.recordEvent p event) }
        | some duration =>
          Router.ban { r with peerScorer := some (ps.recordEvent p event) } now p
            (text "peer score below ban threshold") duration)
      (ps.banAfter (r.announced p) p event)
    cases ps.banAfter (r.announced p) p event with
    | none => exact BansFor.of_banList_eq rfl
    | some duration =>
      have hscored : BansFor now p r { r with peerScorer := some (ps.recordEvent p event) }
        none := BansFor.of_banList_eq rfl
      exact hscored.trans BansFor.ban_self

/-- A violation leaves what an event depends on. -/
lemma scoreBan_recordViolation (event : PeerEvent) :
    (r.recordViolation now chain p).scoreBan p event = r.scoreBan p event := by
  have hkept : (r.recordViolation now chain p).peerScorer = r.peerScorer ∧
      (r.recordViolation now chain p).announced p = r.announced p := by
    unfold recordViolation autoBan
    split
    · dsimp only
      split
      · exact ⟨rfl, rfl⟩
      · exact ⟨peerScorer_lookupTier r p, announced_lookupTier r p⟩
    · exact ⟨rfl, rfl⟩
  unfold scoreBan
  rw [hkept.1, hkept.2]

lemma SameGrounds.scoreBan (h : SameGrounds now chain p r r') (event : PeerEvent) :
    r'.scoreBan p event = r.scoreBan p event := by
  unfold Router.scoreBan
  rw [h.peerScorer, h.announced]

/-- The limiter refuses a message of the peer itself. -/
lemma bansFor_limitStage_self (hlist : r.banList.isSome) (hnode : node.id = p)
    (hrefused : (askLimiter lim r now chain p).2 = false) :
    BansFor now p r (limitStage lim r now chain (some node)).1
      ((r.scoreBan p .rateLimitHit).or (r.violationBan now chain p)) := by
  subst hnode
  have hgrounds : SameGrounds now chain node.id r (askLimiter lim r now chain node.id).1 :=
    sameGrounds_askLimiter lim
  have hask : BansFor now node.id r (askLimiter lim r now chain node.id).1 none :=
    BansFor.of_banList_eq hgrounds.banList
  have hlist' : (askLimiter lim r now chain node.id).1.banList.isSome := by
    rw [hgrounds.banList]
    exact hlist
  have hviolation : BansFor now node.id (askLimiter lim r now chain node.id).1
      ((askLimiter lim r now chain node.id).1.recordViolation now chain node.id)
      (r.violationBan now chain node.id) := by
    rw [← hgrounds.violationBan]
    exact bansFor_recordViolation_self hlist'
  have hevent : BansFor now node.id
      ((askLimiter lim r now chain node.id).1.recordViolation now chain node.id)
      (limitStage lim r now chain (some node)).1 (r.scoreBan node.id .rateLimitHit) := by
    have hstage : (limitStage lim r now chain (some node)).1 =
        ((askLimiter lim r now chain node.id).1.recordViolation now chain node.id).recordEvent now
          node.id .rateLimitHit := by
      unfold limitStage
      dsimp only
      rw [if_neg (by rw [hrefused]; exact Bool.false_ne_true)]
    rw [hstage, ← hgrounds.scoreBan, ← scoreBan_recordViolation]
    exact bansFor_recordEvent_self
  have hall := (hask.trans hviolation).trans hevent
  rwa [Option.or_none] at hall

/-- The limiter lets a message pass. -/
lemma bansFor_limitStage_of_allowed
    (hallowed : (askLimiter lim r now chain node.id).2 = true) :
    (limitStage lim r now chain (some node)).1.banList = r.banList := by
  have hgrounds : SameGrounds now chain node.id r (askLimiter lim r now chain node.id).1 :=
    sameGrounds_askLimiter lim
  unfold limitStage
  dsimp only
  rw [if_pos hallowed]
  exact hgrounds.banList

/-- A message of another peer. -/
lemma bansFor_handleMessage_of_ne (hne : ∀ node ∈ sender, p ≠ node.id) :
    BansFor now p r (handleMessage lim r now chain msg sender).1 none :=
  writes_handleMessage (R := fun r r' => BansFor now p r r' none) (fun _ => .of_banList_eq rfl)
    BansFor.trans (fun node hnode => bansFor_writes chain (hne node hnode))
    (fun _ _ _ _ _ => .of_banList_eq rfl) lim r

/-- **A message of a peer that is banned** goes no further than the ban, but the limiter comes
first. -/
theorem bansFor_handleMessage_self (hnode : node.id = p)
    (hbanned : r.IsBanned now p) : BansFor now p r (handleMessage lim r now chain msg (some node)).1
    (r.issuedBan lim now p (.handleMessage chain msg (some node))) := by
  have hlist : r.banList.isSome := by
    obtain ⟨bl, hbl, -⟩ := hbanned
    exact Option.isSome_iff_exists.mpr ⟨bl, hbl⟩
  cases hask : (askLimiter lim r now chain p).2 with
  | false =>
    have hissued : r.issuedBan lim now p (.handleMessage chain msg (some node)) =
        (r.scoreBan p .rateLimitHit).or (r.violationBan now chain p) := if_pos ⟨hnode, hask⟩
    have hresult : (handleMessage lim r now chain msg (some node)).1 =
        (limitStage lim r now chain (some node)).1 := by
      have hrefused : (limitStage lim r now chain (some node)).2 = false := by
        unfold limitStage
        dsimp only
        rw [hnode, if_neg (by rw [hask]; exact Bool.false_ne_true)]
      unfold handleMessage
      rw [if_pos hrefused]
    rw [hissued, hresult]
    exact bansFor_limitStage_self lim hlist hnode hask
  | true =>
    subst hnode
    have hissued : r.issuedBan lim now node.id (.handleMessage chain msg (some node)) = none :=
      if_neg fun h => by simp [hask] at h
    have hlimit : (limitStage lim r now chain (some node)).1.banList = r.banList :=
      bansFor_limitStage_of_allowed lim hask
    have hresult : (handleMessage lim r now chain msg (some node)).1 =
        (limitStage lim r now chain (some node)).1 := by
      have hallowed : ¬ (limitStage lim r now chain (some node)).2 = false := by
        unfold limitStage
        dsimp only
        rw [if_pos hask]
        simp
      have hsender : (limitStage lim r now chain (some node)).1.SenderBanned now (some node) := by
        refine ⟨node, rfl, ?_⟩
        rw [hlimit]
        exact hbanned
      unfold handleMessage
      rw [if_neg hallowed, if_pos hsender]
    rw [hissued, hresult]
    exact BansFor.of_banList_eq hlimit

end Stages

/-! ## Actions -/

lemma banList_foldl {f : Router L → NodeID → Router L}
    (hf : ∀ r id, (f r id).banList = r.banList) (ids : List NodeID) (r : Router L) :
    (ids.foldl f r).banList = r.banList := by
  induction ids generalizing r with
  | nil => rfl
  | cons id ids ih => exact (ih (f r id)).trans (hf r id)

lemma banList_removePeer (r : Router L) (id : NodeID) :
    (r.removePeer id).banList = r.banList := by
  unfold removePeer
  split <;> rfl

section Unbanned

variable (r : Router L) (now : ℤ)

lemma banList_addPeer (order : List NodeID) (node : Node) :
    (r.addPeer now order node).1.banList = r.banList := by
  unfold addPeer
  split
  · rfl
  split
  · rfl
  split
  · unfold evictOldestIdlePeer
    cases oldestIdle r.peers order none with
    | none => rfl
    | some oldest => exact banList_removePeer r oldest.1
  · rfl

lemma banList_cleanupStaleConnections (maxAge : Duration) :
    (r.cleanupStaleConnections now maxAge).banList = r.banList := by
  refine banList_foldl (fun r id => ?_) _ r
  split
  · exact banList_removePeer r id
  · rfl

lemma banList_cleanupIdleConnections : (r.cleanupIdleConnections now).banList = r.banList := by
  refine banList_foldl (fun r id => ?_) _ r
  unfold closeIdle
  split
  · rfl
  · split <;> rfl

lemma banList_sendMessage (recipient : NodeID) (msg : Message)
    (env : SendEnv) : (r.sendMessage now recipient msg env).router.banList = r.banList := by
  unfold sendMessage
  split
  · rfl
  next r₁ pc hfind =>
  have hfound : r₁.banList = r.banList := by
    obtain ⟨peers, hpeers⟩ := entered_writes
    rw [(findPeer_eq_ok hfind).1, hpeers]
  split
  · exact hfound
  next r₂ pc' hensure =>
  obtain ⟨⟨pins, rfl⟩, -⟩ := ensureConnection_eq_ok hensure
  rw [← hfound]
  unfold deliver
  split
  · rfl
  split
  · rfl
  split <;> rfl

lemma banList_refreshPeerLimiter {chain : Chain} {id : NodeID} :
    (refreshPeerLimiter lim r now chain id).banList = r.banList := by
  unfold refreshPeerLimiter
  dsimp only
  split
  · rfl
  · exact banList_lookupTier r id

end Unbanned

variable {r : Router L} {p : NodeID} {expiresAt : Option ℤ}

/-- Of the actions, only bans, messages and events touch the list, besides lifting a ban. -/
lemma bans_next {now : ℤ} (hbanned : r.IsBanned now p) {a : Action} (ha : a ≠ .unban p) :
    BansFor now p r (r.next lim now a) (r.issuedBan lim now p a) := by
  cases a with
  | ban id reason duration =>
    unfold issuedBan
    dsimp only
    split
    · next hid => exact hid ▸ BansFor.ban_self
    · next hid => exact BansFor.ban_of_ne (Ne.symm hid) reason duration
  | recordEvent id event =>
    unfold issuedBan
    dsimp only
    split
    · next hid =>
      subst hid
      exact bansFor_recordEvent_self
    · next hid =>
      exact (bansFor_writes (fun _ => ⟨none, none⟩) (Ne.symm hid)).recordEvent
        (fun _ => .of_banList_eq rfl) BansFor.trans r event
  | handleMessage chain msg sender =>
    by_cases hself : ∃ node ∈ sender, node.id = p
    · obtain ⟨node, hsender, hnode⟩ := hself
      subst hsender
      exact bansFor_handleMessage_self lim hnode hbanned
    · have hne : ∀ node ∈ sender, p ≠ node.id :=
        fun node hnode heq => hself ⟨node, hnode, heq.symm⟩
      have hissued : r.issuedBan lim now p (.handleMessage chain msg sender) = none := by
        cases sender with
        | none => rfl
        | some node => exact if_neg fun h => hne node rfl h.1.symm
      rw [hissued]
      exact bansFor_handleMessage_of_ne lim hne
  | unban id =>
    have hne : p ≠ id := fun heq => ha (by rw [heq])
    exact .of_map rfl fun _ _ _ => by rw [BanList.isBanned_unban_of_ne hne]; rfl
  | cleanBans =>
    exact .of_map rfl fun _ _ ht => by rw [BanList.isBanned_cleanExpired ht]; rfl
  | addPeer order node => exact BansFor.of_banList_eq (banList_addPeer r now order node)
  | removePeer id => exact BansFor.of_banList_eq (banList_removePeer r id)
  | sendMessage recipient msg env =>
    exact BansFor.of_banList_eq (banList_sendMessage r now recipient msg env)
  | cleanupIdleConnections => exact BansFor.of_banList_eq (banList_cleanupIdleConnections r now)
  | cleanupStaleConnections maxAge =>
    exact BansFor.of_banList_eq (banList_cleanupStaleConnections r now maxAge)
  | refreshPeerLimiter chain id =>
    exact BansFor.of_banList_eq (banList_refreshPeerLimiter lim r now)
  | close => exact BansFor.of_banList_eq (banList_foldl banList_removePeer _ r)
  | _ => exact BansFor.of_banList_eq rfl

/-- **One action keeps a ban exactly if the ban that it issues lasts as long.** -/
theorem holds_next_iff {before now : ℤ} (h : Holds r before p expiresAt)
    (hle : before ≤ now) {a : Action} (ha : a ≠ .unban p) :
    Holds (r.next lim now a) now p expiresAt ↔
      ∀ d ∈ r.issuedBan lim now p a, Outlasts now d expiresAt := by
  by_cases hactive : Before now expiresAt
  · have hbanned : r.IsBanned now p := h now hle hactive
    have hlist : r.banList.isSome := by
      obtain ⟨bl, hbl, -⟩ := hbanned
      exact Option.isSome_iff_exists.mpr ⟨bl, hbl⟩
    have hafter := (bans_next lim hbanned ha).isBanned hlist
    cases hissued : r.issuedBan lim now p a with
    | none =>
      rw [hissued] at hafter
      refine iff_of_true ?_ fun d hd => by cases hd
      intro t ht hbefore
      exact (hafter t ht).mpr (h t (hle.trans ht) hbefore)
    | some d =>
      rw [hissued] at hafter
      constructor
      · intro hholds d' hd' t ht hbefore
        rw [Option.mem_some_iff] at hd'
        rw [← hd']
        exact (hafter t ht).mp (hholds t ht hbefore)
      · intro houtlasts t ht hbefore
        exact (hafter t ht).mpr (houtlasts d rfl t ht hbefore)
  · -- the ban has ended
    have hover : ∀ t, now ≤ t → ¬ Before t expiresAt :=
      fun t ht hbefore => hactive fun e he => lt_of_le_of_lt ht (hbefore e he)
    exact iff_of_true (fun t ht hbefore => absurd hbefore (hover t ht))
      fun d _ t ht hbefore => absurd hbefore (hover t ht)

/-- The entry of the peer in the list of bans, with the end of its ban. -/
def BannedUntil (r : Router L) (p : NodeID) (expiresAt : Option ℤ) : Prop :=
  ∃ bl ∈ r.banList, ∃ entry ∈ bl.entries p, entry.expiresAt = expiresAt

lemma BannedUntil.holds (h : BannedUntil r p expiresAt) (now : ℤ) : Holds r now p expiresAt := by
  obtain ⟨bl, hbl, entry, hentry, rfl⟩ := h
  rw [Option.mem_def] at hentry
  intro t _ hbefore
  refine ⟨bl, hbl, ?_⟩
  simp only [BanList.isBanned, hentry, BanEntry.isExpired, Bool.not_eq_true']
  split
  · rfl
  · next e he =>
    have hlt := hbefore e he
    exact decide_eq_false (by omega)

end Router

open Router

/-- **A ban lasts until its end.** From a state in which the peer is banned until some time, or
forever, along a run in which it is not unbanned: at every state of the run the peer is banned from
then on until that time, exactly if every ban that is issued to it meanwhile lasts as long. -/
theorem World.holds_iff {L : Type} (lim : RateLimiter L) {w : World L} {p : NodeID}
    {expiresAt : Option ℤ} (hban : BannedUntil w.router p expiresAt) {l : List (Event × World L)}
    (hl : Path (fun w e w' => World.Step lim w e w' ∧ e.2 ≠ .unban p) w l) :
    StatesMeet (fun w => Holds w.router w.now p expiresAt) w l ↔
      StepsMeet (fun w e => ∀ d ∈ w.router.issuedBan lim e.1 p e.2, Outlasts e.1 d expiresAt)
        w l := by
  refine hl.statesMeet_iff_stepsMeet (I := fun _ => True)
    (P := fun w => Holds w.router w.now p expiresAt) (fun _ _ _ _ _ => trivial) ?_ trivial
    (hban.holds w.now)
  rintro w e w' - hholds ⟨⟨hle, -, rfl⟩, hne⟩
  exact holds_next_iff lim hholds hle hne

/-! ## A flood from a peer that is banned for good -/

/-- A node that floods. -/
def flooder : Node := ⟨List.Vector.replicate 32 9, text "8.8.4.4:9000", 9000, []⟩

/-- A router as `NewNodeWithConfig` makes it, as far as bans go, on which the node was banned for
good. -/
def banningRouter : Router TokenBucket :=
  { newRouter TokenBucket none none with
    banList := some (newBanList.ban 0 flooder.id (text "abuse") 0)
    stakeVerifier := some (newStakeVerifier false) }

/-- A message of the node. -/
def floodMessage : Message :=
  ⟨text "ping", flooder.id, List.Vector.replicate 32 0, none, ⟨1, 0⟩, List.Vector.replicate 24 1,
    [], 1⟩

/-- Nothing is staked. -/
def emptyChain : Chain := fun _ => ⟨some false, some .unstaked⟩

/-- The messages of the node, all at one time; two hours later bans that are over are cleared. -/
def flood : List Event :=
  List.replicate 23 (1, .handleMessage emptyChain floodMessage (some flooder)) ++
    [(7200000000000, .cleanBans)]

/-- The world before the flood. -/
def banningWorld : World TokenBucket := ⟨banningRouter, 0⟩

/-- The run of the flood. -/
def floodRun : List (Event × World TokenBucket) :=
  follow (World.next tokenBucket) banningWorld flood

lemma banningRouter_bannedUntil : BannedUntil banningRouter flooder.id none :=
  ⟨_, rfl, ⟨flooder.id, text "abuse", 0, none⟩, rfl, rfl⟩

/-- The run takes its events in the order of their times and lifts no ban. -/
lemma floodRun_path :
    Path (fun w e w' => World.Step tokenBucket w e w' ∧ e.2 ≠ .unban flooder.id) banningWorld
      floodRun := by
  have hactions : ∀ e ∈ flood, e.2 = .handleMessage emptyChain floodMessage (some flooder) ∨
      e.2 = .cleanBans := by
    intro e he
    rcases List.mem_append.mp he with hmem | hmem
    · exact Or.inl (by rw [List.eq_of_mem_replicate hmem])
    · exact Or.inr (by rw [List.mem_singleton.mp hmem])
  refine World.follow_path (C := fun e => e.2 ≠ .unban flooder.id) tokenBucket
    (by decide +kernel) ?_ ?_
  · intro e he heq
    rcases hactions e he with h | h <;> rw [h] at heq <;> cases heq
  · intro e he order node heq
    rcases hactions e he with h | h <;> rw [h] at heq <;> cases heq

/-- **A ban without an end is over after an hour.** The peer is banned for good and floods the
router: the third message that the limiter refuses bans it for an hour. -/
theorem permanent_ban_ends :
    BannedUntil banningRouter flooder.id none ∧
      Path (fun w e w' => World.Step tokenBucket w e w' ∧ e.2 ≠ .unban flooder.id) banningWorld
        floodRun ∧
      (endState banningWorld floodRun).router.banList.map
        (fun bl => bl.isBanned 7200000000000 flooder.id) = some false ∧
      ¬ StatesMeet (fun w => Holds w.router w.now flooder.id none) banningWorld floodRun := by
  have hfree : (endState banningWorld floodRun).router.banList.map
      (fun bl => bl.isBanned 7200000000000 flooder.id) = some false := by decide +kernel
  refine ⟨banningRouter_bannedUntil, floodRun_path, hfree, fun hstates => ?_⟩
  have hnow : (endState banningWorld floodRun).now ≤ 7200000000000 := by decide +kernel
  obtain ⟨bl, hbl, hbanned⟩ := hstates.endState 7200000000000 hnow fun e he => by cases he
  rw [hbl, Option.map_some, hbanned] at hfree
  cases hfree

/-- A peer that is banned for good and sends no more than its limiter allows stays banned. -/
theorem holds_iff_patient :
    StatesMeet (fun w : World TokenBucket => Holds w.router w.now flooder.id none) banningWorld
      (follow (World.next tokenBucket) banningWorld
        [(1, .handleMessage emptyChain floodMessage (some flooder)),
          (7200000000000, .cleanBans)]) := by
  refine (World.holds_iff tokenBucket banningRouter_bannedUntil ?_).mpr ⟨?_, ?_, trivial⟩
  · exact ⟨⟨⟨by decide, trivial, rfl⟩, fun h => by cases h⟩,
      ⟨⟨by decide, trivial, rfl⟩, fun h => by cases h⟩, trivial⟩
  · have hnone : banningRouter.issuedBan tokenBucket 1 flooder.id
        (.handleMessage emptyChain floodMessage (some flooder)) = none := by decide +kernel
    intro d hd
    exact absurd (hnone ▸ hd) (by simp)
  · intro d hd
    cases hd

end Moltbunker.P2p
