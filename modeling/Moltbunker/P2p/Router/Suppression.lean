import Moltbunker.Lib.Unwinding
import Moltbunker.P2p.Router.Inbound

/-!
# Messages that suppress others

A message that is rejected should not keep another from being accepted. Most of what the stages of
`HandleMessage` write is kept by peer. Two things are not: the nonces, which are recorded before the
version, the signature and the stake of the message are checked, and what is known of the stake of a
wallet, which two peers may share.

`hide` is the router without what a peer can change through its messages. The messages of all other
peers are handled as if that were not there (`handleMessage_hide`), as long as they have nonces of
their own and the peer has a wallet of its own; and the messages of the peer change nothing else
(`hide_handleMessage`).

* `unwinding_receive` — the two together;
* `accepted_others_eq` — the messages of a peer, whatever becomes of them, do not change which
  messages of others are accepted.
-/

namespace Moltbunker.P2p

open Lib Function
open Identity (NodeID)

/-! ## Stakes -/

namespace StakeVerifier

variable {sv : StakeVerifier} {chain : Chain} {now : ℤ} {E p : NodeID}

/-- What is known of the stake of the peer is forgotten. -/
def forget (sv : StakeVerifier) (E : NodeID) : StakeVerifier :=
  match sv.peerWallets.lookup E with
  | none => sv
  | some wallet => sv.invalidateWallet wallet

/-- No other peer has the wallet of this one. -/
def Apart (sv : StakeVerifier) (E : NodeID) : Prop :=
  ∀ p, p ≠ E → ∀ wallet, sv.peerWallets.lookup p = some wallet →
    sv.peerWallets.lookup E ≠ some wallet

lemma forget_peerWallets : (sv.forget E).peerWallets = sv.peerWallets := by
  unfold forget
  split <;> rfl

lemma forget_paymentService : (sv.forget E).paymentService = sv.paymentService := by
  unfold forget
  split <;> rfl

lemma getCachedOrFetch_peerWallets
    (wallet : Wallet) : (sv.getCachedOrFetch chain now wallet).1.peerWallets = sv.peerWallets := by
  unfold getCachedOrFetch
  split <;> rfl

variable {wallet : Wallet}

/-- A lookup of another wallet. -/
lemma getCachedOrFetch_invalidateWallet {wallet' : Wallet} (hne : wallet ≠ wallet') :
    (sv.invalidateWallet wallet').getCachedOrFetch chain now wallet =
      ((sv.getCachedOrFetch chain now wallet).1.invalidateWallet wallet',
        (sv.getCachedOrFetch chain now wallet).2) := by
  have hcached : (sv.invalidateWallet wallet').cached now wallet = sv.cached now wallet := by
    simp only [cached, invalidateWallet, update_of_ne hne]
    rfl
  unfold getCachedOrFetch
  rw [hcached]
  cases sv.cached now wallet with
  | some info => rfl
  | none =>
    simp only [invalidateWallet]
    rw [update_comm hne]

/-- A lookup of the wallet that is forgotten. -/
lemma invalidateWallet_getCachedOrFetch :
    (sv.getCachedOrFetch chain now wallet).1.invalidateWallet wallet =
      sv.invalidateWallet wallet := by
  unfold getCachedOrFetch
  split
  · rfl
  · simp only [invalidateWallet, update_idem]

lemma getCachedOrFetch_forget (hapart : sv.Apart E) (hne : p ≠ E)
    (hwallet : sv.peerWallets.lookup p = some wallet) :
    (sv.forget E).getCachedOrFetch chain now wallet =
      ((sv.getCachedOrFetch chain now wallet).1.forget E,
        (sv.getCachedOrFetch chain now wallet).2) := by
  unfold forget
  rw [getCachedOrFetch_peerWallets]
  split
  · rfl
  · next wallet' hE =>
    have hother : wallet ≠ wallet' := by
      intro heq
      exact hapart p hne wallet hwallet (heq ▸ hE)
    exact getCachedOrFetch_invalidateWallet hother

lemma getTier_forget (hapart : sv.Apart E) (hne : p ≠ E) : (sv.forget E).getTier chain now p =
    ((sv.getTier chain now p).1.forget E, (sv.getTier chain now p).2) := by
  unfold getTier
  rw [forget_peerWallets, forget_paymentService]
  split
  · rfl
  · next wallet hwallet =>
    split
    · rw [getCachedOrFetch_forget hapart hne hwallet]
    · rfl

lemma isStaked_forget (hapart : sv.Apart E) (hne : p ≠ E) : (sv.forget E).isStaked chain now p =
    ((sv.isStaked chain now p).1.forget E, (sv.isStaked chain now p).2) := by
  unfold isStaked
  rw [forget_peerWallets, forget_paymentService]
  split
  · rfl
  · next wallet hwallet =>
    split
    · rw [getCachedOrFetch_forget hapart hne hwallet]
    · rfl

/-- A lookup of the wallet of the peer itself. -/
lemma forget_getCachedOrFetch (hE : sv.peerWallets.lookup E = some wallet) :
    (sv.getCachedOrFetch chain now wallet).1.forget E = sv.forget E := by
  unfold forget
  rw [getCachedOrFetch_peerWallets, hE]
  exact invalidateWallet_getCachedOrFetch

lemma forget_getTier : (sv.getTier chain now E).1.forget E = sv.forget E := by
  unfold getTier
  split
  · rfl
  · next wallet hE =>
    split
    · exact forget_getCachedOrFetch hE
    · rfl

lemma forget_isStaked : (sv.isStaked chain now E).1.forget E = sv.forget E := by
  unfold isStaked
  split
  · rfl
  · next wallet hE =>
    split
    · exact forget_getCachedOrFetch hE
    · rfl

lemma isStaked_peerWallets : (sv.isStaked chain now p).1.peerWallets = sv.peerWallets := by
  unfold isStaked
  split
  · rfl
  split
  · exact getCachedOrFetch_peerWallets _
  · rfl

end StakeVerifier

namespace Router

variable {L : Type} (lim : RateLimiter L)

/-! ## What a peer can change -/

/-- The nonces are forgotten. -/
def hideNonces (S : List Nonce) (nt : NonceTracker) : NonceTracker :=
  { nt with seen := fun nonce => if nonce ∈ S then none else nt.seen nonce }

/-- The router without what the peer can change through messages with these nonces. -/
def hide (E : NodeID) (S : List Nonce) (r : Router L) : Router L :=
  { r with
    peerLimiters := update r.peerLimiters E none
    violationCounters := update r.violationCounters E none
    banList := r.banList.map fun bl => bl.unban E
    peerScorer := r.peerScorer.map fun ps => ps.removePeer E
    nonceTracker := r.nonceTracker.map (hideNonces S)
    stakeVerifier := r.stakeVerifier.map fun sv => sv.forget E }

/-- No other peer has the wallet of this one. -/
def Apart (E : NodeID) (r : Router L) : Prop := ∀ sv ∈ r.stakeVerifier, sv.Apart E

variable {E p : NodeID} {S : List Nonce} {now : ℤ} {chain : Chain} {r : Router L}

/-! ## The messages of others -/

section Hide

variable (hne : p ≠ E)
include hne

lemma lookupTier_hide (hapart : Apart E r) : (hide E S r).lookupTier now chain p =
      (hide E S (r.lookupTier now chain p).1, (r.lookupTier now chain p).2) := by
  cases hsv : r.stakeVerifier with
  | none => simp [lookupTier, hide, hsv]
  | some sv =>
    simp only [lookupTier, hide, hsv, Option.map_some,
      StakeVerifier.getTier_forget (hapart sv hsv) hne]

lemma ban_hide {reason : Text} {duration : Duration} :
    (hide E S r).ban now p reason duration = hide E S (r.ban now p reason duration) := by
  cases hbl : r.banList with
  | none => simp [ban, hide, hbl]
  | some bl =>
    simp only [ban, hide, hbl, Option.map_some, BanList.ban, BanList.unban]
    rw [update_comm hne]

lemma getPeerLimiter_hide (hapart : Apart E r) : getPeerLimiter lim (hide E S r) now chain p =
      (hide E S (getPeerLimiter lim r now chain p).1, (getPeerLimiter lim r now chain p).2) := by
  have hlimiter : (hide E S r).peerLimiters p = r.peerLimiters p := update_of_ne hne _ _
  unfold getPeerLimiter
  rw [hlimiter]
  split
  · rfl
  · rw [lookupTier_hide hne hapart]
    simp only [hide]
    rw [update_comm hne]

lemma askLimiter_hide (hapart : Apart E r) : askLimiter lim (hide E S r) now chain p =
      (hide E S (askLimiter lim r now chain p).1, (askLimiter lim r now chain p).2) := by
  unfold askLimiter
  rw [getPeerLimiter_hide lim hne hapart]
  simp only [hide]
  rw [update_comm hne]

lemma violationCounters_hide :
    (hide E S r).violationCounters p = r.violationCounters p := update_of_ne hne _ _

lemma autoBan_hide (hapart : Apart E r) :
    (hide E S r).autoBan now chain p = hide E S (r.autoBan now chain p) := by
  have hlist : (hide E S r).banList.isNone = r.banList.isNone := Option.isNone_map
  unfold autoBan
  rw [hlist]
  split
  · rfl
  · rw [lookupTier_hide hne hapart]
    exact ban_hide hne

lemma recordViolation_hide (hapart : Apart E r) :
    (hide E S r).recordViolation now chain p = hide E S (r.recordViolation now chain p) := by
  have hoften : (hide E S r).ViolatesTooOften now p ↔ r.ViolatesTooOften now p := by
    unfold ViolatesTooOften
    rw [violationCounters_hide hne]
  have hnext : (hide E S r).nextViolation now p = r.nextViolation now p := by
    unfold nextViolation
    rw [violationCounters_hide hne]
  unfold recordViolation
  simp only [hoften]
  split
  · rw [autoBan_hide hne hapart]
    simp only [hide]
    rw [update_comm hne]
  · rw [hnext]
    simp only [hide]
    rw [update_comm hne]

lemma recordEvent_hide {event : PeerEvent} :
    (hide E S r).recordEvent now p event = hide E S (r.recordEvent now p event) := by
  cases hps : r.peerScorer with
  | none => simp [recordEvent, hide, hps]
  | some ps =>
    have hannounced : (hide E S r).stakeVerifier.any (fun sv => sv.hasAnnounced p) =
        r.stakeVerifier.any fun sv => sv.hasAnnounced p := by
      cases hsv : r.stakeVerifier with
      | none => simp [hide, hsv]
      | some sv =>
        simp only [hide, hsv, Option.map_some, Option.any_some, StakeVerifier.hasAnnounced,
          StakeVerifier.forget_peerWallets]
    have hscore : (ps.removePeer E).scoreAfter p event = ps.scoreAfter p event := by
      simp only [PeerScorer.scoreAfter, PeerScorer.removePeer, update_of_ne hne]
    have hban : ∀ b, (ps.removePeer E).banAfter b p event = ps.banAfter b p event := by
      intro b
      unfold PeerScorer.banAfter
      rw [hscore]
      rfl
    have hrecord : (ps.removePeer E).recordEvent p event =
        (ps.recordEvent p event).removePeer E := by
      unfold PeerScorer.recordEvent
      rw [hscore]
      simp only [PeerScorer.removePeer]
      rw [update_comm hne]
    have hscorer : (hide E S r).peerScorer = some (ps.removePeer E) := by simp [hide, hps]
    unfold recordEvent
    rw [hscorer, hps]
    simp only [hannounced, hban, hrecord]
    have hscored : ({ hide E S r with peerScorer := some ((ps.recordEvent p event).removePeer E) }
        : Router L) = hide E S { r with peerScorer := some (ps.recordEvent p event) } := rfl
    rw [hscored]
    split
    · rfl
    · exact ban_hide hne

end Hide

/-! ### Wallets -/

/-- The same wallets are announced. -/
def SameWallets (r r' : Router L) : Prop :=
  r'.stakeVerifier.map StakeVerifier.peerWallets = r.stakeVerifier.map StakeVerifier.peerWallets

variable {r' : Router L} {msg : Message} {sender : Option Node} {node : Node} {nonce : Nonce}
  {r : Router L}

lemma SameWallets.trans {r r'' : Router L} (h : SameWallets r r') (h' : SameWallets r' r'') :
    SameWallets r r'' := Eq.trans h' h

lemma SameWallets.apart (h : SameWallets r r') (hapart : Apart E r) : Apart E r' := by
  intro sv hsv
  unfold SameWallets at h
  rw [hsv, Option.map_some] at h
  obtain ⟨sv₀, hsv₀, heq⟩ := Option.map_eq_some_iff.mp h.symm
  have hapart₀ := hapart sv₀ hsv₀
  unfold StakeVerifier.Apart at hapart₀ ⊢
  rwa [heq] at hapart₀

lemma sameWallets_lookupTier : SameWallets r (r.lookupTier now chain p).1 := by
  cases hsv : r.stakeVerifier with
  | none => simp [SameWallets, lookupTier, hsv]
  | some sv => simp [SameWallets, lookupTier, hsv, StakeVerifier.getTier_peerWallets]

lemma sameWallets_askLimiter : SameWallets r (askLimiter lim r now chain p).1 := by
  unfold askLimiter getPeerLimiter
  split
  · rfl
  · exact sameWallets_lookupTier

lemma sameWallets_writes {id : NodeID} :
    Writes (SameWallets (L := L)) now chain id where
  limiters _ _ := rfl
  counters _ _ := rfl
  scores _ _ _ _ := rfl
  ban _ _ _ := rfl
  tier r := sameWallets_lookupTier
  staked r sv hsv := by simp [SameWallets, hsv, StakeVerifier.isStaked_peerWallets]

lemma sameWallets_limitStage : SameWallets r (limitStage lim r now chain sender).1 := by
  cases sender with
  | none => rfl
  | some node =>
    exact (sameWallets_writes).limitStage (fun _ => rfl) SameWallets.trans r lim
      rfl

lemma sameWallets_nonceStage (h : r.nonceStage now msg = .ok r') : SameWallets r r' := by
  unfold nonceStage at h
  split at h
  · cases h
    rfl
  split at h
  · cases h
  · cases h
    rfl

lemma sameWallets_handleMessage : SameWallets r (handleMessage lim r now chain msg sender).1 :=
  writes_handleMessage (R := SameWallets) (fun _ => rfl) SameWallets.trans
    (fun _ _ => sameWallets_writes) (fun _ _ _ _ _ => rfl) lim r

/-! ### The stages -/

/-- The message is not of the peer. -/
def NotFrom (E : NodeID) (sender : Option Node) : Prop := ∀ node ∈ sender, node.id ≠ E

lemma recordSender_hide (hne : NotFrom E sender) {event : PeerEvent} :
    (hide E S r).recordSender now sender event = hide E S (r.recordSender now sender event) := by
  cases sender with
  | none => rfl
  | some node => exact recordEvent_hide (hne node rfl)

lemma limitStage_hide (hapart : Apart E r) (hne : NotFrom E sender) :
    limitStage lim (hide E S r) now chain sender =
      (hide E S (limitStage lim r now chain sender).1, (limitStage lim r now chain sender).2) := by
  cases sender with
  | none => rfl
  | some node =>
    have hother : node.id ≠ E := hne node rfl
    have hasked : Apart E (askLimiter lim r now chain node.id).1 :=
      (sameWallets_askLimiter lim).apart hapart
    unfold limitStage
    simp only [askLimiter_hide lim hother hapart]
    split
    · rfl
    · rw [recordViolation_hide hother hasked, recordEvent_hide hother]

lemma senderBanned_hide (hne : NotFrom E sender) :
    (hide E S r).SenderBanned now sender ↔ r.SenderBanned now sender := by
  refine exists_congr fun node => and_congr_right fun hnode => ?_
  cases hbl : r.banList with
  | none => simp [hide, hbl]
  | some bl =>
    simp only [hide, hbl, Option.map_some, Option.mem_some_iff, exists_eq_left',
      BanList.isBanned_unban_of_ne (hne node hnode)]

/-- A nonce that is not hidden is checked as before. -/
lemma check_hideNonces (hnonce : nonce ∉ S) (nt : NonceTracker) (now timestamp : ℤ) :
    (hideNonces S nt).check now nonce timestamp =
      (nt.check now nonce timestamp).map (hideNonces S) := by
  have hseen : (hideNonces S nt).seen nonce = nt.seen nonce := if_neg hnonce
  have hold : (hideNonces S nt).TooOld now timestamp ↔ nt.TooOld now timestamp := Iff.rfl
  have hfuture : (hideNonces S nt).TooFarInFuture now timestamp ↔
      nt.TooFarInFuture now timestamp := Iff.rfl
  unfold NonceTracker.check
  simp only [hold, hfuture, hseen]
  split
  · rfl
  split
  · rfl
  split
  · rfl
  split
  · rfl
  · -- recording one nonce and hiding others
    simp only [hideNonces, Except.map, Except.ok.injEq, NonceTracker.mk.injEq, and_true]
    funext other
    by_cases heq : other = nonce
    · subst heq
      simp [hnonce]
    · simp [update_of_ne heq]

lemma nonceStage_hide (hnonce : msg.nonce ∉ S) :
    (hide E S r).nonceStage now msg = (r.nonceStage now msg).map (hide E S) := by
  cases hnt : r.nonceTracker with
  | none => simp [nonceStage, hide, hnt, Except.map]
  | some nt =>
    have hcheck := check_hideNonces hnonce nt now msg.timestamp.nanos
    have htracker : (hide E S r).nonceTracker = some (hideNonces S nt) := by simp [hide, hnt]
    unfold nonceStage
    rw [htracker, hnt]
    simp only [hcheck]
    cases nt.check now msg.nonce msg.timestamp.nanos <;> rfl

lemma stakeStage_hide (hapart : Apart E r) (hne : NotFrom E sender) :
    (hide E S r).stakeStage now chain msg sender =
      (hide E S (r.stakeStage now chain msg sender).1, (r.stakeStage now chain msg sender).2) := by
  cases sender with
  | none => rfl
  | some node =>
    cases hsv : r.stakeVerifier with
    | none => simp [stakeStage, hide, hsv]
    | some sv =>
      have hverifier : (hide E S r).stakeVerifier = some (sv.forget E) := by simp [hide, hsv]
      unfold stakeStage
      rw [hverifier, hsv]
      dsimp only
      split
      · rw [StakeVerifier.isStaked_forget (hapart sv hsv) (hne node rfl)]
        rfl
      · rfl

lemma authenticate_hide (hapart : Apart E r) (hne : NotFrom E sender) :
    (hide E S r).authenticate now chain msg sender =
      (hide E S (r.authenticate now chain msg sender).1,
        (r.authenticate now chain msg sender).2) := by
  have hsignature : (hide E S r).signatureStage msg = r.signatureStage msg := rfl
  unfold authenticate
  rw [hsignature]
  split
  · rfl
  · rw [recordSender_hide hne]
  · rw [stakeStage_hide hapart hne]
    dsimp only
    split
    · have hhandlers : (hide E S (r.stakeStage now chain msg sender).1).handlers =
          (r.stakeStage now chain msg sender).1.handlers := rfl
      unfold dispatch
      rw [hhandlers]
      split
      · rfl
      · dsimp only
        rw [recordSender_hide hne]
    · rw [recordSender_hide hne]

/-- **The messages of others are handled as if the peer were not there.** -/
theorem handleMessage_hide (hapart : Apart E r) (hne : NotFrom E sender) (hnonce : msg.nonce ∉ S) :
    handleMessage lim (hide E S r) now chain msg sender =
      (hide E S (handleMessage lim r now chain msg sender).1,
        (handleMessage lim r now chain msg sender).2) := by
  have hlimited : Apart E (limitStage lim r now chain sender).1 :=
    (sameWallets_limitStage lim).apart hapart
  unfold handleMessage
  rw [limitStage_hide lim hapart hne]
  simp only [senderBanned_hide hne, nonceStage_hide hnonce]
  split
  · rfl
  split
  · rfl
  cases hstage : (limitStage lim r now chain sender).1.nonceStage now msg with
  | error err =>
    cases sender with
    | none => rfl
    | some node =>
      simp only [Except.map]
      rw [recordEvent_hide (hne node rfl)]
  | ok r' =>
    simp only [Except.map]
    split
    · rfl
    · rw [authenticate_hide ((sameWallets_nonceStage hstage).apart hlimited) hne]

/-! ## The messages of the peer -/

lemma hide_lookupTier : hide E S (r.lookupTier now chain E).1 = hide E S r := by
  cases hsv : r.stakeVerifier with
  | none => simp [lookupTier, hsv]
  | some sv => simp [lookupTier, hide, hsv, StakeVerifier.forget_getTier]

lemma hide_ban {reason : Text} {duration : Duration} :
    hide E S (r.ban now E reason duration) = hide E S r := by
  cases hbl : r.banList with
  | none => simp [ban, hide, hbl]
  | some bl => simp [ban, hide, hbl, BanList.ban, BanList.unban]

/-- The writes for the peer. -/
lemma hide_writes :
    Writes (fun r r' : Router L => hide E S r' = hide E S r) now chain E where
  limiters r limiter := by simp only [hide, update_idem]
  counters r entry := by simp only [hide, update_idem]
  scores r ps event hps := by
    simp [hide, hps, PeerScorer.recordEvent, PeerScorer.removePeer]
  ban r reason duration := hide_ban
  tier r := hide_lookupTier
  staked r sv hsv := by simp [hide, hsv, StakeVerifier.forget_isStaked]

/-- Recording a nonce that is hidden. -/
lemma hideNonces_check {nt nt' : NonceTracker} {timestamp : ℤ}
    (hnonce : nonce ∈ S) (h : nt.check now nonce timestamp = .ok nt') :
    hideNonces S nt' = hideNonces S nt := by
  obtain ⟨-, -, -, rfl⟩ := NonceTracker.check_eq_ok h
  simp only [hideNonces, NonceTracker.mk.injEq, and_true]
  funext other
  by_cases heq : other = nonce
  · subst heq
    simp [hnonce]
  · simp [update_of_ne heq]

/-- **The messages of the peer change nothing else.** -/
theorem hide_handleMessage (hE : node.id = E) (hnonce : msg.nonce ∈ S) :
    hide E S (handleMessage lim r now chain msg (some node)).1 = hide E S r := by
  refine writes_handleMessage (R := fun r r' => hide E S r' = hide E S r) (fun _ => rfl)
    (fun h h' => h'.trans h) ?_ ?_ lim r
  · rintro _ ⟨⟩
    rw [hE]
    exact hide_writes
  · intro r nt nt' hnt hcheck
    simp only [hide, hnt, Option.map_some, hideNonces_check hnonce hcheck]

/-- Hiding more nonces hides those that were hidden. -/
lemma hide_cons : hide E (nonce :: S) r = hide E (nonce :: S) (hide E S r) := by
  have hnonces : ∀ nt, hideNonces (nonce :: S) (hideNonces S nt) = hideNonces (nonce :: S) nt := by
    intro nt
    simp only [hideNonces, NonceTracker.mk.injEq, and_true]
    funext other
    by_cases hmem : other ∈ S <;> simp [hmem]
  have hforget : ∀ sv : StakeVerifier, (sv.forget E).forget E = sv.forget E := by
    intro sv
    cases hE : sv.peerWallets.lookup E with
    | none => simp [StakeVerifier.forget, hE]
    | some wallet =>
      simp [StakeVerifier.forget, hE, StakeVerifier.invalidateWallet]
  simp only [hide, update_idem, Option.map_map]
  congr 1
  · cases r.banList <;> simp [BanList.unban]
  · cases r.stakeVerifier <;> simp [hforget]
  · cases r.nonceTracker <;> simp [hnonces]
  · cases r.peerScorer <;> simp [PeerScorer.removePeer]

end Router

open Router

/-! ## Two runs -/

/-- A message that is received, with its time, its sender and the answers of the chain. Of two runs
that are compared, only the first receives the messages that are marked. -/
structure Delivery where
  now : ℤ
  chain : Chain
  msg : Message
  sender : Option Node
  extra : Bool

/-- The message is of the peer. -/
def Delivery.isFrom (E : NodeID) (d : Delivery) : Bool := d.sender.any fun node => node.id = E

/-- A message is handled. -/
def receive {L : Type} (lim : RateLimiter L) (r : Router L) (d : Delivery) : Router L × Verdict :=
  handleMessage lim r d.now d.chain d.msg d.sender

/-- The messages that are not of the peer, and which of them are accepted. -/
def acceptedOthers {L : Type} (lim : RateLimiter L) (E : NodeID) (r : Router L)
    (ds : List Delivery) : List (Delivery × Bool) :=
  ((answers (receive lim) r ds).filter fun x => !x.1.isFrom E).map fun x =>
    (x.1, decide x.2.Accepted)

variable {E : NodeID} {d : Delivery} {S : List Nonce}

lemma Delivery.notFrom (h : d.isFrom E = false) : NotFrom E d.sender := by
  intro node hnode heq
  rw [Option.mem_def] at hnode
  simp [Delivery.isFrom, hnode, heq] at h

lemma Delivery.exists_of_isFrom (h : d.isFrom E = true) :
    ∃ node, d.sender = some node ∧ node.id = E := by
  cases hsender : d.sender with
  | none => simp [Delivery.isFrom, hsender] at h
  | some node =>
    rw [Delivery.isFrom, hsender, Option.any_some, decide_eq_true_eq] at h
    exact ⟨node, rfl, h⟩

/-- No message of another peer has a nonce that a message of the peer had before. -/
def NoncesApart (E : NodeID) (ds : List Delivery) : Prop :=
  ds.Pairwise fun d d' => d.isFrom E = true → d'.isFrom E = false → d.msg.nonce ≠ d'.msg.nonce

/-- The nonces of the peer are hidden as it uses them. -/
lemma NoncesApart.admits {ds : List Delivery} (h : NoncesApart E ds)
    (hS : ∀ d ∈ ds, d.isFrom E = false → d.msg.nonce ∉ S) :
    Admits (Delivery.isFrom E) (fun S d => d.msg.nonce :: S) (fun S d => d.msg.nonce ∉ S) S
      ds := by
  induction ds generalizing S with
  | nil => trivial
  | cons d ds ih =>
    obtain ⟨hd, hds⟩ := List.pairwise_cons.mp h
    unfold Admits
    cases hfrom : d.isFrom E with
    | true =>
      refine ih hds ?_
      intro d' hd' hother
      rw [List.mem_cons, not_or]
      exact ⟨fun heq => hd d' hd' hfrom hother heq.symm, hS d' (List.mem_cons_of_mem d hd') hother⟩
    | false =>
      exact ⟨hS d List.mem_cons_self hfrom, ih hds fun d' hd' => hS d' (List.mem_cons_of_mem d hd')⟩

lemma receive_hide {L : Type} (lim : RateLimiter L) {r : Router L}
    (hapart : Apart E r) (hfrom : d.isFrom E = false) (hnonce : d.msg.nonce ∉ S) :
    receive lim (hide E S r) d = (hide E S (receive lim r d).1, (receive lim r d).2) :=
  handleMessage_hide lim hapart (Delivery.notFrom hfrom) hnonce

/-- The router handles messages of others by what it is without the peer. -/
lemma unwinding_receive {L : Type} (lim : RateLimiter L) :
    Unwinding (receive lim) (Delivery.isFrom E) (fun S d => d.msg.nonce :: S)
      (fun S d => d.msg.nonce ∉ S) (hide E) (Apart E) where
  invariant r d hapart := (sameWallets_handleMessage lim).apart hapart
  coarser S d r r' hview := by
    rw [hide_cons, hview, ← hide_cons]
  hidden S d r _ hfrom := by
    obtain ⟨node, hsender, hE⟩ := Delivery.exists_of_isFrom hfrom
    unfold receive
    rw [hsender]
    exact hide_handleMessage lim hE List.mem_cons_self
  answer S d r r' hr hr' hfrom hnonce hview := by
    have hleft := receive_hide lim hr hfrom hnonce
    have hright := receive_hide lim hr' hfrom hnonce
    rw [hview, hright] at hleft
    exact (congrArg Prod.snd hleft).symm
  after S d r r' hr hr' hfrom hnonce hview := by
    have hleft := receive_hide lim hr hfrom hnonce
    have hright := receive_hide lim hr' hfrom hnonce
    rw [hview, hright] at hleft
    exact (congrArg Prod.fst hleft).symm

/-- **A peer does not suppress the messages of others.** Two runs receive the same messages, except
that one of them receives further messages of one peer. If no other peer has the wallet of that one,
and no message of another peer has a nonce that a message of that one had before, then the same
messages of other peers are accepted in both runs. -/
theorem accepted_others_eq {L : Type} (lim : RateLimiter L) {E : NodeID} {r : Router L}
    (hapart : Apart E r) {ds : List Delivery}
    (hextra : ∀ d ∈ ds, d.extra = true → d.isFrom E = true) (hnonces : NoncesApart E ds) :
    acceptedOthers lim E r ds = acceptedOthers lim E r (ds.filter fun d => !d.extra) := by
  have hkeep : ∀ d ∈ ds, (!d.extra) = false → d.isFrom E = true := by
    intro d hd hmark
    rw [Bool.not_eq_false'] at hmark
    exact hextra d hd hmark
  have hadmits := hnonces.admits fun d _ _ => List.not_mem_nil
  unfold acceptedOthers
  rw [(unwinding_receive lim).answers_filter_eq hkeep hapart hapart rfl hadmits]

/-! ## A message that takes the nonce of another -/

/-- A router that checks nonces and has a handler for one type of messages. -/
def openRouter : Router TokenBucket :=
  { newRouter TokenBucket none none with
    nonceTracker := some newNonceTracker
    handlers := fun type => if type = text "ping" then some fun _ _ => none else none }

/-- A node with an identity of equal bytes. -/
def peerNode (b : UInt8) : Node := ⟨List.Vector.replicate 32 b, text "8.8.8.8:9000", 9000, []⟩

/-- A message of such a node, with a nonce of equal bytes. -/
def pingFrom (b nonce : UInt8) (version : UInt32) (extra : Bool) : Delivery where
  now := 1000
  chain := fun _ => ⟨none, none⟩
  msg := ⟨text "ping", List.Vector.replicate 32 b, List.Vector.replicate 32 0, none, ⟨1000, 0⟩,
    List.Vector.replicate 24 nonce, [], version⟩
  sender := some (peerNode b)
  extra := extra

/-- **A message that is rejected suppresses another.** A peer sends a message of a version that does
not exist, with the nonce of a message that another peer is about to send. Its own message is
rejected, and so is then the other, which is accepted in the run without it. -/
theorem rejected_message_suppresses :
    let ds := [pingFrom 5 1 2 true, pingFrom 6 1 1 false]
    (answers (receive tokenBucket) openRouter ds).map (·.2) =
        [.newerVersion, .nonceRefused .duplicate] ∧
      (answers (receive tokenBucket) openRouter (ds.filter fun d => !d.extra)).map (·.2) =
        [.handled none] ∧
      acceptedOthers tokenBucket (peerNode 5).id openRouter ds ≠
        acceptedOthers tokenBucket (peerNode 5).id openRouter (ds.filter fun d => !d.extra) := by
  refine ⟨by decide +kernel, by decide +kernel, fun heq => ?_⟩
  have hverdicts := congrArg (List.map Prod.snd) heq
  revert hverdicts
  decide +kernel

/-- The same with a nonce of its own. -/
theorem accepted_others_eq_own_nonce :
    let ds := [pingFrom 5 2 2 true, pingFrom 6 1 1 false]
    (answers (receive tokenBucket) openRouter ds).map (·.2) = [.newerVersion, .handled none] ∧
      acceptedOthers tokenBucket (peerNode 5).id openRouter ds =
        acceptedOthers tokenBucket (peerNode 5).id openRouter (ds.filter fun d => !d.extra) := by
  refine ⟨by decide +kernel, accepted_others_eq tokenBucket (fun sv hsv => by cases hsv) ?_ ?_⟩
  · decide +kernel
  · unfold NoncesApart
    decide +kernel

end Moltbunker.P2p
