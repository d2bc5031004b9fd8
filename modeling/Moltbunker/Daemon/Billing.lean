import Moltbunker.Contracts.Escrow.Turn
import Moltbunker.Daemon.Deployment

/-!
# What a requester pays for

`Stop`, `Start`, `Delete` and `FinalizeAllEscrows` of `internal/daemon/container_manager.go` on one
deployment, together with its reservation on `BunkerEscrow`. The daemon releases a share for the
uptime and then finalizes the reservation; the contract pays everything that is left to the
providers when it is finalized. A refund pays the providers for the time since they were selected,
whether the container ran or not.

Every call to the chain succeeds here: a step in which one fails is no step. A call of the daemon
happens at one time, and its transactions carry their own block times. What was paid is read off the
turns that the transactions take on the reservation (`Reservation.turn`).

* `billed_for_uptime` — if the reservation is finalized only once the container has run for the
  whole duration, and refunded only when the container has run for as long as has passed, then the
  providers get no more than the share of the running time and the requester gets the rest;
* `stopped_early` — a container that is stopped after a tenth of the duration costs everything.
-/

namespace Moltbunker.Daemon.Billing

open Lib
open Contracts (Address Msg)
open Contracts.Escrow

/-! ## The daemon and the chain -/

/-- The deployment, the reservation that the client has cached for it, the chain, and a record of
the time that the container has run and of what was paid. -/
structure Book where
  now : ℕ
  deployment : Option Deployment
  cached : Option ℕ
  storage : Storage
  /-- how long the container has run, in nanoseconds -/
  ran : ℕ
  /-- what was distributed to the providers, with the fee -/
  gross : ℕ
  toRequester : ℕ

/-- A call of the daemon: its time, whether containerd did what it was asked to, and the messages
of the transactions. -/
inductive Action where
  | stop (now : ℕ) (stopped : Bool) (release close : Msg)
  | start (now : ℕ) (started : Bool)
  | delete (now : ℕ) (release close : Msg)
  | finalizeAllEscrows (now : ℕ) (release close : Msg)

/-- The time of a call. -/
def Action.now : Action → ℕ
  | .stop now _ _ _ => now
  | .start now _ => now
  | .delete now _ _ => now
  | .finalizeAllEscrows now _ _ => now

namespace Book

variable (b : Book)

/-- The container is running. -/
def running : Bool := b.deployment.any fun d => d.status == .running

/-- How long the container will have run at `now`. -/
def ranUntil (now : ℕ) : ℕ := if b.running then b.ran + (now - b.now) else b.ran

/-- Time passes. -/
def tick (now : ℕ) : Book := { b with now := now, ran := b.ranUntil now }

/-- The reservation `r`. -/
def reservation (r : ℕ) : Reservation := b.storage.reservations r

/-- A transaction on the reservation `r`. -/
def transact (m : Msg) (r : ℕ) (c : ExtCall) : Option Book :=
  match exec m b.storage c with
  | .error _ => none
  | .ok out => some { b with
      storage := out.1
      gross := b.gross + ((b.reservation r).turn m.timestamp c).2.gross
      toRequester := b.toRequester + ((b.reservation r).turn m.timestamp c).2.toRequester }

/-- Without a cached reservation `getReservationID` fails, and there is no transaction. -/
def onReservation (f : ℕ → Option Book) : Option Book :=
  match b.cached with
  | none => some b
  | some r => f r

/-- `ReleaseJobPayment` -/
def releaseJobPayment (m : Msg) (uptime : ℕ) : Option Book :=
  b.onReservation fun r => b.transact m r (.releasePayment r (uptimeSecs uptime))

/-- `removeReservationID` -/
def removeReservationID : Book := { b with cached := none }

/-- `FinalizeJob` -/
def finalizeJob (m : Msg) : Option Book :=
  b.onReservation fun r => (b.transact m r (.finalizeReservation r)).map removeReservationID

/-- `RefundJob` -/
def refundJob (m : Msg) : Option Book :=
  b.onReservation fun r => (b.transact m r (.refund r)).map removeReservationID

/-- The release for the time since `StartedAt`, if that is set, and the end of the reservation. -/
def settle (startedAt : Option ℕ) (release close : Msg) : Option Book :=
  match startedAt with
  | none => b.finalizeJob close
  | some t => (b.releaseJobPayment release (b.now - t)).bind fun b => b.finalizeJob close

/-- The deployment is written back. -/
def put (d : Option Deployment) : Book := { b with deployment := d }

/-- `Stop` -/
def stop (stopped : Bool) (release close : Msg) : Option Book :=
  match b.deployment with
  | none => some b
  | some d =>
    if stopped = false then some b
    else if d.originated = true then
      (b.settle d.startedAt release close).map fun b => b.put (some (d.stop b.now))
    else some (b.put (some (d.stop b.now)))

/-- `Start` -/
def start (started : Bool) : Book :=
  match b.deployment with
  | none => b
  | some d =>
    if d.startRefused b.now ∨ started = false then b else b.put (some (d.start b.now))

/-- `Delete` -/
def delete (release close : Msg) : Option Book :=
  match b.deployment with
  | none => some b
  | some d =>
    if d.originated = true then
      if d.status = .running then (b.put none).settle d.startedAt release close
      else if d.status = .stopped then (b.put none).finalizeJob close
      else (b.put none).refundJob close
    else some (b.put none)

/-- `FinalizeAllEscrows`, for the one deployment. -/
def finalizeAllEscrows (release close : Msg) : Option Book :=
  match b.deployment with
  | none => some b
  | some d =>
    if d.status = .running ∧ d.startedAt ≠ none ∧ d.originated = true then
      b.settle d.startedAt release close
    else some b

/-- One call. The clock does not go back. -/
def next (a : Action) : Option Book :=
  if a.now < b.now then none else
  match a with
  | .stop now stopped release close => (b.tick now).stop stopped release close
  | .start now started => some ((b.tick now).start started)
  | .delete now release close => (b.tick now).delete release close
  | .finalizeAllEscrows now release close => (b.tick now).finalizeAllEscrows release close

/-- The duration of the reservation, in nanoseconds. -/
def duration (r : ℕ) : ℕ := (b.reservation r).duration.toNat * second

end Book

/-- The step relation. -/
def Step (b : Book) (a : Action) (b' : Book) : Prop := b.next a = some b'

/-! ## What is paid for -/

/-- The providers got at most the share of the running time. -/
def Proportional (r : ℕ) (b : Book) : Prop :=
  b.gross * b.duration r ≤ (b.reservation r).totalAmount.toNat * min b.ran (b.duration r)

instance (r : ℕ) (b : Book) : Decidable (Proportional r b) := inferInstanceAs (Decidable (_ ≤ _))

/-- The providers got at most the share of the running time, and once the reservation is closed the
requester has got the rest. -/
def Fair (r : ℕ) (b : Book) : Prop :=
  Proportional r b ∧
    (¬ (b.reservation r).Open → b.gross + b.toRequester = (b.reservation r).totalAmount.toNat)

instance (r : ℕ) (b : Book) : Decidable (Fair r b) := inferInstanceAs (Decidable (_ ∧ _))

/-- The reservation is active, and what was released of it so far went to the providers and is no
more than the share of the running time. -/
structure Begun (r : ℕ) (b : Book) : Prop where
  cached : ∀ x ∈ b.cached, x = r
  active : (b.reservation r).status = .active
  gross : b.gross = (b.reservation r).releasedAmount.toNat
  toRequester : b.toRequester = 0
  within : (b.reservation r).releasedAmount.toNat ≤ (b.reservation r).totalAmount.toNat
  proportional : Proportional r b

/-- The call finalizes the reservation of the deployment. -/
def Action.finalizes (d : Deployment) : Action → Prop
  | .stop _ stopped _ _ => stopped = true
  | .start _ _ => False
  | .delete _ _ _ => d.status = .running ∨ d.status = .stopped
  | .finalizeAllEscrows _ _ _ => d.status = .running ∧ d.startedAt ≠ none

instance (d : Deployment) : (a : Action) → Decidable (a.finalizes d)
  | .stop _ stopped _ _ => inferInstanceAs (Decidable (stopped = true))
  | .start _ _ => inferInstanceAs (Decidable False)
  | .delete _ _ _ => inferInstanceAs (Decidable (_ ∨ _))
  | .finalizeAllEscrows _ _ _ => inferInstanceAs (Decidable (_ ∧ _))

/-- The time on the chain at which the call refunds the reservation of the deployment, if it
does. -/
def Action.refundTime (d : Deployment) : Action → Option ℕ
  | .delete _ _ close =>
    if d.status = .running ∨ d.status = .stopped then none else some close.timestamp
  | _ => none

/-- A call that finalizes the reservation is made when the container has run for the whole duration,
and one that refunds it when the container has run for as long as has passed since the start of the
reservation. -/
def PaidFor (r : ℕ) (b : Book) (a : Action) : Prop :=
  ∀ d ∈ b.deployment, d.originated = true → b.cached = some r →
    (a.finalizes d → b.duration r ≤ b.ranUntil a.now) ∧
      ∀ t ∈ a.refundTime d, (b.reservation r).elapsed t * second ≤ b.ranUntil a.now

instance (r : ℕ) (b : Book) (a : Action) : Decidable (PaidFor r b a) :=
  inferInstanceAs (Decidable (∀ d ∈ b.deployment, d.originated = true → b.cached = some r →
    (a.finalizes d → b.duration r ≤ b.ranUntil a.now) ∧
      ∀ t ∈ a.refundTime d, (b.reservation r).elapsed t * second ≤ b.ranUntil a.now))

/-! ## Transactions -/

/-- What was paid is what was released of the reservation. -/
structure Accounts (r : ℕ) (b : Book) : Prop where
  cached : ∀ x ∈ b.cached, x = r
  booked : b.gross + b.toRequester = (b.reservation r).releasedAmount.toNat
  within : (b.reservation r).releasedAmount.toNat ≤ (b.reservation r).totalAmount.toNat
  closed : ¬ (b.reservation r).Open →
    (b.reservation r).releasedAmount = (b.reservation r).totalAmount
  toRequester : (b.reservation r).Open → b.toRequester = 0

lemma Begun.accounts {r : ℕ} {b : Book} (h : Begun r b) : Accounts r b where
  cached := h.cached
  booked := by rw [h.gross, h.toRequester, Nat.add_zero]
  within := h.within
  closed := fun hclosed => absurd (Or.inr h.active) hclosed
  toRequester := fun _ => h.toRequester

lemma Accounts.fair {r : ℕ} {b : Book} (h : Accounts r b) (hp : Proportional r b) : Fair r b := by
  refine ⟨hp, ?_⟩
  intro hclosed
  rw [h.booked, h.closed hclosed]

/-- A call of the daemon left the terms of the reservation and the running time as they were, and
kept the accounts. -/
structure Kept (r : ℕ) (b b' : Book) : Prop where
  accounts : Accounts r b'
  totalAmount : (b'.reservation r).totalAmount = (b.reservation r).totalAmount
  duration : (b'.reservation r).duration = (b.reservation r).duration
  ran : b'.ran = b.ran

variable {r : ℕ} {b b' b'' : Book}

lemma Kept.refl (h : Accounts r b) : Kept r b b := ⟨h, rfl, rfl, rfl⟩

lemma Kept.trans (h : Kept r b b') (h' : Kept r b' b'') : Kept r b b'' where
  accounts := h'.accounts
  totalAmount := h'.totalAmount.trans h.totalAmount
  duration := h'.duration.trans h.duration
  ran := h'.ran.trans h.ran

/-- What the daemon does to the deployment is not in the accounts. -/
lemma Kept.put (h : Kept r b b') (d : Option Deployment) : Kept r b (b'.put d) :=
  ⟨⟨h.accounts.cached, h.accounts.booked, h.accounts.within, h.accounts.closed,
    h.accounts.toRequester⟩, h.totalAmount, h.duration, h.ran⟩

lemma Kept.removeReservationID (h : Kept r b b') : Kept r b b'.removeReservationID :=
  ⟨⟨fun _ hx => absurd hx (Option.not_mem_none _), h.accounts.booked, h.accounts.within,
    h.accounts.closed, h.accounts.toRequester⟩, h.totalAmount, h.duration, h.ran⟩

variable {m release close : Msg}

lemma transact_eq_some {c : ExtCall} (h : b.transact m r c = some b') :
    ∃ out, exec m b.storage c = .ok out ∧ b' = { b with
      storage := out.1
      gross := b.gross + ((b.reservation r).turn m.timestamp c).2.gross
      toRequester := b.toRequester + ((b.reservation r).turn m.timestamp c).2.toRequester } := by
  unfold Book.transact at h
  split at h
  · cases h
  · next out hexec => exact ⟨out, hexec, (Option.some.inj h).symm⟩

/-- **A transaction of the daemon keeps the accounts.** It takes its turn on the reservation, which
books what it pays; the terms stay, and an open reservation has returned nothing. -/
theorem transact_kept {c : ExtCall} (hb : Accounts r b)
    (hturned : ∀ out, exec m b.storage c = .ok out → Turned m b.storage r c out)
    (hterms : ((b.reservation r).turn m.timestamp c).1.totalAmount = (b.reservation r).totalAmount ∧
      ((b.reservation r).turn m.timestamp c).1.duration = (b.reservation r).duration)
    (hreturns : ((b.reservation r).turn m.timestamp c).1.Open →
      ((b.reservation r).turn m.timestamp c).2.toRequester = 0) (h : b.transact m r c = some b') :
    Kept r b b' := by
  obtain ⟨out, hexec, rfl⟩ := transact_eq_some h
  have ht := hturned out hexec
  have hres : out.1.reservations r = ((b.reservation r).turn m.timestamp c).1 := by
    rw [ht.storage.reservations]
    exact Function.update_self ..
  have hbooked : Booked (b.reservation r) ((b.reservation r).turn m.timestamp c) := ht.booked
  refine ⟨⟨hb.cached, ?_, ?_, ?_, ?_⟩, ?_, ?_, rfl⟩
  · show b.gross + _ + (b.toRequester + _) = (out.1.reservations r).releasedAmount.toNat
    rw [hres, hbooked.releasedAmount, ← hb.booked]
    omega
  · show (out.1.reservations r).releasedAmount.toNat ≤ (out.1.reservations r).totalAmount.toNat
    rw [hres]
    exact hbooked.released_le hb.within
  · show ¬ (out.1.reservations r).Open → _ = (out.1.reservations r).totalAmount
    rw [show Book.reservation _ r = out.1.reservations r from rfl, hres]
    exact hbooked.closed
  · show (out.1.reservations r).Open → b.toRequester + _ = 0
    rw [hres]
    intro hopen
    rw [hb.toRequester ht.isOpen, hreturns hopen]
  · exact (congrArg Reservation.totalAmount hres).trans hterms.1
  · exact (congrArg Reservation.duration hres).trans hterms.2

/-- A call on the cached reservation makes none, or is on `r`. -/
lemma onReservation_cases {f : ℕ → Option Book} (hb : Accounts r b)
    (h : b.onReservation f = some b') :
    (b.cached = none ∧ b' = b) ∨ (b.cached = some r ∧ f r = some b') := by
  unfold Book.onReservation at h
  split at h
  · next hnone => exact .inl ⟨hnone, (Option.some.inj h).symm⟩
  · next x hx =>
    obtain rfl := hb.cached x hx
    exact .inr ⟨hx, h⟩

/-- The calls of the daemon keep the accounts, and change nothing without a cached reservation. -/
def Settles (r : ℕ) (b b' : Book) : Prop := Kept r b b' ∧ (b.cached ≠ some r → b'.gross = b.gross)

lemma transact_release {seconds : ℕ} (hb : Accounts r b)
    (h : b.transact m r (.releasePayment r seconds) = some b') :
    Kept r b b' ∧ b'.cached = b.cached := by
  have hkept : Kept r b b' :=
    transact_kept (m := m) (c := .releasePayment r seconds) hb (fun _ => releasePayment_turned)
      ⟨rfl, rfl⟩ (fun _ => rfl) h
  obtain ⟨out, -, rfl⟩ := transact_eq_some h
  exact ⟨hkept, rfl⟩

lemma releaseJobPayment_settles {uptime : ℕ} (hb : Accounts r b)
    (h : b.releaseJobPayment m uptime = some b') : Settles r b b' ∧ b'.cached = b.cached := by
  rcases onReservation_cases hb h with ⟨-, rfl⟩ | ⟨hcached, h⟩
  · exact ⟨⟨.refl hb, fun _ => rfl⟩, rfl⟩
  · obtain ⟨hkept, hsame⟩ := transact_release hb h
    exact ⟨⟨hkept, fun hne => absurd hcached hne⟩, hsame⟩

lemma finalizeJob_settles (hb : Accounts r b) (h : b.finalizeJob m = some b') :
    Settles r b b' := by
  rcases onReservation_cases hb h with ⟨-, rfl⟩ | ⟨hcached, h⟩
  · exact ⟨.refl hb, fun _ => rfl⟩
  · obtain ⟨b₁, htx, rfl⟩ := Option.map_eq_some_iff.mp h
    have hkept : Kept r b b₁ :=
      transact_kept (m := m) (c := .finalizeReservation r) hb
        (fun _ => finalizeReservation_turned) ⟨rfl, rfl⟩ (fun _ => rfl) htx
    exact ⟨hkept.removeReservationID, fun hne => absurd hcached hne⟩

lemma settle_settles {startedAt : Option ℕ} (hb : Accounts r b)
    (h : b.settle startedAt release close = some b') : Settles r b b' := by
  unfold Book.settle at h
  split at h
  · exact finalizeJob_settles hb h
  · obtain ⟨b₁, hrelease, hclose⟩ := Option.bind_eq_some_iff.mp h
    obtain ⟨⟨hkept, hsame⟩, hcached⟩ := releaseJobPayment_settles hb hrelease
    obtain ⟨hkept', hsame'⟩ := finalizeJob_settles hkept.accounts hclose
    refine ⟨hkept.trans hkept', ?_⟩
    intro hne
    rw [hsame' (by rwa [hcached]), hsame hne]

/-! ## The share of the running time -/

lemma Kept.duration_eq (h : Kept r b b') : b'.duration r = b.duration r := by
  unfold Book.duration
  rw [h.duration]

/-- Without a payment the share is kept. -/
lemma Proportional.of_gross_eq (hp : Proportional r b) (hk : Kept r b b')
    (hgross : b'.gross = b.gross) : Proportional r b' := by
  unfold Proportional
  rw [hgross, hk.duration_eq, hk.totalAmount, hk.ran]
  exact hp

/-- The providers never get more than everything, which is the share of the whole duration. -/
lemma Accounts.proportional (h : Accounts r b) (hran : b.duration r ≤ b.ran) :
    Proportional r b := by
  have hgross : b.gross ≤ (b.reservation r).totalAmount.toNat := by
    have hbooked := h.booked
    have hwithin := h.within
    omega
  unfold Proportional
  rw [min_eq_right hran]
  exact Nat.mul_le_mul_right _ hgross

/-- **A refund.** The providers get what they have not yet got of the time that has passed. -/
theorem refundJob_proportional (hb : Accounts r b) (hp : Proportional r b)
    (hran : b.cached = some r → (b.reservation r).elapsed m.timestamp * second ≤ b.ran)
    (h : b.refundJob m = some b') : Kept r b b' ∧ Proportional r b' := by
  rcases onReservation_cases hb h with ⟨-, rfl⟩ | ⟨hcached, h⟩
  · exact ⟨.refl hb, hp⟩
  obtain ⟨b₁, htx, rfl⟩ := Option.map_eq_some_iff.mp h
  have hclosed : ∀ res : Reservation, ¬ (res.turn m.timestamp (.refund r)).1.Open := by
    intro res hopen
    rcases hopen with hopen | hopen <;> exact Status.noConfusion hopen
  have hkept : Kept r b b₁ :=
    transact_kept (m := m) (c := .refund r) hb (fun _ => refund_turned) ⟨rfl, rfl⟩
      (fun hopen => absurd hopen (hclosed _)) htx
  refine ⟨hkept.removeReservationID, ?_⟩
  show b₁.gross * b₁.duration r ≤ (b₁.reservation r).totalAmount.toNat * min b₁.ran (b₁.duration r)
  rw [hkept.duration_eq, hkept.totalAmount, hkept.ran]
  obtain ⟨out, hexec, rfl⟩ := transact_eq_some htx
  -- nothing was returned yet, so what was released is what the providers got
  have hgross : b.gross = (b.reservation r).releasedAmount.toNat := by
    rw [← hb.booked, hb.toRequester (refund_turned hexec).isOpen, Nat.add_zero]
  have hpaid : b.gross + (b.reservation r).earned m.timestamp ≤
      max b.gross ((b.reservation r).due ((b.reservation r).elapsed m.timestamp)) := by
    unfold Reservation.earned
    split <;> omega
  have hdue : (b.reservation r).due ((b.reservation r).elapsed m.timestamp) * b.duration r ≤
      (b.reservation r).totalAmount.toNat * min b.ran (b.duration r) := by
    refine le_trans ?_ (Nat.mul_le_mul_left _
      (le_min (hran hcached) (Nat.mul_le_mul_right _ (min_le_right _ _))))
    -- what is due for some seconds is within their share
    unfold Book.duration
    rw [← Nat.mul_assoc, ← Nat.mul_assoc]
    exact Nat.mul_le_mul_right _ (Nat.div_mul_le_self _ _)
  rcases le_max_iff.mp hpaid with hle | hle
  · exact (Nat.mul_le_mul_right _ hle).trans hp
  · exact (Nat.mul_le_mul_right _ hle).trans hdue

/-! ## Calls and runs -/

/-- The accounts are right and the share is kept. -/
def Good (r : ℕ) (b : Book) : Prop := Accounts r b ∧ Proportional r b

lemma Settles.good (h : Settles r b b') (hb : Good r b)
    (hran : b.cached = some r → b.duration r ≤ b.ran) : Good r b' := by
  refine ⟨h.1.accounts, ?_⟩
  by_cases hcached : b.cached = some r
  · apply h.1.accounts.proportional
    rw [h.1.duration_eq, h.1.ran]
    exact hran hcached
  · exact hb.2.of_gross_eq h.1 (h.2 hcached)

lemma Good.put (h : Good r b) (d : Option Deployment) : Good r (b.put d) :=
  ⟨((Kept.refl h.1).put d).accounts, h.2⟩

lemma ran_le_ranUntil {now : ℕ} : b.ran ≤ b.ranUntil now := by
  unfold Book.ranUntil
  split
  · exact Nat.le_add_right _ _
  · exact le_rfl

/-- Time only adds to the share. -/
lemma Good.tick (h : Good r b) {now : ℕ} : Good r (b.tick now) := by
  refine ⟨⟨h.1.cached, h.1.booked, h.1.within, h.1.closed, h.1.toRequester⟩, ?_⟩
  refine le_trans h.2 (Nat.mul_le_mul_left _ ?_)
  exact min_le_min_right _ ran_le_ranUntil

lemma stop_good {stopped : Bool} (hb : Good r b)
    (hran : ∀ d ∈ b.deployment, d.originated = true → b.cached = some r → stopped = true →
      b.duration r ≤ b.ran) (h : b.stop stopped release close = some b') : Good r b' := by
  unfold Book.stop at h
  split at h
  · exact Option.some.inj h ▸ hb
  · next d hd =>
    split_ifs at h with hstopped horiginated
    · exact Option.some.inj h ▸ hb
    · obtain ⟨b₁, hsettle, rfl⟩ := Option.map_eq_some_iff.mp h
      apply Good.put
      apply (settle_settles hb.1 hsettle).good hb
      intro hcached
      exact hran d hd horiginated hcached (Bool.eq_true_of_not_eq_false hstopped)
    · exact Option.some.inj h ▸ hb.put _

lemma start_good {started : Bool} (hb : Good r b) : Good r (b.start started) := by
  unfold Book.start
  split
  · exact hb
  · split_ifs
    · exact hb
    · exact hb.put _

lemma delete_good (hb : Good r b)
    (hfinal : ∀ d ∈ b.deployment, d.originated = true → b.cached = some r →
      d.status = .running ∨ d.status = .stopped → b.duration r ≤ b.ran)
    (hrefund : ∀ d ∈ b.deployment, d.originated = true → b.cached = some r →
      d.status ≠ .running → d.status ≠ .stopped →
      (b.reservation r).elapsed close.timestamp * second ≤ b.ran)
    (h : b.delete release close = some b') : Good r b' := by
  unfold Book.delete at h
  split at h
  · exact Option.some.inj h ▸ hb
  · next d hd =>
    have hput := hb.put (r := r) none
    split_ifs at h with horiginated hrunning hstopped
    · apply (settle_settles hput.1 h).good hput
      intro hcached
      exact hfinal d hd horiginated hcached (.inl hrunning)
    · apply (finalizeJob_settles hput.1 h).good hput
      intro hcached
      exact hfinal d hd horiginated hcached (.inr hstopped)
    · obtain ⟨hkept, hp⟩ := refundJob_proportional hput.1 hput.2
        (fun hcached => hrefund d hd horiginated hcached hrunning hstopped) h
      exact ⟨hkept.accounts, hp⟩
    · exact Option.some.inj h ▸ hput

lemma finalizeAllEscrows_good (hb : Good r b)
    (hran : ∀ d ∈ b.deployment, d.originated = true → b.cached = some r →
      d.status = .running ∧ d.startedAt ≠ none → b.duration r ≤ b.ran)
    (h : b.finalizeAllEscrows release close = some b') : Good r b' := by
  unfold Book.finalizeAllEscrows at h
  split at h
  · exact Option.some.inj h ▸ hb
  · next d hd =>
    split_ifs at h with hcond
    · apply (settle_settles hb.1 h).good hb
      intro hcached
      exact hran d hd hcond.2.2 hcached ⟨hcond.1, hcond.2.1⟩
    · exact Option.some.inj h ▸ hb

/-- **One call** that meets the condition keeps the accounts and the share. -/
theorem step_good {a : Action} (hb : Good r b) (hG : PaidFor r b a) (hs : Step b a b') :
    Good r b' := by
  unfold Step Book.next at hs
  split_ifs at hs
  cases a with
  | stop now stopped release close =>
    refine stop_good hb.tick ?_ hs
    intro d hd horiginated hcached hstopped
    exact (hG d hd horiginated hcached).1 hstopped
  | start now started => exact Option.some.inj hs ▸ start_good hb.tick
  | delete now release close =>
    refine delete_good hb.tick ?_ ?_ hs
    · intro d hd horiginated hcached hstatus
      exact (hG d hd horiginated hcached).1 hstatus
    · intro d hd horiginated hcached hrunning hstopped
      apply (hG d hd horiginated hcached).2
      exact if_neg (not_or.mpr ⟨hrunning, hstopped⟩)
  | finalizeAllEscrows now release close =>
    refine finalizeAllEscrows_good hb.tick ?_ hs
    intro d hd horiginated hcached hstatus
    exact (hG d hd horiginated hcached).1 hstatus

/-- **Billed for uptime.** From every state with an active reservation, in every run of calls in
which every transaction succeeds: if the reservation is finalized only when the container has run
for its whole duration, and refunded only when it has run for as long as has passed since the start,
then in every state the providers have got at most the share of the running time, and once the
reservation is closed the requester has got the rest. -/
theorem billed_for_uptime {l : List (Action × Book)} (hb : Begun r b) (hl : Path Step b l)
    (hG : StepsMeet (PaidFor r) b l) : StatesMeet (Fair r) b l := by
  have hgood : StatesMeet (Good r) b l :=
    Path.invariant_of_steps (P := Good r) (fun _ _ _ h hG hs => step_good h hG hs)
      ⟨hb.accounts, hb.proportional⟩ hl hG
  exact hgood.mono fun _ h => h.1.fair h.2

/-! ## A container and its reservation -/

/-- The reservation `1` of `1000` for a hundred seconds. -/
def hundredSeconds : Reservation :=
  { Reservation.zero with
    requester := 3
    totalAmount := 1000
    duration := 100
    startTime := 1000
    status := .active
    providers := fun _ => 5 }

/-- The container has just been started, and account `9` is the operator. -/
def justStarted : Book where
  now := 0
  deployment := some ⟨.running, some 0, none, none, true, text "1", false⟩
  cached := some 1
  storage := { Storage.deployed 7 8 with
    reservations := fun _ => hundredSeconds
    isOperator := fun a => a == 9 }
  ran := 0
  gross := 0
  toRequester := 0

/-- The message of a transaction of the daemon. -/
def operatorAt (t : ℕ) : Msg := ⟨9, t, 1000⟩

/-- `Stop` after some seconds. -/
def stopAfter (seconds : ℕ) : Action :=
  .stop (seconds * second) true (operatorAt (1000 + seconds)) (operatorAt (1000 + seconds))

lemma justStarted_begun : Begun 1 justStarted where
  cached := fun _ hx => (Option.some.inj hx).symm
  active := rfl
  gross := rfl
  toRequester := rfl
  within := by decide
  proportional := by decide +kernel

/-- The container runs for the whole duration, and is stopped, started again and deleted. -/
def wholeDuration : List (Action × Book) :=
  trace Book.next justStarted [stopAfter 100, .start (101 * second) true,
    .delete (102 * second) (operatorAt 1102) (operatorAt 1102)]

/-- Such a container is billed for its uptime. -/
theorem billed_for_uptime_whole :
    Begun 1 justStarted ∧ wholeDuration.length = 3 ∧ StatesMeet (Fair 1) justStarted wholeDuration ∧
      (endState justStarted wholeDuration).gross = 1000 := by
  refine ⟨justStarted_begun, by decide +kernel, ?_, by decide +kernel⟩
  exact billed_for_uptime justStarted_begun (trace_path ..) (by decide +kernel)

/-- The container is stopped after ten seconds. -/
def tenSeconds : List (Action × Book) := trace Book.next justStarted [stopAfter 10]

/-- **Stopped early.** A container that is stopped after ten of its hundred seconds costs
everything: the providers get the whole `1000`, and nothing goes back to the requester. -/
theorem stopped_early :
    Begun 1 justStarted ∧ Path Step justStarted tenSeconds ∧ tenSeconds.length = 1 ∧
      (endState justStarted tenSeconds).ran = 10 * second ∧
      (endState justStarted tenSeconds).gross = 1000 ∧
      (endState justStarted tenSeconds).toRequester = 0 ∧
      ¬ StatesMeet (Fair 1) justStarted tenSeconds := by
  refine ⟨justStarted_begun, @trace_path _ _ Book.next justStarted _, by decide +kernel,
    by decide +kernel, by decide +kernel, by decide +kernel, ?_⟩
  intro hfair
  have hend : Fair 1 (endState justStarted tenSeconds) := hfair.endState
  revert hend
  decide +kernel

end Moltbunker.Daemon.Billing
