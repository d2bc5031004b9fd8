import Moltbunker.Contracts.Escrow.Model

/-!
# `BunkerEscrow`: one reservation at a time

Every call of the contract acts on one reservation or on none. What it leaves of the reservation and
what it moves depends on the reservation, the time and the arguments only (`Reservation.turn`); who
receives a payment depends on the fee that was recorded when the reservation was created
(`Reservation.receives`), and on nothing that can change later. `exec_effect` says so of every call
that returns; the solvency of the contract and the isolation of the reservations are read off it.
-/

namespace Moltbunker.Contracts.Escrow

open Lib Function Storage Reservation

/-- The reservation that a call acts on. -/
def ExtCall.reservation : ExtCall → Option ℕ
  | .increaseDeposit id _ => some id
  | .claim id => some id
  | .selectProviders id _ _ => some id
  | .releasePayment id _ => some id
  | .finalizeReservation id => some id
  | .refund id => some id
  | .settleDispute id _ _ => some id
  | _ => none

/-- What a call moves: into the reservation, out of it to the providers and the fee, and out of it
back to the requester. -/
structure Payout where
  deposit : ℕ
  gross : ℕ
  toRequester : ℕ

namespace Reservation

variable (res : Reservation)

/-- The reservation can still change. -/
def Open : Prop := res.status = .created ∨ res.status = .active

instance (res : Reservation) : Decidable res.Open := inferInstanceAs (Decidable (_ ∨ _))

/-- What the reservation still holds. -/
def remaining : ℕ := res.totalAmount.toNat - res.releasedAmount.toNat

/-- What is due to the providers after `seconds`. -/
def due (seconds : ℕ) : ℕ :=
  res.totalAmount.toNat * seconds / res.duration.toNat

/-- The seconds that have passed of the duration. -/
def elapsed (t : ℕ) : ℕ := min (t - res.startTime.toNat) res.duration.toNat

/-- What the providers have earned beyond what was released, if the reservation is active. -/
def earned (t : ℕ) : ℕ :=
  if res.status = .active then res.due (res.elapsed t) - res.releasedAmount.toNat else 0

/-- What a call that returns leaves of its reservation, and what it moves. -/
def turn (t : ℕ) : ExtCall → Reservation × Payout
  | .increaseDeposit _ amount =>
    ({ res with totalAmount := .ofNat 128 (res.totalAmount.toNat + amount) }, ⟨amount, 0, 0⟩)
  | .selectProviders _ providerAddrs _ =>
    ({ res with
      providers := providerAddrs
      startTime := .ofNat 48 t
      status := .active }, ⟨0, 0, 0⟩)
  | .claim _ =>
    ({ res with releasedAmount := .ofNat 128 (res.due (res.elapsed t)) },
      ⟨0, res.due (res.elapsed t) - res.releasedAmount.toNat, 0⟩)
  | .releasePayment _ settledDuration =>
    ({ res with releasedAmount := .ofNat 128 (res.due settledDuration) },
      ⟨0, res.due settledDuration - res.releasedAmount.toNat, 0⟩)
  | .finalizeReservation _ =>
    ({ res with
      releasedAmount := res.totalAmount
      status := .completed }, ⟨0, res.remaining, 0⟩)
  | .refund _ =>
    ({ res with
      releasedAmount := res.totalAmount
      status := .refunded }, ⟨0, res.earned t, res.remaining - res.earned t⟩)
  | .settleDispute _ requesterAmount providerAmount =>
    ({ res with
      releasedAmount := res.totalAmount
      status := .disputed }, ⟨0, providerAmount, requesterAmount⟩)
  | _ => (res, ⟨0, 0, 0⟩)

/-- What the providers get of a payment of `gross`. -/
def net (feeBps gross : ℕ) : ℕ := gross - gross * feeBps / bpsDenominator

/-- A reservation has slots for providers. -/
local instance slots_ne_zero : NeZero 3 := ⟨by decide⟩

/-- What `p` receives of a payout: the shares of a provider, the first with the dust, and what goes
back to the requester. -/
def receives (feeBps : ℕ) (pay : Payout) (p : Address) : ℕ :=
  (if res.providers 0 = p then
      net feeBps pay.gross / 3 + (net feeBps pay.gross - net feeBps pay.gross / 3 * 3) else 0) +
    (if res.providers 1 = p then net feeBps pay.gross / 3 else 0) +
    (if res.providers 2 = p then net feeBps pay.gross / 3 else 0) +
    (if res.requester = p then pay.toRequester else 0)

end Reservation

/-! ## Payments -/

@[simp] lemma inflow_sendIf {dst : Address} {v : ℕ} : inflow (sendIf dst v) = 0 := by
  unfold sendIf
  split <;> rfl

@[simp] lemma outflow_sendIf {dst : Address} {v : ℕ} : outflow (sendIf dst v) = v := by
  unfold sendIf
  split
  · simp [TokenCall.outflow]
  · next h => exact (Nat.eq_zero_of_not_pos h).symm

@[simp] lemma sentTo_sendIf (p dst : Address) {v : ℕ} :
    sentTo p (sendIf dst v) = if dst = p then v else 0 := by
  unfold sendIf
  split
  · rfl
  · next h =>
    rw [Nat.eq_zero_of_not_pos h, ite_self]
    rfl

@[simp] lemma inflow_burnIf {v : ℕ} : inflow (burnIf v) = 0 := by
  unfold burnIf
  split <;> rfl

@[simp] lemma outflow_burnIf {v : ℕ} : outflow (burnIf v) = v := by
  unfold burnIf
  split
  · simp [TokenCall.outflow]
  · next h => exact (Nat.eq_zero_of_not_pos h).symm

@[simp] lemma sentTo_burnIf {p : Address} {v : ℕ} : sentTo p (burnIf v) = 0 := by
  unfold burnIf
  split <;> rfl

/-- The calls take no tokens from anybody. -/
def NoPull (calls : List TokenCall) : Prop := ∀ holder v, TokenCall.transferFrom holder v ∉ calls

lemma NoPull.nil : NoPull [] := fun _ _ => List.not_mem_nil

lemma NoPull.append {cs ds : List TokenCall} (hc : NoPull cs) (hd : NoPull ds) :
    NoPull (cs ++ ds) := by
  intro holder v hmem
  rcases List.mem_append.mp hmem with h | h
  · exact hc holder v h
  · exact hd holder v h

lemma noPull_sendIf {dst : Address} {v : ℕ} : NoPull (sendIf dst v) := by
  intro holder x hmem
  unfold sendIf at hmem
  split at hmem <;> simp at hmem

lemma noPull_burnIf {v : ℕ} : NoPull (burnIf v) := by
  intro holder x hmem
  unfold burnIf at hmem
  split at hmem <;> simp at hmem

/-- Nothing of the storage but the totals of the fees differs. -/
structure SameBut (s s' : Storage) : Prop where
  reservations : s'.reservations = s.reservations
  reservationFeeBps : s'.reservationFeeBps = s.reservationFeeBps
  nextReservationId : s'.nextReservationId = s.nextReservationId
  treasury : s'.treasury = s.treasury

/-- The payment of `gross` for a reservation. -/
structure Pays (s : Storage) (id : ℕ) (res : Reservation) (gross : ℕ) (r : Outcome) : Prop where
  storage : SameBut s r.1
  noPull : NoPull r.2
  inflow : inflow r.2 = 0
  outflow : outflow r.2 = gross
  sentTo : ∀ p, s.treasury ≠ p →
    sentTo p r.2 = res.receives (s.reservationFeeBps id).toNat ⟨0, gross, 0⟩ p

variable {s : Storage} {res : Reservation} {r : Outcome} {seconds : ℕ} {m : Msg} {c : ExtCall}
  {id : ℕ} {id gross : ℕ} {s' : Storage}

/-- **A payment pays out exactly its amount**, and what an account other than the treasury gets of
it depends on the recorded fee only. -/
theorem distributePayment_eq_ok (h : s.distributePayment id res gross = .ok r) :
    Pays s id res gross r := by
  simp only [distributePayment, bind_eq_ok, mulW_eq_ok, divC_eq_ok, subC_eq_ok, addW_eq_ok,
    pure_eq_ok] at h
  obtain ⟨_, ⟨-, rfl⟩, fee, ⟨-, hfee⟩, net, ⟨hfee_le, hnet⟩, _, ⟨-, rfl⟩, burned, ⟨-, hburned⟩,
    rest, ⟨hburn_le, hrest⟩, _, -, _, -, share, ⟨-, hshare⟩, even, ⟨-, heven⟩, dust,
    ⟨heven_le, hdust⟩, first, ⟨-, hfirst⟩, rfl⟩ := h
  refine ⟨⟨rfl, rfl, rfl, rfl⟩, ?_, ?_, ?_, ?_⟩
  · exact ((((noPull_burnIf).append noPull_sendIf).append noPull_sendIf).append
      noPull_sendIf).append noPull_sendIf
  · simp
  · simp only [outflow_append, outflow_burnIf, outflow_sendIf, providersPerReservation] at *
    omega
  · intro p hp
    have hnet' : net = Reservation.net (s.reservationFeeBps id).toNat gross := by
      rw [hnet, hfee]
      rfl
    simp only [sentTo_append, sentTo_burnIf, sentTo_sendIf, if_neg hp, Nat.zero_add,
      receives, ite_self, Nat.add_zero]
    rw [hfirst, hdust, heven, hshare, hnet']
    rfl

/-- Nothing is received of an empty payout. -/
lemma Reservation.receives_zero {feeBps d : ℕ} {p : Address} :
    res.receives feeBps ⟨d, 0, 0⟩ p = 0 := by
  simp [receives, net]

lemma distributeIf_eq_ok (h : s.distributeIf id res gross = .ok r) : Pays s id res gross r := by
  unfold distributeIf at h
  split at h
  · exact distributePayment_eq_ok h
  · next hzero =>
    cases pure_eq_ok.mp h
    rw [Nat.eq_zero_of_not_pos hzero]
    exact ⟨⟨rfl, rfl, rfl, rfl⟩, .nil, rfl, rfl, fun p _ => (receives_zero).symm⟩

/-! ## What a call leaves -/

/-- The amounts of a reservation follow what is moved: deposits add to the total, payments to the
released part, which stays within the total and reaches it when the reservation closes. -/
structure Booked (res : Reservation) (x : Reservation × Payout) : Prop where
  totalAmount : x.1.totalAmount.toNat = res.totalAmount.toNat + x.2.deposit
  releasedAmount :
    x.1.releasedAmount.toNat = res.releasedAmount.toNat + (x.2.gross + x.2.toRequester)
  released_le : res.releasedAmount.toNat ≤ res.totalAmount.toNat →
    x.1.releasedAmount.toNat ≤ x.1.totalAmount.toNat
  closed : ¬ x.1.Open → x.1.releasedAmount = x.1.totalAmount
  status : x.1.status ≠ .none

/-- A call took its turn on the reservation `id`. -/
structure Turned (m : Msg) (s : Storage) (id : ℕ) (c : ExtCall) (r : Outcome) : Prop where
  isOpen : (s.reservations id).Open
  booked : Booked (s.reservations id) ((s.reservations id).turn m.timestamp c)
  storage : SameBut (s.setReservation id ((s.reservations id).turn m.timestamp c).1) r.1
  pulls : ∀ holder v, TokenCall.transferFrom holder v ∈ r.2 → holder = m.sender
  inflow : inflow r.2 = ((s.reservations id).turn m.timestamp c).2.deposit
  outflow : outflow r.2 = ((s.reservations id).turn m.timestamp c).2.gross +
    ((s.reservations id).turn m.timestamp c).2.toRequester
  sentTo : ∀ p, s.treasury ≠ p →
    sentTo p r.2 = ((s.reservations id).turn m.timestamp c).1.receives
      (s.reservationFeeBps id).toNat ((s.reservations id).turn m.timestamp c).2 p

lemma Reservation.receives_add (feeBps gross v : ℕ) {p : Address} :
    res.receives feeBps ⟨0, gross, v⟩ p =
      res.receives feeBps ⟨0, gross, 0⟩ p + if res.requester = p then v else 0 := by
  simp [receives]

lemma Reservation.due_le (h : seconds ≤ res.duration.toNat) :
    res.due seconds ≤ res.totalAmount.toNat := by
  apply Nat.div_le_of_le_mul
  rw [Nat.mul_comm]
  exact Nat.mul_le_mul_right _ h

lemma elapsed_eq_ok {t e : ℕ} (h : Storage.elapsed res t = .ok e) : e = res.elapsed t := by
  simp only [Storage.elapsed, bind_eq_ok, subC_eq_ok, pure_eq_ok] at h
  obtain ⟨_, ⟨-, rfl⟩, rfl⟩ := h
  unfold Reservation.elapsed
  split <;> omega

lemma proportionalTotal_eq_ok {x : ℕ} (h : proportionalTotal res seconds = .ok x) :
    x = res.due seconds := by
  simp only [proportionalTotal, bind_eq_ok, mulW_eq_ok, divC_eq_ok] at h
  obtain ⟨_, ⟨-, rfl⟩, -, rfl⟩ := h
  rfl

/-- Adding what is due beyond the released amount makes the released amount what is due. -/
lemma released_add {x : ℕ} {released : BitVec 128} (hlt : res.releasedAmount.toNat ≤ x)
    (hle : x ≤ res.totalAmount.toNat)
    (h : (addB res.releasedAmount (.ofNat 128 (x - res.releasedAmount.toNat)) :
      Exec (BitVec 128)) = .ok released) : released = .ofNat 128 x := by
  have hx : x < 2 ^ 128 := hle.trans_lt res.totalAmount.isLt
  obtain ⟨-, hval⟩ := addB_eq_ok h
  apply BitVec.eq_of_toNat_eq
  rw [hval, toNat_ofNat_eq_iff.mpr ((Nat.sub_le _ _).trans_lt hx), toNat_ofNat_eq_iff.mpr hx]
  omega

/-- `claim` and `releasePayment` release what is due. -/
lemma releaseUpTo_turned (hactive : (s.reservations id).status = .active)
    (hturn : (s.reservations id).turn m.timestamp c =
      ({ s.reservations id with releasedAmount := .ofNat 128 ((s.reservations id).due seconds) },
        ⟨0, (s.reservations id).due seconds - (s.reservations id).releasedAmount.toNat, 0⟩))
    (hseconds : seconds ≤ (s.reservations id).duration.toNat)
    (h : s.releaseUpTo id ((s.reservations id).due seconds) = .ok r) : Turned m s id c r := by
  simp only [releaseUpTo, bind_eq_ok, revertIf_eq_ok, subC_eq_ok, pure_eq_ok] at h
  obtain ⟨_, hlt, _, ⟨hle, rfl⟩, released, hadd, _, hpay, _, -, rfl⟩ := h
  have hdue := due_le hseconds
  have hval : (BitVec.ofNat 128 ((s.reservations id).due seconds)).toNat =
      (s.reservations id).due seconds :=
    toNat_ofNat_eq_iff.mpr (hdue.trans_lt (s.reservations id).totalAmount.isLt)
  rw [released_add hle hdue hadd] at hpay
  have hpays := distributePayment_eq_ok hpay
  refine ⟨.inr hactive, ?_, ?_, fun holder v hmem => absurd hmem (hpays.noPull holder v), ?_, ?_,
    ?_⟩
  · rw [hturn]
    refine ⟨rfl, ?_, fun _ => ?_, fun hclosed => absurd (Or.inr hactive) hclosed, ?_⟩
    · show (BitVec.ofNat 128 _).toNat = (s.reservations id).releasedAmount.toNat +
        ((s.reservations id).due seconds - (s.reservations id).releasedAmount.toNat + 0)
      omega
    · show (BitVec.ofNat 128 _).toNat ≤ _
      rw [hval]
      exact hdue
    · show (s.reservations id).status ≠ .none
      rw [hactive]
      decide
  · rw [hturn]
    exact hpays.storage
  · rw [hturn]
    exact hpays.inflow
  · rw [hturn]
    exact hpays.outflow
  · rw [hturn]
    exact hpays.sentTo

lemma claim_turned (h : s.claim m id = .ok r) : Turned m s id (.claim id) r := by
  simp only [Storage.claim, bind_eq_ok, revertIf_eq_ok, not_not] at h
  obtain ⟨_, -, _, hactive, _, -, e, he, x, hx, h⟩ := h
  rw [proportionalTotal_eq_ok hx, elapsed_eq_ok he] at h
  exact releaseUpTo_turned hactive rfl (min_le_right _ _) h

lemma releasePayment_turned {id d : ℕ} (h : s.releasePayment m id d = .ok r) :
    Turned m s id (.releasePayment id d) r := by
  simp only [releasePayment, bind_eq_ok, revertIf_eq_ok, not_not] at h
  obtain ⟨_, -, _, -, _, hactive, _, hd, x, hx, h⟩ := h
  rw [proportionalTotal_eq_ok hx] at h
  exact releaseUpTo_turned hactive rfl (not_lt.mp hd) h

lemma increaseDeposit_turned {id amount : ℕ} (h : s.increaseDeposit m id amount = .ok r) :
    Turned m s id (.increaseDeposit id amount) r := by
  simp only [increaseDeposit, bind_eq_ok, revertIf_eq_ok, addW_eq_ok, pure_eq_ok] at h
  obtain ⟨_, -, _, -, _, -, _, hsender, _, hstatus, _, ⟨-, rfl⟩, _, hfits, rfl⟩ := h
  have hopen : (s.reservations id).Open := by
    by_contra hclosed
    exact hstatus (not_or.mp hclosed)
  have hval : (BitVec.ofNat 128 ((s.reservations id).totalAmount.toNat + amount)).toNat =
      (s.reservations id).totalAmount.toNat + amount := toNat_ofNat_eq_iff.mpr (by omega)
  refine ⟨hopen, ⟨hval, rfl, fun hle => ?_, fun hclosed => absurd hopen hclosed, ?_⟩,
    ⟨rfl, rfl, rfl, rfl⟩, fun holder v hmem => ?_, by simp [Reservation.turn, TokenCall.inflow],
    by simp [Reservation.turn, TokenCall.outflow], fun p _ => ?_⟩
  · show _ ≤ (BitVec.ofNat 128 _).toNat
    rw [hval]
    exact hle.trans (Nat.le_add_right _ _)
  · show (s.reservations id).status ≠ .none
    rcases hopen with h | h <;> rw [h] <;> decide
  · simp only [List.mem_singleton, TokenCall.transferFrom.injEq] at hmem
    exact hmem.1
  · exact (receives_zero).symm

lemma selectProviders_turned {providerAddrs : Fin 3 → Address} {isActiveProvider : Address → Bool}
    (h : s.selectProviders m id providerAddrs isActiveProvider = .ok r) :
    Turned m s id (.selectProviders id providerAddrs isActiveProvider) r := by
  simp only [selectProviders, bind_eq_ok, revertIf_eq_ok, not_not, pure_eq_ok] at h
  obtain ⟨_, -, _, -, _, hcreated, _, -, _, -, _, -, _, -, rfl⟩ := h
  refine ⟨.inl hcreated, ⟨rfl, rfl, fun hle => hle, fun hclosed => absurd (Or.inr rfl) hclosed,
    Status.noConfusion⟩, ⟨rfl, rfl, rfl, rfl⟩, fun _ _ hmem => absurd hmem List.not_mem_nil, rfl,
    rfl, fun p _ => ?_⟩
  exact (receives_zero).symm

lemma finalizeReservation_turned (h : s.finalizeReservation m id = .ok r) :
    Turned m s id (.finalizeReservation id) r := by
  simp only [finalizeReservation, bind_eq_ok, revertIf_eq_ok, not_not, subC_eq_ok, pure_eq_ok] at h
  obtain ⟨_, -, _, hactive, _, ⟨hle, rfl⟩, x, hx, _, -, rfl⟩ := h
  have hpays := distributeIf_eq_ok hx
  refine ⟨.inr hactive, ⟨rfl, ?_, fun _ => le_rfl, fun _ => rfl, Status.noConfusion⟩, hpays.storage,
    fun holder v hmem => absurd hmem (hpays.noPull holder v), hpays.inflow, hpays.outflow,
    hpays.sentTo⟩
  show (s.reservations id).totalAmount.toNat =
    (s.reservations id).releasedAmount.toNat + ((s.reservations id).remaining + 0)
  unfold remaining
  omega

lemma settleDispute_turned {id a b : ℕ} (h : s.settleDispute m id a b = .ok r) :
    Turned m s id (.settleDispute id a b) r := by
  simp only [settleDispute, bind_eq_ok, revertIf_eq_ok, not_not, subC_eq_ok, addW_eq_ok,
    pure_eq_ok] at h
  obtain ⟨_, -, _, hactive, _, ⟨hle, rfl⟩, _, ⟨-, rfl⟩, _, hsum, x, hx, rfl⟩ := h
  have hpays := distributeIf_eq_ok hx
  refine ⟨.inr hactive, ⟨rfl, ?_, fun _ => le_rfl, fun _ => rfl, Status.noConfusion⟩, hpays.storage,
    fun holder v hmem => absurd hmem ((noPull_sendIf).append hpays.noPull holder v), ?_, ?_,
    fun p hp => ?_⟩
  · show (s.reservations id).totalAmount.toNat =
      (s.reservations id).releasedAmount.toNat + (b + a)
    omega
  · rw [inflow_append, inflow_sendIf, hpays.inflow]
    rfl
  · rw [outflow_append, outflow_sendIf, hpays.outflow]
    exact Nat.add_comm _ _
  · have hsent := hpays.sentTo p hp
    rw [sentTo_append, sentTo_sendIf, hsent, Nat.add_comm]
    exact (receives_add _ _ _).symm

lemma SameBut.setReservation (h : SameBut s s') (id : ℕ) (res : Reservation) :
    SameBut (s.setReservation id res) (s'.setReservation id res) := by
  refine ⟨?_, h.reservationFeeBps, h.nextReservationId, h.treasury⟩
  show update s'.reservations id res = update s.reservations id res
  rw [h.reservations]

lemma setReservation_setReservation (x y : Reservation) :
    (s.setReservation id x).setReservation id y = s.setReservation id y := by
  unfold setReservation
  simp only [update_idem]

lemma setReservation_self : s.setReservation id (s.reservations id) = s := by
  unfold setReservation
  rw [update_eq_self]

/-- What `refund` pays first is what the providers have earned. -/
lemma payEarned_eq_ok (h : s.payEarned m id = .ok r) :
    ∃ released : BitVec 128,
      released.toNat =
        (s.reservations id).releasedAmount.toNat + (s.reservations id).earned m.timestamp ∧
      Pays (s.setReservation id { s.reservations id with releasedAmount := released }) id
        (s.reservations id) ((s.reservations id).earned m.timestamp) r := by
  -- where nothing is paid the reservation stays as it is
  have hnothing : (s.reservations id).earned m.timestamp = 0 → r = (s, []) →
      ∃ released : BitVec 128, released.toNat =
        (s.reservations id).releasedAmount.toNat + (s.reservations id).earned m.timestamp ∧
      Pays (s.setReservation id { s.reservations id with releasedAmount := released }) id
        (s.reservations id) ((s.reservations id).earned m.timestamp) r := by
    intro hzero hr
    refine ⟨(s.reservations id).releasedAmount, by rw [hzero, Nat.add_zero], ?_⟩
    rw [hzero, hr]
    rw [setReservation_self]
    exact ⟨⟨rfl, rfl, rfl, rfl⟩, .nil, rfl, rfl, fun p _ => (receives_zero).symm⟩
  unfold payEarned at h
  dsimp only at h
  split at h
  · next hactive =>
    simp only [bind_eq_ok] at h
    obtain ⟨e, he, x, hx, h⟩ := h
    have hx' := proportionalTotal_eq_ok hx
    rw [elapsed_eq_ok he] at hx'
    have hle : x ≤ (s.reservations id).totalAmount.toNat := by
      rw [hx']
      exact due_le (min_le_right _ _)
    have hearned : (s.reservations id).earned m.timestamp =
        x - (s.reservations id).releasedAmount.toNat := by
      unfold earned
      rw [if_pos hactive, hx']
    split at h
    · next hlt =>
      simp only [bind_eq_ok, subC_eq_ok, pure_eq_ok] at h
      obtain ⟨_, ⟨-, rfl⟩, ⟨s₂, calls⟩, hpay, released, hadd, rfl⟩ := h
      have hpays := distributePayment_eq_ok hpay
      have hreleased := released_add hlt.le hle hadd
      refine ⟨released, ?_, ?_⟩
      · rw [hreleased, hearned, toNat_ofNat_eq_iff.mpr
          (hle.trans_lt (s.reservations id).totalAmount.isLt)]
        omega
      · rw [hearned]
        exact ⟨hpays.storage.setReservation _ _, hpays.noPull, hpays.inflow, hpays.outflow,
          hpays.sentTo⟩
    · next hge =>
      refine hnothing ?_ (pure_eq_ok.mp h).symm
      omega
  · next hactive =>
    refine hnothing ?_ (pure_eq_ok.mp h).symm
    unfold earned
    rw [if_neg hactive]

lemma refund_turned (h : s.refund m id = .ok r) : Turned m s id (.refund id) r := by
  simp only [refund, bind_eq_ok, revertIf_eq_ok, subC_eq_ok, pure_eq_ok] at h
  obtain ⟨_, hstatus, _, -, ⟨s₁, calls⟩, hearned, _, ⟨hle, rfl⟩, rfl⟩ := h
  obtain ⟨released, hreleased, hpays⟩ := payEarned_eq_ok hearned
  have hrecord : s₁.reservations id = { s.reservations id with releasedAmount := released } := by
    rw [hpays.storage.reservations]
    exact update_self _ _ _
  have hopen : (s.reservations id).Open := by
    by_contra hclosed
    exact hstatus ⟨fun h => hclosed (.inr h), fun h => hclosed (.inl h)⟩
  rw [hrecord] at hle ⊢
  dsimp only at hle ⊢
  have hrest : (s.reservations id).totalAmount.toNat - released.toNat =
      (s.reservations id).remaining - (s.reservations id).earned m.timestamp := by
    rw [hreleased]
    exact (Nat.sub_sub _ _ _).symm
  rw [hrest]
  refine ⟨hopen, ⟨rfl, ?_, fun _ => le_rfl, fun _ => rfl, Status.noConfusion⟩, ?_,
    fun holder v hmem => absurd hmem (hpays.noPull.append noPull_sendIf holder v), ?_, ?_,
    fun p hp => ?_⟩
  · show (s.reservations id).totalAmount.toNat = (s.reservations id).releasedAmount.toNat +
      ((s.reservations id).earned m.timestamp +
        ((s.reservations id).remaining - (s.reservations id).earned m.timestamp))
    omega
  · have hsame := hpays.storage.setReservation id
      ((s.reservations id).turn m.timestamp (.refund id)).1
    rwa [setReservation_setReservation] at hsame
  · rw [inflow_append, inflow_sendIf, hpays.inflow]
    rfl
  · rw [outflow_append, outflow_sendIf, hpays.outflow]
    rfl
  · have hsent := hpays.sentTo p hp
    rw [sentTo_append, sentTo_sendIf, hsent]
    exact (receives_add _ _ _).symm

/-- The reservation that `createReservation` writes. -/
def Reservation.new (requester : Address) (amount duration : ℕ) : Reservation where
  requester := requester
  totalAmount := .ofNat 128 amount
  releasedAmount := 0
  duration := .ofNat 48 duration
  startTime := 0
  status := .created
  providers _ := 0

/-- What a returned call did: open a reservation, take a turn on one, or touch none. -/
inductive Effect (m : Msg) (s : Storage) : ExtCall → Outcome → Prop
  | created {amount duration : ℕ} (hfits : amount < 2 ^ 128) :
      Effect m s (.createReservation amount duration)
        ({ s with
          nextReservationId := s.nextReservationId + 1
          reservations := update s.reservations s.nextReservationId
            (.new m.sender amount duration)
          reservationFeeBps := update s.reservationFeeBps s.nextReservationId
            (.ofNat 16 s.protocolFeeBps) }, [.transferFrom m.sender amount])
  | turned {c : ExtCall} {id : ℕ} {r : Outcome} (hc : c.reservation = some id)
      (hturn : Turned m s id c r) : Effect m s c r
  | quiet {c : ExtCall} {s' : Storage} (hc : c.reservation = none)
      (hcreate : ∀ amount duration, c ≠ .createReservation amount duration)
      (hreservations : s'.reservations = s.reservations)
      (hfees : s'.reservationFeeBps = s.reservationFeeBps)
      (hnext : s'.nextReservationId = s.nextReservationId) : Effect m s c (s', [])

lemma adminWrite_eq_ok {checks : Exec Unit}
    (h : adminWrite m s checks s' = .ok r) : r = (s', []) := by
  simp only [adminWrite, bind_eq_ok, pure_eq_ok] at h
  obtain ⟨_, -, _, -, rfl⟩ := h
  rfl

/-- **What a returned call did.** -/
theorem exec_effect (h : exec m s c = .ok r) : Effect m s c r := by
  cases c with
  | createReservation amount duration =>
    simp only [exec, createReservation, bind_eq_ok, revertIf_eq_ok, pure_eq_ok] at h
    obtain ⟨_, -, _, -, _, -, _, hamount, _, -, rfl⟩ := h
    exact .created (by omega)
  | increaseDeposit id amount => exact .turned rfl (increaseDeposit_turned h)
  | claim id => exact .turned rfl (claim_turned h)
  | selectProviders id addrs isActive => exact .turned rfl (selectProviders_turned h)
  | releasePayment id d => exact .turned rfl (releasePayment_turned h)
  | finalizeReservation id => exact .turned rfl (finalizeReservation_turned h)
  | refund id => exact .turned rfl (refund_turned h)
  | settleDispute id a b => exact .turned rfl (settleDispute_turned h)
  | _ =>
    cases adminWrite_eq_ok h
    exact .quiet rfl (fun _ _ hc => ExtCall.noConfusion hc) rfl rfl rfl

lemma exec_turned (hc : c.reservation = some id) (h : exec m s c = .ok r) :
    Turned m s id c r := by
  cases exec_effect h with
  | created _ => cases hc
  | turned hc' hturn => exact Option.some.inj (hc'.symm.trans hc) ▸ hturn
  | quiet hc' _ _ _ _ => cases hc'.symm.trans hc

/-! ## On the chain -/

/-- Ownership and the operators. -/
structure Roles where
  owner : Address
  isOperator : Address → Bool

/-- The contract. -/
def contract : Chain.Contract Storage ExtCall Roles EscrowError where
  Initial s := ∃ token treasury initialOwner, constructor token treasury initialOwner = .ok s
  exec := exec
  setRoles s roles :=
    { s with
      owner := roles.owner
      isOperator := roles.isOperator }
  pulls_sender h := by
    intro holder v hmem
    cases exec_effect h with
    | created _ =>
      rw [List.mem_singleton] at hmem
      exact (TokenCall.transferFrom.inj hmem).1
    | turned hc hturn => exact hturn.pulls holder v hmem
    | quiet _ _ _ _ _ => cases hmem

end Moltbunker.Contracts.Escrow
