import Moltbunker.Contracts.Escrow.Turn

/-!
# `BunkerEscrow`: solvency and the ledger of a reservation

Five exits pay out of one pooled balance. The ledger of each reservation balances to the wei: what
was deposited for it is what was paid for it and what it still holds (`flows_step`); the balance of
the contract covers what all reservations hold; and a reservation that is completed, refunded or
disputed holds nothing and stays as it is. `escrow_ledger` states the three for every run;
`refund_open` is about deposits that are not used.
-/

namespace Moltbunker.Contracts.Escrow

open Lib Function Reservation
open Chain (Step NoAllowance Deployed)

/-- The contract with a token of supply cap `cap` and the clock. -/
abbrev World (cap : ℕ) : Type := Chain.World Storage cap

/-- What can happen next. -/
abbrev Action : Type := Chain.Action ExtCall Roles

variable {cap : ℕ} {self : Address} {w w' : World cap} {a : Action} {id : ℕ}

/-- The reservation that the tokens of a call are booked on. -/
def target (s : Storage) : ExtCall → Option ℕ
  | .createReservation _ _ => some s.nextReservationId
  | c => c.reservation

/-- The tokens that a step moves for the reservation `id`, by the flow of its token calls. -/
def movedFor (flow : List TokenCall → ℕ) (self : Address) (id : ℕ) (w : World cap) : Action → ℕ
  | .call sender t c =>
    if target w.storage c = some id then
      match exec (w.msg self sender t) w.storage c with
      | .ok r => flow r.2
      | .error _ => 0
    else 0
  | _ => 0

/-- The tokens that a step deposits for the reservation. -/
def depositedFor (self : Address) (id : ℕ) (w : World cap) (a : Action) : ℕ :=
  movedFor inflow self id w a

/-- The tokens that a step pays for the reservation: to providers, the treasury and the requester,
and burned. -/
def paidFor (self : Address) (id : ℕ) (w : World cap) (a : Action) : ℕ :=
  movedFor outflow self id w a

/-! ## One step -/

lemma movedFor_call {flow : List TokenCall → ℕ} {sender : Address} {t : ℕ} {c : ExtCall}
    {r : Outcome} (hexec : exec (w.msg self sender t) w.storage c = .ok r) :
    movedFor flow self id w (.call sender t c) =
      if target w.storage c = some id then flow r.2 else 0 := by
  unfold movedFor
  dsimp only
  rw [hexec]

/-- What a step did: opened a reservation, took a turn on one, or touched none. The balance of the
contract follows. -/
inductive Change (self : Address) (w w' : World cap) : Action → Prop
  | created {sender : Address} {t amount duration : ℕ} (hfits : amount < 2 ^ 128)
      (hmoved : ∀ flow id,
        movedFor flow self id w (.call sender t (.createReservation amount duration)) =
        if w.storage.nextReservationId = id then flow [.transferFrom sender amount] else 0)
      (hnext : w'.storage.nextReservationId = w.storage.nextReservationId + 1)
      (hreservations : w'.storage.reservations = update w.storage.reservations
        w.storage.nextReservationId (.new sender amount duration))
      (hbalance : w.token.balanceOf self + amount ≤ w'.token.balanceOf self) :
      Change self w w' (.call sender t (.createReservation amount duration))
  | turned {sender : Address} {t : ℕ} {c : ExtCall} {id : ℕ} {calls : List TokenCall}
      (hturn : Turned (w.msg self sender t) w.storage id c (w'.storage, calls))
      (hmoved : ∀ flow id', movedFor flow self id' w (.call sender t c) =
        if id = id' then flow calls else 0)
      (hbalance : w.token.balanceOf self + inflow calls ≤ w'.token.balanceOf self + outflow calls) :
      Change self w w' (.call sender t c)
  | quiet {a : Action} (hmoved : ∀ flow id, flow [] = 0 → movedFor flow self id w a = 0)
      (hreservations : w'.storage.reservations = w.storage.reservations)
      (hnext : w'.storage.nextReservationId = w.storage.nextReservationId)
      (hbalance : w.token.balanceOf self ≤ w'.token.balanceOf self) : Change self w w' a

lemma step_change (hall : NoAllowance self w) (h : Step contract self w a w') :
    Change self w w' a := by
  obtain ⟨-, ⟨sender, t, c, calls, rfl, -, hexec, -, hbal⟩ | ⟨ha, hstorage, hbal⟩⟩ :=
    Chain.step_balance hall h
  · have hexec' : exec (w.msg self sender t) w.storage c = .ok (w'.storage, calls) := hexec
    have heff := exec_effect hexec'
    generalize hs' : w'.storage = s' at heff
    cases heff with
    | created hfits =>
      refine .created hfits (fun flow id => ?_) (by rw [hs']) (by rw [hs']; rfl) ?_
      · rw [movedFor_call hexec']
        simp only [target, Option.some.injEq]
        rfl
      · simpa [TokenCall.inflow, TokenCall.outflow] using hbal
    | turned hc hturn =>
      refine .turned (hs' ▸ hturn) (fun flow id' => ?_) hbal
      have htarget : target w.storage c = c.reservation := by
        cases c with
        | createReservation _ _ => cases hc
        | _ => rfl
      rw [movedFor_call hexec', htarget, hc]
      simp only [Option.some.injEq]
    | quiet hc hcreate hreservations hfees hnext =>
      refine .quiet (fun flow id hflow => ?_) (hs' ▸ hreservations) (hs' ▸ hnext)
        (by simpa using hbal)
      rw [movedFor_call hexec', hflow, ite_self]
  · have hmoved : ∀ flow id, flow [] = 0 → movedFor flow self id w a = 0 := by
      intro flow id _
      cases a with
      | call sender t c => exact absurd rfl (ha sender t c)
      | _ => rfl
    rcases hstorage with hs | ⟨roles, hs⟩
    · exact .quiet hmoved (by rw [hs]) (by rw [hs]) hbal
    · exact .quiet hmoved (by rw [hs]; rfl) (by rw [hs]; rfl) hbal

/-! ## The invariant -/

/-- What a reservation holds. -/
def held (id : ℕ) (w : World cap) : ℕ := (w.storage.reservations id).remaining

/-- A reservation never releases more than its total, and all of it once it is closed. -/
structure Reservation.Balanced (res : Reservation) : Prop where
  released_le : res.releasedAmount.toNat ≤ res.totalAmount.toNat
  closed : ¬ res.Open → res.releasedAmount = res.totalAmount

variable {res : Reservation} {x : Reservation × Payout}

/-- The ledger of the contract. -/
structure Kept (contract : Address) (w : World cap) : Prop where
  noAllowance : NoAllowance contract w
  fresh : ∀ id, w.storage.nextReservationId ≤ id → w.storage.reservations id = .zero
  balanced : ∀ id, (w.storage.reservations id).Balanced
  covered : ∀ ids : Finset ℕ, ∑ id ∈ ids, held id w ≤ w.token.balanceOf contract

/-- A new contract has no reservations. -/
lemma reservations_deployed (h : Deployed contract self w) (id : ℕ) :
    w.storage.reservations id = .zero := by
  obtain ⟨token, treasury, owner, hs⟩ := h.initial
  simp only [constructor, bind_eq_ok, pure_eq_ok] at hs
  obtain ⟨_, -, hs⟩ := hs
  rw [← hs]
  rfl

lemma Kept.deployed (h : Deployed contract self w) : Kept self w := by
  have hzero := reservations_deployed h
  refine ⟨h.allowance, fun id _ => hzero id, fun id => ?_, fun ids => ?_⟩
  · rw [hzero]
    exact ⟨le_rfl, fun _ => rfl⟩
  · rw [Finset.sum_eq_zero]
    · exact Nat.zero_le _
    · intro id _
      unfold held
      rw [hzero]
      rfl

/-- A reservation changes what it holds by what is moved for it. -/
lemma Booked.remaining (h : Booked res x)
    (hle : res.releasedAmount.toNat ≤ res.totalAmount.toNat) :
    x.2.deposit + res.remaining = x.2.gross + x.2.toRequester + x.1.remaining := by
  have hle' := h.released_le hle
  have htotal := h.totalAmount
  have hreleased := h.releasedAmount
  unfold Reservation.remaining
  omega

lemma Reservation.new_remaining {requester : Address} {amount duration : ℕ}
    (h : amount < 2 ^ 128) : (new requester amount duration).remaining = amount := by
  show (BitVec.ofNat 128 amount).toNat - 0 = amount
  rw [toNat_ofNat_eq_iff.mpr h, Nat.sub_zero]

section Write

variable (h : w'.storage.reservations = update w.storage.reservations id res)
include h

/-- The reservations that are not touched hold what they held. -/
lemma held_of_ne {id' : ℕ} (hne : id' ≠ id) : held id' w' = held id' w := by
  unfold held
  rw [h, update_of_ne hne]

lemma held_self : held id w' = res.remaining := by
  unfold held
  rw [h, update_self]

/-- A change of one reservation that the balance follows keeps the balance above the sum. -/
lemma covered_update (hcovered : ∀ ids : Finset ℕ, ∑ i ∈ ids, held i w ≤ w.token.balanceOf self)
    (hbalance : w.token.balanceOf self + res.remaining ≤ w'.token.balanceOf self + held id w) :
    ∀ ids : Finset ℕ, ∑ i ∈ ids, held i w' ≤ w'.token.balanceOf self := by
  intro ids
  have hchange := sum_change_on (s := insert id ids) (f := fun i => held i w)
    (g := fun i => held i w') (Finset.mem_insert_self id ids) (fun i hi => held_of_ne h hi)
  have hall := hcovered (insert id ids)
  have hsub : ∑ i ∈ ids, held i w' ≤ ∑ i ∈ insert id ids, held i w' :=
    Finset.sum_le_sum_of_subset (Finset.subset_insert id ids)
  have hself := held_self h
  omega

/-- A change of one reservation to a balanced one keeps all balanced. -/
lemma balanced_update (hres : res.Balanced) (hw : ∀ i, (w.storage.reservations i).Balanced) :
    ∀ i, (w'.storage.reservations i).Balanced := by
  rw [h, forall_update_iff w.storage.reservations fun _ res => res.Balanced]
  exact ⟨hres, fun i _ => hw i⟩

end Write

/-- **Every step keeps the ledger.** -/
theorem Kept.step (hw : Kept self w) (h : Step contract self w a w') : Kept self w' := by
  have hall := (Chain.step_balance hw.noAllowance h).1
  cases step_change hw.noAllowance h with
  | @created sender t amount duration hfits hmoved hnext hreservations hbalance =>
    refine ⟨hall, fun id hid => ?_, balanced_update hreservations
      ⟨Nat.zero_le _, fun hclosed => absurd (Or.inl rfl) hclosed⟩ hw.balanced, covered_update hreservations hw.covered ?_⟩
    · rw [hnext] at hid
      rw [hreservations, update_of_ne (by omega)]
      exact hw.fresh id (by omega)
    · rw [new_remaining hfits]
      exact hbalance.trans (Nat.le_add_right _ _)
  | @turned sender t c id calls hturn hmoved hbalance =>
    have hreservations : w'.storage.reservations = update w.storage.reservations id
      ((w.storage.reservations id).turn t c).1 := hturn.storage.reservations
    have hnext : w'.storage.nextReservationId = w.storage.nextReservationId :=
      hturn.storage.nextReservationId
    have hremaining := hturn.booked.remaining (hw.balanced id).released_le
    rw [hturn.inflow, hturn.outflow] at hbalance
    refine ⟨hall, fun id' hid' => ?_, balanced_update hreservations
      ⟨hturn.booked.released_le (hw.balanced id).released_le, hturn.booked.closed⟩ hw.balanced,
      covered_update hreservations hw.covered ?_⟩
    · rw [hnext] at hid'
      have hne : id' ≠ id := by
        rintro rfl
        have hopen := hturn.isOpen
        rw [hw.fresh id' hid'] at hopen
        rcases hopen with h | h <;> cases h
      rw [hreservations, update_of_ne hne]
      exact hw.fresh id' hid'
    · show _ + ((w.storage.reservations id).turn t c).1.remaining ≤ _ + held id w
      change _ + (w.storage.reservations id).remaining =
        _ + ((w.storage.reservations id).turn t c).1.remaining at hremaining
      unfold held
      omega
  | quiet hmoved hreservations hnext hbalance =>
    refine ⟨hall, ?_, ?_, fun ids => ?_⟩
    · rw [hreservations, hnext]
      exact hw.fresh
    · rw [hreservations]
      exact hw.balanced
    · unfold held
      rw [hreservations]
      exact (hw.covered ids).trans hbalance

/-- **The ledger of a reservation balances at every step**: deposits add to what it holds, payments
take from it. -/
theorem flows_step (hw : Kept self w) (h : Step contract self w a w') :
    depositedFor self id w a + held id w = paidFor self id w a + held id w' := by
  unfold depositedFor paidFor
  cases step_change hw.noAllowance h with
  | @created sender t amount duration hfits hmoved hnext hreservations hbalance =>
    rw [hmoved, hmoved]
    by_cases hid : w.storage.nextReservationId = id
    · subst hid
      have hzero : held w.storage.nextReservationId w = 0 := by
        unfold held
        rw [hw.fresh _ le_rfl]
        rfl
      rw [if_pos rfl, if_pos rfl, held_self hreservations, new_remaining hfits, hzero]
      simp [TokenCall.inflow, TokenCall.outflow]
    · rw [if_neg hid, if_neg hid, held_of_ne hreservations (Ne.symm hid)]
  | @turned sender t c id' calls hturn hmoved hbalance =>
    rw [hmoved, hmoved]
    by_cases hid : id' = id
    · subst hid
      rw [if_pos rfl, if_pos rfl, held_self hturn.storage.reservations, hturn.inflow, hturn.outflow]
      exact hturn.booked.remaining (hw.balanced id').released_le
    · rw [if_neg hid, if_neg hid, held_of_ne hturn.storage.reservations (Ne.symm hid)]
  | quiet hmoved hreservations hnext hbalance =>
    rw [hmoved _ _ inflow_nil, hmoved _ _ outflow_nil]
    unfold held
    rw [hreservations]

section Closed

variable (hw : Kept self w) (hstatus : (w.storage.reservations id).status ≠ .none)
  (hclosed : ¬ (w.storage.reservations id).Open)
include hw hstatus hclosed

/-- **A closed reservation is left alone.** -/
theorem closed_step (h : Step contract self w a w') :
    w'.storage.reservations id = w.storage.reservations id ∧
      depositedFor self id w a = 0 ∧ paidFor self id w a = 0 := by
  unfold depositedFor paidFor
  cases step_change hw.noAllowance h with
  | @created sender t amount duration hfits hmoved hnext hreservations hbalance =>
    have hid : w.storage.nextReservationId ≠ id := by
      rintro rfl
      rw [hw.fresh _ le_rfl] at hstatus
      exact hstatus rfl
    rw [hmoved, hmoved, if_neg hid, if_neg hid, hreservations, update_of_ne (Ne.symm hid)]
    exact ⟨rfl, rfl, rfl⟩
  | @turned sender t c id' calls hturn hmoved hbalance =>
    have hid : id' ≠ id := by
      rintro rfl
      exact hclosed hturn.isOpen
    rw [hmoved, hmoved, if_neg hid, if_neg hid]
    exact ⟨(congrFun hturn.storage.reservations id).trans (update_of_ne (Ne.symm hid) _ _), rfl,
      rfl⟩
  | quiet hmoved hreservations hnext hbalance =>
    rw [hmoved _ _ inflow_nil, hmoved _ _ outflow_nil, hreservations]
    exact ⟨rfl, rfl, rfl⟩

/-! ## Along runs -/

lemma closed_path {l : List (Action × World cap)} (hl : Path (Step contract self) w l) :
    (endState w l).storage.reservations id = w.storage.reservations id ∧
      runSum (depositedFor self id) w l = 0 ∧ runSum (paidFor self id) w l = 0 := by
  induction l generalizing w with
  | nil => exact ⟨rfl, rfl, rfl⟩
  | cons x l ih =>
    obtain ⟨a, w'⟩ := x
    obtain ⟨hsame, hdeposited, hpaid⟩ := closed_step hw hstatus hclosed hl.1
    obtain ⟨hend, hdeposits, hpays⟩ := ih (hw.step hl.1) (hsame ▸ hstatus) (hsame ▸ hclosed) hl.2
    refine ⟨hend.trans hsame, ?_, ?_⟩
    · show depositedFor self id w a + _ = 0
      rw [hdeposited, hdeposits]
    · show paidFor self id w a + _ = 0
      rw [hpaid, hpays]

end Closed

/-- A reservation is over. -/
def Status.Terminal (status : Status) : Prop :=
  status = .completed ∨ status = .refunded ∨ status = .disputed

/-- **Solvency and the ledger of every reservation.** In every run from a deployment the balance of
the contract covers what any reservations hold; for each reservation the deposits are the payments
and what it still holds; and a reservation that is over has released everything, and is neither
changed nor paid for again. -/
theorem escrow_ledger {w₀ : World cap} (hdep : Deployed contract self w₀)
    {l : List (Action × World cap)} (hl : Path (Step contract self) w₀ l) :
    (∀ ids : Finset ℕ,
      ∑ id ∈ ids, (((endState w₀ l).storage.reservations id).totalAmount.toNat -
        ((endState w₀ l).storage.reservations id).releasedAmount.toNat) ≤
          (endState w₀ l).token.balanceOf self) ∧
    (∀ id,
      runSum (depositedFor self id) w₀ l = runSum (paidFor self id) w₀ l +
        (((endState w₀ l).storage.reservations id).totalAmount.toNat -
          ((endState w₀ l).storage.reservations id).releasedAmount.toNat) ∧
      ((endState w₀ l).storage.reservations id).releasedAmount.toNat ≤
        ((endState w₀ l).storage.reservations id).totalAmount.toNat) ∧
    ∀ id, ((endState w₀ l).storage.reservations id).status.Terminal →
      ((endState w₀ l).storage.reservations id).releasedAmount =
        ((endState w₀ l).storage.reservations id).totalAmount ∧
      ∀ l', Path (Step contract self) (endState w₀ l) l' →
        (endState (endState w₀ l) l').storage.reservations id =
          (endState w₀ l).storage.reservations id ∧
        runSum (depositedFor self id) (endState w₀ l) l' = 0 ∧
        runSum (paidFor self id) (endState w₀ l) l' = 0 := by
  have hstart : Kept self w₀ := .deployed hdep
  have hend : Kept self (endState w₀ l) :=
    (hl.invariant (P := Kept self) (fun _ _ _ hw hs => hw.step hs) hstart).endState
  refine ⟨hend.covered, fun id => ⟨?_, (hend.balanced id).released_le⟩, fun id hterminal => ?_⟩
  · have hflows := hl.runSum_balance (P := Kept self) (f := depositedFor self id)
      (g := paidFor self id) (r := held id) (fun _ _ _ hw hs => hw.step hs)
      (fun _ _ _ hw hs => flows_step hw hs) hstart
    have hzero : held id w₀ = 0 := by
      unfold held
      rw [reservations_deployed hdep]
      rfl
    rw [hzero, Nat.add_zero] at hflows
    exact hflows
  · have hclosed : ¬ ((endState w₀ l).storage.reservations id).Open := by
      intro hopen
      rcases hterminal with h | h | h <;> rcases hopen with h' | h' <;> rw [h] at h' <;> cases h'
    have hstatus : ((endState w₀ l).storage.reservations id).status ≠ .none := by
      rcases hterminal with h | h | h <;> rw [h] <;> decide
    exact ⟨(hend.balanced id).closed hclosed, fun l' hl' => closed_path hend hstatus hclosed hl'⟩

/-- **An unused deposit goes back.** In every reachable state, paused or not, the requester of a
reservation without providers can end it, and the contract has what it pays back. -/
theorem refund_open {t : ℕ} (hw : Chain.Reached contract self w)
    (hcreated : (w.storage.reservations id).status = .created) :
    (∃ s', exec (w.msg self (w.storage.reservations id).requester t) w.storage (.refund id) =
      .ok (s', sendIf (w.storage.reservations id).requester (held id w))) ∧
    held id w ≤ w.token.balanceOf self := by
  obtain ⟨w₀, hdep, hreach⟩ := hw
  have hkept : Kept self w :=
    Reachable.invariant (P := Kept self) (fun _ _ _ hw hs => hw.step hs) (.deployed hdep) hreach
  refine ⟨?_, by simpa using hkept.covered {id}⟩
  have hearned : w.storage.payEarned (w.msg self (w.storage.reservations id).requester t) id =
      .ok (w.storage, []) := if_neg (by simp [hcreated])
  unfold exec Storage.refund
  dsimp only
  rw [revertIf_neg (by simp [hcreated]), ok_bind, revertIf_neg (by simp [Chain.World.msg]), ok_bind,
    hearned, ok_bind]
  dsimp only
  rw [subC_ok (hkept.balanced id).released_le, ok_bind]
  exact ⟨_, rfl⟩

/-- A fresh deployment at time `0`, with treasury `1` and owner `2`, before any token exists. -/
def fresh : World supplyCap := ⟨0, .deployed 1 2, .empty supplyCap⟩

lemma fresh_deployed (h : self ≠ 0) : Deployed contract self fresh :=
  ⟨h, by decide, ⟨1, 1, 2, rfl⟩, fun _ => rfl⟩

/-- Account `3` reserves for 100 seconds, the operator `4` selects the providers `5`, `6` and `7`,
one of them claims halfway, and the requester ends the reservation soon after. -/
def endedEarly : List Action :=
  [.token 0 (.mint 3 1000), .token 0 (.approve 3 100 1000),
    .call 3 0 (.createReservation 1000 100), .access 0 ⟨2, fun x => x == 4⟩,
    .call 4 0 (.selectProviders 1 ![5, 6, 7] fun _ => true), .call 5 50 (.claim 1),
    .call 3 60 (.refund 1)]

theorem escrow_ledger_endedEarly :
    (fresh.trace contract 100 endedEarly).length = 7 ∧
      runSum (depositedFor 100 1) fresh (fresh.trace contract 100 endedEarly) =
        runSum (paidFor 100 1) fresh (fresh.trace contract 100 endedEarly) +
          (((endState fresh (fresh.trace contract 100 endedEarly)).storage.reservations
              1).totalAmount.toNat -
            ((endState fresh (fresh.trace contract 100 endedEarly)).storage.reservations
              1).releasedAmount.toNat) :=
  ⟨by decide +kernel,
    ((escrow_ledger (fresh_deployed (by decide)) (Chain.World.trace_path contract 100)).2.1
      1).1⟩

theorem refund_open_reserved :
    let w := endState fresh (fresh.trace contract 100 (endedEarly.take 3))
    ∃ s', exec (w.msg 100 3 9) w.storage (.refund 1) = .ok (s', [.transfer 3 1000]) := by
  intro w
  exact (refund_open ((fresh_deployed (by decide)).reached contract 100) (by decide +kernel)).1

end Moltbunker.Contracts.Escrow
