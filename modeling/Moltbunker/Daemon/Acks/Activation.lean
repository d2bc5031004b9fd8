import Moltbunker.Daemon.Acks.Model

/-!
# Acknowledgements: activating the escrow

`BunkerEscrow.selectProviders` wants three different providers. The handler submits once for each
tracker, at the first success, with a snapshot of the acknowledgements up to then. So it knows the
local wallet and at most one other, and the third provider of every submission is the zero address
(`Kept.third`), which the contract refuses (`submission_reverts`).

* `activation_iff` — a deployment is activated as it should be exactly if no replica ever succeeds;
* `third_provider_missing` — two replicas succeed, and the escrow is not activated.
-/

namespace Moltbunker.Daemon.Acks

open Lib Net PendingDeployment
open Contracts (Address Msg)
open Identity (NodeID)

/-! ## What activation is for -/

/-- A reservation has slots for providers. -/
local instance slots_ne_zero : NeZero 3 := ⟨by decide⟩

/-- Three different providers, none of them the zero address. -/
def WellFormed (p : Fin 3 → Address) : Prop :=
  p 0 ≠ 0 ∧ p 1 ≠ 0 ∧ p 2 ≠ 0 ∧ p 0 ≠ p 1 ∧ p 0 ≠ p 2 ∧ p 1 ≠ p 2

/-- The wallet of the peer that has sent the acknowledgement. -/
def Counted.wallet (x : Counted) : Address := x.env.walletOf x.peer

/-- The acknowledgement names its sender, which has a staked wallet other than the local one. -/
def Counted.Eligible (x : Counted) : Prop :=
  namedNode x.ack.nodeID = some x.peer ∧ x.wallet ≠ 0 ∧ x.wallet ≠ x.env.walletAddress ∧
    x.env.isActiveProvider x.wallet = true

/-- What is submitted for the deployment `c` is well formed, and if two different peers with
different wallets have succeeded, then the local wallet and theirs were submitted. -/
structure Activated (c : Text) (s : Net) : Prop where
  wellFormed : ∀ sub ∈ s.submissions, sub.deploymentID = c → WellFormed sub.providers
  submitted : ∀ x ∈ s.counted, ∀ y ∈ s.counted, x.containerID = c → y.containerID = c →
    x.Eligible → y.Eligible → x.peer ≠ y.peer → x.wallet ≠ y.wallet →
    x.env.walletAddress = y.env.walletAddress →
    ∃ sub ∈ s.submissions, sub.deploymentID = c ∧ sub.providers 0 = x.env.walletAddress ∧
      (sub.providers 1 = x.wallet ∧ sub.providers 2 = y.wallet ∨
        sub.providers 1 = y.wallet ∧ sub.providers 2 = x.wallet)

/-- A successful acknowledgement of the deployment `c` arrives while its tracker exists. -/
def Succeeds (c : Text) (s : Net) : Action → Prop
  | .ack _ _ (some ack) => ack.success = true ∧ ack.containerID = c ∧ (s.manager.pending c).isSome
  | _ => False

/-! ## What the history keeps -/

/-- Trackers, submissions and successes. -/
structure Kept (s : Net) : Prop where
  payment : s.manager.payment = true
  wf : s.manager.Wf
  /-- a tracker that has activated has submitted -/
  activated : ∀ p ∈ s.manager.trackers, p.escrowActivated = true →
    ∃ sub ∈ s.submissions, sub.deploymentID = p.containerID
  /-- a submission follows a success, and its third provider is missing -/
  third : ∀ sub ∈ s.submissions, sub.providers 2 = 0 ∧
    ∃ x ∈ s.counted, x.containerID = sub.deploymentID
  /-- a success is followed by a submission -/
  counted : ∀ x ∈ s.counted, ∃ sub ∈ s.submissions, sub.deploymentID = x.containerID

variable {s s' : Net} {a : Action} {c : Text} {l : List (Action × Net)}

lemma Kept.init : Kept (init true) where
  payment := rfl
  wf := .init _
  activated := nofun
  third := nofun
  counted := nofun

/-- A step that submits nothing and adds at most new trackers. -/
lemma Kept.frame (h : Kept s) {manager : Manager} (hpayment : manager.payment = s.manager.payment)
    (hwf : manager.Wf)
    (htrackers : ∀ p ∈ manager.trackers, p ∈ s.manager.trackers ∨ p.escrowActivated = false) :
    Kept { s with manager := manager } := by
  refine ⟨hpayment.trans h.payment, hwf, ?_, h.third, h.counted⟩
  intro p hp hact
  rcases htrackers p hp with hp | hnew
  · exact h.activated p hp hact
  · rw [hnew] at hact
    cases hact

/-- A message. -/
lemma Kept.ack (h : Kept s) (env : Env) (peer : NodeID) (payload : Option DeployAck) :
    Kept (s.next (.ack env peer payload)) := by
  unfold next
  dsimp only
  rcases handleDeployAck_cases payload with
    ⟨hresult, hcounted⟩ | ⟨ack, i, p, rfl, hi, hp, hresult, hcounted⟩
  · rw [hresult, hcounted]
    simpa using ⟨h.payment, h.wf, h.activated, h.third, h.counted⟩
  have hid := h.wf.containerID_eq hi hp
  have hmem : p ∈ s.manager.trackers := List.mem_of_getElem? hp
  -- after a success the tracker has submitted, now or before
  have hsubmits : (p.record ack).escrowActivated = true → ∃ sub ∈ s.submissions ++
      (if p.shouldActivate ack then
        activateEscrow s.manager.payment env ack.containerID (p.record ack).acks
      else none).toList, sub.deploymentID = ack.containerID := by
    intro hact
    by_cases hshould : p.shouldActivate ack = true
    · rw [if_pos hshould, h.payment]
      exact ⟨_, List.mem_append_right _ (List.mem_singleton_self _), rfl⟩
    · have hbefore : p.escrowActivated = true := by
        simpa [record, hshould] using hact
      obtain ⟨sub, hsub, heq⟩ := h.activated p hmem hbefore
      exact ⟨sub, List.mem_append_left _ hsub, heq.trans hid⟩
  rw [hresult, hcounted]
  refine ⟨h.payment, h.wf.record hp ack, ?_, ?_, ?_⟩
  · intro q hq hact
    rcases List.mem_or_eq_of_mem_set hq with hq | rfl
    · obtain ⟨sub, hsub, heq⟩ := h.activated q hq hact
      exact ⟨sub, List.mem_append_left _ hsub, heq⟩
    · obtain ⟨sub, hsub, heq⟩ := hsubmits hact
      exact ⟨sub, hsub, heq.trans hid.symm⟩
  · intro sub hsub
    rcases List.mem_append.mp hsub with hsub | hsub
    · obtain ⟨hthird, x, hx, heq⟩ := h.third sub hsub
      exact ⟨hthird, x, List.mem_append_left _ hx, heq⟩
    · by_cases hshould : p.shouldActivate ack = true
      · rw [if_pos hshould, h.payment] at hsub
        obtain rfl := List.mem_singleton.mp hsub
        simp only [shouldActivate, Bool.and_eq_true, Bool.not_eq_true'] at hshould
        refine ⟨(providers_snapshot (h.wf.fails p hmem hshould.2)).1, ?_⟩
        rw [if_pos hshould.1]
        exact ⟨_, List.mem_append_right _ (List.mem_singleton_self _), rfl⟩
      · rw [if_neg hshould] at hsub
        cases hsub
  · intro x hx
    rcases List.mem_append.mp hx with hx | hx
    · obtain ⟨sub, hsub, heq⟩ := h.counted x hx
      exact ⟨sub, List.mem_append_left _ hsub, heq⟩
    · split at hx
      · next hsuccess =>
        obtain rfl := List.mem_singleton.mp hx
        apply hsubmits
        simp [record, shouldActivate, hsuccess]
      · cases hx

/-- **One step.** -/
theorem Kept.step (h : Kept s) (hs : Step s a s') : Kept s' := by
  obtain rfl : s.next a = s' := hs
  cases a with
  | deploy id now =>
    refine h.frame rfl (h.wf.track id now) ?_
    intro p hp
    obtain ⟨i, hi⟩ := List.getElem?_of_mem hp
    rcases Manager.getElem?_track hi with hi | ⟨-, rfl⟩
    · exact .inl (List.mem_of_getElem? hi)
    · exact .inr rfl
  | ack env peer payload => exact h.ack env peer payload
  | forget id => exact h.frame rfl h.wf.forget fun p hp => .inl hp
  | clean now => exact h.frame rfl (h.wf.cleanStale now) fun p hp => .inl hp

/-! ## Runs -/

/-- The successes of the deployment `c` that a step counts. -/
lemma counted_step (hs : Step s a s') : (∀ x ∈ s'.counted, x.containerID ≠ c) ↔
    (∀ x ∈ s.counted, x.containerID ≠ c) ∧ ¬ Succeeds c s a := by
  obtain rfl : s.next a = s' := hs
  cases a with
  | ack env peer payload =>
    cases payload with
    | none => simp [next, countedBy, Succeeds]
    | some ack =>
      simp only [next, countedBy, Succeeds, List.mem_append, or_imp, forall_and]
      refine and_congr_right fun _ => ?_
      cases hp : s.manager.pending ack.containerID with
      | none =>
        simp only [List.not_mem_nil, false_implies, implies_true, true_iff]
        rintro ⟨-, rfl, hsome⟩
        rw [hp] at hsome
        cases hsome
      | some y =>
        by_cases hsuccess : ack.success = true
        · simp only [hsuccess, if_true, List.mem_singleton, forall_eq, true_and]
          constructor
          · exact fun hne hand => hne hand.1
          · intro hnot heq
            apply hnot
            rw [← heq, hp]
            exact ⟨rfl, rfl⟩
        · simp [hsuccess]
  | _ => simp [next, Succeeds]

/-- Nothing is counted for the deployment if and only if nothing succeeds. -/
lemma counted_run (hl : Path Step s l) : (∀ x ∈ (endState s l).counted, x.containerID ≠ c) ↔
    (∀ x ∈ s.counted, x.containerID ≠ c) ∧ StepsMeet (fun s a => ¬ Succeeds c s a) s l := by
  induction l generalizing s with
  | nil => simp [StepsMeet]
  | cons x l ih =>
    rw [endState_cons, ih hl.2, counted_step hl.1, and_assoc]
    rfl

/-- In a state with the history, a deployment is activated as it should be exactly if nothing was
counted for it. -/
lemma Kept.activated_iff (h : Kept s) : Activated c s ↔ ∀ x ∈ s.counted, x.containerID ≠ c := by
  constructor
  · intro hact x hx heq
    obtain ⟨sub, hsub, hid⟩ := h.counted x hx
    obtain ⟨-, -, hthird, -⟩ := hact.wellFormed sub hsub (hid.trans heq)
    exact hthird (h.third sub hsub).1
  · intro hnone
    refine ⟨?_, fun x hx _ _ hxc => absurd hxc (hnone x hx)⟩
    intro sub hsub hid
    obtain ⟨-, x, hx, heq⟩ := h.third sub hsub
    exact absurd (heq.trans hid) (hnone x hx)

/-- **When an escrow is activated as it should be.** In every run of a daemon with a payment
service, what is submitted for a deployment is well formed and submitted when it can be, exactly if
no successful acknowledgement of the deployment arrives while its tracker exists. -/
theorem activation_iff {l : List (Action × Net)} (hl : Path Step (init true) l) :
    Activated c (endState (init true) l) ↔
      StepsMeet (fun s a => ¬ Succeeds c s a) (init true) l := by
  have hkept : StatesMeet Kept (init true) l :=
    hl.invariant (fun _ _ _ h hs => h.step hs) Kept.init
  rw [hkept.endState.activated_iff, counted_run hl]
  exact and_iff_right nofun

/-- **The contract refuses every submission** that is made in a run. -/
theorem submission_reverts (actions : List Action) :
    StatesMeet (fun s => ∀ sub ∈ s.submissions, ∀ m st reservationId isActive r,
      Contracts.Escrow.exec m st (.selectProviders reservationId sub.providers isActive) ≠ .ok r)
      (init true) (follow next (init true) actions) := by
  have hl : Path Step (init true) (follow next (init true) actions) := follow_path _ _
  refine (hl.invariant (P := Kept) (fun _ _ _ h hs => h.step hs) Kept.init).mono ?_
  intro s hs sub hsub m st reservationId isActive r hexec
  simp only [Contracts.Escrow.exec, Contracts.Escrow.Storage.selectProviders, bind_eq_ok,
    revertIf_eq_ok, Contracts.Escrow.Storage.checkProvider] at hexec
  obtain ⟨_, -, _, -, _, -, _, -, _, -, _, ⟨_, hzero, -⟩, -⟩ := hexec
  exact hzero (hs.third sub hsub).1

/-! ## Two replicas -/

/-- The nodes with the wallets `2` and `3` are peers of the daemon, whose own wallet is `1`. -/
def twoPeers : Env where
  walletAddress := 1
  getWallet := none
  peers := [(.replicate 32 2, 2), (.replicate 32 3, 3)]
  isActiveProvider _ := true

/-- A peer acknowledges the deployment `dep-1` under its own name. -/
def ackFrom (b : UInt8) (success : Bool) : Action :=
  .ack twoPeers (.replicate 32 b)
    (some ⟨text "dep-1", success, [], NodeID.string (.replicate 32 b), text "Europe"⟩)

/-- A deployment whose replica fails needs no activation. -/
theorem activation_iff_failed :
    let run := follow next (init true) [.deploy (text "dep-1") 0, ackFrom 2 false]
    Activated (text "dep-1") (endState (init true) run) := by
  intro run
  refine (activation_iff (follow_path _ _)).mpr ⟨id, ?_, trivial⟩
  rintro ⟨hsuccess, -⟩
  cases hsuccess

/-- **The third provider is missing.** Two replicas with wallets of their own succeed. The one
submission is made after the first, with the local wallet, the wallet of the first replica and the
zero address. -/
theorem third_provider_missing :
    let run := follow next (init true)
      [.deploy (text "dep-1") 0, ackFrom 2 true, ackFrom 3 true]
    let s := endState (init true) run
    Path Step (init true) run ∧
      s.submissions.map (fun sub => (sub.deploymentID, List.ofFn sub.providers)) =
        [(text "dep-1", [1, 2, 0])] ∧
      s.counted.map (fun x => (x.containerID, x.peer, x.wallet)) =
        [(text "dep-1", .replicate 32 2, 2), (text "dep-1", .replicate 32 3, 3)] ∧
      ¬ Activated (text "dep-1") s := by
  intro run s
  have hpath : Path Step (init true) run := follow_path _ _
  refine ⟨hpath, by decide +kernel, by decide +kernel, ?_⟩
  intro hact
  have hsub : s.submissions.map (fun sub => (sub.deploymentID, sub.providers 2)) =
      [(text "dep-1", 0)] := by decide +kernel
  obtain ⟨sub, hmem, heq⟩ := List.mem_map.mp (hsub ▸ List.mem_singleton_self _)
  simp only [Prod.mk.injEq] at heq
  obtain ⟨-, -, hthird, -⟩ := hact.wellFormed sub hmem heq.1
  exact hthird heq.2

end Moltbunker.Daemon.Acks
