import Moltbunker.Daemon.Acks.Model

/-!
# Acknowledgements: who is counted

A connection tells the daemon which peer a message comes from, but `handleDeployAck` does not look
at it: it counts every successful acknowledgement, also the second one of a peer, and it lets the
payload say which node has acknowledged. That node's wallet is then submitted to the escrow.

`Honest` is what the count and the providers are taken for. `AckGuard` asks of the messages what the
handler does not check. Under it the successes that a tracker has counted are from different peers
(`Inv.nodup`), and there are as many as it says (`Inv.successCount`).

* `acks_counted_once` — in every run that meets the condition, the reported counts and the providers
  are honest;
* `counted_twice` — one peer is counted twice, and another node is to be paid.
-/

namespace Moltbunker.Daemon.Acks

open Lib Net
open Contracts (Address)
open Identity (NodeID)

/-! ## What is reported -/

/-- The peers that have sent a successful acknowledgement of the deployment themselves. -/
def Net.senders (s : Net) (c : Text) : Finset NodeID :=
  ((s.sent.filter fun x => x.2 = c).map Prod.fst).toFinset

/-- No reported count exceeds the number of peers that have sent a success, and every provider after
the first is the wallet of such a peer; a zero address is no provider. -/
structure Honest (s : Net) : Prop where
  waitForReplicas : ∀ p ∈ s.manager.trackers, ∀ wake,
    (waitForReplicas p wake).1 ≤ (s.senders p.containerID).card
  getReplicaStatus : ∀ id, (s.manager.getReplicaStatus id).2.1 ≤ (s.senders id).card
  providers : ∀ sub ∈ s.submissions, ∀ i, i ≠ 0 → sub.providers i ≠ 0 →
    ∃ peer ∈ s.senders sub.deploymentID, sub.providers i = sub.env.walletOf peer

/-- The tracker at the place `i` has counted no success of the peer, and if it has counted none at
all, the acknowledgement names the peer, or another one that has sent a success. -/
def CountsOnce (s : Net) (peer : NodeID) (ack : DeployAck) (i : ℕ) (p : PendingDeployment) : Prop :=
  (∀ y ∈ s.counted, y.tracker = i → y.peer ≠ peer) ∧
    (p.escrowActivated = false →
      ∀ node ∈ namedNode ack.nodeID, node = peer ∨ (node, ack.containerID) ∈ s.sent)

instance (s : Net) (peer : NodeID) (ack : DeployAck) (i : ℕ) (p : PendingDeployment) :
    Decidable (CountsOnce s peer ack i p) :=
  instDecidableAnd

/-- The successes that trackers count are from different peers, and the first one names a peer that
has sent it. -/
def AckGuard (s : Net) : Action → Prop
  | .ack _ peer (some ack) =>
    ∀ x ∈ s.manager.pending ack.containerID, ack.success = true →
      CountsOnce s peer ack x.1 x.2
  | _ => True

instance (s : Net) : (a : Action) → Decidable (AckGuard s a)
  | .ack _ peer (some ack) => inferInstanceAs (Decidable (∀ x ∈ s.manager.pending ack.containerID,
      ack.success = true → CountsOnce s peer ack x.1 x.2))
  | .ack _ _ none | .deploy _ _ | .forget _ | .clean _ => .isTrue trivial

/-! ## What the history keeps -/

/-- The successes that the tracker at a place has counted. -/
def Net.countedAt (s : Net) (i : ℕ) : List NodeID :=
  (s.counted.filter fun x => x.tracker = i).map Counted.peer

/-- Trackers and the successes that they have counted. -/
structure Inv (s : Net) : Prop where
  wf : s.manager.Wf
  /-- what is counted is counted by a tracker -/
  tracker : ∀ x ∈ s.counted, x.tracker < s.manager.trackers.length
  successCount : ∀ i p, s.manager.trackers[i]? = some p →
    p.successCount = (s.countedAt i).length
  nodup : ∀ i, (s.countedAt i).Nodup
  sent : ∀ i p, s.manager.trackers[i]? = some p →
    ∀ peer ∈ s.countedAt i, (peer, p.containerID) ∈ s.sent
  providers : ∀ sub ∈ s.submissions, ∀ i, i ≠ 0 → sub.providers i ≠ 0 →
    ∃ peer, (peer, sub.deploymentID) ∈ s.sent ∧ sub.providers i = sub.env.walletOf peer

variable {s s' : Net} {a : Action} {c : Text} {p : PendingDeployment} {peer : NodeID}

lemma mem_senders : peer ∈ s.senders c ↔ (peer, c) ∈ s.sent := by
  simp [senders]

/-- As many as a tracker has counted have sent a success. -/
lemma Inv.successCount_le (h : Inv s) (hp : p ∈ s.manager.trackers) :
    p.successCount ≤ (s.senders p.containerID).card := by
  obtain ⟨i, hi⟩ := List.getElem?_of_mem hp
  rw [h.successCount i p hi, ← List.toFinset_card_of_nodup (h.nodup i)]
  apply Finset.card_le_card
  intro peer hpeer
  rw [mem_senders]
  exact h.sent i p hi peer (List.mem_toFinset.mp hpeer)

/-- The history is honest. -/
lemma Inv.honest (h : Inv s) : Honest s := by
  refine ⟨?_, ?_, ?_⟩
  · intro p hp wake
    have hle := h.successCount_le hp
    cases wake with
    | timedOut =>
      simp only [Acks.waitForReplicas]
      split
      · exact Nat.zero_le _
      · exact hle
    | ready => exact hle
    | closed => exact hle
    | acked => exact hle
  · intro id
    unfold Manager.getReplicaStatus
    split
    · exact Nat.zero_le _
    · next i p hp =>
      obtain ⟨hi, htracker⟩ := Manager.pending_eq_some.mp hp
      rw [← h.wf.containerID_eq hi htracker]
      exact h.successCount_le (List.mem_of_getElem? htracker)
  · intro sub hsub i hi hne
    obtain ⟨peer, hpeer, heq⟩ := h.providers sub hsub i hi hne
    exact ⟨peer, mem_senders.mpr hpeer, heq⟩

/-! ## One step -/

lemma Inv.init (payment : Bool) : Inv (init payment) where
  wf := .init _
  tracker := nofun
  successCount _ _ h := by cases h
  nodup _ := List.nodup_nil
  sent _ _ h := by cases h
  providers := nofun

/-- A new tracker has counted nothing. -/
lemma Inv.track (h : Inv s) (id : Text) (now : ℕ) :
    Inv { s with manager := s.manager.track id now } := by
  have hnone : s.countedAt s.manager.trackers.length = [] := by
    unfold countedAt
    rw [List.map_eq_nil_iff, List.filter_eq_nil_iff]
    intro x hx
    have := h.tracker x hx
    simp only [decide_eq_true_eq]
    omega
  refine ⟨h.wf.track id now, ?_, ?_, h.nodup, ?_, h.providers⟩
  · intro x hx
    have := h.tracker x hx
    simp only [Manager.track, List.length_append, List.length_singleton]
    omega
  · intro i p hp
    rcases Manager.getElem?_track hp with hp | ⟨rfl, rfl⟩
    · exact h.successCount i p hp
    · show 0 = (s.countedAt s.manager.trackers.length).length
      rw [hnone]
      rfl
  · intro i p hp peer hpeer
    rcases Manager.getElem?_track hp with hp | ⟨rfl, rfl⟩
    · exact h.sent i p hp peer hpeer
    · have hmem : peer ∈ s.countedAt s.manager.trackers.length := hpeer
      rw [hnone] at hmem
      cases hmem

/-- A manager with other trackers in the map. -/
lemma Inv.remap (h : Inv s) {manager : Manager} (hwf : manager.Wf)
    (htrackers : manager.trackers = s.manager.trackers) : Inv { s with manager := manager } := by
  refine ⟨hwf, ?_, ?_, h.nodup, ?_, h.providers⟩ <;> simp only [htrackers]
  · exact h.tracker
  · exact h.successCount
  · exact h.sent

/-- More is sent. -/
lemma Inv.send (h : Inv s) {more : List (NodeID × Text)} :
    Inv { s with sent := s.sent ++ more } where
  wf := h.wf
  tracker := h.tracker
  successCount := h.successCount
  nodup := h.nodup
  sent i p hp peer hpeer := List.mem_append_left _ (h.sent i p hp peer hpeer)
  providers sub hsub i hi hne := by
    obtain ⟨peer, hpeer, heq⟩ := h.providers sub hsub i hi hne
    exact ⟨peer, List.mem_append_left _ hpeer, heq⟩

section Record

variable {env : Env} {ack : DeployAck} {i : ℕ}

/-- The tracker at each place, before a message was recorded. -/
lemma getElem?_record {l : List PendingDeployment} (hp : l[i]? = some p) {j : ℕ}
    {q : PendingDeployment} (hq : (l.set i (p.record ack))[j]? = some q) :
    ∃ q₀, l[j]? = some q₀ ∧ q.containerID = q₀.containerID ∧
      q.successCount = q₀.successCount + if i = j ∧ ack.success then 1 else 0 := by
  by_cases hij : i = j
  · subst hij
    rw [List.getElem?_set_self (List.getElem?_eq_some_iff.mp hp).1] at hq
    cases hq
    refine ⟨p, hp, rfl, ?_⟩
    cases hsuccess : ack.success <;> simp [PendingDeployment.record, hsuccess]
  · rw [List.getElem?_set_ne hij] at hq
    exact ⟨q, hq, rfl, by simp [hij]⟩

/-- What each place has counted, after a message. -/
lemma countedAt_record (j : ℕ) : ((s.counted ++ if ack.success then
    [(⟨i, ack.containerID, peer, ack, env⟩ : Counted)] else []).filter
      fun x => x.tracker = j).map Counted.peer =
    s.countedAt j ++ if i = j ∧ ack.success then [peer] else [] := by
  cases hsuccess : ack.success <;> by_cases hij : i = j <;> simp [countedAt, hij]

variable (h : Inv s) (hp : s.manager.trackers[i]? = some p)
  (hguard : ack.success = true → CountsOnce s peer ack i p)

include h hp hguard

/-- The one submission of a tracker: its second provider is the node that the message names. -/
lemma Inv.submitted {sub : Submission}
    (hsub : sub ∈ (if p.shouldActivate ack then
      activateEscrow s.manager.payment env ack.containerID (p.record ack).acks else none).toList)
    {k : Fin 3} (hk : k ≠ 0) (hne : sub.providers k ≠ 0) :
    ∃ node, (node, sub.deploymentID) ∈ s.sent ++ sentBy peer (some ack) ∧
      sub.providers k = sub.env.walletOf node := by
  split_ifs at hsub with hshould
  · simp only [PendingDeployment.shouldActivate, Bool.and_eq_true, Bool.not_eq_true'] at hshould
    obtain ⟨hsuccess, hfirst⟩ := hshould
    unfold activateEscrow at hsub
    split at hsub
    · obtain rfl := List.mem_singleton.mp hsub
      obtain ⟨hthird, hsecond⟩ := @providers_snapshot env p.acks
        ⟨ack.nodeID, ack.region, ack.success, ack.error⟩
        (h.wf.fails p (List.mem_of_getElem? hp) hfirst)
      fin_cases k
      · exact absurd rfl hk
      · rcases hsecond with hzero | ⟨node, hnode, heq⟩
        · exact absurd hzero hne
        · refine ⟨node, ?_, heq⟩
          rcases (hguard hsuccess).2 hfirst node hnode with rfl | hsent
          · exact List.mem_append_right _ (by simp [sentBy, hsuccess])
          · exact List.mem_append_left _ hsent
      · exact absurd hthird hne
    · cases hsub
  · cases hsub

/-- A message that is recorded. -/
lemma Inv.record (hi : s.manager.pendingDeployments ack.containerID = some i) :
    Inv { manager := { s.manager with trackers := s.manager.trackers.set i (p.record ack) }
          submissions := s.submissions ++ (if p.shouldActivate ack then
            activateEscrow s.manager.payment env ack.containerID (p.record ack).acks
            else none).toList
          sent := s.sent ++ sentBy peer (some ack)
          counted := s.counted ++
            if ack.success then [⟨i, ack.containerID, peer, ack, env⟩] else [] } := by
  refine ⟨h.wf.record hp ack, ?_, ?_, ?_, ?_, ?_⟩
  · intro x hx
    rw [List.length_set]
    rcases List.mem_append.mp hx with hx | hx
    · exact h.tracker x hx
    · split at hx
      · obtain rfl := List.mem_singleton.mp hx
        exact (List.getElem?_eq_some_iff.mp hp).1
      · cases hx
  · intro j q hq
    obtain ⟨q₀, hq₀, -, hcount⟩ := getElem?_record hp hq
    rw [hcount, h.successCount j q₀ hq₀]
    unfold countedAt
    rw [countedAt_record j, List.length_append]
    split <;> rfl
  · intro j
    unfold countedAt
    rw [countedAt_record j]
    split
    · next hj =>
      obtain ⟨rfl, hsuccess⟩ := hj
      refine List.nodup_append.mpr ⟨h.nodup i, List.nodup_singleton peer, ?_⟩
      intro x hx y hy
      obtain rfl := List.mem_singleton.mp hy
      simp only [countedAt, List.mem_map, List.mem_filter, decide_eq_true_eq] at hx
      obtain ⟨c, ⟨hc, hct⟩, rfl⟩ := hx
      exact (hguard hsuccess).1 c hc hct
    · rw [List.append_nil]
      exact h.nodup j
  · intro j q hq x hx
    obtain ⟨q₀, hq₀, hcontainer, -⟩ := getElem?_record hp hq
    unfold countedAt at hx
    rw [countedAt_record j, List.mem_append] at hx
    rw [hcontainer]
    rcases hx with hx | hx
    · exact List.mem_append_left _ (h.sent j q₀ hq₀ x hx)
    · split at hx
      · next hj =>
        obtain ⟨rfl, hsuccess⟩ := hj
        obtain rfl := List.mem_singleton.mp hx
        rw [hp] at hq₀
        cases hq₀
        rw [h.wf.containerID_eq hi hp]
        exact List.mem_append_right _ (by simp [sentBy, hsuccess])
      · cases hx
  · intro sub hsub k hk hne
    rcases List.mem_append.mp hsub with hsub | hsub
    · obtain ⟨x, hx, heq⟩ := h.providers sub hsub k hk hne
      exact ⟨x, List.mem_append_left _ hx, heq⟩
    · exact h.submitted hp hguard hsub hk hne

end Record

/-- **One step.** -/
theorem Inv.step (h : Inv s) (hs : Step s a s') (hguard : AckGuard s a) : Inv s' := by
  obtain rfl : s.next a = s' := hs
  cases a with
  | deploy id now => exact h.track id now
  | ack env peer payload =>
    unfold next
    dsimp only
    rcases handleDeployAck_cases payload with
      ⟨hresult, hcounted⟩ | ⟨ack, i, p, rfl, hi, hp, hresult, hcounted⟩
    · rw [hresult, hcounted]
      simpa using h.send
    · rw [hresult, hcounted]
      refine h.record hp (fun hsuccess => ?_) hi
      exact hguard (i, p) (Manager.pending_eq_some.mpr ⟨hi, hp⟩) hsuccess
  | forget id => exact h.remap h.wf.forget rfl
  | clean now => exact h.remap (h.wf.cleanStale now) rfl

/-! ## Runs -/

/-- **Acknowledgements are counted once.** In every run that meets the condition, the counts that
are reported never exceed the number of peers that have sent a successful acknowledgement
themselves, and the providers that are submitted are wallets of such peers. -/
theorem acks_counted_once {payment : Bool} {l : List (Action × Net)}
    (hl : Path Step (init payment) l) (hguard : StepsMeet AckGuard (init payment) l) :
    StatesMeet Honest (init payment) l := by
  have hinv : StatesMeet Inv (init payment) l :=
    hl.invariant_of_steps (fun _ _ _ h hguard hs => h.step hs hguard) (Inv.init payment) hguard
  exact hinv.mono fun _ h => h.honest

/-- The peers with the bytes `2` and `3` have the wallets `2` and `3`. -/
def knownPeers : Env where
  walletAddress := 1
  getWallet := none
  peers := [(.replicate 32 2, 2), (.replicate 32 3, 3)]
  isActiveProvider _ := true

/-- A peer sends a success for the deployment `dep-1`, in the name of a node. -/
def succeed (peer named : UInt8) : Action :=
  .ack knownPeers (.replicate 32 peer)
    (some ⟨text "dep-1", true, [], NodeID.string (.replicate 32 named), text "Europe"⟩)

/-- Two peers that succeed in their own names are counted as two. -/
theorem acks_counted_once_two :
    let run := follow next (init true)
      [.deploy (text "dep-1") 0, succeed 2 2, succeed 3 3]
    (endState (init true) run).manager.getReplicaStatus (text "dep-1") = (2, 2, true) ∧
      StepsMeet AckGuard (init true) run ∧ StatesMeet Honest (init true) run := by
  intro run
  have hguard : StepsMeet AckGuard (init true) run := by
    refine ⟨trivial, ?_, by decide +kernel, trivial⟩
    intro x _ _
    refine ⟨nofun, fun _ node hnode => .inl ?_⟩
    exact (Option.some.inj hnode).symm
  exact ⟨by decide +kernel, hguard, acks_counted_once (follow_path _ _) hguard⟩

/-- **Counted twice, and paid to another.** One peer sends two successes in the name of another
node. The count is two, one peer has sent a success, and the wallet that is submitted is that of the
node which has sent nothing. -/
theorem counted_twice :
    let run := follow next (init true)
      [.deploy (text "dep-1") 0, succeed 2 3, succeed 2 3]
    let s := endState (init true) run
    Path Step (init true) run ∧
      s.manager.getReplicaStatus (text "dep-1") = (2, 2, true) ∧
      (s.senders (text "dep-1")).card = 1 ∧
      s.submissions.map (fun sub => List.ofFn sub.providers) = [[1, 3, 0]] ∧
      (.replicate 32 3) ∉ s.senders (text "dep-1") ∧
      ¬ StatesMeet Honest (init true) run := by
  intro run s
  have hstatus : s.manager.getReplicaStatus (text "dep-1") = (2, 2, true) := by decide +kernel
  have hcard : (s.senders (text "dep-1")).card = 1 := by decide +kernel
  refine ⟨follow_path _ _, hstatus, hcard, by decide +kernel, by decide +kernel, ?_⟩
  intro hhonest
  have hle := hhonest.endState.getReplicaStatus (text "dep-1")
  exact absurd hle (by decide)

end Moltbunker.Daemon.Acks
