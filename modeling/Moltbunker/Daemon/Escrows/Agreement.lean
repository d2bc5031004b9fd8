import Moltbunker.Daemon.Escrows.Model

/-!
# Agreement on the reservations

What every run of the daemon keeps, whatever the chain does: the deployments in memory, their
copies, the cache of the client and the pending work agree on the reservation of each deployment.

* `Paid` — what the calls of the client leave;
* `Agrees` — the records, the cache and the tasks agree on the reservations, and a finalization that
  was mined has ended its reservation;
* `Change` — what the requests of the daemon are made of;
* `Agrees.step` — every step keeps it, by `Agrees.changes` and one lemma for each other action.
-/

namespace Moltbunker.Daemon.Escrows

open Lib Text Function State Relation
open Contracts (Address Msg)
open Contracts.Escrow
open Payment

/-! ## What the client leaves -/

/-- A transaction that ends the reservation `n` is pending. -/
def Closing (s : State) (n : ℕ) : Prop :=
  ∃ k tx, s.txs k = some tx ∧ tx.fate = .pending ∧
    (tx.call = .finalizeReservation n ∨ tx.call = .refund n)

/-- There are no transactions beyond the number of them. -/
def Numbered (s : State) : Prop := ∀ k, s.count ≤ k → s.txs k = none

/-- **What the calls of the client leave.** They submit transactions, and forget a reservation only
with a transaction that ends it. -/
structure Paid (s s' : State) : Prop where
  deployments : s'.deployments = s.deployments
  tasks : s'.tasks = s.tasks
  sweeping : s'.sweeping = s.sweeping
  saves : s'.saves = s.saves
  store : s'.store = s.store
  storage : s'.storage = s.storage
  bound : s'.bound = s.bound
  cache : ∀ j e, s'.cache j = some e → s.cache j = some e
  txs : ∀ k tx, s'.txs k = some tx → s.txs k = some tx ∨ tx.fate = .pending
  numbered : Numbered s → Numbered s'
  keeps : Numbered s → ∀ k tx, s.txs k = some tx → s'.txs k = some tx
  closing : Numbered s → ∀ j e, s.cache j = some e → s'.cache j = some e ∨ Closing s' (chainID e.1)

variable {s s' s'' : State} {id : DeploymentID} {sent : Sent}

lemma Paid.refl (s : State) : Paid s s where
  deployments := rfl
  tasks := rfl
  sweeping := rfl
  saves := rfl
  store := rfl
  storage := rfl
  bound := rfl
  cache := fun _ _ h => h
  txs := fun _ _ h => .inl h
  numbered := fun h => h
  keeps := fun _ _ _ h => h
  closing := fun _ _ _ h => .inl h

lemma Closing.mono {n : ℕ} (h : Closing s n)
    (hkeeps : ∀ k tx, s.txs k = some tx → s'.txs k = some tx) : Closing s' n := by
  obtain ⟨k, tx, hk, hrest⟩ := h
  exact ⟨k, tx, hkeeps k tx hk, hrest⟩

lemma Paid.trans (h : Paid s s') (h' : Paid s' s'') : Paid s s'' where
  deployments := h'.deployments.trans h.deployments
  tasks := h'.tasks.trans h.tasks
  sweeping := h'.sweeping.trans h.sweeping
  saves := h'.saves.trans h.saves
  store := h'.store.trans h.store
  storage := h'.storage.trans h.storage
  bound := h'.bound.trans h.bound
  cache := fun j e hj => h.cache j e (h'.cache j e hj)
  txs := by
    intro k tx hk
    rcases h'.txs k tx hk with hk | hpending
    · exact h.txs k tx hk
    · exact .inr hpending
  numbered := fun hn => h'.numbered (h.numbered hn)
  keeps := fun hn k tx hk => h'.keeps (h.numbered hn) k tx (h.keeps hn k tx hk)
  closing := by
    intro hn j e hj
    rcases h.closing hn j e hj with hj | hclosing
    · exact h'.closing (h.numbered hn) j e hj
    · exact .inr (hclosing.mono (h'.keeps (h.numbered hn)))

lemma submit_numbered {call : ExtCall} (hn : Numbered s) : Numbered (s.submit call) := by
  intro k hk
  have hlt : s.count < k := hk
  show update s.txs s.count _ k = none
  rw [update_of_ne hlt.ne']
  exact hn k hlt.le

variable {k : ℕ} {tx : Tx} {d₀ : Option Deployment} {id' : DeploymentID} {d : Deployment}

lemma submit_keeps {call : ExtCall} (hn : Numbered s) (hk : s.txs k = some tx) :
    (s.submit call).txs k = some tx := by
  have hne : k ≠ s.count := by
    rintro rfl
    rw [hn _ le_rfl] at hk
    exact Option.some_ne_none _ hk.symm
  show update s.txs s.count _ k = some tx
  rw [update_of_ne hne]
  exact hk

lemma submit_txs {call : ExtCall} (hk : (s.submit call).txs k = some tx) :
    s.txs k = some tx ∨ tx.fate = .pending := by
  obtain ⟨-, hnew⟩ | ⟨-, hk⟩ := update_eq_some.mp hk
  · exact .inr (Option.some.inj hnew ▸ rfl)
  · exact .inl hk

lemma submit_paid {call : ExtCall} : Paid s (s.submit call) where
  deployments := rfl
  tasks := rfl
  sweeping := rfl
  saves := rfl
  store := rfl
  storage := rfl
  bound := rfl
  cache := fun _ _ h => h
  txs := fun _ _ h => submit_txs h
  numbered := submit_numbered
  keeps := fun hn _ _ h => submit_keeps hn h
  closing := fun _ _ _ h => .inl h

/-- The end of the reservation of a job is submitted, and the client forgets it. -/
lemma close_paid {call : ExtCall} {r : ℤ} {t : ℕ} (hcache : s.cache (jobID id) = some (r, t))
    (hcall : call = .finalizeReservation (chainID r) ∨ call = .refund (chainID r)) :
    Paid s ((s.submit call).removeReservationID (jobID id)) where
  deployments := rfl
  tasks := rfl
  sweeping := rfl
  saves := rfl
  store := rfl
  storage := rfl
  bound := rfl
  cache := by
    intro j e hj
    obtain ⟨-, hnew⟩ | ⟨-, hj⟩ := update_eq_some.mp hj
    · cases hnew
    · exact hj
  txs := fun _ _ h => submit_txs h
  numbered := submit_numbered
  keeps := fun hn _ _ h => submit_keeps hn h
  closing := by
    intro _ j e hj
    by_cases hjob : j = jobID id
    · refine .inr ⟨s.count, ⟨call, .pending⟩, update_self .., rfl, ?_⟩
      rw [hjob, hcache] at hj
      exact Option.some.inj hj ▸ hcall
    · exact .inl ((update_of_ne hjob _ _).trans hj)

lemma callJob_eq_ok {context : Text} {call : ℕ → ExtCall}
    (h : s.callJob id context call sent = .ok s') :
    ∃ r t, s.cache (jobID id) = some (r, t) ∧ s' = s.submit (call (chainID r)) := by
  unfold callJob at h
  split at h
  · cases h
  · next r t hcache =>
    split at h
    · cases h
    · exact ⟨r, t, hcache, (Except.ok.inj h).symm⟩

lemma callJob_eq_error {context : Text} {call : ℕ → ExtCall} {err : Err}
    (h : s.callJob id context call sent = .error err) : err = noReservation id ∨
    ∃ e, s.cache (jobID id) = some e ∧ sent.error context = some err := by
  unfold callJob at h
  split at h
  · exact .inl (Except.error.inj h).symm
  · next r t hcache =>
    split at h
    · next err' herr =>
      exact .inr ⟨(r, t), hcache, herr.trans (congrArg some (Except.error.inj h))⟩
    · cases h

lemma map_eq_ok {α β ε : Type} {f : α → β} {x : Except ε α} {b : β} (h : x.map f = .ok b) :
    ∃ a, x = .ok a ∧ f a = b := by
  cases x with
  | error e => cases h
  | ok a => exact ⟨a, rfl, Except.ok.inj h⟩

lemma map_eq_error {α β ε : Type} {f : α → β} {x : Except ε α} {e : ε} (h : x.map f = .error e) :
    x = .error e := by
  cases x with
  | error e' => exact congrArg _ (Except.error.inj h)
  | ok a => cases h

lemma finalizeJob_eq_ok (h : s.finalizeJob id sent = .ok s') :
    ∃ r t, s.cache (jobID id) = some (r, t) ∧
      s' = (s.submit (.finalizeReservation (chainID r))).removeReservationID (jobID id) := by
  obtain ⟨s₁, hcall, rfl⟩ := map_eq_ok h
  obtain ⟨r, t, hcache, rfl⟩ := callJob_eq_ok hcall
  exact ⟨r, t, hcache, rfl⟩

lemma finalizeJob_paid (h : s.finalizeJob id sent = .ok s') : Paid s s' := by
  obtain ⟨r, t, hcache, rfl⟩ := finalizeJob_eq_ok h
  exact close_paid hcache (.inl rfl)

lemma refundJob_paid (h : s.refundJob id sent = .ok s') : Paid s s' := by
  obtain ⟨s₁, hcall, rfl⟩ := map_eq_ok h
  obtain ⟨r, t, hcache, rfl⟩ := callJob_eq_ok hcall
  exact close_paid hcache (.inr rfl)

lemma logged_paid {x : Except Err State} (h : ∀ s', x = .ok s' → Paid s s') :
    Paid s (s.logged x) := by
  cases x with
  | ok s' => exact h s' rfl
  | error _ => exact .refl s

lemma release_paid (startedAt : Option ℕ) : Paid s (s.release id startedAt sent) := by
  cases startedAt with
  | none => exact .refl s
  | some t =>
    apply logged_paid
    intro s' h
    obtain ⟨r, _, -, rfl⟩ := callJob_eq_ok h
    exact submit_paid

lemma settleDeleted_paid {release close : Sent} :
    Paid s (s.settleDeleted id d release close) := by
  unfold settleDeleted
  split_ifs
  · exact (release_paid _).trans (logged_paid fun _ => finalizeJob_paid)
  · exact logged_paid fun _ => finalizeJob_paid
  · exact logged_paid fun _ => refundJob_paid

/-! ## Agreement on the reservations -/

/-- A record of a deployment: in memory, in the store, or in a copy that is being written. -/
def Recorded (s : State) (id : DeploymentID) (d : Deployment) : Prop :=
  s.deployments id = some d ∨ s.store id = some d ∨ ∃ records ∈ s.saves, records id = some d

/-- The finalization that a task has submitted is of the reservation of its deployment. -/
def TaskAgrees (s : State) : Task → Prop
  | .stopping id (some k) | .mark id (some k) =>
    ∃ t r tx, s.bound id = some t ∧ setString t = some r ∧ s.txs k = some tx ∧
      tx.call = .finalizeReservation (chainID r)
  | _ => True

/-- **Agreement.** Every record and every cached reservation of an id is of the reservation that it
was deployed with, so are the finalizations of the tasks, and a finalization that was mined has
ended its reservation. -/
structure Agrees (s : State) : Prop where
  sound : Sound s.storage
  numbered : Numbered s
  records : ∀ id d, Recorded s id d → s.bound id = some d.reservationID
  cache : ∀ id e, s.cache (jobID id) = some e → ∃ t, s.bound id = some t ∧ setString t = some e.1
  tasks : ∀ task ∈ s.tasks, TaskAgrees s task
  mined : ∀ k tx n, s.txs k = some tx → tx.fate = .mined → tx.call = .finalizeReservation n →
    (s.storage.reservations n).status.Terminal

lemma Fresh.agrees (h : Fresh s) : Agrees s where
  sound := h.storage
  numbered := fun k _ => h.txs k
  records := by
    rintro id d (hd | hd | ⟨records, hmem, -⟩)
    · exact absurd (hd.symm.trans (h.deployments id)) (Option.some_ne_none d)
    · exact absurd (hd.symm.trans (h.store id)) (Option.some_ne_none d)
    · rw [h.saves] at hmem
      cases hmem
  cache := fun id e he => absurd (he.symm.trans (h.cache _)) (Option.some_ne_none e)
  tasks := by
    intro task hmem
    rw [h.tasks] at hmem
    cases hmem
  mined := fun k tx _ hk => absurd (hk.symm.trans (h.txs k)) (Option.some_ne_none tx)

lemma TaskAgrees.mono {task : Task} (h : TaskAgrees s task)
    (hbound : ∀ id t, s.bound id = some t → s'.bound id = some t)
    (htxs : ∀ k tx, s.txs k = some tx → ∃ tx', s'.txs k = some tx' ∧ tx'.call = tx.call) :
    TaskAgrees s' task := by
  cases task with
  | stopping id tx | mark id tx =>
    cases tx with
    | none => trivial
    | some k =>
      obtain ⟨t, r, tx, ht, hr, hk, hcall⟩ := h
      obtain ⟨tx', hk', hsame⟩ := htxs k tx hk
      exact ⟨t, r, tx', hbound id t ht, hr, hk', hsame.trans hcall⟩
  | forget id => trivial

lemma Agrees.paid (h : Agrees s) (hp : Paid s s') : Agrees s' where
  sound := hp.storage ▸ h.sound
  numbered := hp.numbered h.numbered
  records := by
    intro id d hd
    rw [hp.bound]
    apply h.records
    unfold Recorded at hd ⊢
    rwa [hp.deployments, hp.store, hp.saves] at hd
  cache := by
    intro id e he
    rw [hp.bound]
    exact h.cache id e (hp.cache _ e he)
  tasks := by
    intro task hmem
    rw [hp.tasks] at hmem
    refine (h.tasks task hmem).mono (fun id t ht => ?_) fun k tx hk => ?_
    · rw [hp.bound]
      exact ht
    · exact ⟨tx, hp.keeps h.numbered k tx hk, rfl⟩
  mined := by
    intro k tx n hk hfate hcall
    rw [hp.storage]
    rcases hp.txs k tx hk with hk | hpending
    · exact h.mined k tx n hk hfate hcall
    · rw [hpending] at hfate
      exact Fate.noConfusion hfate

/-- The tasks change. -/
lemma Agrees.withTasks (h : Agrees s) {tasks : List Task}
    (htasks : ∀ task ∈ tasks, TaskAgrees s task) : Agrees { s with tasks := tasks } :=
  ⟨h.sound, h.numbered, h.records, h.cache, fun task hmem => htasks task hmem, h.mined⟩

lemma Agrees.addTask (h : Agrees s) {task : Task} (htask : TaskAgrees s task) :
    Agrees (s.addTask task) := by
  apply h.withTasks
  intro task' hmem
  rcases List.mem_cons.mp hmem with rfl | hmem
  · exact htask
  · exact h.tasks task' hmem

/-- The records change, and there is no new one. -/
lemma Agrees.withRecords (h : Agrees s) {store : Records} {saves : List Records}
    (hrecords : ∀ id d, Recorded { s with store := store, saves := saves } id d →
      Recorded s id d) : Agrees { s with store := store, saves := saves } :=
  ⟨h.sound, h.numbered, fun id d hd => h.records id d (hrecords id d hd), h.cache, h.tasks, h.mined⟩

/-- What is in the store after a record was written or deleted was recorded before. -/
lemma recorded_update (hd₀ : ∀ d, d₀ = some d → Recorded s id d)
    (h : Recorded { s with store := update s.store id d₀ } id' d) : Recorded s id' d := by
  rcases h with hd | hd | hd
  · exact .inl hd
  · obtain ⟨rfl, hnew⟩ | ⟨-, hold⟩ := update_eq_some.mp hd
    · exact hd₀ d hnew
    · exact .inr (.inl hold)
  · exact .inr (.inr hd)

lemma recorded_forget (h : Recorded { s with store := update s.store id none } id' d) :
    Recorded s id' d :=
  recorded_update (fun d hd => absurd hd.symm (Option.some_ne_none d)) h

lemma recorded_snapshot (h : Recorded { s with saves := s.deployments :: s.saves } id d) :
    Recorded s id d := by
  rcases h with hd | hd | ⟨records, hmem, hd⟩
  · exact .inl hd
  · exact .inr (.inl hd)
  · rcases List.mem_cons.mp hmem with rfl | hmem
    · exact .inl hd
    · exact .inr (.inr ⟨records, hmem, hd⟩)

lemma recorded_put (h : Recorded (s.put id d₀) id' d) :
    (id' = id ∧ d₀ = some d) ∨ Recorded s id' d := by
  rcases h with hd | hrest
  · obtain hnew | ⟨-, hd⟩ := update_eq_some.mp hd
    · exact .inl hnew
    · exact .inr (.inl hd)
  · exact .inr (.inr hrest)

lemma Agrees.put (h : Agrees s) (hd : ∀ d, d₀ = some d → s.bound id = some d.reservationID) :
    Agrees (s.put id d₀) where
  sound := h.sound
  numbered := h.numbered
  records := by
    intro id' d hrec
    rcases recorded_put hrec with ⟨rfl, hd'⟩ | hrec
    · exact hd d hd'
    · exact h.records id' d hrec
  cache := h.cache
  tasks := h.tasks
  mined := h.mined

/-- A deployment is changed, and keeps its reservation. -/
lemma Agrees.modify (h : Agrees s) {f : Deployment → Deployment}
    (hf : ∀ d, (f d).reservationID = d.reservationID) :
    Agrees (s.put id ((s.deployments id).map f)) := by
  apply h.put
  intro d hd
  obtain ⟨d', hd', rfl⟩ := Option.map_eq_some_iff.mp hd
  rw [hf]
  exact h.records id d' (.inl hd')

/-- The cache changes. -/
lemma Agrees.withCache (h : Agrees s) {cache : List UInt8 → Option (ℤ × ℕ)}
    (hcache : ∀ id e, cache (jobID id) = some e →
      ∃ t, s.bound id = some t ∧ setString t = some e.1) : Agrees { s with cache := cache } :=
  ⟨h.sound, h.numbered, h.records, hcache, h.tasks, h.mined⟩

lemma Paying.setString_reservationID {paying : Paying} {r : ℤ}
    (h : paying.reservation = some r) : setString paying.reservationID = some r := by
  unfold Paying.reservationID
  rw [h]
  exact setString_ofInt r

/-- A new id is bound. -/
lemma Agrees.withBound (h : Agrees s) {bound : DeploymentID → Option Text}
    (hold : ∀ id t, s.bound id = some t → bound id = some t) :
    Agrees { s with bound := bound } where
  sound := h.sound
  numbered := h.numbered
  records := fun id d hd => hold id _ (h.records id d hd)
  cache := by
    intro id e he
    obtain ⟨t, ht, hr⟩ := h.cache id e he
    exact ⟨t, hold id t ht, hr⟩
  tasks := fun task hmem => (h.tasks task hmem).mono hold fun _ tx hk => ⟨tx, hk, rfl⟩
  mined := h.mined

lemma register_bound {paying : Paying} :
    (s.register id paying).bound = update s.bound id (some paying.reservationID) := by
  unfold register
  split <;> rfl

/-- A new id is bound, and its reservation cached. -/
lemma Agrees.register (h : Agrees s) (hfresh : s.bound id = none) (paying : Paying) :
    Agrees (s.register id paying) := by
  have hbound : Agrees
      { s with bound := update s.bound id (some paying.reservationID) } := by
    apply h.withBound
    intro id' t ht
    have hne : id' ≠ id := fun heq => Option.some_ne_none t ((heq ▸ ht).symm.trans hfresh)
    rw [update_of_ne hne]
    exact ht
  unfold State.register
  split
  · exact hbound
  · next r hr =>
    apply hbound.withCache
    intro id' e he
    obtain ⟨hjob, hnew⟩ | ⟨-, he⟩ := update_eq_some.mp he
    · obtain rfl := jobID_injective hjob
      cases hnew
      exact ⟨paying.reservationID, update_self .., Paying.setString_reservationID hr⟩
    · exact hbound.cache id' e he

/-- A call to the contract returns. -/
lemma Agrees.exec {m : Msg} {c : ExtCall} {out : Outcome} (h : Agrees s)
    (hexec : exec m s.storage c = .ok out) : Agrees { s with storage := out.1 } where
  sound := exec_sound h.sound hexec
  numbered := h.numbered
  records := h.records
  cache := h.cache
  tasks := h.tasks
  mined := by
    intro k tx n hk hfate hcall
    have hterminal := h.mined k tx n hk hfate hcall
    show (out.1.reservations n).status.Terminal
    rw [exec_terminal h.sound hterminal hexec]
    exact hterminal

/-- The fate of a transaction is known. -/
lemma Agrees.decided {fate : Fate} (h : Agrees s) (hk : s.txs k = some tx)
    (hmined : fate = .mined → ∀ n, tx.call = .finalizeReservation n →
      (s.storage.reservations n).status.Terminal) : Agrees (s.decided k tx fate) where
  sound := h.sound
  numbered := by
    intro k' hk'
    have hne : k' ≠ k := by
      rintro rfl
      rw [h.numbered k' hk'] at hk
      exact Option.some_ne_none tx hk.symm
    show update s.txs k _ k' = none
    rw [update_of_ne hne]
    exact h.numbered k' hk'
  records := h.records
  cache := h.cache
  tasks := by
    intro task hmem
    refine (h.tasks task hmem).mono (fun _ _ ht => ht) fun k' tx' hk' => ?_
    by_cases hkk : k' = k
    · subst hkk
      rw [hk] at hk'
      exact ⟨_, update_self .., by rw [← Option.some.inj hk']⟩
    · exact ⟨tx', (update_of_ne hkk _ _).trans hk', rfl⟩
  mined := by
    intro k' tx' n hk' hfate hcall
    obtain ⟨-, hnew⟩ | ⟨-, hk'⟩ := update_eq_some.mp hk'
    · cases hnew
      exact hmined hfate n hcall
    · exact h.mined k' tx' n hk' hfate hcall

/-! ## Every step keeps the agreement -/

/-- A finalization that was accepted is filed for the job. -/
lemma finalizeJob_taskAgrees (h : Agrees s) (hok : s.finalizeJob id sent = .ok s') :
    TaskAgrees s' (.stopping id (some s.count)) ∧ TaskAgrees s' (.mark id (some s.count)) := by
  obtain ⟨r, time, hcache, rfl⟩ := finalizeJob_eq_ok hok
  obtain ⟨t, ht, hr⟩ := h.cache id _ hcache
  have hfiled : ∃ t r' tx, s.bound id = some t ∧ setString t = some r' ∧
      (s.submit (.finalizeReservation (chainID r))).txs s.count = some tx ∧
      tx.call = .finalizeReservation (chainID r') :=
    ⟨t, r, ⟨.finalizeReservation (chainID r), .pending⟩, ht, hr, update_self .., rfl⟩
  exact ⟨hfiled, hfiled⟩

lemma Agrees.deploy (h : Agrees s) (hfresh : s.bound id = none) (paying : Paying)
    (launch : Launch) : Agrees (s.deploy id paying launch) := by
  unfold State.deploy
  split_ifs
  · exact h
  · have hreg := h.register hfresh paying
    cases launch with
    | failed refund => exact hreg.paid (logged_paid fun _ => refundJob_paid)
    | stored running =>
      apply hreg.put
      intro d hd
      cases hd
      rw [register_bound]
      exact update_self ..

/-- What the requests of the daemon and the writing of its records are made of: calls of the client,
a deployment that is changed and keeps its originator, its reservation and its flag, or is removed,
what is left to a task, a store of what was recorded, a copy of the deployments, and time. -/
inductive Change : State → State → Prop
  | paid {s s' : State} (h : Paid s s') : Change s s'
  | put {s : State} {id : DeploymentID} {d d' : Deployment} (hd : s.deployments id = some d)
      (horiginated : d'.originated = d.originated) (hr : d'.reservationID = d.reservationID)
      (hflag : d'.escrowFinalized = d.escrowFinalized) : Change s (s.put id (some d'))
  | remove (s : State) (id : DeploymentID) : Change s (s.put id none)
  | stopping (s : State) (id : DeploymentID) : Change s (s.addTask (.stopping id none))
  | forget (s : State) (id : DeploymentID) : Change s (s.addTask (.forget id))
  | finalized {s s' : State} {id : DeploymentID} {sent : Sent}
      (h : s.finalizeJob id sent = .ok s') : Change s (s'.addTask (.stopping id (some s.count)))
  | store {s : State} {store : Records}
      (h : ∀ id d, Recorded { s with store := store } id d → Recorded s id d) :
      Change s { s with store := store }
  | snapshot (s : State) : Change s { s with saves := s.deployments :: s.saves }
  | wait (s : State) (n : ℕ) : Change s { s with now := s.now + n }

lemma stop_changes {release finalize : Sent} :
    ReflTransGen Change s (s.stop id release finalize) := by
  unfold State.stop
  split
  · exact .refl
  · next d hd =>
    split_ifs
    · have hrel := ReflTransGen.single (Change.paid (@release_paid s id release d.startedAt))
      dsimp only
      split
      · next s' hok => exact hrel.tail (.finalized hok)
      · exact hrel.tail (.stopping _ id)
    · exact .single (.stopping s id)

lemma start_changes : ReflTransGen Change s (s.start id) := by
  unfold State.start
  split
  · exact .refl
  · next d hd =>
    split_ifs
    · exact .refl
    · exact .single (.put hd rfl rfl rfl)

lemma delete_changes {release close : Sent} :
    ReflTransGen Change s (s.delete id release close) := by
  unfold State.delete
  split
  · exact .refl
  · next d hd =>
    have hput := ReflTransGen.single (Change.remove s id)
    split_ifs
    · exact (hput.tail (.paid settleDeleted_paid)).tail (.forget _ id)
    · exact hput.tail (.forget _ id)

lemma finalizeAllEscrows_paid {release finalize : Sent} :
    Paid s (s.finalizeAllEscrows id release finalize) := by
  unfold finalizeAllEscrows
  split
  · exact .refl s
  · split_ifs
    · exact (release_paid _).trans (logged_paid fun _ => finalizeJob_paid)
    · exact .refl s

lemma reconcileContainerStatus_changes (actual : ContainerStatus) (refund : Sent) :
    ReflTransGen Change s (s.reconcileContainerStatus id actual refund) := by
  unfold State.reconcileContainerStatus
  split
  · exact .refl
  · next d hd =>
    have hput : ReflTransGen Change s (s.put id (some { d with status := actual })) :=
      .single (.put hd rfl rfl rfl)
    split_ifs
    · exact hput.tail (.paid (logged_paid fun _ => refundJob_paid))
    · exact hput
    · exact .refl

lemma write_changes {i : ℕ} : ReflTransGen Change s (s.write i id) := by
  unfold write
  split
  · exact .refl
  · next records hi =>
    split
    · exact .refl
    · next d₀ hd₀ =>
      refine .single (.store fun id' d => recorded_update fun d hd => ?_)
      cases hd
      exact .inr (.inr ⟨records, List.mem_of_getElem? hi, hd₀⟩)

lemma writeAll_changes {i : ℕ} : ReflTransGen Change s (s.writeAll i) := by
  unfold writeAll
  split
  · exact .refl
  · next records hi =>
    refine .single (.store ?_)
    rintro id d (hd | hd | hd)
    · exact .inl hd
    · exact .inr (.inr ⟨records, List.mem_of_getElem? hi, hd⟩)
    · exact .inr (.inr hd)

/-- The actions that are made of such changes. -/
def Action.changes : Action → Bool
  | .wait _ | .stop .. | .start _ | .delete .. | .finalizeAllEscrows ..
  | .reconcileContainerStatus .. | .snapshot | .write .. | .writeAll _ => true
  | _ => false

lemma next_changes {abi : Abi} {a : Action} (h : a.changes = true) :
    ReflTransGen Change s (s.next abi a) := by
  cases a with
  | wait n => exact .single (.wait s n)
  | stop id release finalize => exact stop_changes
  | start id => exact start_changes
  | delete id release close => exact delete_changes
  | finalizeAllEscrows id release finalize =>
    exact .single (.paid finalizeAllEscrows_paid)
  | reconcileContainerStatus id actual refund =>
    exact reconcileContainerStatus_changes actual refund
  | snapshot => exact .single (.snapshot s)
  | write i id => exact write_changes
  | writeAll i => exact writeAll_changes
  | _ => cases h

lemma Agrees.change (h : Agrees s) (hc : Change s s') : Agrees s' := by
  cases hc with
  | paid hp => exact h.paid hp
  | put hd _ hr _ =>
    apply h.put
    intro d' hd'
    cases hd'
    rw [hr]
    exact h.records _ _ (.inl hd)
  | remove id => exact h.put fun d hd => absurd hd.symm (Option.some_ne_none d)
  | stopping id | forget id => exact h.addTask trivial
  | finalized hok =>
    exact (h.paid (finalizeJob_paid hok)).addTask (finalizeJob_taskAgrees h hok).1
  | store hstore => exact h.withRecords hstore
  | snapshot => exact h.withRecords fun _ _ => recorded_snapshot
  | wait n => exact ⟨h.sound, h.numbered, h.records, h.cache, h.tasks, h.mined⟩

lemma Agrees.changes (h : Agrees s) (hc : ReflTransGen Change s s') : Agrees s' := by
  induction hc with
  | refl => exact h
  | tail _ hc ih => exact ih.change hc

lemma Agrees.runTask (h : Agrees s) (i : ℕ) : Agrees (s.runTask i) := by
  have herase : ∀ task ∈ s.tasks.eraseIdx i, TaskAgrees s task :=
    fun task hmem => h.tasks task (List.mem_of_mem_eraseIdx hmem)
  unfold State.runTask
  split
  · exact h
  · next id k hi =>
    refine Agrees.withTasks (s := s.setFinalized id) (h.modify fun _ => rfl) ?_
    intro task hmem
    rcases List.mem_or_eq_of_mem_set hmem with hmem | rfl
    · exact h.tasks task hmem
    · trivial
  · next id hi =>
    exact Agrees.withTasks (s := s.put id _) (h.modify (f := fun d => d.stop s.now) fun _ => rfl)
      herase
  · next id tx hi => exact Agrees.withTasks (s := s.setFinalized id) (h.modify fun _ => rfl) herase
  · next id hi =>
    have hstore : Agrees { s with store := update s.store id none } :=
      h.withRecords fun _ _ => recorded_forget
    exact hstore.withTasks herase

/-- `reconcileOnStartup` changes the status of a deployment only. -/
lemma reconcileOnStartup_eq {containerd : Option (DeploymentID → Option ContainerStatus)} :
    ∃ status, reconcileOnStartup containerd id d = { d with status := status } := by
  unfold reconcileOnStartup
  split
  · exact ⟨d.status, rfl⟩
  · split
    · next actual _ => exact ⟨actual, rfl⟩
    · split_ifs
      · exact ⟨.stopped, rfl⟩
      · exact ⟨d.status, rfl⟩

/-- What is cached after a restart is the reservation of an orphan. -/
lemma rehydrate_eq_some {records : Records} {now : ℕ} {e : ℤ × ℕ}
    (h : rehydrate records now (jobID id) = some e) :
    ∃ d, records id = some d ∧ setString d.reservationID = some e.1 := by
  unfold rehydrate at h
  rw [ofJobID_jobID] at h
  dsimp only at h
  rw [if_pos rfl] at h
  split at h
  · cases h
  · next d hd =>
    split_ifs at h
    obtain ⟨r, hr, rfl⟩ := Option.map_eq_some_iff.mp h
    exact ⟨d, hd, hr⟩

lemma Agrees.restart (h : Agrees s)
    (containerd : Option (DeploymentID → Option ContainerStatus)) :
    Agrees (s.restart containerd) := by
  have hloaded : ∀ id d, (s.store id).map (reconcileOnStartup containerd id) = some d →
      s.bound id = some d.reservationID := by
    intro id d hd
    obtain ⟨d', hd', rfl⟩ := Option.map_eq_some_iff.mp hd
    obtain ⟨status, hstatus⟩ := reconcileOnStartup_eq
    rw [hstatus]
    exact h.records id d' (.inr (.inl hd'))
  refine ⟨h.sound, h.numbered, ?_, ?_, nofun, h.mined⟩
  · rintro id d (hd | hd | ⟨records, hmem, -⟩)
    · exact hloaded id d hd
    · exact h.records id d (.inr (.inl hd))
    · cases hmem
  · intro id e he
    obtain ⟨d, hd, hr⟩ := rehydrate_eq_some he
    exact ⟨d.reservationID, hloaded id d hd, hr⟩

lemma Agrees.sweep {abi : Abi} (h : Agrees s) (finalize : Sent) :
    Agrees (s.sweep abi id finalize) := by
  unfold State.sweep
  split_ifs
  · have hswept : Agrees { s with sweeping := update s.sweeping id false } :=
      ⟨h.sound, h.numbered, h.records, h.cache, h.tasks, h.mined⟩
    dsimp only
    split
    · next s' hok =>
      exact (hswept.paid (finalizeJob_paid hok)).addTask (finalizeJob_taskAgrees hswept hok).2
    · split_ifs
      · exact hswept.addTask trivial
      · exact hswept
  · exact h

/-- A finalization that returns ends its reservation. -/
lemma finalizeReservation_terminal {storage : Storage} {m : Msg} {n : ℕ} {out : Outcome}
    (h : exec m storage (.finalizeReservation n) = .ok out) :
    (out.1.reservations n).status = .completed := by
  rw [(exec_turned rfl h).storage.reservations]
  show (update storage.reservations n _ n).status = .completed
  rw [update_self]
  rfl

lemma Agrees.mine (h : Agrees s) (k : ℕ) (m : Msg) : Agrees (s.mine k m) := by
  unfold State.mine
  split
  · exact h
  · next tx hk =>
    split_ifs
    · split
      · next out hexec =>
        refine Agrees.decided (s := { s with storage := out.1 }) (h.exec hexec) hk ?_
        intro _ n hcall
        rw [hcall] at hexec
        exact .inl (finalizeReservation_terminal hexec)
      · exact h.decided hk fun hmined => Fate.noConfusion hmined
    · exact h

lemma Agrees.drop (h : Agrees s) (k : ℕ) : Agrees (s.drop k) := by
  unfold State.drop
  split
  · exact h
  · next tx hk =>
    split_ifs
    · exact h.decided hk fun hmined => Fate.noConfusion hmined
    · exact h

lemma Agrees.call (h : Agrees s) (m : Msg) (c : ExtCall) : Agrees (s.call m c) := by
  unfold State.call
  split
  · next out hexec => exact h.exec hexec
  · exact h

/-- **Every step keeps the agreement.** -/
theorem Agrees.step {abi : Abi} {a : Action} (h : Agrees s) (hs : Step abi s a s') : Agrees s' := by
  obtain ⟨hallowed, rfl⟩ := hs
  cases a with
  | deploy id paying launch => exact h.deploy hallowed paying launch
  | cleanup =>
    apply h.withCache
    intro id e he
    exact h.cache id e (Option.filter_eq_some_iff.mp he).1
  | escrowEvent n j =>
    apply h.withCache
    intro id e he
    obtain ⟨-, hnew⟩ | ⟨-, he⟩ := update_eq_some.mp he
    · cases hnew
    · exact h.cache id e he
  | task i => exact h.runTask i
  | restart containerd => exact h.restart containerd
  | sweep id finalize => exact h.sweep finalize
  | mine k m => exact h.mine k m
  | drop k => exact h.drop k
  | call m c => exact h.call m c
  | _ => exact h.changes (next_changes rfl)

/-- An encoding: a mark for `InvalidStatus`, the two states, and the number in unary. -/
def smallAbi : Abi where
  encode
    | .error (.invalidStatus id expected actual) =>
      [1, 0, 0, 0, .ofNat (statusCode expected), .ofNat (statusCode actual)] ++
        List.replicate id 0
    | _ => [0, 0, 0, 0]
  decodeHex := hexDecode
  errorByID data := if data.head? = some 1 then some .invalidStatus else none
  unpack
    | _ :: _ :: _ :: _ :: expected :: actual :: rest =>
      some [.uint256 rest.length, .uint8 expected.toNat, .uint8 actual.toNat]
    | _ => none

lemma statusCode_lt (status : Status) : statusCode status < 256 := by
  cases status <;> decide

lemma smallAbi_lawful : smallAbi.Lawful where
  errorByID_status _ _ _ := rfl
  unpack_status id expected actual := by
    simp [smallAbi, statusCode_lt]
  errorByID_other e he := by
    have hencode : smallAbi.encode e = [0, 0, 0, 0] := by
      unfold smallAbi
      dsimp only
      split
      · next id expected actual => exact absurd rfl (he id expected actual)
      · rfl
    rw [hencode]
    decide

/-- The reservation `1` is active, and account `9` is the operator. -/
def activeStorage : Storage :=
  { Storage.deployed 7 8 with
    nextReservationId := 2
    reservations := update (fun _ => .zero) 1 { Reservation.zero with
      requester := 3
      totalAmount := 1000
      duration := 100
      startTime := 1000
      status := .active
      providers := fun _ => 5 }
    isOperator := fun account => account == 9 }

/-- A daemon that is started for the first time. -/
def firstStart : State where
  now := 0
  deployments _ := none
  cache _ := none
  tasks := []
  sweeping _ := false
  saves := []
  store _ := none
  storage := activeStorage
  txs _ := none
  count := 0
  bound _ := none

lemma firstStart_fresh : Fresh firstStart where
  deployments _ := rfl
  cache _ := rfl
  tasks := rfl
  saves := rfl
  store _ := rfl
  storage := by
    intro n hn
    have hne : n ≠ 1 := by
      rintro rfl
      exact absurd hn (by decide)
    exact congrArg Reservation.status (update_of_ne hne _ fun _ => Reservation.zero)
  txs _ := rfl
  bound _ := rfl

/-- A deployment. -/
def firstID : DeploymentID := ⟨[1, 2, 3, 4, 5, 6, 7, 8], rfl⟩

/-- A run whose steps are allowed. -/
lemma follow_step {abi : Abi} {labels : List Action}
    (h : StepsMeet (Allowed abi) s (follow (next abi) s labels)) :
    Path (Step abi) s (follow (next abi) s labels) := by
  induction labels generalizing s with
  | nil => trivial
  | cons a labels ih => exact ⟨⟨h.1, rfl⟩, ih h.2⟩

end Moltbunker.Daemon.Escrows
