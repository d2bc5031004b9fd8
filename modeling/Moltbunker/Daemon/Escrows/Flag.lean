import Moltbunker.Daemon.Escrows.Agreement

/-!
# `EscrowFinalized`

The flag says that the escrow of a deployment has ended, and `reconcileEscrowsOnStartup` passes over
a deployment that has it. `Stop` and the reconciler set it as soon as a node has accepted the
finalization, and the reconciler also for an error that it takes for a sign of the end. An accepted
transaction can still revert or be dropped, and the phrases that are searched for in a message are
in messages of reverts for other reasons.

* `finalizeReservation_status` — the status that a finalization reports is the one of the
  reservation;
* `Flags.step` — a step that meets the condition keeps every flag true;
* `flag_means_ended` — in every run whose steps all meet it, a flag in the store is true only of
  reservations that ended;
* `flag_of_dropped` — a deployment whose finalization was dropped has the flag, in the store.
-/

namespace Moltbunker.Daemon.Escrows

open Lib Text Function
open Contracts (Address Msg)
open Contracts.Escrow
open Payment

variable {abi : Abi} {s s' : State} {a : Action} {id : DeploymentID}

/-! ## The flag and its condition -/

/-- The reservation with the number `t` is over. -/
def Ended (storage : Storage) (t : Text) : Prop :=
  ∃ r, setString t = some r ∧ (storage.reservations (chainID r)).status.Terminal

/-- **A flag in the store is true only of a reservation that ended.** -/
def FlagsPersisted (s : State) : Prop :=
  ∀ id d, s.store id = some d → d.escrowFinalized = true → Ended s.storage d.reservationID

/-- The transaction after which a task sets the flag. -/
def Task.tx : Task → Option ℕ
  | .stopping _ tx => tx
  | .mark _ tx => tx
  | .forget _ => none

instance (status : Status) : Decidable status.Terminal := inferInstanceAs (Decidable (_ ∨ _ ∨ _))

/-- The transaction after which a task sets the flag has been mined and has not reverted. -/
def TaskConfirmed (s : State) (i : ℕ) : Prop :=
  ∀ task ∈ s.tasks[i]?, ∀ k ∈ task.tx, ∃ tx ∈ s.txs k, tx.fate = .mined

instance (s : State) (i : ℕ) : Decidable (TaskConfirmed s i) :=
  inferInstanceAs (Decidable (∀ task ∈ s.tasks[i]?, ∀ k ∈ task.tx, ∃ tx ∈ s.txs k,
    tx.fate = .mined))

/-- If an error of a finalization has no data that can be decoded, and one of the phrases is in its
message, the reservation is over. -/
def SweepConfirmed (abi : Abi) (s : State) (id : DeploymentID) (finalize : Sent) : Prop :=
  ∀ e ∈ s.cache (jobID id), ∀ err ∈ finalize.error (text "failed to finalize reservation: "),
    decodedTerminal abi err = none → saysTerminal err.message →
      (s.storage.reservations (chainID e.1)).status.Terminal

instance (abi : Abi) (s : State) (id : DeploymentID) (finalize : Sent) :
    Decidable (SweepConfirmed abi s id finalize) :=
  inferInstanceAs (Decidable (∀ e ∈ s.cache (jobID id),
    ∀ err ∈ finalize.error (text "failed to finalize reservation: "),
      decodedTerminal abi err = none → saysTerminal err.message →
        (s.storage.reservations (chainID e.1)).status.Terminal))

/-- When a flag is set after a finalization was accepted, that transaction has been mined and has
not reverted; and when an error without data that can be decoded has one of the phrases in its
message, the reservation is over. -/
def Confirmed (abi : Abi) (s : State) : Action → Prop
  | .task i => TaskConfirmed s i
  | .sweep id finalize => SweepConfirmed abi s id finalize
  | _ => True

instance (abi : Abi) (s : State) : (a : Action) → Decidable (Confirmed abi s a)
  | .task i => inferInstanceAs (Decidable (TaskConfirmed s i))
  | .sweep id finalize => inferInstanceAs (Decidable (SweepConfirmed abi s id finalize))
  | .wait _ | .deploy _ _ _ | .stop _ _ _ | .start _ | .delete _ _ _ | .finalizeAllEscrows _ _ _
  | .reconcileContainerStatus _ _ _ | .cleanup | .escrowEvent _ _ | .restart _ | .snapshot
  | .write _ _ | .writeAll _ | .mine _ _ | .drop _ | .call _ _ => .isTrue trivial

/-! ## What a finalization reports -/

lemma onlyPanics_distributeIf {storage : Storage} (n : ℕ) {res : Reservation} (gross : ℕ) :
    OnlyPanics (storage.distributeIf n res gross) := by
  apply OnlyPanics.ite
  · unfold Storage.distributePayment
    refine (onlyPanics_mulW).bind fun _ => ?_
    refine (onlyPanics_subC).bind fun _ => ?_
    refine (onlyPanics_mulW).bind fun _ => ?_
    refine (onlyPanics_divC).bind fun _ => ?_
    refine (onlyPanics_subC).bind fun _ => ?_
    refine (onlyPanics_addW).bind fun _ => ?_
    refine (onlyPanics_addW).bind fun _ => ?_
    refine (onlyPanics_divC).bind fun _ => ?_
    refine (onlyPanics_mulW).bind fun _ => ?_
    refine (onlyPanics_subC).bind fun _ => ?_
    exact (onlyPanics_addW).bind fun _ => .ok _
  · exact .ok _

lemma onlyPanics_checkLowBalance {storage : Storage} {res : Reservation} :
    OnlyPanics (storage.checkLowBalance res) :=
  (onlyPanics_subC).bind fun _ => (onlyPanics_mulW).bind fun _ =>
    (onlyPanics_divC).bind fun _ => .ok _

variable {storage : Storage} {m : Msg} {i : ℕ} {finalize : Sent} {c : ExtCall} {out : Outcome}

/-- **The status that a finalization reports** is the status of the reservation. -/
theorem finalizeReservation_status {n : ℕ} {expected actual : Status}
    (h : exec m storage (.finalizeReservation n) =
      .error (.error (.invalidStatus i expected actual))) :
    actual = (storage.reservations n).status := by
  have hrest : ∀ {α : Type} {x : Exec α}, OnlyPanics x →
      x ≠ .error (.error (.invalidStatus i expected actual)) := by
    intro α x hx heq
    cases hx _ heq
  rcases bind_eq_error.mp h with h | ⟨_, -, h⟩
  · exact EscrowError.noConfusion (Revert.error.inj (revertIf_eq_error.mp h).2)
  rcases bind_eq_error.mp h with h | ⟨_, -, h⟩
  · have heq := Revert.error.inj (revertIf_eq_error.mp h).2
    exact (EscrowError.invalidStatus.inj heq).2.2
  rcases bind_eq_error.mp h with h | ⟨_, -, h⟩
  · exact absurd h (hrest onlyPanics_subC)
  rcases bind_eq_error.mp h with h | ⟨_, -, h⟩
  · exact absurd h (hrest (onlyPanics_distributeIf _ _))
  rcases bind_eq_error.mp h with h | ⟨_, -, h⟩
  · exact absurd h (hrest onlyPanics_checkLowBalance)
  · cases h

/-- The error of a job without a reservation is not taken for the end of one. -/
lemma noReservation_not_terminal : isAlreadyTerminalEscrowErr abi (noReservation id) = false := by
  apply not_isAlreadyTerminal
  have hdigit : ∀ n < 16, lower (Nat.digitChar n) ≠ 'l' := by decide
  intro hmem
  rw [List.map_append] at hmem
  rcases List.mem_append.mp hmem with hmem | hmem
  · revert hmem
    decide +kernel
  · obtain ⟨c, hc, hl⟩ := List.mem_map.mp hmem
    obtain ⟨b, -, hc⟩ := List.mem_flatMap.mp hc
    have hb := b.toNat_lt
    rcases List.mem_pair.mp hc with rfl | rfl <;> exact hdigit _ (by omega) hl

/-- **An error that the reconciler accepts** comes from a reservation that is over. -/
theorem sweep_error_ended (hl : abi.Lawful) (h : Agrees s) {err : Err}
    (hallowed : Allowed abi s (.sweep id finalize)) (hG : Confirmed abi s (.sweep id finalize))
    (herror : s.finalizeJob id finalize = .error err)
    (hterminal : isAlreadyTerminalEscrowErr abi err = true) :
    ∃ t, s.bound id = some t ∧ Ended s.storage t := by
  rcases callJob_eq_error (map_eq_error herror) with rfl | ⟨e, hcache, hsent⟩
  · rw [noReservation_not_terminal] at hterminal
    cases hterminal
  obtain ⟨t, ht, hr⟩ := h.cache id e hcache
  refine ⟨t, ht, e.1, hr, ?_⟩
  cases hdecoded : decodedTerminal abi err with
  | none =>
    apply hG e hcache err hsent hdecoded
    unfold isAlreadyTerminalEscrowErr at hterminal
    rw [hdecoded] at hterminal
    exact of_decide_eq_true hterminal
  | some terminal =>
    unfold isAlreadyTerminalEscrowErr at hterminal
    rw [hdecoded] at hterminal
    obtain rfl : terminal = true := hterminal
    obtain ⟨data, hdata, hrevert⟩ := Option.bind_eq_some_iff.mp hdecoded
    have hhonest := hallowed e hcache
    cases finalize with
    | accepted => cases hsent
    | noOpts err' =>
      cases hsent
      have hnone : extractRevertData abi err' = none := hhonest
      exact absurd (hdata.symm.trans hnone) (Option.some_ne_none data)
    | refused err' =>
      cases hsent
      obtain ⟨m, revert, hexec, rfl⟩ := hhonest data hdata
      obtain ⟨i, expected, actual, rfl, hactual⟩ := isAlreadyTerminal_typed hl hrevert
      rw [← finalizeReservation_status hexec]
      exact hactual

/-! ## What keeps the flags true -/

/-- Every flag is true only of a reservation that ended, and so is the one that a task will set
because of an error. -/
structure Flags (s : State) : Prop where
  records : ∀ id d, Recorded s id d → d.escrowFinalized = true → Ended s.storage d.reservationID
  tasks : ∀ id, Task.mark id none ∈ s.tasks → ∃ t, s.bound id = some t ∧ Ended s.storage t

lemma Fresh.flags (h : Fresh s) : Flags s where
  records := by
    intro id d hd
    have hbound := h.agrees.records id d hd
    exact absurd (hbound.symm.trans (h.bound id)) (Option.some_ne_none _)
  tasks := by
    intro id hmem
    rw [h.tasks] at hmem
    cases hmem

lemma Flags.paid (h : Flags s) (hp : Paid s s') : Flags s' where
  records := by
    intro id d hd
    rw [hp.storage]
    apply h.records
    unfold Recorded at hd ⊢
    rwa [hp.deployments, hp.store, hp.saves] at hd
  tasks := by
    rw [hp.tasks, hp.bound, hp.storage]
    exact h.tasks

lemma Flags.withTasks (h : Flags s) {tasks : List Task}
    (htasks : ∀ id, Task.mark id none ∈ tasks → ∃ t, s.bound id = some t ∧ Ended s.storage t) :
    Flags { s with tasks := tasks } :=
  ⟨h.records, htasks⟩

lemma Flags.addTask (h : Flags s) {task : Task}
    (htask : ∀ id, task = .mark id none → ∃ t, s.bound id = some t ∧ Ended s.storage t) :
    Flags (s.addTask task) := by
  apply h.withTasks
  intro id hmem
  rcases List.mem_cons.mp hmem with heq | hmem
  · exact htask id heq.symm
  · exact h.tasks id hmem

lemma Flags.put (h : Flags s) {d₀ : Option Deployment}
    (hd : ∀ d, d₀ = some d → d.escrowFinalized = true → Ended s.storage d.reservationID) :
    Flags (s.put id d₀) where
  records := by
    intro id' d hrec hflag
    rcases recorded_put hrec with ⟨-, hd'⟩ | hrec
    · exact hd d hd' hflag
    · exact h.records id' d hrec hflag
  tasks := h.tasks

/-- The flag of a reservation that ended is set. -/
lemma Flags.setFinalized (h : Flags s) (hagrees : Agrees s)
    (hended : ∃ t, s.bound id = some t ∧ Ended s.storage t) : Flags (s.setFinalized id) := by
  apply h.put
  intro d hd _
  obtain ⟨d', hd', rfl⟩ := Option.map_eq_some_iff.mp hd
  obtain ⟨t, ht, hended⟩ := hended
  have hbound := hagrees.records id d' (.inl hd')
  rw [ht] at hbound
  exact Option.some.inj hbound ▸ hended

lemma Flags.withRecords (h : Flags s) {store : Records} {saves : List Records}
    (hrecords : ∀ id d, Recorded { s with store := store, saves := saves } id d →
      Recorded s id d) : Flags { s with store := store, saves := saves } :=
  ⟨fun id d hd => h.records id d (hrecords id d hd), h.tasks⟩

lemma Flags.register (h : Flags s) (hfresh : s.bound id = none) (paying : Paying) :
    Flags (s.register id paying) := by
  have hkeep : Flags
      { s with bound := update s.bound id (some paying.reservationID) } := by
    refine ⟨h.records, ?_⟩
    intro id' hmem
    obtain ⟨t, ht, hended⟩ := h.tasks id' hmem
    have hne : id' ≠ id := fun heq => Option.some_ne_none t ((heq ▸ ht).symm.trans hfresh)
    exact ⟨t, (update_of_ne hne _ _).trans ht, hended⟩
  unfold State.register
  split
  · exact hkeep
  · exact ⟨hkeep.records, hkeep.tasks⟩

/-- A reservation that ended stays so. -/
lemma Ended.exec {t : Text} (h : Ended storage t) (hs : Sound storage)
    (hexec : exec m storage c = .ok out) : Ended out.1 t := by
  obtain ⟨r, hr, hterminal⟩ := h
  refine ⟨r, hr, ?_⟩
  rw [exec_terminal hs hterminal hexec]
  exact hterminal

lemma Flags.exec (h : Flags s) (hs : Sound s.storage) (hexec : exec m s.storage c = .ok out) :
    Flags { s with storage := out.1 } where
  records := fun id d hd hflag => (h.records id d hd hflag).exec hs hexec
  tasks := by
    intro id hmem
    obtain ⟨t, ht, hended⟩ := h.tasks id hmem
    exact ⟨t, ht, hended.exec hs hexec⟩

/-! ## Steps -/

lemma Flags.deploy (h : Flags s) (hfresh : s.bound id = none) (paying : Paying)
    (launch : Launch) : Flags (s.deploy id paying launch) := by
  unfold State.deploy
  split_ifs
  · exact h
  · have hreg := h.register hfresh paying
    cases launch with
    | failed refund => exact hreg.paid (logged_paid fun _ => refundJob_paid)
    | stored running =>
      apply hreg.put
      intro d hd hflag
      cases hd
      cases hflag

lemma Flags.change (h : Flags s) (hc : Change s s') : Flags s' := by
  cases hc with
  | paid hp => exact h.paid hp
  | put hd _ hr hflag =>
    apply h.put
    intro d' hd' hset
    cases hd'
    rw [hr]
    exact h.records _ _ (.inl hd) (hflag ▸ hset)
  | remove id => exact h.put fun d hd => absurd hd.symm (Option.some_ne_none d)
  | stopping id | forget id => exact h.addTask fun _ heq => Task.noConfusion heq
  | finalized hok =>
    exact (h.paid (finalizeJob_paid hok)).addTask fun _ heq => Task.noConfusion heq
  | store hstore => exact h.withRecords hstore
  | snapshot => exact h.withRecords fun _ _ => recorded_snapshot
  | wait n => exact ⟨h.records, h.tasks⟩

lemma Flags.changes (h : Flags s) (hc : Relation.ReflTransGen Change s s') : Flags s' := by
  induction hc with
  | refl => exact h
  | tail _ hc ih => exact ih.change hc

/-- The finalization of a task that was mined has ended the reservation of its deployment. -/
lemma Agrees.ended (h : Agrees s) {k : ℕ} {tx : Tx} (htask : TaskAgrees s (.mark id (some k)))
    (hk : s.txs k = some tx) (hmined : tx.fate = .mined) :
    ∃ t, s.bound id = some t ∧ Ended s.storage t := by
  obtain ⟨t, r, tx', ht, hr, hk', hcall⟩ := htask
  obtain rfl := Option.some.inj (hk.symm.trans hk')
  exact ⟨t, ht, r, hr, h.mined k tx _ hk hmined hcall⟩

lemma Flags.runTask (h : Flags s) (hagrees : Agrees s) (hG : Confirmed abi s (.task i)) :
    Flags (s.runTask i) := by
  have herase : ∀ id, Task.mark id none ∈ s.tasks.eraseIdx i →
      ∃ t, s.bound id = some t ∧ Ended s.storage t :=
    fun id hmem => h.tasks id (List.mem_of_mem_eraseIdx hmem)
  unfold State.runTask
  split
  · exact h
  · next id k hi =>
    obtain ⟨tx, hk, hmined⟩ := hG _ hi k rfl
    have hended : ∃ t, s.bound id = some t ∧ Ended s.storage t :=
      hagrees.ended (hagrees.tasks (.stopping id (some k)) (List.mem_of_getElem? hi)) hk hmined
    refine Flags.withTasks (s := s.setFinalized id) (h.setFinalized hagrees hended) ?_
    intro id' hmem
    rcases List.mem_or_eq_of_mem_set hmem with hmem | heq
    · exact h.tasks id' hmem
    · exact Task.noConfusion heq
  · next id hi =>
    have hput : Flags (s.put id ((s.deployments id).map fun d => d.stop s.now)) := by
      apply h.put
      intro d hd hflag
      obtain ⟨d', hd', rfl⟩ := Option.map_eq_some_iff.mp hd
      exact h.records id d' (.inl hd') hflag
    exact hput.withTasks herase
  · next id tx hi =>
    have hended : ∃ t, s.bound id = some t ∧ Ended s.storage t := by
      cases tx with
      | none => exact h.tasks id (List.mem_of_getElem? hi)
      | some k =>
        obtain ⟨tx, hk, hmined⟩ := hG _ hi k rfl
        exact hagrees.ended (hagrees.tasks _ (List.mem_of_getElem? hi)) hk hmined
    exact Flags.withTasks (s := s.setFinalized id) (h.setFinalized hagrees hended) herase
  · next id hi =>
    have hstore : Flags { s with store := update s.store id none } :=
      h.withRecords fun _ _ => recorded_forget
    exact hstore.withTasks herase

lemma Flags.restart (h : Flags s)
    (containerd : Option (DeploymentID → Option ContainerStatus)) :
    Flags (s.restart containerd) := by
  refine ⟨?_, nofun⟩
  rintro id d (hd | hd | ⟨records, hmem, -⟩) hflag
  · obtain ⟨d', hd', rfl⟩ := Option.map_eq_some_iff.mp hd
    obtain ⟨status, hstatus⟩ := reconcileOnStartup_eq
    rw [hstatus] at hflag ⊢
    exact h.records id d' (.inr (.inl hd')) hflag
  · exact h.records id d (.inr (.inl hd)) hflag
  · cases hmem

lemma Flags.sweep (hl : abi.Lawful) (h : Flags s) (hagrees : Agrees s)
    (hallowed : Allowed abi s (.sweep id finalize)) (hG : Confirmed abi s (.sweep id finalize)) :
    Flags (s.sweep abi id finalize) := by
  unfold State.sweep
  split_ifs
  · have hswept : Flags { s with sweeping := update s.sweeping id false } :=
      ⟨h.records, h.tasks⟩
    dsimp only
    split
    · next s' hok =>
      apply (hswept.paid (finalizeJob_paid hok)).addTask
      intro id' heq
      exact absurd (Task.mark.inj heq).2 (Option.some_ne_none _)
    · next err herror =>
      split_ifs with hterminal
      · apply hswept.addTask
        intro id' heq
        obtain rfl := (Task.mark.inj heq).1
        have hagrees' : Agrees { s with sweeping := update s.sweeping id false } :=
          ⟨hagrees.sound, hagrees.numbered, hagrees.records, hagrees.cache, hagrees.tasks,
            hagrees.mined⟩
        exact sweep_error_ended hl hagrees' hallowed hG herror hterminal
      · exact hswept
  · exact h

lemma Flags.mine (h : Flags s) (hs : Sound s.storage) {k : ℕ} : Flags (s.mine k m) := by
  unfold State.mine
  split
  · exact h
  · split_ifs
    · split
      · next out hexec =>
        have hexec' := h.exec hs hexec
        exact ⟨hexec'.records, hexec'.tasks⟩
      · exact ⟨h.records, h.tasks⟩
    · exact h

lemma Flags.drop (h : Flags s) (k : ℕ) : Flags (s.drop k) := by
  unfold State.drop
  split
  · exact h
  · split_ifs
    · exact ⟨h.records, h.tasks⟩
    · exact h

lemma Flags.call (h : Flags s) (hs : Sound s.storage) : Flags (s.call m c) := by
  unfold State.call
  split
  · next out hexec => exact h.exec hs hexec
  · exact h

/-- **One step** that meets the condition keeps every flag true. -/
theorem Flags.step (hl : abi.Lawful) (h : Flags s) (hagrees : Agrees s) (hG : Confirmed abi s a)
    (hs : Step abi s a s') : Flags s' := by
  obtain ⟨hallowed, rfl⟩ := hs
  cases a with
  | deploy id paying launch => exact h.deploy hallowed paying launch
  | cleanup => exact ⟨h.records, h.tasks⟩
  | escrowEvent n j => exact ⟨h.records, h.tasks⟩
  | task i => exact h.runTask hagrees hG
  | restart containerd => exact h.restart containerd
  | sweep id finalize => exact h.sweep hl hagrees hallowed hG
  | mine k m => exact h.mine hagrees.sound
  | drop k => exact h.drop k
  | call m c => exact h.call hagrees.sound
  | _ => exact h.changes (next_changes rfl)

/-- **The flag means the end.** In every run of a daemon in which a flag is set after a finalization
only once that transaction was mined without a revert, and in which a message with one of the
phrases and no data comes only from a reservation that is over: in every state, a deployment in the
store has the flag only if its reservation is completed, refunded or disputed. -/
theorem flag_means_ended {l : List (Action × State)} (hl : abi.Lawful) (hs : Fresh s)
    (hpath : Path (Step abi) s l) (hG : StepsMeet (Confirmed abi) s l) :
    StatesMeet FlagsPersisted s l := by
  have hkept : StatesMeet (fun s => Agrees s ∧ Flags s) s l :=
    Path.invariant_of_steps (fun _ _ _ h hG hs => ⟨h.1.step hs, h.2.step hl h.1 hG hs⟩)
      ⟨hs.agrees, hs.flags⟩ hpath hG
  exact hkept.mono fun _ h id d hd hflag => h.2.records id d (.inr (.inl hd)) hflag

/-! ## A finalization that is mined, and one that is dropped -/

/-- It is deployed with the reservation `1` and stopped, and both transactions are accepted; then
the chain does something, the flag is set, and the deployment is written to the store. -/
def stopping (chain : Action) : List Action :=
  [.deploy firstID (.external (text "1")) (.stored true), .stop firstID .accepted .accepted, chain,
    .task 0, .snapshot, .write 0 firstID]

lemma stopping_path (k : ℕ) (m : Msg) : Path (Step smallAbi) firstStart
      (follow (State.next smallAbi) firstStart (stopping (.mine k m))) ∧
    Path (Step smallAbi) firstStart
      (follow (State.next smallAbi) firstStart (stopping (.drop k))) :=
  ⟨follow_step ⟨rfl, trivial, trivial, trivial, trivial, trivial, trivial⟩,
    follow_step ⟨rfl, trivial, trivial, trivial, trivial, trivial, trivial⟩⟩

/-- The state after the run. -/
def afterStopping (chain : Action) : State :=
  endState firstStart (follow (State.next smallAbi) firstStart (stopping chain))

/-- The finalization is mined before the flag is set. -/
theorem flag_means_ended_mined :
    StatesMeet FlagsPersisted firstStart
        (follow (State.next smallAbi) firstStart (stopping (.mine 1 ⟨9, 1050, 1000⟩))) ∧
      ((afterStopping (.mine 1 ⟨9, 1050, 1000⟩)).store firstID).map Deployment.escrowFinalized =
        some true ∧
      ((afterStopping (.mine 1 ⟨9, 1050, 1000⟩)).storage.reservations 1).status = .completed := by
  refine ⟨?_, by decide +kernel⟩
  exact flag_means_ended smallAbi_lawful firstStart_fresh (stopping_path 1 _).1 (by decide +kernel)

/-- **The flag of a reservation that is active.** The finalization is dropped; the flag is set, and
is in the store. -/
theorem flag_of_dropped :
    smallAbi.Lawful ∧ Fresh firstStart ∧
      Path (Step smallAbi) firstStart
        (follow (State.next smallAbi) firstStart (stopping (.drop 1))) ∧
      ((afterStopping (.drop 1)).storage.reservations 1).status = .active ∧
      ¬ StatesMeet FlagsPersisted firstStart
        (follow (State.next smallAbi) firstStart (stopping (.drop 1))) := by
  refine ⟨smallAbi_lawful, firstStart_fresh, (stopping_path 1 ⟨9, 1050, 1000⟩).2, by decide +kernel,
    ?_⟩
  intro hall
  have hend : FlagsPersisted (afterStopping (.drop 1)) := hall.endState
  have hstored : (afterStopping (.drop 1)).store firstID =
      some ⟨.running, some 0, none, none, true, text "1", true⟩ := by decide +kernel
  obtain ⟨r, hr, hterminal⟩ := hend firstID _ hstored rfl
  have hone : r = 1 := by
    have hparse : setString (text "1") = some 1 := by decide +kernel
    exact Option.some.inj (hr.symm.trans hparse)
  rw [hone] at hterminal
  revert hterminal
  decide +kernel

end Moltbunker.Daemon.Escrows
