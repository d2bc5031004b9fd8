import Moltbunker.Daemon.Escrows.Agreement

/-!
# The reservation of a live job

Every call of the escrow client finds the reservation of a job in its cache. The cache is emptied of
what is older than a day every hour, while jobs run for thirty days by default; and after a restart
it is filled again for the deployments that are stopped or failed only.

* `Mapped` — the cache has the reservation of every live job;
* `Mapped.step` — a step that meets the condition keeps it;
* `live_job_mapped` — in every run whose steps all meet it, a live job has its reservation;
* `lost_after_a_day` — a job that has run for a day and an hour has none.
-/

namespace Moltbunker.Daemon.Escrows

open Lib Text Function
open Contracts (Address Msg)
open Contracts.Escrow
open Payment

variable {abi : Abi} {s s' : State} {a : Action} {id : DeploymentID}

/-! ## Live jobs -/

/-- The job of a deployment of this node is live: its reservation `r` is neither finalized nor
refunded, and no transaction that would do so is on its way. -/
structure Live (s : State) (id : DeploymentID) (r : ℤ) : Prop where
  originated : ∃ d, s.deployments id = some d ∧ d.originated = true ∧
    setString d.reservationID = some r
  notFinished : ¬ Finished s.storage (chainID r)
  notClosing : ¬ Closing s (chainID r)

/-- **The cache has the reservation of every live job.** -/
def Mapped (s : State) : Prop :=
  ∀ id r, Live s id r → (s.cache (jobID id)).map Prod.fst = some r

/-- The transaction would end the reservation `n`. -/
def Tx.Closes (tx : Tx) (n : ℕ) : Prop :=
  tx.fate = .pending ∧ (tx.call = .finalizeReservation n ∨ tx.call = .refund n)

/-- What keeps the reservations of live jobs: when the cache is cleaned, none of them is older than
a day; at a restart, every live job is of a deployment that is taken for an orphan; and a
transaction that would end a reservation fails or is dropped only if the reservation has ended. -/
def Kept (s : State) : Action → Prop
  | .cleanup => ∀ id r, Live s id r → ∀ e ∈ s.cache (jobID id), s.now ≤ e.2 + 24 * 3600 * second
  | .restart containerd => ∀ id d r, s.store id = some d → d.originated = true →
      setString d.reservationID = some r → ¬ Finished s.storage (chainID r) →
      ¬ Closing s (chainID r) → Deployment.orphan (reconcileOnStartup containerd id d) = true
  | .mine k m => ∀ tx ∈ s.txs k, ∀ n, tx.Closes n →
      (∃ out, exec m s.storage tx.call = .ok out) ∨ Finished s.storage n
  | .drop k => ∀ tx ∈ s.txs k, ∀ n, tx.Closes n → Finished s.storage n
  | _ => True

/-! ## What keeps the reservations -/

/-- Nothing becomes live, and the cache keeps what it has of live jobs. -/
lemma Mapped.mono (h : Mapped s) (hlive : ∀ id r, Live s' id r → Live s id r)
    (hcache : ∀ id r, Live s' id r → s'.cache (jobID id) = s.cache (jobID id)) : Mapped s' := by
  intro id r hl
  rw [hcache id r hl]
  exact h id r (hlive id r hl)

lemma Fresh.mapped (h : Fresh s) : Mapped s := by
  intro id r hl
  obtain ⟨d, hd, -⟩ := hl.originated
  exact absurd (hd.symm.trans (h.deployments id)) (Option.some_ne_none d)

lemma Mapped.paid (h : Mapped s) (hn : Numbered s) (hp : Paid s s') : Mapped s' := by
  intro id r hl
  have hlive : Live s id r := by
    refine ⟨?_, ?_, ?_⟩
    · rw [← hp.deployments]
      exact hl.originated
    · rw [← hp.storage]
      exact hl.notFinished
    · intro hclosing
      exact hl.notClosing (hclosing.mono (hp.keeps hn))
  obtain ⟨e, he, rfl⟩ := Option.map_eq_some_iff.mp (h id r hlive)
  rcases hp.closing hn _ e he with hkept | hclosing
  · rw [hkept]
    rfl
  · exact absurd hclosing hl.notClosing

/-- A deployment is changed, and keeps its originator and its reservation. -/
lemma Mapped.put (h : Mapped s) {d₀ : Option Deployment}
    (hd : ∀ d', d₀ = some d' → ∃ d, s.deployments id = some d ∧ d'.originated = d.originated ∧
      d'.reservationID = d.reservationID) : Mapped (s.put id d₀) := by
  apply h.mono
  · intro id' r hl
    refine ⟨?_, hl.notFinished, hl.notClosing⟩
    obtain ⟨d', hd', horiginated, hr⟩ := hl.originated
    obtain ⟨rfl, hput⟩ | ⟨-, hput⟩ := update_eq_some.mp hd'
    · obtain ⟨d, hsd, ho, hres⟩ := hd d' hput
      exact ⟨d, hsd, ho ▸ horiginated, hres ▸ hr⟩
    · exact ⟨d', hput, horiginated, hr⟩
  · exact fun _ _ _ => rfl

/-- A deployment is changed where it is. -/
lemma Mapped.modify (h : Mapped s) {f : Deployment → Deployment}
    (ho : ∀ d, (f d).originated = d.originated)
    (hr : ∀ d, (f d).reservationID = d.reservationID) :
    Mapped (s.put id ((s.deployments id).map f)) := by
  apply h.put
  intro d' hd'
  obtain ⟨d, hd, rfl⟩ := Option.map_eq_some_iff.mp hd'
  exact ⟨d, hd, ho d, hr d⟩

lemma Live.congr {r : ℤ} (h : Live s' id r) (hdeployments : s'.deployments = s.deployments)
    (hstorage : s'.storage = s.storage) (htxs : s'.txs = s.txs) : Live s id r := by
  refine ⟨hdeployments ▸ h.originated, hstorage ▸ h.notFinished, ?_⟩
  have hnot := h.notClosing
  unfold Closing at hnot ⊢
  rwa [htxs] at hnot

/-- A change that live jobs do not depend on. -/
lemma Mapped.same (h : Mapped s) (hdeployments : s'.deployments = s.deployments)
    (hcache : s'.cache = s.cache) (hstorage : s'.storage = s.storage) (htxs : s'.txs = s.txs) :
    Mapped s' := by
  apply h.mono
  · exact fun _ _ hl => hl.congr hdeployments hstorage htxs
  · intro id r _
    rw [hcache]

variable {storage : Storage} {n k : ℕ} {m : Msg} {out : Outcome}

lemma Finished.terminal (h : Finished storage n) : (storage.reservations n).status.Terminal := by
  rcases h with h | h
  · exact .inl h
  · exact .inr (.inl h)

variable {c : ExtCall} {tx : Tx} {paying : Paying} {r : ℤ} {j : List UInt8}

/-- A reservation that is finalized or refunded stays so. -/
lemma Finished.exec (h : Finished storage n) (hs : Sound storage)
    (hexec : exec m storage c = .ok out) : Finished out.1 n := by
  unfold Finished
  rw [exec_terminal hs h.terminal hexec]
  exact h

lemma Mapped.exec (h : Mapped s) (hs : Sound s.storage) (hexec : exec m s.storage c = .ok out) :
    Mapped { s with storage := out.1 } := by
  apply h.mono
  · intro id r hl
    exact ⟨hl.originated, fun hf => hl.notFinished (hf.exec hs hexec), hl.notClosing⟩
  · exact fun _ _ _ => rfl

/-- The fate of a transaction is known; if it would have ended a reservation, that has ended. -/
lemma Mapped.decided {fate : Fate} (h : Mapped s) (hk : s.txs k = some tx)
    (hfinished : ∀ n, tx.Closes n → Finished s.storage n) : Mapped (s.decided k tx fate) := by
  apply h.mono
  · intro id r hl
    refine ⟨hl.originated, hl.notFinished, ?_⟩
    rintro ⟨k', tx', hk', hpending, hcall⟩
    by_cases hkk : k' = k
    · rw [hkk, hk] at hk'
      cases hk'
      exact hl.notFinished (hfinished _ ⟨hpending, hcall⟩)
    · exact hl.notClosing ⟨k', tx', (update_of_ne hkk _ _).trans hk', hpending, hcall⟩
  · exact fun _ _ _ => rfl

/-- The end of a reservation that returns has ended it. -/
lemma closes_finished (h : tx.Closes n) (hexec : exec m storage tx.call = .ok out) :
    Finished out.1 n := by
  obtain ⟨-, hcall | hcall⟩ := h
  · rw [hcall] at hexec
    exact .inl (finalizeReservation_terminal hexec)
  · rw [hcall] at hexec
    refine .inr ?_
    rw [(exec_turned rfl hexec).storage.reservations]
    show (update storage.reservations n _ n).status = .refunded
    rw [update_self]
    rfl

/-! ## Steps -/

/-- The reservation of a deploy is cached. -/
lemma register_cache (h : setString paying.reservationID = some r) :
    ((s.register id paying).cache (jobID id)).map Prod.fst = some r := by
  cases hr : paying.reservation with
  | none =>
    unfold Paying.reservationID at h
    rw [hr] at h
    exact absurd h.symm (Option.some_ne_none r)
  | some r' =>
    rw [Paying.setString_reservationID hr] at h
    unfold State.register
    rw [hr]
    show (update s.cache (jobID id) _ (jobID id)).map Prod.fst = some r
    rw [update_self]
    exact h

/-- Other jobs keep theirs. -/
lemma register_cache_of_ne {id' : DeploymentID} (h : id' ≠ id) :
    (s.register id paying).cache (jobID id') = s.cache (jobID id') := by
  unfold State.register
  split
  · rfl
  · exact update_of_ne (fun hjob => h (jobID_injective hjob)) _ _

lemma register_deployments : (s.register id paying).deployments = s.deployments ∧
    (s.register id paying).storage = s.storage ∧ (s.register id paying).txs = s.txs := by
  unfold State.register
  split <;> exact ⟨rfl, rfl, rfl⟩

lemma Mapped.register (h : Mapped s) (hagrees : Agrees s) (hfresh : s.bound id = none)
    (paying : Paying) : Mapped (s.register id paying) := by
  obtain ⟨hdeployments, hstorage, htxs⟩ := register_deployments
  have hlive : ∀ id' r, Live (s.register id paying) id' r → Live s id' r :=
    fun _ _ hl => hl.congr hdeployments hstorage htxs
  apply h.mono hlive
  intro id' r hl
  apply register_cache_of_ne
  rintro rfl
  obtain ⟨d, hd, -⟩ := (hlive id' r hl).originated
  have hbound := hagrees.records id' d (.inl hd)
  exact absurd (hbound.symm.trans hfresh) (Option.some_ne_none _)

lemma Mapped.deploy (h : Mapped s) (hagrees : Agrees s) (hfresh : s.bound id = none)
    (launch : Launch) : Mapped (s.deploy id paying launch) := by
  unfold State.deploy
  split_ifs
  · exact h
  · have hreg := h.register hagrees hfresh paying
    have hnumbered := (hagrees.register hfresh paying).numbered
    cases launch with
    | failed refund => exact hreg.paid hnumbered (logged_paid fun _ => refundJob_paid)
    | stored running =>
      intro id' r hl
      obtain ⟨d, hd, horiginated, hr⟩ := hl.originated
      obtain ⟨rfl, hput⟩ | ⟨-, hput⟩ := update_eq_some.mp hd
      · cases hput
        exact register_cache hr
      · exact hreg id' r ⟨⟨d, hput, horiginated, hr⟩, hl.notFinished, hl.notClosing⟩

lemma Mapped.addTask (h : Mapped s) (task : Task) : Mapped (s.addTask task) :=
  h.same rfl rfl rfl rfl

lemma Mapped.change (h : Mapped s) (hn : Numbered s) (hc : Change s s') : Mapped s' := by
  cases hc with
  | paid hp => exact h.paid hn hp
  | put hd horiginated hr _ =>
    apply h.put
    intro d' hd'
    cases hd'
    exact ⟨_, hd, horiginated, hr⟩
  | remove id => exact h.put fun d hd => absurd hd.symm (Option.some_ne_none d)
  | finalized hok => exact (h.paid hn (finalizeJob_paid hok)).addTask _
  | _ => exact h.same rfl rfl rfl rfl

lemma Mapped.changes (h : Mapped s) (hagrees : Agrees s)
    (hc : Relation.ReflTransGen Change s s') : Mapped s' := by
  induction hc with
  | refl => exact h
  | tail hs hc ih => exact ih.change (hagrees.changes hs).numbered hc

lemma Mapped.runTask (h : Mapped s) (i : ℕ) : Mapped (s.runTask i) := by
  have hfinalized : ∀ id, Mapped (s.setFinalized id) :=
    fun _ => h.modify (fun _ => rfl) fun _ => rfl
  unfold State.runTask
  split
  · exact h
  · next id k _ => exact (hfinalized id).same rfl rfl rfl rfl
  · next id _ =>
    have hstopped : Mapped (s.put id ((s.deployments id).map fun d => d.stop s.now)) :=
      h.modify (fun _ => rfl) fun _ => rfl
    exact hstopped.same rfl rfl rfl rfl
  · next id tx _ => exact (hfinalized id).same rfl rfl rfl rfl
  · exact h.same rfl rfl rfl rfl

lemma restart_mapped {containerd : Option (DeploymentID → Option ContainerStatus)}
    (hG : Kept s (.restart containerd)) : Mapped (s.restart containerd) := by
  intro id r hl
  obtain ⟨d', hd', horiginated, hr⟩ := hl.originated
  obtain ⟨d, hd, rfl⟩ := Option.map_eq_some_iff.mp hd'
  have horphan : Deployment.orphan (reconcileOnStartup containerd id d) = true := by
    obtain ⟨status, hstatus⟩ := reconcileOnStartup_eq
    have horiginated' : d.originated = true := by rwa [hstatus] at horiginated
    have hr' : setString d.reservationID = some r := by rwa [hstatus] at hr
    exact hG id d r hd horiginated' hr' hl.notFinished hl.notClosing
  show (rehydrate (s.restart containerd).deployments s.now (jobID id)).map Prod.fst = some r
  -- the reservation of an orphan is cached again
  unfold rehydrate
  rw [ofJobID_jobID]
  dsimp only
  rw [if_pos rfl, hd']
  dsimp only
  rw [if_pos horphan, hr]
  rfl

lemma Mapped.sweep (h : Mapped s) (hagrees : Agrees s) (finalize : Sent) :
    Mapped (s.sweep abi id finalize) := by
  unfold State.sweep
  split_ifs
  · have hswept : Mapped { s with sweeping := update s.sweeping id false } :=
      h.same rfl rfl rfl rfl
    dsimp only
    split
    · next s' hok =>
      apply Mapped.addTask
      exact hswept.paid hagrees.numbered (finalizeJob_paid hok)
    · split_ifs
      · exact hswept.addTask _
      · exact hswept
  · exact h

lemma Mapped.mine (h : Mapped s) (hs : Sound s.storage) (hG : Kept s (.mine k m)) :
    Mapped (s.mine k m) := by
  unfold State.mine
  split
  · exact h
  · next tx hk =>
    split_ifs
    · split
      · next out hexec =>
        refine Mapped.decided (s := { s with storage := out.1 }) (h.exec hs hexec) hk ?_
        exact fun n hcloses => closes_finished hcloses hexec
      · next revert hexec =>
        apply h.decided hk
        intro n hcloses
        rcases hG tx hk n hcloses with ⟨out, hok⟩ | hfinished
        · rw [hexec] at hok
          cases hok
        · exact hfinished
    · exact h

lemma Mapped.drop (h : Mapped s) (hG : Kept s (.drop k)) : Mapped (s.drop k) := by
  unfold State.drop
  split
  · exact h
  · next tx hk =>
    split_ifs
    · exact h.decided hk fun n hcloses => hG tx hk n hcloses
    · exact h

lemma Mapped.call (h : Mapped s) (hs : Sound s.storage) : Mapped (s.call m c) := by
  unfold State.call
  split
  · next out hexec => exact h.exec hs hexec
  · exact h

lemma Mapped.cleanup (h : Mapped s) (hG : Kept s .cleanup) :
    Mapped s.cleanupStaleReservations := by
  intro id r hl
  have hlive : Live s id r := hl.congr rfl rfl rfl
  obtain ⟨e, he, rfl⟩ := Option.map_eq_some_iff.mp (h id r hlive)
  have hyoung := hG id e.1 hlive e he
  show ((s.cache (jobID id)).filter _).map Prod.fst = some e.1
  rw [he, Option.filter_some, if_pos (decide_eq_true hyoung)]
  rfl

/-- The event of the end of a reservation removes no live job. -/
lemma Mapped.escrowEvent (h : Mapped s) (hallowed : Allowed abi s (.escrowEvent n j)) :
    Mapped (s.removeReservationID j) := by
  obtain ⟨hn, hfinished, hj⟩ := hallowed
  apply h.mono
  · exact fun id r hl => hl.congr rfl rfl rfl
  · intro id r hl
    refine update_of_ne ?_ _ _
    rintro rfl
    have hr := h id r (hl.congr rfl rfl rfl)
    obtain rfl := Option.some.inj (hj.symm.trans hr)
    apply hl.notFinished
    have hid : chainID (n : ℤ) = n := by
      unfold chainID
      omega
    rw [hid]
    exact hfinished

/-- **One step** that meets the condition keeps the reservation of every live job. -/
theorem Mapped.step (h : Mapped s) (hagrees : Agrees s) (hG : Kept s a) (hs : Step abi s a s') :
    Mapped s' := by
  obtain ⟨hallowed, rfl⟩ := hs
  cases a with
  | deploy id paying launch => exact h.deploy hagrees hallowed launch
  | cleanup => exact h.cleanup hG
  | escrowEvent n j => exact h.escrowEvent hallowed
  | task i => exact h.runTask i
  | restart containerd => exact restart_mapped hG
  | sweep id finalize => exact h.sweep hagrees finalize
  | mine k m => exact h.mine hagrees.sound hG
  | drop k => exact h.drop hG
  | call m c => exact h.call hagrees.sound
  | _ => exact h.changes hagrees (next_changes rfl)

/-- **A live job has its reservation.** In every run of a daemon in which the cache is cleaned only
while it has no reservation of a live job that is older than a day, in which at every restart the
live jobs are of stopped or failed deployments without the flag, and in which the end of a
reservation, once accepted, fails or is dropped only if the reservation has ended: in every state,
the job of every deployment of this node whose reservation is neither finalized nor refunded, nor
about to be, is mapped to that reservation. -/
theorem live_job_mapped {l : List (Action × State)} (hs : Fresh s) (hpath : Path (Step abi) s l)
    (hG : StepsMeet Kept s l) : StatesMeet Mapped s l := by
  have hkept : StatesMeet (fun s => Agrees s ∧ Mapped s) s l :=
    Path.invariant_of_steps (fun _ _ _ h hG hs => ⟨h.1.step hs, h.2.step h.1 hG hs⟩)
      ⟨hs.agrees, hs.mapped⟩ hpath hG
  exact hkept.mono fun _ h => h.2

/-! ## A job of a day -/

/-- A deployment with the reservation `1` runs for some hours, and the cache is cleaned. -/
def cleanedAfter (hours : ℕ) : List Action :=
  [.deploy firstID (.external (text "1")) (.stored true), .wait (hours * 3600 * second), .cleanup]

lemma cleanedAfter_path (hours : ℕ) : Path (Step smallAbi) firstStart
    (follow (State.next smallAbi) firstStart (cleanedAfter hours)) :=
  follow_step ⟨rfl, trivial, trivial, trivial⟩

/-- The state after it. -/
def cleaned (hours : ℕ) : State :=
  endState firstStart (follow (State.next smallAbi) firstStart (cleanedAfter hours))

/-- What the deploy has cached was cached at the time `0`. -/
lemma deployed_cache {e : ℤ × ℕ}
    (h : (firstStart.next smallAbi
      (.deploy firstID (.external (text "1")) (.stored true))).cache j = some e) : e.2 = 0 := by
  have hcache : (firstStart.next smallAbi
      (.deploy firstID (.external (text "1")) (.stored true))).cache =
      update (fun _ => none) (jobID firstID) (some (1, 0)) := rfl
  rw [hcache] at h
  obtain ⟨-, hnew⟩ | ⟨-, hold⟩ := update_eq_some.mp h
  · rw [← Option.some.inj hnew]
  · cases hold

/-- A job of a day still has its reservation. -/
theorem live_job_mapped_day :
    StatesMeet Mapped firstStart
        (follow (State.next smallAbi) firstStart (cleanedAfter 24)) ∧
      ((cleaned 24).cache (jobID firstID)).map Prod.fst = some 1 := by
  refine ⟨?_, by decide +kernel⟩
  refine live_job_mapped firstStart_fresh (cleanedAfter_path 24) ⟨trivial, trivial, ?_, trivial⟩
  intro id r _ e he
  have htime := deployed_cache he
  rw [htime]
  exact le_rfl

/-- **Lost after a day.** A job that has run for a day and an hour when the cache is cleaned has no
reservation, while its reservation is active. -/
theorem lost_after_a_day :
    Fresh firstStart ∧
      Path (Step smallAbi) firstStart
        (follow (State.next smallAbi) firstStart (cleanedAfter 25)) ∧
      ((cleaned 25).storage.reservations 1).status = .active ∧
      (cleaned 25).cache (jobID firstID) = none ∧
      ¬ StatesMeet Mapped firstStart
        (follow (State.next smallAbi) firstStart (cleanedAfter 25)) := by
  have hnone : (cleaned 25).cache (jobID firstID) = none := by decide +kernel
  refine ⟨firstStart_fresh, cleanedAfter_path 25, by decide +kernel, hnone, ?_⟩
  intro hall
  have hend : Mapped (cleaned 25) := hall.endState
  have hlive : Live (cleaned 25) firstID 1 := by
    refine ⟨⟨⟨.running, some 0, none, none, true, text "1", false⟩, by decide +kernel, rfl,
      by decide +kernel⟩, by decide +kernel, ?_⟩
    rintro ⟨k, tx, hk, -⟩
    cases hk
  have hmapped := hend firstID 1 hlive
  cases hmapped

end Moltbunker.Daemon.Escrows
