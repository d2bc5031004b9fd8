import Moltbunker.Daemon.Deployment
import Moltbunker.Lib.Path
import Moltbunker.Lib.PointUpdate

/-!
# Reports of a job to the reputation contract

`Stop`, `Start` and `Delete` of `internal/daemon/container_manager.go` and the pass of
`reconcileContainerStatus`, for one deployment. `Stop` releases the payment, reports the job as
completed and finalizes the escrow, whatever the status is; `Delete` releases, finalizes or refunds
and reports a failed or pending job as failed; the reconciler reports and refunds a job that it no
longer finds running. None of them remembers that another has reported.

A call keeps the record of the deployment after it has looked it up, and reads and writes it while
others do. The steps of a run are what happens between two locks or calls to the outside; a call of
the payment service is logged whatever it returns.

* `reported_once` — if `Stop`, `Delete` and the reconciler act on a job that is untouched, `Delete`
  also on one that is stopped, and none of them while another is in flight, then there is at most
  one report, and at most one release is followed by a finalization or a refund;
* `restarted_job_reported_twice` — a job that is stopped, started and stopped again.
-/

namespace Moltbunker.Daemon

open Lib

/-- What is submitted for a job. -/
inductive JobEvent where
  /-- `ReleaseJobPayment` -/
  | release
  /-- `RecordJobCompleted` -/
  | completed
  /-- `RecordJobFailed` -/
  | failed
  /-- `FinalizeJob` -/
  | finalize
  /-- `RefundJob` -/
  | refund
  deriving DecidableEq

/-- Where a call of `Stop` is. -/
inductive StopStage where
  /-- the deployment has been looked up -/
  | stopping
  /-- the container is stopped and the payment released -/
  | reporting
  | finalizing
  | ending
  deriving DecidableEq

/-- Where a call of `Delete` is. -/
inductive DeleteStage where
  /-- the deployment has been removed from the map -/
  | choosing
  /-- the status was stopped or running -/
  | releasing
  | finalizing
  /-- the status was another one -/
  | refunding
  | reporting
  deriving DecidableEq

/-- A deployment with the calls that have looked it up. It is in the map until it is deleted, so
that only one `Delete` finds it. -/
structure Job where
  dep : Deployment
  present : Bool
  /-- there is a payment service -/
  payment : Bool
  /-- the node has a wallet -/
  wallet : Bool
  stops : List StopStage
  /-- the calls of `Start` that have passed their checks -/
  starts : ℕ
  delete : Option DeleteStage
  /-- the pass of the reconciler has found the deployment running -/
  listed : Bool
  /-- what was submitted, the last one first -/
  log : List JobEvent
  deriving DecidableEq

inductive JobAction where
  /-- `Stop` looks the deployment up -/
  | stop
  /-- the container is stopped, or fails to be; the payment is released -/
  | stopContainer (i : ℕ) (ok : Bool)
  | stopReport (i : ℕ)
  | stopFinalize (i : ℕ) (ok : Bool)
  | stopEnd (i : ℕ) (now : ℕ)
  /-- `Start` checks the deployment -/
  | start (now : ℕ)
  /-- the container is started, or fails to be -/
  | startEnd (ok : Bool) (now : ℕ)
  /-- `Delete` removes the deployment from the map -/
  | delete
  /-- `Delete` reads the status -/
  | deleteChoose
  /-- `Delete` reads the status again, and releases the payment -/
  | deleteRelease
  /-- `Delete` finalizes or refunds -/
  | deleteSettle (ok : Bool)
  /-- `Delete` reads the status once more, and reports -/
  | deleteReport
  /-- a pass of the reconciler lists the running deployments -/
  | list
  /-- the pass comes to the deployment; the container has a status, or there is none -/
  | reconcile (actual : Option ContainerStatus)
  deriving DecidableEq

namespace Job

variable (s : Job)

/-- The node pays for the job: it has a payment service and is the originator. -/
def pays : Bool := s.payment && s.dep.originated

/-- Something is submitted under a condition. -/
def submit (condition : Bool) (e : JobEvent) : Job :=
  { s with log := if condition then e :: s.log else s.log }

/-- `deployment.EscrowFinalized = true`, if the call had no error -/
def finalized (ok : Bool) : Job :=
  { s with dep := { s.dep with escrowFinalized := s.dep.escrowFinalized || ok } }

/-- A call of `Stop` goes on. -/
def setStop (i : ℕ) (stage : StopStage) : Job := { s with stops := s.stops.set i stage }

/-- The reconciler finds that the job does not run any more. -/
def drifts (actual : Option ContainerStatus) : Bool :=
  s.present && decide (s.dep.status = .running) && decide (actual.getD .running ≠ .running)

/-- `Delete` releases the payment of a job that runs. -/
def releasesOnDelete : Bool :=
  decide (s.dep.status = .running) && s.dep.startedAt.isSome

/-- `Delete` reports a job that has failed or has not begun. -/
def failsOnDelete : Bool :=
  decide (s.dep.status = .failed ∨ s.dep.status = .pending)

/-- One step of a call or of the reconciler. -/
def next : JobAction → Option Job
  | .stop => if s.present then some { s with stops := s.stops ++ [.stopping] } else some s
  | .stopContainer i ok =>
    if s.stops[i]? = some .stopping then
      if ok then
        some ((s.setStop i .reporting).submit (s.pays && s.dep.startedAt.isSome) .release)
      else some { s with stops := s.stops.eraseIdx i }
    else none
  | .stopReport i =>
    if s.stops[i]? = some .reporting then
      some ((s.setStop i .finalizing).submit (s.pays && s.wallet) .completed)
    else none
  | .stopFinalize i ok =>
    if s.stops[i]? = some .finalizing then
      some (((s.setStop i .ending).submit s.pays .finalize).finalized (s.pays && ok))
    else none
  | .stopEnd i now =>
    if s.stops[i]? = some .ending then
      some { s with dep := s.dep.stop now, stops := s.stops.eraseIdx i }
    else none
  | .start now =>
    if s.present ∧ ¬ s.dep.startRefused now then some { s with starts := s.starts + 1 }
    else some s
  | .startEnd ok now =>
    match s.starts with
    | 0 => none
    | left + 1 =>
      if ok then some { s with dep := s.dep.start now, starts := left }
      else some { s with starts := left }
  | .delete =>
    if s.present then some { s with present := false, delete := some .choosing } else some s
  | .deleteChoose =>
    if s.delete = some .choosing then
      if s.pays then
        if s.dep.status = .stopped ∨ s.dep.status = .running then
          some { s with delete := some .releasing }
        else some { s with delete := some .refunding }
      else some { s with delete := some .reporting }
    else none
  | .deleteRelease =>
    if s.delete = some .releasing then
      some (submit { s with delete := some .finalizing } s.releasesOnDelete .release)
    else none
  | .deleteSettle ok =>
    if s.delete = some .finalizing then
      some ((submit { s with delete := some .reporting } true .finalize).finalized ok)
    else if s.delete = some .refunding then
      some ((submit { s with delete := some .reporting } true .refund).finalized ok)
    else none
  | .deleteReport =>
    if s.delete = some .reporting then
      some (submit { s with delete := none } (s.pays && s.failsOnDelete && s.wallet) .failed)
    else none
  | .list => some { s with listed := s.present && decide (s.dep.status = .running) }
  | .reconcile actual =>
    if s.listed then
      if s.drifts actual then
        let s' := { s with
          listed := false
          dep := { s.dep with status := actual.getD .running } }
        some ((s'.submit (s.pays && s.wallet) .failed).submit (s.pays && s.wallet) .refund)
      else some { s with listed := false }
    else none

/-! ## Counting -/

/-- A report to the reputation contract. -/
def isReport : JobEvent → Bool
  | .completed | .failed => true
  | _ => false

/-- A release of a payment. -/
def isRelease : JobEvent → Bool
  | .release => true
  | _ => false

/-- The releases that are followed by a finalization or a refund, if one comes after the log or
not. -/
def followed : Bool → List JobEvent → ℕ
  | _, [] => 0
  | later, .release :: log => (if later then 1 else 0) + followed later log
  | _, .finalize :: log => followed true log
  | _, .refund :: log => followed true log
  | later, .completed :: log => followed later log
  | later, .failed :: log => followed later log

/-- At most one report was made, and at most one release is followed by a finalization or a
refund. -/
def ReportedOnce : Prop :=
  s.log.countP isReport ≤ 1 ∧ followed false s.log ≤ 1

instance (s : Job) : Decidable s.ReportedOnce := inferInstanceAs (Decidable (_ ∧ _))

lemma followed_le (later : Bool) (log : List JobEvent) :
    followed later log ≤ log.countP isRelease := by
  induction log generalizing later with
  | nil => exact Nat.zero_le _
  | cons e log ih =>
    cases e with
    | release =>
      have := ih later
      simp only [followed, List.countP_cons, isRelease]
      split_ifs <;> omega
    | completed | failed => simpa [followed, isRelease] using ih later
    | finalize | refund => simpa [followed, isRelease] using ih true

/-- The reports that a call of `Stop` may still make. -/
def stopReports : StopStage → ℕ
  | .stopping | .reporting => 1
  | .finalizing | .ending => 0

/-- The releases that a call of `Stop` may still make. -/
def stopReleases : StopStage → ℕ
  | .stopping => 1
  | .reporting | .finalizing | .ending => 0

/-- The reports that a call of `Delete` may still make, if the status stays. -/
def deleteReports : ℕ := if s.delete.isSome ∧ s.failsOnDelete then 1 else 0

/-- The releases that a call of `Delete` may still make, if the status stays. -/
def deleteReleases : ℕ :=
  if (s.delete = some .choosing ∨ s.delete = some .releasing) ∧ s.dep.status = .running then 1
  else 0

/-- What was reported and what may still be is at most one report, and the same for the releases.
While a job is deleted no other call is in flight. -/
structure Once (s : Job) : Prop where
  reports : s.log.countP isReport + (s.stops.map stopReports).sum + s.deleteReports ≤ 1
  releases : s.log.countP isRelease + (s.stops.map stopReleases).sum + s.deleteReleases ≤ 1
  alone : s.delete.isSome = true → s.present = false ∧ s.stops = [] ∧ s.starts = 0

lemma Once.reportedOnce {s : Job} (h : s.Once) : s.ReportedOnce := by
  have hreports := h.reports
  have hreleases := h.releases
  have hfollowed := followed_le false s.log
  constructor <;> omega

/-- `Stop` and the reconciler act on a job for which nothing was submitted, and `Delete` on such a
job or on a stopped one, all of them only while no other call is in flight. -/
def Untouched : JobAction → Prop
  | .stop => s.present = true → s.log = [] ∧ s.stops = [] ∧ s.delete = none
  | .delete => s.present = true →
      s.stops = [] ∧ s.starts = 0 ∧ (s.log = [] ∨ s.dep.status = .stopped)
  | .reconcile actual => s.listed = true → s.drifts actual = true → s.log = [] ∧ s.stops = []
  | _ => True

/-! ## Steps -/

/-- A submission adds one to a count, if it is counted. -/
lemma countP_submit_le (s : Job) (c : Bool) (e : JobEvent) (p : JobEvent → Bool) :
    (s.submit c e).log.countP p ≤ s.log.countP p + if c = true ∧ p e = true then 1 else 0 := by
  cases c with
  | false => simp [submit]
  | true => simp [submit, List.countP_cons]

variable {s s' : Job} {a : JobAction}

variable {i : ℕ} {stage : StopStage}

/-- A call of `Stop` is in flight, so that the job is not being deleted. -/
lemma Once.delete_eq_none (h : s.Once) (hstage : s.stops[i]? = some stage) : s.delete = none := by
  by_contra hdelete
  have hstops := (h.alone (Option.isSome_iff_ne_none.mpr hdelete)).2.1
  rw [hstops] at hstage
  simp at hstage

lemma deleteReports_of_none (h : s.delete = none) : s.deleteReports = 0 := by
  simp [deleteReports, h]

lemma deleteReleases_of_none (h : s.delete = none) : s.deleteReleases = 0 := by
  simp [deleteReleases, h]

section Once

variable (h : s.Once)
include h

/-- A step of a call of `Stop`: what it submits, it may submit no more. -/
lemma Once.of_stops (hdelete : s.delete = none) (hdelete' : s'.delete = none)
    (hreports : s'.log.countP isReport + (s'.stops.map stopReports).sum ≤
      s.log.countP isReport + (s.stops.map stopReports).sum)
    (hreleases : s'.log.countP isRelease + (s'.stops.map stopReleases).sum ≤
      s.log.countP isRelease + (s.stops.map stopReleases).sum) : s'.Once := by
  have hr := h.reports
  have hl := h.releases
  rw [deleteReports_of_none hdelete] at hr
  refine ⟨?_, ?_, by simp [hdelete']⟩
  · rw [deleteReports_of_none hdelete']
    omega
  · rw [deleteReleases_of_none hdelete']
    omega

/-- A call of `Stop` goes on to the next stage and submits something. -/
lemma Once.setStop_submit {stage' : StopStage} {c : Bool} {e : JobEvent}
    (hstage : s.stops[i]? = some stage)
    (hreports : (if isReport e = true then 1 else 0) + stopReports stage' ≤ stopReports stage)
    (hreleases : (if isRelease e = true then 1 else 0) + stopReleases stage' ≤
      stopReleases stage) : ((s.setStop i stage').submit c e).Once := by
  have hdelete := h.delete_eq_none hstage
  have hsetReports := sum_map_set stopReports hstage stage'
  have hsetReleases := sum_map_set stopReleases hstage stage'
  have hcountReports := countP_submit_le (s.setStop i stage') c e isReport
  have hcountReleases := countP_submit_le (s.setStop i stage') c e isRelease
  refine h.of_stops hdelete hdelete ?_ ?_
  · simp only [submit, setStop] at hcountReports ⊢
    split_ifs at hcountReports hreports ⊢ <;> grind
  · simp only [submit, setStop] at hcountReleases ⊢
    split_ifs at hcountReleases hreleases ⊢ <;> grind

/-- A call of `Stop` returns. -/
lemma Once.eraseStop (hstage : s.stops[i]? = some stage) (dep : Deployment) :
    ({ s with dep := dep, stops := s.stops.eraseIdx i } : Job).Once := by
  have hdelete := h.delete_eq_none hstage
  have hreports := sum_map_eraseIdx stopReports hstage
  have hreleases := sum_map_eraseIdx stopReleases hstage
  exact h.of_stops hdelete hdelete (by dsimp only; omega) (by dsimp only; omega)

lemma Once.finalized (ok : Bool) : (s.finalized ok).Once :=
  ⟨h.reports, h.releases, h.alone⟩

/-- The job is in the map, so that it is not being deleted. -/
lemma Once.delete_eq_none_of_present (hpresent : s.present = true) : s.delete = none := by
  by_contra hdelete
  have hgone := (h.alone (Option.isSome_iff_ne_none.mpr hdelete)).1
  rw [hpresent] at hgone
  cases hgone

/-- Only the status, the calls of `Start` and what the reconciler has listed change. -/
lemma Once.of_same (hdelete : s.delete = none) (hdelete' : s'.delete = none)
    (hlog : s'.log = s.log) (hstops : s'.stops = s.stops) : s'.Once := by
  refine h.of_stops hdelete hdelete' ?_ ?_ <;> rw [hlog, hstops]

lemma Once.stop (hpresent : s.present = true) (hlog : s.log = [])
    (hstops : s.stops = []) : ({ s with stops := s.stops ++ [.stopping] } : Job).Once := by
  have hdelete := h.delete_eq_none_of_present hpresent
  refine ⟨?_, ?_, by simp [hdelete]⟩
  · simp [hlog, hstops, deleteReports, hdelete, stopReports]
  · simp [hlog, hstops, deleteReleases, hdelete, stopReleases]

/-- `Delete` begins alone, on a job for which nothing was submitted or on a stopped one. -/
lemma Once.delete (hpresent : s.present = true) (hstops : s.stops = [])
    (hstarts : s.starts = 0) (hwhen : s.log = [] ∨ s.dep.status = .stopped) :
    ({ s with present := false, delete := some .choosing } : Job).Once := by
  have hdelete := h.delete_eq_none_of_present hpresent
  have hreports := h.reports
  have hreleases := h.releases
  rw [deleteReports_of_none hdelete] at hreports
  refine ⟨?_, ?_, fun _ => ⟨rfl, hstops, hstarts⟩⟩
  · rcases hwhen with hlog | hstatus
    · simp only [hlog, hstops, deleteReports, List.countP_nil, List.map_nil, List.sum_nil]
      split_ifs <;> omega
    · simpa [deleteReports, failsOnDelete, hstatus] using hreports
  · rcases hwhen with hlog | hstatus
    · simp only [hlog, hstops, deleteReleases, List.countP_nil, List.map_nil, List.sum_nil]
      split_ifs <;> omega
    · simpa [deleteReleases, hstatus] using hreleases

/-- `Delete` goes on to the next stage. -/
lemma Once.deleteMove {stage : Option DeleteStage} (hdelete : s.delete.isSome = true)
    (hreports : ({ s with delete := stage } : Job).deleteReports ≤ s.deleteReports)
    (hreleases : ({ s with delete := stage } : Job).deleteReleases ≤ s.deleteReleases) :
    ({ s with delete := stage } : Job).Once :=
  ⟨(Nat.add_le_add_left hreports _).trans h.reports,
    (Nat.add_le_add_left hreleases _).trans h.releases, fun _ => h.alone hdelete⟩

/-- A step of `Delete`: the status is as it was, and what is submitted may be submitted no more. -/
lemma Once.deleteStep {stage : Option DeleteStage} {c : Bool} {e : JobEvent}
    (hdelete : s.delete.isSome = true) (hreports : (if c = true ∧ isReport e = true then 1 else 0) +
      ({ s with delete := stage } : Job).deleteReports ≤ s.deleteReports)
    (hreleases : (if c = true ∧ isRelease e = true then 1 else 0) +
      ({ s with delete := stage } : Job).deleteReleases ≤ s.deleteReleases) :
    (submit { s with delete := stage } c e).Once := by
  have hr := h.reports
  have hl := h.releases
  have hcountReports := countP_submit_le { s with delete := stage } c e isReport
  have hcountReleases := countP_submit_le { s with delete := stage } c e isRelease
  have hsameReports : (submit { s with delete := stage } c e).deleteReports =
      ({ s with delete := stage } : Job).deleteReports := rfl
  have hsameReleases : (submit { s with delete := stage } c e).deleteReleases =
      ({ s with delete := stage } : Job).deleteReleases := rfl
  refine ⟨?_, ?_, fun _ => h.alone hdelete⟩
  · rw [hsameReports]
    dsimp only [submit] at hcountReports ⊢
    omega
  · rw [hsameReleases]
    dsimp only [submit] at hcountReleases ⊢
    omega

/-- The reconciler reports a job for which nothing was submitted. -/
lemma Once.drift (hpresent : s.present = true) (hlog : s.log = [])
    (hstops : s.stops = []) (status : ContainerStatus) {c : Bool} :
    ((submit { s with listed := false, dep := { s.dep with status := status } } c
      .failed).submit c .refund).Once := by
  have hdelete := h.delete_eq_none_of_present hpresent
  refine ⟨?_, ?_, by simp [submit, hdelete]⟩
  · cases c <;> simp [submit, deleteReports, hdelete, hlog, hstops, isReport]
  · cases c <;> simp [submit, deleteReleases, hdelete, hlog, hstops, isRelease]

lemma once_next (hG : Untouched s a) (hnext : s.next a = some s') : s'.Once := by
  cases a <;> simp only [next] at hnext
  case stop =>
    split_ifs at hnext with hpresent
    · cases hnext
      obtain ⟨hlog, hstops, -⟩ := hG hpresent
      exact h.stop hpresent hlog hstops
    · exact Option.some.inj hnext ▸ h
  case stopContainer i ok =>
    split_ifs at hnext with hstage hok
    · cases hnext
      exact h.setStop_submit hstage (by decide) (by decide)
    · cases hnext
      exact h.eraseStop hstage s.dep
  case stopReport i =>
    split_ifs at hnext with hstage
    cases hnext
    exact h.setStop_submit hstage (by decide) (by decide)
  case stopFinalize i ok =>
    split_ifs at hnext with hstage
    cases hnext
    exact (h.setStop_submit hstage (by decide) (by decide)).finalized _
  case stopEnd i now =>
    split_ifs at hnext with hstage
    cases hnext
    exact h.eraseStop hstage _
  case start now =>
    split_ifs at hnext with hchecks
    · cases hnext
      have hdelete := h.delete_eq_none_of_present hchecks.1
      exact h.of_same hdelete hdelete rfl rfl
    · exact Option.some.inj hnext ▸ h
  case startEnd ok now =>
    split at hnext
    · cases hnext
    · next left hstarts =>
      -- a call of `Start` is in flight, so that the job is not being deleted
      have hdelete : s.delete = none := by
        by_contra hdelete
        have hzero := (h.alone (Option.isSome_iff_ne_none.mpr hdelete)).2.2
        omega
      split_ifs at hnext
      all_goals
        cases hnext
        exact h.of_same hdelete hdelete rfl rfl
  case delete =>
    split_ifs at hnext with hpresent
    · cases hnext
      obtain ⟨hstops, hstarts, hwhen⟩ := hG hpresent
      exact h.delete hpresent hstops hstarts hwhen
    · exact Option.some.inj hnext ▸ h
  case deleteChoose =>
    split_ifs at hnext with hstage hpays hstatus
    all_goals
      cases hnext
      refine h.deleteMove (by simp [hstage]) ?_ ?_
      · simp [deleteReports, failsOnDelete, hstage]
      · simp [deleteReleases, hstage]
  case deleteRelease =>
    split_ifs at hnext with hstage
    cases hnext
    refine h.deleteStep (by simp [hstage]) ?_ ?_
    · simp [deleteReports, failsOnDelete, hstage, isReport]
    · simp only [deleteReleases, hstage, releasesOnDelete, isRelease]
      by_cases hrunning : s.dep.status = .running
      · cases s.dep.startedAt <;> simp [hrunning]
      · simp [hrunning]
  case deleteSettle ok =>
    split_ifs at hnext with hstage hstage
    all_goals
      cases hnext
      refine (h.deleteStep (by simp [hstage]) ?_ ?_).finalized _
      · simp [deleteReports, failsOnDelete, hstage, isReport]
      · simp [deleteReleases, hstage, isRelease]
  case deleteReport =>
    split_ifs at hnext with hstage
    cases hnext
    refine h.deleteStep (by simp [hstage]) ?_ ?_
    · simp only [deleteReports, hstage, isReport]
      cases hfails : s.failsOnDelete with
      | false => simp
      | true => cases s.pays <;> cases s.wallet <;> simp
    · simp [deleteReleases, hstage, isRelease]
  case list =>
    cases hnext
    exact ⟨h.reports, h.releases, h.alone⟩
  case reconcile actual =>
    split_ifs at hnext with hlisted hdrifts
    · cases hnext
      obtain ⟨hlog, hstops⟩ := hG hlisted hdrifts
      have hpresent : s.present = true := by
        simp only [drifts, Bool.and_eq_true_iff] at hdrifts
        exact hdrifts.1.1
      exact h.drift hpresent hlog hstops _
    · cases hnext
      exact ⟨h.reports, h.releases, h.alone⟩

end Once

/-! ## Runs -/

/-- A job for which no call is in flight and nothing was submitted. -/
def Fresh (s : Job) : Prop := s.log = [] ∧ s.stops = [] ∧ s.delete = none

lemma Fresh.once (h : s.Fresh) : s.Once := by
  obtain ⟨hlog, hstops, hdelete⟩ := h
  refine ⟨?_, ?_, by simp [hdelete]⟩
  · simp [hlog, hstops, deleteReports_of_none hdelete]
  · simp [hlog, hstops, deleteReleases_of_none hdelete]

/-- **When a job is reported once.** -/
theorem reported_once (hfresh : s.Fresh) {l : List (JobAction × Job)}
    (hpath : Path (fun s a s' => Job.next s a = some s') s l)
    (huntouched : StepsMeet Untouched s l) : StatesMeet ReportedOnce s l := by
  have honce : StatesMeet Once s l := by
    refine Path.invariant_of_steps ?_ hfresh.once hpath huntouched
    intro s a s' h hG hnext
    exact once_next h hG hnext
  exact honce.mono fun _ h => h.reportedOnce

instance (s : Job) (a : JobAction) : Decidable (Untouched s a) :=
  match a with
  | .stop => inferInstanceAs (Decidable (_ → _))
  | .delete => inferInstanceAs (Decidable (_ → _))
  | .reconcile _ => inferInstanceAs (Decidable (_ → _ → _))
  | .stopContainer .. | .stopReport .. | .stopFinalize .. | .stopEnd .. | .start .. |
    .startEnd .. | .deleteChoose | .deleteRelease | .deleteSettle .. | .deleteReport | .list =>
      isTrue trivial

/-- A job that runs on its originator. -/
def runningJob : Job where
  dep :=
    { status := .running
      startedAt := some 0
      stoppedAt := none
      volumeExpiresAt := none
      originated := true
      reservationID := []
      escrowFinalized := false }
  present := true
  payment := true
  wallet := true
  stops := []
  starts := 0
  delete := none
  listed := false
  log := []

/-- A whole call of `Stop`, with the outcome of the finalization. -/
def stopCall (ok : Bool) (now : ℕ) : List JobAction :=
  [.stop, .stopContainer 0 true, .stopReport 0, .stopFinalize 0 ok, .stopEnd 0 now]

/-- A whole call of `Delete` for a job that is stopped or runs. -/
def deleteCall : List JobAction :=
  [.delete, .deleteChoose, .deleteRelease, .deleteSettle true, .deleteReport]

/-- A job that is stopped and then deleted is reported once. -/
theorem stopped_job_reported_once :
    (trace next runningJob (stopCall true 1 ++ deleteCall)).length = 10 ∧
      StatesMeet ReportedOnce runningJob
        (trace next runningJob (stopCall true 1 ++ deleteCall)) := by
  refine ⟨by decide +kernel, ?_⟩
  exact reported_once ⟨rfl, rfl, rfl⟩ (trace_path ..) (by decide +kernel)

/-- A job is stopped, started and stopped again; its escrow is finalized by the first `Stop`, so
that the second finalization fails. -/
def restartActions : List JobAction :=
  stopCall true 1 ++ [.start 2, .startEnd true 2] ++ stopCall false 3

/-- A job that is stopped, started and stopped again is reported as completed twice. -/
theorem restarted_job_reported_twice :
    (trace next runningJob restartActions).length = 12 ∧
      (endState runningJob (trace next runningJob restartActions)).log =
        [.finalize, .completed, .release, .finalize, .completed, .release] ∧
      ¬ StatesMeet ReportedOnce runningJob (trace next runningJob restartActions) := by
  refine ⟨by decide +kernel, by decide +kernel, fun hmeet => ?_⟩
  exact absurd hmeet.endState (by decide +kernel)

end Job

end Moltbunker.Daemon
