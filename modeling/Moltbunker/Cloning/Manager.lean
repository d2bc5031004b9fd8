import Moltbunker.Lib.Path
import Moltbunker.Lib.Text

/-!
# Clones of a container

`Manager` of `internal/cloning/manager.go`. `RequestClone` files a clone as active and starts
`executeClone`, which goes through its stages on its own and writes the status of the clone under
the lock. `CancelClone` ends a clone that is active. Nothing tells `executeClone`, which goes on and
ends the clone once more.

A clone is a pointer: here a number. What is left of its `executeClone` is its stage, and the
sections of different calls come in any order. What selector and deployer answer is in the labels;
a panic of theirs is recovered by `SafeGoWithName`.

* `ends_once` — every clone ends once and for all, if `CancelClone` finds no clone whose
  `executeClone` is still running;
* `cancelled_clone_deployed` — a clone is cancelled, and then deployed and completed.
-/

namespace Moltbunker.Cloning

open Lib Function

/-- `CloneStatus` -/
inductive CloneStatus where
  | pending
  | preparing
  | transferring
  | deploying
  | verifying
  | complete
  | failed
  deriving DecidableEq

/-- `Clone` -/
structure Clone where
  id : Text
  sourceID : Text
  targetID : Text
  status : CloneStatus
  error : Text

/-- What `executeClone` does next. -/
inductive Stage where
  | waiting
  | preparing
  | selecting
  | transferring
  | announcing
  | deploying
  | verifying
  | checking
  | completing
  | failing (slot : Bool) (reason : Text)
  | ended
  deriving DecidableEq

/-- `executeClone` holds a slot. -/
def Stage.holdsSlot : Stage → Bool
  | .waiting | .ended => false
  | .failing slot _ => slot
  | _ => true

/-- A clone and its `executeClone`; beside them, whether `DeployClone` and `completeClone` were
called, whether `CancelClone` succeeded before `DeployClone`, and the status with which the clone
first came into the history. -/
structure Work where
  clone : Clone
  stage : Stage
  deployed : Bool
  completed : Bool
  withdrawn : Bool
  settled : Option CloneStatus

/-- `Manager`, with all clones that were ever requested. -/
structure Manager where
  maxConcurrentClones : ℕ
  deployer : Bool
  clones : ℕ → Option Work
  requested : ℕ
  activeClones : Text → Option ℕ
  cloneHistory : List ℕ
  lineage : Text → List Text
  stopped : Bool

/-- What comes from outside of `executeClone`; `targetID` is what `DeployClone` writes. -/
inductive Answer where
  | ok (targetID : Text)
  | error (err : Text)
  | stopped
  | panic

/-- The sections; `stop` is that of a manager that was started. -/
inductive Action where
  | requestClone (id sourceID : Text)
  | cancelClone (id : Text)
  | stop
  | executeClone (ref : ℕ) (answer : Answer)

/-- `updateCloneStatus` -/
def Work.updateCloneStatus (w : Work) (status : CloneStatus) (stage : Stage) : Work :=
  { w with clone := { w.clone with status := status }, stage := stage }

/-- `DeployClone` was called, and has written the identifier of the new container. -/
def Work.deploy (w : Work) : Answer → Work
  | .ok targetID => { w with clone := { w.clone with targetID := targetID }, deployed := true }
  | _ => { w with deployed := true }

/-- A call of the selector or of the deployer. -/
def Work.ask (w : Work) (next : Stage) (reason : Text) : Answer → Option Work
  | .ok _ => some { w with stage := next }
  | .error err => some { w with stage := .failing true (reason ++ err) }
  | .panic => some { w with stage := .ended }
  | .stopped => none

namespace Manager

variable (m : Manager)

/-- A slot is free. -/
def hasSlot : Prop :=
  (List.range m.requested).countP (fun ref => (m.clones ref).any (·.stage.holdsSlot)) <
    m.maxConcurrentClones
deriving Decidable

/-- The sections of `executeClone` before the last one; `none` if it waits. -/
def advance (w : Work) : Stage → Answer → Option Work
  | .waiting, .ok _ => if m.hasSlot then some { w with stage := .preparing } else none
  | .waiting, .error _ =>
    some { w with stage := .failing false (text "context cancelled while waiting for slot") }
  | .waiting, .stopped =>
    if m.stopped then some { w with stage := .failing false (text "cloning manager stopped") }
    else none
  | .preparing, _ => some (w.updateCloneStatus .preparing .selecting)
  | .selecting, answer => w.ask .transferring (text "failed to select target node: ") answer
  | .transferring, _ => some (w.updateCloneStatus .transferring .announcing)
  | .announcing, _ => some (w.updateCloneStatus .deploying .deploying)
  | .deploying, answer =>
    if m.deployer then (w.deploy answer).ask .verifying (text "deployment failed: ") answer
    else some { w with stage := .verifying }
  | .verifying, _ => some (w.updateCloneStatus .verifying .checking)
  | .checking, answer =>
    if m.deployer then w.ask .completing (text "verification failed: ") answer
    else some { w with stage := .completing }
  | _, _ => none

/-- A clone goes from the active ones to the history. -/
def retire (ref : ℕ) (w : Work) : Manager :=
  { m with
    clones := update m.clones ref (some { w with settled := w.settled.or (some w.clone.status) })
    activeClones := update m.activeClones w.clone.id none
    cloneHistory := m.cloneHistory ++ [ref] }

/-- `failClone` -/
def failClone (ref : ℕ) (w : Work) (reason : Text) : Manager :=
  m.retire ref { w with clone := { w.clone with status := .failed, error := reason } }

/-- `completeClone` -/
def completeClone (ref : ℕ) (w : Work) : Manager :=
  { m.retire ref { w with clone := { w.clone with status := .complete }, completed := true } with
    lineage := update m.lineage w.clone.sourceID
      (m.lineage w.clone.sourceID ++ [w.clone.targetID]) }

/-- One section of `executeClone`. -/
def executeClone (ref : ℕ) (w : Work) (answer : Answer) : Option Manager :=
  match w.stage with
  | .completing => some (m.completeClone ref { w with stage := .ended })
  | .failing _ reason => some (m.failClone ref { w with stage := .ended } reason)
  | stage => (m.advance w stage answer).map fun w' =>
    { m with clones := update m.clones ref (some w') }

/-- One section. -/
def next : Action → Option Manager
  | .requestClone id sourceID => some { m with
      clones := update m.clones m.requested
        (some ⟨⟨id, sourceID, [], .pending, []⟩, .waiting, false, false, false, none⟩)
      requested := m.requested + 1
      activeClones := update m.activeClones id (some m.requested) }
  | .cancelClone id =>
    match m.activeClones id with
    | none => some m
    | some ref => (m.clones ref).map fun w =>
      m.failClone ref { w with withdrawn := !w.deployed } (text "cancelled")
  | .stop => some { m with stopped := true }
  | .executeClone ref answer => (m.clones ref).bind fun w => m.executeClone ref w answer

/-- **Every clone ends once and for all.** -/
structure EndsOnce (m : Manager) : Prop where
  once : ∀ ref w, m.clones ref = some w →
    (m.activeClones w.clone.id = some ref ∧ ref ∉ m.cloneHistory) ∨
      (m.activeClones w.clone.id ≠ some ref ∧ m.cloneHistory.count ref = 1)
  final : ∀ ref w, m.clones ref = some w → ref ∈ m.cloneHistory → w.settled = some w.clone.status
  withdrawn : ∀ ref w, m.clones ref = some w → w.withdrawn = true →
    w.deployed = false ∧ w.completed = false ∧ w.clone.status ≠ .complete

/-- The identifier that is drawn is not that of an active clone, and `CancelClone` finds no clone
whose `executeClone` is still running. -/
def Orderly : Action → Prop
  | .requestClone id _ => m.activeClones id = none
  | .cancelClone id => ∀ ref ∈ m.activeClones id, ∀ w ∈ m.clones ref, w.stage = .ended
  | _ => True

instance (m : Manager) : DecidablePred m.Orderly
  | .requestClone _ _ => inferInstanceAs (Decidable (_ = _))
  | .cancelClone _ => inferInstanceAs (Decidable (∀ ref ∈ _, _))
  | .stop | .executeClone _ _ => .isTrue trivial

/-- A clone is active until it is settled, and its `executeClone` has ended then. -/
structure Kept (m : Manager) : Prop where
  active : ∀ id ref, m.activeClones id = some ref →
    ∃ w, m.clones ref = some w ∧ w.clone.id = id ∧ w.settled = none
  unsettled : ∀ ref w, m.clones ref = some w → w.settled = none →
    m.activeClones w.clone.id = some ref ∧ ref ∉ m.cloneHistory ∧ w.withdrawn = false ∧
      w.completed = false
  settled : ∀ ref w status, m.clones ref = some w → w.settled = some status →
    w.stage = .ended ∧ m.cloneHistory.count ref = 1 ∧ status = w.clone.status ∧
      (w.withdrawn = true → w.deployed = false ∧ w.completed = false ∧ status ≠ .complete)
  unused : ∀ ref, m.requested ≤ ref → m.clones ref = none ∧ ref ∉ m.cloneHistory

variable {m m' : Manager} {ref : ℕ} {w w' : Work} {answer : Answer}

lemma Kept.endsOnce (h : m.Kept) : m.EndsOnce := by
  refine ⟨fun ref w hw => ?_, fun ref w hw hmem => ?_, fun ref w hw hwithdrawn => ?_⟩
  all_goals
    cases hcase : w.settled with
    | none =>
      have hunsettled := h.unsettled ref w hw hcase
      grind
    | some status =>
      have hsettled := h.settled ref w status hw hcase
      have hactive := h.active w.clone.id ref
      grind

/-- The sections before the last one leave all but the status and the stage. -/
lemma advance_same {stage : Stage} (h : m.advance w stage answer = some w') :
    stage ≠ .ended ∧ w'.clone.id = w.clone.id ∧ w'.settled = w.settled ∧
      w'.withdrawn = w.withdrawn ∧ w'.completed = w.completed := by
  unfold advance at h
  cases answer <;> grind [Work.updateCloneStatus, Work.deploy, Work.ask]

/-- A clone that is not settled ends, and so has its `executeClone`. -/
lemma Kept.retire (h : m.Kept) (hw : m.clones ref = some w) (hopen : w.settled = none)
    (hsame : w'.clone.id = w.clone.id ∧ w'.settled = w.settled) (hstage : w'.stage = .ended)
    (hwithdrawn : w'.withdrawn = true →
      w'.deployed = false ∧ w'.completed = false ∧ w'.clone.status ≠ .complete) :
    (m.retire ref w').Kept := by
  obtain ⟨hactive, hunsettled, hsettled, hunused⟩ := h
  unfold Manager.retire
  refine ⟨?_, ?_, ?_, ?_⟩ <;> grind [update_apply, List.count_eq_zero]

/-- A section of `executeClone`. -/
lemma Kept.executeClone (h : m.Kept) (hw : m.clones ref = some w)
    (hexec : m.executeClone ref w answer = some m') : m'.Kept := by
  have hopen : w.stage ≠ .ended → w.settled = none := by
    intro hne
    rw [Option.eq_none_iff_forall_ne_some]
    exact fun status hcase => hne (h.settled ref w status hw hcase).1
  unfold Manager.executeClone at hexec
  split at hexec
  · next hstage =>
    cases hexec
    have hnone := hopen (by simp [hstage])
    have hkept : (m.retire ref { w with
        clone := { w.clone with status := .complete }
        stage := .ended
        completed := true }).Kept :=
      h.retire hw hnone ⟨rfl, rfl⟩ rfl (by simp [(h.unsettled ref w hw hnone).2.2.1])
    exact ⟨hkept.active, hkept.unsettled, hkept.settled, hkept.unused⟩
  · next slot reason hstage =>
    cases hexec
    have hnone := hopen (by simp [hstage])
    exact h.retire hw hnone ⟨rfl, rfl⟩ rfl (by simp [(h.unsettled ref w hw hnone).2.2.1])
  · obtain ⟨w', hadvance, rfl⟩ := Option.map_eq_some_iff.mp hexec
    obtain ⟨hstage, hsame⟩ := advance_same hadvance
    obtain ⟨hactive, hunsettled, hsettled, hunused⟩ := h
    refine ⟨?_, ?_, ?_, ?_⟩ <;> grind [update_apply]

lemma Kept.next {a : Action} (h : m.Kept) (hG : m.Orderly a) (hnext : m.next a = some m') :
    m'.Kept := by
  cases a with
  | requestClone id sourceID =>
    cases hnext
    have hfree : m.activeClones id = none := hG
    obtain ⟨hactive, hunsettled, hsettled, hunused⟩ := h
    refine ⟨?_, ?_, ?_, ?_⟩
    · intro id' ref hfound
      simp only [update_apply] at hfound
      split at hfound
      · next heq =>
        cases hfound
        exact ⟨_, update_self .., heq.symm, rfl⟩
      · grind [update_apply]
    all_goals grind [update_apply]
  | cancelClone id =>
    simp only [Manager.next] at hnext
    split at hnext
    · cases hnext
      exact h
    · next ref hactive =>
      obtain ⟨w, hw, rfl⟩ := Option.map_eq_some_iff.mp hnext
      obtain ⟨w₀, hw₀, -, hopen⟩ := h.active id ref hactive
      obtain rfl : w = w₀ := Option.some.inj (hw.symm.trans hw₀)
      refine h.retire hw hopen ⟨rfl, rfl⟩ (hG ref hactive w hw) ?_
      simp [(h.unsettled ref w hw hopen).2.2.2]
  | stop =>
    cases hnext
    exact ⟨h.active, h.unsettled, h.settled, h.unused⟩
  | executeClone ref answer =>
    obtain ⟨w, hw, hexec⟩ := Option.bind_eq_some_iff.mp hnext
    exact h.executeClone hw hexec

/-- `NewManager`, with or without a deployer. -/
def newManager (max : ℕ) (deployer : Bool) : Manager :=
  ⟨max, deployer, fun _ => none, 0, fun _ => none, [], fun _ => [], false⟩

lemma newManager_kept (max : ℕ) (deployer : Bool) : (newManager max deployer).Kept where
  active _ _ h := by cases h
  unsettled _ _ h := by cases h
  settled _ _ _ h := by cases h
  unused _ _ := ⟨rfl, List.not_mem_nil⟩

/-- **Every clone ends once and for all**, along every run in which `CancelClone` finds no clone
whose `executeClone` is still running. -/
theorem ends_once (max : ℕ) (deployer : Bool) {l : List (Action × Manager)}
    (hpath : Path (fun m a m' => next m a = some m') (newManager max deployer) l)
    (horderly : StepsMeet Orderly (newManager max deployer) l) :
    StatesMeet EndsOnce (newManager max deployer) l := by
  have hall := Path.invariant_of_steps (P := Kept) (G := Orderly)
    (fun _ _ _ h hG hnext => h.next hG hnext) (newManager_kept ..) hpath horderly
  exact hall.mono fun _ h => h.endsOnce

/-- A clone of `web` is requested and carried out; `cancels` come when the node is selected. -/
def cloneWeb (cancels : List Action) : List (Action × Manager) :=
  trace next (newManager 3 true) ([.requestClone (text "c1") (text "web")] ++
    List.replicate 3 (.executeClone 0 (.ok (text "web-2"))) ++ cancels ++
    List.replicate 6 (.executeClone 0 (.ok (text "web-2"))))

/-- Without a cancellation the clone is deployed and completed once. -/
theorem ends_once_uncancelled :
    (cloneWeb []).length = 10 ∧ (endState (newManager 3 true) (cloneWeb [])).cloneHistory = [0] ∧
      StatesMeet EndsOnce (newManager 3 true) (cloneWeb []) :=
  ⟨by decide +kernel, by decide +kernel, ends_once 3 true (trace_path ..) (by decide +kernel)⟩

/-- **A clone that was cancelled is deployed and completed**: it is twice in the history, complete,
and in the lineage of its source. -/
theorem cancelled_clone_deployed :
    let run := cloneWeb [.cancelClone (text "c1")]
    let m := endState (newManager 3 true) run
    (m.clones 0).map (fun w => (w.withdrawn, w.deployed, w.clone.status)) =
        some (true, true, .complete) ∧
      m.cloneHistory = [0, 0] ∧ m.lineage (text "web") = [text "web-2"] ∧
      Path (fun m a m' => next m a = some m') (newManager 3 true) run ∧
      ¬ StatesMeet EndsOnce (newManager 3 true) run := by
  intro run m
  have hclone : (m.clones 0).map (fun w => (w.withdrawn, w.deployed, w.clone.status)) =
      some (true, true, .complete) := by decide +kernel
  refine ⟨hclone, by decide +kernel, by decide +kernel, trace_path .., fun hmeet => ?_⟩
  obtain ⟨w, hw, heq⟩ := Option.map_eq_some_iff.mp hclone
  obtain ⟨hwithdrawn, hrest⟩ := Prod.mk.inj heq
  have hdeployed := (hmeet.endState.withdrawn 0 w hw hwithdrawn).1
  simp [hdeployed] at hrest

end Manager

end Moltbunker.Cloning
