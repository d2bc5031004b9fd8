import Moltbunker.Contracts.Verification.Model

/-!
# `BunkerVerification`: what `isAttestationCurrent` says

The view answers from `lastAttestationTime`. That field has two writers besides the owner's
reinstatement: `submitAttestation` writes the time of the call, and `checkMissedAttestations`
advances it by the intervals that it has counted as missed. `Backed` says that the field of an
active provider is no later than one of the provider's own attestations. Every step keeps it, apart
from a check that counts misses and does not suspend, and `attestation_current_truthful` follows for
every run without one.

Such a check makes the view true for a provider that has not attested since (`current_after_miss`).
-/

namespace Moltbunker.Contracts.Verification

open Lib Function
open Chain (Step Deployed)

/-- The time at which a step is an attestation of `p`. -/
def submission (p : Address) : Action → Option ℕ
  | .call sender t (.submitAttestation _) => if sender = p then some t else none
  | _ => none

/-- The times of the attestations of `p` in a run. -/
def submissions (p : Address) (l : List (Action × World)) : List ℕ :=
  l.filterMap fun x => submission p x.1

/-- A check of `p` that counts misses has enough of them to suspend. -/
def MissSuspends (p : Address) (w : World) : Action → Prop
  | .call _ t (.checkMissedAttestations q) => q = p →
      (w.storage.attestations p).lastAttestationTime.toNat + w.storage.attestationInterval < t →
        (BitVec.ofNat 32 w.storage.maxMissedAttestations).toNat ≤
          (w.storage.attestations p).consecutiveMissed.toNat +
            (BitVec.ofNat 32 (w.storage.intervalsMissed p t)).toNat
  | _ => True

/-- The owner does not reinstate `p` in this step. -/
def NoReinstatement (p : Address) : Action → Prop
  | .call _ _ (.reinstateProvider q) => q ≠ p
  | _ => True

variable {self : Address} {w w' : World} {a : Action} {p : Address} {times : List ℕ} {more : List ℕ}

/-- An active record is no later than one of the attestations at `times`, and that one is past. -/
def Backed (p : Address) (times : List ℕ) (w : World) : Prop :=
  (w.storage.attestations p).lastAttestationTime ≠ 0 →
    (w.storage.attestations p).suspended = false →
      ∃ ts ∈ times, (w.storage.attestations p).lastAttestationTime.toNat ≤ ts ∧ ts ≤ w.now

/-! ## One step -/

/-- What backs a record backs it later, with more attestations. -/
lemma Backed.later (hw : Backed p times w) (hnow : w.now ≤ w'.now)
    (hsame : w'.storage.attestations p = w.storage.attestations p) :
    Backed p (times ++ more) w' := by
  intro hlast hactive
  rw [hsame] at hlast hactive ⊢
  obtain ⟨ts, hmem, hle, hpast⟩ := hw hlast hactive
  exact ⟨ts, List.mem_append_left _ hmem, hle, hpast.trans hnow⟩

/-- A suspended provider needs no attestation. -/
lemma Backed.of_suspended (h : (w.storage.attestations p).suspended = true) :
    Backed p times w := by
  intro _ hactive
  rw [h] at hactive
  cases hactive

/-- A record with the time of a new attestation is backed by it. -/
lemma Backed.of_submission {t : ℕ} (hnow : w.now = t)
    (hlast : (w.storage.attestations p).lastAttestationTime = .ofNat 48 t) :
    Backed p (times ++ [t]) w := by
  intro _ _
  refine ⟨t, List.mem_append_right _ (List.mem_singleton_self t), ?_, hnow.ge⟩
  rw [hlast]
  exact toNat_ofNat_le 48 t

/-- A write of the record of `q` keeps what backs the record of any other provider; that of `q` is
left to show. -/
lemma Backed.write (hw : Backed p times w) {q : Address}
    {record : AttestationRecord} (hnow : w.now ≤ w'.now)
    (hrecords : w'.storage.attestations = update w.storage.attestations q record)
    (hself : p = q → w'.storage.attestations p = record → Backed p (times ++ more) w') :
    Backed p (times ++ more) w' := by
  by_cases hp : p = q
  · apply hself hp
    rw [hrecords, hp, update_self]
  · apply hw.later hnow
    rw [hrecords, update_of_ne hp]

/-- **Every step that meets the guard keeps the records backed.** -/
theorem Backed.step (hw : Backed p times w) (hnew : NoReinstatement p a) (hG : MissSuspends p w a)
    (h : Step contract self w a w') : Backed p (times ++ (submission p a).toList) w' := by
  have hnow := Chain.now_le_of_step h
  rcases Chain.step_cases h with ⟨sender, t, c, calls, rfl, -, -, -, hexec, -, htime⟩ |
    ⟨_, _, rfl, -, -, -, hw'⟩ | ⟨_, _, rfl, -, rfl⟩
  · have heff := exec_effect hexec
    -- an attestation of `p` is one of its times
    have hsubmission : ∀ hash, p = sender →
        (submission p (.call sender t (.submitAttestation hash))).toList = [t] := by
      intro hash hp
      unfold submission
      dsimp only
      rw [if_pos hp.symm]
      rfl
    generalize hs' : w'.storage = s' at heff
    cases heff with
    | @first hash hactive hnone | @renewed hash total hactive hdue htotal =>
      refine hw.write hnow (by rw [hs']; rfl) ?_
      intro hp hrecord
      rw [hsubmission hash hp]
      exact .of_submission htime (by rw [hrecord]; rfl)
    | inTime => exact hw.later hnow (by rw [hs'])
    | @missed provider missed consecutive hlate hfew =>
      refine hw.write hnow (by rw [hs']; rfl) ?_
      rintro rfl -
      -- the guard leaves no room for a miss without a suspension
      have hmany := hG rfl hlate.late
      have hlt : consecutive.toNat < _ := hfew
      rw [hlate.consecutive] at hlt
      exact absurd hmany (not_le.mpr hlt)
    | suspended hlate hmany | challenged =>
      refine hw.write hnow (by rw [hs']; rfl) ?_
      intro _ hrecord
      exact .of_suspended (by rw [hrecord])
    | reinstated hcooldown =>
      refine hw.write hnow (by rw [hs']; rfl) ?_
      intro hp _
      exact absurd hp.symm hnew
    | admin hc hattestations hsuspendedAt => exact hw.later hnow (by rw [hs', hattestations])
  · exact hw.later hnow (by rw [hw'])
  · exact hw.later hnow rfl

/-! ## Over a run -/

/-- A run whose steps all meet the guard keeps the records backed. -/
lemma Backed.run {l : List (Action × World)} (hw : Backed p times w)
    (hl : Path (Step contract self) w l) (hnew : ∀ x ∈ l, NoReinstatement p x.1)
    (hG : StepsMeet (MissSuspends p) w l) : Backed p (times ++ submissions p l) (endState w l) := by
  induction l generalizing w times with
  | nil => exact hw.later le_rfl rfl
  | cons x l ih =>
    obtain ⟨a, w₁⟩ := x
    obtain ⟨hstep, hl⟩ := hl
    obtain ⟨hguard, hG⟩ := hG
    have hw₁ := hw.step (hnew _ List.mem_cons_self) hguard hstep
    have hend := ih hw₁ hl (fun x hx => hnew x (List.mem_cons_of_mem _ hx)) hG
    have htimes : submissions p ((a, w₁) :: l) = (submission p a).toList ++ submissions p l := by
      unfold submissions
      rw [List.filterMap_cons]
      cases submission p a <;> rfl
    rw [htimes, ← List.append_assoc]
    exact hend

/-- What the view has read when it answers with true. -/
lemma isAttestationCurrent_eq_true {s : Storage} {m : Msg}
    (h : s.isAttestationCurrent m p = .ok true) :
    (s.attestations p).lastAttestationTime ≠ 0 ∧ (s.attestations p).suspended = false ∧
      m.timestamp ≤ (s.attestations p).lastAttestationTime.toNat + s.attestationInterval := by
  unfold Storage.isAttestationCurrent at h
  dsimp only at h
  split at h
  · cases h
  · next hlast =>
    split at h
    · cases h
    · next hactive =>
      simp only [bind_eq_ok, subC_eq_ok, pure_eq_ok, decide_eq_true_eq] at h
      obtain ⟨_, ⟨-, rfl⟩, hage⟩ := h
      exact ⟨hlast, Bool.not_eq_true _ ▸ hactive, Nat.sub_le_iff_le_add'.mp hage⟩

/-- **The view is truthful** in every run without a reinstatement in which no check counts misses
without suspending: if it answers with true at some time, the provider is not suspended and has
itself attested within the interval before. The interval is the one in force at that time. -/
theorem attestation_current_truthful {w₀ : World} {l : List (Action × World)} {m : Msg}
    (hw₀ : Deployed contract self w₀) (hl : Path (Step contract self) w₀ l)
    (hnew : ∀ x ∈ l, NoReinstatement p x.1) (hG : StepsMeet (MissSuspends p) w₀ l)
    (ht : (endState w₀ l).now ≤ m.timestamp)
    (hview : (endState w₀ l).storage.isAttestationCurrent m p = .ok true) :
    ((endState w₀ l).storage.attestations p).suspended = false ∧
      ∃ ts ∈ submissions p l, ts ≤ m.timestamp ∧
        m.timestamp ≤ ts + (endState w₀ l).storage.attestationInterval := by
  have hinit : Backed p [] w₀ := by
    obtain ⟨_, hs⟩ := hw₀.initial
    simp only [constructor, bind_eq_ok, pure_eq_ok] at hs
    obtain ⟨_, -, hs⟩ := hs
    intro hlast
    rw [← hs] at hlast
    exact absurd rfl hlast
  obtain ⟨hlast, hactive, hage⟩ := isAttestationCurrent_eq_true hview
  obtain ⟨ts, hmem, hle, hpast⟩ := hinit.run hl hnew hG hlast hactive
  refine ⟨hactive, ts, hmem, hpast.trans ht, ?_⟩
  calc m.timestamp ≤ _ := hage
    _ ≤ ts + (endState w₀ l).storage.attestationInterval := Nat.add_le_add_right hle _

/-- A fresh deployment at time `0` with owner `2`. -/
def fresh : World := ⟨0, .deployed 2, .empty supplyCap⟩

lemma fresh_deployed (h : self ≠ 0) : Deployed contract self fresh :=
  ⟨h, by decide, ⟨2, rfl⟩, fun _ => rfl⟩

/-- Provider `3` attests twice, a day apart, and the verifier `4` checks in between. -/
def attestedTwice : List Action :=
  [.access 0 ⟨2, fun v => v = 4⟩, .call 3 1 (.submitAttestation 7),
    .call 4 80000 (.checkMissedAttestations 3), .call 3 86401 (.submitAttestation 8)]

theorem attestation_current_truthful_twice :
    let l := fresh.trace contract 100 attestedTwice
    l.length = 4 ∧ (endState fresh l).storage.isAttestationCurrent ⟨5, 90000, 0⟩ 3 = .ok true ∧
      ∃ ts ∈ submissions 3 l, ts ≤ 90000 ∧
        90000 ≤ ts + (endState fresh l).storage.attestationInterval := by
  intro l
  have hview : (endState fresh l).storage.isAttestationCurrent ⟨5, 90000, 0⟩ 3 = .ok true := by
    decide +kernel
  have hnew : ∀ x ∈ l, NoReinstatement 3 x.1 := by
    intro x hx
    have hmem : x.1 ∈ attestedTwice := mem_of_mem_trace hx
    simp only [attestedTwice, List.mem_cons, List.not_mem_nil, or_false] at hmem
    rcases hmem with hx | hx | hx | hx <;> rw [hx] <;> trivial
  have hguard : StepsMeet (MissSuspends 3) fresh l :=
    ⟨trivial, trivial, fun _ hlate => absurd hlate (by decide +kernel), trivial, trivial⟩
  obtain ⟨-, hts⟩ := attestation_current_truthful (fresh_deployed (by decide))
    (Chain.World.trace_path contract 100) hnew hguard (by decide +kernel) hview
  exact ⟨by decide +kernel, hview, hts⟩

/-- Provider `3` attests once. One and a half days later the verifier `4` counts one miss. -/
def missedOnce : List Action :=
  [.access 0 ⟨2, fun v => v = 4⟩, .call 3 1 (.submitAttestation 7),
    .call 4 129601 (.checkMissedAttestations 3)]

/-- **The miss that renews.** After the check the view is true again, and the provider's only
attestation is more than a day old. -/
theorem current_after_miss :
    let l := fresh.trace contract 100 missedOnce
    Deployed contract 100 fresh ∧ Path (Step contract 100) fresh l ∧ l.length = 3 ∧
      (endState fresh l).now = 129601 ∧
      (endState fresh l).storage.attestationInterval = 86400 ∧
      (endState fresh l).storage.isAttestationCurrent ⟨5, 129601, 0⟩ 3 = .ok true ∧
      submissions 3 l = [1] :=
  ⟨fresh_deployed (by decide), Chain.World.trace_path contract 100, by decide +kernel⟩

end Moltbunker.Contracts.Verification
