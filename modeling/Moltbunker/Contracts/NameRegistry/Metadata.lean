import Moltbunker.Contracts.NameRegistry.Index

/-!
# `BunkerRegistry`: whose metadata it is

The metadata of a name is written by its owner, and a later owner must not find it. `described`
follows a run and says whether the metadata of a name was set since the current registration of the
name began; a transfer continues a registration. `metadata_own` states that metadata which is not
empty was set so, in every run in which a name with metadata is neither reserved nor its reservation
cancelled (`Undescribed`).

Those are the two ends of a registration that forget to delete the metadata
(`metadata_after_reserve`); `release`, `reclaimSquatted` and both cases of `register` delete it.
-/

namespace Moltbunker.Contracts.NameRegistry

open Lib Function
open Chain (Step Deployed)

/-- An operation sets the metadata of `h`, or ends or begins a registration of `h`, or neither. -/
def NameOp.described (keccak : Name → Bytes32) (h : Bytes32) (b : Bool) : NameOp → Bool
  | .setMetadata name _ _ => if keccak name = h then true else b
  | .register name _ _ => if keccak name = h then false else b
  | .reserve name => if keccak name = h then false else b
  | .cancelReservation name => if keccak name = h then false else b
  | .release name => if keccak name = h then false else b
  | .reclaimSquatted name => if keccak name = h then false else b
  | _ => b

/-- Whether the metadata of `h` was set in the run since the last registration of `h` began, given
whether it was at its start. -/
def described (keccak : Name → Bytes32) (h : Bytes32) (b : Bool) (l : List (Action × World)) :
    Bool :=
  l.foldl (fun b x => (opsOf x.1).foldl (NameOp.described keccak h) b) b

/-- The name `h` has no metadata when it is reserved and when its reservation is cancelled. -/
def Undescribed (keccak : Name → Bytes32) (h : Bytes32) (s : Storage) : NameOp → Prop
  | .reserve name => keccak name = h → s.metadata h = .empty
  | .cancelReservation name => keccak name = h → s.metadata h = .empty
  | _ => True

variable {keccak : Name → Bytes32} {m : Msg} {s s' : Storage} {n n' : Names} {h k : Bytes32}
  {op : NameOp} {b : Bool}

/-- The metadata of `h` was set in the current registration, if there is any, and a name without an
owner has none. -/
structure Own (h : Bytes32) (b : Bool) (n : Names) : Prop where
  set : n.metadata h ≠ .empty → b = true
  unowned : (n.subdomains h).owner = 0 → n.metadata h = .empty

namespace Own

/-- The metadata is as it was, and the name did not lose its owner. -/
lemma congr (hn : Own h b n) (howner : (n'.subdomains h).owner = 0 → (n.subdomains h).owner = 0)
    (hmetadata : n'.metadata h = n.metadata h) : Own h b n' := by
  refine ⟨?_, ?_⟩
  · rw [hmetadata]
    exact hn.set
  · intro hzero
    rw [hmetadata]
    exact hn.unowned (howner hzero)

/-- There is no metadata. -/
lemma of_empty (hempty : n.metadata h = .empty) : Own h b n :=
  ⟨fun hne => absurd hempty hne, fun _ => hempty⟩

/-- A registration of `k` ends or begins without metadata. -/
lemma turned (hn : Own h b n) (hempty : k = h → n'.metadata h = .empty)
    (hrecord : k ≠ h → n'.subdomains h = n.subdomains h)
    (hmetadata : k ≠ h → n'.metadata h = n.metadata h) : Own h (if k = h then false else b) n' := by
  by_cases hk : k = h
  · exact of_empty (hempty hk)
  · rw [if_neg hk]
    refine hn.congr ?_ (hmetadata hk)
    rw [hrecord hk]
    exact id

/-- The record of `k` is written, and its owner is not the zero address or as before. -/
lemma kept_record (hn : Own h b n) {r : SubdomainRecord}
    (hrecord : n'.subdomains = update n.subdomains k r)
    (howner : r.owner = 0 → (n.subdomains k).owner = 0) (hmetadata : n'.metadata = n.metadata) :
    Own h b n' := by
  refine hn.congr ?_ (congrFun hmetadata h)
  rw [hrecord]
  by_cases hk : k = h
  · subst hk
    rw [update_self]
    exact howner
  · rw [update_of_ne (Ne.symm hk)]
    exact id

/-- **Every operation that meets the condition** keeps the metadata the owner's. -/
theorem made (hn : Own h b s.toNames) (hG : Undescribed keccak h s op)
    (hmade : Made keccak m s op s') : Own h (op.described keccak h b) s'.toNames := by
  -- a write of another name's entry
  have hother : ∀ {α : Type} {f : Bytes32 → α} {k : Bytes32} {v : α}, k ≠ h →
      update f k v h = f h := fun hk => update_of_ne (Ne.symm hk) _ _
  cases hmade with
  | registered hname hdeployment hroom hcleaned =>
    cases hcleaned with
    | unowned howner =>
      refine hn.turned ?_ hother fun _ => rfl
      rintro rfl
      exact hn.unowned howner
    | expired howner hexpired | lapsed howner hlapsed hcurrent =>
      refine hn.turned ?_ hother hother
      rintro rfl
      exact update_self _ _ _
  | reserved hname hroom hvacated =>
    cases hvacated with
    | unowned _ | taken _ _ => exact hn.turned hG hother fun _ => rfl
  | cancelled hown => exact hn.turned hG hother fun _ => rfl
  | released hown | reclaimed howner hsquatted =>
    refine hn.turned ?_ hother hother
    rintro rfl
    exact update_self _ _ _
  | renewed hown | claimed hown _ | updated hown _ => exact hn.kept_record rfl id rfl
  | transferred hown hnew hother hroom =>
    exact hn.kept_record rfl (fun hzero => absurd hzero hnew) rfl
  | @described name description avatarURL hown =>
    show Own h (if keccak name = h then true else b) _
    by_cases hk : keccak name = h
    · subst hk
      rw [if_pos rfl]
      exact ⟨fun _ => rfl, fun hzero => absurd hzero hown.1⟩
    · rw [if_neg hk]
      exact hn.congr id (hother hk)
  | primarySet hown hdeployment => exact hn.congr id rfl

/-- So do the operations of a call. -/
lemma run_ops {l : List (NameOp × Storage)} (hn : Own h b s.toNames)
    (hl : Path (Made keccak m) s l) (hG : StepsMeet (Undescribed keccak h) s l) :
    Own h ((l.map Prod.fst).foldl (NameOp.described keccak h) b) (endState s l).toNames := by
  induction l generalizing s b with
  | nil => exact hn
  | cons x l ih => exact ih (hn.made hG.1 hl.1) hl.2 hG.2

variable {self : Address} {w w' : World} {a : Action}

lemma step (hw : Own h b w.storage.toNames)
    (hG : ∀ op ∈ opsOf a, Undescribed keccak h w.storage op)
    (hstep : Step (contract keccak) self w a w') :
    Own h ((opsOf a).foldl (NameOp.described keccak h) b) w'.storage.toNames := by
  rcases step_ran hstep with ⟨sender, t, c, l, rfl, -, hpath, hops, hend⟩ | ⟨hnone, hsame⟩
  · have hmeets : StepsMeet (Undescribed keccak h) w.storage l :=
      stepsMeet_of_ops (fun _ _ => trivial) (fun _ _ _ _ _ _ _ _ _ _ => trivial) hpath hops hG
    have hrun := hw.run_ops hpath hmeets
    rw [hops, hend] at hrun
    exact hrun
  · rw [hnone, hsame]
    exact hw

lemma run {l : List (Action × World)} (hw : Own h b w.storage.toNames)
    (hl : Path (Step (contract keccak) self) w l)
    (hG : StepsMeet (fun w a => ∀ op ∈ opsOf a, Undescribed keccak h w.storage op) w l) :
    Own h (NameRegistry.described keccak h b l) (endState w l).storage.toNames := by
  induction l generalizing w b with
  | nil => exact hw
  | cons x l ih => exact ih (hw.step hG.1 hl.1) hl.2 hG.2

end Own

/-- **Metadata is the owner's own.** In every run in which a name with metadata is not reserved and
its reservation is not cancelled: a name with metadata has an owner, and the metadata was set since
its current registration began. -/
theorem metadata_own {self : Address} {w₀ : World} {l : List (Action × World)}
    (hw₀ : Deployed (contract keccak) self w₀) (hl : Path (Step (contract keccak) self) w₀ l)
    (hG : StepsMeet (fun w a => ∀ op ∈ opsOf a, Undescribed keccak h w.storage op) w₀ l)
    (hmetadata : (endState w₀ l).storage.metadata h ≠ .empty) :
    ((endState w₀ l).storage.subdomains h).owner ≠ 0 ∧ described keccak h false l = true := by
  have hinit : Own h false w₀.storage.toNames := by
    rw [names_deployed hw₀]
    exact .of_empty rfl
  have hend := hinit.run hl hG
  exact ⟨fun hzero => hmetadata (hend.unowned hzero), hend.set hmetadata⟩

/-- Account `3` registers a name, sets its metadata and gives the name to account `4`. -/
def describedAndGiven : List Action :=
  [.call 2 0 (.setChangeFee 0), .call 3 0 (.register alpha 7 fun _ => none),
    .call 3 1 (.setMetadata alpha [0x68, 0x69] []), .call 3 2 (.transfer alpha 4)]

theorem metadata_own_given :
    let l := fresh.trace (contract packName) 100 describedAndGiven
    l.length = 4 ∧
      (endState fresh l).storage.metadata (packName alpha) ≠ .empty ∧
      ((endState fresh l).storage.subdomains (packName alpha)).owner ≠ 0 ∧
      described packName (packName alpha) false l = true := by
  intro l
  have hmetadata : (endState fresh l).storage.metadata (packName alpha) ≠ .empty := by
    decide +kernel
  have hguard : StepsMeet (fun (w : World) a =>
      ∀ op ∈ opsOf a, Undescribed packName (packName alpha) w.storage op) fresh l := by
    apply stepsMeet_trace
    simp [describedAndGiven, opsOf, ExtCall.ops, Undescribed]
  exact ⟨by decide +kernel, hmetadata, metadata_own (fresh_deployed (by decide))
    (Chain.World.trace_path (contract packName) 100) hguard hmetadata⟩

/-- Account `3` registers a name and sets its metadata. When the name has expired for good, account
`4` reserves it. -/
def reservedAfterExpiry : List Action :=
  [.call 2 0 (.setChangeFee 0), .call 3 0 (.register alpha 7 fun _ => none),
    .call 3 1 (.setMetadata alpha [0x68, 0x69] []),
    .call 4 34128001 (.reserve alpha fun _ => none)]

/-- **The metadata that stays.** The name is now of account `4`, which has set no metadata, and has
the metadata of account `3`. -/
theorem metadata_after_reserve :
    let l := fresh.trace (contract packName) 100 reservedAfterExpiry
    Deployed (contract packName) 100 fresh ∧ Path (Step (contract packName) 100) fresh l ∧
      l.length = 4 ∧
      ((endState fresh l).storage.subdomains (packName alpha)).owner = 4 ∧
      (endState fresh l).storage.metadata (packName alpha) = ⟨[0x68, 0x69], []⟩ ∧
      described packName (packName alpha) false l = false :=
  ⟨fresh_deployed (by decide), Chain.World.trace_path (contract packName) 100,
    by decide +kernel⟩

end Moltbunker.Contracts.NameRegistry
