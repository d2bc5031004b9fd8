import Moltbunker.Payment.BaseClient.Steps

/-!
# Nonces

`GetTransactOpts` takes a nonce from the counter before the transaction is submitted, and
`SyncNonce`, `switchRPC` and `Connect` overwrite the counter with the pending nonce of the node. A
submission that fails leaves a gap below the nonces that come after it; an overwrite while nonces
are held hands them out again.

The nonces that are held or were submitted are the invariant. As long as nothing goes wrong they are
an interval that begins with the pending nonce at the start, in the order in which they were handed
out.

* `Regular.handOut`, `Regular.submit`, `Regular.giveUp` — what the steps do to these nonces;
* `Regular.step` — under the condition `Careful` they stay an interval;
* `nonces_in_order` — in such a run nonces are unique and without gaps.
-/

namespace Moltbunker.Payment.BaseClient

open Lib Submission

variable {sortSlice : (Candidate → Candidate → Bool) → List Candidate → List Candidate}

/-! ## Intervals -/

/-- The numbers `first`, `first + 1`, … -/
def interval (first : ℤ) (n : ℕ) : List ℤ := (List.range n).map fun k : ℕ => first + (k : ℤ)

@[simp] lemma length_interval (first : ℤ) (n : ℕ) : (interval first n).length = n := by
  simp [interval]

lemma nodup_interval (first : ℤ) (n : ℕ) : (interval first n).Nodup := by
  refine List.Nodup.map ?_ List.nodup_range
  intro k k' heq
  simpa using heq

/-- A number in an interval comes after all smaller ones. -/
lemma interval_split {first k : ℤ} {n : ℕ} {l₁ l₂ : List ℤ}
    (h : l₁ ++ k :: l₂ = interval first n) :
    l₁ = interval first l₁.length ∧ k = first + l₁.length := by
  have hlt : l₁.length < n := by
    have hlength := congrArg List.length h
    rw [length_interval, List.length_append, List.length_cons] at hlength
    omega
  constructor
  · calc l₁ = (l₁ ++ k :: l₂).take l₁.length := by simp
      _ = (interval first n).take l₁.length := by rw [h]
      _ = interval first l₁.length := by
        unfold interval
        rw [← List.map_take, List.take_range, Nat.min_eq_left hlt.le]
  · have hk : (interval first n)[l₁.length]? = some k := by simp [← h]
    unfold interval at hk
    rw [List.getElem?_map, List.getElem?_range hlt, Option.map_some, Option.some.injEq] at hk
    exact hk.symm

/-- The step takes a nonce. -/
def Action.takesNonce : Action → Bool
  | .gasPrice _ (.ok _) => true
  | _ => false

/-- The options whose submission fails. -/
def Action.givesUp : Action → Option ℕ
  | .submit i (some _) => some i
  | _ => none

namespace World

variable {s s' : World} {a : Action} {i : ℕ} {o : TransactOpts}

/-! ## The property -/

/-- No two transactions were submitted with the same nonce, and none with a nonce above the pending
nonce of the node, once all nonces that were handed out earlier had been submitted or given up. -/
structure InOrder (s : World) : Prop where
  unique : (s.log.map nonce).Nodup
  noGap : ∀ e ∈ s.log, e.settled = true → e.nonce ≤ e.pending

/-- How many nonces are held. -/
def held (s : World) : ℕ := s.opts.countP fun o => o.fate = .held

/-- The condition on a step. A nonce is handed out while the counter is the pending nonce plus the
nonces that are held, below the range of `int64`; and a submission fails only for the highest of the
nonces that are held or were submitted. -/
def Careful (s : World) (a : Action) : Prop :=
  (a.takesNonce = true →
    s.bc.pendingNonce.toNat = s.pending + s.held ∧ s.pending + s.held < 2 ^ 63) ∧
  ∀ i ∈ a.givesUp, ∀ o ∈ s.opts[i]?, ∀ o' ∈ s.opts, o'.fate ≠ .givenUp → o'.nonce ≤ o.nonce

instance (s : World) : DecidablePred s.Careful := fun a => inferInstanceAs (Decidable
  ((a.takesNonce = true →
    s.bc.pendingNonce.toNat = s.pending + s.held ∧ s.pending + s.held < 2 ^ 63) ∧
  ∀ i ∈ a.givesUp, ∀ o ∈ s.opts[i]?, ∀ o' ∈ s.opts, o'.fate ≠ .givenUp → o'.nonce ≤ o.nonce))

/-! ## The nonces that are held or were submitted -/

/-- The nonces of options that were not given up, in the order in which they were handed out. -/
def liveNonces (l : List TransactOpts) : List ℤ :=
  (l.filter fun o => o.fate ≠ .givenUp).map TransactOpts.nonce

/-- The nonces of transactions that were submitted. -/
def submittedNonces (l : List TransactOpts) : List ℤ :=
  (l.filter fun o => o.fate = .submitted).map TransactOpts.nonce

@[simp] lemma liveNonces_append (l₁ l₂ : List TransactOpts) :
    liveNonces (l₁ ++ l₂) = liveNonces l₁ ++ liveNonces l₂ := by simp [liveNonces]

@[simp] lemma submittedNonces_append (l₁ l₂ : List TransactOpts) :
    submittedNonces (l₁ ++ l₂) = submittedNonces l₁ ++ submittedNonces l₂ := by
  simp [submittedNonces]

variable {l : List TransactOpts} {first : ℕ}

lemma liveNonces_cons_of_ne (h : o.fate ≠ .givenUp) :
    liveNonces (o :: l) = o.nonce :: liveNonces l := by
  simp [liveNonces, h]

/-- Without held ones, the live nonces are the submitted ones. -/
lemma liveNonces_eq_submitted (h : ∀ o ∈ l, o.fate ≠ .held) :
    liveNonces l = submittedNonces l := by
  unfold liveNonces submittedNonces
  congr 1
  refine List.filter_congr ?_
  intro o ho
  have hne := h o ho
  cases hfate : o.fate with
  | held => exact absurd hfate hne
  | submitted => rfl
  | givenUp => rfl

lemma submittedNonces_sublist : (submittedNonces l).Sublist (liveNonces l) := by
  refine List.Sublist.map _ (List.monotone_filter_right l ?_)
  intro o ho
  have hfate : o.fate = .submitted := of_decide_eq_true ho
  simp [hfate]

/-- The live nonces are held or were submitted. -/
lemma length_liveNonces :
    (liveNonces l).length = (submittedNonces l).length + l.countP fun o => o.fate = .held := by
  induction l with
  | nil => rfl
  | cons o l ih =>
    unfold liveNonces submittedNonces at *
    cases hfate : o.fate with
    | _ =>
      simp only [List.filter_cons, List.countP_cons, hfate] at ih ⊢
      simp at ih ⊢
      omega

/-- The options at a place, between those before and those after it. -/
lemma split_at (ho : l[i]? = some o) :
    ∃ l₁ l₂, l = l₁ ++ o :: l₂ ∧ l.take i = l₁ ∧ ∀ o', l.set i o' = l₁ ++ o' :: l₂ := by
  obtain ⟨hlt, rfl⟩ := List.getElem?_eq_some_iff.mp ho
  refine ⟨l.take i, l.drop (i + 1), ?_, rfl, ?_⟩
  · rw [List.getElem_cons_drop, List.take_append_drop]
  · intro o'
    rw [List.set_eq_take_append_cons_drop, if_pos hlt]

/-! ## The invariant -/

/-- The nonces that are held or were submitted are an interval from the pending nonce at the start,
and the node has counted the submitted ones. -/
structure Regular (first : ℕ) (s : World) : Prop where
  live : liveNonces s.opts = interval first (liveNonces s.opts).length
  counted : s.pending = first + (submittedNonces s.opts).length
  logged : (s.log.map nonce).Perm (submittedNonces s.opts)
  noGap : ∀ e ∈ s.log, e.settled = true → e.nonce ≤ e.pending

lemma Regular.inOrder (h : Regular first s) : s.InOrder := by
  refine ⟨?_, h.noGap⟩
  have hnodup : (liveNonces s.opts).Nodup := by
    rw [h.live]
    exact nodup_interval ..
  exact h.logged.nodup_iff.mpr ((submittedNonces_sublist).nodup hnodup)

lemma regular_new (bc : BaseClient) (pending : ℕ) : Regular pending (World.new bc pending) where
  live := rfl
  counted := rfl
  logged := .nil
  noGap _ h := by cases h

/-- The counter as an `int64`. -/
lemma toInt_toInt64 {nonce : UInt64} (h : nonce.toNat < 2 ^ 63) :
    nonce.toInt64.toInt = nonce.toNat := by
  refine BitVec.toInt_eq_toNat_of_lt ?_
  have hnat : nonce.toBitVec.toNat = nonce.toNat := rfl
  rw [UInt64.toBitVec_toInt64, hnat]
  omega

/-- A nonce is handed out. -/
lemma Regular.handOut (h : Regular first s) {gasPrice : ℤ}
    (hcounter : s.bc.pendingNonce.toNat = s.pending + s.held)
    (hbound : s.pending + s.held < 2 ^ 63) : Regular first (s.handOut i gasPrice) := by
  have hnonce : s.bc.pendingNonce.toInt64.toInt = first + (liveNonces s.opts).length := by
    rw [toInt_toInt64 (by omega), hcounter, length_liveNonces, h.counted]
    unfold held
    push_cast
    ring
  refine ⟨?_, ?_, ?_, h.noGap⟩
  · unfold World.handOut
    rw [liveNonces_append, liveNonces_cons_of_ne (by simp), hnonce]
    have hnil : liveNonces [] = [] := rfl
    rw [hnil, List.length_append, List.length_singleton, interval, List.range_succ, List.map_append,
      ← interval, ← h.live]
    rfl
  · unfold World.handOut
    rw [h.counted, submittedNonces_append]
    simp [submittedNonces]
  · unfold World.handOut
    simpa [submittedNonces] using h.logged

/-- A nonce that was not submitted before is in no list of submitted ones. -/
lemma submittedNonces_cons_of_ne (h : o.fate ≠ .submitted) :
    submittedNonces (o :: l) = submittedNonces l := by
  simp [submittedNonces, h]

lemma opts_submit_none :
    (s.submit i o none).opts = s.opts.set i { o with fate := .submitted } := rfl

lemma opts_submit_some (err : Text) :
    (s.submit i o (some err)).opts = s.opts.set i { o with fate := .givenUp } := rfl

/-- A transaction is submitted. -/
lemma Regular.submit (h : Regular first s) (ho : s.opts[i]? = some o)
    (hheld : o.fate = .held) : Regular first (s.submit i o none) := by
  obtain ⟨l₁, l₂, hsplit, htake, hset⟩ := split_at ho
  have hlive : liveNonces s.opts = liveNonces l₁ ++ o.nonce :: liveNonces l₂ := by
    rw [hsplit, liveNonces_append, liveNonces_cons_of_ne (by simp [hheld])]
  have hsubmitted : submittedNonces s.opts = submittedNonces l₁ ++ submittedNonces l₂ := by
    rw [hsplit, submittedNonces_append, submittedNonces_cons_of_ne (by simp [hheld])]
  have hlive' : liveNonces (s.submit i o none).opts = liveNonces s.opts := by
    rw [opts_submit_none, hset, liveNonces_append, liveNonces_cons_of_ne (by simp), hlive]
  have hsubmitted' : submittedNonces (s.submit i o none).opts =
      submittedNonces l₁ ++ o.nonce :: submittedNonces l₂ := by
    rw [opts_submit_none, hset, submittedNonces_append]
    rfl
  refine ⟨?_, ?_, ?_, ?_⟩
  · rw [hlive']
    exact h.live
  · have hcounted := h.counted
    rw [hsubmitted] at hcounted
    rw [hsubmitted']
    unfold World.submit
    simp only [List.length_append, List.length_cons] at hcounted ⊢
    omega
  · rw [hsubmitted']
    unfold World.submit
    rw [List.map_append]
    have hlogged := h.logged
    rw [hsubmitted] at hlogged
    have hfront : (s.log.map nonce ++ [o.nonce]).Perm
        (o.nonce :: s.log.map nonce) := List.perm_append_singleton ..
    exact (hfront.trans (hlogged.cons _)).trans List.perm_middle.symm
  · intro e he hsettled
    rcases List.mem_append.mp he with hold | hnew
    · exact h.noGap e hold hsettled
    · rw [List.mem_singleton.mp hnew] at hsettled ⊢
      -- all live nonces before it were submitted, and the node has counted them
      have hbefore : ∀ o' ∈ l₁, o'.fate ≠ .held := by
        unfold settledBefore at hsettled
        rw [htake] at hsettled
        simpa using hsettled
      have hk := (interval_split (hlive.symm.trans h.live)).2
      rw [liveNonces_eq_submitted hbefore] at hk
      have hcounted := h.counted
      rw [hsubmitted, List.length_append] at hcounted
      dsimp only
      omega

/-- The submission of the highest live nonce fails. -/
lemma Regular.giveUp (h : Regular first s) (ho : s.opts[i]? = some o) (hheld : o.fate = .held)
    (hlast : ∀ o' ∈ s.opts, o'.fate ≠ .givenUp → o'.nonce ≤ o.nonce) (err : Text) :
    Regular first (s.submit i o (some err)) := by
  obtain ⟨l₁, l₂, hsplit, -, hset⟩ := split_at ho
  have hlive : liveNonces l₁ ++ o.nonce :: liveNonces l₂ =
      interval first (liveNonces s.opts).length := by
    rw [← h.live, hsplit, liveNonces_append, liveNonces_cons_of_ne (by simp [hheld])]
  obtain ⟨hfirst, hk⟩ := interval_split hlive
  -- a live nonce after it would be higher
  have hnone : liveNonces l₂ = [] := by
    cases hl : liveNonces l₂ with
    | nil => rfl
    | cons k l =>
      have hmem : k ∈ liveNonces l₂ := by simp [hl]
      obtain ⟨o', ho', hnonce⟩ := List.mem_map.mp hmem
      obtain ⟨hin, hfate⟩ := List.mem_filter.mp ho'
      have hle := hlast o' (by simp [hsplit, hin]) (by simpa using hfate)
      rw [hl, List.append_cons] at hlive
      have hk' := (interval_split hlive).2
      rw [List.length_append, List.length_singleton] at hk'
      omega
  have hlive' : liveNonces (s.submit i o (some err)).opts = liveNonces l₁ := by
    rw [opts_submit_some, hset, liveNonces_append]
    have hdropped : liveNonces ({ o with fate := .givenUp } :: l₂) = liveNonces l₂ := by
      simp [liveNonces]
    rw [hdropped, hnone, List.append_nil]
  have hsubmitted' : submittedNonces (s.submit i o (some err)).opts = submittedNonces s.opts := by
    rw [opts_submit_some, hset, hsplit, submittedNonces_append, submittedNonces_append,
      submittedNonces_cons_of_ne (by simp), submittedNonces_cons_of_ne (by simp [hheld])]
  refine ⟨?_, ?_, ?_, h.noGap⟩
  · rw [hlive']
    exact hfirst
  · rw [hsubmitted']
    exact h.counted
  · rw [hsubmitted']
    exact h.logged

lemma Regular.of_sameNonces (h : Regular first s) (hsame : SameNonces s s') :
    Regular first s' := by
  constructor
  · rw [hsame.opts]
    exact h.live
  · rw [hsame.opts, hsame.pending]
    exact h.counted
  · rw [hsame.opts, hsame.log]
    exact h.logged
  · rw [hsame.log]
    exact h.noGap

/-- **A careful step keeps the nonces an interval.** -/
theorem Regular.step (h : Regular first s) (hstep : Step sortSlice s a s')
    (hcareful : s.Careful a) : Regular first s' := by
  cases move_next hstep with
  | quiet _ _ _ hnonces | connect _ _ _ _ hnonces | connected _ _ _ hnonces | switch _ _ _ hnonces
  | close _ _ hnonces => exact h.of_sameNonces hnonces
  | handOut =>
    obtain ⟨hcounter, hbound⟩ := hcareful.1 rfl
    exact h.handOut hcounter hbound
  | @submit i o err ho hheld =>
    cases err with
    | none => exact h.submit ho hheld
    | some err => exact h.giveUp ho hheld (hcareful.2 i rfl o ho) err

/-! ## Runs -/

/-- **Nonces are unique and without gaps in every run of careful steps**: whatever goroutines get
options, submit, wait, synchronize, switch, connect and close, a nonce is handed out only while the
counter is the pending nonce of the node plus the number of nonces that are held, and a submission
fails only for the highest nonce. The run starts with any client and any pending nonce. -/
theorem nonces_in_order {bc : BaseClient} {pending : ℕ} {l : List (Action × World)}
    (h : Path (Step sortSlice) (World.new bc pending) l)
    (hcareful : StepsMeet Careful (World.new bc pending) l) :
    StatesMeet InOrder (World.new bc pending) l := by
  have hall := Path.invariant_of_steps (P := Regular pending) (G := Careful)
    (fun s a s' hs hg hstep => hs.step hstep hg) (regular_new bc pending) h hcareful
  exact hall.mono fun s hs => hs.inOrder

/-- A client with a key and one endpoint, before it connects. -/
def unconnected : World :=
  World.new (newBaseClient ⟨text "https://a", [], 8453, none⟩ true) 0

/-- The client connects, with the pending nonce zero, and then takes the steps. -/
def connectThen (steps : List Action) : List (Action × World) :=
  trace (World.next fun _ l => l) unconnected
    ([.connect 0 fun _ => ⟨.ok (.ok 8453), 0, 1000⟩, .askNonce none, .writeNonce] ++ steps)

/-- A submission fails while no other nonce is held, and the counter is synchronized after it. -/
def syncAfterFailure : List (Action × World) :=
  connectThen [.getTransactOpts, .gasPrice 0 (.ok 1), .submit 0 (some (text "replaced")),
    .syncNonce, .synced 0 none, .writeSynced 0, .getTransactOpts, .gasPrice 0 (.ok 1),
    .submit 1 none]

/-- The nonce that was given up is handed out again and submitted. -/
theorem nonces_in_order_synced :
    StepsMeet Careful unconnected syncAfterFailure ∧
      StatesMeet InOrder unconnected syncAfterFailure ∧
      (endState unconnected syncAfterFailure).log = [⟨0, 0, true⟩] := by
  have hpath : Path (Step fun _ l => l) unconnected syncAfterFailure := trace_path ..
  have hcareful : StepsMeet Careful unconnected syncAfterFailure := by decide
  exact ⟨hcareful, nonces_in_order hpath hcareful, by decide⟩

/-- A submission fails, and the next nonce is submitted. -/
def failedSubmission : List (Action × World) :=
  connectThen [.getTransactOpts, .gasPrice 0 (.ok 1), .submit 0 (some (text "replaced")),
    .getTransactOpts, .gasPrice 0 (.ok 1), .submit 1 none]

/-- The counter is synchronized while a nonce is held. -/
def syncWhileHeld : List (Action × World) :=
  connectThen [.getTransactOpts, .gasPrice 0 (.ok 1), .syncNonce, .synced 0 none, .writeSynced 0,
    .getTransactOpts, .gasPrice 0 (.ok 1), .submit 0 none, .submit 1 none]

/-- **A failed submission leaves a gap, and a synchronization a duplicate.** In the first run a
transaction is submitted with nonce 1 while the pending nonce of the node is 0, and the only nonce
that was handed out earlier was given up. In the second run two transactions have nonce 0. -/
theorem gap_and_duplicate :
    Path (Step fun _ l => l) unconnected failedSubmission ∧
      (endState unconnected failedSubmission).log = [⟨1, 0, true⟩] ∧
      ¬ StatesMeet InOrder unconnected failedSubmission ∧
      Path (Step fun _ l => l) unconnected syncWhileHeld ∧
      (endState unconnected syncWhileHeld).log.map nonce = [0, 0] ∧
      ¬ StatesMeet InOrder unconnected syncWhileHeld := by
  have hgap : (endState unconnected failedSubmission).log = [⟨1, 0, true⟩] := by decide
  have hduplicate : (endState unconnected syncWhileHeld).log.map nonce = [0, 0] := by
    decide
  refine ⟨trace_path .., hgap, ?_, trace_path .., hduplicate, ?_⟩
  · intro hall
    have hnoGap := hall.endState.noGap ⟨1, 0, true⟩ (by simp [hgap]) rfl
    exact absurd hnoGap (by decide)
  · intro hall
    have hunique := hall.endState.unique
    exact absurd hunique (by decide)

end World

end Moltbunker.Payment.BaseClient
