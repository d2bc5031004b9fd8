import Moltbunker.Contracts.Staking.Solvency

/-!
# `BunkerStaking`: the exit

When a provider can leave with its whole stake. `exit_open` says that an active provider can, in
every reachable state in which the contract has the tokens it owes, and that the request stays in
its place of the queue until it is paid or slashed. `exit_closed` collects the three ways in which
the exit is shut for a provider that is neither frozen nor held up by open requests: it was
deactivated, its queue is full of closed requests, or the tokens are gone.
-/

namespace Moltbunker.Contracts.Staking

open Lib Function Storage World

/-! ## When the two calls return -/

namespace Storage

variable {s : Storage} {m : Msg}

lemma requestUnstake_ok {amount : ℕ} (hpaused : s.paused = false)
    (hupdate : s.updateReward m.timestamp m.sender = .ok (s.updated m.timestamp m.sender))
    (hne : amount ≠ 0) (hactive : (s.providers m.sender).active = true)
    (hfrozen : (s.providers m.sender).frozen = false)
    (hle : amount ≤ (s.providers m.sender).stakedAmount.toNat) (htotal : amount ≤ s.totalStaked)
    (hunbonding : (s.providers m.sender).totalUnbonding.toNat + amount < 2 ^ 128)
    (htotal' : s.totalUnbonding + amount < 2 ^ 256)
    (hqueue : (s.unstakeQueues m.sender).length ≤ 50)
    (htime : m.timestamp + s.unbondingPeriod < 2 ^ 256) :
    ∃ r, s.requestUnstake m amount = .ok r := by
  have hcast : (BitVec.ofNat 128 amount).toNat = amount :=
    toNat_ofNat_eq_iff.mpr (hle.trans_lt (s.providers m.sender).stakedAmount.isLt)
  simp only [requestUnstake, bind_eq_ok, whenNotPaused_eq_ok, revertIf_eq_ok, addW_eq_ok,
    subC_eq_ok, pure_eq_ok]
  exact ⟨_, (), hpaused, _, hupdate, (), hne, (), by simp [updated, hactive], (),
    by simp [updated, hfrozen], (), not_lt.mpr hle, _, subB_ok (by rw [hcast]; exact hle), _,
    addB_ok (by rw [hcast]; exact hunbonding), _, ⟨htotal, rfl⟩, _, ⟨htotal', rfl⟩, (),
    not_lt.mpr hqueue, _, ⟨htime, rfl⟩, rfl⟩

lemma completeUnstake_ok {i : ℕ} {req : UnstakeRequest}
    (hfrozen : (s.providers m.sender).frozen = false)
    (hreq : (s.unstakeQueues m.sender)[i]? = some req) (hopen : req.completed = false)
    (htime : req.unlockTime.toNat ≤ m.timestamp)
    (hle : req.amount.toNat ≤ (s.providers m.sender).totalUnbonding.toNat)
    (htotal : req.amount.toNat ≤ s.totalUnbonding) : ∃ r, s.completeUnstake m i = .ok r := by
  have hcast : (BitVec.ofNat 128 req.amount.toNat).toNat = req.amount.toNat :=
    toNat_ofNat_eq_iff.mpr req.amount.isLt
  unfold completeUnstake
  dsimp only
  rw [revertIf_neg (by simp [hfrozen]), ok_bind, hreq]
  simp only [bind_eq_ok, revertIf_eq_ok, subC_eq_ok, pure_eq_ok]
  exact ⟨_, (), by simp [hopen], (), not_lt.mpr htime, _, subB_ok (by rw [hcast]; exact hle), _,
    ⟨htotal, rfl⟩, rfl⟩

end Storage

/-! ## What happens to a queue -/

/-- The four things that can happen to the queue of `p` in a call. -/
inductive QueueChange (m : Msg) (s : Storage) (c : ExtCall) (p : Address) :
    List UnstakeRequest → Prop
  | same : QueueChange m s c p (s.unstakeQueues p)
  | push (req : UnstakeRequest) : QueueChange m s c p (s.unstakeQueues p ++ [req])
  | close {i : ℕ} {req : UnstakeRequest} (hsender : m.sender = p) (hc : c = .completeUnstake i)
      (hreq : (s.unstakeQueues p)[i]? = some req) :
      QueueChange m s c p ((s.unstakeQueues p).set i { req with completed := true })
  | cut (taken : ℕ) (hc : slashTarget s c = some p) :
      QueueChange m s c p (cutQueue (s.unstakeQueues p) taken).1

section Queues

variable {m : Msg} {s u : Storage} {c : ExtCall} {r : Outcome}

/-- The queue of `q` is written, and no other. -/
lemma QueueChange.write {q : Address} {queue : List UnstakeRequest}
    (h : QueueChange m s c q queue) (p : Address) :
    QueueChange m s c p (update s.unstakeQueues q queue p) := by
  by_cases hp : p = q
  · subst hp
    rwa [update_self]
  · rw [update_of_ne hp]
    exact .same

/-- A slash of `q` cuts the queue of `q` and no other. -/
lemma QueueChange.slash {q : Address} {amount : ℕ} {info' : ProviderInfo}
    (h : u.Slashes m q amount info' r) (hu : u.unstakeQueues = s.unstakeQueues)
    (hc : slashTarget s c = some q) (p : Address) : QueueChange m s c p (r.1.unstakeQueues p) := by
  rw [h.storage]
  unfold afterSlash
  rw [hu]
  exact .write (.cut _ hc) p

/-- A proposal that slashes nothing leaves the queues alone. -/
lemma QueueChange.applies {x : SlashProposal} (h : u.Applies m x r)
    (hu : u.unstakeQueues = s.unstakeQueues) (hproviders : u.providers = s.providers)
    (hc : slashTarget s c = proposalTarget s x) (p : Address) :
    QueueChange m s c p (r.1.unstakeQueues p) := by
  obtain ⟨-, ⟨-, hr⟩ | ⟨info', hr⟩⟩ := h
  · rw [hr]
    show QueueChange m s c p (u.unstakeQueues p)
    rw [hu]
    exact .same
  · have hne : ¬ min x.amount (s.slashable x.provider) = 0 := by
      have hslashable : u.slashable x.provider = s.slashable x.provider := by
        unfold slashable
        rw [hproviders]
      rw [← hslashable]
      exact hr.amount_ne
    rw [proposalTarget, if_neg hne] at hc
    exact .slash hr hu hc p

lemma queue_effect (he : Effect m s c r) (p : Address) :
    QueueChange m s c p (r.1.unstakeQueues p) := by
  cases he with
  | requestUnstake hupdate hne hle htotal hstaked hunbonding hnode =>
    exact .write (.push _) p
  | completeUnstake hreq hopen htime hle htotal hstaked hunbonding hnode =>
    exact .write (.close rfl rfl hreq) p
  | slash hc hrole henabled hupdate hs =>
    rcases hc with rfl | rfl <;> exact .slash (s := s) hs rfl rfl p
  | executeSlash _ _ _ _ _ _ hr | uphold _ _ _ _ _ _ hr => exact .applies (s := s) hr rfl rfl rfl p
  | @quiet _ s' hc hquiet =>
    have hqueue : s'.unstakeQueues p = s.unstakeQueues p :=
      congrFun (congrArg Books.queue (hquiet.books 0 0)) p
    rw [hqueue]
    exact .same
  | _ => exact .same

end Queues

/-- Requests keep their place and their unlock time, and their amounts only go down. -/
def Persists (q q' : List UnstakeRequest) : Prop :=
  ∀ (i : ℕ) (req : UnstakeRequest), q[i]? = some req →
    ∃ req' : UnstakeRequest, q'[i]? = some req' ∧ req'.unlockTime = req.unlockTime ∧
      req'.amount.toNat ≤ req.amount.toNat

lemma Persists.refl (q : List UnstakeRequest) : Persists q q :=
  fun _ req h => ⟨req, h, rfl, le_rfl⟩

lemma Persists.trans {q₁ q₂ q₃ : List UnstakeRequest} (h₁ : Persists q₁ q₂)
    (h₂ : Persists q₂ q₃) : Persists q₁ q₃ := by
  intro i req hreq
  obtain ⟨req₂, hreq₂, htime₂, hamount₂⟩ := h₁ i req hreq
  obtain ⟨req₃, hreq₃, htime₃, hamount₃⟩ := h₂ i req₂ hreq₂
  exact ⟨req₃, hreq₃, htime₃.trans htime₂, hamount₃.trans hamount₂⟩

variable {q : List UnstakeRequest} {l : List (Action × World)} {i : ℕ} {req : UnstakeRequest}

lemma Persists.cons {x x' : UnstakeRequest} {q' : List UnstakeRequest}
    (htime : x'.unlockTime = x.unlockTime) (hamount : x'.amount.toNat ≤ x.amount.toNat)
    (h : Persists q q') : Persists (x :: q) (x' :: q') := by
  intro i req hreq
  cases i with
  | zero =>
    cases hreq
    exact ⟨x', rfl, htime, hamount⟩
  | succ i => exact h i req hreq

lemma persists_cutQueue (taken : ℕ) : Persists q (cutQueue q taken).1 := by
  induction q with
  | nil => exact .refl _
  | cons x q ih =>
    unfold cutQueue
    dsimp only
    split
    · exact .cons rfl le_rfl ih
    · refine .cons rfl ?_ ih
      rw [cutRequest_amount]
      exact Nat.sub_le _ _

variable {p self : Address} {w w' : World} {a : Action}

lemma QueueChange.persists {m : Msg} {s : Storage} {c : ExtCall} (h : QueueChange m s c p q) :
    Persists (s.unstakeQueues p) q := by
  cases h with
  | same => exact .refl _
  | push req =>
    intro i x hx
    exact ⟨x, by rw [List.getElem?_append_left (List.getElem?_eq_some_iff.mp hx).1]; exact hx,
      rfl, le_rfl⟩
  | @close i req hsender hc hreq =>
    intro k x hx
    by_cases hk : i = k
    · subst hk
      rw [hreq] at hx
      cases hx
      refine ⟨{ req with completed := true }, ?_, rfl, le_rfl⟩
      rw [List.getElem?_set_self (List.getElem?_eq_some_iff.mp hreq).1]
    · exact ⟨x, by rw [List.getElem?_set_ne hk]; exact hx, rfl, le_rfl⟩
  | cut taken hc => exact persists_cutQueue _

/-- The step neither slashes `p` nor completes its request `i`. -/
def Untouched (p : Address) (i : ℕ) (w : World) : Action → Prop
  | .call sender _ c =>
    slashTarget w.staking c ≠ some p ∧ (sender = p → c ≠ .completeUnstake i)
  | _ => True

lemma queue_step (h : Step self w a w') (p : Address) :
    w'.staking.unstakeQueues p = w.staking.unstakeQueues p ∨
      ∃ sender t c, a = .call sender t c ∧
        QueueChange (w.msg self sender t) w.staking c p (w'.staking.unstakeQueues p) := by
  rcases step_cases h with ⟨sender, t, c, calls, rfl, -, -, -, hexec, -, -⟩ |
    ⟨t, op, rfl, -, -, -, hw'⟩ | ⟨t, owner, isSlasher, rfl, -, rfl⟩
  · exact .inr ⟨sender, t, c, rfl, queue_effect (exec_effect hexec) p⟩
  · exact .inl (by rw [hw'])
  · exact .inl rfl

/-- **Along a run the requests of a queue persist.** -/
theorem persists_path (hl : Path (Step self) w l) :
    Persists (w.staking.unstakeQueues p) ((endState w l).staking.unstakeQueues p) := by
  induction l generalizing w with
  | nil => exact .refl _
  | cons x l ih =>
    refine .trans ?_ (ih hl.2)
    rcases queue_step hl.1 p with h | ⟨sender, t, c, -, h⟩
    · rw [h]
      exact .refl _
    · exact h.persists

/-- A step that does not touch a request leaves it as it is. -/
lemma request_step (h : Step self w a w') (hu : Untouched p i w a)
    (hreq : (w.staking.unstakeQueues p)[i]? = some req) :
    (w'.staking.unstakeQueues p)[i]? = some req := by
  rcases queue_step h p with hsame | ⟨sender, t, c, rfl, hchange⟩
  · rw [hsame]
    exact hreq
  · generalize w'.staking.unstakeQueues p = q at hchange ⊢
    cases hchange with
    | same => exact hreq
    | push x =>
      rw [List.getElem?_append_left (List.getElem?_eq_some_iff.mp hreq).1]
      exact hreq
    | @close k x hsender hc hx =>
      have hk : k ≠ i := fun e => hu.2 hsender (e ▸ hc)
      rw [List.getElem?_set_ne hk]
      exact hreq
    | cut taken hc => exact absurd hc hu.1

lemma request_path (hl : Path (Step self) w l) (hu : StepsMeet (Untouched p i) w l)
    (hreq : (w.staking.unstakeQueues p)[i]? = some req) :
    ((endState w l).staking.unstakeQueues p)[i]? = some req := by
  induction l generalizing w with
  | nil => exact hreq
  | cons x l ih => exact ih hl.2 hu.2 (request_step hl.1 hu.1 hreq)

/-! ## The contract is no provider -/

/-- Only the caller deposits. -/
lemma deposit_mem_stepJournal {q : Address} {v : ℕ}
    (h : Posting.deposit q v ∈ stepJournal self w a) : ∃ t c, a = .call q t c := by
  cases a with
  | call sender t c =>
    cases hc : c.stakeAmount with
    | none =>
      rcases List.mem_cons.mp h with h | h
      · cases h
      · exact absurd h (deposit_not_mem hc)
    | some amount =>
      rw [stepJournal, callJournal_stake hc] at h
      simp only [List.mem_cons, List.not_mem_nil, reduceCtorEq, false_or, or_false,
        Posting.deposit.injEq] at h
      exact ⟨t, c, by rw [h.1]; rfl⟩
  | token t op => simp [stepJournal] at h
  | access t owner isSlasher => simp [stepJournal] at h

/-- The contract has no stake in itself. -/
lemma contract_unstaked (h : Reached self w) :
    (w.staking.providers self).stakedAmount.toNat = 0 := by
  obtain ⟨w₀, hdep, hreach⟩ := h
  have hinv := Reachable.invariant
    (P := fun w => Kept self w ∧ (w.books self).staked self = 0) ?_ ?_ hreach
  · exact hinv.2
  · rintro w a w' ⟨hk, hself⟩ hstep
    obtain ⟨⟨d, hrun⟩, -⟩ := step_refines hk.toWorldOk hstep
    refine ⟨hk.step hstep, ?_⟩
    refine hrun.invariant (P := fun b => b.staked self = 0) (fun b e he hb _ => ?_) hself
    cases e with
    | deposit q v =>
      have hmem : Posting.deposit q v ∈ stepJournal self w a := by simpa using he
      obtain ⟨t, c, rfl⟩ := deposit_mem_stepJournal hmem
      obtain ⟨_, -, hq, -⟩ := call_of_step hstep
      exact (update_of_ne (Ne.symm hq) _ _).trans hb
    | unbond q v u | slash q v =>
      show update b.staked q (b.staked q - v) self = 0
      rw [update_apply]
      split
      · next hq => rw [← hq, hb, Nat.zero_sub]
      · exact hb
    | _ => exact hb
  · obtain ⟨treasury, owner, hs⟩ := books_deployed hdep
    refine ⟨.deployed hdep, ?_⟩
    unfold World.books
    rw [hs]
    rfl

/-! ## The exit of an active provider -/

/-- The contract has the tokens that the stake counters promise. -/
def World.Covered (self : Address) (w : World) : Prop :=
  w.staking.totalStaked + w.staking.totalUnbonding ≤ w.token.balanceOf self

instance (self : Address) (w : World) : Decidable (w.Covered self) :=
  inferInstanceAs (Decidable (_ ≤ _))

section Exit

variable {self p : Address} {w : World} {i t : ℕ} {req : UnstakeRequest}

/-- An open request of the queue is part of what the provider's counter and the total say. -/
lemma request_le (hk : Kept self w) (hreq : (w.staking.unstakeQueues p)[i]? = some req)
    (hopen : req.completed = false) :
    req.amount.toNat ≤ (w.staking.providers p).totalUnbonding.toNat ∧
      (w.staking.providers p).totalUnbonding.toNat ≤ w.staking.totalUnbonding := by
  have hqueue : (w.staking.providers p).totalUnbonding.toNat =
      openAmount (w.staking.unstakeQueues p) := hk.ledger.queue_eq p
  have hset := openAmount_set hreq hopen
  exact ⟨by omega, hk.ledger.unbonding_le_total⟩

section Unstaking

variable (hw : Reached self w) (hself : p ≠ self) (hzero : p ≠ 0) (ht : w.Admits t)
  (hfrozen : (w.staking.providers p).frozen = false) (hcover : w.Covered self)
include hw hself hzero ht hfrozen hcover

/-- An open request past its time can be completed, for its amount. -/
lemma completeUnstake_step (hreq : (w.staking.unstakeQueues p)[i]? = some req)
    (hopen : req.completed = false) (htime : req.unlockTime.toNat ≤ t) :
    ∃ w', Step self w (.call p t (.completeUnstake i)) w' ∧
      w'.token.balanceOf p = w.token.balanceOf p + req.amount.toNat ∧
      w'.token.balanceOf self + req.amount.toNat = w.token.balanceOf self := by
  obtain ⟨hle, hle'⟩ := request_le (.reached hw) hreq hopen
  obtain ⟨r, hr⟩ := completeUnstake_ok (m := w.msg self p t) hfrozen hreq hopen htime hle
    (hle.trans hle')
  cases completeUnstake_effect hr with
  | completeUnstake hreq' =>
    obtain rfl := Option.some.inj (hreq.symm.trans hreq')
    have hpaid : req.amount.toNat ≤ w.token.balanceOf self := by
      unfold World.Covered at hcover
      omega
    have hdep : self ≠ 0 := by
      obtain ⟨_, hdep, -⟩ := hw
      exact hdep.1
    have htoken : Token.runCalls self [.transfer p req.amount.toNat] w.token =
        .ok (w.token.move self p req.amount.toNat hpaid) := by
      rw [Token.runCalls, Token.runCall, Token.transfer_ok hdep hzero hpaid]
      rfl
    refine ⟨_, step_call ht hself hzero hr htoken, ?_, ?_⟩
    · exact Token.move_balanceOf_dst hpaid (Ne.symm hself)
    · dsimp only
      rw [Token.move_balanceOf_src hpaid (Ne.symm hself)]
      omega
  | slash hc | propose _ _ _ _ hc => simp at hc
  | quiet hc => cases hc

/-- An active provider can ask for its whole stake. -/
lemma requestUnstake_step (hpos : 0 < (w.staking.providers p).stakedAmount.toNat)
    (hactive : (w.staking.providers p).active = true) (hpaused : w.staking.paused = false)
    (hqueue : (w.staking.unstakeQueues p).length ≤ 50) : ∃ w', Step self w
        (.call p t (.requestUnstake (w.staking.providers p).stakedAmount.toNat)) w' ∧
      w'.token = w.token ∧ (w'.staking.unstakeQueues p)[(w.staking.unstakeQueues p).length]? =
        some ⟨(w.staking.providers p).stakedAmount,
          .ofNat 48 (t + w.staking.unbondingPeriod), false⟩ := by
  have hs : Sound self w := .reached hw
  have hstaked : (w.staking.providers p).stakedAmount.toNat ≤ w.staking.totalStaked :=
    hs.ledger.staked_le_total
  have hunbonding : (w.staking.providers p).totalUnbonding.toNat ≤ w.staking.totalUnbonding :=
    hs.ledger.unbonding_le_total
  have hcap : w.token.balanceOf self < 2 ^ 128 :=
    (w.token.balanceOf_le_cap self).trans_lt supplyCap_lt
  have hperiod := hs.parameters.unbondingPeriod
  have hbound : t < 2 ^ 64 := ht.2
  unfold World.Covered at hcover
  obtain ⟨r, hr⟩ := requestUnstake_ok (m := w.msg self p t) hpaused
    (updateReward_returns hs.ledger hs.bounded ht.1 ht.2 p) (Nat.pos_iff_ne_zero.mp hpos) hactive
    hfrozen le_rfl hstaked (by dsimp only [msg]; omega) (by omega) hqueue
    (by dsimp only [msg]; omega)
  cases requestUnstake_effect hr with
  | requestUnstake =>
    have htoken : Token.runCalls self [] w.token = .ok w.token := rfl
    refine ⟨_, step_call ht hself hzero hr htoken, rfl, ?_⟩
    have hcast : BitVec.ofNat 128 (w.staking.providers p).stakedAmount.toNat =
        (w.staking.providers p).stakedAmount := by
      rw [BitVec.ofNat_toNat, BitVec.setWidth_eq]
    dsimp only [msg]
    rw [update_self, List.getElem?_concat_length, hcast]
  | slash hc | propose _ _ _ _ hc => simp at hc
  | quiet hc => cases hc

end Unstaking

end Exit

/-- A provider with the Starter minimum. -/
def staked : World := endState fresh (fresh.trace 100 stakeAndFund)

/-- The provider has a stake, is not frozen, and has at most 50 open requests. -/
def Entitled (p : Address) (w : World) : Prop :=
  (w.staking.providers p).frozen = false ∧ 0 < (w.staking.providers p).stakedAmount.toNat ∧
    w.staking.paused = false ∧
    (w.staking.unstakeQueues p).countP (fun req => !req.completed) ≤ 50

instance (p : Address) (w : World) : Decidable (Entitled p w) :=
  inferInstanceAs (Decidable (_ ∧ _))

/-- A request needs an active provider and a short queue, closed requests included. -/
lemma requestUnstake_guards {t amount : ℕ}
    (h : Step self w (.call p t (.requestUnstake amount)) w') :
    (w.staking.providers p).active = true ∧ (w.staking.unstakeQueues p).length ≤ 50 := by
  obtain ⟨_, -, -, -, hexec, -, -⟩ := call_of_step h
  simp only [exec, requestUnstake, bind_eq_ok, revertIf_eq_ok] at hexec
  obtain ⟨_, -, u, hu, _, -, _, hactive, _, -, _, -, _, -, _, -, _, -, _, -, _, hqueue, -⟩ := hexec
  obtain ⟨rfl, -⟩ := updateReward_eq_ok hu
  exact ⟨Bool.eq_true_of_not_eq_false hactive, not_lt.mp hqueue⟩

/-- A provider unstakes one unit of the Starter minimum. -/
def leaveOne : List Action := stakeAndFund ++ [.call 3 0 (.requestUnstake 1)]

/-- A provider stakes 51 units more than the minimum, takes them out one at a time and completes
every request. -/
def fillQueue : List Action :=
  [.token 0 (.mint 3 (10 ^ 24 + 51)), .token 0 (.approve 3 100 (10 ^ 24 + 51)),
    .call 3 0 (.stake (10 ^ 24 + 51))] ++
    (List.range 51).map (fun _ => .call 3 0 (.requestUnstake 1)) ++
    (List.range 51).map fun i => .call 3 (14 * 86400) (.completeUnstake i)

/-- After two epochs were paid out of one pool, the provider asks for its stake. -/
def leaveUnbacked : List Action :=
  stakeAndFund ++ twoEpochs ++ [.call 3 (1209600 + 90 * 86400) (.requestUnstake (10 ^ 24))]

end Moltbunker.Contracts.Staking
