import Moltbunker.Contracts.Staking.Rewards

/-!
# `BunkerStaking`: the internal slash

`_executeSlash` and its two loops: the reverse walk over the unbonding queue, which takes from the
newest open request first, and the walk over the vested rewards in `_forfeitUnvestedRewards`.

The walk over vested entries is shared with `claimVestedRewards`, so the loop is one definition
(`entryLoop`) applied to what each function does with one entry.
-/

namespace Moltbunker.Contracts.Staking

open Lib Function

namespace Storage

/-- Write to one provider's record. -/
def modifyProvider (s : Storage) (p : Address) (f : ProviderInfo → ProviderInfo) : Storage :=
  { s with providers := update s.providers p (f (s.providers p)) }

end Storage

/-! ## A loop over vested entries -/

/-- `for (i = 0; i < entries.length; i++)`: each entry is rewritten and adds to a `uint256`
counter. -/
def entryLoop (turn : VestedReward → Exec (VestedReward × ℕ)) :
    List VestedReward → ℕ → Exec (List VestedReward × ℕ)
  | [], acc => return ([], acc)
  | entry :: rest, acc => do
      let (entry', gain) ← turn entry
      let acc' ← addW 256 acc gain
      let (rest', total) ← entryLoop turn rest acc'
      return (entry' :: rest', total)

variable {turn : VestedReward → Exec (VestedReward × ℕ)} {next : VestedReward → VestedReward}
  {gain : VestedReward → ℕ} {entries : List VestedReward} {acc : ℕ} {req : UnstakeRequest}
  {c : SlashCounters}

/-- **What the loop returns.** If a turn that returns is the plain `next` with the plain `gain`,
the loop maps `next` over the entries and adds up the gains, and every turn returned. -/
theorem entryLoop_eq_ok {ok : VestedReward → Prop}
    (hturn : ∀ e r, turn e = .ok r → r = (next e, gain e) ∧ ok e) {r : List VestedReward × ℕ}
    (h : entryLoop turn entries acc = .ok r) :
    r = (entries.map next, acc + (entries.map gain).sum) ∧ ∀ e ∈ entries, ok e := by
  induction entries generalizing acc r with
  | nil =>
    rw [entryLoop, pure_eq_ok] at h
    exact ⟨by simp [← h], by simp⟩
  | cons e rest ih =>
    simp only [entryLoop, bind_eq_ok, addW_eq_ok] at h
    obtain ⟨x, hx, acc', ⟨-, rfl⟩, y, hy, hr⟩ := h
    obtain ⟨rfl, hok⟩ := hturn e x hx
    obtain ⟨rfl, hrest⟩ := ih hy
    refine ⟨?_, ?_⟩
    · rw [← pure_eq_ok.mp hr]
      simp [add_assoc]
    · rintro e' he'
      rcases List.mem_cons.mp he' with rfl | he'
      · exact hok
      · exact hrest e' he'

/-- The loop returns when every turn does and the counter does not overflow. -/
lemma entryLoop_ok (hturn : ∀ e ∈ entries, turn e = .ok (next e, gain e))
    (hsum : acc + (entries.map gain).sum < 2 ^ 256) :
    entryLoop turn entries acc = .ok (entries.map next, acc + (entries.map gain).sum) := by
  induction entries generalizing acc with
  | nil => simp [entryLoop]
  | cons e rest ih =>
    simp only [List.map_cons, List.sum_cons] at hsum ⊢
    have hadd : (addW 256 acc (gain e) : Exec ℕ) = .ok (acc + gain e) :=
      addW_eq_ok.mpr ⟨by omega, rfl⟩
    have hrest := @ih (acc + gain e)
      (fun e' he' => hturn e' (List.mem_cons_of_mem e he')) (by omega)
    rw [entryLoop, hturn e List.mem_cons_self, ok_bind]
    simp only [hadd, ok_bind, hrest, pure_eq]
    rw [add_assoc]

namespace Storage

/-! ## Forfeiture -/

/-- One turn of `_forfeitUnvestedRewards`. -/
def forfeitEntry (s : Storage) (t : ℕ) (entry : VestedReward) : Exec (VestedReward × ℕ) := do
  let vested ← s.vestedAmount t entry
  let unvested ← subC entry.totalAmount.toNat vested
  if unvested > 0 then
    return ({ entry with releasedAmount := entry.totalAmount }, unvested)
  else
    return (entry, 0)

/-- `_forfeitUnvestedRewards(provider)`: the new storage and the amount forfeited. -/
def forfeitUnvestedRewards (s : Storage) (t : ℕ) (provider : Address) : Exec (Storage × ℕ) := do
  let (entries, forfeited) ← entryLoop (s.forfeitEntry t) (s.vestedRewards provider) 0
  return ({ s with vestedRewards := update s.vestedRewards provider entries }, forfeited)

end Storage

/-- The unvested part of an entry. -/
def unvestedValue (period t : ℕ) (entry : VestedReward) : ℕ :=
  entry.totalAmount.toNat - vestedValue period t entry

/-- An entry after a forfeiture: an entry with an unvested part is marked as fully released. -/
def forfeitedEntry (period t : ℕ) (entry : VestedReward) : VestedReward :=
  if unvestedValue period t entry > 0 then { entry with releasedAmount := entry.totalAmount }
  else entry

namespace Storage

variable {s : Storage} {t : ℕ} {entry : VestedReward}

lemma forfeitEntry_eq_ok {r : VestedReward × ℕ} (h : s.forfeitEntry t entry = .ok r) :
    r = (forfeitedEntry s.vestingPeriod t entry, unvestedValue s.vestingPeriod t entry) ∧ True := by
  unfold forfeitEntry at h
  simp only [bind_eq_ok] at h
  obtain ⟨vested, hvested, unvested, hsub, h⟩ := h
  obtain rfl := vestedAmount_eq_ok hvested
  obtain ⟨-, rfl⟩ := subC_eq_ok.mp hsub
  refine ⟨?_, trivial⟩
  unfold forfeitedEntry unvestedValue
  split at h
  · next hpos =>
    rw [if_pos hpos]
    exact (pure_eq_ok.mp h).symm
  · next hpos =>
    rw [if_neg hpos, ← pure_eq_ok.mp h, Nat.eq_zero_of_not_pos hpos]

lemma forfeitEntry_ok (h : s.vestedAmount t entry = .ok (vestedValue s.vestingPeriod t entry)) :
    s.forfeitEntry t entry =
      .ok (forfeitedEntry s.vestingPeriod t entry, unvestedValue s.vestingPeriod t entry) := by
  have hsub : (subC entry.totalAmount.toNat (vestedValue s.vestingPeriod t entry) : Exec ℕ) =
      .ok (unvestedValue s.vestingPeriod t entry) :=
    subC_ok (vestedValue_le_total _ _ _)
  unfold forfeitEntry forfeitedEntry
  rw [h, ok_bind, hsub, ok_bind]
  by_cases hpos : unvestedValue s.vestingPeriod t entry > 0
  · rw [if_pos hpos, if_pos hpos]
    rfl
  · rw [if_neg hpos, if_neg hpos, Nat.eq_zero_of_not_pos hpos]
    rfl

/-! ## Taking the slashed amount from stake and queue -/

/-- Step 1 of `_executeSlash`: take from the active stake. Returns what is left to take. -/
def slashActive (s : Storage) (provider : Address) (remaining : ℕ) : Exec (Storage × ℕ) := do
  let staked := (s.providers provider).stakedAmount
  if remaining > 0 ∧ staked.toNat > 0 then
    let fromActive := if remaining > staked.toNat then staked.toNat else remaining
    let stakedAmount ← subB staked (.ofNat 128 fromActive)
    let totalStaked ← subC s.totalStaked fromActive
    let remaining' ← subC remaining fromActive
    return ({ s.modifyProvider provider fun i => { i with stakedAmount := stakedAmount } with
      totalStaked := totalStaked }, remaining')
  else
    return (s, remaining)

end Storage

/-- The counters that the queue loop of `_executeSlash` keeps. -/
structure SlashCounters where
  /-- `info.totalUnbonding` -/
  infoUnbonding : BitVec 128
  /-- `totalUnbonding` -/
  totalUnbonding : ℕ
  remaining : ℕ

/-- One turn of the queue loop, on an open request. -/
def slashRequest (req : UnstakeRequest) (c : SlashCounters) :
    Exec (UnstakeRequest × SlashCounters) := do
  let fromReq := if c.remaining > req.amount.toNat then req.amount.toNat else c.remaining
  let amount ← subB req.amount (.ofNat 128 fromReq)
  let infoUnbonding ← subB c.infoUnbonding (.ofNat 128 fromReq)
  let totalUnbonding ← subC c.totalUnbonding fromReq
  let remaining ← subC c.remaining fromReq
  let completed := if amount = 0 then true else req.completed
  return ({ req with amount := amount, completed := completed },
    ⟨infoUnbonding, totalUnbonding, remaining⟩)

/-- The queue loop of `_executeSlash`. It walks from the last index to the first, so the requests
behind the head of the list are done before the head. -/
def slashQueue : List UnstakeRequest → SlashCounters → Exec (List UnstakeRequest × SlashCounters)
  | [], c => return ([], c)
  | req :: newer, c => do
      let (newer', c') ← slashQueue newer c
      if c'.remaining = 0 ∨ req.completed = true then
        return (req :: newer', c')
      else
        let (req', c'') ← slashRequest req c'
        return (req' :: newer', c'')

namespace Storage

/-- Step 2 of `_executeSlash`: take what is left from the unbonding queue, newest first. -/
def slashUnbonding (s : Storage) (provider : Address) (remaining : ℕ) : Exec Storage := do
  if remaining > 0 then
    let (queue, c) ← slashQueue (s.unstakeQueues provider)
      ⟨(s.providers provider).totalUnbonding, s.totalUnbonding, remaining⟩
    return { s.modifyProvider provider fun i => { i with totalUnbonding := c.infoUnbonding } with
      unstakeQueues := update s.unstakeQueues provider queue
      totalUnbonding := c.totalUnbonding }
  else
    return s

/-- Deactivate the provider if its stake is below the Starter minimum. -/
def deactivateBelowMinimum (s : Storage) (provider : Address) : Storage :=
  if (s.providers provider).stakedAmount.toNat < s.starterMinStake ∧
      (s.providers provider).active = true then
    s.modifyProvider provider fun i => { i with active := false }
  else s

/-- The tokens a slash hands out: the burn, and the treasury's share unless it is zero. -/
def slashPayout (s : Storage) (totalSlashAmount burnBps : ℕ) : Exec (List TokenCall) := do
  let product ← mulW 256 totalSlashAmount burnBps
  let burnAmount ← divC product bpsDenominator
  let treasuryAmount ← subC totalSlashAmount burnAmount
  return .burn burnAmount ::
    (if treasuryAmount > 0 then [.transfer s.treasury treasuryAmount] else [])

/-- `_executeSlash(provider, amount, burnBps)` -/
def internalExecuteSlash (s : Storage) (m : Msg) (provider : Address) (amount burnBps : ℕ) :
    Exec Outcome := do
  revertIf (amount = 0) .zeroAmount
  let slashableTotal ← addW 256 (s.providers provider).stakedAmount.toNat
    (s.providers provider).totalUnbonding.toNat
  revertIf (amount > slashableTotal) (.insufficientSlashableBalance amount slashableTotal)
  let (s₁, remaining) ← s.slashActive provider amount
  let s₂ ← s₁.slashUnbonding provider remaining
  let (s₃, forfeited) ← s₂.forfeitUnvestedRewards m.timestamp provider
  let free ← subC m.balance s₃.totalStaked
  let availableForForfeit ← subC free s₃.totalUnbonding
  let forfeitedAmount := if forfeited > availableForForfeit then availableForForfeit else forfeited
  let s₄ := s₃.deactivateBelowMinimum provider
  let totalSlashAmount ← addW 256 amount forfeitedAmount
  let calls ← s₄.slashPayout totalSlashAmount burnBps
  return (s₄, calls)

end Storage

/-! ## The slash in plain numbers -/

/-- What a queue still owes: the amounts of its open requests. -/
def openAmount (queue : List UnstakeRequest) : ℕ :=
  (queue.map fun req => if req.completed = true then 0 else req.amount.toNat).sum

@[simp] lemma openAmount_nil : openAmount [] = 0 := rfl

@[simp] lemma openAmount_cons (req : UnstakeRequest) (queue : List UnstakeRequest) :
    openAmount (req :: queue) =
      (if req.completed = true then 0 else req.amount.toNat) + openAmount queue := by
  simp [openAmount]

@[simp] lemma openAmount_append (q₁ q₂ : List UnstakeRequest) :
    openAmount (q₁ ++ q₂) = openAmount q₁ + openAmount q₂ := by
  simp [openAmount]

/-- A request after `taken` was slashed from it. -/
def cutRequest (req : UnstakeRequest) (taken : ℕ) : UnstakeRequest :=
  let amount := BitVec.ofNat 128 (req.amount.toNat - taken)
  { req with
    amount := amount
    completed := if amount = 0 then true else req.completed }

/-- The queue loop in plain numbers: the queue after `remaining` was slashed from it, newest
request first, and what could not be taken. -/
def cutQueue : List UnstakeRequest → ℕ → List UnstakeRequest × ℕ
  | [], remaining => ([], remaining)
  | req :: newer, remaining =>
    let (newer', remaining') := cutQueue newer remaining
    if remaining' = 0 ∨ req.completed = true then (req :: newer', remaining')
    else (cutRequest req (min remaining' req.amount.toNat) :: newer',
      remaining' - min remaining' req.amount.toNat)

lemma cutRequest_amount (req : UnstakeRequest) (taken : ℕ) :
    (cutRequest req taken).amount.toNat = req.amount.toNat - taken := by
  exact toNat_ofNat_eq_iff.mpr (by omega)

/-- A cut request owes what was not taken. -/
lemma openAmount_cutRequest {taken : ℕ} (hopen : req.completed ≠ true)
    (queue : List UnstakeRequest) :
    openAmount (cutRequest req taken :: queue) = req.amount.toNat - taken + openAmount queue := by
  have hamount := cutRequest_amount req taken
  rw [openAmount_cons, hamount]
  by_cases h₀ : (cutRequest req taken).amount = 0
  · have hzero : req.amount.toNat - taken = 0 := by rw [← hamount, h₀]; rfl
    rw [hzero, ite_self]
  · have hstill : (cutRequest req taken).completed = req.completed := if_neg h₀
    rw [hstill, if_neg hopen]

/-- **The loop takes exactly what it can.** What the queue owes goes down by the amount, and what
is left over is the part that exceeds it. -/
theorem cutQueue_spec (queue : List UnstakeRequest) (remaining : ℕ) :
    openAmount (cutQueue queue remaining).1 = openAmount queue - remaining ∧
      (cutQueue queue remaining).2 = remaining - openAmount queue := by
  induction queue with
  | nil => simp [cutQueue]
  | cons req newer ih =>
    obtain ⟨hopen, hrem⟩ := ih
    unfold cutQueue
    dsimp only
    split
    · next h =>
      rw [openAmount_cons, openAmount_cons, hopen]
      rcases h with h | h
      · rw [hrem] at h ⊢
        split <;> omega
      · rw [hrem, if_pos h]
        omega
    · next h =>
      have hc : req.completed ≠ true := fun e => h (.inr e)
      rw [openAmount_cutRequest hc, openAmount_cons, if_neg hc, hopen]
      omega

lemma cutQueue_zero {queue : List UnstakeRequest} : cutQueue queue 0 = (queue, 0) := by
  induction queue with
  | nil => rfl
  | cons req newer ih => simp [cutQueue, ih]

/-! ## What the slash did -/

lemma slashRequest_eq_ok {r : UnstakeRequest × SlashCounters} (h : slashRequest req c = .ok r) :
    r.1 = cutRequest req (min c.remaining req.amount.toNat) ∧
      r.2.remaining = c.remaining - min c.remaining req.amount.toNat ∧
      r.2.infoUnbonding.toNat + min c.remaining req.amount.toNat = c.infoUnbonding.toNat ∧
      r.2.totalUnbonding + min c.remaining req.amount.toNat = c.totalUnbonding := by
  simp only [slashRequest, ite_gt_eq_min, bind_eq_ok, subC_eq_ok, pure_eq_ok] at h
  obtain ⟨amount, hamount, info, hinfo, _, ⟨htotal, rfl⟩, _, ⟨-, rfl⟩, rfl⟩ := h
  obtain ⟨-, -, hamount⟩ := subB_eq_ok hamount
  obtain ⟨-, hinfo', hinfo⟩ := subB_eq_ok hinfo
  rw [toNat_ofNat_min] at hamount hinfo hinfo'
  have heq : amount = BitVec.ofNat 128 (req.amount.toNat - min c.remaining req.amount.toNat) := by
    rw [← hamount, BitVec.ofNat_toNat, BitVec.setWidth_eq]
  refine ⟨?_, rfl, ?_, ?_⟩
  · subst heq
    rfl
  · dsimp only
    omega
  · dsimp only
    omega

/-- **What the queue loop did.** The queue is cut as in plain numbers, and both unbonding
counters went down by what was taken. -/
theorem slashQueue_eq_ok {queue : List UnstakeRequest} {r : List UnstakeRequest × SlashCounters}
    (h : slashQueue queue c = .ok r) :
    r.1 = (cutQueue queue c.remaining).1 ∧ r.2.remaining = (cutQueue queue c.remaining).2 ∧
      r.2.infoUnbonding.toNat + c.remaining = c.infoUnbonding.toNat + r.2.remaining ∧
      r.2.totalUnbonding + c.remaining = c.totalUnbonding + r.2.remaining := by
  induction queue generalizing r with
  | nil =>
    rw [slashQueue, pure_eq_ok] at h
    subst h
    exact ⟨rfl, rfl, rfl, rfl⟩
  | cons req newer ih =>
    simp only [slashQueue, bind_eq_ok] at h
    obtain ⟨x, hx, h⟩ := h
    obtain ⟨hq, hrem, hinfo, htotal⟩ := ih hx
    unfold cutQueue
    dsimp only
    rw [← hq, ← hrem]
    split at h
    · next hskip =>
      rw [if_pos hskip, ← pure_eq_ok.mp h]
      exact ⟨rfl, rfl, hinfo, htotal⟩
    · next hskip =>
      rw [bind_eq_ok] at h
      obtain ⟨y, hy, h⟩ := h
      obtain ⟨hreq, hrem', hinfo', htotal'⟩ := slashRequest_eq_ok hy
      rw [if_neg hskip, ← pure_eq_ok.mp h]
      dsimp only
      refine ⟨by rw [hreq], hrem', ?_, ?_⟩
      · omega
      · omega

/-- **The queue loop returns** when the two counters cover what the queue owes. -/
theorem slashQueue_ok {queue : List UnstakeRequest} {c : SlashCounters}
    (hinfo : openAmount queue ≤ c.infoUnbonding.toNat)
    (htotal : openAmount queue ≤ c.totalUnbonding) : ∃ r, slashQueue queue c = .ok r := by
  induction queue with
  | nil => exact ⟨_, rfl⟩
  | cons req newer ih =>
    rw [openAmount_cons] at hinfo htotal
    obtain ⟨x, hx⟩ := ih (by omega) (by omega)
    obtain ⟨-, hrem, hinfo', htotal'⟩ := slashQueue_eq_ok hx
    rw [(cutQueue_spec newer c.remaining).2] at hrem
    rw [slashQueue, hx, ok_bind]
    dsimp only
    by_cases hskip : x.2.remaining = 0 ∨ req.completed = true
    · rw [if_pos hskip]
      exact ⟨_, rfl⟩
    · have hc : req.completed ≠ true := fun e => hskip (.inr e)
      rw [if_neg hc] at hinfo htotal
      have hcast := toNat_ofNat_min x.2.remaining req.amount
      rw [if_neg hskip]
      unfold slashRequest
      dsimp only
      rw [ite_gt_eq_min, subB_ok (by rw [hcast]; omega), ok_bind, subB_ok (by rw [hcast]; omega),
        ok_bind, subC_ok (by omega), ok_bind, subC_ok (min_le_left _ _), ok_bind]
      exact ⟨_, rfl⟩

namespace Storage

/-- The unvested rewards of a provider at time `t`. -/
def unvestedTotal (s : Storage) (t : ℕ) (p : Address) : ℕ :=
  ((s.vestedRewards p).map (unvestedValue s.vestingPeriod t)).sum

/-- The storage after `amount` was slashed from `p`, for the provider's new record: the stake pays
first, the queue pays the part that exceeds the stake, the unvested rewards are forfeited. -/
def afterSlash (s : Storage) (t : ℕ) (p : Address) (amount : ℕ) (info' : ProviderInfo) : Storage :=
  { s with
    providers := update s.providers p info'
    totalStaked := s.totalStaked - min amount (s.providers p).stakedAmount.toNat
    totalUnbonding := s.totalUnbonding -
      min (amount - (s.providers p).stakedAmount.toNat) (openAmount (s.unstakeQueues p))
    unstakeQueues := update s.unstakeQueues p
      (cutQueue (s.unstakeQueues p) (amount - (s.providers p).stakedAmount.toNat)).1
    vestedRewards := update s.vestedRewards p
      ((s.vestedRewards p).map (forfeitedEntry s.vestingPeriod t)) }

variable {s : Storage} {p : Address} {amount burnBps : ℕ}

variable {r : Storage × ℕ} {total : ℕ}

lemma slashActive_eq_ok (h : s.slashActive p amount = .ok r) :
    ∃ staked' : BitVec 128,
      staked'.toNat = (s.providers p).stakedAmount.toNat - amount ∧
      min amount (s.providers p).stakedAmount.toNat ≤ s.totalStaked ∧
      r = ({ s with
        providers := update s.providers p { s.providers p with stakedAmount := staked' }
        totalStaked := s.totalStaked - min amount (s.providers p).stakedAmount.toNat },
        amount - (s.providers p).stakedAmount.toNat) := by
  unfold slashActive at h
  dsimp only at h
  split at h
  · next hpos =>
    simp only [ite_gt_eq_min, bind_eq_ok, subC_eq_ok, pure_eq_ok] at h
    obtain ⟨staked', hstaked, _, ⟨htotal, rfl⟩, _, ⟨-, rfl⟩, rfl⟩ := h
    obtain ⟨-, -, hstaked⟩ := subB_eq_ok hstaked
    rw [toNat_ofNat_min] at hstaked
    refine ⟨staked', by omega, htotal, ?_⟩
    have hrest : amount - min amount (s.providers p).stakedAmount.toNat =
        amount - (s.providers p).stakedAmount.toNat := by omega
    rw [hrest]
    rfl
  · next hpos =>
    -- nothing is taken: no amount is left or there is no stake
    have hmin : min amount (s.providers p).stakedAmount.toNat = 0 := by omega
    have hrest : amount - (s.providers p).stakedAmount.toNat = amount := by omega
    refine ⟨(s.providers p).stakedAmount, by omega, by omega, ?_⟩
    rw [← pure_eq_ok.mp h, hmin, hrest]
    simp

lemma slashUnbonding_eq_ok {s' : Storage} (h : s.slashUnbonding p amount = .ok s') :
    ∃ unbonding' : BitVec 128,
      unbonding'.toNat + min amount (openAmount (s.unstakeQueues p)) =
        (s.providers p).totalUnbonding.toNat ∧
      min amount (openAmount (s.unstakeQueues p)) ≤ s.totalUnbonding ∧
      s' = { s with
        providers :=
          update s.providers p { s.providers p with totalUnbonding := unbonding' }
        totalUnbonding := s.totalUnbonding - min amount (openAmount (s.unstakeQueues p))
        unstakeQueues := update s.unstakeQueues p
          (cutQueue (s.unstakeQueues p) amount).1 } := by
  unfold slashUnbonding at h
  split at h
  · next hpos =>
    simp only [bind_eq_ok, pure_eq_ok] at h
    obtain ⟨⟨queue, c⟩, hqueue, rfl⟩ := h
    obtain ⟨hq, hrem, hinfo, htotal⟩ := slashQueue_eq_ok hqueue
    dsimp only at hq hrem hinfo htotal
    rw [(cutQueue_spec _ _).2] at hrem
    refine ⟨c.infoUnbonding, by omega, by omega, ?_⟩
    have htotal' : c.totalUnbonding =
        s.totalUnbonding - min amount (openAmount (s.unstakeQueues p)) := by omega
    rw [← hq, ← htotal']
    rfl
  · next hpos =>
    have h₀ : amount = 0 := by omega
    subst h₀
    refine ⟨(s.providers p).totalUnbonding, by omega, by omega, ?_⟩
    rw [← pure_eq_ok.mp h, cutQueue_zero, Nat.zero_min]
    simp

lemma forfeitUnvestedRewards_eq_ok {t : ℕ} (h : s.forfeitUnvestedRewards t p = .ok r) :
    r = ({ s with
      vestedRewards := update s.vestedRewards p
        ((s.vestedRewards p).map (forfeitedEntry s.vestingPeriod t)) }, s.unvestedTotal t p) := by
  simp only [forfeitUnvestedRewards, bind_eq_ok, pure_eq_ok] at h
  obtain ⟨x, hx, rfl⟩ := h
  obtain ⟨rfl, -⟩ := entryLoop_eq_ok (fun e r => forfeitEntry_eq_ok) hx
  simp [unvestedTotal]

lemma deactivateBelowMinimum_eq (s : Storage) (p : Address) :
    ∃ active' : Bool, s.deactivateBelowMinimum p =
      { s with
        providers := update s.providers p { s.providers p with active := active' } } := by
  unfold deactivateBelowMinimum
  split
  · exact ⟨false, rfl⟩
  · exact ⟨(s.providers p).active, by simp⟩

lemma deactivateBelowMinimum_treasury : (s.deactivateBelowMinimum p).treasury = s.treasury := by
  unfold deactivateBelowMinimum
  split <;> rfl

lemma slashPayout_eq_ok {calls : List TokenCall} (h : s.slashPayout total burnBps = .ok calls) :
    inflow calls = 0 ∧ outflow calls = total ∧
      ∀ holder v, TokenCall.transferFrom holder v ∉ calls := by
  simp only [slashPayout, bind_eq_ok, mulW_eq_ok, divC_eq_ok, subC_eq_ok, pure_eq_ok] at h
  obtain ⟨_, ⟨-, rfl⟩, _, ⟨-, rfl⟩, _, ⟨hle, rfl⟩, rfl⟩ := h
  split
  all_goals
    refine ⟨by simp [TokenCall.inflow], ?_, by simp⟩
    simp only [outflow_cons, TokenCall.outflow, outflow_nil]
    omega

/-- The tokens that are not owed to a stake or a request once `amount` was slashed from `p`: the
cap on what the slash may forfeit on top. -/
def availableForForfeit (s : Storage) (balance : ℕ) (p : Address) (amount : ℕ) : ℕ :=
  balance - (s.totalStaked - min amount (s.providers p).stakedAmount.toNat) -
    (s.totalUnbonding -
      min (amount - (s.providers p).stakedAmount.toNat) (openAmount (s.unstakeQueues p)))

/-- What a slash of `amount` hands out: the amount and the forfeited rewards, up to the cap. -/
def slashTotal (s : Storage) (m : Msg) (p : Address) (amount : ℕ) : ℕ :=
  amount + min (s.unvestedTotal m.timestamp p) (s.availableForForfeit m.balance p amount)

/-- What a returned `_executeSlash` did, for the provider's new record. -/
structure Slashes (s : Storage) (m : Msg) (p : Address) (amount : ℕ) (info' : ProviderInfo)
    (r : Outcome) : Prop where
  amount_ne : amount ≠ 0
  amount_le : amount ≤
    (s.providers p).stakedAmount.toNat + (s.providers p).totalUnbonding.toNat
  stakedAmount : info'.stakedAmount.toNat = (s.providers p).stakedAmount.toNat - amount
  totalUnbonding :
    info'.totalUnbonding.toNat +
      min (amount - (s.providers p).stakedAmount.toNat) (openAmount (s.unstakeQueues p)) =
        (s.providers p).totalUnbonding.toNat
  nodeId : info'.nodeId = (s.providers p).nodeId
  fromActive_le : min amount (s.providers p).stakedAmount.toNat ≤ s.totalStaked
  fromQueue_le :
    min (amount - (s.providers p).stakedAmount.toNat) (openAmount (s.unstakeQueues p)) ≤
      s.totalUnbonding
  locked_le : (s.afterSlash m.timestamp p amount info').totalStaked +
    (s.afterSlash m.timestamp p amount info').totalUnbonding ≤ m.balance
  storage : r.1 = s.afterSlash m.timestamp p amount info'
  inflow : inflow r.2 = 0
  outflow : outflow r.2 = s.slashTotal m p amount
  noPull : ∀ holder v, TokenCall.transferFrom holder v ∉ r.2

/-- **What the internal slash did.** -/
theorem internalExecuteSlash_eq_ok {m : Msg} {r : Outcome}
    (h : s.internalExecuteSlash m p amount burnBps = .ok r) :
    ∃ info', s.Slashes m p amount info' r := by
  simp only [internalExecuteSlash, bind_eq_ok, revertIf_eq_ok, addW_eq_ok, subC_eq_ok,
    pure_eq_ok] at h
  obtain ⟨_, hne, _, ⟨-, rfl⟩, _, hle, x, hx, s₂, h₂, y, hy, _, ⟨hfree, rfl⟩, _, ⟨hfree', rfl⟩,
    _, ⟨-, rfl⟩, calls, hcalls, rfl⟩ := h
  obtain ⟨staked', hstaked, hactive, rfl⟩ := slashActive_eq_ok hx
  obtain ⟨unbonding', hunbonding, hqueue, rfl⟩ := slashUnbonding_eq_ok h₂
  obtain rfl := forfeitUnvestedRewards_eq_ok hy
  dsimp only at hfree hfree' hunbonding hqueue hcalls
  rw [update_self] at hunbonding
  obtain ⟨active', hactive'⟩ := deactivateBelowMinimum_eq
    (s.afterSlash m.timestamp p amount { s.providers p with
      stakedAmount := staked'
      totalUnbonding := unbonding' }) p
  obtain ⟨hin, hout, hpull⟩ := slashPayout_eq_ok hcalls
  refine ⟨{ s.providers p with
      stakedAmount := staked'
      totalUnbonding := unbonding'
      active := active' }, hne, not_lt.mp hle, hstaked, hunbonding, rfl, hactive, hqueue, ?_, ?_,
    hin, ?_, hpull⟩
  · simp only [afterSlash]
    omega
  · simp only [afterSlash, update_self, update_idem] at hactive' ⊢
    exact hactive'
  · rw [hout]
    unfold slashTotal availableForForfeit unvestedTotal
    rw [ite_gt_eq_min]

/-! ## When the slash returns -/

lemma slashActive_ok (hstaked : (s.providers p).stakedAmount.toNat ≤ s.totalStaked) :
    ∃ r, s.slashActive p amount = .ok r := by
  unfold slashActive
  dsimp only
  by_cases hpos : amount > 0 ∧ (s.providers p).stakedAmount.toNat > 0
  · rw [if_pos hpos, ite_gt_eq_min, subB_ok (by rw [toNat_ofNat_min]; omega), ok_bind,
      subC_ok (by omega), ok_bind, subC_ok (min_le_left _ _), ok_bind]
    exact ⟨_, rfl⟩
  · rw [if_neg hpos]
    exact ⟨_, rfl⟩

lemma slashUnbonding_ok {s : Storage} {p : Address} (amount : ℕ)
    (hinfo : openAmount (s.unstakeQueues p) ≤ (s.providers p).totalUnbonding.toNat)
    (htotal : openAmount (s.unstakeQueues p) ≤ s.totalUnbonding) :
    ∃ s', s.slashUnbonding p amount = .ok s' := by
  unfold slashUnbonding
  by_cases hpos : amount > 0
  · obtain ⟨r, hr⟩ := @slashQueue_ok (s.unstakeQueues p)
      ⟨(s.providers p).totalUnbonding, s.totalUnbonding, amount⟩ hinfo htotal
    rw [if_pos hpos, hr, ok_bind]
    exact ⟨_, rfl⟩
  · rw [if_neg hpos]
    exact ⟨_, rfl⟩

lemma forfeitUnvestedRewards_ok {s : Storage} {t : ℕ} {p : Address} (ht : t < timestampBound)
    (hstart : ∀ e ∈ s.vestedRewards p, e.vestingStart.toNat ≤ t)
    (hsum : s.unvestedTotal t p < 2 ^ 256) : ∃ r, s.forfeitUnvestedRewards t p = .ok r := by
  have hturn : ∀ e ∈ s.vestedRewards p, s.forfeitEntry t e =
      .ok (forfeitedEntry s.vestingPeriod t e, unvestedValue s.vestingPeriod t e) :=
    fun e he => forfeitEntry_ok (vestedAmount_ok (hstart e he) ht)
  have hloop := entryLoop_ok hturn (by rw [Nat.zero_add]; exact hsum)
  unfold forfeitUnvestedRewards
  rw [hloop, ok_bind]
  exact ⟨_, rfl⟩

/-- The payout of a slash: the burn rounds down and the treasury gets the rest. -/
def payoutCalls (s : Storage) (total burnBps : ℕ) : List TokenCall :=
  .burn (total * burnBps / bpsDenominator) ::
    (if total - total * burnBps / bpsDenominator > 0 then
      [.transfer s.treasury (total - total * burnBps / bpsDenominator)] else [])

lemma slashPayout_ok {u : Storage} (htreasury : u.treasury = s.treasury)
    (hbps : burnBps ≤ bpsDenominator) (hmul : total * burnBps < 2 ^ 256) :
    u.slashPayout total burnBps = .ok (s.payoutCalls total burnBps) := by
  have hle : total * burnBps / bpsDenominator ≤ total :=
    Nat.div_le_of_le_mul (by rw [mul_comm bpsDenominator]; exact Nat.mul_le_mul_left _ hbps)
  simp only [slashPayout, bind_eq_ok, mulW_eq_ok, divC_eq_ok, subC_eq_ok, pure_eq_ok, htreasury]
  exact ⟨_, ⟨hmul, rfl⟩, _, ⟨by decide, rfl⟩, _, ⟨hle, rfl⟩, rfl⟩

/-- **When the internal slash returns, and what it hands out.** -/
theorem internalExecuteSlash_ok {m : Msg} {p : Address} {amount burnBps : ℕ}
    (hne : amount ≠ 0)
    (hle : amount ≤ (s.providers p).stakedAmount.toNat + (s.providers p).totalUnbonding.toNat)
    (hstaked : (s.providers p).stakedAmount.toNat ≤ s.totalStaked)
    (hqueue : openAmount (s.unstakeQueues p) = (s.providers p).totalUnbonding.toNat)
    (hunbonding : (s.providers p).totalUnbonding.toNat ≤ s.totalUnbonding)
    (hbalance : s.totalStaked + s.totalUnbonding ≤ m.balance) (hcap : m.balance < 2 ^ 128)
    (hbps : burnBps ≤ bpsDenominator) (ht : m.timestamp < timestampBound)
    (hstart : ∀ e ∈ s.vestedRewards p, e.vestingStart.toNat ≤ m.timestamp)
    (hsum : s.unvestedTotal m.timestamp p < 2 ^ 256) :
    ∃ s', s.internalExecuteSlash m p amount burnBps =
      .ok (s', s.payoutCalls (s.slashTotal m p amount) burnBps) := by
  obtain ⟨x, hx⟩ := slashActive_ok hstaked
  obtain ⟨staked', hstaked', -, hx'⟩ := slashActive_eq_ok hx
  obtain ⟨s₂, h₂⟩ := @slashUnbonding_ok x.1 p x.2 (by simp [hx', hqueue])
    (by simp only [hx']; omega)
  obtain ⟨unbonding', -, -, hs₂⟩ := slashUnbonding_eq_ok h₂
  obtain ⟨y, hy⟩ := @forfeitUnvestedRewards_ok s₂ m.timestamp p ht (by rwa [hs₂, hx'])
    (by rwa [hs₂, hx'])
  obtain rfl := forfeitUnvestedRewards_eq_ok hy
  subst hs₂ hx'
  -- the amounts in play are at most a few times the balance, far below the word size
  have hcover : s.totalStaked - min amount (s.providers p).stakedAmount.toNat ≤ m.balance := by
    omega
  have hcover' : s.totalUnbonding -
      min (amount - (s.providers p).stakedAmount.toNat) (openAmount (s.unstakeQueues p)) ≤
      m.balance - (s.totalStaked - min amount (s.providers p).stakedAmount.toNat) := by
    omega
  have htotal : s.slashTotal m p amount < 2 ^ 130 := by
    unfold slashTotal availableForForfeit
    omega
  have hmul : s.slashTotal m p amount * burnBps < 2 ^ 256 :=
    calc s.slashTotal m p amount * burnBps
        ≤ 2 ^ 130 * bpsDenominator := Nat.mul_le_mul htotal.le hbps
      _ < 2 ^ 256 := by unfold bpsDenominator; norm_num
  have hforfeit : amount + (if s.unvestedTotal m.timestamp p >
      s.availableForForfeit m.balance p amount then s.availableForForfeit m.balance p amount
      else s.unvestedTotal m.timestamp p) = s.slashTotal m p amount := by
    rw [ite_gt_eq_min]
    rfl
  simp only [update_self, update_idem] at h₂ hy
  simp only [internalExecuteSlash, bind_eq_ok, revertIf_eq_ok, addW_eq_ok, subC_eq_ok, pure_eq_ok]
  refine ⟨_, (), hne, _, ⟨by omega, rfl⟩, (), not_lt.mpr hle, _, hx, _, h₂, _, hy, _,
    ⟨hcover, rfl⟩, _, ⟨hcover', rfl⟩, _, ⟨?_, rfl⟩, s.payoutCalls (s.slashTotal m p amount) burnBps,
    ?_, rfl⟩
  · exact lt_of_eq_of_lt hforfeit (htotal.trans (by norm_num))
  · exact (congrArg (fun x => Storage.slashPayout _ x burnBps) hforfeit).trans
      (slashPayout_ok deactivateBelowMinimum_treasury hbps hmul)

end Storage

end Moltbunker.Contracts.Staking
