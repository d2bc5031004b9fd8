import Moltbunker.Lib.Path
import Moltbunker.Lib.PointUpdate
import Moltbunker.Lib.Text

/-!
# Prepaid credits

`MoltCreditManager` of `internal/payment/escrow.go`. The manager finds the account of a requester
in a map under its own lock; the balance is changed later, under the lock of the account.
`RefundAll` takes the account out of the map first and empties it after that. A call that has found
the account before may still change it then.

Accounts are pointers in Go: here a pointer is a place in the list of all accounts that were ever
made. Each call has two sections, and other calls may run in between: what is left of a call is a
`Task`. Beside the manager a `Bank` keeps what the calls have done, by requester. The times that are
kept with an account are not read, and are left out.

A deposit that lands on an account which was already emptied is lost: the account is in no map, and
nobody will refund it. `Detached` are these accounts.

* `Books.move` — the balances of all accounts of a requester, detached ones included, are
  what was deposited and not spent or refunded, whatever the calls do;
* `total_eq` — where these balances are;
* `honest_move_iff` — the step after which some of them are lost;
* `credits_conserved_iff` — the runs along which none are.
-/

namespace Moltbunker.Payment

open Lib Text Function

/-! ## Accounts -/

/-- `MoltCredit` -/
structure MoltCredit where
  requesterAddress : Text
  balance : ℤ
  totalDeposited : ℤ
  totalSpent : ℤ
  deriving DecidableEq

/-- `MoltCreditManager`, with the accounts that it has made. -/
structure MoltCreditManager where
  accounts : List MoltCredit
  credits : Text → Option ℕ

/-- `NewMoltCreditManager` -/
def newMoltCreditManager : MoltCreditManager := ⟨[], fun _ => none⟩

namespace MoltCreditManager

variable (m : MoltCreditManager)

variable (requesterAddress : Text)

/-- A new account goes into the map. -/
def create : MoltCreditManager where
  accounts := m.accounts ++ [⟨requesterAddress, 0, 0, 0⟩]
  credits := update m.credits requesterAddress (some m.accounts.length)

/-- The account that `Deposit` finds or makes. -/
def findOrCreate : MoltCreditManager × ℕ :=
  match m.credits requesterAddress with
  | some ref => (m, ref)
  | none => (m.create requesterAddress, m.accounts.length)

/-- The account that `Deduct` finds. -/
def find : Except Text ℕ :=
  match m.credits requesterAddress with
  | some ref => .ok ref
  | none => .error (text "no Molt credits for " ++ requesterAddress)

/-- An account is taken out of the map, by `RefundAll`. -/
def remove : MoltCreditManager :=
  { m with credits := update m.credits requesterAddress none }

variable (ref : ℕ)

/-- An account is written to, through a pointer. -/
def modify (f : MoltCredit → MoltCredit) : MoltCreditManager :=
  { m with accounts := m.accounts.modify ref f }

/-- The balance of an account. -/
def balanceAt : ℤ := (m.accounts[ref]?.map MoltCredit.balance).getD 0

/-- The requester whose account it is. -/
def ownerAt : Text := (m.accounts[ref]?.map MoltCredit.requesterAddress).getD []

/-- The second section of `Deposit`. -/
def add (amount : ℤ) : MoltCreditManager :=
  m.modify ref fun credit =>
    { credit with
      balance := credit.balance + amount
      totalDeposited := credit.totalDeposited + amount }

/-- The second section of `Deduct`. -/
def subtract (cost : ℤ) : Except Text MoltCreditManager :=
  if m.balanceAt ref < cost then
    .error (text "insufficient Molt credits: have " ++ ofInt (m.balanceAt ref) ++
      text ", need " ++ ofInt cost)
  else
    .ok (m.modify ref fun credit =>
      { credit with
        balance := credit.balance - cost
        totalSpent := credit.totalSpent + cost })

/-- The second section of `RefundAll`: the account is emptied and its balance returned. -/
def drain : MoltCreditManager × ℤ :=
  (m.modify ref fun credit => { credit with balance := 0 }, m.balanceAt ref)

/-- `GetBalance` -/
def getBalance : ℤ :=
  match m.credits requesterAddress with
  | none => 0
  | some ref => m.balanceAt ref

end MoltCreditManager

/-! ## Calls -/

/-- What is left of a call after its first section. -/
inductive Bank.Task where
  | deposit (ref : ℕ) (amount : ℤ)
  | deduct (ref : ℕ) (cost : ℤ)
  | refund (ref : ℕ)
  deriving DecidableEq

/-- The account that the call points to. -/
def Bank.Task.ref : Bank.Task → ℕ
  | .deposit ref _ => ref
  | .deduct ref _ => ref
  | .refund ref => ref

/-- The manager, the calls that are between their sections, and what the calls have deposited,
deducted and returned for each requester. -/
structure Bank where
  manager : MoltCreditManager
  tasks : List Bank.Task
  deposited : Text → ℤ
  deducted : Text → ℤ
  refunded : Text → ℤ

/-- A call begins, with its first section, or goes on with its second. -/
inductive Bank.Action where
  | deposit (requesterAddress : Text) (amount : ℤ)
  | deduct (requesterAddress : Text) (cost : ℤ)
  | refundAll (requesterAddress : Text)
  | finish (i : ℕ)
  deriving DecidableEq

/-- An amount is entered for a requester. -/
def enter (account : Text → ℤ) (requesterAddress : Text) (amount : ℤ) : Text → ℤ :=
  update account requesterAddress (account requesterAddress + amount)

namespace Bank

/-- A bank without accounts. -/
def new : Bank := ⟨newMoltCreditManager, [], fun _ => 0, fun _ => 0, fun _ => 0⟩

variable (s : Bank)

/-- The second section of a call. -/
def perform : Task → Bank
  | .deposit ref amount =>
    { s with
      manager := s.manager.add ref amount
      deposited := enter s.deposited (s.manager.ownerAt ref) amount }
  | .deduct ref cost =>
    match s.manager.subtract ref cost with
    | .error _ => s
    | .ok manager =>
      { s with
        manager := manager
        deducted := enter s.deducted (s.manager.ownerAt ref) cost }
  | .refund ref =>
    { s with
      manager := (s.manager.drain ref).1
      refunded := enter s.refunded (s.manager.ownerAt ref) (s.manager.drain ref).2 }

/-- One section. -/
def next : Action → Bank
  | .deposit requesterAddress amount =>
    let (manager, ref) := s.manager.findOrCreate requesterAddress
    { s with manager := manager, tasks := s.tasks ++ [.deposit ref amount] }
  | .deduct requesterAddress cost =>
    match s.manager.find requesterAddress with
    | .error _ => s
    | .ok ref => { s with tasks := s.tasks ++ [.deduct ref cost] }
  | .refundAll requesterAddress =>
    match s.manager.credits requesterAddress with
    | none => s
    | some ref =>
      { s with
        manager := s.manager.remove requesterAddress
        tasks := s.tasks ++ [.refund ref] }
  | .finish i =>
    match s.tasks[i]? with
    | none => s
    | some task => { s.perform task with tasks := s.tasks.eraseIdx i }

/-- The step relation. -/
def Step (a : Action) (s' : Bank) : Prop := s.next a = s'

/-! ## Where the money is -/

/-- The account is in the map. -/
def Current (ref : ℕ) : Prop := s.manager.credits (s.manager.ownerAt ref) = some ref

/-- The account is out of the map, and `RefundAll` has yet to empty it. -/
def Underway (ref : ℕ) : Prop := Task.refund ref ∈ s.tasks

/-- The account is out of the map, and nobody is going to empty it. -/
def Detached (ref : ℕ) : Prop := ¬ s.Current ref ∧ ¬ s.Underway ref

instance (s : Bank) : DecidablePred s.Current := fun _ => inferInstanceAs (Decidable (_ = _))

instance (s : Bank) : DecidablePred s.Underway := fun _ => inferInstanceAs (Decidable (_ ∈ _))

instance (s : Bank) : DecidablePred s.Detached := fun _ => inferInstanceAs (Decidable (¬ _ ∧ ¬ _))

/-- The balances of the accounts of a requester that meet a condition. -/
def held (p : ℕ → Prop) [DecidablePred p] (requesterAddress : Text) : ℤ :=
  ∑ ref ∈ Finset.range s.manager.accounts.length,
    if s.manager.ownerAt ref = requesterAddress ∧ p ref then s.manager.balanceAt ref else 0

/-- No balance is negative, and what was deposited for a requester is on its account, was deducted,
was returned, or is about to be returned. -/
structure Honest (s : Bank) : Prop where
  nonneg : ∀ ref, 0 ≤ s.manager.balanceAt ref
  conserved : ∀ requesterAddress, s.deposited requesterAddress =
    s.manager.getBalance requesterAddress + s.deducted requesterAddress +
      s.refunded requesterAddress + s.held s.Underway requesterAddress

/-- No `RefundAll` of the requester is between its sections. -/
def Settled (requesterAddress : Text) : Prop :=
  ∀ ref, s.Underway ref → s.manager.ownerAt ref ≠ requesterAddress

/-- The section does not change an account that is detached, and no deposit leaves a negative
balance. -/
def ProperTask : Task → Prop
  | .deposit ref amount => (s.Detached ref → amount = 0) ∧ 0 ≤ s.manager.balanceAt ref + amount
  | .deduct ref cost => s.Detached ref → 0 ≤ cost
  | .refund _ => True

instance (s : Bank) : DecidablePred s.ProperTask
  | .deposit _ _ => inferInstanceAs (Decidable ((_ → _) ∧ _))
  | .deduct _ _ => inferInstanceAs (Decidable (_ → _))
  | .refund _ => .isTrue trivial

/-- The condition on a step: the call that goes on is proper. -/
def Proper : Action → Prop
  | .finish i => ∀ task ∈ s.tasks[i]?, s.ProperTask task
  | _ => True

instance (s : Bank) : DecidablePred s.Proper
  | .finish i => inferInstanceAs (Decidable (∀ task ∈ s.tasks[i]?, s.ProperTask task))
  | .deposit _ _ => .isTrue trivial
  | .deduct _ _ => .isTrue trivial
  | .refundAll _ => .isTrue trivial

/-! ## What a section can do -/

/-- The sections: nothing happens, a call finds an account, a deposit makes one, a refund takes one
out of the map, or a call goes on. -/
inductive Move (s : Bank) : Action → Bank → Prop where
  | idle {a : Action} (hproper : s.Proper a) : Move s a s
  | enlist {a : Action} {requesterAddress : Text} (task : Task) (hproper : s.Proper a)
      (hfound : s.manager.credits requesterAddress = some task.ref)
      (hrefund : ∀ ref, task ≠ .refund ref) : Move s a { s with tasks := s.tasks ++ [task] }
  | create {requesterAddress : Text} {amount : ℤ}
      (hnone : s.manager.credits requesterAddress = none) :
      Move s (.deposit requesterAddress amount)
        { s with
          manager := s.manager.create requesterAddress
          tasks := s.tasks ++ [.deposit s.manager.accounts.length amount] }
  | remove {requesterAddress : Text} {ref : ℕ}
      (hfound : s.manager.credits requesterAddress = some ref) :
      Move s (.refundAll requesterAddress)
        { s with
          manager := s.manager.remove requesterAddress
          tasks := s.tasks ++ [.refund ref] }
  | finish {i : ℕ} {task : Task} (htask : s.tasks[i]? = some task) :
      Move s (.finish i) { s.perform task with tasks := s.tasks.eraseIdx i }

/-- Every section is one of these. -/
lemma move_next {s : Bank} (a : Action) : Move s a (s.next a) := by
  cases a with
  | deposit requesterAddress amount =>
    simp only [next, MoltCreditManager.findOrCreate]
    cases hfound : s.manager.credits requesterAddress with
    | some ref => exact .enlist (.deposit ref amount) trivial hfound (fun _ => by simp)
    | none => exact .create hfound
  | deduct requesterAddress cost =>
    simp only [next, MoltCreditManager.find]
    cases hfound : s.manager.credits requesterAddress with
    | some ref => exact .enlist (.deduct ref cost) trivial hfound (fun _ => by simp)
    | none => exact .idle trivial
  | refundAll requesterAddress =>
    simp only [next]
    cases hfound : s.manager.credits requesterAddress with
    | some ref => exact .remove hfound
    | none => exact .idle trivial
  | finish i =>
    simp only [next]
    cases htask : s.tasks[i]? with
    | some task => exact .finish htask
    | none => exact .idle (by simp [Proper, htask])

end Bank

/-! ## One account changes -/

/-- The manager is the same but for the balance of one account, which is higher by `amount`. -/
structure Shift (m : MoltCreditManager) (ref : ℕ) (amount : ℤ) (m' : MoltCreditManager) :
    Prop where
  length : m'.accounts.length = m.accounts.length
  credits : m'.credits = m.credits
  owner : ∀ ref', m'.ownerAt ref' = m.ownerAt ref'
  same : m'.balanceAt ref = m.balanceAt ref + amount
  others : ∀ ref', ref' ≠ ref → m'.balanceAt ref' = m.balanceAt ref'

/-- What holds of all balances after the change. -/
lemma Shift.forall_iff {m m' : MoltCreditManager} {ref : ℕ} {amount : ℤ}
    (h : Shift m ref amount m') {p : ℕ → ℤ → Prop} (hothers : ∀ r, r ≠ ref → p r (m.balanceAt r)) :
    (∀ r, p r (m'.balanceAt r)) ↔ p ref (m.balanceAt ref + amount) := by
  refine ⟨fun hall => h.same ▸ hall ref, ?_⟩
  intro hsame r
  by_cases heq : r = ref
  · rw [heq, h.same]
    exact hsame
  · rw [h.others r heq]
    exact hothers r heq

namespace MoltCreditManager

variable {m : MoltCreditManager} {requesterAddress : Text} {ref : ℕ}

/-- Writing to an account, without changing whose it is. -/
lemma shift_modify (href : ref < m.accounts.length) {f : MoltCredit → MoltCredit} {amount : ℤ}
    (howner : ∀ credit, (f credit).requesterAddress = credit.requesterAddress)
    (hbalance : ∀ credit, m.accounts[ref]? = some credit →
      (f credit).balance = credit.balance + amount) : Shift m ref amount (m.modify ref f) := by
  obtain ⟨credit, hcredit⟩ : ∃ credit, m.accounts[ref]? = some credit :=
    ⟨_, List.getElem?_eq_getElem href⟩
  refine ⟨List.length_modify .., rfl, ?_, ?_, ?_⟩
  · intro ref'
    unfold ownerAt modify
    simp only [List.getElem?_modify]
    cases m.accounts[ref']? with
    | none => rfl
    | some credit =>
      by_cases heq : ref = ref'
      · simp [heq, howner]
      · simp [heq]
  · simp [balanceAt, modify, hcredit, hbalance credit hcredit]
  · intro ref' hne
    simp [balanceAt, modify, Ne.symm hne]

/-- A new account is empty, as is what is not an account. -/
lemma balanceAt_create : (m.create requesterAddress).balanceAt ref = m.balanceAt ref := by
  unfold balanceAt create
  rcases lt_trichotomy ref m.accounts.length with hlt | heq | hgt
  · rw [List.getElem?_append_left hlt]
  · subst heq
    simp
  · rw [List.getElem?_eq_none (by simp; omega), List.getElem?_eq_none (by omega)]

lemma ownerAt_create (hne : ref ≠ m.accounts.length) :
    (m.create requesterAddress).ownerAt ref = m.ownerAt ref := by
  unfold ownerAt create
  rcases lt_or_gt_of_ne hne with hlt | hgt
  · rw [List.getElem?_append_left hlt]
  · rw [List.getElem?_eq_none (by simp; omega), List.getElem?_eq_none (by omega)]

end MoltCreditManager

namespace Bank

open MoltCreditManager

variable {s s' : Bank} {ref : ℕ} {requesterAddress : Text}

/-- What a requester has on all accounts, after one account has changed. -/
lemma total_shift {amount : ℤ} (h : Shift s.manager ref amount s'.manager)
    (href : ref < s.manager.accounts.length) (requesterAddress : Text) :
    s'.held (fun _ => True) requesterAddress = s.held (fun _ => True) requesterAddress +
      if s.manager.ownerAt ref = requesterAddress then amount else 0 := by
  have hchange := sum_change_on (Finset.mem_range.mpr href)
    (f := fun ref => if s.manager.ownerAt ref = requesterAddress ∧ True
      then s.manager.balanceAt ref else 0)
    (g := fun ref => if s'.manager.ownerAt ref = requesterAddress ∧ True
      then s'.manager.balanceAt ref else 0)
    (fun ref' hne => by simp only [h.owner, h.others ref' hne])
  unfold held
  rw [h.length]
  simp only [h.owner, h.same, and_true] at hchange ⊢
  split at hchange
  · next hown =>
    rw [if_pos hown]
    linarith
  · next hown =>
    rw [if_neg hown]
    linarith

/-! ## The books -/

/-- The map names the account of the requester, calls point to accounts, and an account that is to
be emptied is out of the map. All that was deposited is on some account or was paid out. -/
structure Books (s : Bank) : Prop where
  lookup : ∀ {requesterAddress ref}, s.manager.credits requesterAddress = some ref →
    ref < s.manager.accounts.length ∧ s.manager.ownerAt ref = requesterAddress
  inRange : ∀ task ∈ s.tasks, task.ref < s.manager.accounts.length
  removed : ∀ {ref}, s.Underway ref → ¬ s.Current ref
  conserved : ∀ requesterAddress, s.deposited requesterAddress =
    s.held (fun _ => True) requesterAddress + s.deducted requesterAddress +
      s.refunded requesterAddress

lemma books_new : new.Books where
  lookup h := by cases h
  inRange _ h := by cases h
  removed h := by cases h
  conserved _ := rfl

lemma enter_apply (account : Text → ℤ) (requesterAddress other : Text) (amount : ℤ) :
    enter account requesterAddress amount other =
      account other + if requesterAddress = other then amount else 0 := by
  unfold enter
  by_cases heq : requesterAddress = other
  · subst heq
    simp
  · simp [heq, update_of_ne (Ne.symm heq)]

/-- By how much the second section of a call raises the balance. -/
def amountOf (s : Bank) : Task → ℤ
  | .deposit _ amount => amount
  | .deduct ref cost => if s.manager.balanceAt ref < cost then 0 else -cost
  | .refund ref => -s.manager.balanceAt ref

/-- The second section of a call changes one account. -/
lemma shift_perform {task : Task} (href : task.ref < s.manager.accounts.length) :
    Shift s.manager task.ref (s.amountOf task) (s.perform task).manager := by
  cases task with
  | deposit ref amount => exact shift_modify href (fun _ => rfl) fun _ _ => rfl
  | deduct ref cost =>
    unfold perform subtract amountOf
    by_cases hlt : s.manager.balanceAt ref < cost
    · simp only [if_pos hlt]
      exact ⟨rfl, rfl, fun _ => rfl, (add_zero _).symm, fun _ _ => rfl⟩
    · simp only [if_neg hlt]
      exact shift_modify href (fun _ => rfl) fun _ _ => sub_eq_add_neg ..
  | refund ref =>
    refine shift_modify href (fun _ => rfl) ?_
    intro credit hcredit
    simp [amountOf, balanceAt, show s.manager.accounts[ref]? = some credit from hcredit]

/-- What was deposited for a requester and not paid out. -/
def entered (s : Bank) (requesterAddress : Text) : ℤ :=
  s.deposited requesterAddress - s.deducted requesterAddress - s.refunded requesterAddress

/-- Whatever the second section does to the account, it enters for the requester. -/
lemma entered_perform (s : Bank) (task : Task) (requesterAddress : Text) :
    (s.perform task).entered requesterAddress = s.entered requesterAddress +
      if s.manager.ownerAt task.ref = requesterAddress then s.amountOf task else 0 := by
  unfold entered
  cases task with
  | deposit ref amount =>
    change _ = _ + if s.manager.ownerAt ref = requesterAddress then amount else 0
    simp only [perform, enter_apply]
    ring
  | deduct ref cost =>
    unfold perform subtract amountOf
    by_cases hlt : s.manager.balanceAt ref < cost
    · simp only [if_pos hlt, ite_self, add_zero]
    · simp only [if_neg hlt, enter_apply, Task.ref]
      split_ifs <;> ring
  | refund ref =>
    change _ = _ + if s.manager.ownerAt ref = requesterAddress then -s.manager.balanceAt ref else 0
    simp only [perform, enter_apply, drain]
    split_ifs <;> ring

/-! ### A new account -/

lemma current_create (hnone : s.manager.credits requesterAddress = none)
    (hmanager : s'.manager = s.manager.create requesterAddress)
    (hne : ref ≠ s.manager.accounts.length) : s'.Current ref ↔ s.Current ref := by
  unfold Current
  rw [hmanager, ownerAt_create hne]
  unfold create
  dsimp only
  by_cases heq : s.manager.ownerAt ref = requesterAddress
  · rw [heq, update_self, hnone]
    simp [Ne.symm hne]
  · rw [update_of_ne heq]

lemma total_create (hmanager : s'.manager = s.manager.create requesterAddress) (other : Text) :
    s'.held (fun _ => True) other = s.held (fun _ => True) other := by
  have hlength : s'.manager.accounts.length = s.manager.accounts.length + 1 := by
    simp [hmanager, create]
  have hnew : s.manager.balanceAt s.manager.accounts.length = 0 := by
    simp [balanceAt]
  unfold held
  rw [hlength, Finset.sum_range_succ]
  simp only [hmanager, balanceAt_create, hnew, ite_self, add_zero]
  refine Finset.sum_congr rfl ?_
  intro ref hmem
  rw [ownerAt_create (Finset.mem_range.mp hmem).ne]

/-! ### Every section keeps the books -/

lemma current_remove (hmanager : s'.manager = s.manager.remove requesterAddress) :
    s'.Current ref ↔ s.Current ref ∧ s.manager.ownerAt ref ≠ requesterAddress := by
  unfold Current
  rw [hmanager]
  unfold remove ownerAt
  by_cases heq : (s.manager.accounts[ref]?.map MoltCredit.requesterAddress).getD [] =
    requesterAddress
  · simp [heq]
  · simp [heq, update_of_ne]

lemma current_shift {ref' : ℕ} {amount : ℤ} (h : Shift s.manager ref amount s'.manager) :
    s'.Current ref' ↔ s.Current ref' := by
  unfold Current
  rw [h.credits, h.owner]

variable {task : Task} {i : ℕ}

section Books

variable (hbooks : s.Books)
include hbooks

/-- A call has found an account that exists and goes on later. -/
lemma Books.append (href : task.ref < s.manager.accounts.length)
    (hrefund : ∀ ref, task = .refund ref → ¬ s.Current ref) :
    Books { s with tasks := s.tasks ++ [task] } where
  lookup h := hbooks.lookup h
  inRange t ht := by
    rcases List.mem_append.mp ht with hold | hnew
    · exact hbooks.inRange t hold
    · rw [List.mem_singleton.mp hnew]
      exact href
  removed {ref} h := by
    rcases List.mem_append.mp h with hold | hnew
    · exact hbooks.removed hold
    · exact hrefund ref (List.mem_singleton.mp hnew).symm
  conserved := hbooks.conserved

/-- An account is made. -/
lemma Books.create (hnone : s.manager.credits requesterAddress = none) :
    Books { s with manager := s.manager.create requesterAddress } where
  lookup {other ref} h := by
    simp only [MoltCreditManager.create, List.length_append, List.length_singleton]
    by_cases heq : other = requesterAddress
    · subst heq
      simp only [MoltCreditManager.create, update_self, Option.some.injEq] at h
      subst h
      exact ⟨Nat.lt_succ_self _, by simp [ownerAt]⟩
    · simp only [MoltCreditManager.create, update_of_ne heq] at h
      obtain ⟨hlt, howner⟩ := hbooks.lookup h
      exact ⟨by omega, (ownerAt_create hlt.ne).trans howner⟩
  inRange task h := by
    have hlt := hbooks.inRange task h
    simp only [MoltCreditManager.create, List.length_append, List.length_singleton]
    omega
  removed {ref} h := by
    have hlt := hbooks.inRange _ h
    rw [current_create hnone rfl (show ref ≠ _ from hlt.ne)]
    exact hbooks.removed h
  conserved other := by
    rw [total_create (s := s) rfl]
    exact hbooks.conserved other

/-- An account is taken out of the map. -/
lemma Books.remove : Books { s with manager := s.manager.remove requesterAddress } where
  lookup {other ref'} h := by
    have hne : other ≠ requesterAddress := by
      intro heq
      simp [MoltCreditManager.remove, heq] at h
    simp only [MoltCreditManager.remove, update_of_ne hne] at h
    exact hbooks.lookup h
  inRange := hbooks.inRange
  removed h hcurrent := hbooks.removed h ((current_remove rfl).mp hcurrent).1
  conserved := hbooks.conserved

/-- A call goes on. -/
lemma Books.finish (htask : s.tasks[i]? = some task) :
    Books { s.perform task with tasks := s.tasks.eraseIdx i } := by
  have href := hbooks.inRange task (List.mem_of_getElem? htask)
  have hshift := shift_perform href
  refine ⟨?_, ?_, ?_, ?_⟩
  · intro other ref h
    rw [hshift.credits] at h
    rw [hshift.length, hshift.owner]
    exact hbooks.lookup h
  · intro task' h
    rw [hshift.length]
    exact hbooks.inRange task' (List.mem_of_mem_eraseIdx h)
  · intro ref h hcurrent
    exact hbooks.removed (List.mem_of_mem_eraseIdx h) ((current_shift hshift).mp hcurrent)
  · intro other
    have hbefore := hbooks.conserved other
    have hentered := entered_perform s task other
    have htotal := total_shift hshift href other
    unfold entered at hentered
    change (s.perform task).deposited other = (s.perform task).held (fun _ => True) other +
      (s.perform task).deducted other + (s.perform task).refunded other
    linarith

/-- **The balances of all accounts of a requester are what was deposited and not paid out.** -/
theorem Books.move {a : Action} (h : Move s a s') : s'.Books := by
  cases h with
  | idle _ => exact hbooks
  | enlist task _ hfound hrefund =>
    exact hbooks.append (hbooks.lookup hfound).1 fun ref h => absurd h (hrefund ref)
  | create hnone =>
    refine (hbooks.create hnone).append ?_ (fun _ => by simp)
    simp [Task.ref, MoltCreditManager.create]
  | remove hfound =>
    refine hbooks.remove.append (hbooks.lookup hfound).1 ?_
    rintro _ ⟨⟩ hcurrent
    exact ((current_remove rfl).mp hcurrent).2 (hbooks.lookup hfound).2
  | finish htask => exact hbooks.finish htask

/-! ## What is lost -/

/-- What the requester has on its account in the map. -/
lemma held_current :
    s.held s.Current requesterAddress = s.manager.getBalance requesterAddress := by
  have hterm : ∀ ref, (s.manager.ownerAt ref = requesterAddress ∧ s.Current ref) ↔
      s.manager.credits requesterAddress = some ref := by
    intro ref
    constructor
    · rintro ⟨howner, hcurrent⟩
      rwa [Current, howner] at hcurrent
    · intro hfound
      have howner := (hbooks.lookup hfound).2
      exact ⟨howner, by rwa [Current, howner]⟩
  unfold held getBalance
  simp only [hterm]
  cases hfound : s.manager.credits requesterAddress with
  | none => simp
  | some ref =>
    simp only [Option.some.injEq]
    rw [Finset.sum_ite_eq (Finset.range _) ref, if_pos]
    exact Finset.mem_range.mpr (hbooks.lookup hfound).1

/-- **Where the balances of a requester are**: on the account in the map, on accounts that are about
to be emptied, and on accounts that nobody will look at again. -/
theorem total_eq (requesterAddress : Text) :
    s.held (fun _ => True) requesterAddress = s.manager.getBalance requesterAddress +
      s.held s.Underway requesterAddress + s.held s.Detached requesterAddress := by
  rw [← held_current hbooks]
  unfold held
  rw [← Finset.sum_add_distrib, ← Finset.sum_add_distrib]
  refine Finset.sum_congr rfl ?_
  intro ref _
  by_cases howner : s.manager.ownerAt ref = requesterAddress
  · by_cases hcurrent : s.Current ref
    · have hnot : ¬ s.Underway ref := fun h => hbooks.removed h hcurrent
      simp [howner, hcurrent, hnot, Detached]
    · by_cases hunderway : s.Underway ref
      · simp [howner, hcurrent, hunderway, Detached]
      · simp [howner, hcurrent, hunderway, Detached]
  · simp [howner]

/-- A bank is honest when no balance is negative and nothing is left on a detached account. -/
lemma honest_iff : s.Honest ↔ (∀ ref, 0 ≤ s.manager.balanceAt ref) ∧
      ∀ ref, s.Detached ref → s.manager.balanceAt ref = 0 := by
  constructor
  · intro h
    refine ⟨h.nonneg, ?_⟩
    intro ref hdetached
    by_cases hlt : ref < s.manager.accounts.length
    · have hlost : s.held s.Detached (s.manager.ownerAt ref) = 0 := by
        have hall := hbooks.conserved (s.manager.ownerAt ref)
        have hkept := h.conserved (s.manager.ownerAt ref)
        have htotal := total_eq hbooks (s.manager.ownerAt ref)
        linarith
      have hterms := (Finset.sum_eq_zero_iff_of_nonneg (fun ref _ => by
        split
        · exact h.nonneg ref
        · exact le_refl 0)).mp hlost ref (Finset.mem_range.mpr hlt)
      simpa [hdetached] using hterms
    · simp [balanceAt, List.getElem?_eq_none (not_lt.mp hlt)]
  · rintro ⟨hnonneg, hempty⟩
    refine ⟨hnonneg, ?_⟩
    intro requesterAddress
    have hlost : s.held s.Detached requesterAddress = 0 := by
      refine Finset.sum_eq_zero ?_
      intro ref _
      split
      · next h => exact hempty ref h.2
      · rfl
    have hall := hbooks.conserved requesterAddress
    have htotal := total_eq hbooks requesterAddress
    linarith

end Books

/-- Nothing is lost where the balances stay and no account with money on it becomes detached. -/
lemma Honest.of_same (h : s.Honest) (hbooks : s.Books) (hbooks' : s'.Books)
    (hbalance : ∀ ref, s'.manager.balanceAt ref = s.manager.balanceAt ref)
    (hdetached : ∀ ref, s'.Detached ref → s.Detached ref ∨ s.manager.balanceAt ref = 0) :
    s'.Honest := by
  obtain ⟨hnonneg, hempty⟩ := (honest_iff hbooks).mp h
  rw [honest_iff hbooks']
  simp only [hbalance]
  refine ⟨hnonneg, ?_⟩
  intro ref hlost
  rcases hdetached ref hlost with hbefore | hzero
  · exact hempty ref hbefore
  · exact hzero

lemma refund_mem_eraseIdx (htask : s.tasks[i]? = some task) (hne : task ≠ .refund ref) :
    Task.refund ref ∈ s.tasks.eraseIdx i ↔ Task.refund ref ∈ s.tasks := by
  refine ⟨List.mem_of_mem_eraseIdx, ?_⟩
  intro hmem
  obtain ⟨j, hj⟩ := List.mem_iff_getElem?.mp hmem
  refine List.mem_eraseIdx_iff_getElem?.mpr ⟨j, ?_, hj⟩
  intro heq
  rw [heq, htask] at hj
  exact hne (Option.some.inj hj)

/-- **A call that goes on loses nothing iff it is proper.** -/
theorem honest_finish_iff (h : s.Honest) (hbooks : s.Books) (htask : s.tasks[i]? = some task) :
    Honest { s.perform task with tasks := s.tasks.eraseIdx i } ↔ s.ProperTask task := by
  have href := hbooks.inRange task (List.mem_of_getElem? htask)
  obtain ⟨hnonneg, hempty⟩ := (honest_iff hbooks).mp h
  have hshift := shift_perform href
  have hdetached : ∀ {ref}, task ≠ .refund ref → (Detached { s.perform task with
      tasks := s.tasks.eraseIdx i } ref ↔ s.Detached ref) := fun hne =>
    and_congr (not_congr (current_shift hshift)) (not_congr (refund_mem_eraseIdx htask hne))
  rw [honest_iff (hbooks.finish htask), hshift.forall_iff (p := fun _ b => 0 ≤ b)
    fun r _ => hnonneg r, hshift.forall_iff (p := fun r b => Detached _ r → b = 0) ?_]
  · cases task with
    | deposit ref amount =>
      rw [hdetached (by simp), and_comm]
      refine and_congr_left fun _ => forall_congr' fun hlost => ?_
      rw [show s.manager.balanceAt (Task.deposit ref amount).ref = 0 from hempty ref hlost,
        zero_add]
      rfl
    | deduct ref cost =>
      rw [hdetached (by simp)]
      have hzero := hempty ref
      simp only [Task.ref, amountOf, ProperTask]
      split_ifs with hlt
      · -- a detached account is empty, so the cost that it cannot meet is positive
        refine iff_of_true ⟨by simpa using hnonneg ref, fun hlost => ?_⟩ fun hlost => ?_
        · simpa using hzero hlost
        · exact (hzero hlost ▸ hlt).le
      · refine ⟨fun hlost hd => ?_, fun hproper => ⟨by omega, fun hlost => ?_⟩⟩
        · have hcost := hlost.2 hd
          rw [hzero hd] at hcost
          omega
        · have hcost := hproper hlost
          rw [hzero hlost] at hlt ⊢
          omega
    | refund ref => simp [Task.ref, amountOf, ProperTask]
  · intro r hne hlost
    refine hempty r ((hdetached ?_).mp hlost)
    rintro rfl
    exact hne rfl

/-- **The step after which money is lost** is the second section of a call that is not proper. -/
theorem honest_move_iff {a : Action} (h : s.Honest) (hbooks : s.Books) (hmove : Move s a s') :
    s'.Honest ↔ s.Proper a := by
  have hbooks' := hbooks.move hmove
  cases hmove with
  | idle hproper => exact iff_of_true h hproper
  | enlist task hproper hfound hrefund =>
    refine iff_of_true (h.of_same hbooks hbooks' (fun _ => rfl) ?_) hproper
    rintro ref ⟨hcurrent, hunderway⟩
    exact .inl ⟨hcurrent, fun hmem => hunderway (List.mem_append_left _ hmem)⟩
  | @create requesterAddress amount hnone =>
    refine iff_of_true (h.of_same hbooks hbooks' (fun _ => balanceAt_create) ?_) trivial
    rintro ref ⟨hcurrent, hunderway⟩
    by_cases heq : ref = s.manager.accounts.length
    · right
      simp [heq, balanceAt]
    · exact .inl ⟨fun hbefore => hcurrent ((current_create hnone rfl heq).mpr hbefore),
        fun hmem => hunderway (List.mem_append_left _ hmem)⟩
  | @remove requesterAddress ref hfound =>
    refine iff_of_true (h.of_same hbooks hbooks' (fun _ => rfl) ?_) trivial
    rintro ref' ⟨hcurrent, hunderway⟩
    refine .inl ⟨?_, fun hmem => hunderway (List.mem_append_left _ hmem)⟩
    intro hbefore
    refine hcurrent ((current_remove rfl).mpr ⟨hbefore, ?_⟩)
    -- the account of the requester itself is about to be emptied
    intro howner
    rw [Current, howner, hfound, Option.some.injEq] at hbefore
    exact hunderway (List.mem_append_right _ (by simp [hbefore]))
  | finish htask =>
    rw [honest_finish_iff h hbooks htask]
    simp [Proper, htask]

/-! ## Runs -/

/-- With no refund of the requester underway, its money is on its account or was paid out. -/
lemma Honest.settled (h : s.Honest) (hsettled : s.Settled requesterAddress) :
    s.deposited requesterAddress = s.manager.getBalance requesterAddress +
      s.deducted requesterAddress + s.refunded requesterAddress := by
  have hnone : s.held s.Underway requesterAddress = 0 := by
    refine Finset.sum_eq_zero ?_
    intro ref _
    rw [if_neg]
    rintro ⟨howner, hunderway⟩
    exact hsettled ref hunderway howner
  have hconserved := h.conserved requesterAddress
  rw [hnone, add_zero] at hconserved
  exact hconserved

lemma honest_new : new.Honest where
  nonneg _ := le_refl 0
  conserved _ := rfl

/-- **Credits are conserved along a run iff every call that goes on is proper**, in whatever order
the sections of the calls are: no deposit or deduction changes an account that `RefundAll` has
emptied, and no deposit leaves a negative balance. In such a run what was deposited for a requester
is, whenever no refund of it is underway, its balance and what was deducted and returned. -/
theorem credits_conserved_iff {l : List (Action × Bank)} (h : Path Step new l) :
    (StatesMeet Honest new l ↔ StepsMeet Proper new l) ∧
    (StepsMeet Proper new l →
      StatesMeet (fun s => (∀ ref, 0 ≤ s.manager.balanceAt ref) ∧
        ∀ requesterAddress, s.Settled requesterAddress →
          s.deposited requesterAddress = s.manager.getBalance requesterAddress +
            s.deducted requesterAddress + s.refunded requesterAddress) new l) := by
  have hiff : StatesMeet Honest new l ↔ StepsMeet Proper new l := by
    refine Path.statesMeet_iff_stepsMeet (I := Books) ?_ ?_ books_new honest_new h
    · rintro s a s' hbooks rfl
      exact hbooks.move (move_next a)
    · rintro s a s' hbooks hhonest rfl
      exact honest_move_iff hhonest hbooks (move_next a)
  refine ⟨hiff, ?_⟩
  intro hproper
  exact (hiff.mpr hproper).mono fun s hs => ⟨hs.nonneg, fun _ hsettled => hs.settled hsettled⟩

/-- **Where the money is** after every run: on the account, about to be returned, on accounts that
nobody will look at again, deducted or returned. -/
theorem credits_located (actions : List Action) (requesterAddress : Text) :
    let s := endState new (follow next new actions)
    s.deposited requesterAddress = s.manager.getBalance requesterAddress +
      s.held s.Underway requesterAddress + s.held s.Detached requesterAddress +
      s.deducted requesterAddress + s.refunded requesterAddress := by
  intro s
  have hbooks : s.Books := by
    refine ((follow_path new actions).invariant ?_ books_new).endState
    rintro s a s' hbooks rfl
    exact hbooks.move (move_next a)
  rw [hbooks.conserved, total_eq hbooks]

/-- Ten are deposited, four of them are spent and the rest is refunded, one call after the other. -/
def oneByOne : List (Action × Bank) :=
  follow next new [.deposit (text "0xa1") 10, .finish 0, .deduct (text "0xa1") 4, .finish 0,
    .refundAll (text "0xa1"), .finish 0]

/-- In the run every call is proper, and six are returned. -/
theorem credits_conserved_one_by_one :
    StepsMeet Proper new oneByOne ∧ StatesMeet Honest new oneByOne ∧
      (endState new oneByOne).refunded (text "0xa1") = 6 := by
  have hpath : Path Step new oneByOne := follow_path ..
  have hproper : StepsMeet Proper new oneByOne := by decide
  exact ⟨hproper, (credits_conserved_iff hpath).1.mpr hproper, by decide⟩

/-- A second deposit finds the account, `RefundAll` removes and empties it, and the deposit goes
on. -/
def lateDeposit : List (Action × Bank) :=
  follow next new [.deposit (text "0xa1") 10, .finish 0, .deposit (text "0xa1") 5,
    .refundAll (text "0xa1"), .finish 1, .finish 0]

/-- **Five of fifteen are lost**: all calls have returned, ten were refunded, nothing was spent, and
the balance is zero. -/
theorem late_deposit_lost :
    Path Step new lateDeposit ∧ (endState new lateDeposit).tasks = [] ∧
      (endState new lateDeposit).deposited (text "0xa1") = 15 ∧
      (endState new lateDeposit).manager.getBalance (text "0xa1") = 0 ∧
      (endState new lateDeposit).deducted (text "0xa1") = 0 ∧
      (endState new lateDeposit).refunded (text "0xa1") = 10 ∧
      ¬ StatesMeet Honest new lateDeposit := by
  refine ⟨follow_path .., by decide, by decide, by decide, by decide, by decide, ?_⟩
  intro hall
  have hconserved := hall.endState.conserved (text "0xa1")
  revert hconserved
  decide

end Bank

end Moltbunker.Payment
