import Moltbunker.Payment.EventWatcher.Model

/-!
# The event watcher: no log is lost

A subscription that is not live relies on two numbers: on `lastBlock`, from which its next backfill
starts, and on the block up to which its last backfill read. `Caught` says that it has passed on
everything up to both. One goroutine moves at a time (`Inv.move`), and the others keep theirs as
long as `lastBlock` is not moved past a log that they have missed.

* `no_event_lost` — when a subscription goes live, every log of its filter was passed to its
  handler, in every run whose steps meet `WatchGuard`;
* `slash_lost` — without it that fails: a slash is lost when the stake subscription sees a log of
  the same block while the slash subscription reconnects.
-/

namespace Moltbunker.Payment.EventWatcher

open Lib Function Watcher Phase

variable {w v w' : Watcher} {i j : Subscription} {p : Phase} {log : Log}

namespace Watcher

@[simp] lemma setPhase_start : (w.setPhase i p).start = w.start := rfl

@[simp] lemma setPhase_head : (w.setPhase i p).head = w.head := rfl

@[simp] lemma setPhase_chain : (w.setPhase i p).chain = w.chain := rfl

@[simp] lemma setPhase_lastBlock : (w.setPhase i p).lastBlock = w.lastBlock := rfl

@[simp] lemma setPhase_handled : (w.setPhase i p).handled = w.handled := rfl

@[simp] lemma setPhase_phase_self : (w.setPhase i p).phase i = p := update_self _ _ _

@[simp] lemma pass_handled_self : (w.pass i log).handled i = w.handled i ++ [log] :=
  update_self _ _ _

end Watcher

/-! ## What a subscription relies on -/

/-- What holds of a subscription: everything up to the numbers that it relies on is covered, and
the blocks that it holds are not above the head. -/
structure Caught (w : Watcher) (i : Subscription) : Prop where
  waiting : (w.phase i).waits = true → Covered w i w.lastBlock
  marked : ∀ m ∈ (w.phase i).mark, Covered w i m ∧ m ≤ w.head
  due_le : ∀ m ∈ (w.phase i).mark, ∀ log ∈ (w.phase i).due, log.blockNumber ≤ m
  toStore_le : ∀ block ∈ (w.phase i).toStore, block ≤ (w.phase i).mark.getD w.head
  held_le : ∀ log ∈ (w.phase i).held, log.blockNumber ≤ w.head

/-- What holds of the watcher. -/
structure Inv (w : Watcher) : Prop where
  lastBlock_le : w.lastBlock ≤ w.head
  chain_le : ∀ log ∈ w.chain, log.blockNumber ≤ w.head
  caught : ∀ i, Caught w i

/-- A goroutine that stands still keeps what it relies on. -/
lemma Caught.frame (h : Caught w j) (hstart : w'.start = w.start) (hhead : w'.head = w.head)
    (hchain : w'.chain = w.chain) (hphase : w'.phase j = w.phase j)
    (hhandled : w'.handled j = w.handled j)
    (hlast : (w.phase j).waits = true → Covered w j w'.lastBlock) : Caught w' j := by
  have hcovered : ∀ block, Covered w j block → Covered w' j block := by
    intro block hblock
    unfold Covered
    rw [hchain, hstart, hhandled, hphase]
    exact hblock
  refine ⟨?_, ?_, ?_, ?_, ?_⟩ <;> rw [hphase]
  · intro hwaits
    exact hcovered _ (hlast hwaits)
  · intro m hm
    rw [hhead]
    exact ⟨hcovered m (h.marked m hm).1, (h.marked m hm).2⟩
  · exact h.due_le
  · rw [hhead]
    exact h.toStore_le
  · rw [hhead]
    exact h.held_le

/-- **One goroutine moves.** It changes its own phase and what its handler was given, and may set
`lastBlock`; the others keep what they rely on if they have missed nothing up to it. -/
theorem Inv.move (hw : Inv w) (hstart : v.start = w.start) (hhead : v.head = w.head)
    (hchain : v.chain = w.chain) (hphase : v.phase = w.phase)
    (hhandled : ∀ j, j ≠ i → v.handled j = w.handled j) (hlast_le : v.lastBlock ≤ w.head)
    (hlast : ∀ j, j ≠ i → (w.phase j).waits = true → Covered w j v.lastBlock)
    (hi : Caught (v.setPhase i p) i) : Inv (v.setPhase i p) := by
  refine ⟨?_, ?_, ?_⟩
  · simpa [hhead] using hlast_le
  · simpa [hhead, hchain] using hw.chain_le
  · intro j
    by_cases hj : j = i
    · rw [hj]
      exact hi
    · refine (hw.caught j).frame hstart hhead hchain ?_ (hhandled j hj) (hlast j hj)
      exact (update_of_ne hj _ _).trans (congrFun hphase j)

/-- A goroutine moves and leaves `lastBlock`. -/
lemma Inv.moveOn (hw : Inv w) (hi : Caught (w.setPhase i p) i) : Inv (w.setPhase i p) :=
  hw.move rfl rfl rfl rfl (fun _ _ => rfl) hw.lastBlock_le
    (fun j _ => (hw.caught j).waiting) hi

/-- A goroutine passes a log to its handler. -/
lemma Inv.passOn (hw : Inv w) (hi : Caught ((w.pass i log).setPhase i p) i) :
    Inv ((w.pass i log).setPhase i p) :=
  hw.move rfl rfl rfl rfl (fun _ hj => update_of_ne hj _ _) hw.lastBlock_le
    (fun j _ => (hw.caught j).waiting) hi

/-- What was covered stays covered if the new phase passes on what the old one was about to. -/
lemma Covered.setPhase {block : ℕ} (h : Covered w i block)
    (hdue : ∀ log ∈ (w.phase i).due, log ∈ p.due) : Covered (w.setPhase i p) i block := by
  intro log hlog hmatch hstart hle
  rcases h log hlog hmatch hstart hle with hhandled | hmem
  · exact .inl hhandled
  · right
    rw [setPhase_phase_self]
    exact hdue log hmem

/-- The first of the logs that are about to be passed on is passed on. -/
lemma Covered.pass {block : ℕ} (h : Covered w i block)
    (hdue : ∀ x ∈ (w.phase i).due, x = log ∨ x ∈ p.due) :
    Covered ((w.pass i log).setPhase i p) i block := by
  intro x hx hmatch hstart hle
  simp only [setPhase_handled, pass_handled_self, setPhase_phase_self,
    List.mem_append, List.mem_singleton]
  rcases h x hx hmatch hstart hle with hhandled | hmem
  · exact .inl (.inl hhandled)
  · rcases hdue x hmem with heq | hmem
    · exact .inl (.inr heq)
    · exact .inr hmem

/-! ## The steps -/

namespace Phase

variable {logs : List Log}

@[simp] lemma push_waits : (p.push logs).waits = p.waits := by
  cases p <;> rfl

@[simp] lemma push_mark : (p.push logs).mark = p.mark := by
  cases p <;> rfl

@[simp] lemma push_due : (p.push logs).due = p.due := by
  cases p <;> rfl

@[simp] lemma push_toStore : (p.push logs).toStore = p.toStore := by
  cases p <;> rfl

lemma mem_held_push (h : log ∈ (p.push logs).held) : log ∈ p.held ∨ log ∈ logs := by
  cases p <;> simp_all [push, held, or_assoc]

end Phase

/-- A block is mined: its logs are above everything that anybody relies on. -/
lemma Inv.mine (hw : Inv w) {events : List Event} (h : w.next (.mine events) = some w') :
    Inv w' := by
  simp only [next, Option.some.injEq] at h
  subst h
  have hnew : ∀ log ∈ blockLogs (w.head + 1) events, log.blockNumber = w.head + 1 := by
    intro log hlog
    simp only [blockLogs, List.mem_map] at hlog
    obtain ⟨x, -, rfl⟩ := hlog
    rfl
  have hcovered : ∀ i block, block ≤ w.head → Covered w i block → ∀ log ∈ w.chain ++
      blockLogs (w.head + 1) events, i.Matches log → w.start < log.blockNumber →
      log.blockNumber ≤ block → log ∈ w.handled i ∨ log ∈ (w.phase i).due := by
    intro i block hblock hcov log hlog hmatch hstart hle
    rcases List.mem_append.mp hlog with hlog | hlog
    · exact hcov log hlog hmatch hstart hle
    · have := hnew log hlog
      omega
  refine ⟨Nat.le_succ_of_le hw.lastBlock_le, ?_, ?_⟩
  · intro log hlog
    rcases List.mem_append.mp hlog with hlog | hlog
    · exact Nat.le_succ_of_le (hw.chain_le log hlog)
    · exact (hnew log hlog).le
  intro i
  have hi := hw.caught i
  refine ⟨?_, ?_, ?_, ?_, ?_⟩ <;> simp only [push_waits, push_mark, push_due, push_toStore, Covered]
  · intro hwaits
    exact hcovered i _ hw.lastBlock_le (hi.waiting hwaits)
  · intro m hm
    obtain ⟨hcov, hle⟩ := hi.marked m hm
    exact ⟨hcovered i m hle hcov, Nat.le_succ_of_le hle⟩
  · exact hi.due_le
  · intro block hblock
    refine (hi.toStore_le block hblock).trans ?_
    cases (w.phase i).mark <;> simp
  · intro log hlog
    rcases mem_held_push hlog with hlog | hlog
    · exact Nat.le_succ_of_le (hi.held_le log hlog)
    · exact (hnew log (List.mem_of_mem_filter hlog)).le

/-- `backfillEvents` loads a `lastBlock` that is known. -/
lemma Inv.load (hw : Inv w) (hlast : w.lastBlock ≠ 0) (h : w.next (.load i) = some w') :
    Inv w' := by
  simp only [next, if_neg hlast] at h
  split at h
  · next hp =>
    cases h
    have hwaiting := (hw.caught i).waiting (by rw [hp]; rfl)
    apply hw.moveOn
    constructor <;> simp only [setPhase_phase_self, waits, mark, due,
      toStore, held]
    case marked =>
      rintro m ⟨⟩
      exact ⟨hwaiting.setPhase (by simp [hp, due]), hw.lastBlock_le⟩
    all_goals simp
  · cases h

/-- `FilterLogs` answers with everything that the subscription has missed. -/
lemma Inv.filterLogs (hw : Inv w) (h : w.next (.filterLogs i) = some w') : Inv w' := by
  simp only [next] at h
  split at h
  · next last hp =>
    cases h
    obtain ⟨hcov, -⟩ := (hw.caught i).marked last (by rw [hp]; rfl)
    have hfrom : fromBlock last ≤ last := by
      unfold fromBlock
      split <;> omega
    -- what is not above `last` was passed on before, and the rest is in the answer
    have hall : ∀ block, Covered (w.setPhase i
        (.backfilling last w.head (w.matching i (fromBlock last)))) i block := by
      intro block log hlog hmatch hstart hle
      by_cases hlast : log.blockNumber ≤ last
      · rcases hcov log hlog hmatch hstart hlast with hhandled | hmem
        · exact .inl hhandled
        · simp [hp, due] at hmem
      · right
        have hlog' : log ∈ w.chain := hlog
        have hfrom' : fromBlock last ≤ log.blockNumber := by omega
        simp only [setPhase_phase_self, due, matching, List.mem_filter, decide_eq_true_eq]
        exact ⟨⟨hlog', hmatch, hfrom'⟩, Nat.lt_of_not_le hlast⟩
    apply hw.moveOn
    constructor <;> simp only [setPhase_phase_self, waits, mark, due,
      toStore, held]
    case waiting => exact fun _ => hall _
    case marked =>
      rintro m ⟨⟩
      exact ⟨hall _, le_rfl⟩
    case due_le =>
      rintro m ⟨⟩ log hlog
      exact hw.chain_le log (List.mem_of_mem_filter (List.mem_of_mem_filter hlog))
    all_goals simp
  · cases h

/-- A goroutine in a backfill goes on with the rest of it, or with the subscription. -/
lemma Caught.backfill (last : ℕ) {upTo : ℕ} (rest : List Log)
    (hp : p = .backfilling last upTo rest ∨ (∃ block ≤ upTo, p = .storing last upTo rest block) ∨
      p = .subscribing upTo) (hphase : w.phase i = p) (hupTo : upTo ≤ w.head)
    (hcov : Covered w i upTo) (hlast : Covered w i w.lastBlock)
    (hrest : ∀ log ∈ rest, log.blockNumber > last → log.blockNumber ≤ upTo) : Caught w i := by
  rcases hp with rfl | ⟨block, hblock, rfl⟩ | rfl
  all_goals
    constructor <;> simp only [hphase, waits, mark, due, toStore,
      held]
    case waiting => exact fun _ => hlast
    case marked =>
      rintro m ⟨⟩
      exact ⟨hcov, hupTo⟩
    all_goals simp_all

/-- The loop of `backfillEvents` turns, or ends. -/
lemma Inv.backfill (hw : Inv w) (h : w.next (.backfill i) = some w') : Inv w' := by
  have hi := hw.caught i
  simp only [next] at h
  split at h
  · next last upTo hp =>
    cases h
    have hwaiting := hi.waiting (by rw [hp]; rfl)
    obtain ⟨hcov, hupTo⟩ := hi.marked upTo (by rw [hp]; rfl)
    have hdue : ∀ log ∈ (w.phase i).due, log ∈ (subscribing upTo).due := by
      simp [hp, due]
    apply hw.moveOn
    exact .backfill last [] (.inr (.inr rfl)) (by simp) hupTo
      (hcov.setPhase hdue) (hwaiting.setPhase hdue) (by simp)
  · next last upTo log rest hp =>
    have hwaiting := hi.waiting (by rw [hp]; rfl)
    obtain ⟨hcov, hupTo⟩ := hi.marked upTo (by rw [hp]; rfl)
    have hdue_le : ∀ x ∈ log :: rest, x.blockNumber > last → x.blockNumber ≤ upTo := by
      intro x hx hlast
      apply hi.due_le upTo (by rw [hp]; rfl)
      simp only [hp, due, List.mem_filter, decide_eq_true_eq]
      exact ⟨hx, hlast⟩
    have hrest : ∀ x ∈ rest, x.blockNumber > last → x.blockNumber ≤ upTo := fun x hx =>
      hdue_le x (List.mem_cons_of_mem log hx)
    split at h
    · next hlast =>
      cases h
      have hdue : ∀ x ∈ (w.phase i).due, x = log ∨
          x ∈ rest.filter fun log => log.blockNumber > last := by
        intro x hx
        simpa [hp, due, hlast] using hx
      apply hw.passOn
      split
      · exact .backfill last rest (.inr (.inl ⟨_, hdue_le log List.mem_cons_self hlast, rfl⟩))
          (by simp) hupTo (hcov.pass hdue) (hwaiting.pass hdue) hrest
      · exact .backfill last rest (.inl rfl) (by simp) hupTo (hcov.pass hdue) (hwaiting.pass hdue)
          hrest
    · next hlast =>
      cases h
      have hdue : ∀ x ∈ (w.phase i).due, x ∈ (backfilling last upTo rest).due := by
        intro x hx
        simpa [hp, due, hlast] using hx
      apply hw.moveOn
      exact .backfill last rest (.inl rfl) (by simp) hupTo (hcov.setPhase hdue)
        (hwaiting.setPhase hdue) hrest
  · cases h

/-- A live subscription holds logs of mined blocks. -/
lemma Caught.live (hwaits : (w.phase i).waits = false) (hmark : (w.phase i).mark = none)
    (htoStore : ∀ block ∈ (w.phase i).toStore, block ≤ w.head)
    (hheld : ∀ log ∈ (w.phase i).held, log.blockNumber ≤ w.head) : Caught w i := by
  refine ⟨?_, ?_, ?_, ?_, hheld⟩
  · intro h
    rw [hwaits] at h
    cases h
  · intro m hm
    rw [hmark] at hm
    cases hm
  · intro m hm
    rw [hmark] at hm
    cases hm
  · rw [hmark]
    exact htoStore

/-- `lastBlock` is stored, and the subscriptions that are not live have missed nothing up to it. -/
lemma Inv.store (hw : Inv w) (hguard : WatchGuard w (.store i))
    (h : w.next (.store i) = some w') : Inv w' := by
  have hi := hw.caught i
  simp only [next] at h
  split at h
  · next last upTo rest block hp =>
    cases h
    obtain ⟨hcov, hupTo⟩ := hi.marked upTo (by rw [hp]; rfl)
    have hblock : block ≤ upTo := by
      have := hi.toStore_le block (by rw [hp]; rfl)
      simpa [hp, mark] using this
    have hcov' : Covered ({ w with lastBlock := block }.setPhase i
        (.backfilling last upTo rest)) i upTo := by
      apply Covered.setPhase (w := { w with lastBlock := block }) hcov
      simp [hp, due]
    refine hw.move rfl rfl rfl rfl (fun _ _ => rfl) (hblock.trans hupTo)
      (hguard block (by rw [hp]; rfl)) ?_
    refine .backfill last rest (.inl rfl) (by simp) hupTo hcov' ?_ ?_
    · intro log hlog hmatch hstart hle
      exact hcov' log hlog hmatch hstart (hle.trans hblock)
    · intro log hlog hlast
      apply hi.due_le upTo (by rw [hp]; rfl)
      simp only [hp, due, List.mem_filter, decide_eq_true_eq]
      exact ⟨hlog, hlast⟩
  · next log inbox hp =>
    cases h
    have hheld := hi.held_le
    rw [hp] at hheld
    refine hw.move rfl rfl rfl rfl (fun _ _ => rfl) (hheld log List.mem_cons_self)
      (hguard log.blockNumber (by rw [hp]; rfl)) ?_
    apply Caught.live <;> simp only [setPhase_phase_self]
    · rfl
    · rfl
    · simp [toStore]
    · exact hheld
  · cases h

/-- The subscription is live. -/
lemma Inv.subscribed (hw : Inv w) (h : w.next (.subscribed i) = some w') : Inv w' := by
  simp only [next] at h
  split at h
  · cases h
    apply hw.moveOn
    apply Caught.live <;> simp [waits, mark, toStore, held]
  · cases h

/-- A goroutine is back at the head of its loop. -/
lemma Inv.reconnect (hw : Inv w) (hdue : (w.phase i).due = [])
    (hlast : Covered w i w.lastBlock) : Inv (w.setPhase i .connecting) := by
  apply hw.moveOn
  constructor <;> simp only [setPhase_phase_self, mark, due, toStore,
    held]
  case waiting =>
    intro _
    apply hlast.setPhase
    simp [hdue]
  all_goals simp

lemma Inv.subscribeFails (hw : Inv w) (h : w.next (.subscribeFails i) = some w') : Inv w' := by
  simp only [next] at h
  split at h
  · next hp =>
    cases h
    exact hw.reconnect (by rw [hp]; rfl) ((hw.caught i).waiting (by rw [hp]; rfl))
  · cases h

/-- A subscription drops that has passed on everything up to `lastBlock`. -/
lemma Inv.drop (hw : Inv w) (hguard : WatchGuard w (.drop i)) (h : w.next (.drop i) = some w') :
    Inv w' := by
  simp only [next] at h
  split at h
  · next hp =>
    cases h
    exact hw.reconnect (by rw [hp]; rfl) hguard
  · cases h

lemma Inv.receive (hw : Inv w) (h : w.next (.receive i) = some w') : Inv w' := by
  simp only [next] at h
  split at h
  · next log inbox hp =>
    cases h
    have hheld := (hw.caught i).held_le
    simp only [hp, held, List.mem_cons, forall_eq_or_imp] at hheld
    apply hw.moveOn
    split
    all_goals
      apply Caught.live <;> simp only [setPhase_phase_self] <;>
        simp [waits, mark, toStore, held, hheld.1]
      exact hheld.2
  · cases h

lemma Inv.handle (hw : Inv w) (h : w.next (.handle i) = some w') : Inv w' := by
  simp only [next] at h
  split at h
  · next log inbox hp =>
    cases h
    have hheld := (hw.caught i).held_le
    simp only [hp, held, List.mem_cons, forall_eq_or_imp] at hheld
    apply hw.passOn
    apply Caught.live <;> simp only [setPhase_phase_self] <;>
      simp [waits, mark, toStore, held]
    exact hheld.2
  · cases h

/-! ## Runs -/

/-- The watcher starts with nothing after the start in the chain. -/
lemma Started.inv (h : Started w) : Inv w := by
  have hcov : ∀ i block, Covered w i block := by
    intro i block log hlog _ hstart _
    have := h.chain log hlog
    rw [h.head] at this
    omega
  refine ⟨?_, h.chain, ?_⟩
  · rcases h.lastBlock with hlast | hlast <;> rw [hlast, h.head]
    exact Nat.zero_le _
  · intro i
    constructor <;> simp only [h.phase i, mark, due, toStore, held]
    case waiting => exact fun _ => hcov i _
    all_goals simp

/-- **One step.** -/
theorem Inv.step (hw : Inv w) {a : Action} (hs : Step w a w') (hguard : WatchGuard w a) :
    Inv w' := by
  cases a with
  | mine events => exact hw.mine hs
  | load i => exact hw.load hguard hs
  | filterLogs i => exact hw.filterLogs hs
  | filterFails i => exact hguard.elim
  | backfill i => exact hw.backfill hs
  | store i => exact hw.store hguard hs
  | subscribed i => exact hw.subscribed hs
  | subscribeFails i => exact hw.subscribeFails hs
  | receive i => exact hw.receive hs
  | handle i => exact hw.handle hs
  | drop i => exact hw.drop hguard hs

/-- A subscription that goes live has passed on everything up to the block that its backfill has
read, and that is everything there is. -/
lemma Inv.passedOn (hw : Inv w) {a : Action} (hs : Step w a w') (hguard : WatchGuard w a) :
    PassedOn w a := by
  cases a with
  | subscribed i =>
    intro log hlog hmatch hstart
    simp only [Step, next] at hs
    split at hs
    · next upTo hp =>
      have hmark : upTo ∈ (w.phase i).mark := by
        rw [hp]
        rfl
      have hle := hguard upTo hmark log hlog hmatch
      rcases ((hw.caught i).marked upTo hmark).1 log hlog hmatch hstart hle with h | h
      · exact h
      · simp [hp, due] at h
    · cases hs
  | _ => trivial

/-- **No event is lost.** Whenever a subscription goes live, every log of its filter after the start
block was passed to its handler, in every run of the six subscriptions whose steps meet the
condition. -/
theorem no_event_lost {w₀ : Watcher} (hstart : Started w₀) {l : List (Action × Watcher)}
    (hl : Path Step w₀ l) (hguard : StepsMeet WatchGuard w₀ l) : StepsMeet PassedOn w₀ l := by
  have hinv : StatesMeet Inv w₀ l := hl.invariant_of_steps
    (fun _ _ _ hw hguard hs => hw.step hs hguard) hstart.inv hguard
  exact hl.stepsMeet (fun _ _ _ hw hguard hs => hw.passedOn hs hguard) hinv hguard

/-- A watcher that was started at block `5`. -/
def startedAt5 : Watcher where
  start := 5
  head := 5
  chain := []
  lastBlock := 5
  phase _ := .connecting
  handled _ := []

lemma startedAt5_started : Started startedAt5 where
  head := rfl
  lastBlock := .inl rfl
  chain := nofun
  phase _ := rfl

/-- A goroutine goes through a backfill with `n` logs in the answer and is live. -/
def reconnect (i : Subscription) (n : ℕ) : List Action :=
  [.load i, .filterLogs i] ++ List.replicate (n + 1) (.backfill i) ++ [.subscribed i]

/-- The slash subscription drops, a slash is mined, and the stake subscription sees nothing new:
the backfill finds the slash. -/
theorem no_event_lost_slash :
    let run := trace next startedAt5 (reconnect .stake 0 ++ reconnect .slash 0 ++
      [.drop .slash, .mine [.slashed]] ++
      [.load .slash, .filterLogs .slash, .backfill .slash, .store .slash, .backfill .slash,
        .subscribed .slash])
    run.length = 16 ∧ StepsMeet WatchGuard startedAt5 run ∧ StepsMeet PassedOn startedAt5 run := by
  intro run
  have hguard : StepsMeet WatchGuard startedAt5 run := by decide +kernel
  exact ⟨by decide +kernel, hguard, no_event_lost startedAt5_started (trace_path _ _) hguard⟩

/-- **A slash is lost.** The slash subscription drops, a slash and a stake are mined in block `6`,
and the stake subscription receives the latter and sets `lastBlock` to `6`. The backfill of the
slash subscription then asks for blocks above `6` and goes live without the slash. -/
theorem slash_lost :
    let run := trace next startedAt5 (reconnect .stake 0 ++ reconnect .slash 0 ++
      [.drop .slash, .mine [.slashed, .staked], .receive .stake, .store .stake, .handle .stake] ++
      reconnect .slash 1)
    Started startedAt5 ∧ Path Step startedAt5 run ∧ run.length = 18 ∧
      (endState startedAt5 run).phase .slash = .live [] ∧
      ⟨6, 0, .slashed⟩ ∈ (endState startedAt5 run).chain ∧
      (endState startedAt5 run).handled .slash = [] ∧
      ¬ StepsMeet PassedOn startedAt5 run := by
  refine ⟨startedAt5_started, trace_path _ _, ?_, ?_, ?_, ?_, ?_⟩ <;> decide +kernel

end Moltbunker.Payment.EventWatcher
