import Moltbunker.Lib.Path

/-!
# Threads over one readers–writer lock

Threads share a state and a lock that many readers or one writer can have. The lock is not
reentrant: who has it and asks again waits for itself. As in Go's `sync.RWMutex`, a writer that
waits for the readers to leave keeps new readers out.

A thread is where it is in its program. Its position says what it has of the lock and what its next
step asks of it, so that there is no lock besides the threads. `LockProgram` is the program of all
threads, with the laws that tie a step to what it asks for, and a measure of the work that is left
for a thread and for those that it starts.

* `LockProgram.progress` — if no thread waits for itself, then some thread can go on until all have
  ended;
* `LockProgram.work_next`, `LockProgram.length_le_work` — they cannot go on for ever;
* `LockProgram.next_of_selfWaits` — a thread that waits for itself does so for ever;
* `LockProgram.next_alone` — a thread that is alone.
-/

namespace Moltbunker.Lib

/-- What a thread has of the lock. -/
inductive Access where
  | none
  | read
  /-- its turn to write is next, and it waits for the readers -/
  | pending
  | write
  deriving DecidableEq

/-- What the next step of a thread asks of the lock. -/
inductive Request where
  | rlock
  /-- the call of `Lock` -/
  | lock
  /-- the end of its wait for the readers -/
  | acquire
  /-- nothing; the step may release what the thread has -/
  | free
  /-- the thread has ended -/
  | stop
  deriving DecidableEq

/-- The program of threads with positions `τ` over the state `σ`. A step reads an input. -/
structure LockProgram (σ τ ι : Type) where
  access : τ → Access
  request : τ → Request
  admits : σ → τ → ι → Bool
  /-- the state, the position and the threads that are started -/
  step : σ → τ → ι → σ × τ × List τ
  /-- the steps that are left, those of threads to be started among them -/
  work : τ → ℕ
  admits_some : ∀ s p, ∃ i, admits s p i = true
  acquire_iff : ∀ p, request p = .acquire ↔ access p = .pending
  /-- no thread asks while it reads -/
  access_of_asks : ∀ p, request p = .rlock ∨ request p = .lock →
    access p = .none ∨ access p = .write
  access_of_stop : ∀ p, request p = .stop → access p = .none
  work_step : ∀ s p i, request p ≠ .stop →
    work (step s p i).2.1 + ((step s p i).2.2.map work).sum < work p

/-- The state and the threads. -/
structure Threaded (σ τ : Type) where
  shared : σ
  threads : List τ

namespace LockProgram

variable {σ τ ι : Type} (prog : LockProgram σ τ ι)

/-- No thread writes or is about to. -/
def Open (threads : List τ) : Prop :=
  ∀ p ∈ threads, prog.access p ≠ .pending ∧ prog.access p ≠ .write

/-- The threads give a thread what it asks for. -/
def Granted (threads : List τ) (p : τ) : Prop :=
  match prog.request p with
  | .rlock => prog.Open threads
  | .lock => prog.Open threads
  | .acquire => ∀ q ∈ threads, prog.access q ≠ .read
  | .free => True
  | .stop => False

instance (threads : List τ) (p : τ) : Decidable (prog.Granted threads p) :=
  match h : prog.request p with
  | .rlock => decidable_of_iff (∀ q ∈ threads, prog.access q ≠ .pending ∧ prog.access q ≠ .write)
      (by unfold Granted; rw [h]; rfl)
  | .lock => decidable_of_iff (∀ q ∈ threads, prog.access q ≠ .pending ∧ prog.access q ≠ .write)
      (by unfold Granted; rw [h]; rfl)
  | .acquire => decidable_of_iff (∀ q ∈ threads, prog.access q ≠ .read)
      (by unfold Granted; rw [h])
  | .free => .isTrue (by unfold Granted; rw [h]; trivial)
  | .stop => .isFalse (by unfold Granted; rw [h]; exact not_false)

/-- A thread waits for a lock that it has itself. -/
def SelfWaits (p : τ) : Prop :=
  (prog.request p = .rlock ∨ prog.request p = .lock) ∧ prog.access p = .write

/-- The work that is left for all threads. -/
def workLeft (s : Threaded σ τ) : ℕ := (s.threads.map prog.work).sum

/-- One step of the thread at a place, if it is granted. -/
def next (s : Threaded σ τ) (a : ℕ × ι) : Option (Threaded σ τ) :=
  match s.threads[a.1]? with
  | none => none
  | some p =>
    if prog.Granted s.threads p ∧ prog.admits s.shared p a.2 then
      let (shared, p', started) := prog.step s.shared p a.2
      some ⟨shared, s.threads.set a.1 p' ++ started⟩
    else none

/-- One step of a thread. -/
def Next (s : Threaded σ τ) (a : ℕ × ι) (s' : Threaded σ τ) : Prop := prog.next s a = some s'

variable {prog} {s s' : Threaded σ τ} {p : τ}

variable {a : ℕ × ι}

lemma next_iff : prog.Next s a s' ↔
    ∃ p, s.threads[a.1]? = some p ∧ prog.Granted s.threads p ∧ prog.admits s.shared p a.2 = true ∧
      s' = ⟨(prog.step s.shared p a.2).1,
        s.threads.set a.1 (prog.step s.shared p a.2).2.1 ++ (prog.step s.shared p a.2).2.2⟩ := by
  unfold Next next
  cases s.threads[a.1]? with
  | none => simp
  | some p =>
    dsimp only
    constructor
    · intro h
      split at h
      · next hgranted => exact ⟨p, rfl, hgranted.1, hgranted.2, (Option.some.inj h).symm⟩
      · cases h
    · rintro ⟨q, hq, hgranted, hadmits, rfl⟩
      cases hq
      rw [if_pos ⟨hgranted, hadmits⟩]

/-! ## Going on -/

/-- A thread that has some of the lock and does not wait for itself can go on, unless it waits for
readers. -/
lemma granted_of_access (hself : ¬ prog.SelfWaits p) (hnone : prog.access p ≠ .none)
    (hpending : prog.access p ≠ .pending) : prog.Granted s.threads p := by
  have hasks : ¬ (prog.request p = .rlock ∨ prog.request p = .lock) := by
    intro hasks
    rcases prog.access_of_asks p hasks with h | h
    · exact hnone h
    · exact hself ⟨hasks, h⟩
  have hacquire := mt (prog.acquire_iff p).mp hpending
  have hstop := mt (prog.access_of_stop p) hnone
  unfold Granted
  cases hrequest : prog.request p with
  | rlock => exact absurd (Or.inl hrequest) hasks
  | lock => exact absurd (Or.inr hrequest) hasks
  | acquire => exact absurd hrequest hacquire
  | free => trivial
  | stop => exact absurd hrequest hstop

/-- **Some thread can go on**, if none waits for itself and one has not ended. -/
theorem progress (hself : ∀ p ∈ s.threads, ¬ prog.SelfWaits p)
    (hwork : ∃ p ∈ s.threads, prog.request p ≠ .stop) : ∃ a s', prog.Next s a s' := by
  suffices h : ∃ p ∈ s.threads, prog.Granted s.threads p by
    obtain ⟨p, hp, hgranted⟩ := h
    obtain ⟨t, ht⟩ := List.mem_iff_getElem?.mp hp
    obtain ⟨i, hi⟩ := prog.admits_some s.shared p
    exact ⟨(t, i), _, next_iff.mpr ⟨p, ht, hgranted, hi, rfl⟩⟩
  -- a writer or a reader goes first, then who waits for the readers, then anyone
  by_cases hhas : ∃ p ∈ s.threads, prog.access p ≠ .none ∧ prog.access p ≠ .pending
  · obtain ⟨p, hp, hnone, hpending⟩ := hhas
    exact ⟨p, hp, granted_of_access (hself p hp) hnone hpending⟩
  have hidle : ∀ p ∈ s.threads, prog.access p = .none ∨ prog.access p = .pending := by
    intro p hp
    by_contra hcontra
    exact hhas ⟨p, hp, not_or.mp hcontra⟩
  by_cases hpending : ∃ p ∈ s.threads, prog.access p = .pending
  · obtain ⟨p, hp, hpending⟩ := hpending
    refine ⟨p, hp, ?_⟩
    unfold Granted
    rw [(prog.acquire_iff p).mpr hpending]
    intro q hq hread
    rcases hidle q hq with h | h
    · rw [hread] at h
      cases h
    · rw [hread] at h
      cases h
  · obtain ⟨p, hp, hstop⟩ := hwork
    have hopen : prog.Open s.threads := by
      intro q hq
      have hnone : prog.access q = .none :=
        (hidle q hq).resolve_right fun h => hpending ⟨q, hq, h⟩
      simp [hnone]
    refine ⟨p, hp, ?_⟩
    unfold Granted
    cases hrequest : prog.request p with
    | rlock => exact hopen
    | lock => exact hopen
    | acquire => exact absurd ⟨p, hp, (prog.acquire_iff p).mp hrequest⟩ hpending
    | free => trivial
    | stop => exact absurd hrequest hstop

lemma Granted.request_ne_stop (h : prog.Granted s.threads p) : prog.request p ≠ .stop := by
  intro hstop
  unfold Granted at h
  rw [hstop] at h
  exact h

/-- **Each step takes some of the work.** -/
theorem work_next (h : prog.Next s a s') : prog.workLeft s' < prog.workLeft s := by
  obtain ⟨p, hp, hgranted, -, rfl⟩ := next_iff.mp h
  have hstep := prog.work_step s.shared p a.2 hgranted.request_ne_stop
  obtain ⟨hlt, hget⟩ := List.getElem?_eq_some_iff.mp hp
  have hsplit : s.threads = s.threads.take a.1 ++ p :: s.threads.drop (a.1 + 1) := by
    rw [← hget, ← List.drop_eq_getElem_cons hlt, List.take_append_drop]
  have hbefore : prog.workLeft s = ((s.threads.take a.1).map prog.work).sum + (prog.work p +
      ((s.threads.drop (a.1 + 1)).map prog.work).sum) := by
    unfold workLeft
    conv_lhs => rw [hsplit]
    rw [List.map_append, List.sum_append, List.map_cons, List.sum_cons]
  rw [hbefore]
  unfold workLeft
  rw [List.map_append, List.sum_append, List.set_eq_take_append_cons_drop, if_pos hlt,
    List.map_append, List.sum_append, List.map_cons, List.sum_cons]
  omega

/-- **The steps of the threads come to an end.** -/
theorem length_le_work {l : List ((ℕ × ι) × Threaded σ τ)} (h : Path prog.Next s l) :
    l.length + prog.workLeft (endState s l) ≤ prog.workLeft s := by
  induction l generalizing s with
  | nil => simp
  | cons x l ih =>
    have hfirst := work_next h.1
    have hrest := ih h.2
    rw [List.length_cons, endState_cons]
    omega

/-! ## What a step leaves alone -/

/-- The other threads stay where they are. -/
lemma getElem?_next_of_ne (h : prog.Next s a s') {t : ℕ} (ht : t ≠ a.1)
    (hp : s.threads[t]? = some p) : s'.threads[t]? = some p := by
  obtain ⟨q, -, -, -, rfl⟩ := next_iff.mp h
  obtain ⟨hlt, -⟩ := List.getElem?_eq_some_iff.mp hp
  rw [List.getElem?_append_left (by rwa [List.length_set]), List.getElem?_set_ne ht.symm, hp]

/-- **A thread that waits for itself stays where it is.** -/
theorem next_of_selfWaits (h : prog.Next s a s') {t : ℕ} (hself : prog.SelfWaits p)
    (hp : s.threads[t]? = some p) : s'.threads[t]? = some p := by
  refine getElem?_next_of_ne h ?_ hp
  rintro rfl
  obtain ⟨q, hq, hgranted, -, -⟩ := next_iff.mp h
  rw [hp] at hq
  cases hq
  -- the step asks for an open lock, which the thread itself keeps closed
  have hopen : prog.Open s.threads := by
    unfold Granted at hgranted
    rcases hself.1 with hrequest | hrequest <;> rwa [hrequest] at hgranted
  exact (hopen p (List.mem_of_getElem? hp)).2 hself.2

/-- **What a step does**: one thread moves, and others are started. -/
theorem Next.cases (h : prog.Next s a s') :
    ∃ p, s.threads[a.1]? = some p ∧ s'.shared = (prog.step s.shared p a.2).1 ∧
      (prog.step s.shared p a.2).2.1 ∈ s'.threads ∧
      ∀ q ∈ s'.threads, q ∈ s.threads ∨ q = (prog.step s.shared p a.2).2.1 ∨
        q ∈ (prog.step s.shared p a.2).2.2 := by
  obtain ⟨p, hp, -, -, rfl⟩ := next_iff.mp h
  obtain ⟨hlt, -⟩ := List.getElem?_eq_some_iff.mp hp
  refine ⟨p, hp, rfl, ?_, ?_⟩
  · exact List.mem_append_left _ (List.mem_set hlt _)
  · intro q hq
    rcases List.mem_append.mp hq with hq | hq
    · rcases List.mem_or_eq_of_mem_set hq with hq | hq
      · exact Or.inl hq
      · exact Or.inr (Or.inl hq)
    · exact Or.inr (Or.inr hq)

/-- A step of a thread that is alone. -/
lemma next_alone {shared : σ} {i : ι} (h : prog.Granted [p] p)
    (hadmits : prog.admits shared p i = true) : prog.Next ⟨shared, [p]⟩ (0, i)
    ⟨(prog.step shared p i).1, (prog.step shared p i).2.1 :: (prog.step shared p i).2.2⟩ :=
  next_iff.mpr ⟨p, rfl, h, hadmits, rfl⟩

end LockProgram

end Moltbunker.Lib
