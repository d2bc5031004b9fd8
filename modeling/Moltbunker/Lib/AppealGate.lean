import Moltbunker.Lib.Path

/-!
# Penalties with an appeal window

A protocol for penalties. A proposal names its target and opens a window. Once the window has
passed an unappealed proposal may be executed; within it the target may appeal, and an appeal is
upheld, which executes the proposal, or dismissed.

`Gate` is the machine that keeps three flags for each proposal, and `Gate.next` admits an event or
refuses it. `AppealSafe` is what the protocol promises, as a property of the list of the admitted
events alone: it does not mention the flags. Every run of the machine keeps the promise
(`Gate.Ran.appealSafe`), and so does a program that only does what the machine admits
(`Gate.promiseKept_of_path`).
-/

namespace Moltbunker.Lib

open Function

variable {P : Type}

/-- What happens to proposals. -/
inductive GateEvent (P : Type) where
  /-- a proposal is opened; proposals are numbered from `0` -/
  | propose (target : P) (openedAt window : ℕ)
  /-- an unappealed proposal is executed -/
  | execute (id t : ℕ) (authorized enabled : Bool)
  | appeal (id : ℕ) (sender : P) (t : ℕ)
  /-- an appeal is rejected, and the proposal executed -/
  | uphold (id : ℕ) (authorized enabled : Bool)
  /-- an appeal is granted -/
  | dismiss (id : ℕ) (authorized : Bool)
  | other

namespace GateEvent

/-- The event opens a proposal. -/
def opens : GateEvent P → Bool
  | .propose _ _ _ => true
  | _ => false

/-- The proposal that is executed, appealed or resolved. -/
def subject : GateEvent P → Option ℕ
  | .execute id _ _ _ => some id
  | .appeal id _ _ => some id
  | .uphold id _ _ => some id
  | .dismiss id _ => some id
  | _ => none

/-- The proposal whose penalty is applied. -/
def penalizes : GateEvent P → Option ℕ
  | .execute id _ _ _ => some id
  | .uphold id _ _ => some id
  | _ => none

/-- The proposal that is executed or dismissed. -/
def settles : GateEvent P → Option ℕ
  | .execute id _ _ _ => some id
  | .uphold id _ _ => some id
  | .dismiss id _ => some id
  | _ => none

end GateEvent

/-! ## What the protocol promises -/

/-- The events `E` open the proposal `id`: it is the one that so many proposals precede. -/
def Opened (E : List (GateEvent P)) (id : ℕ) (target : P) (openedAt window : ℕ) : Prop :=
  ∃ A B, E = A ++ .propose target openedAt window :: B ∧ A.countP GateEvent.opens = id

variable {E : List (GateEvent P)} {e : GateEvent P} {id : ℕ}

lemma Opened.append {target : P} {openedAt window : ℕ}
    (h : Opened E id target openedAt window) (F : List (GateEvent P)) :
    Opened (E ++ F) id target openedAt window := by
  obtain ⟨A, B, rfl, hA⟩ := h
  exact ⟨A, B ++ F, by simp, hA⟩

/-- **The promise.** -/
structure AppealSafe (E : List (GateEvent P)) : Prop where
  /-- A penalty is applied while penalties are enabled, for a proposal that was opened. Either it is
  executed after the window and never appealed, or its target has appealed it within the window
  and the appeal is upheld. -/
  justified : ∀ A e B id, E = A ++ e :: B → e.penalizes = some id →
    ∃ target openedAt window, Opened A id target openedAt window ∧
      ((∃ t, e = .execute id t true true ∧ openedAt + window ≤ t ∧
          ∀ sender t', .appeal id sender t' ∉ E) ∨
        (e = .uphold id true true ∧
          ∃ t, .appeal id target t ∈ A ∧ t < openedAt + window))
  /-- A proposal that was executed or dismissed is not executed, appealed or resolved again. -/
  final : ∀ A e B id, E = A ++ e :: B → e.settles = some id → ∀ e' ∈ B, e'.subject ≠ some id

/-- The events that apply the penalty of one proposal. -/
def penalties (id : ℕ) (E : List (GateEvent P)) : List (GateEvent P) :=
  E.filter fun e => e.penalizes == some id

lemma settles_of_penalizes (h : e.penalizes = some id) : e.settles = some id := by
  cases e with
  | execute _ _ _ _ | uphold _ _ _ => exact h
  | propose _ _ _ | appeal _ _ _ | dismiss _ _ | other => cases h

lemma subject_of_settles (h : e.settles = some id) : e.subject = some id := by
  cases e with
  | execute _ _ _ _ | uphold _ _ _ | dismiss _ _ => exact h
  | propose _ _ _ | appeal _ _ _ | other => cases h

/-- **Every penalty is applied at most once.** -/
theorem AppealSafe.once (h : AppealSafe E) (id : ℕ) : (penalties id E).length ≤ 1 := by
  -- after the first penalty no event concerns the proposal
  have hrest : ∀ A B : List (GateEvent P), E = A ++ B → (penalties id B).length ≤ 1 := by
    intro A B
    induction B generalizing A with
    | nil => simp [penalties]
    | cons e B ih =>
      intro hE
      by_cases he : e.penalizes = some id
      · have hnone : penalties id B = [] := by
          refine List.filter_eq_nil_iff.mpr fun e' he' => ?_
          rw [beq_iff_eq]
          intro hpen
          exact h.final A e B id hE (settles_of_penalizes he) e' he'
            (subject_of_settles (settles_of_penalizes hpen))
        have hcons : penalties id (e :: B) = e :: penalties id B :=
          List.filter_cons_of_pos (by rw [he, beq_self_eq_true])
        rw [hcons, hnone]
        exact Nat.le_refl 1
      · have hcons : penalties id (e :: B) = penalties id B :=
          List.filter_cons_of_neg (by rw [beq_iff_eq]; exact he)
        rw [hcons]
        exact ih (A ++ [e]) (by rw [hE, List.append_assoc]; rfl)
  exact hrest [] E rfl

/-! ## The machine -/

/-- One proposal. -/
structure Docket (P : Type) where
  target : P
  openedAt : ℕ
  window : ℕ
  executed : Bool
  appealed : Bool
  resolved : Bool

/-- The proposals; the entries below `count` are in use. -/
structure Gate (P : Type) where
  count : ℕ
  docket : ℕ → Docket P

namespace Gate

/-- Overwrite one proposal. -/
def mark (g : Gate P) (id : ℕ) (d : Docket P) : Gate P :=
  { g with docket := update g.docket id d }

/-- The conditions of the protocol. -/
def Admits (g : Gate P) : GateEvent P → Prop
  | .propose _ _ _ => True
  | .execute id t authorized enabled =>
    authorized = true ∧ enabled = true ∧ id < g.count ∧ (g.docket id).executed = false ∧
      (g.docket id).appealed = false ∧ (g.docket id).openedAt + (g.docket id).window ≤ t
  | .appeal id sender t =>
    id < g.count ∧ (g.docket id).executed = false ∧ (g.docket id).appealed = false ∧
      sender = (g.docket id).target ∧ t < (g.docket id).openedAt + (g.docket id).window
  | .uphold id authorized enabled =>
    authorized = true ∧ enabled = true ∧ id < g.count ∧ (g.docket id).appealed = true ∧
      (g.docket id).resolved = false ∧ (g.docket id).executed = false
  | .dismiss id authorized =>
    authorized = true ∧ id < g.count ∧ (g.docket id).appealed = true ∧
      (g.docket id).resolved = false ∧ (g.docket id).executed = false
  | .other => True

/-- What an admitted event does. -/
def next (g : Gate P) : GateEvent P → Gate P
  | .propose target openedAt window =>
    { count := g.count + 1
      docket := update g.docket g.count ⟨target, openedAt, window, false, false, false⟩ }
  | .execute id _ _ _ => g.mark id { g.docket id with executed := true }
  | .appeal id _ _ => g.mark id { g.docket id with appealed := true }
  | .uphold id _ _ =>
    g.mark id { g.docket id with
      resolved := true
      executed := true }
  | .dismiss id _ => g.mark id { g.docket id with resolved := true }
  | .other => g

/-- The machine has admitted the events `E` and is in state `g`. -/
inductive Ran : List (GateEvent P) → Gate P → Prop
  | start {g : Gate P} (h : g.count = 0) : Ran [] g
  | step {E : List (GateEvent P)} {g : Gate P} {e : GateEvent P} (h : Ran E g) (ha : g.Admits e) :
      Ran (E ++ [e]) (g.next e)

/-- An appeal and an execution are never admitted at the same time. -/
lemma not_appeal_and_execute {g : Gate P} {id t : ℕ} {sender : P} {authorized enabled : Bool}
    (h : g.Admits (.appeal id sender t)) : ¬ g.Admits (.execute id t authorized enabled) := by
  intro h'
  have h₁ := h.2.2.2.2
  have h₂ := h'.2.2.2.2.2
  omega

/-! ## The machine keeps the promise -/

/-- Nothing can happen to the proposal any more. -/
def Docket.Closed (d : Docket P) : Prop :=
  d.executed = true ∨ (d.appealed = true ∧ d.resolved = true)

variable {g : Gate P}

/-- An admitted event concerns a proposal that was opened and is not closed. -/
lemma Admits.not_closed (ha : g.Admits e) (he : e.subject = some id) :
    id < g.count ∧ ¬ Docket.Closed (g.docket id) := by
  unfold Docket.Closed
  cases e with
  | execute _ _ _ _ =>
    cases he
    exact ⟨ha.2.2.1, by simp [ha.2.2.2.1, ha.2.2.2.2.1]⟩
  | appeal _ _ _ =>
    cases he
    exact ⟨ha.1, by simp [ha.2.1, ha.2.2.1]⟩
  | uphold _ _ _ =>
    cases he
    exact ⟨ha.2.2.1, by simp [ha.2.2.2.2.1, ha.2.2.2.2.2]⟩
  | dismiss _ _ =>
    cases he
    exact ⟨ha.2.1, by simp [ha.2.2.2.1, ha.2.2.2.2]⟩
  | propose _ _ _ | other => cases he

lemma next_count : (g.next e).count = g.count + if e.opens then 1 else 0 := by
  cases e with
  | propose _ _ _ => rfl
  | _ => rfl

/-- What a mark does to the entries. -/
lemma mark_docket (id i : ℕ) (d : Docket P) :
    (g.mark id d).docket i = if i = id then d else g.docket i := update_apply _ _ _ _

variable {i : ℕ}

/-- An event does not change who is charged with what, and when. -/
lemma next_data (e : GateEvent P) (hi : i < g.count) :
    ((g.next e).docket i).target = (g.docket i).target ∧
      ((g.next e).docket i).openedAt = (g.docket i).openedAt ∧
      ((g.next e).docket i).window = (g.docket i).window := by
  cases e with
  | propose _ _ _ => simp [next, update_of_ne (Nat.ne_of_lt hi)]
  | execute id _ _ _ | appeal id _ _ | uphold id _ _ | dismiss id _ =>
    simp only [next, mark_docket]
    split
    · next h =>
      subst h
      exact ⟨rfl, rfl, rfl⟩
    · exact ⟨rfl, rfl, rfl⟩
  | other => exact ⟨rfl, rfl, rfl⟩

/-- A proposal becomes appealed by an appeal. -/
lemma next_appealed (e : GateEvent P) (hi : i < g.count) : ((g.next e).docket i).appealed = true ↔
    (g.docket i).appealed = true ∨ ∃ sender t, e = .appeal i sender t := by
  cases e with
  | propose _ _ _ => simp [next, update_of_ne (Nat.ne_of_lt hi)]
  | appeal id sender t =>
    simp only [next, mark_docket]
    by_cases h : i = id
    · subst h
      simp
    · simp [h, Ne.symm h]
  | execute id _ _ _ | uphold id _ _ | dismiss id _ =>
    simp only [next, mark_docket]
    split
    · next h =>
      subst h
      simp
    · simp
  | other => simp [next]

/-- A closed proposal stays closed, and one that is settled becomes closed. -/
lemma next_closed (ha : g.Admits e) (hi : i < g.count)
    (h : Docket.Closed (g.docket i) ∨ e.settles = some i) :
    Docket.Closed ((g.next e).docket i) := by
  -- an event about a closed proposal is not admitted
  have hother : ∀ id d, e.subject = some id → e.settles ≠ some id → Docket.Closed (g.docket i) →
      Docket.Closed ((g.mark id d).docket i) := by
    intro id d hs _ hc
    rw [mark_docket, if_neg]
    · exact hc
    · rintro rfl
      exact (ha.not_closed hs).2 hc
  have hsettled : ∀ id d, e.settles = some id → Docket.Closed d →
      Docket.Closed ((g.mark id d).docket i) := by
    intro id d hs hd
    rw [mark_docket]
    split
    · exact hd
    · next hne =>
      rcases h with hc | he
      · exact hc
      · exact absurd (Option.some.inj (he.symm.trans hs)) hne
  cases e with
  | propose _ _ _ =>
    rcases h with hc | he
    · simp only [next, update_of_ne (Nat.ne_of_lt hi)]
      exact hc
    · cases he
  | execute id _ _ _ => exact hsettled id _ rfl (.inl rfl)
  | appeal id _ _ =>
    rcases h with hc | he
    · exact hother id _ rfl (fun h => by cases h) hc
    · cases he
  | uphold id _ _ => exact hsettled id _ rfl (.inl rfl)
  | dismiss id _ => exact hsettled id _ rfl (.inr ⟨ha.2.2.1, rfl⟩)
  | other =>
    rcases h with hc | he
    · exact hc
    · cases he

/-- The flags record the history. -/
structure Recorded (E : List (GateEvent P)) (g : Gate P) : Prop where
  count : g.count = E.countP GateEvent.opens
  known : ∀ e ∈ E, ∀ id, e.subject = some id → id < g.count
  opened : ∀ id < g.count, Opened E id (g.docket id).target (g.docket id).openedAt
    (g.docket id).window
  appealed : ∀ id < g.count,
    (g.docket id).appealed = true ↔ ∃ sender t, GateEvent.appeal id sender t ∈ E
  lodged : ∀ id sender t, GateEvent.appeal id sender t ∈ E → sender = (g.docket id).target ∧
    t < (g.docket id).openedAt + (g.docket id).window
  settled : ∀ e ∈ E, ∀ id, e.settles = some id → Docket.Closed (g.docket id)

/-- **Every event is recorded.** -/
theorem Recorded.step (h : Recorded E g) (ha : g.Admits e) : Recorded (E ++ [e]) (g.next e) := by
  have hle : g.count ≤ (g.next e).count := by
    rw [next_count]
    exact Nat.le_add_right _ _
  -- the proposals that were open before keep their data, and there is at most one more
  have hnew : ∀ id < (g.next e).count, id < g.count ∨
      ∃ target openedAt window, e = .propose target openedAt window ∧ id = g.count := by
    intro id hid
    cases e with
    | propose target openedAt window =>
      rcases Nat.lt_succ_iff_lt_or_eq.mp hid with hlt | heq
      · exact .inl hlt
      · exact .inr ⟨target, openedAt, window, rfl, heq⟩
    | _ => exact .inl hid
  refine ⟨?_, ?_, ?_, ?_, ?_, ?_⟩
  · rw [next_count, List.countP_append, h.count]
    simp [List.countP_cons]
  · intro x hx id hs
    rcases List.mem_append.mp hx with hx | hx
    · exact Nat.lt_of_lt_of_le (h.known x hx id hs) hle
    · obtain rfl := List.mem_singleton.mp hx
      exact Nat.lt_of_lt_of_le (ha.not_closed hs).1 hle
  · intro id hid
    rcases hnew id hid with hid | ⟨target, openedAt, window, rfl, rfl⟩
    · obtain ⟨h₁, h₂, h₃⟩ := g.next_data e hid
      rw [h₁, h₂, h₃]
      exact (h.opened id hid).append [e]
    · simp only [next, update_self]
      exact ⟨E, [], rfl, h.count.symm⟩
  · intro id hid
    rcases hnew id hid with hid | ⟨target, openedAt, window, rfl, rfl⟩
    · rw [g.next_appealed e hid, h.appealed id hid]
      simp only [List.mem_append, List.mem_singleton, exists_or, eq_comm]
    · simp only [next, update_self, Bool.false_eq_true, false_iff]
      rintro ⟨sender, t, hmem⟩
      rcases List.mem_append.mp hmem with hmem | hmem
      · exact Nat.lt_irrefl _ (h.known _ hmem g.count rfl)
      · simp at hmem
  · intro id sender t hmem
    rcases List.mem_append.mp hmem with hmem | hmem
    · obtain ⟨h₁, h₂, h₃⟩ := g.next_data e (h.known _ hmem id rfl)
      rw [h₁, h₂, h₃]
      exact h.lodged id sender t hmem
    · obtain rfl := List.mem_singleton.mp hmem
      obtain ⟨hid, -, -, hsender, ht⟩ := ha
      obtain ⟨h₁, h₂, h₃⟩ := g.next_data (.appeal id sender t) hid
      rw [h₁, h₂, h₃]
      exact ⟨hsender, ht⟩
  · intro x hx id hs
    rcases List.mem_append.mp hx with hx | hx
    · exact next_closed ha (h.known x hx id (subject_of_settles hs)) (.inl (h.settled x hx id hs))
    · obtain rfl := List.mem_singleton.mp hx
      exact next_closed ha (ha.not_closed (subject_of_settles hs)).1 (.inr hs)

lemma Ran.recorded (h : Ran E g) : Recorded E g := by
  induction h with
  | start h =>
    refine ⟨by rw [h]; rfl, by simp, ?_, ?_, by simp, by simp⟩
    all_goals
      intro id hid
      rw [h] at hid
      exact absurd hid (Nat.not_lt_zero id)
  | step _ ha ih => exact ih.step ha

/-- An event of a longer list is the last one or one of the shorter list. -/
lemma mem_snoc_cases {A B : List (GateEvent P)} {x : GateEvent P} (h : E ++ [e] = A ++ x :: B) :
    (A = E ∧ x = e ∧ B = []) ∨ ∃ B', B = B' ++ [e] ∧ E = A ++ x :: B' := by
  rcases List.eq_nil_or_concat B with rfl | ⟨B', y, rfl⟩
  · obtain ⟨h₁, h₂⟩ := List.append_inj' h rfl
    exact .inl ⟨h₁.symm, (List.head_eq_of_cons_eq h₂).symm, rfl⟩
  · rw [List.concat_eq_append, ← List.cons_append, ← List.append_assoc] at h
    obtain ⟨h₁, h₂⟩ := List.append_inj' h rfl
    rw [List.concat_eq_append, List.head_eq_of_cons_eq h₂]
    exact .inr ⟨B', rfl, h₁⟩

/-- A penalty that the machine admits is justified by what was recorded. -/
lemma Recorded.justified (h : Recorded E g) (ha : g.Admits e) (he : e.penalizes = some id) :
    ∃ target openedAt window, Opened E id target openedAt window ∧
      ((∃ t, e = .execute id t true true ∧ openedAt + window ≤ t ∧
          ∀ sender t', .appeal id sender t' ∉ E ++ [e]) ∨
        (e = .uphold id true true ∧ ∃ t, .appeal id target t ∈ E ∧ t < openedAt + window)) := by
  cases e with
  | execute id' t authorized enabled =>
    cases he
    obtain ⟨rfl, rfl, hid, -, happealed, htime⟩ := ha
    refine ⟨_, _, _, h.opened id hid, .inl ⟨t, rfl, htime, fun sender t' hmem => ?_⟩⟩
    rcases List.mem_append.mp hmem with hmem | hmem
    · have := (h.appealed id hid).mpr ⟨sender, t', hmem⟩
      rw [happealed] at this
      cases this
    · simp at hmem
  | uphold id' authorized enabled =>
    cases he
    obtain ⟨rfl, rfl, hid, happealed, -, -⟩ := ha
    obtain ⟨sender, t, hmem⟩ := (h.appealed id hid).mp happealed
    obtain ⟨rfl, ht⟩ := h.lodged id sender t hmem
    exact ⟨_, _, _, h.opened id hid, .inr ⟨rfl, t, hmem, ht⟩⟩
  | _ => cases he

/-- **Every run keeps the promise.** -/
theorem Ran.appealSafe (h : Ran E g) : AppealSafe E := by
  induction h with
  | start _ =>
    constructor
    all_goals
      intro A e B id hE
      simp at hE
  | @step E g e hrun ha ih =>
    have hrec := hrun.recorded
    -- the new event does not concern a proposal that was settled before
    have hopen : ∀ x ∈ E, ∀ id, x.settles = some id → e.subject ≠ some id :=
      fun x hx id hs he => (ha.not_closed he).2 (hrec.settled x hx id hs)
    constructor
    · intro A x B id hE hx
      rcases mem_snoc_cases hE with ⟨rfl, rfl, rfl⟩ | ⟨B', rfl, hE'⟩
      · exact hrec.justified ha hx
      · obtain ⟨target, openedAt, window, hopened, hcase⟩ := ih.justified A x B' id hE' hx
        refine ⟨target, openedAt, window, hopened, hcase.imp_left ?_⟩
        rintro ⟨t, rfl, htime, hnever⟩
        refine ⟨t, rfl, htime, fun sender t' hmem => ?_⟩
        rcases List.mem_append.mp hmem with hmem | hmem
        · exact hnever sender t' hmem
        · rw [List.mem_singleton] at hmem
          subst hmem
          exact hopen (.execute id t true true) (by rw [hE']; simp) id rfl rfl
    · intro A x B id hE hx
      rcases mem_snoc_cases hE with ⟨rfl, rfl, rfl⟩ | ⟨B', rfl, hE'⟩
      · simp
      · intro e' he'
        rcases List.mem_append.mp he' with he' | he'
        · exact ih.final A x B' id hE' hx e' he'
        · rw [List.mem_singleton] at he'
          subst he'
          exact hopen x (by rw [hE']; simp) id hx

/-! ## Programs -/

section Programs

variable {σ α : Type} {step : σ → α → σ → Prop} {gate : σ → Gate P} {event : σ → α → GateEvent P}

/-- The events of a run of a program. -/
def eventsOf (event : σ → α → GateEvent P) : σ → List (α × σ) → List (GateEvent P)
  | _, [] => []
  | s, (a, s') :: rest => event s a :: eventsOf event s' rest

variable {s : σ} {l : List (α × σ)}

/-- A program that only does what the machine admits is a run of the machine. -/
lemma Ran.path
    (hstep : ∀ s a s', step s a s' →
      (gate s).Admits (event s a) ∧ gate s' = (gate s).next (event s a)) (hl : Path step s l)
    (h : Ran E (gate s)) : Ran (E ++ eventsOf event s l) (gate (endState s l)) := by
  induction l generalizing s E with
  | nil => simpa [eventsOf] using h
  | cons x l ih =>
    obtain ⟨a, s'⟩ := x
    obtain ⟨hadmits, hnext⟩ := hstep s a s' hl.1
    have hs' : Ran (E ++ [event s a]) (gate s') := hnext ▸ h.step hadmits
    have hrest := ih hl.2 hs'
    rwa [List.append_assoc] at hrest

/-- What the protocol promises about a run of a program. -/
structure PromiseKept (step : σ → α → σ → Prop) (event : σ → α → GateEvent P) (s : σ)
    (l : List (α × σ)) : Prop where
  safe : AppealSafe (eventsOf event s l)
  once : ∀ id, (penalties id (eventsOf event s l)).length ≤ 1
  /-- Where the run ends, an appeal and an execution of one proposal are not both possible. -/
  exclusive : ∀ a b s₁ s₂ id sender t authorized enabled,
    step (endState s l) a s₁ → event (endState s l) a = .appeal id sender t →
    step (endState s l) b s₂ → event (endState s l) b ≠ .execute id t authorized enabled

/-- **Such a program keeps the promise.** -/
theorem promiseKept_of_path
    (hstep : ∀ s a s', step s a s' →
      (gate s).Admits (event s a) ∧ gate s' = (gate s).next (event s a)) (hs : (gate s).count = 0)
    (hl : Path step s l) : PromiseKept step event s l := by
  have hran := Ran.path hstep hl (.start hs)
  have hsafe : AppealSafe (eventsOf event s l) := hran.appealSafe
  refine ⟨hsafe, hsafe.once, ?_⟩
  intro a b s₁ s₂ id sender t authorized enabled ha hea hb heb
  have hadmits := (hstep _ a s₁ ha).1
  have hadmits' := (hstep _ b s₂ hb).1
  rw [hea] at hadmits
  rw [heb] at hadmits'
  exact not_appeal_and_execute hadmits hadmits'

end Programs

end Gate

end Moltbunker.Lib
