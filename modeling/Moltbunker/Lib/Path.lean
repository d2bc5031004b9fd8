import Mathlib

/-!
# Finite runs of a labelled transition system

A system is a relation `step : σ → α → σ → Prop`. A run from `s` is the list of its labels with
the states they lead to, so that "every earlier step", "every later step" and "every state on the
way" are statements about one list.

* `Path step s l` — `l` is a run from `s`; `endState s l` is where it ends.
* `StatesMeet P s l`, `StepsMeet G s l` — a state property at every state of the run, a condition
  `G` on the state before each step and its label.
* `Reachable step s₀ s` — some run from `s₀` ends in `s`.

Three induction rules carry every result about whole runs: an inductive invariant
(`Path.invariant`), an invariant that needs a condition on each step (`Path.invariant_of_steps`)
and the exact form (`Path.statesMeet_iff_stepsMeet`), where one step keeps the property iff it
meets the condition.

A machine whose steps are functions with a guard runs a list of labels (`Runs admits post`). It is
the form in which one step of a contract is taken apart into smaller steps. An executable system is
run on a list of labels with `trace`, or with `follow` if it takes every label.
-/

namespace Moltbunker.Lib

variable {σ α : Type} {step : σ → α → σ → Prop} {P : σ → Prop} {G : σ → α → Prop}

/-- The list `l` of labels and successor states is a run of `step` from `s`. -/
def Path (step : σ → α → σ → Prop) : σ → List (α × σ) → Prop
  | _, [] => True
  | s, (a, s') :: rest => step s a s' ∧ Path step s' rest

/-- The last state of a run. -/
def endState (s : σ) : List (α × σ) → σ
  | [] => s
  | (_, s') :: rest => endState s' rest

/-- The property holds at the first state and at every later state of the run. -/
def StatesMeet (P : σ → Prop) : σ → List (α × σ) → Prop
  | s, [] => P s
  | s, (_, s') :: rest => P s ∧ StatesMeet P s' rest

/-- Every step of the run meets the condition, read at the state before the step. -/
def StepsMeet (G : σ → α → Prop) : σ → List (α × σ) → Prop
  | _, [] => True
  | s, (a, s') :: rest => G s a ∧ StepsMeet G s' rest

instance StepsMeet.decidable [hG : ∀ s a, Decidable (G s a)] (s : σ) :
    (l : List (α × σ)) → Decidable (StepsMeet G s l)
  | [] => .isTrue trivial
  | (a, s') :: rest =>
    have := StepsMeet.decidable s' rest
    inferInstanceAs (Decidable (G s a ∧ StepsMeet G s' rest))

/-- Some run from `s₀` ends in `s`. -/
def Reachable (step : σ → α → σ → Prop) (s₀ s : σ) : Prop :=
  ∃ l, Path step s₀ l ∧ endState s₀ l = s

/-! ## Taking runs apart -/

variable {s s' : σ} {a : α} {l l₁ l₂ : List (α × σ)} {s₀ : σ}

@[simp] lemma path_nil {s : σ} : Path step s [] := trivial

@[simp] lemma path_cons {s s' : σ} {a : α} {l : List (α × σ)} :
    Path step s ((a, s') :: l) ↔ step s a s' ∧ Path step s' l := Iff.rfl

@[simp] lemma endState_nil {s : σ} : endState s ([] : List (α × σ)) = s := rfl

@[simp] lemma endState_cons {s s' : σ} {a : α} {l : List (α × σ)} :
    endState s ((a, s') :: l) = endState s' l := rfl

lemma endState_append (s : σ) : endState s (l₁ ++ l₂) = endState (endState s l₁) l₂ := by
  induction l₁ generalizing s with
  | nil => rfl
  | cons x l₁ ih => exact ih x.2

lemma path_append : Path step s (l₁ ++ l₂) ↔ Path step s l₁ ∧ Path step (endState s l₁) l₂ := by
  induction l₁ generalizing s with
  | nil => simp
  | cons x l₁ ih =>
    obtain ⟨a, s'⟩ := x
    simp only [List.cons_append, path_cons, endState_cons, ih, and_assoc]

/-- The step taken at a given place of a run. -/
lemma Path.step_at (h : Path step s (l₁ ++ (a, s') :: l₂)) :
    Path step s l₁ ∧ step (endState s l₁) a s' ∧ Path step s' l₂ := by
  rw [path_append, path_cons] at h
  exact h

lemma stepsMeet_append :
    StepsMeet G s (l₁ ++ l₂) ↔ StepsMeet G s l₁ ∧ StepsMeet G (endState s l₁) l₂ := by
  induction l₁ generalizing s with
  | nil => simp [StepsMeet]
  | cons x l₁ ih =>
    obtain ⟨a, s'⟩ := x
    simp only [List.cons_append, StepsMeet, endState_cons, ih, and_assoc]

/-- A condition on the labels alone holds along every run that takes such labels only. -/
lemma stepsMeet_of_mem (h : ∀ x ∈ l, ∀ s, G s x.1) : StepsMeet G s l := by
  induction l generalizing s with
  | nil => trivial
  | cons x l ih =>
    exact ⟨h x List.mem_cons_self s, ih fun y hy => h y (List.mem_cons_of_mem x hy)⟩

lemma StatesMeet.head (h : StatesMeet P s l) : P s := by
  cases l with
  | nil => exact h
  | cons x l => exact h.1

lemma StatesMeet.mono {P' : σ → Prop} (himp : ∀ s, P s → P' s) (h : StatesMeet P s l) :
    StatesMeet P' s l := by
  induction l generalizing s with
  | nil => exact himp s h
  | cons x l ih => exact ⟨himp s h.1, ih h.2⟩

lemma StatesMeet.endState (h : StatesMeet P s l) : P (Lib.endState s l) := by
  induction l generalizing s with
  | nil => exact h
  | cons x l ih => exact ih h.2

lemma Reachable.refl (s : σ) : Reachable step s s := ⟨[], trivial, rfl⟩

lemma Reachable.tail (h : Reachable step s₀ s) (hs : step s a s') : Reachable step s₀ s' := by
  obtain ⟨l, hl, rfl⟩ := h
  refine ⟨l ++ [(a, s')], ?_, by rw [endState_append]; rfl⟩
  rw [path_append]
  exact ⟨hl, hs, trivial⟩

lemma Reachable.of_path (h : Reachable step s₀ s) (hl : Path step s l) :
    Reachable step s₀ (endState s l) := by
  obtain ⟨l₀, hl₀, rfl⟩ := h
  exact ⟨l₀ ++ l, path_append.mpr ⟨hl₀, hl⟩, endState_append _⟩

/-! ## Induction rules -/

/-- **Invariants under a condition.** If the property holds at the start and every step that
meets the condition keeps it, it holds along every run whose steps all meet the condition. -/
theorem Path.invariant_of_steps (hstep : ∀ s a s', P s → G s a → step s a s' → P s')
    (hs : P s) {l : List (α × σ)} (hl : Path step s l) (hG : StepsMeet G s l) :
    StatesMeet P s l := by
  induction l generalizing s with
  | nil => exact hs
  | cons x l ih =>
    obtain ⟨a, s'⟩ := x
    exact ⟨hs, ih (hstep s a s' hs hG.1 hl.1) hl.2 hG.2⟩

/-- What holds of every step from a state with the property holds of every step of a run that
keeps it. -/
lemma Path.stepsMeet {Q : σ → α → Prop} (hstep : ∀ s a s', P s → G s a → step s a s' → Q s a)
    (hl : Path step s l) (hP : StatesMeet P s l) (hG : StepsMeet G s l) : StepsMeet Q s l := by
  induction l generalizing s with
  | nil => trivial
  | cons x l ih =>
    obtain ⟨a, s'⟩ := x
    exact ⟨hstep s a s' hP.1 hG.1 hl.1, ih hl.2 hP.2 hG.2⟩

/-- **Inductive invariants.** -/
theorem Path.invariant (hstep : ∀ s a s', P s → step s a s' → P s') (hs : P s)
    (hl : Path step s l) : StatesMeet P s l :=
  Path.invariant_of_steps (G := fun _ _ => True) (fun s a s' h _ => hstep s a s' h) hs hl
    (stepsMeet_of_mem fun _ _ _ => trivial)

lemma Reachable.invariant (hstep : ∀ s a s', P s → step s a s' → P s') (h₀ : P s₀)
    (h : Reachable step s₀ s) : P s := by
  obtain ⟨l, hl, rfl⟩ := h
  exact (hl.invariant hstep h₀).endState

/-- **The exact form.** Under an inductive invariant `I`, if one step keeps the property exactly
when it meets the condition, then a run keeps the property throughout exactly when all of its
steps meet the condition. -/
theorem Path.statesMeet_iff_stepsMeet {I : σ → Prop} (hI : ∀ s a s', I s → step s a s' → I s')
    (hstep : ∀ s a s', I s → P s → step s a s' → (P s' ↔ G s a)) (hIs : I s) (hs : P s)
    (hl : Path step s l) : StatesMeet P s l ↔ StepsMeet G s l := by
  induction l generalizing s with
  | nil => exact ⟨fun _ => trivial, fun _ => hs⟩
  | cons x l ih =>
    obtain ⟨a, s'⟩ := x
    have hkey := hstep s a s' hIs hs hl.1
    constructor
    · rintro ⟨-, hrest⟩
      have hs' : P s' := hrest.head
      exact ⟨hkey.mp hs', (ih (hI s a s' hIs hl.1) hs' hl.2).mp hrest⟩
    · rintro ⟨hg, hrest⟩
      have hs' : P s' := hkey.mpr hg
      exact ⟨hs, (ih (hI s a s' hIs hl.1) hs' hl.2).mpr hrest⟩

/-- The sum over the steps of a run of a quantity that is read at the state before the step. -/
def runSum (f : σ → α → ℕ) : σ → List (α × σ) → ℕ
  | _, [] => 0
  | s, (a, s') :: rest => f s a + runSum f s' rest

/-- **Accounts.** If every step that adds `f` and takes `g` changes the reading `r` by the
difference, then so does every run. -/
theorem Path.runSum_balance {f g : σ → α → ℕ} {r : σ → ℕ} (hP : ∀ s a s', P s → step s a s' → P s')
    (hstep : ∀ s a s', P s → step s a s' → f s a + r s = g s a + r s') (hs : P s)
    (hl : Path step s l) : runSum f s l + r s = runSum g s l + r (endState s l) := by
  induction l generalizing s with
  | nil => rfl
  | cons x l ih =>
    obtain ⟨a, s'⟩ := x
    have hhead := hstep s a s' hs hl.1
    have htail := ih (hP s a s' hs hl.1) hl.2
    show f s a + runSum f s' l + r s = g s a + runSum g s' l + r (endState s' l)
    omega

/-! ## Guarded functions -/

section Runs

variable {admits : σ → α → Prop} {post : σ → α → σ}

/-- The labels of the list, each admitted where it is reached, lead from `s` to `s'`. -/
def Runs (admits : σ → α → Prop) (post : σ → α → σ) : σ → List α → σ → Prop
  | s, [], s' => s = s'
  | s, a :: l, s' => admits s a ∧ Runs admits post (post s a) l s'

lemma Runs.append {s₁ s₂ s₃ : σ} {l₁ l₂ : List α} (h₁ : Runs admits post s₁ l₁ s₂)
    (h₂ : Runs admits post s₂ l₂ s₃) : Runs admits post s₁ (l₁ ++ l₂) s₃ := by
  induction l₁ generalizing s₁ with
  | nil =>
    have h : s₁ = s₂ := h₁
    exact h ▸ h₂
  | cons a l ih => exact ⟨h₁.1, ih h₁.2⟩

/-- A property that the labels of the list keep holds at the end. -/
lemma Runs.invariant {l : List α} (h : Runs admits post s l s')
    (hstep : ∀ s, ∀ a ∈ l, P s → admits s a → P (post s a)) (hs : P s) : P s' := by
  induction l generalizing s with
  | nil =>
    have heq : s = s' := h
    exact heq ▸ hs
  | cons a l ih =>
    exact ih h.2 (fun s b hb => hstep s b (List.mem_cons_of_mem a hb))
      (hstep s a List.mem_cons_self hs h.1)

/-- The condition holds at every label of the list, read where the label is reached. -/
def LabelsMeet (G : σ → α → Prop) (post : σ → α → σ) : σ → List α → Prop
  | _, [] => True
  | s, a :: l => G s a ∧ LabelsMeet G post (post s a) l

/-- A property that the labels keep under a condition holds at the end of a run that meets the
condition. -/
lemma Runs.invariant_of_labels {l : List α} (h : Runs admits post s l s')
    (hstep : ∀ s a, P s → G s a → admits s a → P (post s a)) (hs : P s)
    (hG : LabelsMeet G post s l) : P s' := by
  induction l generalizing s with
  | nil =>
    have heq : s = s' := h
    exact heq ▸ hs
  | cons a l ih => exact ih h.2 (hstep s a hs hG.1 h.1) hG.2

end Runs

/-! ## Executable systems -/

section Follow

variable {next : σ → α → σ}

/-- The run of a list of labels, of a system that takes every label. -/
def follow (next : σ → α → σ) (s : σ) : List α → List (α × σ)
  | [] => []
  | a :: l => (a, next s a) :: follow next (next s a) l

lemma follow_path (s : σ) (labels : List α) :
    Path (fun s a s' => next s a = s') s (follow next s labels) := by
  induction labels generalizing s with
  | nil => trivial
  | cons a l ih => exact ⟨rfl, ih (next s a)⟩

end Follow

section Traces

variable {next : σ → α → Option σ} {labels : List α}

/-- The run of a list of labels, up to the first that is refused. -/
def trace (next : σ → α → Option σ) (s : σ) : List α → List (α × σ)
  | [] => []
  | a :: l =>
    match next s a with
    | none => []
    | some s' => (a, s') :: trace next s' l

lemma trace_path (s : σ) (labels : List α) :
    Path (fun s a s' => next s a = some s') s (trace next s labels) := by
  induction labels generalizing s with
  | nil => trivial
  | cons a l ih =>
    unfold trace
    split
    · trivial
    · next s' hnext => exact ⟨hnext, ih s'⟩

/-- The run takes only labels of the list. -/
lemma mem_of_mem_trace {x : α × σ} (h : x ∈ trace next s labels) : x.1 ∈ labels := by
  induction labels generalizing s with
  | nil => simp [trace] at h
  | cons a l ih =>
    unfold trace at h
    split at h
    · simp at h
    · rcases List.mem_cons.mp h with rfl | h
      · exact List.mem_cons_self
      · exact List.mem_cons_of_mem a (ih h)

/-- A condition on labels alone that all labels of the list meet. -/
lemma stepsMeet_trace (h : ∀ a ∈ labels, ∀ s, G s a) : StepsMeet G s (trace next s labels) :=
  stepsMeet_of_mem fun x hx => h x.1 (mem_of_mem_trace hx)

/-- A run that is as long as its list of labels has taken them all. -/
lemma map_fst_trace (h : (trace next s labels).length = labels.length) :
    (trace next s labels).map Prod.fst = labels := by
  induction labels generalizing s with
  | nil => rfl
  | cons a l ih =>
    unfold trace at h ⊢
    split at h
    · simp at h
    · next s' hnext =>
      rw [List.length_cons, List.length_cons, Nat.add_right_cancel_iff] at h
      rw [List.map_cons, ih h]

/-- A run that takes all of its labels can be continued. -/
lemma trace_append {l₁ : List α} (l₂ : List α)
    (h : (trace next s l₁).length = l₁.length) : trace next s (l₁ ++ l₂) =
    trace next s l₁ ++ trace next (endState s (trace next s l₁)) l₂ := by
  induction l₁ generalizing s with
  | nil => rfl
  | cons a l ih =>
    cases hnext : next s a with
    | none => simp [trace, hnext] at h
    | some s' =>
      have hcons : ∀ l', trace next s (a :: l') = (a, s') :: trace next s' l' := by
        simp [trace, hnext]
      rw [hcons, List.length_cons, List.length_cons, Nat.add_right_cancel_iff] at h
      rw [List.cons_append, hcons, hcons, ih h, List.cons_append, endState_cons]

/-- The first step of a run and the rest of it. -/
lemma stepsMeet_trace_cons {l : List α} (h : G s a)
    (hrest : ∀ s', StepsMeet G s' (trace next s' l)) : StepsMeet G s (trace next s (a :: l)) := by
  unfold trace
  split
  · trivial
  · next s' _ => exact ⟨h, hrest s'⟩

end Traces

end Moltbunker.Lib
