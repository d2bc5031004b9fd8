import Mathlib

/-!
# Inputs that an observer does not notice

A machine takes inputs and answers each of them. Some inputs are of a party that an observer should
not notice: whether they are there or not, the answers to all other inputs are to be the same. The
rule is that of unwinding. It is stated with a view of the state that hides what the party can
change; how much has to be hidden grows with what the party does.

* `answers next s l` — the inputs of a list with the answers to them;
* `Admits` — every input of the others is one that the view at that point still shows fully;
* `Unwinding` — what the view has to hide and to show;
* `Unwinding.answers_filter_eq` — inputs of the party can be left out without changing any other
  answer.
-/

namespace Moltbunker.Lib

variable {σ α β κ τ : Type}

/-- The inputs of a list, each with the answer to it. -/
def answers (next : σ → α → σ × β) (s : σ) : List α → List (α × β)
  | [] => []
  | a :: l => (a, (next s a).2) :: answers next (next s a).1 l

/-- Every input that is not of the party is fine for the view at that point. -/
def Admits (party : α → Bool) (grow : κ → α → κ) (fine : κ → α → Prop) : κ → List α → Prop
  | _, [] => True
  | k, a :: l =>
    if party a then Admits party grow fine (grow k a) l
    else fine k a ∧ Admits party grow fine k l

/-- The view hides every change that the party makes, and the answers to the others, and the view
after them, depend on the view only. -/
structure Unwinding (next : σ → α → σ × β) (party : α → Bool) (grow : κ → α → κ)
    (fine : κ → α → Prop) (view : κ → σ → τ) (I : σ → Prop) : Prop where
  /-- an invariant of the machine -/
  invariant : ∀ s a, I s → I (next s a).1
  /-- a larger view hides more -/
  coarser : ∀ k a s s', view k s = view k s' → view (grow k a) s = view (grow k a) s'
  /-- what the party does is hidden -/
  hidden : ∀ k a s, I s → party a = true → view (grow k a) (next s a).1 = view (grow k a) s
  /-- the others are answered by what is seen, -/
  answer : ∀ k a s s', I s → I s' → party a = false → fine k a → view k s = view k s' →
    (next s a).2 = (next s' a).2
  /-- and so is what is seen after them -/
  after : ∀ k a s s', I s → I s' → party a = false → fine k a → view k s = view k s' →
    view k (next s a).1 = view k (next s' a).1

variable {next : σ → α → σ × β} {party : α → Bool} {grow : κ → α → κ} {fine : κ → α → Prop}
  {view : κ → σ → τ} {I : σ → Prop}

/-- **Unwinding.** Inputs of the party can be left out without changing the answers to the
others. -/
theorem Unwinding.answers_filter_eq (h : Unwinding next party grow fine view I) {keep : α → Bool}
    {l : List α} (hkeep : ∀ a ∈ l, keep a = false → party a = true) {k : κ} {s s' : σ}
    (hs : I s) (hs' : I s') (hview : view k s = view k s')
    (hl : Admits party grow fine k l) : (answers next s l).filter (fun x => !party x.1) =
    (answers next s' (l.filter keep)).filter fun x => !party x.1 := by
  induction l generalizing k s s' with
  | nil => rfl
  | cons a l ih =>
    have hkeep' : ∀ b ∈ l, keep b = false → party b = true :=
      fun b hb => hkeep b (List.mem_cons_of_mem a hb)
    unfold Admits at hl
    cases hp : party a with
    | true =>
      rw [if_pos hp] at hl
      have hleft : view (grow k a) (next s a).1 = view (grow k a) s' :=
        (h.hidden k a s hs hp).trans (h.coarser k a s s' hview)
      cases hk : keep a with
      | false =>
        -- the input is left out of the second run
        rw [List.filter_cons_of_neg (by simp [hk]), answers, List.filter_cons_of_neg (by simp [hp])]
        exact ih hkeep' (h.invariant s a hs) hs' hleft hl
      | true =>
        rw [List.filter_cons_of_pos hk, answers, answers,
          List.filter_cons_of_neg (by simp [hp]), List.filter_cons_of_neg (by simp [hp])]
        exact ih hkeep' (h.invariant s a hs) (h.invariant s' a hs')
          (hleft.trans (h.hidden k a s' hs' hp).symm) hl
    | false =>
      have hk : keep a = true := by
        by_contra hne
        rw [Bool.not_eq_true] at hne
        rw [hkeep a List.mem_cons_self hne] at hp
        cases hp
      rw [if_neg (by simp [hp])] at hl
      have hanswer := h.answer k a s s' hs hs' hp hl.1 hview
      have hafter := h.after k a s s' hs hs' hp hl.1 hview
      rw [List.filter_cons_of_pos hk, answers, answers,
        List.filter_cons_of_pos (by simp [hp]), List.filter_cons_of_pos (by simp [hp]),
        hanswer]
      exact congrArg _ (ih hkeep' (h.invariant s a hs) (h.invariant s' a hs') hafter hl.2)

end Moltbunker.Lib
