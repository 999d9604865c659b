import Mathlib.Data.List.Basic

/-!
# Reactive systems

A reactive system answers each input and goes on to a new state.  An input is *silent* when it
leaves every state as it is; whatever it is answered, nobody else can tell that it was there.
`answers_filter` and `final_filter` are that statement for whole histories: deleting silent inputs
leaves the answers to all other inputs and the final state as they are.
-/

namespace CoroutineGateway

/-- A transition function that answers its inputs. -/
structure Reactive (σ ι ο : Type*) where
  step : σ → ι → ο × σ

namespace Reactive

variable {σ ι ο : Type*} (R : Reactive σ ι ο)

/-- The inputs of a history, each with its answer. -/
def answers : σ → List ι → List (ι × ο)
  | _, [] => []
  | s, a :: as => (a, (R.step s a).1) :: answers (R.step s a).2 as

/-- The state after a history. -/
def final : σ → List ι → σ
  | s, [] => s
  | s, a :: as => final (R.step s a).2 as

/-- The input never changes the state. -/
def Silent (a : ι) : Prop := ∀ s, (R.step s a).2 = s

variable {R} {keep : ι → Bool} {as : List ι}

lemma silent_of_cons {a : ι} (h : ∀ b ∈ a :: as, keep b = false → R.Silent b) :
    (keep a = false → R.Silent a) ∧ ∀ b ∈ as, keep b = false → R.Silent b :=
  ⟨h a List.mem_cons_self, fun b hb => h b (List.mem_cons_of_mem _ hb)⟩

/-- Deleting silent inputs leaves the answers to the others as they are. -/
theorem answers_filter (h : ∀ a ∈ as, keep a = false → R.Silent a) (s : σ) :
    R.answers s (as.filter keep) = (R.answers s as).filter (keep ·.1) := by
  induction as generalizing s with
  | nil => rfl
  | cons a as ih =>
    obtain ⟨ha, has⟩ := silent_of_cons h
    cases hkeep : keep a with
    | true => simp [answers, hkeep, ih has]
    | false => simp [answers, hkeep, ih has, ha hkeep s]

/-- Deleting silent inputs leaves the final state as it is. -/
theorem final_filter (h : ∀ a ∈ as, keep a = false → R.Silent a) (s : σ) :
    R.final s (as.filter keep) = R.final s as := by
  induction as generalizing s with
  | nil => rfl
  | cons a as ih =>
    obtain ⟨ha, has⟩ := silent_of_cons h
    cases hkeep : keep a with
    | true => simp [final, hkeep, ih has]
    | false => simp [final, hkeep, ih has, ha hkeep s]

end Reactive

end CoroutineGateway
