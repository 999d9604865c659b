import Mathlib.Data.Finset.Insert
import Mathlib.Data.Fintype.Defs
import Mathlib.Data.Option.Basic

/-!
# Deterministic labelled machines and their runs

A *machine* is a partial step function: `step s a = none` says that the action `a` is not
possible in the state `s`, so every scheduling decision and every answer of the environment
is part of the action.  A run is the fold of `step` over a list of actions.

These carry the results stated over runs:

* `Machine.Guarded G s as` — every action of the run is taken in a state that meets `G`;
* `Machine.Throughout P s as` — every state of the run, the first and the last included,
  satisfies `P`;
* the invariant rules, one for plain runs (`run_invariant`), one for guarded runs
  (`run_invariant_of_guarded`), one for what is known by the actions taken (`run_history`) and one
  for what is known by the output of the steps (`run_log`), and the comparison of two guards under
  an invariant (`guarded_congr`);
* `length_le_of_work`, the bound on the runs all of whose steps are paid for.

`throughout_iff_guarded` is the exactness rule: when an invariant is kept under the guard,
implies the property, and every step that violates the guard breaks the property, then the
runs on which the property holds throughout are exactly the guarded ones.  `reaches_forall` is for
the other direction, where a state is to be shown reachable that asks something of every party.
-/

namespace CoroutineGateway

/-- A partial deterministic transition function over states `σ` and actions `α`. -/
structure Machine (σ α : Type*) where
  /-- The state after an action, or `none` where the action is impossible. -/
  step : σ → α → Option σ

namespace Machine

variable {σ α : Type*} (M : Machine σ α)

/-- The state after a list of actions. -/
def run : σ → List α → Option σ
  | s, [] => some s
  | s, a :: as => (M.step s a).bind fun s' => run s' as

/-- `s'` is reached from `s` by some run. -/
def Reaches (s s' : σ) : Prop := ∃ as, M.run s as = some s'

/-- Every action of the run is taken in a state that meets the guard. -/
def Guarded (G : σ → α → Prop) : σ → List α → Prop
  | _, [] => True
  | s, a :: as => G s a ∧ ∀ s', M.step s a = some s' → Guarded G s' as

/-- Every state of the run satisfies the property. -/
def Throughout (P : σ → Prop) : σ → List α → Prop
  | s, [] => P s
  | s, a :: as => P s ∧ ∀ s', M.step s a = some s' → Throughout P s' as

/-- What the steps of a run put out, in order: `out s a s'` for each step from `s` to `s'`. -/
def log {β : Type*} (out : σ → α → σ → List β) : σ → List α → List β
  | _, [] => []
  | s, a :: as =>
    match M.step s a with
    | some s' => out s a s' ++ log out s' as
    | none => []

/-! ## Unfolding a run -/

@[simp] lemma run_nil (s : σ) : M.run s [] = some s := rfl

lemma run_cons_eq_some {s s' : σ} {a : α} {as : List α} :
    M.run s (a :: as) = some s' ↔ ∃ t, M.step s a = some t ∧ M.run t as = some s' := by
  simp [run, Option.bind_eq_some_iff]

lemma run_append {s t s' : σ} {as bs : List α} (h : M.run s as = some t)
    (h' : M.run t bs = some s') : M.run s (as ++ bs) = some s' := by
  induction as generalizing s with
  | nil =>
    obtain rfl : s = t := by simpa using h
    exact h'
  | cons a as ih =>
    obtain ⟨u, hu, hrun⟩ := M.run_cons_eq_some.mp h
    exact M.run_cons_eq_some.mpr ⟨u, hu, ih hrun⟩

lemma Reaches.refl (s : σ) : M.Reaches s s := ⟨[], rfl⟩

lemma Reaches.trans {s t u : σ} (h : M.Reaches s t) (h' : M.Reaches t u) : M.Reaches s u := by
  obtain ⟨as, has⟩ := h
  obtain ⟨bs, hbs⟩ := h'
  exact ⟨as ++ bs, M.run_append has hbs⟩

lemma Reaches.tail {s t u : σ} {a : α} (h : M.Reaches s t) (h' : M.step t a = some u) :
    M.Reaches s u :=
  h.trans M ⟨[a], M.run_cons_eq_some.mpr ⟨u, h', rfl⟩⟩

/-! ## Invariants -/

variable {M}

/-- A guarded run, action by action. -/
lemma Guarded.cons {G : σ → α → Prop} {s t : σ} {a : α} {as : List α} (hG : G s a)
    (hstep : M.step s a = some t) (h : M.Guarded G t as) : M.Guarded G s (a :: as) := by
  refine ⟨hG, fun s' hs' => ?_⟩
  obtain rfl : t = s' := Option.some.inj (hstep.symm.trans hs')
  exact h

/-- A guard that does not depend on the state. -/
lemma guarded_of_forall {G : σ → α → Prop} {s : σ} {as : List α} (h : ∀ a ∈ as, ∀ s, G s a) :
    M.Guarded G s as := by
  induction as generalizing s with
  | nil => trivial
  | cons a as ih =>
    exact ⟨h a List.mem_cons_self s, fun s' _ => ih fun b hb => h b (List.mem_cons_of_mem _ hb)⟩

/-- What every guarded step preserves holds at the end of every guarded run. -/
theorem run_invariant_of_guarded {I : σ → Prop} {G : σ → α → Prop}
    (hstep : ∀ s a s', I s → G s a → M.step s a = some s' → I s') {s s' : σ} {as : List α}
    (hs : I s) (hG : M.Guarded G s as) (hrun : M.run s as = some s') : I s' := by
  induction as generalizing s with
  | nil =>
    obtain rfl : s = s' := by simpa using hrun
    exact hs
  | cons a as ih =>
    obtain ⟨t, ht, hrest⟩ := M.run_cons_eq_some.mp hrun
    exact ih (hstep _ _ _ hs hG.1 ht) (hG.2 t ht) hrest

lemma guarded_true (s : σ) (as : List α) : M.Guarded (fun _ _ => True) s as :=
  guarded_of_forall fun _ _ _ => trivial

/-- What every step preserves holds at the end of every run. -/
theorem run_invariant {I : σ → Prop}
    (hstep : ∀ s a s', I s → M.step s a = some s' → I s') {s s' : σ} {as : List α}
    (hs : I s) (hrun : M.run s as = some s') : I s' :=
  run_invariant_of_guarded (G := fun _ _ => True)
    (fun s a s' hI _ h => hstep s a s' hI h) hs (guarded_true s as) hrun

/-- What is known of a state by the actions that led to it: what every step preserves, on adding its
action to them, holds at the end of every run. -/
theorem run_history {I : List α → σ → Prop}
    (hstep : ∀ as s a s', I as s → M.step s a = some s' → I (as ++ [a]) s') {s s' : σ}
    {past as : List α} (hs : I past s) (hrun : M.run s as = some s') : I (past ++ as) s' := by
  induction as generalizing s past with
  | nil =>
    obtain rfl : s = s' := by simpa using hrun
    rwa [List.append_nil]
  | cons a as ih =>
    obtain ⟨t, ht, hrest⟩ := M.run_cons_eq_some.mp hrun
    have hend := ih (hstep past s a t hs ht) hrest
    rwa [List.append_assoc] at hend

/-- What is known of a state by what the steps that led to it have put out: what every step
preserves, on adding its output, holds at the end of every run. -/
theorem run_log {β : Type*} {out : σ → α → σ → List β} {I : List β → σ → Prop}
    (hstep : ∀ l s a s', I l s → M.step s a = some s' → I (l ++ out s a s') s') {s s' : σ}
    {l : List β} {as : List α} (hs : I l s) (hrun : M.run s as = some s') :
    I (l ++ M.log out s as) s' := by
  induction as generalizing s l with
  | nil =>
    obtain rfl : s = s' := by simpa using hrun
    rwa [log, List.append_nil]
  | cons a as ih =>
    obtain ⟨t, ht, hrest⟩ := M.run_cons_eq_some.mp hrun
    have hend := ih (hstep l s a t hs ht) hrest
    simpa only [log, ht, List.append_assoc] using hend

/-- **Bounded runs.**  Where every step lowers the work that is left, but for the steps of one kind
that add less than `c` to it, a run that is not over yet is no longer than the two allow. -/
theorem length_le_of_work {I Done : σ → Prop} {work : σ → ℕ} {p : α → Bool} {c : ℕ}
    (hstep : ∀ s a s', I s → M.step s a = some s' →
      I s' ∧ (Done s' ∨ ¬ Done s ∧ work s' + 1 ≤ work s + c * (p a).toNat))
    {s s' : σ} {as : List α} (hs : I s) (hrun : M.run s as = some s') :
    Done s' ∨ as.length + work s' ≤ work s + c * as.countP p := by
  have hpaid : I s' ∧
      (Done s' ∨ ([] ++ as).length + work s' ≤ work s + c * ([] ++ as).countP p) := by
    refine run_history (I := fun as t =>
      I t ∧ (Done t ∨ as.length + work t ≤ work s + c * as.countP p)) ?_ ⟨hs, by simp⟩ hrun
    rintro as t a t' ⟨ht, hlength⟩ ht'
    obtain ⟨hI, hdone | ⟨hgoing, hwork⟩⟩ := hstep t a t' ht ht'
    · exact ⟨hI, .inl hdone⟩
    · have hlength := hlength.resolve_left hgoing
      have hcount : [a].countP p = (p a).toNat := by
        cases hp : p a with
        | false => simp [hp]
        | true => simp [hp]
      refine ⟨hI, .inr ?_⟩
      rw [List.length_append, List.length_singleton, List.countP_append, hcount, Nat.mul_add]
      omega
  exact hpaid.2

/-- **One after the other.**  If each of finitely many parties can bring itself into a condition,
and none takes another one out of it, then all can be in it at once. -/
theorem reaches_forall {W : Type*} [Fintype W] {I : σ → Prop} {S : σ → W → Prop}
    (hsettle : ∀ s w, I s → ∃ s', M.Reaches s s' ∧ I s' ∧ S s' w ∧ ∀ v, S s v → S s' v)
    {s : σ} (hs : I s) : ∃ s', M.Reaches s s' ∧ I s' ∧ ∀ w, S s' w := by
  classical
  have hsome : ∀ ws : Finset W, ∃ s', M.Reaches s s' ∧ I s' ∧ ∀ w ∈ ws, S s' w := by
    intro ws
    induction ws using Finset.induction_on with
    | empty => exact ⟨s, Reaches.refl M s, hs, by simp⟩
    | insert w ws hw ih =>
      obtain ⟨t, hreach, ht, hws⟩ := ih
      obtain ⟨u, hreach', hu, hself, hkeep⟩ := hsettle t w ht
      refine ⟨u, hreach.trans M hreach', hu, fun v hv => ?_⟩
      rcases Finset.mem_insert.mp hv with rfl | hv
      · exact hself
      · exact hkeep v (hws v hv)
  obtain ⟨t, hreach, ht, hall⟩ := hsome Finset.univ
  exact ⟨t, hreach, ht, fun w => hall w (Finset.mem_univ w)⟩

/-- A guard that implies another one in every state that keeps the invariant. -/
theorem Guarded.imp {I : σ → Prop} {G G' : σ → α → Prop}
    (hstep : ∀ s a s', I s → G s a → M.step s a = some s' → I s')
    (hG : ∀ s a, I s → G s a → G' s a) {s : σ} {as : List α} (hs : I s)
    (h : M.Guarded G s as) : M.Guarded G' s as := by
  induction as generalizing s with
  | nil => trivial
  | cons a as ih =>
    exact ⟨hG s a hs h.1, fun s' hs' => ih (hstep s a s' hs h.1 hs') (h.2 s' hs')⟩

/-- A run that meets two guards. -/
lemma Guarded.and {G G' : σ → α → Prop} {s : σ} {as : List α} (h : M.Guarded G s as)
    (h' : M.Guarded G' s as) : M.Guarded (fun s a => G s a ∧ G' s a) s as := by
  induction as generalizing s with
  | nil => trivial
  | cons a as ih => exact ⟨⟨h.1, h'.1⟩, fun s' hs' => ih (h.2 s' hs') (h'.2 s' hs')⟩

/-- Two guards that agree in every state that keeps the invariant guard the same runs. -/
theorem guarded_congr {I : σ → Prop} {G G' : σ → α → Prop}
    (hstep : ∀ s a s', I s → M.step s a = some s' → I s') (hG : ∀ s a, I s → (G s a ↔ G' s a))
    {s : σ} {as : List α} (hs : I s) : M.Guarded G s as ↔ M.Guarded G' s as := by
  induction as generalizing s with
  | nil => exact Iff.rfl
  | cons a as ih =>
    exact and_congr (hG s a hs) (forall_congr' fun s' =>
      forall_congr' fun hs' => ih (hstep s a s' hs hs'))

/-! ## Properties of every state of a run -/

/-- A property that holds throughout a run holds in its last state. -/
lemma Throughout.last {P : σ → Prop} {s s' : σ} {as : List α} (h : M.Throughout P s as)
    (hrun : M.run s as = some s') : P s' := by
  induction as generalizing s with
  | nil =>
    obtain rfl : s = s' := by simpa using hrun
    exact h
  | cons a as ih =>
    obtain ⟨t, ht, hrest⟩ := M.run_cons_eq_some.mp hrun
    exact ih (h.2 t ht) hrest

/-- A guarded run keeps the invariant in every one of its states. -/
theorem throughout_of_guarded {I P : σ → Prop} {G : σ → α → Prop}
    (hstep : ∀ s a s', I s → G s a → M.step s a = some s' → I s') (hIP : ∀ s, I s → P s)
    {s : σ} {as : List α} (hs : I s) (hG : M.Guarded G s as) : M.Throughout P s as := by
  induction as generalizing s with
  | nil => exact hIP s hs
  | cons a as ih =>
    exact ⟨hIP s hs, fun s' hs' => ih (hstep s a s' hs hG.1 hs') (hG.2 s' hs')⟩

/-- **Exactness rule.**  Where violating the guard breaks the property in the very next state,
the property holds throughout a run exactly when the run is guarded; `G₀` is what is known of the
actions of the run in any case. -/
theorem throughout_iff_guarded_of {I P : σ → Prop} {G₀ G : σ → α → Prop}
    (hstep : ∀ s a s', I s → G₀ s a → G s a → M.step s a = some s' → I s')
    (hIP : ∀ s, I s → P s)
    (hbreak : ∀ s a s', I s → G₀ s a → ¬ G s a → M.step s a = some s' → ¬ P s')
    {s s' : σ} {as : List α} (hs : I s) (hG₀ : M.Guarded G₀ s as) (hrun : M.run s as = some s') :
    M.Throughout P s as ↔ M.Guarded G s as := by
  refine ⟨fun hP => ?_, fun hG => throughout_of_guarded
    (fun s a s' hs hG => hstep s a s' hs hG.1 hG.2) hIP hs (hG₀.and hG)⟩
  induction as generalizing s with
  | nil => trivial
  | cons a as ih =>
    obtain ⟨t, ht, hrest⟩ := M.run_cons_eq_some.mp hrun
    have hPt : P t := by
      cases as with
      | nil => exact hP.2 t ht
      | cons b bs => exact (hP.2 t ht).1
    have hGa : G s a := by
      by_contra hna
      exact hbreak s a t hs hG₀.1 hna ht hPt
    refine ⟨hGa, fun u hu => ?_⟩
    obtain rfl : t = u := Option.some.inj (ht.symm.trans hu)
    exact ih (hstep s a t hs hG₀.1 hGa ht) (hG₀.2 t ht) hrest (hP.2 t ht)

/-- The exactness rule where nothing else is known of the actions. -/
theorem throughout_iff_guarded {I P : σ → Prop} {G : σ → α → Prop}
    (hstep : ∀ s a s', I s → G s a → M.step s a = some s' → I s') (hIP : ∀ s, I s → P s)
    (hbreak : ∀ s a s', I s → ¬ G s a → M.step s a = some s' → ¬ P s')
    {s s' : σ} {as : List α} (hs : I s) (hrun : M.run s as = some s') :
    M.Throughout P s as ↔ M.Guarded G s as :=
  throughout_iff_guarded_of (fun s a s' hI _ => hstep s a s' hI) hIP
    (fun s a s' hI _ => hbreak s a s' hI) hs (guarded_true s as) hrun

end Machine

end CoroutineGateway
