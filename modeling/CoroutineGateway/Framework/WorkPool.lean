import CoroutineGateway.Framework.Census
import Mathlib.Data.Multiset.AddSub

/-!
# Work pools

A work pool is what a task scheduler is for, without its locks and threads: jobs are submitted to a
queue, a worker takes the first queued job it is eligible for, holds it while it runs, and is done
with it once.  `WorkPool.Step` is the relation of one such event, and `Step.conserved` is the
conservation law: every job ever submitted is queued, held by exactly one worker, or done, counted
with multiplicity.  The jobs of one class, between which no worker makes a difference, are taken in
the order in which they were submitted (`Alike.filter_take`).
-/

namespace CoroutineGateway

open Finset

/-- The jobs of a pool: queued, held by a worker, done, and ever submitted. -/
structure WorkPool (W T : Type*) where
  queue : List T
  held : W → Option T
  done : Multiset T
  submitted : Multiset T

namespace WorkPool

variable {W T : Type*}

/-- One event of a pool whose workers are eligible for the jobs that `elig` says. -/
inductive Step (elig : W → T → Prop) [DecidableEq W] : WorkPool W T → WorkPool W T → Prop where
  /-- Nothing happens to the jobs. -/
  | idle (p : WorkPool W T) : Step elig p p
  /-- A job is appended to the queue. -/
  | submit (p : WorkPool W T) (t : T) :
      Step elig p { p with queue := p.queue ++ [t], submitted := p.submitted + {t} }
  /-- A free worker takes the first job it is eligible for. -/
  | take (p : WorkPool W T) (w : W) (ahead : List T) (t : T) (behind : List T)
      (hqueue : p.queue = ahead ++ t :: behind) (hahead : ∀ u ∈ ahead, ¬ elig w u)
      (helig : elig w t) (hfree : p.held w = none) :
      Step elig p { p with
        queue := ahead ++ behind, held := Function.update p.held w (some t) }
  /-- A worker is done with the job it holds. -/
  | finish (p : WorkPool W T) (w : W) (t : T) (hheld : p.held w = some t) :
      Step elig p { p with
        held := Function.update p.held w none, done := p.done + {t} }

/-- The job a worker holds, as a multiset of at most one element. -/
def heldJob : Option T → Multiset T
  | none => 0
  | some t => {t}

@[simp] lemma heldJob_none : heldJob (none : Option T) = 0 := rfl

@[simp] lemma heldJob_some (t : T) : heldJob (some t) = {t} := rfl

/-- The jobs the workers hold. -/
def running [Fintype W] (p : WorkPool W T) : Multiset T := ∑ w, heldJob (p.held w)

/-- Every submitted job is queued, held or done. -/
def Conserved [Fintype W] (p : WorkPool W T) : Prop :=
  p.submitted = (p.queue : Multiset T) + p.running + p.done

/-- Every worker that is eligible for one job of the class is eligible for all of them. -/
def Alike (elig : W → T → Prop) (P : T → Bool) : Prop :=
  ∀ w t u, P t → P u → elig w t → elig w u

/-- **First come, first served.**  The first job that a worker is eligible for is the first one of
its class. -/
lemma Alike.filter_take {elig : W → T → Prop} {P : T → Bool} (hP : Alike elig P) {w : W} {t : T}
    {ahead behind : List T} (hahead : ∀ u ∈ ahead, ¬ elig w u) (helig : elig w t) :
    (ahead ++ t :: behind).filter P = [t].filter P ++ (ahead ++ behind).filter P := by
  by_cases ht : P t
  · have hnone : ahead.filter P = [] :=
      List.filter_eq_nil_iff.mpr fun u hu hPu => hahead u hu (hP w t u ht hPu helig)
    simp [ht, hnone]
  · simp [ht]

variable [Fintype W] {elig : W → T → Prop} {p p' : WorkPool W T}

/-- A pool with an empty queue and nobody holding a job has done all that was submitted. -/
lemma Conserved.done_of_drained (hp : p.Conserved) (hqueue : p.queue = [])
    (hheld : ∀ w, p.held w = none) : p.submitted = p.done := by
  have hrun : p.running = 0 := by
    unfold running
    exact sum_eq_zero fun w _ => by simp [hheld w, heldJob]
  rw [hp, hqueue, hrun]
  simp

variable [DecidableEq W]

/-- **Conservation of jobs**: no event loses, duplicates or invents a job. -/
theorem Step.conserved (h : Step elig p p') (hp : p.Conserved) : p'.Conserved := by
  unfold Conserved running at hp ⊢
  cases h with
  | idle => exact hp
  | submit t =>
    rw [hp, ← Multiset.coe_add, Multiset.coe_singleton]
    ac_rfl
  | take w ahead t behind hqueue hahead helig hfree =>
    have hsum := sum_update_add p.held heldJob w (some t)
    rw [hfree, heldJob_none, add_zero, heldJob_some] at hsum
    simp only [hp, hsum, hqueue, ← Multiset.coe_add, ← Multiset.cons_coe,
      ← Multiset.singleton_add]
    ac_rfl
  | finish w t hheld =>
    have hsum := sum_update_add p.held heldJob w none
    rw [hheld, heldJob_none, add_zero, heldJob_some] at hsum
    simp only [hp, ← hsum]
    ac_rfl

omit [Fintype W] in
/-- A worker comes to hold a job only by taking the first one it is eligible for. -/
lemma Step.take_of_held (h : Step elig p p') {w : W} {t : T} (hfree : p.held w = none)
    (hheld : p'.held w = some t) : ∃ ahead behind, p.queue = ahead ++ t :: behind ∧
      p'.queue = ahead ++ behind ∧ (∀ u ∈ ahead, ¬ elig w u) ∧ elig w t := by
  cases h with
  | idle | submit => simp [hfree] at hheld
  | take v ahead u behind hqueue hahead helig =>
    by_cases hv : w = v
    · subst hv
      obtain rfl : u = t := by simpa using hheld
      exact ⟨ahead, behind, hqueue, rfl, hahead, helig⟩
    · simp [Function.update_of_ne hv, hfree] at hheld
  | finish v u hu =>
    by_cases hv : w = v
    · simp [hv] at hheld
    · simp [Function.update_of_ne hv, hfree] at hheld

end WorkPool

end CoroutineGateway
