import Mathlib.Data.Int.CardIntervalMod
import Mathlib.Algebra.Order.Ring.Int

/-!
# Round robin on one counter

Several groups share a counter: every turn belongs to one group and takes the next number, and a
group of `k` members gives the turn to the member at that number modulo `k`.

A group that has a stretch of turns to itself shares them out evenly, up to one turn.  Turns of
other groups in between take numbers away, so that every further stretch can add to the difference
(`taken_le`).
-/

namespace CoroutineGateway

namespace RoundRobin

variable {G : Type*} [DecidableEq G]

/-- How many turns of the group `g` the member `i` of `k` gets, when the turns `gs` take their
numbers from `n` on. -/
def taken (g : G) (k i : ℕ) : ℕ → List G → ℕ
  | _, [] => 0
  | n, a :: gs => (if a = g ∧ n % k = i then 1 else 0) + taken g k i (n + 1) gs

/-- The number of stretches of turns of one group that no turn of another group interrupts. -/
def stretches (g : G) : List G → ℕ
  | [] => 0
  | a :: gs => (if a = g ∧ gs.head? ≠ some g then 1 else 0) + stretches g gs

/-- How far the member `i` is ahead of the member `j` after `n` turns without interruption. -/
def lead (k i j n : ℕ) : ℤ := Nat.count (· % k = i) n - Nat.count (· % k = j) n

variable {k i j : ℕ}

lemma count_mod (hi : i < k) (n : ℕ) :
    Nat.count (· % k = i) n = n / k + if i < n % k then 1 else 0 := by
  have h := Nat.count_modEq_card (b := n) (Nat.zero_lt_of_lt hi) i
  rw [Nat.mod_eq_of_lt hi] at h
  rw [← h]
  simp only [Nat.ModEq, Nat.mod_eq_of_lt hi]

/-- Without interruption, one of two members is ahead by at most one turn, and never the other. -/
lemma exists_lead_bounds (hi : i < k) (hj : j < k) :
    ∃ lo, ∀ n, lo ≤ lead k i j n ∧ lead k i j n ≤ lo + 1 := by
  by_cases hij : i ≤ j
  · refine ⟨0, fun n => ?_⟩
    rw [lead, count_mod hi, count_mod hj]
    split_ifs <;> push_cast <;> omega
  · refine ⟨-1, fun n => ?_⟩
    rw [lead, count_mod hi, count_mod hj]
    split_ifs <;> push_cast <;> omega

/-- What the turn with the number `n` adds to the count of the member `i`. -/
def turn (k i n : ℕ) : ℕ := if n % k = i then 1 else 0

lemma lead_succ (k i j n : ℕ) :
    lead k i j (n + 1) = lead k i j n + turn k i n - turn k j n := by
  simp only [lead, Nat.count_succ, turn]
  push_cast
  ring

lemma taken_cons_self (g : G) (k i n : ℕ) (gs : List G) :
    taken g k i n (g :: gs) = turn k i n + taken g k i (n + 1) gs := by
  simp [taken, turn]

lemma taken_cons_of_ne {a g : G} (h : a ≠ g) (k i n : ℕ) (gs : List G) :
    taken g k i n (a :: gs) = taken g k i (n + 1) gs := by
  simp [taken, h]

/-- The difference between two members, with what the first one is ahead by when the stretch that
the turns begin with starts. -/
lemma taken_sub_le {lo : ℤ} (hlo : ∀ n, lo ≤ lead k i j n ∧ lead k i j n ≤ lo + 1) (g : G) (n : ℕ)
    (gs : List G) : (taken g k i n gs : ℤ) - taken g k j n gs ≤
      stretches g gs - if gs.head? = some g then lead k i j n - lo else 0 := by
  induction gs generalizing n with
  | nil => simp [taken, stretches]
  | cons a gs ih =>
    have ih' := ih (n + 1)
    have hnext := hlo (n + 1)
    have hsucc := lead_succ k i j n
    by_cases ha : a = g
    · subst ha
      simp only [taken_cons_self, stretches, true_and, List.head?_cons, if_true]
      push_cast
      -- the stretch goes on or ends with this turn
      by_cases hgs : gs.head? = some a
      · rw [if_pos hgs] at ih'
        rw [if_neg (not_not.mpr hgs)]
        omega
      · rw [if_neg hgs] at ih'
        rw [if_pos hgs]
        omega
    · simp only [taken_cons_of_ne ha, stretches, ha, false_and, if_false, List.head?_cons,
        Option.some.injEq, zero_add, sub_zero]
      split_ifs at ih' <;> omega

/-- **One counter for many groups.**  The turns of a group are shared out evenly up to one turn for
every stretch of them. -/
theorem taken_le (hi : i < k) (hj : j < k) (g : G) (n : ℕ) (gs : List G) :
    taken g k i n gs ≤ taken g k j n gs + stretches g gs := by
  obtain ⟨lo, hlo⟩ := exists_lead_bounds hi hj
  have h := taken_sub_le hlo g n gs
  have hn := hlo n
  split_ifs at h <;> omega

end RoundRobin

end CoroutineGateway
