import CoroutineGateway.Construction.FilterChain
import Mathlib.Data.List.Basic

/-!
# The rate limit

The filter counts the requests since the second began, those it has rejected among them, and starts
again at zero with the first request of another second.  So the `n`-th request of a second is
admitted exactly if the limit is at least `n` when it arrives (`verdictsIn_eq`), whatever the limit
was before.

A rejected request takes up a number like any other, which is why a limit that is raised in the
middle of a second admits fewer requests than it would have from the start.
-/

namespace CoroutineGateway

namespace RateLimitFilter

variable {A : Type*}

/-- A request that reaches the filter: the configuration and the clock that are read. -/
structure Call (A : Type*) where
  cfg : GatewayConfig A
  now : ℤ

/-- The answer to a request that is one too many. -/
def tooMany : Verdict := .reject HttpStatus.tooManyRequests (ascii "too many requests\n")

/-- The answers to a run of requests, one after the other. -/
def verdicts (f : RateLimitFilter) : List (Call A) → List Verdict
  | [] => []
  | c :: calls => (f.apply c.cfg c.now).1 :: verdicts (f.apply c.cfg c.now).2 calls

/-- The requests of one second. -/
def callsIn (sec : ℤ) (calls : List (Call A)) : List (Call A) := calls.filter (·.now = sec)

/-- The answers to the requests of one second. -/
def verdictsIn (f : RateLimitFilter) (sec : ℤ) (calls : List (Call A)) : List Verdict :=
  ((calls.zip (f.verdicts calls)).filter (·.1.now = sec)).map Prod.snd

/-- How many of the requests of one second are admitted. -/
def admittedIn (f : RateLimitFilter) (sec : ℤ) (calls : List (Call A)) : ℕ :=
  (f.verdictsIn sec calls).count .pass

/-- The requests counted in a second. -/
def countedIn (f : RateLimitFilter) (sec : ℤ) : ℤ := if f.lastSec = sec then f.count else 0

/-- The answers to the requests of a second in which `k` requests have been counted before. -/
def answers : ℤ → List (Call A) → List Verdict
  | _, [] => []
  | k, c :: calls =>
    (if k + 1 ≤ c.cfg.maxQps then .pass else tooMany) :: answers (k + 1) calls

/-! ## One request -/

variable {f : RateLimitFilter} {c : Call A} {calls : List (Call A)}

/-- The answer to a request depends on the number it gets, and only the count of its second is
kept. -/
theorem apply_eq (hpos : 0 < c.cfg.maxQps) (hk : 0 ≤ f.countedIn c.now)
    (hlt : f.countedIn c.now + 1 < 2 ^ 31) :
    f.apply c.cfg c.now =
      (if f.countedIn c.now + 1 ≤ c.cfg.maxQps then .pass else tooMany,
        ⟨c.now, f.countedIn c.now + 1⟩) := by
  have hsec : (if c.now ≠ f.lastSec then (⟨c.now, 0⟩ : RateLimitFilter) else f) =
      ⟨c.now, f.countedIn c.now⟩ := by
    unfold countedIn
    by_cases heq : f.lastSec = c.now
    · rw [if_neg (by simp [heq]), if_pos heq, ← heq]
    · rw [if_pos (Ne.symm heq), if_neg heq]
  have hwrap : Int.bmod (f.countedIn c.now + 1) (2 ^ 32) = f.countedIn c.now + 1 :=
    Int.bmod_eq_of_le (by omega) (by omega)
  simp only [apply, if_neg (not_le.mpr hpos), hsec, hwrap, gt_iff_lt, tooMany]
  split_ifs <;> first | rfl | omega

/-! ## A run of requests -/

lemma verdictsIn_cons_of_eq {sec : ℤ} (h : c.now = sec) :
    f.verdictsIn sec (c :: calls) =
      (f.apply c.cfg c.now).1 :: (f.apply c.cfg c.now).2.verdictsIn sec calls := by
  simp [verdictsIn, verdicts, h]

lemma verdictsIn_cons_of_ne {sec : ℤ} (h : c.now ≠ sec) :
    f.verdictsIn sec (c :: calls) = (f.apply c.cfg c.now).2.verdictsIn sec calls := by
  simp [verdictsIn, verdicts, h]

lemma callsIn_cons_of_eq {sec : ℤ} (h : c.now = sec) :
    callsIn sec (c :: calls) = c :: callsIn sec calls := by
  simp [callsIn, h]

lemma callsIn_cons_of_ne {sec : ℤ} (h : c.now ≠ sec) :
    callsIn sec (c :: calls) = callsIn sec calls := by
  simp [callsIn, h]

/-- What is asked of a run: the clock does not go back, the limits are positive, and no second has
so many requests that the count overflows. -/
structure Orderly (f : RateLimitFilter) (calls : List (Call A)) : Prop where
  clock : calls.Pairwise fun c c' => c.now ≤ c'.now
  limits : ∀ c ∈ calls, 0 < c.cfg.maxQps
  few : ∀ sec, f.countedIn sec + (callsIn sec calls).length < 2 ^ 31
  counted : 0 ≤ f.count
  /-- A count that is not zero belongs to a second that is not over. -/
  current : f.count = 0 ∨ ∀ c ∈ calls, f.lastSec ≤ c.now

lemma countedIn_after {n now sec : ℤ} (h : now ≠ sec) : countedIn ⟨now, n⟩ sec = 0 := if_neg h

lemma countedIn_nonneg (h : 0 ≤ f.count) (sec : ℤ) : 0 ≤ f.countedIn sec := by
  unfold countedIn
  split_ifs
  · exact h
  · exact le_rfl

/-- One request leaves an orderly run behind it. -/
lemma Orderly.tail (h : Orderly f (c :: calls)) :
    Orderly ⟨c.now, f.countedIn c.now + 1⟩ calls := by
  have hcounted := countedIn_nonneg h.counted c.now
  have hclock := List.pairwise_cons.mp h.clock
  refine ⟨hclock.2, fun c' hc' => h.limits c' (List.mem_cons_of_mem _ hc'), fun sec => ?_, ?_,
    .inr hclock.1⟩
  · have hfew := h.few sec
    by_cases hsec : c.now = sec
    · subst hsec
      rw [callsIn_cons_of_eq rfl, List.length_cons] at hfew
      have hself : countedIn ⟨c.now, f.countedIn c.now + 1⟩ c.now = f.countedIn c.now + 1 :=
        if_pos rfl
      omega
    · rw [callsIn_cons_of_ne hsec] at hfew
      have hzero := countedIn_after (n := f.countedIn c.now + 1) hsec
      have hnonneg := countedIn_nonneg h.counted sec
      omega
  · show 0 ≤ f.countedIn c.now + 1
    omega

/-- Nothing is counted in a second that is to come. -/
lemma Orderly.answers_callsIn (h : Orderly f (c :: calls)) {sec : ℤ} (hsec : c.now ≠ sec) :
    answers (f.countedIn sec) (callsIn sec calls) = answers 0 (callsIn sec calls) := by
  cases hcalls : callsIn sec calls with
  | nil => rfl
  | cons c' rest =>
    have hmem : c' ∈ callsIn sec calls := hcalls ▸ List.mem_cons_self
    obtain ⟨hc', hnow⟩ := List.mem_filter.mp hmem
    have hzero : f.countedIn sec = 0 := by
      unfold countedIn
      split_ifs with hlast
      · rcases h.current with h0 | hle
        · exact h0
        · have hfirst := hle c List.mem_cons_self
          have hlater := (List.pairwise_cons.mp h.clock).1 c' hc'
          have hnow' : c'.now = sec := by simpa using hnow
          omega
      · rfl
    rw [hzero]

/-- The answers to the requests of a second, by their numbers in it. -/
theorem Orderly.verdictsIn_eq (h : Orderly f calls) (sec : ℤ) :
    f.verdictsIn sec calls = answers (f.countedIn sec) (callsIn sec calls) := by
  induction calls generalizing f with
  | nil => rfl
  | cons c calls ih =>
    have hfew := h.few c.now
    rw [callsIn_cons_of_eq rfl, List.length_cons] at hfew
    have hcounted := countedIn_nonneg h.counted c.now
    have happly := apply_eq (f := f) (h.limits c List.mem_cons_self) hcounted (by omega)
    by_cases hsec : c.now = sec
    · rw [verdictsIn_cons_of_eq hsec, callsIn_cons_of_eq hsec, happly, ih h.tail, answers, ← hsec]
      simp only [countedIn, if_true]
    · rw [verdictsIn_cons_of_ne hsec, callsIn_cons_of_ne hsec, happly, ih h.tail,
        h.answers_callsIn hsec]
      show answers (countedIn ⟨c.now, f.countedIn c.now + 1⟩ sec) _ = _
      rw [countedIn_after hsec]

/-! ## The answers of one second -/

/-- There are no more admitted than the limit that the last of them met. -/
lemma answers_count_le (k : ℤ) (calls : List (Call A)) :
    (answers k calls).count .pass = 0 ∨
      ∃ c ∈ calls, k + (answers k calls).count .pass ≤ c.cfg.maxQps := by
  induction calls generalizing k with
  | nil => exact .inl rfl
  | cons c calls ih =>
    by_cases hpass : k + 1 ≤ c.cfg.maxQps
    · rw [answers, if_pos hpass, List.count_cons_self]
      rcases ih (k + 1) with hnone | ⟨c', hc', hle⟩
      · exact .inr ⟨c, List.mem_cons_self, by omega⟩
      · exact .inr ⟨c', List.mem_cons_of_mem _ hc', by push_cast; omega⟩
    · have hne : tooMany ≠ .pass := by simp [tooMany]
      rw [answers, if_neg hpass, List.count_cons_of_ne hne]
      rcases ih (k + 1) with hnone | ⟨c', hc', hle⟩
      · exact .inl hnone
      · exact .inr ⟨c', List.mem_cons_of_mem _ hc', by omega⟩

/-- Under a limit that does not change, the first requests are admitted. -/
lemma answers_of_const {limit k : ℕ} (hlimit : ∀ c ∈ calls, c.cfg.maxQps = limit) :
    answers k calls = List.replicate (min (limit - k) calls.length) .pass ++
      List.replicate (calls.length - (limit - k)) tooMany := by
  induction calls generalizing k with
  | nil => simp [answers]
  | cons c calls ih =>
    have ih' := ih (k := k + 1) fun c' hc' => hlimit c' (List.mem_cons_of_mem _ hc')
    push_cast at ih'
    rw [answers, hlimit c List.mem_cons_self, ih', List.length_cons]
    by_cases hpass : (k : ℤ) + 1 ≤ limit
    · have hleft : limit - k = limit - (k + 1) + 1 := by omega
      rw [if_pos hpass, hleft, Nat.add_min_add_right, List.replicate_succ, Nat.add_sub_add_right]
      rfl
    · have hleft : limit - k = 0 ∧ limit - (k + 1) = 0 := by omega
      rw [if_neg hpass, hleft.1, hleft.2, Nat.zero_min, Nat.zero_min, Nat.sub_zero, Nat.sub_zero,
        List.replicate_succ]
      rfl

/-! ## The limit -/

lemma orderly_init (hclock : calls.Pairwise fun c c' => c.now ≤ c'.now)
    (hlimits : ∀ c ∈ calls, 0 < c.cfg.maxQps)
    (hfew : ∀ sec, (callsIn sec calls).length < 2 ^ 31) : Orderly init calls where
  clock := hclock
  limits := hlimits
  few sec := by
    have hzero : init.countedIn sec = 0 := by
      unfold countedIn
      split_ifs <;> rfl
    have := hfew sec
    omega
  counted := le_rfl
  current := .inl rfl

/-- In no second are more requests admitted than the largest limit that one of them met, and under
a limit that stays the same it is exactly the first ones that are. -/
theorem admitted_of_run (hclock : calls.Pairwise fun c c' => c.now ≤ c'.now)
    (hlimits : ∀ c ∈ calls, 0 < c.cfg.maxQps)
    (hfew : ∀ sec, (callsIn sec calls).length < 2 ^ 31) (sec : ℤ) :
    (callsIn sec calls ≠ [] →
      ∃ c ∈ callsIn sec calls, (init.admittedIn sec calls : ℤ) ≤ c.cfg.maxQps) ∧
    ∀ limit : ℕ, (∀ c ∈ callsIn sec calls, c.cfg.maxQps = limit) →
      init.verdictsIn sec calls =
        List.replicate (min limit (callsIn sec calls).length) .pass ++
          List.replicate ((callsIn sec calls).length - limit) tooMany := by
  have horderly := orderly_init hclock hlimits hfew
  have hverdicts : init.verdictsIn sec calls = answers 0 (callsIn sec calls) := by
    rw [horderly.verdictsIn_eq]
    congr 1
    unfold countedIn
    split_ifs <;> rfl
  constructor
  · intro hne
    rw [admittedIn, hverdicts]
    rcases answers_count_le 0 (callsIn sec calls) with hnone | ⟨c, hc, hle⟩
    · obtain ⟨c, hc⟩ := List.exists_mem_of_ne_nil _ hne
      have hpos := hlimits c (List.mem_of_mem_filter hc)
      exact ⟨c, hc, by omega⟩
    · exact ⟨c, hc, by omega⟩
  · intro limit hlimit
    rw [hverdicts]
    exact answers_of_const (k := 0) hlimit

/-- Three requests in one second, with a limit of one that is raised to two before the third, and
one request in the next. -/
def sampleCalls : List (Call Bytes) :=
  [⟨{ GatewayConfig.init with maxQps := 1 }, 7⟩, ⟨{ GatewayConfig.init with maxQps := 1 }, 7⟩,
    ⟨{ GatewayConfig.init with maxQps := 2 }, 7⟩, ⟨{ GatewayConfig.init with maxQps := 2 }, 8⟩]

lemma length_callsIn_le (sec : ℤ) (calls : List (Call A)) :
    (callsIn sec calls).length ≤ calls.length := List.length_filter_le _ _

theorem admitted_sampleCalls :
    init.admittedIn 7 sampleCalls = 1 ∧ init.verdictsIn 8 sampleCalls = [.pass] ∧
      ∃ c ∈ callsIn 7 sampleCalls, (init.admittedIn 7 sampleCalls : ℤ) ≤ c.cfg.maxQps :=
  ⟨by decide +kernel, by decide +kernel,
    (admitted_of_run (by decide) (by decide)
      (fun sec => (length_callsIn_le sec sampleCalls).trans_lt (by decide)) 7).1
      (List.cons_ne_nil _ _)⟩

end RateLimitFilter

end CoroutineGateway
