import Mathlib.Data.List.Infix
import Mathlib.Data.Option.Basic

/-!
# Longest-prefix tables

A table that is filled from a list, later entries overwriting earlier ones, and asked for the
entry of the longest key that is a prefix of a text.

* `lastIdx P l` is the position of the last entry of `l` that `P` holds of: what is left at one
  key when the list has been written into the table in order (`lastIdx_concat` is the step of
  such a loop).
* `longest f s` is what the partial map `f` has at the longest non-empty prefix of `s` where it is
  defined; `longest_eq_some_iff` says so without the recursion.
-/

namespace CoroutineGateway

namespace PrefixTable

variable {α β ε : Type*}

/-! ## The last entry -/

/-- The position of the last entry with the property. -/
def lastIdx (P : ε → Bool) (l : List ε) : Option ℕ :=
  (l.zipIdx.filter fun e => P e.1).getLast?.map Prod.snd

variable {P Q : ε → Bool} {l : List ε} {e : ε} {i : ℕ}

lemma lastIdx_nil : lastIdx P [] = none := rfl

/-- One more entry. -/
lemma lastIdx_concat (l : List ε) (e : ε) :
    lastIdx P (l ++ [e]) = if P e then some l.length else lastIdx P l := by
  unfold lastIdx
  rw [List.zipIdx_append, List.filter_append]
  by_cases he : P e = true
  · simp [he]
  · simp [he]

lemma lastIdx_eq_none_iff : lastIdx P l = none ↔ ∀ e ∈ l, P e = false := by
  induction l using List.reverseRecOn with
  | nil => simp [lastIdx_nil]
  | append_singleton l e ih =>
    rw [lastIdx_concat]
    by_cases he : P e = true
    · simp [he]
    · simp [he, ih, or_imp, forall_and]

/-- `lastIdx` is the last position with the property. -/
lemma lastIdx_eq_some_iff : lastIdx P l = some i ↔
    (∃ e, l[i]? = some e ∧ P e = true) ∧ ∀ j e, i < j → l[j]? = some e → P e = false := by
  induction l using List.reverseRecOn with
  | nil => simp [lastIdx_nil]
  | append_singleton l a ih =>
    have hbeyond : ∀ {j e}, l.length < j → (l ++ [a])[j]? ≠ some e := by
      intro j e hj h
      obtain ⟨hlt, -⟩ := List.getElem?_eq_some_iff.mp h
      simp only [List.length_append, List.length_cons, List.length_nil] at hlt
      omega
    rw [lastIdx_concat]
    by_cases ha : P a = true
    · rw [if_pos ha, Option.some.injEq]
      constructor
      · rintro rfl
        exact ⟨⟨a, List.getElem?_concat_length, ha⟩, fun j e hj h => absurd h (hbeyond hj)⟩
      · rintro ⟨⟨e, he, -⟩, hlast⟩
        by_contra hne
        rcases Nat.lt_or_gt_of_ne (Ne.symm hne) with hi | hi
        · exact absurd (hlast l.length a hi List.getElem?_concat_length) (by simp [ha])
        · exact absurd he (hbeyond hi)
    · rw [if_neg ha, ih]
      constructor
      · rintro ⟨⟨e, he, hP⟩, hlast⟩
        obtain ⟨hi, -⟩ := List.getElem?_eq_some_iff.mp he
        refine ⟨⟨e, by rwa [List.getElem?_append_left hi], hP⟩, fun j e' hj h => ?_⟩
        rcases Nat.lt_trichotomy j l.length with hlt | rfl | hgt
        · exact hlast j e' hj (by rwa [List.getElem?_append_left hlt] at h)
        · obtain rfl : a = e' := by simpa using h
          simpa using ha
        · exact absurd h (hbeyond hgt)
      · rintro ⟨⟨e, he, hP⟩, hlast⟩
        have hi : i < l.length := by
          rcases Nat.lt_trichotomy i l.length with hlt | rfl | hgt
          · exact hlt
          · obtain rfl : a = e := by simpa using he
            exact absurd hP ha
          · exact absurd he (hbeyond hgt)
        refine ⟨⟨e, by rwa [List.getElem?_append_left hi] at he, hP⟩, fun j e' hj h => ?_⟩
        obtain ⟨hlt, -⟩ := List.getElem?_eq_some_iff.mp h
        exact hlast j e' hj (by rwa [List.getElem?_append_left hlt])

/-- The last entry itself. -/
lemma lastIdx_bind_getElem (P : ε → Bool) (l : List ε) :
    (lastIdx P l).bind (l[·]?) = (l.filter P).getLast? := by
  induction l using List.reverseRecOn with
  | nil => rfl
  | append_singleton l e ih =>
    rw [lastIdx_concat, List.filter_append]
    by_cases he : P e = true
    · simp [he]
    · simp only [he, if_false, Bool.false_eq_true, List.filter_cons, List.filter_nil,
        List.append_nil, ← ih]
      refine Option.bind_congr fun i hi => ?_
      obtain ⟨⟨e', he', -⟩, -⟩ := lastIdx_eq_some_iff.mp hi
      obtain ⟨hlt, -⟩ := List.getElem?_eq_some_iff.mp he'
      rw [List.getElem?_append_left hlt]

/-! ## The longest prefix -/

/-- What the map has at the longest non-empty prefix of the text where it is defined. -/
def longest (f : List α → Option β) : List α → Option β
  | [] => none
  | c :: s => longest (fun p => f (c :: p)) s <|> f [c]

variable {f : List α → Option β} {s p : List α} {b : β}

lemma longest_eq_none_iff :
    longest f s = none ↔ ∀ p, p ≠ [] → p <+: s → f p = none := by
  induction s generalizing f with
  | nil =>
    simp only [longest, true_iff]
    exact fun p hne hp => absurd (List.prefix_nil.mp hp) hne
  | cons c s ih =>
    rw [longest, Option.orElse_eq_orElse, Option.orElse_eq_or, Option.or_eq_none_iff, ih]
    constructor
    · rintro ⟨hlong, hshort⟩ p hne hp
      obtain ⟨d, q, rfl⟩ := List.exists_cons_of_ne_nil hne
      obtain ⟨rfl, hq⟩ := List.cons_prefix_cons.mp hp
      by_cases hqn : q = []
      · rwa [hqn]
      · exact hlong q hqn hq
    · intro h
      exact ⟨fun q _ hq => h (c :: q) (List.cons_ne_nil _ _) (List.cons_prefix_cons.mpr ⟨rfl, hq⟩),
        h [c] (List.cons_ne_nil _ _) ⟨s, rfl⟩⟩

/-- `longest` is what the map has at a prefix beyond which it is undefined. -/
theorem longest_eq_some_iff : longest f s = some b ↔
    ∃ p, p ≠ [] ∧ p <+: s ∧ f p = some b ∧ ∀ q, q <+: s → p.length < q.length → f q = none := by
  induction s generalizing f with
  | nil =>
    simp only [longest, reduceCtorEq, false_iff, not_exists, not_and]
    exact fun p hne hp => absurd (List.prefix_nil.mp hp) hne
  | cons c s ih =>
    rw [longest, Option.orElse_eq_orElse, Option.orElse_eq_or, Option.or_eq_some_iff, ih]
    constructor
    · rintro (⟨p, hne, hp, hf, hbeyond⟩ | ⟨hnone, hf⟩)
      · refine ⟨c :: p, List.cons_ne_nil _ _, List.cons_prefix_cons.mpr ⟨rfl, hp⟩, hf, ?_⟩
        intro q hq hlt
        obtain ⟨d, q, rfl⟩ := List.exists_cons_of_ne_nil (l := q) (by rintro rfl; simp at hlt)
        obtain ⟨rfl, hqs⟩ := List.cons_prefix_cons.mp hq
        exact hbeyond q hqs (by simpa using hlt)
      · refine ⟨[c], List.cons_ne_nil _ _, ⟨s, rfl⟩, hf, fun q hq hlt => ?_⟩
        obtain ⟨d, q, rfl⟩ := List.exists_cons_of_ne_nil (l := q) (by rintro rfl; simp at hlt)
        obtain ⟨rfl, hqs⟩ := List.cons_prefix_cons.mp hq
        exact longest_eq_none_iff.mp hnone q (by rintro rfl; simp at hlt) hqs
    · rintro ⟨p, hne, hp, hf, hbeyond⟩
      obtain ⟨d, p, rfl⟩ := List.exists_cons_of_ne_nil hne
      obtain ⟨rfl, hps⟩ := List.cons_prefix_cons.mp hp
      by_cases hnil : p = []
      · subst hnil
        refine .inr ⟨longest_eq_none_iff.mpr fun q hqn hq => ?_, hf⟩
        exact hbeyond (d :: q) (List.cons_prefix_cons.mpr ⟨rfl, hq⟩)
          (by simpa using List.length_pos_of_ne_nil hqn)
      · refine .inl ⟨p, hnil, hps, hf, fun q hq hlt => ?_⟩
        exact hbeyond (d :: q) (List.cons_prefix_cons.mpr ⟨rfl, hq⟩) (by simpa using hlt)

/-- What is looked up at the longest prefix is what the composed map has there. -/
lemma longest_bind {γ : Type*} {g : β → Option γ} (h : ∀ p b, f p = some b → g b ≠ none) :
    (longest f s).bind g = longest (fun p => (f p).bind g) s := by
  induction s generalizing f with
  | nil => rfl
  | cons c s ih =>
    have ih' := ih fun p b hp => h (c :: p) b hp
    simp only [longest, Option.orElse_eq_orElse, Option.orElse_eq_or, ← ih']
    cases hlong : longest (fun p => f (c :: p)) s with
    | none => simp
    | some b =>
      obtain ⟨p, -, -, hp, -⟩ := longest_eq_some_iff.mp hlong
      obtain ⟨a, ha⟩ := Option.ne_none_iff_exists'.mp (h _ b hp)
      simp [ha]

end PrefixTable

end CoroutineGateway
