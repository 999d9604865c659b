import Mathlib.Data.List.Infix

/-!
# Searching a sequence

Searching a list for an occurrence of another one, in the terms of the operations of
`std::string`: `find` is the index of the first occurrence, `findFrom` starts at a position,
`substr` cuts out a range.  `none` is `npos`.

What a search finds in a prefix of a sequence is what it finds in the sequence, as soon as the
prefix is long enough to hold the occurrence (`find_take`), which is how a reader that gets the
sequence in pieces can be compared with one that has all of it.  `find_separator_pair` locates
the empty line at the end of a block of lines, and `after_quoted` a word between two quotes.
-/

namespace CoroutineGateway

namespace Seq

variable {α : Type*}

/-- `needle` stands in `s` at index `i`. -/
def OccursAt (needle s : List α) (i : ℕ) : Prop := needle <+: s.drop i

/-- `needle` stands in `s` in at most one place. -/
def AtMostOnce (needle s : List α) : Prop :=
  ∀ i j, OccursAt needle s i → OccursAt needle s j → i = j

variable [DecidableEq α]

/-- `s.find(needle)` -/
def find (needle : List α) : List α → Option ℕ
  | [] => if needle = [] then some 0 else none
  | c :: s => if needle.isPrefixOf (c :: s) then some 0 else (find needle s).map (· + 1)

/-- `s.find(needle, pos)` -/
def findFrom (needle s : List α) (pos : ℕ) : Option ℕ :=
  if pos ≤ s.length then (find needle (s.drop pos)).map (· + pos) else none

omit [DecidableEq α] in
/-- `s.substr(pos, n)`, with `none` for `npos`. -/
def substr (s : List α) (pos : ℕ) (n : Option ℕ) : List α :=
  match n with
  | none => s.drop pos
  | some n => (s.drop pos).take n

/-- `s.find_first_not_of(set)` -/
def findFirstNotOf (set s : List α) : Option ℕ := s.findIdx? (· ∉ set)

/-- `s.find_last_not_of(set)` -/
def findLastNotOf (set s : List α) : Option ℕ :=
  (s.reverse.findIdx? (· ∉ set)).map fun i => s.length - 1 - i

/-! ## The first occurrence -/

variable {needle s : List α} {i p : ℕ}

lemma find_skip {c : α} (h : ¬ needle <+: c :: s) :
    find needle (c :: s) = (find needle s).map (· + 1) := by
  simp [find, List.isPrefixOf_iff_prefix, h]

lemma find_at_start (h : needle <+: s) : find needle s = some 0 := by
  cases s with
  | nil => simp [find, List.prefix_nil.mp h]
  | cons c s => simp [find, List.isPrefixOf_iff_prefix, h]

/-- `find` is the index of the first occurrence. -/
lemma find_eq_some_iff : find needle s = some i ↔
    i ≤ s.length ∧ OccursAt needle s i ∧ ∀ j < i, ¬ OccursAt needle s j := by
  induction s generalizing i with
  | nil =>
    by_cases hn : needle = []
    · subst hn
      simp only [find, if_true, Option.some.injEq, List.length_nil, Nat.le_zero, OccursAt]
      constructor
      · rintro rfl
        exact ⟨rfl, List.nil_prefix, fun j hj => absurd hj (Nat.not_lt_zero j)⟩
      · exact fun h => h.1.symm
    · simp [find, OccursAt, hn]
  | cons c s ih =>
    by_cases hpre : needle <+: c :: s
    · rw [find_at_start hpre, Option.some.injEq]
      constructor
      · rintro rfl
        exact ⟨Nat.zero_le _, hpre, fun j hj => absurd hj (Nat.not_lt_zero j)⟩
      · rintro ⟨-, -, hmin⟩
        by_contra hi
        exact hmin 0 (Nat.pos_of_ne_zero (Ne.symm hi)) hpre
    · rw [find_skip hpre, Option.map_eq_some_iff]
      constructor
      · rintro ⟨k, hk, rfl⟩
        obtain ⟨hle, hocc, hmin⟩ := ih.mp hk
        refine ⟨Nat.succ_le_succ hle, hocc, fun j hj => ?_⟩
        cases j with
        | zero => exact hpre
        | succ j => exact hmin j (Nat.lt_of_succ_lt_succ hj)
      · rintro ⟨hle, hocc, hmin⟩
        cases i with
        | zero => exact absurd hocc hpre
        | succ i =>
          exact ⟨i, ih.mpr ⟨Nat.le_of_succ_le_succ hle, hocc,
            fun j hj => hmin (j + 1) (Nat.succ_lt_succ hj)⟩, rfl⟩

lemma find_eq_none_iff : find needle s = none ↔ ∀ i ≤ s.length, ¬ OccursAt needle s i := by
  constructor
  · intro h i
    -- by strong induction, an occurrence would be the first one
    induction i using Nat.strong_induction_on with
    | _ i ih =>
      intro hi hocc
      have hfound : find needle s = some i := find_eq_some_iff.mpr
        ⟨hi, hocc, fun j hj => ih j hj ((Nat.le_of_lt hj).trans hi)⟩
      rw [h] at hfound
      cases hfound
  · intro h
    cases hfind : find needle s with
    | none => rfl
    | some k =>
      obtain ⟨hk, hocc, -⟩ := find_eq_some_iff.mp hfind
      exact absurd hocc (h k hk)

/-! ## Searching a prefix -/

omit [DecidableEq α] in
lemma occursAt_take (hne : needle ≠ []) :
    OccursAt needle (s.take p) i ↔ OccursAt needle s i ∧ i + needle.length ≤ p := by
  unfold OccursAt
  rw [List.drop_take, List.prefix_take_iff]
  refine and_congr_right fun _ => ?_
  have hpos : 0 < needle.length := List.length_pos_of_ne_nil hne
  omega

omit [DecidableEq α] in
lemma OccursAt.add_length_le (h : OccursAt needle s i) (hi : i ≤ s.length) :
    i + needle.length ≤ s.length := by
  have hlen := List.IsPrefix.length_le h
  rw [List.length_drop] at hlen
  omega

omit [DecidableEq α] in
lemma OccursAt.le_length (h : OccursAt needle s i) (hne : needle ≠ []) :
    i + needle.length ≤ s.length := by
  have hlen := List.IsPrefix.length_le h
  have hpos : 0 < needle.length := List.length_pos_of_ne_nil hne
  rw [List.length_drop] at hlen
  omega

/-- A prefix that holds the first occurrence has the same first occurrence. -/
lemma find_take (hne : needle ≠ []) (h : find needle s = some i) (hp : i + needle.length ≤ p) :
    find needle (s.take p) = some i := by
  obtain ⟨-, hocc, hmin⟩ := find_eq_some_iff.mp h
  have hocc' : OccursAt needle (s.take p) i := (occursAt_take hne).mpr ⟨hocc, hp⟩
  refine find_eq_some_iff.mpr ⟨?_, hocc', fun j hj hoj => ?_⟩
  · exact (Nat.le_add_right _ _).trans (hocc'.le_length hne)
  · exact hmin j hj ((occursAt_take hne).mp hoj).1

/-- A shorter prefix has no occurrence. -/
lemma find_take_eq_none (hne : needle ≠ []) (h : find needle s = some i)
    (hp : p < i + needle.length) : find needle (s.take p) = none := by
  obtain ⟨-, -, hmin⟩ := find_eq_some_iff.mp h
  refine find_eq_none_iff.mpr fun j _ hoj => ?_
  obtain ⟨hoj, hjp⟩ := (occursAt_take hne).mp hoj
  exact hmin j (by omega) hoj

/-! ## Blocks of lines -/

/-- Lines, each followed by the separator. -/
def joinLines (sep : List α) (lines : List (List α)) : List α :=
  (lines.map (· ++ sep)).flatten

omit [DecidableEq α] in
lemma joinLines_cons (sep l : List α) (lines : List (List α)) :
    joinLines sep (l :: lines) = l ++ sep ++ joinLines sep lines := rfl

omit [DecidableEq α] in
lemma joinLines_concat (sep l : List α) (lines : List (List α)) :
    joinLines sep (lines ++ [l]) = joinLines sep lines ++ l ++ sep := by
  simp [joinLines]

lemma find_append_of_notMem {a : α} {rest l : List α} (hl : a ∉ l) :
    find (a :: rest) (l ++ s) = (find (a :: rest) s).map (· + l.length) := by
  induction l with
  | nil => simp
  | cons c l ih =>
    obtain ⟨hac, hl⟩ := not_or.mp (fun h => hl (List.mem_cons.mpr h))
    have hpre : ¬ a :: rest <+: c :: (l ++ s) := fun h => hac (List.cons_prefix_cons.mp h).1
    rw [List.cons_append, find_skip hpre, ih hl, Option.map_map]
    rfl

/-- The first empty line after a block of non-empty lines that are free of the separator's first
symbol is the one at the end of the block. -/
theorem find_separator_pair {a b : α} (hab : a ≠ b) {lines : List (List α)}
    (hlines : ∀ l ∈ lines, l ≠ [] ∧ a ∉ l) (hne : lines ≠ []) (rest : List α) :
    (find [a, b, a, b] (joinLines [a, b] lines ++ [a, b] ++ rest)).map (· + 2) =
      some (joinLines [a, b] lines).length := by
  induction lines with
  | nil => exact absurd rfl hne
  | cons l lines ih =>
    obtain ⟨-, hl⟩ := hlines l List.mem_cons_self
    have hsplit : joinLines [a, b] (l :: lines) ++ [a, b] ++ rest =
        l ++ a :: b :: (joinLines [a, b] lines ++ [a, b] ++ rest) := by
      simp [joinLines_cons]
    have hlen : (joinLines [a, b] (l :: lines)).length =
        (joinLines [a, b] lines).length + 2 + l.length := by
      simp [joinLines_cons]
      omega
    rw [hsplit, find_append_of_notMem hl, hlen]
    cases lines with
    | nil =>
      have hpre : [a, b, a, b] <+: a :: b :: (joinLines [a, b] [] ++ [a, b] ++ rest) :=
        ⟨rest, rfl⟩
      rw [find_at_start hpre]
      simp [joinLines, Nat.add_comm]
    | cons l' lines =>
      obtain ⟨hl'ne, hl'⟩ := hlines l' (List.mem_cons_of_mem _ List.mem_cons_self)
      have ih' := ih (fun m hm => hlines m (List.mem_cons_of_mem _ hm)) (List.cons_ne_nil _ _)
      obtain ⟨c, t, rfl⟩ := List.exists_cons_of_ne_nil hl'ne
      have hca : a ≠ c := fun h => hl' (h ▸ List.mem_cons_self)
      -- the next line is not empty, so nothing is found at the end of this one
      have hpre : ¬ [a, b, a, b] <+:
          a :: b :: (joinLines [a, b] ((c :: t) :: lines) ++ [a, b] ++ rest) := by
        simp [joinLines_cons, List.cons_prefix_cons, hca]
      have hpre' : ¬ [a, b, a, b] <+:
          b :: (joinLines [a, b] ((c :: t) :: lines) ++ [a, b] ++ rest) := by
        simp [List.cons_prefix_cons, hab]
      rw [find_skip hpre, find_skip hpre']
      obtain ⟨k, hk, hk'⟩ := Option.map_eq_some_iff.mp ih'
      rw [hk, ← hk']
      simp only [Option.map_some, Option.some.injEq]
      omega

/-! ## Searching a block of lines -/

/-- What follows the first `needle` in a line. -/
def after (needle line : List α) : Option (List α) :=
  (find needle line).map fun i => line.drop (i + needle.length)

/-- What follows the first `needle` in a text, up to the next `sep`, cut out by positions: the
end is searched from the needle's start. -/
def afterUntil (needle sep text : List α) : Option (List α) :=
  (find needle text).map fun i => substr text (i + needle.length)
    ((findFrom sep text i).map fun e => e - i - needle.length)

variable {l rest sep : List α}

lemma find_append_left (h : find needle l = some i) : find needle (l ++ rest) = some i := by
  obtain ⟨hle, hocc, hmin⟩ := find_eq_some_iff.mp h
  by_cases hne : needle = []
  · subst hne
    cases i with
    | zero => exact find_at_start List.nil_prefix
    | succ i => exact absurd List.nil_prefix (hmin 0 (Nat.succ_pos i))
  · have hlen := hocc.le_length hne
    have htake : (l ++ rest).take l.length = l := by simp
    have hocc' : OccursAt needle (l ++ rest) i := by
      refine ((occursAt_take (p := l.length) hne).mp ?_).1
      rwa [htake]
    refine find_eq_some_iff.mpr ⟨by simp; omega, hocc', fun j hj hoj => hmin j hj ?_⟩
    rw [← htake]
    exact (occursAt_take hne).mpr ⟨hoj, by omega⟩

/-- A needle that shares no symbol with the separator cannot reach over it. -/
lemma find_append_sep (hnone : find needle l = none) (hdisj : ∀ c ∈ needle, c ∉ sep)
    (hsep : sep ≠ []) :
    find needle (l ++ sep ++ rest) = (find needle rest).map (· + (l.length + sep.length)) := by
  have hne : needle ≠ [] := by
    rintro rfl
    rw [find_at_start List.nil_prefix] at hnone
    cases hnone
  obtain ⟨x, needle', rfl⟩ := List.exists_cons_of_ne_nil hne
  -- an occurrence that starts in the separator starts with a symbol of it
  have hskip : ∀ s' : List α, (∀ c ∈ s', c ∈ sep) →
      find (x :: needle') (s' ++ rest) = (find (x :: needle') rest).map (· + s'.length) := by
    intro s' hs'
    refine find_append_of_notMem fun hx => ?_
    exact hdisj x List.mem_cons_self (hs' x hx)
  induction l with
  | nil => simpa using hskip sep fun _ h => h
  | cons c l ih =>
    have hpre : ¬ x :: needle' <+: c :: l := by
      intro hpre
      rw [find_at_start hpre] at hnone
      cases hnone
    rw [find_skip hpre, Option.map_eq_none_iff] at hnone
    have hpre' : ¬ x :: needle' <+: c :: (l ++ sep ++ rest) := by
      intro hp
      have hl : c :: l <+: c :: (l ++ sep ++ rest) := ⟨sep ++ rest, by simp⟩
      rcases List.prefix_or_prefix_of_prefix hp hl with h | ⟨t, ht⟩
      · exact hpre h
      · -- the needle covers the line and goes on with the separator
        obtain ⟨u, hu⟩ := hp
        rw [← ht] at hu
        have htu : t ++ u = sep ++ rest := by simpa using hu
        cases t with
        | nil => exact hpre ⟨[], by simpa using ht.symm⟩
        | cons b t =>
          obtain ⟨a, sep', rfl⟩ := List.exists_cons_of_ne_nil hsep
          have hab : b = a := (List.cons.inj htu).1
          refine hdisj b ?_ (hab ▸ List.mem_cons_self)
          rw [← ht]
          simp
    rw [List.cons_append, List.cons_append, find_skip hpre', ih hnone, Option.map_map]
    congr 1
    funext n
    simp only [Function.comp_apply, List.length_cons]
    omega

lemma findFrom_append_shift (needle pre rest : List α) (k : ℕ) :
    findFrom needle (pre ++ rest) (k + pre.length) =
      (findFrom needle rest k).map (· + pre.length) := by
  unfold findFrom
  by_cases hk : k ≤ rest.length
  · have hdrop : (pre ++ rest).drop (k + pre.length) = rest.drop k := by
      rw [Nat.add_comm, List.drop_length_add_append]
    rw [if_pos hk, if_pos (by simp; omega), hdrop, Option.map_map]
    congr 1
    funext n
    simp only [Function.comp_apply]
    omega
  · rw [if_neg hk, if_neg (by simp; omega)]
    rfl

/-- Beyond the first line the search goes on in the rest of the text. -/
lemma afterUntil_append (hnone : find needle l = none) (hdisj : ∀ c ∈ needle, c ∉ sep)
    (hsep : sep ≠ []) : afterUntil needle sep (l ++ sep ++ rest) = afterUntil needle sep rest := by
  unfold afterUntil
  rw [find_append_sep hnone hdisj hsep, Option.map_map]
  congr 1
  funext i
  have hshift := findFrom_append_shift sep (l ++ sep) rest i
  rw [List.length_append] at hshift
  have hdrop : (l ++ sep ++ rest).drop (i + (l.length + sep.length) + needle.length) =
      rest.drop (i + needle.length) := by
    rw [← List.length_append, Nat.add_right_comm, Nat.add_comm, List.drop_length_add_append]
  simp only [Function.comp_apply, hshift]
  cases findFrom sep rest i with
  | none => exact hdrop
  | some e =>
    simp only [Option.map_some, substr, hdrop]
    congr 1
    omega

/-- What is found in a text is found in a longer one. -/
lemma after_append_left {t : List α} (rest : List α) (h : after needle l = some t) :
    after needle (l ++ rest) = some (t ++ rest) := by
  obtain ⟨i, hi, rfl⟩ := Option.map_eq_some_iff.mp h
  obtain ⟨hle, hocc, -⟩ := find_eq_some_iff.mp hi
  have hlen : i + needle.length ≤ l.length := hocc.add_length_le hle
  rw [after, find_append_left hi, Option.map_some, List.drop_append_of_le_length hlen]

lemma find_of_notMem {a : α} {tail : List α} (h : a ∉ l) : find (a :: tail) l = none := by
  rw [← List.append_nil l, find_append_of_notMem h]
  rfl

/-- Inside a line that holds the needle, the search ends at the end of the line. -/
lemma afterUntil_of_some {a : α} {tail : List α} (h : find needle l = some i) (hl : a ∉ l) :
    afterUntil needle (a :: tail) (l ++ a :: tail ++ rest) = some (l.drop (i + needle.length)) := by
  obtain ⟨hle, hocc, -⟩ := find_eq_some_iff.mp h
  have hlen : i + needle.length ≤ l.length := hocc.add_length_le hle
  have hend : findFrom (a :: tail) (l ++ a :: tail ++ rest) i = some l.length := by
    have hdrop : (l ++ a :: tail ++ rest).drop i = l.drop i ++ (a :: tail ++ rest) := by
      rw [List.append_assoc, List.drop_append_of_le_length hle]
    have hat : find (a :: tail) (a :: tail ++ rest) = some 0 :=
      find_at_start (List.prefix_append _ _)
    have hnot : a ∉ l.drop i := fun h => hl (List.mem_of_mem_drop h)
    rw [findFrom, if_pos (by simp; omega), hdrop, find_append_of_notMem hnot, hat]
    simp only [Option.map_some, List.length_drop, Option.some.injEq]
    omega
  rw [afterUntil, List.append_assoc, find_append_left h, Option.map_some, ← List.append_assoc, hend]
  simp only [Option.map_some, substr, Option.some.injEq]
  rw [List.append_assoc, List.drop_append_of_le_length hlen, List.take_left']
  rw [List.length_drop]
  omega

/-- In the last line there is no end to be found, and everything is taken. -/
lemma afterUntil_last {a : α} {tail : List α} (hl : a ∉ l) :
    afterUntil needle (a :: tail) l = after needle l := by
  unfold afterUntil after
  congr 1
  funext i
  have hnot : a ∉ l.drop i := fun h => hl (List.mem_of_mem_drop h)
  have hend : findFrom (a :: tail) l i = none := by
    rw [findFrom, find_of_notMem hnot]
    split_ifs <;> rfl
  rw [hend]
  rfl

/-- Searching a text of lines for a needle that shares no symbol with the line separator finds
the needle in the first line that has it, and yields the rest of that line. -/
theorem afterUntil_joinLines {a : α} {tail : List α} (hdisj : ∀ c ∈ needle, c ∉ a :: tail)
    {lines : List (List α)} {last : List α} (hlines : ∀ l ∈ lines, a ∉ l) (hlast : a ∉ last) :
    afterUntil needle (a :: tail) (joinLines (a :: tail) lines ++ last) =
      (lines ++ [last]).findSome? (after needle) := by
  induction lines with
  | nil => simpa [joinLines, List.findSome?] using afterUntil_last hlast
  | cons l lines ih =>
    have hl : a ∉ l := hlines l List.mem_cons_self
    have ih' := ih fun m hm => hlines m (List.mem_cons_of_mem _ hm)
    rw [joinLines_cons, List.append_assoc, List.cons_append, List.findSome?_cons]
    cases hfind : find needle l with
    | some i =>
      rw [afterUntil_of_some hfind hl, after, hfind]
      rfl
    | none =>
      rw [afterUntil_append hfind hdisj (List.cons_ne_nil _ _), ih', after, hfind]
      rfl

/-! ## Quoted words

A text that is cut at every occurrence of a symbol `q`: a quoted word is found where the first
piece between two symbols `q` is that word, wherever the writer of the text meant words to start
and to end. -/

variable {q : α} {key l' : List α}

lemma quoted_inj (hkey : q ∉ key) (hl : q ∉ l) (h : key ++ [q] <+: l ++ q :: rest) :
    key = l := by
  obtain ⟨u, hu⟩ := h
  have htake : ∀ (s t : List α), q ∉ s → (s ++ q :: t).takeWhile (· ≠ q) = s := by
    intro s t hs
    rw [List.takeWhile_append_of_pos]
    · simp
    · intro c hc
      simpa using fun heq : c = q => hs (heq ▸ hc)
  rw [← htake key u hkey, ← htake l rest hl, ← hu, List.append_assoc]
  rfl

lemma after_quoted_self (hl : q ∉ l) :
    after (q :: (key ++ [q])) (l ++ q :: (key ++ q :: rest)) = some rest := by
  have hpre : q :: (key ++ [q]) <+: q :: (key ++ q :: rest) := ⟨rest, by simp⟩
  have hdrop : (l ++ q :: (key ++ q :: rest)).drop (0 + l.length + (q :: (key ++ [q])).length) =
      rest := by
    rw [Nat.zero_add, List.drop_length_add_append]
    simp
  rw [after, find_append_of_notMem hl, find_at_start hpre, Option.map_some, Option.map_some, hdrop]

lemma after_quoted_skip (rest : List α) (hl : q ∉ l) (hl' : q ∉ l') (hkey : q ∉ key)
    (hne : l' ≠ key) :
    after (q :: (key ++ [q])) (l ++ q :: (l' ++ q :: rest)) =
      after (q :: (key ++ [q])) (l' ++ q :: rest) := by
  have hpre : ¬ q :: (key ++ [q]) <+: q :: (l' ++ q :: rest) := fun h =>
    hne (quoted_inj hkey hl' (List.cons_prefix_cons.mp h).2).symm
  unfold after
  rw [find_append_of_notMem hl, find_skip hpre, Option.map_map, Option.map_map]
  congr 1
  funext i
  simp only [Function.comp_apply]
  rw [Nat.add_comm (i + 1), Nat.add_assoc, List.drop_length_add_append, Nat.add_right_comm,
    List.drop_succ_cons]

/-- A quoted word is found behind the pieces that are not that word. -/
theorem after_quoted {lines : List (List α)} (hl : q ∉ l) (hlines : ∀ m ∈ lines, q ∉ m ∧ m ≠ key)
    (hkey : q ∉ key) :
    after (q :: (key ++ [q])) (joinLines [q] (l :: lines) ++ (key ++ q :: rest)) = some rest := by
  induction lines generalizing l with
  | nil => simpa [joinLines] using after_quoted_self hl
  | cons m lines ih =>
    obtain ⟨hm, hmkey⟩ := hlines m List.mem_cons_self
    have hskip : after (q :: (key ++ [q])) (l ++ q :: (m ++ q :: (joinLines [q] lines ++
        (key ++ q :: rest)))) = after (q :: (key ++ [q])) (m ++ q :: (joinLines [q] lines ++
          (key ++ q :: rest))) :=
      after_quoted_skip _ hl hm hkey hmkey
    have ih' := ih hm fun x hx => hlines x (List.mem_cons_of_mem _ hx)
    simp only [joinLines_cons, List.append_assoc, List.cons_append, List.nil_append] at hskip ih' ⊢
    rw [hskip, ih']

/-- After a symbol that the text in front of it is free of. -/
lemma after_symbol (hl : q ∉ l) : after [q] (l ++ q :: rest) = some rest := by
  have hpre : [q] <+: q :: rest := ⟨rest, rfl⟩
  have hdrop : (l ++ q :: rest).drop (0 + l.length + [q].length) = rest := by
    rw [Nat.zero_add, List.drop_length_add_append]
    rfl
  rw [after, find_append_of_notMem hl, find_at_start hpre, Option.map_some, Option.map_some, hdrop]

lemma find_symbol (hl : q ∉ l) : find [q] (l ++ q :: rest) = some l.length := by
  have hpre : [q] <+: q :: rest := ⟨rest, rfl⟩
  rw [find_append_of_notMem hl, find_at_start hpre, Option.map_some, Nat.zero_add]

/-- A text is cut in one way at the first occurrence of a symbol. -/
lemma cut_inj {rest' : List α} (hl : q ∉ l) (hl' : q ∉ l') (h : l ++ q :: rest = l' ++ q :: rest') :
    l = l' ∧ rest = rest' := by
  have hlen : l.length = l'.length := by
    have hfind : find [q] (l ++ q :: rest) = some l.length := find_symbol hl
    rw [h, find_symbol hl'] at hfind
    exact (Option.some.inj hfind).symm
  obtain ⟨hl, hrest⟩ := List.append_inj h hlen
  exact ⟨hl, (List.cons.inj hrest).2⟩

end Seq

end CoroutineGateway
