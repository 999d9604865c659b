import Mathlib.Logic.Function.Basic

/-!
# Handles and their holders

An operating system opens resources under numbers, which it gives away again once they are closed.
A program wraps a number in a handle, and passes the handle around; whoever holds it will use the
number, and is expected to close it.  Two things must not happen: that a number is used after it was
closed, when it may belong to another handle, and that the last holder drops a handle whose number
is open.

`Owned` is what excludes both: `name x` is the number that the handle `x` has, `table d` the handle
for which the number `d` is open, and `holds h x` says that `h` holds `x`.  Its rules are those of
opening (`opened`), closing (`closed`) and handing over (`handed`).
-/

namespace CoroutineGateway

/-- Every handle that is held has a number that is open for it, every open number is that of a
handle that is held, and no handle is held twice. -/
structure Owned {X D H : Type*} (name : X → Option D) (table : D → Option X)
    (holds : H → X → Prop) : Prop where
  open_of_holds : ∀ h x, holds h x → ∃ d, name x = some d ∧ table d = some x
  holds_of_open : ∀ d x, table d = some x → name x = some d ∧ ∃ h, holds h x
  unique : ∀ h h' x, holds h x → holds h' x → h = h'

namespace Owned

variable {X D H : Type*} {name name' : X → Option D} {table table' : D → Option X}
  {holds holds' : H → X → Prop} {h h' k : H} {x y : X} {d : D}

/-- The number of a handle that is held is open for it. -/
lemma table_eq (ho : Owned name table holds) (hx : holds h x) (hd : name x = some d) :
    table d = some x := by
  obtain ⟨e, he, hopen⟩ := ho.open_of_holds h x hx
  obtain rfl : d = e := Option.some.inj (hd.symm.trans he)
  exact hopen

/-- Handles that are held have different numbers. -/
lemma eq_of_name_eq (ho : Owned name table holds) (hx : holds h x) (hy : holds h' y)
    (hd : name x = some d) (he : name y = some d) : x = y :=
  Option.some.inj ((ho.table_eq hx hd).symm.trans (ho.table_eq hy he))

/-- Different holders hold different handles. -/
lemma ne_of_ne (ho : Owned name table holds) (hx : holds h x) (hy : holds h' y) (hh : h ≠ h') :
    x ≠ y := fun heq => hh (ho.unique h h' y (heq ▸ hx) hy)

/-- A number that is not in use is opened for a new handle `x`, which `k` holds. -/
lemma opened (ho : Owned name table holds) (hx : ∀ h, ¬ holds h x) (hd : table d = none)
    (hnew : name' x = some d) (hname : ∀ y, y ≠ x → name' y = name y)
    (hopen : table' d = some x) (htable : ∀ e, e ≠ d → table' e = table e)
    (hholds : ∀ h y, holds' h y ↔ holds h y ∨ h = k ∧ y = x) : Owned name' table' holds' where
  open_of_holds h y hy := by
    rcases (hholds h y).mp hy with hy | ⟨-, hyx⟩
    · obtain ⟨e, he, hopen'⟩ := ho.open_of_holds h y hy
      have hyx : y ≠ x := fun heq => hx h (heq ▸ hy)
      have hed : e ≠ d := fun heq => by simp [heq, hd] at hopen'
      exact ⟨e, by rw [hname y hyx, he], by rw [htable e hed, hopen']⟩
    · exact ⟨d, hyx ▸ hnew, hyx ▸ hopen⟩
  holds_of_open e y he := by
    by_cases hed : e = d
    · subst hed
      obtain rfl : x = y := Option.some.inj (hopen.symm.trans he)
      exact ⟨hnew, k, (hholds k x).mpr (.inr ⟨rfl, rfl⟩)⟩
    · obtain ⟨hey, h, hy⟩ := ho.holds_of_open e y (htable e hed ▸ he)
      have hyx : y ≠ x := fun heq => hx h (heq ▸ hy)
      exact ⟨by rw [hname y hyx, hey], h, (hholds h y).mpr (.inl hy)⟩
  unique h h' y hy hy' := by
    rcases (hholds h y).mp hy with hy | ⟨heq, hyx⟩ <;>
      rcases (hholds h' y).mp hy' with hy' | ⟨heq', hyx'⟩
    · exact ho.unique h h' y hy hy'
    · exact absurd (hyx' ▸ hy) (hx h)
    · exact absurd (hyx ▸ hy') (hx h')
    · exact heq.trans heq'.symm

/-- The number of `x` is closed, and nobody holds `x` any more. -/
lemma closed (ho : Owned name table holds) (hd : table d = some x)
    (hname : ∀ y, y ≠ x → name' y = name y) (hclosed : table' d = none)
    (htable : ∀ e, e ≠ d → table' e = table e)
    (hholds : ∀ h y, holds' h y ↔ holds h y ∧ y ≠ x) : Owned name' table' holds' where
  open_of_holds h y hy := by
    obtain ⟨hy, hyx⟩ := (hholds h y).mp hy
    obtain ⟨e, he, hopen⟩ := ho.open_of_holds h y hy
    have hed : e ≠ d := fun heq => hyx (Option.some.inj ((heq ▸ hopen).symm.trans hd))
    exact ⟨e, by rw [hname y hyx, he], by rw [htable e hed, hopen]⟩
  holds_of_open e y he := by
    have hed : e ≠ d := fun heq => by simp [heq, hclosed] at he
    rw [htable e hed] at he
    obtain ⟨hey, h, hy⟩ := ho.holds_of_open e y he
    have hyx : y ≠ x := fun heq =>
      hed (Option.some.inj (hey.symm.trans (heq ▸ (ho.holds_of_open d x hd).1)))
    exact ⟨by rw [hname y hyx, hey], h, (hholds h y).mpr ⟨hy, hyx⟩⟩
  unique h h' y hy hy' :=
    ho.unique h h' y ((hholds h y).mp hy).1 ((hholds h' y).mp hy').1

/-- A handle is handed over to `k`; other handles stay with their holders. -/
lemma handed (ho : Owned name table holds) (hx : holds h x)
    (hself : ∀ h', holds' h' x ↔ h' = k) (hother : ∀ h' y, y ≠ x → (holds' h' y ↔ holds h' y)) :
    Owned name table holds' where
  open_of_holds h' y hy := by
    by_cases hyx : y = x
    · exact hyx ▸ ho.open_of_holds h x hx
    · exact ho.open_of_holds h' y ((hother h' y hyx).mp hy)
  holds_of_open d y hd := by
    obtain ⟨hname, h', hy⟩ := ho.holds_of_open d y hd
    by_cases hyx : y = x
    · exact ⟨hname, k, hyx ▸ (hself k).mpr rfl⟩
    · exact ⟨hname, h', (hother h' y hyx).mpr hy⟩
  unique h₁ h₂ y hy hy' := by
    by_cases hyx : y = x
    · subst hyx
      rw [(hself h₁).mp hy, (hself h₂).mp hy']
    · exact ho.unique h₁ h₂ y ((hother h₁ y hyx).mp hy) ((hother h₂ y hyx).mp hy')

/-- What is held, and the numbers of it, stay the same. -/
lemma congr (ho : Owned name table holds) (hname : ∀ h y, holds h y → name' y = name y)
    (hholds : ∀ h y, holds' h y ↔ holds h y) : Owned name' table holds' where
  open_of_holds h y hy := by
    have hy := (hholds h y).mp hy
    rw [hname h y hy]
    exact ho.open_of_holds h y hy
  holds_of_open d y hd := by
    obtain ⟨hdy, h, hy⟩ := ho.holds_of_open d y hd
    exact ⟨by rw [hname h y hy, hdy], h, (hholds h y).mpr hy⟩
  unique h h' y hy hy' := ho.unique h h' y ((hholds h y).mp hy) ((hholds h' y).mp hy')

end Owned

end CoroutineGateway
