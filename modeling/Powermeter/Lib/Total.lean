import Mathlib.Algebra.BigOperators.Group.Finset.Piecewise
import Mathlib.Algebra.Order.BigOperators.Group.Finset
import Mathlib.Algebra.Order.BigOperators.Group.List

/-!
# Totals over a selection

`total p u l` adds up `u` over the members of the list `l` that `p` selects. Selections
by different values of a key are disjoint, so their totals add up to at most the total of
all (`sum_total_le`); a total of nonnegative amounts is 0 only if each of them is.
-/

namespace Total

variable {α β κ : Type*}

def total [AddCommMonoid β] (p : α → Bool) (u : α → β) (l : List α) : β :=
  ((l.filter p).map u).sum

section Monoid

variable [AddCommMonoid β] {p q : α → Bool} {u : α → β}

@[simp] theorem total_nil : total p u [] = 0 := rfl

@[simp] theorem total_cons (a : α) (l : List α) :
    total p u (a :: l) = (if p a then u a else 0) + total p u l := by
  unfold total
  by_cases h : p a = true <;> simp [h]

@[simp] theorem total_append (l l' : List α) :
    total p u (l ++ l') = total p u l + total p u l' := by
  simp [total]

theorem total_split (p q : α → Bool) (u : α → β) (l : List α) :
    total p u l = total (fun a => p a && q a) u l + total (fun a => p a && !q a) u l := by
  induction l with
  | nil => simp
  | cons a l ih =>
    simp only [total_cons, ih]
    cases p a <;> cases q a <;> simp [add_assoc, add_left_comm]

end Monoid

section Ordered

variable [AddCommMonoid β] [LinearOrder β] [IsOrderedCancelAddMonoid β] {p q : α → Bool}
  {u : α → β} {l : List α}

theorem total_nonneg (hu : ∀ a ∈ l, 0 ≤ u a) : 0 ≤ total p u l := by
  refine List.sum_nonneg fun x hx => ?_
  obtain ⟨a, ha, rfl⟩ := List.mem_map.mp hx
  exact hu a (List.mem_of_mem_filter ha)

theorem le_total (hu : ∀ a ∈ l, 0 ≤ u a) {a : α} (ha : a ∈ l) (hp : p a = true) :
    u a ≤ total p u l := by
  refine List.single_le_sum (fun x hx => ?_) _
    (List.mem_map.mpr ⟨a, List.mem_filter.mpr ⟨ha, hp⟩, rfl⟩)
  obtain ⟨b, hb, rfl⟩ := List.mem_map.mp hx
  exact hu b (List.mem_of_mem_filter hb)

theorem total_eq_zero_iff (hu : ∀ a ∈ l, 0 ≤ u a) :
    total p u l = 0 ↔ ∀ a ∈ l, p a = true → u a = 0 := by
  constructor
  · intro h a ha hp
    exact le_antisymm (h ▸ le_total hu ha hp) (hu a ha)
  · intro h
    refine List.sum_eq_zero fun x hx => ?_
    obtain ⟨a, ha, rfl⟩ := List.mem_map.mp hx
    obtain ⟨ha, hp⟩ := List.mem_filter.mp ha
    exact h a ha hp

/-- **Selections by a key are disjoint**: over any set of keys, the totals of the selections add up
to at most the total of all. -/
theorem sum_total_le [DecidableEq κ] (key : α → κ) (keys : Finset κ)
    (hu : ∀ a ∈ l, 0 ≤ u a) :
    ∑ k ∈ keys, total (fun a => p a && key a = k) u l ≤ total p u l := by
  induction l with
  | nil => simp
  | cons a l ih =>
    have hrest := ih fun b hb => hu b (List.mem_cons_of_mem _ hb)
    simp only [total_cons, Finset.sum_add_distrib]
    refine add_le_add ?_ hrest
    cases hp : p a with
    | false => simp
    | true =>
      simp only [Bool.true_and, decide_eq_true_eq, if_true, Finset.sum_ite_eq]
      split
      · exact le_refl _
      · exact hu a List.mem_cons_self

end Ordered

end Total
