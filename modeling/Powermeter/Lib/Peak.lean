import Mathlib.Algebra.Order.BigOperators.Group.List
import Mathlib.Data.List.Induction

/-!
# Running maxima

`peak l` is the largest of 0 and the elements of `l`, what a counter that only goes up
shows after it was given the values of `l` in turn. A list of nonnegative values sums to
its peak only if at most one of them is not zero.
-/

section Peak

variable {α : Type*} [LinearOrder α] [Zero α]

def peak (l : List α) : α := l.foldl max 0

@[simp] theorem peak_nil : peak ([] : List α) = 0 := rfl

theorem peak_snoc (l : List α) (x : α) : peak (l ++ [x]) = max (peak l) x :=
  List.foldl_append

/-- The peak is the least bound of 0 and the values. -/
theorem peak_le_iff {l : List α} {b : α} : peak l ≤ b ↔ 0 ≤ b ∧ ∀ x ∈ l, x ≤ b := by
  induction l using List.reverseRecOn with
  | nil => simp
  | append_singleton l x ih =>
    rw [peak_snoc, max_le_iff, ih, List.forall_mem_append, List.forall_mem_singleton, and_assoc]

theorem zero_le_peak (l : List α) : 0 ≤ peak l := (peak_le_iff.mp le_rfl).1

theorem le_peak {l : List α} {x : α} (h : x ∈ l) : x ≤ peak l := (peak_le_iff.mp le_rfl).2 x h

theorem peak_append (l m : List α) : peak (l ++ m) = max (peak l) (peak m) := by
  refine eq_of_forall_ge_iff fun b => ?_
  rw [peak_le_iff, max_le_iff, peak_le_iff, peak_le_iff, List.forall_mem_append]
  tauto

theorem peak_cons {x : α} (hx : 0 ≤ x) (l : List α) : peak (x :: l) = max x (peak l) := by
  rw [← List.singleton_append, peak_append]
  exact congrArg (max · (peak l)) (max_eq_right hx)

theorem peak_flatten (ls : List (List α)) : peak ls.flatten = peak (ls.map peak) := by
  induction ls with
  | nil => rfl
  | cons l ls ih =>
    rw [List.flatten_cons, peak_append, ih, List.map_cons, peak_cons (zero_le_peak l)]

theorem peak_of_sorted {l : List α} (h0 : ∀ x ∈ l, 0 ≤ x) (h : l.Pairwise (· ≤ ·)) :
    peak l = l.getLast?.getD 0 := by
  rcases List.eq_nil_or_concat l with rfl | ⟨l, x, rfl⟩
  · rfl
  · rw [List.concat_eq_append] at h h0 ⊢
    rw [List.getLast?_concat, Option.getD_some, peak_snoc, max_eq_right]
    refine peak_le_iff.mpr ⟨h0 x (by simp), fun y hy => ?_⟩
    exact (List.pairwise_append.mp h).2.2 y hy x (by simp)

theorem peak_map_of_monotone {ι : Type*} [Zero ι] [LinearOrder ι] {f : ι → α} (hf : Monotone f)
    (h0 : f 0 = 0) (l : List ι) : peak (l.map f) = f (peak l) := by
  induction l using List.reverseRecOn with
  | nil => exact h0.symm
  | append_singleton l k ih =>
    rw [List.map_append, List.map_singleton, peak_snoc, peak_snoc, ih, hf.map_max]

end Peak

section Sum

variable {α : Type*} [AddCommGroup α] [LinearOrder α] [IsOrderedAddMonoid α]

theorem peak_le_sum {l : List α} (h : ∀ x ∈ l, 0 ≤ x) : peak l ≤ l.sum :=
  peak_le_iff.mpr ⟨List.sum_nonneg h, fun _ hx => List.single_le_sum h _ hx⟩

/-- **Nonnegative values sum to their peak exactly when at most one is not zero.** -/
theorem sum_eq_peak_iff {l : List α} (h : ∀ x ∈ l, 0 ≤ x) :
    l.sum = peak l ↔ l.Pairwise fun x y => x = 0 ∨ y = 0 := by
  induction l with
  | nil => simp
  | cons x l ih =>
    obtain ⟨hx, hl⟩ := List.forall_mem_cons.mp h
    have hle := peak_le_sum hl
    rw [List.sum_cons, peak_cons hx, List.pairwise_cons, ← ih hl]
    rcases hx.eq_or_lt with rfl | hpos
    · rw [max_eq_right (zero_le_peak l), zero_add]
      simp
    · -- the first value alone reaches the sum, so the others are zero
      have hzero : x + l.sum = max x (peak l) ↔ ∀ y ∈ l, y = 0 := by
        refine ⟨fun he y hy => ?_, ?_⟩
        · have hsum : l.sum ≤ 0 := by
            rcases max_choice x (peak l) with hm | hm <;> rw [hm] at he
            · exact (left_eq_add.mp he.symm).le
            · have := lt_add_of_pos_left l.sum hpos
              rw [he] at this
              exact absurd hle this.not_ge
          exact le_antisymm ((le_peak hy).trans (hle.trans hsum)) (hl y hy)
        · intro h0
          have hs : l.sum = 0 := List.sum_eq_zero h0
          have hp : peak l ≤ 0 := hs ▸ hle
          rw [hs, add_zero, max_eq_left (hp.trans hpos.le)]
      rw [hzero]
      refine ⟨fun h0 => ?_, ?_⟩
      · have hs : l.sum = 0 := List.sum_eq_zero h0
        exact ⟨fun y hy => .inr (h0 y hy), le_antisymm (hs ▸ zero_le_peak l) hle⟩
      · rintro ⟨h0, -⟩ y hy
        exact (h0 y hy).resolve_left hpos.ne'

end Sum
