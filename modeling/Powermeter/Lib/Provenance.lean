import Mathlib.Order.Defs.PartialOrder
import Powermeter.Lib.Lts

/-!
# Where values come from

A machine that only copies values about: `S P s` says that every value stored in the state
`s` meets `P`, `source s` is the value at the one place where new values appear. If a step
keeps `S P` for every `P` that the initial and the present value of the source meet, then
every value stored was at the source at some moment of the run (`stores_occurred`).
-/

namespace Lts

variable {σ α β : Type*} {M : Lts σ α} {source : σ → β} {as bs : List α} {s s' : σ} {x : β}

/-- At some moment of the run `as` the source had the value `x`. -/
def Occurred (M : Lts σ α) (source : σ → β) (as : List α) (x : β) : Prop :=
  ∃ pre post s, as = pre ++ post ∧ M.run pre = some s ∧ source s = x

theorem Occurred.append (h : M.Occurred source as x) (bs : List α) :
    M.Occurred source (as ++ bs) x := by
  obtain ⟨pre, post, s, rfl, hs, hx⟩ := h
  exact ⟨pre, post ++ bs, s, List.append_assoc .., hs, hx⟩

theorem occurred_init : M.Occurred source as (source M.init) :=
  ⟨[], as, M.init, rfl, rfl, rfl⟩

theorem occurred_last (h : M.run as = some s) : M.Occurred source as (source s) :=
  ⟨as, [], s, (List.append_nil as).symm, h, rfl⟩

/-- **Nothing is made up**: every value stored was at the source. -/
theorem stores_occurred {S : (β → Prop) → σ → Prop}
    (hmono : ∀ {P Q : β → Prop} {s}, (∀ x, P x → Q x) → S P s → S Q s)
    (h0 : ∀ P : β → Prop, P (source M.init) → S P M.init)
    (hstep : ∀ (P : β → Prop) as a s s', M.run as = some s → M.step s a = some s' →
      P (source M.init) → P (source s) → S P s → S P s')
    (h : M.run as = some s) : S (M.Occurred source as) s := by
  refine hist_inv (P := fun as s => S (M.Occurred source as) s) (h0 _ occurred_init) ?_ h
  intro as a s s' hrun ih hs
  exact hstep _ as a s s' hrun hs occurred_init ((occurred_last hrun).append [a])
    (hmono (fun x hx => hx.append [a]) ih)

/-- Where the source never falls, nothing exceeds what it has now. -/
theorem Occurred.le_source [Preorder β] {C : α → Prop} (hx : M.Occurred source as x)
    (hmono : ∀ bs s s' a, M.run bs = some s → C a → M.step s a = some s' → source s ≤ source s')
    (h : M.run as = some s) (hC : ∀ a ∈ as, C a) : x ≤ source s := by
  obtain ⟨pre, post, s₁, rfl, hs₁, rfl⟩ := hx
  induction post using List.reverseRecOn generalizing s with
  | nil =>
    rw [List.append_nil, hs₁, Option.some.injEq] at h
    rw [h]
  | append_singleton post a ih =>
    rw [← List.append_assoc] at h hC
    obtain ⟨s₂, hs₂, hs⟩ := run_snoc.mp h
    have hbefore := ih hs₂ fun b hb => hC b (List.mem_append_left _ hb)
    exact le_trans hbefore (hmono _ _ _ _ hs₂ (hC a (by simp)) hs)

end Lts
