import Mathlib.Data.List.Induction

/-!
# Runs of a labelled machine

`Lts σ α` is an initial state and a partial step function; `run as` plays the
actions `as` from the initial state. `hist_inv` is the induction over a run
whose invariant may speak of the actions played so far. `Throughout P as` says
`P` holds in every state the run passes, `EachStep C as` that every step of the
run meets `C` (which sees the actions before the step, the state before it and
the action); `EachAction C as` is the same of the schedule alone.
-/

/-! ## Properties of a schedule -/

/-- Every action of `as` meets `C`, which sees the actions before it. -/
def EachAction {α : Type*} (C : List α → α → Prop) (as : List α) : Prop :=
  ∀ pre a post, as = pre ++ a :: post → C pre a

namespace EachAction

variable {α : Type*} {C : List α → α → Prop}

theorem nil : EachAction C [] := by
  intro pre a post he
  simp at he

theorem snoc {as : List α} {a : α} : EachAction C (as ++ [a]) ↔ EachAction C as ∧ C as a := by
  refine ⟨fun h => ?_, ?_⟩
  · exact ⟨fun pre b post he => h pre b (post ++ [a]) (by simp [he]), h as a [] rfl⟩
  · rintro ⟨h1, h2⟩ pre b post he
    rcases List.eq_nil_or_concat post with rfl | ⟨post', c, rfl⟩
    · obtain ⟨rfl, hab⟩ := List.append_inj' he rfl
      cases hab; exact h2
    · rw [List.concat_eq_append, ← List.cons_append, ← List.append_assoc] at he
      exact h1 pre b post' (List.append_inj' he rfl).1

theorem of_append {as bs cs : List α} (h : EachAction C as) (he : as = bs ++ cs) :
    EachAction C bs :=
  fun pre a post hb => h pre a (post ++ cs) (by simp [he, hb])

theorem cons {a : α} {as : List α} :
    EachAction C (a :: as) ↔ C [] a ∧ EachAction (fun pre => C (a :: pre)) as := by
  refine ⟨fun h => ?_, ?_⟩
  · exact ⟨h [] a as rfl, fun pre b post he => h (a :: pre) b post (by simp [he])⟩
  · rintro ⟨h1, h2⟩ pre b post he
    rcases pre with _ | ⟨c, pre⟩
    · cases he; exact h1
    · cases he; exact h2 pre b post rfl

theorem congr {D : List α → α → Prop} {as : List α} (h : ∀ pre a, C pre a ↔ D pre a) :
    EachAction C as ↔ EachAction D as := by
  rw [show C = D from funext fun pre => funext fun a => propext (h pre a)]

end EachAction

/-! ## Machines -/

structure Lts (σ α : Type*) where
  init : σ
  step : σ → α → Option σ

namespace Lts

variable {σ α : Type*} (M : Lts σ α)

def runFrom : σ → List α → Option σ
  | s, [] => some s
  | s, a :: as => (M.step s a).bind fun s' => runFrom s' as

def run (as : List α) : Option σ := M.runFrom M.init as

variable {M}

@[simp] theorem run_nil : M.run [] = some M.init := rfl

theorem runFrom_append (s : σ) (as bs : List α) :
    M.runFrom s (as ++ bs) = (M.runFrom s as).bind fun s' => M.runFrom s' bs := by
  induction as generalizing s with
  | nil => rfl
  | cons a as ih =>
    simp only [List.cons_append, runFrom]
    cases M.step s a with
    | none => rfl
    | some s' => exact ih s'

theorem run_append (as bs : List α) :
    M.run (as ++ bs) = (M.run as).bind fun s => M.runFrom s bs :=
  runFrom_append _ as bs

theorem run_snoc {as : List α} {a : α} {s' : σ} :
    M.run (as ++ [a]) = some s' ↔ ∃ s, M.run as = some s ∧ M.step s a = some s' := by
  rw [run_append]
  cases M.run as with
  | none => simp
  | some s => simp [runFrom]

theorem run_some_of_append {as bs : List α} {s' : σ} (h : M.run (as ++ bs) = some s') :
    ∃ s, M.run as = some s ∧ M.runFrom s bs = some s' := by
  rw [run_append] at h
  exact Option.bind_eq_some_iff.mp h

/-- **Induction over runs**, the invariant may speak of the actions played. -/
theorem hist_inv {P : List α → σ → Prop} (h0 : P [] M.init)
    (hstep : ∀ as a s s', M.run as = some s → P as s → M.step s a = some s' → P (as ++ [a]) s')
    {as : List α} {s : σ} (h : M.run as = some s) : P as s := by
  induction as using List.reverseRecOn generalizing s with
  | nil => cases h; exact h0
  | append_singleton as a ih =>
    obtain ⟨s0, hrun, hs⟩ := run_snoc.mp h
    exact hstep as a s0 s hrun (ih hrun) hs

/-- **Invariants**: what holds initially and is kept by every step holds in every
reachable state. -/
theorem inv {P : σ → Prop} (h0 : P M.init)
    (hstep : ∀ s a s', P s → M.step s a = some s' → P s')
    {as : List α} {s : σ} (h : M.run as = some s) : P s :=
  hist_inv (P := fun _ s => P s) h0 (fun _ a s s' _ hp hs => hstep s a s' hp hs) h

/-- What every step relates, the ends of a run are related by. -/
theorem rel_of_runFrom {R : σ → σ → Prop} (hrefl : ∀ s, R s s)
    (htrans : ∀ {s t u : σ}, R s t → R t u → R s u)
    (hstep : ∀ {s t : σ} {a : α}, M.step s a = some t → R s t) {as : List α} {s t : σ}
    (h : M.runFrom s as = some t) : R s t := by
  induction as generalizing s with
  | nil => cases h; exact hrefl _
  | cons a as ih =>
    obtain ⟨u, hs, hu⟩ := Option.bind_eq_some_iff.mp h
    exact htrans (hstep hs) (ih hu)

/-! ## Properties of all states and all steps of a run -/

variable (M)

/-- `P` holds in every state the run `as` passes. -/
def Throughout (P : σ → Prop) (as : List α) : Prop :=
  ∀ pre post s, as = pre ++ post → M.run pre = some s → P s

/-- Every step of the run `as` meets `C`. -/
def EachStep (C : List α → σ → α → Prop) (as : List α) : Prop :=
  EachAction (fun pre a => ∀ s, M.run pre = some s → C pre s a) as

variable {M}

theorem throughout_snoc {P : σ → Prop} {as : List α} {a : α} :
    M.Throughout P (as ++ [a]) ↔
      M.Throughout P as ∧ ∀ s, M.run (as ++ [a]) = some s → P s := by
  refine ⟨fun h => ?_, ?_⟩
  · exact ⟨fun pre post s he hs => h pre (post ++ [a]) s (by simp [he]) hs,
      fun s hs => h (as ++ [a]) [] s (by simp) hs⟩
  · rintro ⟨h1, h2⟩ pre post s he hs
    rcases List.eq_nil_or_concat post with rfl | ⟨post', b, rfl⟩
    · rw [List.append_nil] at he
      subst he; exact h2 s hs
    · rw [List.concat_eq_append, ← List.append_assoc] at he
      exact h1 pre post' s (List.append_inj' he rfl).1 hs

theorem Throughout.last {P : σ → Prop} {as : List α} {s : σ} (h : M.Throughout P as)
    (hs : M.run as = some s) : P s :=
  h as [] s (by simp) hs

theorem eachStep_nil {C : List α → σ → α → Prop} : M.EachStep C [] := EachAction.nil

theorem eachStep_snoc {C : List α → σ → α → Prop} {as : List α} {a : α} :
    M.EachStep C (as ++ [a]) ↔ M.EachStep C as ∧ ∀ s, M.run as = some s → C as s a :=
  EachAction.snoc

theorem EachStep.of_append {C : List α → σ → α → Prop} {as bs cs : List α} (h : M.EachStep C as)
    (he : as = bs ++ cs) : M.EachStep C bs :=
  EachAction.of_append h he

theorem eachStep_congr {C D : List α → σ → α → Prop} {as : List α}
    (h : ∀ pre s a, M.run pre = some s → (C pre s a ↔ D pre s a)) :
    M.EachStep C as ↔ M.EachStep D as :=
  EachAction.congr fun pre a => forall_congr' fun s => imp_congr_right fun hs => h pre s a hs

theorem eachStep_and {C D : List α → σ → α → Prop} {as : List α} :
    M.EachStep (fun pre s a => C pre s a ∧ D pre s a) as ↔ M.EachStep C as ∧ M.EachStep D as := by
  refine ⟨fun h => ?_, ?_⟩
  · exact ⟨fun pre a post he s hs => (h pre a post he s hs).1,
      fun pre a post he s hs => (h pre a post he s hs).2⟩
  · rintro ⟨h1, h2⟩ pre a post he s hs
    exact ⟨h1 pre a post he s hs, h2 pre a post he s hs⟩

/-- **What exactly the runs with `P` are**: if `P` holds initially, and a step leads to `P` just
when `P` held before and the step meets `C`, then `P` holds after the runs whose steps all
meet `C`. -/
theorem iff_eachStep {C : List α → σ → α → Prop} {P : σ → Prop} (h0 : P M.init)
    (hstep : ∀ as a s s', M.run as = some s → M.step s a = some s' → (P s' ↔ P s ∧ C as s a))
    {as : List α} {s : σ} (h : M.run as = some s) : P s ↔ M.EachStep C as := by
  refine hist_inv (P := fun as s => P s ↔ M.EachStep C as) ?_ ?_ h
  · exact iff_of_true h0 eachStep_nil
  · intro as a s s' hrun ih hs
    rw [hstep as a s s' hrun hs, ih, eachStep_snoc]
    simp [hrun]

theorem throughout_iff_eachStep {C : List α → σ → α → Prop} {P : σ → Prop}
    (hiff : ∀ {as s}, M.run as = some s → (P s ↔ M.EachStep C as)) {as : List α} {s : σ}
    (h : M.run as = some s) : M.Throughout P as ↔ M.EachStep C as := by
  refine ⟨fun hall => ?_, ?_⟩
  · exact (hiff h).mp (hall.last h)
  · intro hC pre post s' he hs'
    exact (hiff hs').mpr (hC.of_append he)

/-- **Conditional invariants**: what holds initially and is kept by every step that meets
`C` holds at the end of every run whose steps all meet `C`. -/
theorem inv_of_eachStep {C : List α → σ → α → Prop} {P : List α → σ → Prop} (h0 : P [] M.init)
    (hstep : ∀ as a s s', M.run as = some s → P as s → C as s a → M.step s a = some s' →
      P (as ++ [a]) s')
    {as : List α} {s : σ} (h : M.run as = some s) (hC : M.EachStep C as) : P as s := by
  induction as using List.reverseRecOn generalizing s with
  | nil => cases h; exact h0
  | append_singleton as a ih =>
    obtain ⟨s0, hrun, hs⟩ := run_snoc.mp h
    obtain ⟨hC1, hC2⟩ := eachStep_snoc.mp hC
    exact hstep as a s0 s hrun (ih hrun hC1) (hC2 s0 hrun) hs

end Lts
