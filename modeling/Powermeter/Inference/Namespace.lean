import Mathlib.Tactic.Ring
import Powermeter.Inference.Attribution

/-!
# Whose CPU time a share counts

`get_fn_container_cpu_usages` selects the functions by their namespace, but
`get_container_cpu_usage_sum`, the numerator of a share, selects by container name and
node only. A share therefore counts the function's own containers exactly when no
container of another namespace that uses the CPU has the function's name on that node;
and renaming containers of other namespaces leaves the shares alone exactly when none of
them uses the CPU on a node that runs functions.
-/

namespace Powermeter.Inference

def inFnNamespace (s : Sample) : Bool := s.namespaceLabel == fnNamespace

/-- The usage of the containers of a name on a node, in the namespace of the functions. -/
def fnSum (snap : Snapshot) (f n : String) : ℚ :=
  Total.total (fun s => named f n s && inFnNamespace s) Sample.usage snap.samples

/-- Every recorded share is the function's own. -/
def SharesExact (snap : Snapshot) : Prop :=
  ∀ rows m, Answers snap rows → collectData snap rows = .ok m →
    ∀ f n, ⟨f, n⟩ ∈ rows → cell m.containerMap f n = some (fnSum snap f n / nodeSum snap n)

/-- A container outside the functions' namespace gets another name. -/
def Renames (snap snap' : Snapshot) : Prop :=
  ∃ pre s post name, snap.samples = pre ++ s :: post ∧ inFnNamespace s = false ∧
    snap' = { snap with samples := pre ++ { s with container := name } :: post }

/-- Renaming a container outside the functions' namespace changes no recorded share. -/
def RenameInvariant (snap : Snapshot) : Prop :=
  ∀ snap', Renames snap snap' → ∀ rows m rows' m',
    Answers snap rows → collectData snap rows = .ok m →
    Answers snap' rows' → collectData snap' rows' = .ok m' →
    ∀ f n, cell m'.containerMap f n = cell m.containerMap f n

/-- No container outside the functions' namespace that uses the CPU has the name and the node of a
function row. -/
def NoNamesake (snap : Snapshot) : Prop :=
  ∀ s ∈ snap.samples, isContainer s = true → inFnNamespace s = false →
    ⟨s.container, s.node⟩ ∈ getFnContainerCpuUsages snap → s.usage = 0

/-- No container outside the functions' namespace uses the CPU on a node of a function row. -/
def IdleOutside (snap : Snapshot) : Prop :=
  ∀ s ∈ snap.samples, isContainer s = true → inFnNamespace s = false →
    (∃ f, ⟨f, s.node⟩ ∈ getFnContainerCpuUsages snap) → s.usage = 0

section

variable {snap snap' : Snapshot} {f n : String}

/-! ## The numerator -/

theorem cell_of_row {rows : List FnContainer} {m : Maps} (h : Answers snap rows)
    (hm : collectData snap rows = .ok m) (f n : String) :
    cell m.containerMap f n = if ⟨f, n⟩ ∈ getFnContainerCpuUsages snap then
      some (containerSum snap f n / nodeSum snap n) else none := by
  obtain ⟨m', hm', hI⟩ := collectData_ok h
  rw [hm] at hm'
  cases hm'
  refine Option.ext fun x => ?_
  rw [hI.share f n x, h]
  by_cases hrow : (⟨f, n⟩ : FnContainer) ∈ getFnContainerCpuUsages snap
  · simp [hrow, eq_comm]
  · simp [hrow]

theorem containerSum_eq (snap : Snapshot) (f n : String) :
    containerSum snap f n = fnSum snap f n +
      Total.total (fun s => named f n s && !inFnNamespace s) Sample.usage snap.samples :=
  Total.total_split _ inFnNamespace _ _

theorem containerSum_eq_fnSum_iff :
    containerSum snap f n = fnSum snap f n ↔ ∀ s ∈ snap.samples, isContainer s = true →
      inFnNamespace s = false → s.container = f → s.node = n → s.usage = 0 := by
  rw [containerSum_eq, add_eq_left, Total.total_eq_zero_iff usage_nonneg]
  simp only [named, onNode, Bool.and_eq_true, beq_iff_eq, decide_eq_true_eq, Bool.not_eq_true']
  constructor
  · intro h s hs hc hns hf hn
    exact h s hs ⟨⟨⟨hc, hn⟩, hf⟩, hns⟩
  · rintro h s hs ⟨⟨⟨hc, hn⟩, hf⟩, hns⟩
    exact h s hs hc hns hf hn

/-- **The shares are the functions' own exactly without namesakes.** -/
theorem sharesExact_iff : SharesExact snap ↔ NoNamesake snap := by
  constructor
  · intro h s hs hc hns hrow
    obtain ⟨m, hm, -⟩ := collectData_ok (answers_self snap)
    have hshare := h _ m (answers_self snap) hm _ _ hrow
    rw [cell_of_row (answers_self snap) hm, if_pos hrow, Option.some.injEq,
      div_left_inj' (nodeSum_pos hrow).ne'] at hshare
    exact containerSum_eq_fnSum_iff.mp hshare s hs hc hns rfl rfl
  · intro h rows m hrows hm f n hrow
    have hrow' := (hrows _).mp hrow
    have hsum : containerSum snap f n = fnSum snap f n := by
      refine containerSum_eq_fnSum_iff.mpr fun s hs hc hns hf hn => ?_
      subst hf; subst hn
      exact h s hs hc hns hrow'
    rw [cell_of_row hrows hm, if_pos hrow', hsum]

/-! ## Renaming -/

theorem rename_rows (h : Renames snap snap') :
    getFnContainerCpuUsages snap' = getFnContainerCpuUsages snap := by
  obtain ⟨pre, s, post, name, hs, hns, rfl⟩ := h
  have hdrop : (s.namespaceLabel == fnNamespace) = false := hns
  unfold getFnContainerCpuUsages
  simp only [hs, List.filter_append, List.filter_cons, isContainer, hdrop, Bool.and_false,
    Bool.false_and, Bool.false_eq_true, if_false]

theorem rename_nodeSum (h : Renames snap snap') (n : String) :
    nodeSum snap' n = nodeSum snap n := by
  obtain ⟨pre, s, post, name, hs, -, rfl⟩ := h
  unfold nodeSum
  simp only [hs, Total.total_append, Total.total_cons]
  rfl

theorem rename_containerSum {pre post : List Sample} {s : Sample} {name : String}
    (hs : snap.samples = pre ++ s :: post)
    (hsnap' : snap' = { snap with samples := pre ++ { s with container := name } :: post }) :
    containerSum snap' f n + (if onNode n s && decide (s.container = f) then s.usage else 0) =
      containerSum snap f n + if onNode n s && decide (name = f) then s.usage else 0 := by
  subst hsnap'
  have hold : named f n s = (onNode n s && decide (s.container = f)) := rfl
  have hnew : named f n { s with container := name } = (onNode n s && decide (name = f)) := rfl
  unfold containerSum
  simp only [hs, Total.total_append, Total.total_cons, hold, hnew]
  ring

/-- A name that is `f` exactly if the given one is not. -/
theorem exists_swapped_name (f given : String) : ∃ name : String, name = f ↔ given ≠ f := by
  by_cases hf : given = f
  · refine ⟨f ++ "x", iff_of_false (fun he => ?_) (not_not_intro hf)⟩
    have := congrArg String.length he
    simp at this
  · exact ⟨f, iff_of_true rfl hf⟩

/-- Where nothing outside uses the CPU, a renaming outside moves no usage. -/
theorem rename_containerSum_of_idle (h : IdleOutside snap) (hren : Renames snap snap')
    (hrow : ⟨f, n⟩ ∈ getFnContainerCpuUsages snap) :
    containerSum snap' f n = containerSum snap f n := by
  obtain ⟨pre, s, post, name, hsplit, hns, hsnap'⟩ := hren
  have hstep := rename_containerSum (f := f) (n := n) hsplit hsnap'
  have hzero : onNode n s = true → s.usage = 0 := by
    intro hon
    simp only [onNode, Bool.and_eq_true, beq_iff_eq] at hon
    exact h s (by simp [hsplit]) hon.1 hns ⟨f, hon.2 ▸ hrow⟩
  cases hon : onNode n s with
  | false => simpa [hon] using hstep
  | true => simpa [hzero hon] using hstep

/-- **The names outside matter exactly where CPU time is used outside.** -/
theorem renameInvariant_iff : RenameInvariant snap ↔ IdleOutside snap := by
  constructor
  · rintro h s hs hc hns ⟨f, hrow⟩
    obtain ⟨pre, post, hsplit⟩ := List.append_of_mem hs
    -- give the name away if it is `f`, take it if it is not
    obtain ⟨name, hname⟩ := exists_swapped_name f s.container
    obtain ⟨snap', hsnap'⟩ : ∃ snap' : Snapshot,
        snap' = { snap with samples := pre ++ { s with container := name } :: post } := ⟨_, rfl⟩
    have hren : Renames snap snap' := ⟨pre, s, post, name, hsplit, hns, hsnap'⟩
    have hrow' := hrow
    rw [← rename_rows hren] at hrow'
    obtain ⟨m, hm, -⟩ := collectData_ok (answers_self snap)
    obtain ⟨m', hm', -⟩ := collectData_ok (answers_self snap')
    have hcell := h _ hren _ m _ m' (answers_self snap) hm (answers_self snap') hm' f s.node
    rw [cell_of_row (answers_self snap) hm, cell_of_row (answers_self snap') hm', if_pos hrow,
      if_pos hrow', rename_nodeSum hren, Option.some.injEq,
      div_left_inj' (nodeSum_pos hrow).ne'] at hcell
    have hsum := rename_containerSum (f := f) (n := s.node) hsplit hsnap'
    have hon : onNode s.node s = true := by simp [onNode, hc]
    rw [hcell] at hsum
    by_cases hf : s.container = f
    · simpa [hon, hname, hf] using hsum
    · simpa [hon, hname, hf, eq_comm] using hsum
  · intro h snap' hren rows m rows' m' hrows hm hrows' hm' f n
    rw [cell_of_row hrows hm, cell_of_row hrows' hm', rename_rows hren, rename_nodeSum hren]
    split
    · next hrow => rw [rename_containerSum_of_idle h hren hrow]
    · rfl

/-- **Energy is attributed to the functions alone exactly when nothing else can be mistaken for
them.** The recorded shares are the functions' own, and stay so under any renaming outside the
functions' namespace, if and only if no container outside it uses the CPU on a node that runs a
function; the first alone holds if and only if no such container has a function's name. -/
theorem attribution_iff :
    (SharesExact snap ∧ RenameInvariant snap ↔ IdleOutside snap) ∧
      (SharesExact snap ↔ NoNamesake snap) := by
  refine ⟨?_, sharesExact_iff⟩
  rw [sharesExact_iff, renameInvariant_iff]
  exact and_iff_right_of_imp fun h s hs hc hns hrow => h s hs hc hns ⟨_, hrow⟩

end

/-- The function `nodeinfo`, and a container of that name in another namespace that used three
times as much. -/
def namesake : Snapshot where
  samples :=
    [⟨"fn", "openfaas-fn", "nodeinfo", "", "odroidxu4-1", 3, by decide⟩,
      ⟨"app", "default", "nodeinfo", "", "odroidxu4-1", 9, by decide⟩]
  energy _ := 16
  energy_nonneg _ := by decide

/-- The function is charged with the CPU time of its namesake. -/
theorem attribution_namesake : ¬ SharesExact namesake ∧ ¬ RenameInvariant namesake := by
  have hrow : ⟨"nodeinfo", "odroidxu4-1"⟩ ∈ getFnContainerCpuUsages namesake := by
    decide
  have hother : ⟨"app", "default", "nodeinfo", "", "odroidxu4-1", 9, by decide⟩ ∈
      namesake.samples := List.mem_cons_of_mem _ List.mem_cons_self
  constructor
  · intro h
    have hzero := sharesExact_iff.mp h _ hother (by decide) (by decide) hrow
    exact absurd hzero (by decide)
  · intro h
    have hzero := renameInvariant_iff.mp h _ hother (by decide) (by decide) ⟨_, hrow⟩
    exact absurd hzero (by decide)

end Powermeter.Inference
