import Mathlib.Algebra.BigOperators.Field
import Mathlib.Algebra.Order.Field.Basic
import Mathlib.Data.Finmap
import Powermeter.Inference.Snapshot

/-!
# The attribution of energy to functions

One iteration of `collect_data`: a fold over the rows of `get_fn_container_cpu_usages`
into `container_map` and `energy_map`. `CollectInv` says what the two maps hold after the
rows seen so far, as a function of which rows they were; so their order and their number
do not matter. The shares of a node add up to at most 1, because containers of different
names are different containers.
-/

namespace Powermeter.Inference

abbrev Dict (β : Type) := Finmap fun _ : String => β

structure Maps where
  containerMap : Dict (Dict ℚ)
  energyMap : Dict ℚ

/-- `if k not in d: d.update({k: v})`, and `d.setdefault(k, v)`. -/
def insertNew {β : Type} (d : Dict β) (k : String) (v : β) : Dict β :=
  if k ∈ d then d else d.insert k v

def collectRow (snap : Snapshot) (m : Maps) (fnContainer : FnContainer) : Except PyErr Maps := do
  let containerName := fnContainer.container
  let node := fnContainer.node
  let sumNodeCpuUsage ← getNodeCpuUsageSum snap node
  let energyMap := insertNew m.energyMap node (getNodeEnergyConsumption snap node)
  let containerMap := insertNew m.containerMap containerName ∅
  let cpuUsagesPerNode := (containerMap.lookup containerName).getD ∅
  if node ∈ cpuUsagesPerNode then
    return ⟨containerMap, energyMap⟩
  else
    let sumCpuUsageContainer ← getContainerCpuUsageSum snap containerName node
    let share ← pyDiv sumCpuUsageContainer sumNodeCpuUsage
    return ⟨containerMap.insert containerName (cpuUsagesPerNode.insert node share), energyMap⟩

/-- One iteration of `collect_data`, for the rows returned. -/
def collectData (snap : Snapshot) (rows : List FnContainer) : Except PyErr Maps :=
  rows.foldlM (collectRow snap) ⟨∅, ∅⟩

/-- `container_map[f][n]`. -/
def cell (containerMap : Dict (Dict ℚ)) (f n : String) : Option ℚ :=
  (containerMap.lookup f).bind fun cpuPerNode => cpuPerNode.lookup n

/-- The energy `collect_data` prints for a function and a node. -/
def Maps.energyOf (m : Maps) (f n : String) : Option ℚ :=
  (cell m.containerMap f n).bind fun share => (m.energyMap.lookup n).map fun e => share * e

/-! ## The two maps -/

section Dicts

variable {β : Type}

theorem lookup_insertNew {d : Dict β} {k k' : String} {v x : β} :
    (insertNew d k v).lookup k' = some x ↔
      d.lookup k' = some x ∨ k' = k ∧ d.lookup k = none ∧ x = v := by
  unfold insertNew
  split
  · next hk =>
    obtain ⟨y, hy⟩ := Finmap.mem_iff.mp hk
    simp [hy]
  · next hk =>
    have hnone := Finmap.lookup_eq_none.mpr hk
    by_cases he : k' = k
    · subst he
      rw [Finmap.lookup_insert]
      simp [hnone, eq_comm]
    · rw [Finmap.lookup_insert_of_ne _ he]
      simp [he]

theorem mem_insertNew {d : Dict β} {k k' : String} {v : β} :
    k' ∈ insertNew d k v ↔ k' ∈ d ∨ k' = k := by
  unfold insertNew
  split
  · next hk => exact ⟨.inl, fun h => h.elim id fun he => he ▸ hk⟩
  · next hk => rw [Finmap.mem_insert, or_comm]

theorem cell_insertNew (d : Dict (Dict ℚ)) (f f' n : String) :
    cell (insertNew d f ∅) f' n = cell d f' n := by
  unfold cell insertNew
  split
  · rfl
  · next hf =>
    by_cases he : f' = f
    · subst he
      rw [Finmap.lookup_insert, Finmap.lookup_eq_none.mpr hf]
      rfl
    · rw [Finmap.lookup_insert_of_ne _ he]

theorem lookup_getD (d : Dict (Dict ℚ)) (f n : String) :
    ((d.lookup f).getD ∅).lookup n = cell d f n := by
  unfold cell
  cases d.lookup f <;> rfl

theorem cell_insert (d : Dict (Dict ℚ)) (f n f' n' : String) (x : ℚ) :
    cell (d.insert f (((d.lookup f).getD ∅).insert n x)) f' n' =
      if f' = f ∧ n' = n then some x else cell d f' n' := by
  by_cases hf : f' = f
  · subst hf
    rw [← lookup_getD d f' n']
    unfold cell
    rw [Finmap.lookup_insert, Option.bind_some]
    by_cases hn : n' = n
    · subst hn
      rw [Finmap.lookup_insert, if_pos ⟨rfl, rfl⟩]
    · rw [Finmap.lookup_insert_of_ne _ hn, if_neg fun h => hn h.2]
  · rw [if_neg fun h => hf h.1]
    unfold cell
    rw [Finmap.lookup_insert_of_ne _ hf]

end Dicts

/-! ## The loop -/

/-- What the maps hold after the rows `done`. -/
structure CollectInv (snap : Snapshot) (done : List FnContainer) (m : Maps) : Prop where
  energy : ∀ n e, m.energyMap.lookup n = some e ↔ (∃ f, ⟨f, n⟩ ∈ done) ∧ e = snap.energy n
  share : ∀ f n x, cell m.containerMap f n = some x ↔
    ⟨f, n⟩ ∈ done ∧ x = containerSum snap f n / nodeSum snap n
  functions : ∀ f, f ∈ m.containerMap ↔ ∃ n, ⟨f, n⟩ ∈ done

section Loop

variable {snap : Snapshot} {done rows : List FnContainer} {m m' : Maps} {f n : String}

theorem collectRow_ok (h : ⟨f, n⟩ ∈ getFnContainerCpuUsages snap) (m : Maps) :
    collectRow snap m ⟨f, n⟩ = .ok
      { containerMap := if n ∈ ((insertNew m.containerMap f ∅).lookup f).getD ∅ then
          insertNew m.containerMap f ∅
        else (insertNew m.containerMap f ∅).insert f
          ((((insertNew m.containerMap f ∅).lookup f).getD ∅).insert n
            (containerSum snap f n / nodeSum snap n))
        energyMap := insertNew m.energyMap n (snap.energy n) } := by
  unfold collectRow pyDiv getNodeEnergyConsumption
  simp only [getNodeCpuUsageSum_ok h, getContainerCpuUsageSum_ok h, if_neg (nodeSum_pos h).ne',
    bind, Except.bind, pure, Except.pure]
  split <;> rfl

theorem mem_snoc {f' n' : String} :
    ⟨f', n'⟩ ∈ done ++ [⟨f, n⟩] ↔ ⟨f', n'⟩ ∈ done ∨ f' = f ∧ n' = n := by
  simp

theorem CollectInv.mem_cells (hI : CollectInv snap done m) :
    n ∈ ((insertNew m.containerMap f ∅).lookup f).getD ∅ ↔ ⟨f, n⟩ ∈ done := by
  rw [Finmap.mem_iff]
  simp only [lookup_getD, cell_insertNew, hI.share]
  exact ⟨fun ⟨_, h, _⟩ => h, fun h => ⟨_, h, rfl⟩⟩

theorem CollectInv.energy_row (hI : CollectInv snap done m) (f n n' : String) (e : ℚ) :
    (insertNew m.energyMap n (snap.energy n)).lookup n' = some e ↔
      (∃ f', ⟨f', n'⟩ ∈ done ++ [⟨f, n⟩]) ∧ e = snap.energy n' := by
  have hnone : m.energyMap.lookup n = none ↔ ¬ ∃ f', ⟨f', n⟩ ∈ done := by
    rw [Option.eq_none_iff_forall_ne_some]
    constructor
    · rintro h ⟨f', hf⟩
      exact h _ ((hI.energy n _).mpr ⟨⟨f', hf⟩, rfl⟩)
    · exact fun h e he => h ((hI.energy n e).mp he).1
  simp only [lookup_insertNew, hI.energy, hnone, mem_snoc]
  constructor
  · rintro (⟨⟨f', hf⟩, rfl⟩ | ⟨rfl, -, rfl⟩)
    · exact ⟨⟨f', .inl hf⟩, rfl⟩
    · exact ⟨⟨f, .inr ⟨rfl, rfl⟩⟩, rfl⟩
  · rintro ⟨⟨f', hf | ⟨rfl, rfl⟩⟩, rfl⟩
    · exact .inl ⟨⟨f', hf⟩, rfl⟩
    · by_cases hd : ∃ f'', ⟨f'', n'⟩ ∈ done
      · exact .inl ⟨hd, rfl⟩
      · exact .inr ⟨rfl, hd, rfl⟩

theorem collectInv_row (hI : CollectInv snap done m)
    (h : ⟨f, n⟩ ∈ getFnContainerCpuUsages snap) :
    ∃ m', collectRow snap m ⟨f, n⟩ = .ok m' ∧ CollectInv snap (done ++ [⟨f, n⟩]) m' := by
  refine ⟨_, collectRow_ok h m, fun n' e => hI.energy_row f n n' e, ?_, ?_⟩
  · intro f' n' x
    rw [mem_snoc]
    split
    · next hmem =>
      -- a replica: the pair has its share already
      have hdone := hI.mem_cells.mp hmem
      rw [cell_insertNew, hI.share, or_iff_left_of_imp]
      rintro ⟨rfl, rfl⟩
      exact hdone
    · next hmem =>
      rw [cell_insert, cell_insertNew]
      split
      · next he =>
        obtain ⟨rfl, rfl⟩ := he
        simp [eq_comm]
      · next he =>
        rw [hI.share, or_iff_left he]
  · intro f'
    simp only [mem_snoc]
    have hfun : (f' ∈ m.containerMap ∨ f' = f) ↔ ∃ n', ⟨f', n'⟩ ∈ done ∨ f' = f ∧ n' = n := by
      rw [hI.functions, exists_or]
      simp
    rw [← hfun]
    split
    · exact mem_insertNew
    · rw [Finmap.mem_insert, mem_insertNew]
      exact ⟨fun h => h.elim .inr id, .inr⟩

theorem collectInv_rows (hI : CollectInv snap done m)
    (h : ∀ r ∈ rows, r ∈ getFnContainerCpuUsages snap) :
    ∃ m', rows.foldlM (collectRow snap) m = .ok m' ∧ CollectInv snap (done ++ rows) m' := by
  induction rows generalizing done m with
  | nil => exact ⟨m, rfl, by simpa using hI⟩
  | cons r rows ih =>
    obtain ⟨m₁, hm₁, hI₁⟩ := collectInv_row hI (h r List.mem_cons_self)
    obtain ⟨m', hm', hI'⟩ := ih hI₁ fun r hr => h r (List.mem_cons_of_mem _ hr)
    refine ⟨m', ?_, by simpa using hI'⟩
    rw [List.foldlM_cons, hm₁]
    exact hm'

theorem collectData_ok (h : Answers snap rows) :
    ∃ m, collectData snap rows = .ok m ∧ CollectInv snap rows m := by
  have h0 : CollectInv snap [] ⟨∅, ∅⟩ := by
    refine ⟨fun n e => ?_, fun f n x => ?_, fun f => ?_⟩
    · simp
    · simp [cell]
    · exact iff_of_false Finmap.notMem_empty (by simp)
  exact collectInv_rows h0 fun r hr => (h r).mp hr

/-- The maps are determined by which rows there were. -/
theorem CollectInv.unique {rows' : List FnContainer} (hI : CollectInv snap rows m)
    (hI' : CollectInv snap rows' m') (h : ∀ r, r ∈ rows ↔ r ∈ rows') : m = m' := by
  obtain ⟨containerMap, energyMap⟩ := m
  obtain ⟨containerMap', energyMap'⟩ := m'
  have henergy : energyMap = energyMap' := by
    refine Finmap.ext_lookup fun n => Option.ext fun e => ?_
    rw [hI.energy n e, hI'.energy n e]
    simp only [h]
  have hcell : ∀ f n, cell containerMap f n = cell containerMap' f n := by
    intro f n
    refine Option.ext fun x => ?_
    rw [hI.share f n x, hI'.share f n x, h]
  have hcontainer : containerMap = containerMap' := by
    refine Finmap.ext_lookup fun f => ?_
    have hmem : f ∈ containerMap ↔ f ∈ containerMap' := by
      rw [hI.functions f, hI'.functions f]
      simp only [h]
    cases hl : containerMap.lookup f with
    | none =>
      rw [Finmap.lookup_eq_none, hmem] at hl
      exact (Finmap.lookup_eq_none.mpr hl).symm
    | some row =>
      obtain ⟨row', hl'⟩ := Finmap.mem_iff.mp (hmem.mp (Finmap.mem_of_lookup_eq_some hl))
      rw [hl', Option.some.injEq]
      refine Finmap.ext_lookup fun n => ?_
      have hrow := hcell f n
      simpa only [cell, hl, hl', Option.bind_some] using hrow
  rw [henergy, hcontainer]

end Loop

/-! ## Conservation -/

section Conservation

variable {snap : Snapshot} {rows : List FnContainer} {m : Maps}

theorem containerSum_nonneg (f n : String) : 0 ≤ containerSum snap f n :=
  Total.total_nonneg usage_nonneg

theorem nodeSum_nonneg (n : String) : 0 ≤ nodeSum snap n := Total.total_nonneg usage_nonneg

theorem sum_containerSum_le (fs : Finset String) (n : String) :
    ∑ f ∈ fs, containerSum snap f n ≤ nodeSum snap n :=
  Total.sum_total_le Sample.container fs usage_nonneg

theorem CollectInv.energyOf_le (hI : CollectInv snap rows m) (f n : String) :
    (m.energyOf f n).getD 0 ≤ containerSum snap f n / nodeSum snap n * snap.energy n := by
  have hshare : 0 ≤ containerSum snap f n / nodeSum snap n :=
    div_nonneg (containerSum_nonneg f n) (nodeSum_nonneg n)
  unfold Maps.energyOf
  cases hc : cell m.containerMap f n with
  | none => exact mul_nonneg hshare (snap.energy_nonneg n)
  | some share =>
    obtain ⟨-, rfl⟩ := (hI.share f n share).mp hc
    cases he : m.energyMap.lookup n with
    | none => exact mul_nonneg hshare (snap.energy_nonneg n)
    | some e =>
      obtain ⟨-, rfl⟩ := (hI.energy n e).mp he
      exact le_refl _

theorem CollectInv.sum_energyOf_le (hI : CollectInv snap rows m) (fs : Finset String)
    (n : String) : ∑ f ∈ fs, (m.energyOf f n).getD 0 ≤ snap.energy n := by
  have hshares : (∑ f ∈ fs, containerSum snap f n) / nodeSum snap n ≤ 1 :=
    div_le_one_of_le₀ (sum_containerSum_le fs n) (nodeSum_nonneg n)
  calc ∑ f ∈ fs, (m.energyOf f n).getD 0
      ≤ ∑ f ∈ fs, containerSum snap f n / nodeSum snap n * snap.energy n :=
        Finset.sum_le_sum fun f _ => hI.energyOf_le f n
    _ = (∑ f ∈ fs, containerSum snap f n) / nodeSum snap n * snap.energy n := by
        rw [← Finset.sum_mul, ← Finset.sum_div]
    _ ≤ 1 * snap.energy n := mul_le_mul_of_nonneg_right hshares (snap.energy_nonneg n)
    _ = snap.energy n := one_mul _

/-- **The attribution conserves energy.** For every snapshot and every list of rows the first query
may return: the iteration raises nothing, so it never divides by 0; a function and a node get one
share if they have a row, a node one energy if it has one, and none otherwise; other rows for the
same snapshot give the same maps; and the energies of all functions on a node add up to at most
the energy of the node. -/
theorem collectData_conserves (h : Answers snap rows) :
    ∃ m, collectData snap rows = .ok m ∧
      (∀ f n, (∃! share, cell m.containerMap f n = some share) ↔ ⟨f, n⟩ ∈ rows) ∧
      (∀ n, (∃! e, m.energyMap.lookup n = some e) ↔ ∃ f, ⟨f, n⟩ ∈ rows) ∧
      (∀ f n, ⟨f, n⟩ ∈ rows → ∃ share, cell m.containerMap f n = some share ∧
        m.energyOf f n = some (share * snap.energy n)) ∧
      (∀ rows', Answers snap rows' → collectData snap rows' = .ok m) ∧
      ∀ n, ∑ f ∈ m.containerMap.keys, (m.energyOf f n).getD 0 ≤ snap.energy n := by
  obtain ⟨m, hm, hI⟩ := collectData_ok h
  refine ⟨m, hm, fun f n => ?_, fun n => ?_, fun f n hrow => ?_, fun rows' h' => ?_, fun n => ?_⟩
  · constructor
    · rintro ⟨share, hshare, -⟩
      exact ((hI.share f n share).mp hshare).1
    · intro hrow
      have hshare := (hI.share f n _).mpr ⟨hrow, rfl⟩
      exact ⟨_, hshare, fun y hy => Option.some.inj (hy.symm.trans hshare)⟩
  · constructor
    · rintro ⟨e, he, -⟩
      exact ((hI.energy n e).mp he).1
    · intro hrow
      have he := (hI.energy n _).mpr ⟨hrow, rfl⟩
      exact ⟨_, he, fun y hy => Option.some.inj (hy.symm.trans he)⟩
  · have hshare := (hI.share f n _).mpr ⟨hrow, rfl⟩
    have he := (hI.energy n _).mpr ⟨⟨f, hrow⟩, rfl⟩
    refine ⟨_, hshare, ?_⟩
    simp only [Maps.energyOf, hshare, he, Option.bind_some, Option.map_some]
  · obtain ⟨m', hm', hI'⟩ := collectData_ok h'
    rw [hm', hI'.unique hI fun r => (h' r).trans (h r).symm]
  · exact hI.sum_energyOf_le _ n

end Conservation

/-- Two replicas of a function beside a system container. -/
def twoReplicas : Snapshot where
  samples :=
    [⟨"fn", "openfaas-fn", "nodeinfo", "", "odroidxu4-1", 1, by decide⟩,
      ⟨"fn", "openfaas-fn", "nodeinfo", "", "odroidxu4-1", 2, by decide⟩,
      ⟨"dns", "kube-system", "coredns", "", "odroidxu4-1", 1, by decide⟩]
  energy _ := 8
  energy_nonneg _ := by decide

/-- Their rows in reverse order: the function has 3/4 of the CPU and of the 8 As, counted once. -/
theorem collectData_twoReplicas :
    ∃ m, collectData twoReplicas (getFnContainerCpuUsages twoReplicas).reverse = .ok m ∧
      cell m.containerMap "nodeinfo" "odroidxu4-1" = some (3 / 4) ∧
      m.energyOf "nodeinfo" "odroidxu4-1" = some 6 ∧
      ∑ f ∈ m.containerMap.keys, (m.energyOf f "odroidxu4-1").getD 0 ≤ 8 := by
  have h : Answers twoReplicas (getFnContainerCpuUsages twoReplicas).reverse :=
    fun _ => List.mem_reverse
  obtain ⟨m, hm, -, -, henergy, -, hsum⟩ := collectData_conserves h
  have hcell : (collectData twoReplicas (getFnContainerCpuUsages twoReplicas).reverse).map
      (fun m => cell m.containerMap "nodeinfo" "odroidxu4-1") = .ok (some (3 / 4)) := by
    decide +kernel
  rw [hm] at hcell
  have hshare : cell m.containerMap "nodeinfo" "odroidxu4-1" = some (3 / 4) :=
    Except.ok.inj hcell
  obtain ⟨share, hs, he⟩ := henergy "nodeinfo" "odroidxu4-1" (by decide)
  cases hs.symm.trans hshare
  refine ⟨m, hm, hshare, he.trans ?_, hsum "odroidxu4-1"⟩
  decide +kernel

end Powermeter.Inference
