import Mathlib.Data.List.Chain
import Mathlib.Tactic.NormNum
import Powermeter.Inference.Attribution
import Powermeter.Lib.Increments

/-!
# The loop of `collect_data`

Iteration after iteration, with 60 s of sleep between two of them. The energy of a node is the
`idelta` of its counter over the last minutes, a query of Prometheus: the parameter `idelta`, of
which `IdeltaSpec` says what is documented. It looks at the counter at the full minutes only. No
minute is looked at twice (`minutes_pairwise`), so no energy is given out twice; a minute in
which no iteration asks is given to no function. An iteration sees one snapshot, with an energy
for every node, and the counters are read at every full minute and never reset.
-/

namespace Powermeter.Inference

def dataCollectionIntervalSeconds : ℕ := 60

/-- The full minutes up to a time in ms. -/
def minute (time : ℕ) : ℕ := time / 60000

/-- What Prometheus documents of `idelta(m[2m:1m])` at a time in ms, for a series with the values
`v k` at the full minutes: the subquery evaluates `m` at these, `idelta` is the difference of the
last two. -/
def IdeltaSpec (idelta : (ℕ → ℚ) → ℕ → ℚ) : Prop :=
  ∀ v time, 0 < minute time → idelta v time = v (minute time) - v (minute time - 1)

/-- One pass of the loop: when it asks for the energies, the CPU samples it finds, and the rows
it gets. -/
structure Iteration where
  time : ℕ
  minute_pos : 0 < minute time
  samples : List Sample
  rows : List FnContainer

/-- The counters of the nodes at the full minutes. They are never reset. -/
structure Counters where
  value : String → ℕ → ℚ
  mono : ∀ node, Monotone (value node)

section Collect

variable {idelta : (ℕ → ℚ) → ℕ → ℚ} (hidelta : IdeltaSpec idelta)

def Iteration.snapshot (counters : Counters) (it : Iteration) : Snapshot where
  samples := it.samples
  energy node := idelta (counters.value node) it.time
  energy_nonneg node := by
    rw [hidelta _ _ it.minute_pos]
    exact Increments.increment_nonneg (counters.mono node) _

def collectLoop (counters : Counters) (its : List Iteration) : Except PyErr (List Maps) :=
  its.mapM fun it => collectData (it.snapshot hidelta counters) it.rows

end Collect

/-- Between their queries for the energies the loop has slept. -/
def Iteration.Before (it it' : Iteration) : Prop :=
  it.time + dataCollectionIntervalSeconds * 1000 ≤ it'.time

instance : Trans Iteration.Before Iteration.Before Iteration.Before where
  trans h h' := Nat.le_trans h (Nat.le_trans (Nat.le_add_right _ _) h')

/-- What one iteration prints for the functions `fs` on a node, together. -/
def Maps.attributed (m : Maps) (fs : Finset String) (node : String) : ℚ :=
  ∑ f ∈ fs, (m.energyOf f node).getD 0

section Loop

variable {idelta : (ℕ → ℚ) → ℕ → ℚ} {hidelta : IdeltaSpec idelta} {counters : Counters}
  {its : List Iteration}

theorem minutes_pairwise (h : its.IsChain Iteration.Before) :
    (its.map fun it => minute it.time).Pairwise (· < ·) := by
  rw [List.pairwise_map]
  refine (List.isChain_iff_pairwise.mp h).imp fun {it it'} hle => ?_
  have hsleep : it.time + 60000 ≤ it'.time := hle
  unfold minute
  omega

theorem collectLoop_ok (hrows : ∀ it ∈ its, Answers (it.snapshot hidelta counters) it.rows) :
    ∃ ms, collectLoop hidelta counters its = .ok ms ∧
      List.Forall₂ (fun it m => ∀ fs node,
        m.attributed fs node ≤ idelta (counters.value node) it.time) its ms := by
  induction its with
  | nil => exact ⟨[], rfl, .nil⟩
  | cons it its ih =>
    obtain ⟨hit, hits⟩ := List.forall_mem_cons.mp hrows
    obtain ⟨m, hm, hI⟩ := collectData_ok hit
    obtain ⟨ms, hms, hall⟩ := ih hits
    refine ⟨m :: ms, ?_, .cons (fun fs node => hI.sum_energyOf_le fs node) hall⟩
    unfold collectLoop at hms ⊢
    rw [List.mapM_cons, hm, hms]
    rfl

/-- What was printed for the functions on a node, in all iterations together. -/
def totalAttributed (ms : List Maps) (fs : Finset String) (node : String) : ℚ :=
  (ms.map fun m => m.attributed fs node).sum

theorem totalAttributed_le {ms : List Maps} (h : List.Forall₂ (fun (it : Iteration) (m : Maps) =>
      ∀ fs node, m.attributed fs node ≤ idelta (counters.value node) it.time) its ms)
    (fs : Finset String) (node : String) :
    totalAttributed ms fs node ≤ (its.map fun it => idelta (counters.value node) it.time).sum := by
  unfold totalAttributed
  induction h with
  | nil => exact le_refl _
  | cons hle _ ih =>
    rw [List.map_cons, List.sum_cons, List.map_cons, List.sum_cons]
    exact add_le_add (hle fs node) ih

/-- The energies of a node in all iterations: its counter's rise without the minutes in which none
asks. -/
theorem sum_idelta (hidelta : IdeltaSpec idelta) (v : ℕ → ℚ)
    (hsleeps : its.IsChain Iteration.Before) {a b : ℕ} (hab : a ≤ b)
    (hwithin : ∀ it ∈ its, a < minute it.time ∧ minute it.time ≤ b) :
    (its.map fun it => idelta v it.time).sum = v b - v a -
      ∑ k ∈ Finset.Ioc a b \ (its.map fun it => minute it.time).toFinset, (v k - v (k - 1)) := by
  have hnodup : (its.map fun it => minute it.time).Nodup :=
    (minutes_pairwise hsleeps).imp fun hlt => hlt.ne
  have hsum := Increments.sum_map_increment v hab hnodup (List.forall_mem_map.mpr hwithin)
  rw [List.map_map] at hsum
  refine Eq.trans (congrArg List.sum (List.map_congr_left fun it _ => ?_)) hsum
  exact hidelta v it.time it.minute_pos

/-- **No energy is given out twice.** For any number of iterations with their sleeps, whatever
containers run in them: none raises an exception, and what the functions on a node are given in
all iterations together is at most what the node's counter has risen by, less what it has risen
by in the minutes no iteration asked in. -/
theorem collectLoop_accounts (hidelta : IdeltaSpec idelta)
    (hrows : ∀ it ∈ its, Answers (it.snapshot hidelta counters) it.rows)
    (hsleeps : its.IsChain Iteration.Before) {a b : ℕ} (hab : a ≤ b)
    (hwithin : ∀ it ∈ its, a < minute it.time ∧ minute it.time ≤ b) :
    ∃ ms, collectLoop hidelta counters its = .ok ms ∧ ∀ fs node,
      totalAttributed ms fs node ≤ counters.value node b - counters.value node a -
        ∑ k ∈ Finset.Ioc a b \ (its.map fun it => minute it.time).toFinset,
          (counters.value node k - counters.value node (k - 1)) := by
  obtain ⟨ms, hms, hall⟩ := collectLoop_ok hrows
  refine ⟨ms, hms, fun fs node => (totalAttributed_le hall fs node).trans_eq ?_⟩
  exact sum_idelta hidelta (counters.value node) hsleeps hab hwithin

end Loop

def lastMinute (v : ℕ → ℚ) (time : ℕ) : ℚ := v (minute time) - v (minute time - 1)

theorem lastMinute_spec : IdeltaSpec lastMinute := fun _ _ _ => rfl

def steadyCounters : Counters := ⟨fun _ k => k, fun _ _ _ h => Nat.cast_le.mpr h⟩

def twoIterations : List Iteration :=
  [⟨300000, by decide, twoReplicas.samples, getFnContainerCpuUsages twoReplicas⟩,
    ⟨425000, by decide, twoReplicas.samples, getFnContainerCpuUsages twoReplicas⟩]

theorem twoIterations_rows (counters : Counters) :
    ∀ it ∈ twoIterations, Answers (it.snapshot lastMinute_spec counters) it.rows := by
  intro it hit r
  have hsamples : getFnContainerCpuUsages (it.snapshot lastMinute_spec counters) =
      getFnContainerCpuUsages twoReplicas := by
    unfold getFnContainerCpuUsages
    rcases List.mem_pair.mp hit with rfl | rfl
    · rfl
    · rfl
  rw [hsamples]
  rcases List.mem_pair.mp hit with rfl | rfl
  · rfl
  · rfl

theorem twoIterations_sleeps : twoIterations.IsChain Iteration.Before := by
  refine List.isChain_pair.mpr ?_
  show 300000 + 60 * 1000 ≤ 425000
  decide

/-- Of the 3 As from minute 4 to minute 7, the functions get no more than 2. -/
theorem collectLoop_accounts_twoIterations :
    ∃ ms, collectLoop lastMinute_spec steadyCounters twoIterations = .ok ms ∧
      ∀ fs node, totalAttributed ms fs node ≤ 2 := by
  obtain ⟨ms, hms, hle⟩ := collectLoop_accounts lastMinute_spec
    (twoIterations_rows steadyCounters) twoIterations_sleeps (show 4 ≤ 7 by decide) (by decide)
  refine ⟨ms, hms, fun fs node => (hle fs node).trans ?_⟩
  have hskipped : Finset.Ioc 4 7 \ (twoIterations.map fun it => minute it.time).toFinset = {6} := by
    decide
  rw [hskipped, Finset.sum_singleton]
  show ((7 : ℕ) : ℚ) - (4 : ℕ) - ((6 : ℕ) - (5 : ℕ)) ≤ 2
  norm_num

end Powermeter.Inference
