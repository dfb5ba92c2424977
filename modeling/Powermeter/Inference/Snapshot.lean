import Mathlib.Algebra.Order.Ring.Rat
import Powermeter.Lib.Total

/-!
# The snapshot the inference queries

What Prometheus holds during one iteration of `collect_data`: the CPU usage of every
container, with the labels the queries filter by, and the energy of every node. Each
query answers what its text says. The filters on `image` and `container_name` are the
same in all three CPU queries; what they let through are the containers.
-/

namespace Powermeter.Inference

/-- A series of `container_cpu_usage_seconds_total` and its rate. -/
structure Sample where
  image : String
  namespaceLabel : String
  container : String
  containerName : String
  node : String
  usage : ℚ
  usage_nonneg : 0 ≤ usage
  deriving DecidableEq

structure Snapshot where
  samples : List Sample
  /-- `idelta(powerexporter_power_consumption_ampere_seconds_total{instance=node}[2m:1m])`. -/
  energy : String → ℚ
  energy_nonneg : ∀ node, 0 ≤ energy node

def isContainer (s : Sample) : Bool := s.image != "" && s.containerName != "POD"

def fnNamespace : String := "openfaas-fn"

/-- The labels of a row of `get_fn_container_cpu_usages` that `collect_data` reads. -/
structure FnContainer where
  container : String
  node : String
  deriving DecidableEq, Repr

inductive PyErr where
  | indexError
  | zeroDivisionError
  deriving DecidableEq, Repr

def getFnContainerCpuUsages (snap : Snapshot) : List FnContainer :=
  (snap.samples.filter fun s =>
    isContainer s && s.namespaceLabel == fnNamespace && decide (0 < s.usage)).map
    fun s => ⟨s.container, s.node⟩

/-- `sum(...)` over a selection, and its first result: over no series the result is empty. -/
def querySum (snap : Snapshot) (p : Sample → Bool) : Except PyErr ℚ :=
  if snap.samples.any p then .ok (Total.total p Sample.usage snap.samples)
  else .error .indexError

def onNode (node : String) (s : Sample) : Bool := isContainer s && s.node == node

def named (containerName node : String) (s : Sample) : Bool :=
  onNode node s && decide (s.container = containerName)

def getContainerCpuUsageSum (snap : Snapshot) (containerName node : String) : Except PyErr ℚ :=
  querySum snap (named containerName node)

def getNodeCpuUsageSum (snap : Snapshot) (node : String) : Except PyErr ℚ :=
  querySum snap (onNode node)

def getNodeEnergyConsumption (snap : Snapshot) (node : String) : ℚ := snap.energy node

def pyDiv (a b : ℚ) : Except PyErr ℚ := if b = 0 then .error .zeroDivisionError else .ok (a / b)

/-- A list of rows that `get_fn_container_cpu_usages` may return: its members are the function
containers that used the CPU, in any order and any number. -/
def Answers (snap : Snapshot) (rows : List FnContainer) : Prop :=
  ∀ r, r ∈ rows ↔ r ∈ getFnContainerCpuUsages snap

theorem answers_self (snap : Snapshot) : Answers snap (getFnContainerCpuUsages snap) :=
  fun _ => Iff.rfl

/-! ## The sums of a row -/

variable {snap : Snapshot}

/-- The usage of the containers of a name on a node, in any namespace. -/
def containerSum (snap : Snapshot) (f n : String) : ℚ :=
  Total.total (named f n) Sample.usage snap.samples

def nodeSum (snap : Snapshot) (n : String) : ℚ := Total.total (onNode n) Sample.usage snap.samples

theorem usage_nonneg {l : List Sample} : ∀ s ∈ l, 0 ≤ s.usage := fun s _ => s.usage_nonneg

/-- A row is of a function container that used the CPU. -/
theorem mem_getFnContainerCpuUsages {f n : String} :
    ⟨f, n⟩ ∈ getFnContainerCpuUsages snap ↔ ∃ s ∈ snap.samples, named f n s = true ∧
      s.namespaceLabel = fnNamespace ∧ 0 < s.usage := by
  unfold getFnContainerCpuUsages
  simp only [List.mem_map, List.mem_filter, Bool.and_eq_true, beq_iff_eq, decide_eq_true_eq,
    FnContainer.mk.injEq, named, onNode]
  constructor
  · rintro ⟨s, ⟨hs, ⟨hc, hns⟩, hu⟩, rfl, rfl⟩
    exact ⟨s, hs, ⟨⟨hc, rfl⟩, rfl⟩, hns, hu⟩
  · rintro ⟨s, hs, ⟨⟨hc, rfl⟩, rfl⟩, hns, hu⟩
    exact ⟨s, ⟨hs, ⟨hc, hns⟩, hu⟩, rfl, rfl⟩

theorem nodeSum_pos {f n : String} (h : ⟨f, n⟩ ∈ getFnContainerCpuUsages snap) :
    0 < nodeSum snap n := by
  obtain ⟨s, hs, hnamed, -, hu⟩ := mem_getFnContainerCpuUsages.mp h
  have hon : onNode n s = true := (Bool.and_eq_true_iff.mp hnamed).1
  exact hu.trans_le (Total.le_total usage_nonneg hs hon)

theorem getNodeCpuUsageSum_ok {f n : String} (h : ⟨f, n⟩ ∈ getFnContainerCpuUsages snap) :
    getNodeCpuUsageSum snap n = .ok (nodeSum snap n) := by
  obtain ⟨s, hs, hnamed, -, -⟩ := mem_getFnContainerCpuUsages.mp h
  have hon : onNode n s = true := (Bool.and_eq_true_iff.mp hnamed).1
  exact if_pos (List.any_eq_true.mpr ⟨s, hs, hon⟩)

theorem getContainerCpuUsageSum_ok {f n : String} (h : ⟨f, n⟩ ∈ getFnContainerCpuUsages snap) :
    getContainerCpuUsageSum snap f n = .ok (containerSum snap f n) := by
  obtain ⟨s, hs, hnamed, -, -⟩ := mem_getFnContainerCpuUsages.mp h
  exact if_pos (List.any_eq_true.mpr ⟨s, hs, hnamed⟩)

end Powermeter.Inference
