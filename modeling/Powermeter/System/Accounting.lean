import Powermeter.Inference.Iterations
import Powermeter.System.Counter

/-!
# From the powermeter to the functions

The two halves together: the nodes of a cluster, each with a run of its deployment and the
scrapes of its exporter, and the loop that gives the energy of the nodes to the functions.
What the functions on a node are given was measured on the node's channel
(`functions_within_channel`).
-/

namespace Powermeter

open Inference

variable {ν : Type} {n : Nat} [DecidableEq ν] {inc : CounterInc} {worlds : Nat → World}

/-! ## The counter over time -/

section Counter

variable {own : ν → Bool} {channel : UInt8} {as : List (DeploymentEvent ν)}
  {s s' : Deployment ν n}

theorem counter_mono (hinc : IncSpec (· + ·) inc) {a : DeploymentEvent ν}
    (h : (deployment inc own channel n worlds).run as = some s) (ha : a ≠ .node .startExporter)
    (hs : s.step inc own channel worlds a = some s') :
    s.node.exporter.metrics.energyConsumption.counter ≤
      s'.node.exporter.metrics.energyConsumption.counter := by
  have hsound := exporterSound hinc h
  rw [hsound.shows, (exporterSound_step hinc hsound hs).shows]
  refine peakEnergy_mono ?_
  rcases exporter_cases hs with he | ⟨b, rfl, hb⟩
  · rw [he]
  · exact updates_prefix (fun hb => ha (congrArg _ hb)) hb

def nodeCounter (inc : CounterInc) (own : ν → Bool) (channel : UInt8) (n : Nat)
    (worlds : Nat → World) (as : List (DeploymentEvent ν)) : ℚ :=
  match (deployment inc own channel n worlds).run as with
  | some s => s.node.exporter.metrics.energyConsumption.counter
  | none => 0

theorem nodeCounter_eq (h : (deployment inc own channel n worlds).run as = some s) :
    nodeCounter inc own channel n worlds as =
      s.node.exporter.metrics.energyConsumption.counter := by
  unfold nodeCounter
  rw [h]

theorem nodeCounter_mono (hinc : IncSpec (· + ·) inc) {bs : List (DeploymentEvent ν)}
    (h : (deployment inc own channel n worlds).run (as ++ bs) = some s)
    (hbs : .node .startExporter ∉ bs) :
    nodeCounter inc own channel n worlds as ≤ nodeCounter inc own channel n worlds (as ++ bs) := by
  induction bs using List.reverseRecOn generalizing s with
  | nil => rw [List.append_nil]
  | append_singleton bs a ih =>
    rw [← List.append_assoc] at h ⊢
    obtain ⟨s₁, hs₁, hs⟩ := Lts.run_snoc.mp h
    refine (ih hs₁ fun hm => hbs (List.mem_append_left _ hm)).trans ?_
    rw [nodeCounter_eq hs₁, nodeCounter_eq h]
    refine counter_mono hinc hs₁ ?_ hs
    rintro rfl
    exact hbs (List.mem_append_right _ List.mem_cons_self)

end Counter

/-! ## The nodes -/

/-- A run of the deployment of one node with its powermeter, and how many of its events had happened
when Prometheus had the value of minute `k` from the exporter, if it had one. -/
structure MonitoredNode (ν : Type) [DecidableEq ν] (inc : CounterInc) where
  own : ν → Bool
  channel : UInt8
  n : Nat
  worlds : Nat → World
  events : List (DeploymentEvent ν)
  state : Deployment ν n
  run : (deployment inc own channel n worlds).run events = some state
  scrape : ℕ → Option ℕ
  scrape_order : ∀ {k l i j}, k ≤ l → scrape k = some i → scrape l = some j → i ≤ j

namespace MonitoredNode

variable (node : MonitoredNode ν inc)

def value (k : ℕ) : ℚ :=
  match node.scrape k with
  | some i => nodeCounter inc node.own node.channel node.n node.worlds (node.events.take i)
  | none => 0

variable {node} (hinc : IncSpec (· + ·) inc)

section Restart

variable (hrestart : .node .startExporter ∉ node.events)

include hinc hrestart

theorem take_le {i j : ℕ} (h : i ≤ j) :
    nodeCounter inc node.own node.channel node.n node.worlds (node.events.take i) ≤
      nodeCounter inc node.own node.channel node.n node.worlds (node.events.take j) := by
  have hsplit : node.events.take j = node.events.take i ++ (node.events.drop i).take (j - i) := by
    rw [← List.take_add, Nat.add_sub_cancel' h]
  have hrun := node.run
  rw [← List.take_append_drop j node.events] at hrun
  obtain ⟨s₁, hs₁, -⟩ := Lts.run_some_of_append hrun
  rw [hsplit] at hs₁ ⊢
  refine nodeCounter_mono hinc hs₁ fun hm => hrestart ?_
  exact List.mem_of_mem_drop (List.mem_of_mem_take hm)

/-- With a scrape in every minute the counter that Prometheus has does not fall. -/
theorem value_mono (hscrape : ∀ k, (node.scrape k).isSome) : Monotone node.value := by
  intro k l h
  obtain ⟨i, hi⟩ := Option.isSome_iff_exists.mp (hscrape k)
  obtain ⟨j, hj⟩ := Option.isSome_iff_exists.mp (hscrape l)
  simp only [value, hi, hj]
  exact take_le hinc hrestart (node.scrape_order h hi hj)

end Restart

include hinc in
theorem value_nonneg (k : ℕ) : 0 ≤ node.value k := by
  unfold value nodeCounter
  split
  · split
    · next s hs =>
      rw [(exporterSound hinc hs).shows]
      exact peakEnergy_nonneg _
    · exact le_rfl
  · exact le_rfl

include hinc in
theorem value_le (hrestart : .node .startExporter ∉ node.events) (k : ℕ) :
    node.value k ≤ node.state.node.exporter.metrics.energyConsumption.counter := by
  have hstate := nodeCounter_eq node.run
  rw [← hstate]
  unfold value
  cases node.scrape k with
  | none =>
    rw [hstate, (exporterSound hinc node.run).shows]
    exact peakEnergy_nonneg _
  | some i =>
    refine (take_le hinc hrestart (Nat.le_max_left i node.events.length)).trans_eq ?_
    rw [List.take_of_length_le (Nat.le_max_right _ _)]

end MonitoredNode

/-- What Prometheus has of nodes whose exporters are never restarted and scraped in every minute. -/
def counters (hinc : IncSpec (· + ·) inc) (nodes : String → MonitoredNode ν inc)
    (hrestart : ∀ node, .node .startExporter ∉ (nodes node).events)
    (hscrape : ∀ node k, ((nodes node).scrape k).isSome) : Counters where
  value node := (nodes node).value
  mono node := MonitoredNode.value_mono hinc (hrestart node) (hscrape node)

/-- **The functions of a node are given what the powermeter measured on its channel**, at most: in
any number of iterations, over any runs of the nodes in which no exporter is restarted and each is
scraped in every minute, the energies given to the functions on a node add up to at most the
counter of its exporter, which before a reboot is at most the energy of the node's channel on the
ESP32. -/
theorem functions_within_channel (hinc : IncSpec (· + ·) inc) {idelta : (ℕ → ℚ) → ℕ → ℚ}
    (hidelta : IdeltaSpec idelta) (nodes : String → MonitoredNode ν inc)
    (hrestart : ∀ node, .node .startExporter ∉ (nodes node).events)
    (hscrape : ∀ node k, ((nodes node).scrape k).isSome) {its : List Iteration}
    (hrows : ∀ it ∈ its,
      Answers (it.snapshot hidelta (counters hinc nodes hrestart hscrape)) it.rows)
    (hsleeps : its.IsChain Iteration.Before) :
    ∃ ms, collectLoop hidelta (counters hinc nodes hrestart hscrape) its = .ok ms ∧ ∀ fs node,
      totalAttributed ms fs node ≤
        (nodes node).state.node.exporter.metrics.energyConsumption.counter ∧
      (.reboot ∉ (nodes node).events →
        1000 * totalAttributed ms fs node ≤
          (nodes node).state.channelEnergy (nodes node).channel) := by
  obtain ⟨ms, hms, hall⟩ := collectLoop_ok hrows
  refine ⟨ms, hms, fun fs node => ?_⟩
  have hmono := MonitoredNode.value_mono hinc (hrestart node) (hscrape node)
  have hcounter : totalAttributed ms fs node ≤
      (nodes node).state.node.exporter.metrics.energyConsumption.counter := by
    -- the minutes asked in lie between minute 0 and any bound of them
    obtain ⟨b, hb⟩ : ∃ b, ∀ it ∈ its, minute it.time ≤ b :=
      ⟨(its.map fun it => minute it.time).sum, fun it hit =>
        List.single_le_sum (fun _ _ => Nat.zero_le _) _ (List.mem_map_of_mem hit)⟩
    calc totalAttributed ms fs node
        ≤ (its.map fun it => idelta (nodes node).value it.time).sum :=
          totalAttributed_le hall fs node
      _ = (nodes node).value b - (nodes node).value 0 - _ :=
          sum_idelta hidelta _ hsleeps (Nat.zero_le b) fun it hit => ⟨it.minute_pos, hb it hit⟩
      _ ≤ (nodes node).value b - (nodes node).value 0 :=
          sub_le_self _ (Finset.sum_nonneg fun k _ => Increments.increment_nonneg hmono k)
      _ ≤ (nodes node).value b := sub_le_self _ (MonitoredNode.value_nonneg hinc 0)
      _ ≤ _ := MonitoredNode.value_le hinc (hrestart node) b
  refine ⟨hcounter, fun hreboot => ?_⟩
  refine le_trans ?_ (peakEnergy_le_channel (nodes node).run hreboot)
  rw [(exporterSound hinc (nodes node).run).shows] at hcounter
  exact mul_le_mul_of_nonneg_left hcounter (by norm_num)

/-- Every node has run as far as its first update, in minute 5. -/
theorem functions_within_channel_firstUpdate :
    ∃ (nodes : String → MonitoredNode Nat exactInc)
      (hrestart : ∀ node, .node .startExporter ∉ (nodes node).events)
      (hscrape : ∀ node k, ((nodes node).scrape k).isSome) (ms : List Maps),
      (∀ node, (nodes node).events = firstUpdate) ∧
      collectLoop lastMinute_spec (counters exactInc_spec nodes hrestart hscrape) twoIterations =
        .ok ms ∧
      ∀ fs node, 1000 * totalAttributed ms fs node ≤
        (nodes node).state.channelEnergy (nodes node).channel := by
  obtain ⟨s, hs, -⟩ := firstUpdate_run
  have hreboot : .reboot ∉ firstUpdate := by simp [firstUpdate]
  let node : MonitoredNode Nat exactInc :=
    { own := (· == 7), channel := 1, n := 2, worlds := fun _ => steadyWorld
      events := firstUpdate, state := s, run := hs
      scrape := fun k => some ((k - 4) * firstUpdate.length)
      scrape_order := by
        rintro k l _ _ h ⟨⟩ ⟨⟩
        exact Nat.mul_le_mul_right _ (Nat.sub_le_sub_right h 4) }
  have hrestart : ∀ _ : String, .node .startExporter ∉ node.events := fun _ => by
    simp [node, firstUpdate]
  obtain ⟨ms, hms, hle⟩ := functions_within_channel exactInc_spec lastMinute_spec (fun _ => node)
    hrestart (fun _ _ => rfl) (twoIterations_rows _) twoIterations_sleeps
  exact ⟨fun _ => node, hrestart, fun _ _ => rfl, ms, fun _ => rfl, hms,
    fun fs name => (hle fs name).2 hreboot⟩

end Powermeter
