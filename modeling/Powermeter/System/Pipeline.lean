import Powermeter.Exporter.Metrics
import Powermeter.Lib.Channel
import Powermeter.Lib.Lts
import Powermeter.Server.PowerMeasurement

/-!
# From the powermeter to the counter

One session of the powermeter, a client subscribed to one channel and a fresh exporter, with
datagrams that are delivered, lost, duplicated and reordered on both hops. The client stores
whatever measurement arrives, so old ones come back; what the counter shows is still never
above the energy on the ESP32, since no energy anywhere is (`PipelineInv`).
-/

namespace Powermeter

/-- `measurement` is the channel's measurement on the ESP32, `measurements`, `requests` and
`responses` are in flight; `updates` are the measurements passed to `update_metrics`, and
`raised` says that it has raised an exception. -/
structure Pipeline where
  measurement : PowerMeasurement
  measurements : List PowerMeasurement
  latestMeasurement : PowerMeasurement
  requests : List Unit
  responses : List PowerMeasurement
  metrics : Metrics
  updates : List PowerMeasurement
  raised : Bool

inductive Transit where
  | deliver
  | drop
  | duplicate
  deriving DecidableEq, Repr

inductive PipelineEvent where
  /-- The ESP32 stores a measurement whose energy is not lower. -/
  | measure (m : PowerMeasurement)
  /-- `serve_client` sends the current measurement. -/
  | sendMeasurement
  | measurement (t : Transit) (m : PowerMeasurement)
  /-- The exporter sends a request. -/
  | sendRequest
  | request (t : Transit)
  | response (t : Transit) (m : PowerMeasurement)
  deriving DecidableEq, Repr

/-- The message `listen_for_requests` fills. -/
def answerWith (latestMeasurement : PowerMeasurement) : PowerMeasurement :=
  { PowerMeasurement.init with
    timestamp := latestMeasurement.timestamp
    current := latestMeasurement.current
    energyConsumption := latestMeasurement.energyConsumption }

namespace Pipeline

def transit {β : Type} [DecidableEq β] (c : List β) (t : Transit) (d : β) : Option (List β) :=
  match t with
  | .duplicate => Channel.duplicate c d
  | _ => Channel.take c d

/-- The exporter gets a response; an exception ends it. -/
def update (inc : CounterInc) (s : Pipeline) (m : PowerMeasurement) : Pipeline :=
  match updateMetrics inc s.metrics m with
  | .ok metrics => { s with metrics := metrics, updates := s.updates ++ [m] }
  | .error _ => { s with raised := true, updates := s.updates ++ [m] }

def step (inc : CounterInc) (s : Pipeline) : PipelineEvent → Option Pipeline
  | .measure m =>
    if s.measurement.energyConsumption ≤ m.energyConsumption then some { s with measurement := m }
    else none
  | .sendMeasurement => some { s with measurements := s.measurement :: s.measurements }
  | .measurement t m => (transit s.measurements t m).map fun measurements =>
      { s with
        measurements := measurements
        latestMeasurement := if t = .deliver then m else s.latestMeasurement }
  | .sendRequest => some { s with requests := () :: s.requests }
  | .request t => (transit s.requests t ()).map fun requests =>
      { s with
        requests := requests
        responses := if t = .deliver then answerWith s.latestMeasurement :: s.responses
          else s.responses }
  | .response t m => (transit s.responses t m).map fun responses =>
      if t = .deliver then { s with responses := responses }.update inc m
      else { s with responses := responses }

end Pipeline

/-- From the boot of the powermeter and the start of client and exporter on. -/
def pipeline (inc : CounterInc) : Lts Pipeline PipelineEvent where
  init := ⟨.init, [], .zero, [], [], .fresh, [], false⟩
  step := Pipeline.step inc

/-- What `exec_measurement` stores is a step `measure`. -/
theorem energy_le_nextMeasurement (prev : PowerMeasurement) (timestamp : UInt64)
    (shuntCurrent : ℚ) :
    prev.energyConsumption ≤ (nextMeasurement prev timestamp shuntCurrent).energyConsumption := by
  refine le_add_of_nonneg_right (mul_nonneg (abs_nonneg _) ?_)
  positivity

/-! ## No energy is ahead of the powermeter -/

/-- No measurement anywhere has a higher energy than the ESP32, and the counter shows the
highest that was passed to it. -/
structure PipelineInv (s : Pipeline) : Prop where
  nonneg : 0 ≤ s.measurement.energyConsumption
  measurements : ∀ m ∈ s.measurements, m.energyConsumption ≤ s.measurement.energyConsumption
  latest : s.latestMeasurement.energyConsumption ≤ s.measurement.energyConsumption
  responses : ∀ m ∈ s.responses, m.energyConsumption ≤ s.measurement.energyConsumption
  updates : ∀ m ∈ s.updates, m.energyConsumption ≤ s.measurement.energyConsumption
  shows : s.metrics.energyConsumption.Shows s.updates
  raised : s.raised = false

section Steps

variable {inc : CounterInc} {s s' : Pipeline}

theorem transit_subset {β : Type} [DecidableEq β] {c c' : List β} {t : Transit} {d : β}
    (h : Pipeline.transit c t d = some c') : d ∈ c ∧ c' ⊆ c := by
  cases t with
  | duplicate => exact ⟨Channel.mem_of_duplicate h, Channel.duplicate_subset h⟩
  | deliver => exact ⟨Channel.mem_of_take h, Channel.take_subset h⟩
  | drop => exact ⟨Channel.mem_of_take h, Channel.take_subset h⟩

theorem pipelineInv_update (hinc : IncSpec (· + ·) inc) (hI : PipelineInv s) {m : PowerMeasurement}
    (hm : m.energyConsumption ≤ s.measurement.energyConsumption) :
    PipelineInv (s.update inc m) := by
  obtain ⟨metrics, hu, hshows⟩ := shows_update hinc hI.shows m
  unfold Pipeline.update
  rw [hu]
  refine { hI with updates := fun x hx => ?_, shows := hshows }
  rcases List.mem_append.mp hx with hx | hx
  · exact hI.updates x hx
  · rw [List.mem_singleton.mp hx]
    exact hm

theorem pipelineInv_step (hinc : IncSpec (· + ·) inc) {a : PipelineEvent} (hI : PipelineInv s)
    (hs : s.step inc a = some s') : PipelineInv s' := by
  cases a with
  | measure m =>
    obtain ⟨hle, he⟩ := Option.ite_none_right_eq_some.mp hs
    cases he
    exact ⟨hI.nonneg.trans hle, fun x hx => (hI.measurements x hx).trans hle,
      hI.latest.trans hle, fun x hx => (hI.responses x hx).trans hle,
      fun x hx => (hI.updates x hx).trans hle, hI.shows, hI.raised⟩
  | sendMeasurement =>
    cases hs
    exact { hI with measurements := List.forall_mem_cons.mpr ⟨le_rfl, hI.measurements⟩ }
  | measurement t m =>
    obtain ⟨measurements, ht, rfl⟩ := Option.map_eq_some_iff.mp hs
    obtain ⟨hm, hsub⟩ := transit_subset ht
    refine { hI with measurements := fun x hx => hI.measurements x (hsub hx), latest := ?_ }
    dsimp only
    split
    · exact hI.measurements m hm
    · exact hI.latest
  | sendRequest => cases hs; exact { hI with }
  | request t =>
    obtain ⟨requests, -, rfl⟩ := Option.map_eq_some_iff.mp hs
    refine { hI with responses := ?_ }
    dsimp only
    split
    · exact List.forall_mem_cons.mpr ⟨hI.latest, hI.responses⟩
    · exact hI.responses
  | response t m =>
    obtain ⟨responses, ht, rfl⟩ := Option.map_eq_some_iff.mp hs
    obtain ⟨hm, hsub⟩ := transit_subset ht
    have hI' : PipelineInv { s with responses := responses } :=
      { hI with responses := fun x hx => hI.responses x (hsub hx) }
    split
    · exact pipelineInv_update hinc hI' (hI.responses m hm)
    · exact hI'

theorem pipelineInv (hinc : IncSpec (· + ·) inc) {as : List PipelineEvent}
    (h : (pipeline inc).run as = some s) : PipelineInv s := by
  refine Lts.inv (P := PipelineInv) ?_ (fun s a s' hI hs => pipelineInv_step hinc hI hs) h
  refine ⟨le_rfl, nofun, le_rfl, nofun, nofun, ?_, rfl⟩
  simp [pipeline, Metrics.fresh, CounterWrapper.Shows, peakEnergy]

theorem updates_step {a : PipelineEvent} (hs : (pipeline inc).step s a = some s') :
    s.updates <+: s'.updates := by
  cases a with
  | measure m =>
    obtain ⟨-, he⟩ := Option.ite_none_right_eq_some.mp hs
    cases he; exact List.prefix_refl _
  | sendMeasurement => cases hs; exact List.prefix_refl _
  | measurement t m =>
    obtain ⟨_, -, rfl⟩ := Option.map_eq_some_iff.mp hs
    exact List.prefix_refl _
  | sendRequest => cases hs; exact List.prefix_refl _
  | request t =>
    obtain ⟨_, -, rfl⟩ := Option.map_eq_some_iff.mp hs
    exact List.prefix_refl _
  | response t m =>
    obtain ⟨_, -, rfl⟩ := Option.map_eq_some_iff.mp hs
    split
    · unfold Pipeline.update
      split <;> exact List.prefix_append _ _
    · exact List.prefix_refl _

theorem peakEnergy_mono {data data' : List PowerMeasurement} (h : data <+: data') :
    peakEnergy data ≤ peakEnergy data' := by
  obtain ⟨t, rfl⟩ := h
  unfold peakEnergy
  rw [List.map_append, peak_append]
  exact div_le_div_of_nonneg_right (le_max_left _ _) (by norm_num)

end Steps

/-- **The exported counter is sound**: after any run over the two lossy hops, the counter and the
wrapper's copy of it are the highest energy passed to `update_metrics`, neither has ever
decreased, no increment was negative, and the counter is not above the energy on the ESP32. -/
theorem counter_sound {inc : CounterInc} (hinc : IncSpec (· + ·) inc) {as : List PipelineEvent}
    {s : Pipeline} (h : (pipeline inc).run as = some s) :
    (s.metrics.energyConsumption.counter = s.metrics.energyConsumption.counterValue ∧
      s.metrics.energyConsumption.counterValue =
        peak (s.updates.map (·.energyConsumption)) / 1000) ∧
    (∀ pre post s0, as = pre ++ post → (pipeline inc).run pre = some s0 →
      s0.metrics.energyConsumption.counter ≤ s.metrics.energyConsumption.counter ∧
      s0.metrics.energyConsumption.counterValue ≤ s.metrics.energyConsumption.counterValue) ∧
    s.raised = false ∧
    1000 * s.metrics.energyConsumption.counter ≤ s.measurement.energyConsumption := by
  have hI := pipelineInv hinc h
  have hshows := hI.shows
  refine ⟨?_, ?_, hI.raised, ?_⟩
  · rw [hshows]
    exact ⟨rfl, rfl⟩
  · rintro pre post s0 rfl hpre
    obtain ⟨s1, hs1, hpost⟩ := Lts.run_some_of_append h
    rw [hpre] at hs1
    cases hs1
    have hsub : s0.updates <+: s.updates :=
      Lts.rel_of_runFrom (R := fun s t => s.updates <+: t.updates) (fun _ => List.prefix_refl _)
        List.IsPrefix.trans updates_step hpost
    rw [(pipelineInv hinc hpre).shows, hshows]
    exact ⟨peakEnergy_mono hsub, peakEnergy_mono hsub⟩
  · rw [hshows]
    have hle : peak (s.updates.map (·.energyConsumption)) ≤ s.measurement.energyConsumption :=
      peak_le_iff.mpr ⟨hI.nonneg, List.forall_mem_map.mpr hI.updates⟩
    show 1000 * (_ / 1000) ≤ _
    rw [mul_div_cancel₀ _ (by norm_num)]
    exact hle

def energyMessage (energy : ℚ) : PowerMeasurement :=
  { PowerMeasurement.init with energyConsumption := energy }

/-- The measurement of 1000 mAs arrives after that of 2000 mAs. -/
def reordered : List PipelineEvent :=
  [.measure (energyMessage 1000), .sendMeasurement, .measure (energyMessage 2000),
    .sendMeasurement, .measurement .deliver (energyMessage 2000), .sendRequest,
    .request .duplicate, .request .deliver, .response .deliver (energyMessage 2000),
    .measurement .deliver (energyMessage 1000), .request .deliver,
    .response .deliver (energyMessage 1000)]

/-- The counter stays at 2 As. -/
theorem counter_sound_reordered :
    ∃ s, (pipeline exactInc).run reordered = some s ∧ s.metrics.energyConsumption.counter = 2 ∧
      s.raised = false := by
  have hupdates : ((pipeline exactInc).run reordered).map (·.updates) =
      some [energyMessage 2000, energyMessage 1000] := by
    decide +kernel
  obtain ⟨s, hs, hu⟩ := Option.map_eq_some_iff.mp hupdates
  obtain ⟨⟨heq, hpeak⟩, -, hraised, -⟩ := counter_sound exactInc_spec hs
  refine ⟨s, hs, ?_, hraised⟩
  rw [heq, hpeak, hu]
  norm_num [energyMessage, peak]

end Powermeter
