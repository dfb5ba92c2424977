import Powermeter.System.Deployment

/-!
# What the counter of a node shows

The energies at the exporter of a node, in every run of the deployment: with restarts of
client and exporter, datagrams lost, copied and reordered, torn measurements, tasks that are
handed another client's request, and reboots of the powermeter.
-/

namespace Powermeter

variable {ν : Type} {n : Nat} [DecidableEq ν] {inc : CounterInc} {own : ν → Bool}
  {channel : UInt8} {worlds : Nat → World} {as : List (DeploymentEvent ν)} {s s' : Deployment ν n}

/-! ## One power-on -/

def DeploymentEvent.boots : DeploymentEvent ν → List (BootEvent Empty)
  | .boot a => [a]
  | _ => []

/-- The steps of `app_main` and of the measurement task since the last reboot. -/
def sinceReboot (as : List (DeploymentEvent ν)) : List (BootEvent Empty) :=
  as.foldl (fun bs a =>
    match a with
    | .reboot => []
    | a => bs ++ a.boots) []

omit [DecidableEq ν] in
theorem sinceReboot_snoc {a : DeploymentEvent ν} (ha : a ≠ .reboot) :
    sinceReboot (as ++ [a]) = sinceReboot as ++ a.boots := by
  unfold sinceReboot
  rw [List.foldl_append]
  cases a <;> first | rfl | exact absurd rfl ha

omit [DecidableEq ν] in
theorem sinceReboot_reboot : sinceReboot (as ++ [.reboot]) = [] := by
  unfold sinceReboot
  rw [List.foldl_append]
  rfl

theorem esp_step {a : DeploymentEvent ν} (hs : s.step inc own channel worlds a = some s') :
    (a = .reboot ∧ s'.esp = Esp.powerOn ν n) ∨
    a ≠ .reboot ∧ s'.session = s.session ∧ ((s'.esp = s.esp ∧ a.boots = []) ∨
      ∃ b, s.esp.step (worlds s.session) b = some s'.esp ∧ bootEvents [b] = a.boots) := by
  have hesp : ∀ {b : EspEvent ν} {u u' : Deployment ν n}, u.espStep (worlds u.session) b = some u' →
      u'.session = u.session ∧ u.esp.step (worlds u.session) b = some u'.esp := by
    intro b u u' hs
    obtain ⟨esp', out, hesp, rfl, -⟩ := espStep_cases hs
    exact ⟨rfl, hesp⟩
  cases a with
  | boot a =>
    obtain ⟨hsession, hb⟩ := hesp hs
    exact .inr ⟨nofun, hsession, .inr ⟨_, hb, rfl⟩⟩
  | reboot => cases hs; exact .inl ⟨rfl, rfl⟩
  | startTask i =>
    obtain ⟨hsession, hb⟩ := hesp hs
    exact .inr ⟨nofun, hsession, .inr ⟨_, hb, rfl⟩⟩
  | sendMeasurement i result =>
    obtain ⟨hsession, hb⟩ := hesp hs
    exact .inr ⟨nofun, hsession, .inr ⟨_, hb, rfl⟩⟩
  | datagram d =>
    obtain ⟨-, hs⟩ := Option.ite_none_left_eq_some.mp hs
    cases hs
    exact .inr ⟨nofun, rfl, .inl ⟨rfl, rfl⟩⟩
  | subscription t d =>
    obtain ⟨subscriptions, -, hs⟩ := Option.bind_eq_some_iff.mp hs
    split at hs
    · obtain ⟨hsession, hb⟩ := hesp (u := { s with subscriptions := subscriptions }) hs
      exact .inr ⟨nofun, hsession, .inr ⟨_, hb, rfl⟩⟩
    · cases hs
      exact .inr ⟨nofun, rfl, .inl ⟨rfl, rfl⟩⟩
  | startClient a =>
    obtain ⟨-, hs⟩ := Option.ite_none_right_eq_some.mp hs
    cases hs
    exact .inr ⟨nofun, rfl, .inl ⟨rfl, rfl⟩⟩
  | measurement t a m =>
    obtain ⟨measurements, -, hs⟩ := Option.bind_eq_some_iff.mp hs
    split at hs
    · obtain ⟨node, -, rfl⟩ := Option.map_eq_some_iff.mp hs
      exact .inr ⟨nofun, rfl, .inl ⟨rfl, rfl⟩⟩
    · cases hs
      exact .inr ⟨nofun, rfl, .inl ⟨rfl, rfl⟩⟩
  | node a =>
    obtain ⟨node, -, rfl⟩ := Option.map_eq_some_iff.mp hs
    exact .inr ⟨nofun, rfl, .inl ⟨rfl, rfl⟩⟩

/-- **Since its last reboot the ESP32 runs as `esp`.** -/
theorem esp_run (h : (deployment inc own channel n worlds).run as = some s) :
    ∃ es, (esp ν n (worlds s.session)).run es = some s.esp ∧ bootEvents es = sinceReboot as := by
  refine Lts.hist_inv (P := fun as (s : Deployment ν n) =>
    ∃ es, (esp ν n (worlds s.session)).run es = some s.esp ∧ bootEvents es = sinceReboot as)
    ⟨[], Lts.run_nil, rfl⟩ ?_ h
  rintro as a s s' - ⟨es, hes, hboots⟩ hs
  rcases esp_step hs with ⟨rfl, hesp⟩ | ⟨ha, hsession, ⟨hesp, hnone⟩ | ⟨b, hb, hone⟩⟩
  · rw [hesp, sinceReboot_reboot]
    exact ⟨[], Lts.run_nil, rfl⟩
  · rw [hsession, hesp, sinceReboot_snoc ha, hnone, List.append_nil]
    exact ⟨es, hes, hboots⟩
  · rw [hsession, sinceReboot_snoc ha]
    refine ⟨es ++ [b], Lts.run_snoc.mpr ⟨s.esp, hes, hb⟩, ?_⟩
    rw [bootEvents_snoc, hboots, hone]

/-! ## The energy of the channel -/

/-- The energy after `j` sweeps: the integral of the channel's current, in mAs. -/
def channelIntegral (w : World) (channel : UInt8) (j : Nat) : ℚ :=
  Sampled.integral (fun i => |reading w 2 sensorAddr 12 (channel.toNat - 1) i|)
    (fun i => ((stamp w 2 (channel.toNat - 1) i).toNat : ℚ)) j / 10 ^ 6

/-- The sweep since the last reboot in which the channel was measured last, 0 before the first. -/
def lastSweep (channel : UInt8) (as : List (DeploymentEvent ν)) (s : Deployment ν 2) : Nat :=
  sampleIndex (sinceReboot as) s.esp.boot.task (channel.toNat - 1)

/-- **The slot of a channel holds the integral up to the last sweep.** -/
theorem channelEnergy_integral {s : Deployment ν 2} (hw : ∀ k, (worlds k).DriverOk)
    (hclock : ∀ k, (worlds k).ClockMono) (h1 : 1 ≤ channel.toNat) (h6 : channel.toNat ≤ 6)
    (h : (deployment inc own channel 2 worlds).run as = some s) :
    s.channelEnergy channel =
      channelIntegral (worlds s.session) channel (lastSweep channel as s) := by
  obtain ⟨es, hes, hboots⟩ := esp_run h
  have hi : channel.toNat - 1 < amountOfChannels 2 := by
    show channel.toNat - 1 < 6
    omega
  unfold lastSweep
  rw [channelEnergy_slot hi (by omega), ← hboots]
  rcases (samplingInv (hw _) (boot_run hes)).slot hi with ⟨hzero, hindex⟩ | hsample
  · rw [hzero, hindex]
    simp [channelIntegral, PowerMeasurement.zero]
  · rw [hsample]
    exact slotAt_energy (hclock _) _ _

theorem channelEnergy_mono {a : DeploymentEvent ν}
    (h : (deployment inc own channel n worlds).run as = some s) (ha : a ≠ .reboot)
    (hs : s.step inc own channel worlds a = some s') :
    s.channelEnergy channel ≤ s'.channelEnergy channel := by
  have hsame : s'.esp.boot.meter = s.esp.boot.meter →
      s.channelEnergy channel ≤ s'.channelEnergy channel := by
    intro he
    unfold Deployment.channelEnergy
    rw [he]
  obtain ⟨es, hes, -⟩ := esp_run h
  rcases esp_step hs with ⟨hreboot, -⟩ | ⟨-, -, ⟨he, -⟩ | ⟨b, hb, -⟩⟩
  · exact absurd hreboot ha
  · exact hsame (by rw [he])
  · obtain ⟨-, hb⟩ := Option.ite_none_left_eq_some.mp hb
    cases b with
    | boot b =>
      obtain ⟨boot', hboot, he⟩ := Option.map_eq_some_iff.mp hb
      have hle := (energy_step (energyInv (boot_run hes)) hboot).2
      by_cases hch : ∃ i < amountOfChannels n, channel.toNat = i + 1
      · obtain ⟨i, hi, hch⟩ := hch
        rw [channelEnergy_slot hi hch, channelEnergy_slot hi hch, ← he]
        exact hle i hi
      · rw [channelEnergy_none hch, channelEnergy_none hch]
    | recv d =>
      obtain ⟨-, he⟩ := Option.ite_none_right_eq_some.mp hb
      rw [Option.some.injEq] at he
      exact hsame (by rw [← he])
    | start i =>
      obtain ⟨server, -, he⟩ := Option.map_eq_some_iff.mp hb
      exact hsame (by rw [← he])
    | send i result => exact hsame (by rw [(Esp.send_cases hb).1])

/-! ## The counter -/

/-- **The counter shows what the channel has consumed.** Whatever happens on the way, the exporter
of a node never raises an exception, its counter is the highest energy it was passed, and each
of these energies stood in the slot of the node's channel at some moment of the run, where it was
the integral of the channel's current up to the last sweep since the reboot before. -/
theorem counter_integral (hinc : IncSpec (· + ·) inc) {s : Deployment ν 2}
    (hw : ∀ k, (worlds k).DriverOk) (hclock : ∀ k, (worlds k).ClockMono)
    (h1 : 1 ≤ channel.toNat) (h6 : channel.toNat ≤ 6)
    (h : (deployment inc own channel 2 worlds).run as = some s) :
    s.node.exporter.raised = false ∧
    s.node.exporter.metrics.energyConsumption =
      ⟨peakEnergy s.node.exporter.updates, peakEnergy s.node.exporter.updates⟩ ∧
    ∀ m ∈ s.node.exporter.updates, ∃ pre post s₁, as = pre ++ post ∧
      (deployment inc own channel 2 worlds).run pre = some s₁ ∧
      m.energyConsumption = s₁.channelEnergy channel ∧
      s₁.channelEnergy channel =
        channelIntegral (worlds s₁.session) channel (lastSweep channel pre s₁) := by
  have hsound := exporterSound hinc h
  refine ⟨hsound.raised, hsound.shows, fun m hm => ?_⟩
  obtain ⟨pre, post, s₁, he, hs₁, hx⟩ := (storesOwn_occurred h).node.updates m hm
  exact ⟨pre, post, s₁, he, hs₁, hx.symm, channelEnergy_integral hw hclock h1 h6 hs₁⟩

/-- The first sweep, then one measurement all the way to the counter. -/
def firstUpdate : List (DeploymentEvent Nat) :=
  [.boot .createMeasurementTask, .boot .createServerTask, .boot .sensorsDone] ++
  List.replicate 6 (.boot .initSlot) ++ .boot .initDone :: List.replicate 6 (.boot .measure) ++
  [.startClient 7, .subscription .deliver (Deployment.subscriptionOf 1 7), .startTask 0,
    .sendMeasurement 0 .sent, .measurement .deliver 7 ⟨some .powerMeasurement, 6000000, 12, 2⟩,
    .node (.store .energyConsumption), .node (.store .timestamp), .node (.store .current),
    .node .sendRequest, .node (.request .deliver), .node (.load .timestamp),
    .node (.load .current), .node (.load .energyConsumption), .node .respond,
    .node (.response .deliver ⟨some .powerMeasurement, 6000000, 12, 2⟩)]

theorem firstUpdate_run :
    ∃ s, (deployment exactInc (· == 7) 1 2 fun _ => steadyWorld).run firstUpdate = some s ∧
      s.node.exporter.updates = [⟨some .powerMeasurement, 6000000, 12, 2⟩] := by
  have h : ((deployment exactInc (· == 7) 1 2 fun _ => steadyWorld).run firstUpdate).map
      (·.node.exporter.updates) = some [⟨some .powerMeasurement, 6000000, 12, 2⟩] := by
    decide +kernel
  exact Option.map_eq_some_iff.mp h

/-- After it, the counter shows 12 mAs: an energy its channel has had. -/
theorem counter_integral_firstUpdate :
    ∃ s, (deployment exactInc (· == 7) 1 2 fun _ => steadyWorld).run firstUpdate = some s ∧
      s.node.exporter.metrics.energyConsumption.counter = 12 / 1000 ∧
      ∃ pre post s₁, firstUpdate = pre ++ post ∧
        (deployment exactInc (· == 7) 1 2 fun _ => steadyWorld).run pre = some s₁ ∧
        s₁.channelEnergy 1 = 12 := by
  obtain ⟨s, hs, hu⟩ := firstUpdate_run
  obtain ⟨-, hcounter, hall⟩ := counter_integral exactInc_spec (fun _ => steadyWorld_driverOk)
    (fun _ => steadyWorld_clockMono) (by decide) (by decide) hs
  have hmem : ⟨some .powerMeasurement, 6000000, 12, 2⟩ ∈ s.node.exporter.updates := by
    rw [hu]
    exact List.mem_cons_self
  obtain ⟨pre, post, s₁, he, hs₁, hx, -⟩ := hall _ hmem
  refine ⟨s, hs, ?_, pre, post, s₁, he, hs₁, hx.symm⟩
  rw [hcounter, hu]
  norm_num [peakEnergy, peak]

/-- Before the first reboot no energy at the exporter is above that of the channel. -/
theorem peakEnergy_le_channel (h : (deployment inc own channel n worlds).run as = some s)
    (hreboot : .reboot ∉ as) :
    1000 * peakEnergy s.node.exporter.updates ≤ s.channelEnergy channel := by
  have hle : ∀ x,
      (deployment inc own channel n worlds).Occurred (Deployment.channelEnergy channel) as x →
      x ≤ s.channelEnergy channel := by
    intro x hx
    refine hx.le_source (C := (· ≠ .reboot)) ?_ h ?_
    · intro bs s s' a hbs ha hs
      exact channelEnergy_mono hbs ha hs
    · intro a ha he
      exact hreboot (he ▸ ha)
  have hnonneg : 0 ≤ s.channelEnergy channel := by
    rw [← channelEnergy_powerOn channel (s := (deployment inc own channel n worlds).init) rfl]
    exact hle _ Lts.occurred_init
  unfold peakEnergy
  rw [mul_div_cancel₀ _ (by norm_num)]
  refine peak_le_iff.mpr ⟨hnonneg, List.forall_mem_map.mpr fun m hm => ?_⟩
  exact hle _ ((storesOwn_occurred h).node.updates m hm)

/-- **Before the first reboot the counter is not ahead of the powermeter**, for any number of
sensors and whatever the bus and the clock deliver. -/
theorem counter_le_channel (hinc : IncSpec (· + ·) inc)
    (h : (deployment inc own channel n worlds).run as = some s)
    (hreboot : .reboot ∉ as) :
    1000 * s.node.exporter.metrics.energyConsumption.counter ≤ s.channelEnergy channel := by
  rw [(exporterSound hinc h).shows]
  exact peakEnergy_le_channel h hreboot

/-- Without a reboot the 12 mAs are at most what the channel has. -/
theorem counter_le_channel_firstUpdate :
    ∃ s, (deployment exactInc (· == 7) 1 2 fun _ => steadyWorld).run firstUpdate = some s ∧
      1000 * s.node.exporter.metrics.energyConsumption.counter ≤ s.channelEnergy 1 := by
  obtain ⟨s, hs, -⟩ := firstUpdate_run
  exact ⟨s, hs, counter_le_channel exactInc_spec hs (by simp [firstUpdate])⟩

end Powermeter
