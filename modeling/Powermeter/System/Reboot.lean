import Powermeter.System.Counter

/-!
# A node after a reboot of the powermeter

`udp_client` sends its request once, when it starts. The ESP32 forgets its clients when it
reboots, so from then on a node is sent nothing, and its counter stands where it was, until
its client is started again (`reboot_silences`); a client that is started again gets
the exporter back to the energy of its channel (`restart_catches_up`).
-/

namespace Powermeter

variable {ν : Type} {n : Nat} {inc : CounterInc} {own : ν → Bool} {channel : UInt8}
  {worlds : Nat → World} {pre post : List (DeploymentEvent ν)} {s₀ s s' : Deployment ν n}

/-! ## Silence -/

/-- Nothing on the ESP32, or on its way to it, is for the node, and what is on its way to the node
was there in `s₀`. -/
structure Quiet (own : ν → Bool) (s₀ s : Deployment ν n) : Prop where
  server : s.esp.server.All fun client => own client.sockaddr = false
  subscriptions : ∀ d ∈ s.subscriptions, own d.sockaddr = false
  measurements : ∀ x ∈ s.measurements, own x.1 = true → x ∈ s₀.measurements

theorem Quiet.not_serves (h : Quiet own s₀ s) : ¬ s.Serves own := by
  rintro ⟨client, hmem, hown⟩
  rw [h.server.2 client hmem] at hown
  cases hown

theorem quiet_esp {w : World} {a : EspEvent ν} (hI : OwnInv own channel s) (h : Quiet own s₀ s)
    (hrecv : ∀ d, a = .recv d → own d.sockaddr = false) (hs : s.espStep w a = some s') :
    Quiet own s₀ s' := by
  obtain ⟨esp, out, hesp, rfl, hout⟩ := espStep_cases hs
  refine ⟨?_, h.subscriptions, fun x hx hown => ?_⟩
  · refine (espStep_server hesp hI.buffer h.server fun d ha client hr => ?_).2
    rw [requestOf_sockaddr hr]
    exact hrecv d ha
  · rcases List.mem_append.mp hx with hnew | hold
    · obtain ⟨i, client, -, ha, hmem⟩ := hout x hnew
      exact absurd ⟨client, hmem, ha ▸ hown⟩ h.not_serves
    · exact h.measurements x hold hown

variable [DecidableEq ν]

theorem quiet_step {a : DeploymentEvent ν} (hI : OwnInv own channel s) (h : Quiet own s₀ s)
    (ha : ∀ b, a ≠ .startClient b) (hs : s.step inc own channel worlds a = some s') :
    Quiet own s₀ s' := by
  cases a with
  | boot a => exact quiet_esp hI h (fun _ h => by cases h) hs
  | reboot => cases hs; exact ⟨⟨nofun, nofun⟩, h.subscriptions, h.measurements⟩
  | startTask i => exact quiet_esp hI h (fun _ h => by cases h) hs
  | sendMeasurement i result => exact quiet_esp hI h (fun _ h => by cases h) hs
  | datagram d =>
    obtain ⟨hd, hs⟩ := Option.ite_none_left_eq_some.mp hs
    cases hs
    exact { h with
      subscriptions := List.forall_mem_cons.mpr ⟨Bool.eq_false_iff.mpr hd, h.subscriptions⟩ }
  | subscription t d =>
    obtain ⟨subscriptions, ht, hs⟩ := Option.bind_eq_some_iff.mp hs
    obtain ⟨hd, hsub⟩ := transit_subset ht
    have hI' : OwnInv own channel { s with subscriptions := subscriptions } :=
      { hI with subscriptions := fun x hx => hI.subscriptions x (hsub hx) }
    have h' : Quiet own s₀ { s with subscriptions := subscriptions } :=
      { h with subscriptions := fun x hx => h.subscriptions x (hsub hx) }
    split at hs
    · refine quiet_esp hI' h' ?_ hs
      rintro _ ⟨⟩
      exact h.subscriptions d hd
    · cases hs
      exact h'
  | startClient a => exact absurd rfl (ha a)
  | measurement t a m =>
    obtain ⟨measurements, ht, hs⟩ := Option.bind_eq_some_iff.mp hs
    have hsub := (transit_subset ht).2
    have hmeasurements : ∀ x ∈ measurements, own x.1 = true → x ∈ s₀.measurements :=
      fun x hx => h.measurements x (hsub hx)
    split at hs
    · obtain ⟨node, -, rfl⟩ := Option.map_eq_some_iff.mp hs
      exact ⟨h.server, h.subscriptions, hmeasurements⟩
    · cases hs
      exact ⟨h.server, h.subscriptions, hmeasurements⟩
  | node a =>
    obtain ⟨node, -, rfl⟩ := Option.map_eq_some_iff.mp hs
    exact ⟨h.server, h.subscriptions, h.measurements⟩

/-- **A reboot silences the node for good**: if none of the node's requests is in flight when the
powermeter reboots and its client is not started again, then, however long it goes on, no
`serve_client` task is at work for the node, nothing reaches it but what was in flight at the
reboot, and every energy at its exporter is from before the reboot. -/
theorem reboot_silences (h₀ : (deployment inc own channel n worlds).run pre = some s₀)
    (hrequests : ∀ d ∈ s₀.subscriptions, own d.sockaddr = false)
    (hpost : ∀ a, .startClient a ∉ post)
    (h : (deployment inc own channel n worlds).run (pre ++ .reboot :: post) = some s) :
    ¬ s.Serves own ∧
    (∀ x ∈ s.measurements, own x.1 = true → x ∈ s₀.measurements) ∧
    ∀ m ∈ s.node.exporter.updates,
      (deployment inc own channel n worlds).Occurred (Deployment.channelEnergy channel) pre
        m.energyConsumption := by
  suffices hI : Quiet own s₀ s ∧ s.StoresOwn own ((deployment inc own channel n worlds).Occurred
      (Deployment.channelEnergy channel) pre) from
    ⟨hI.1.not_serves, hI.1.measurements, hI.2.node.updates⟩
  induction post using List.reverseRecOn generalizing s with
  | nil =>
    obtain ⟨s₁, hs₁, hs⟩ := Lts.run_snoc.mp h
    rw [h₀, Option.some.injEq] at hs₁
    subst hs₁
    cases hs
    have hstores := storesOwn_occurred h₀
    exact ⟨⟨⟨nofun, nofun⟩, hrequests, fun x hx _ => hx⟩, hstores.measurements, hstores.node⟩
  | append_singleton post a ih =>
    rw [← List.cons_append, ← List.append_assoc] at h
    obtain ⟨s₁, hs₁, hs⟩ := Lts.run_snoc.mp h
    obtain ⟨hquiet, hstores⟩ := ih (fun b hb => hpost b (List.mem_append_left _ hb)) hs₁
    refine ⟨quiet_step (ownInv hs₁) hquiet ?_ hs, storesOwn_step (ownInv hs₁) hstores ?_
      (fun hserves => absurd hserves hquiet.not_serves) hs⟩
    · rintro b rfl
      exact hpost b (List.mem_append_right _ List.mem_cons_self)
    · have hzero :
          Deployment.channelEnergy channel (deployment inc own channel n worlds).init = 0 :=
        channelEnergy_powerOn channel rfl
      rw [← hzero]
      exact Lts.occurred_init

def bootSweeps (k : Nat) : List (DeploymentEvent Nat) :=
  [.boot .createMeasurementTask, .boot .createServerTask, .boot .sensorsDone] ++
  List.replicate 6 (.boot .initSlot) ++ [.boot .initDone] ++
  (List.replicate k (List.replicate 6 (.boot .measure) ++ [.boot .sweepDone])).flatten

/-- Two sweeps after the reboot: the node has been sent nothing since. -/
theorem reboot_silences_firstUpdate :
    ∃ s, (deployment exactInc (· == 7) 1 2 fun _ => steadyWorld).run
        (firstUpdate ++ .reboot :: bootSweeps 2) = some s ∧ ¬ s.Serves (· == 7) := by
  have hrun : ((deployment exactInc (· == 7) 1 2 fun _ => steadyWorld).run
      (firstUpdate ++ .reboot :: bootSweeps 2)).isSome := by
    decide +kernel
  have hempty : ((deployment exactInc (· == 7) 1 2 fun _ => steadyWorld).run firstUpdate).map
      (·.subscriptions) = some [] := by
    decide +kernel
  obtain ⟨s, hs⟩ := Option.isSome_iff_exists.mp hrun
  obtain ⟨s₀, hs₀, hnone⟩ := Option.map_eq_some_iff.mp hempty
  exact ⟨s, hs, (reboot_silences hs₀ (by simp [hnone]) (by simp [bootSweeps]) hs).1⟩

/-! ## The way back -/

/-- The client is started at address `a`, its request gets to the ESP32 and to a task, `i`, at
once, and the first measurement gets to the counter. -/
def catchUp (channel : UInt8) (a : ν) (i : Nat) (m : PowerMeasurement) :
    List (DeploymentEvent ν) :=
  [.startClient a, .subscription .deliver (Deployment.subscriptionOf channel a), .startTask i,
    .sendMeasurement i .sent, .measurement .deliver a m] ++ (answerRound m).map .node

theorem runFrom_node (es : List NodeEvent) (s : Deployment ν n) :
    (deployment inc own channel n worlds).runFrom s (es.map .node) =
      ((node inc ν).runFrom s.node es).map fun node => { s with node := node } := by
  induction es generalizing s with
  | nil => rfl
  | cons e es ih =>
    simp only [List.map_cons, Lts.runFrom]
    show ((s.node.step inc e).map _).bind _ = ((s.node.step inc e).bind _).map _
    cases s.node.step inc e with
    | none => rfl
    | some node => exact ih _

/-- **A client that is started again gets the exporter back to its channel**: from every reachable
state in which the server runs and the slot of the channel holds a message, one round without
a loss raises the counter to the energy in the slot, if it is not above it. -/
theorem restart_catches_up (hinc : IncSpec (· + ·) inc) {as : List (DeploymentEvent ν)}
    (h : (deployment inc own channel n worlds).run as = some s)
    (haborted : s.esp.aborted = false) (hserver : s.esp.boot.serverCreated = true)
    (hchannel : channel.toNat ≤ (getAmountOfChannels n).toNat) {m : PowerMeasurement}
    (hm : getMeasurement s.esp.boot.meter channel = .ok m) (hp : m.Packable) {a : ν}
    (ha : own a = true) :
    ∃ s', (deployment inc own channel n worlds).run
        (as ++ catchUp channel a s.esp.server.tasks.length m) = some s' ∧
      s'.node.exporter.metrics.energyConsumption.counter =
        max s.node.exporter.metrics.energyConsumption.counter (m.energyConsumption / 1000) := by
  obtain ⟨es, hes, -⟩ := esp_run h
  obtain ⟨hbuffer, hended⟩ := ended_lt hes
  obtain ⟨h1, -, -⟩ := load_eq_ok hm
  have hr : requestOf (getAmountOfChannels n) (Deployment.subscriptionOf channel a) =
      some ⟨channel.toNat, a, 16⟩ := by
    rw [requestOf_subscriptionOf, if_pos ⟨by omega, hchannel⟩]
  obtain ⟨e₁, e₂, e₃, hrecv, hsent₁, hstart, hsent₂, hsend, hsent₃⟩ :=
    esp_serves (w := worlds s.session) hbuffer hended haborted hserver hr
      (by rw [toUInt8_toNat]; exact hm) hp
  have hsound := exporterSound hinc h
  obtain ⟨n₁, n₂, hread, hround, hexporter⟩ :=
    answerRound_ok (s := s.node.startClient a) rfl rfl hsound m
  refine ⟨⟨s.session, e₃, s.subscriptions, s.measurements, n₂⟩, ?_, ?_⟩
  · rw [Lts.run_append, h, Option.bind_some, catchUp, Lts.runFrom_append]
    have hserved : (deployment inc own channel n worlds).runFrom s
        [.startClient a, .subscription .deliver (Deployment.subscriptionOf channel a),
          .startTask s.esp.server.tasks.length, .sendMeasurement s.esp.server.tasks.length .sent,
          .measurement .deliver a m] =
        some ⟨s.session, e₃, s.subscriptions, s.measurements, n₁⟩ := by
      simp [-List.map_drop, Lts.runFrom, deployment, Deployment.step, Deployment.espStep, ha,
        transit_cons, hrecv, hsent₁, hstart, hsent₂, hsend, hsent₃, hread]
    rw [hserved, Option.bind_some, runFrom_node, hround]
    rfl
  · have hanswer : answerWith m = m := by
      cases m
      rw [PowerMeasurement.Packable] at hp
      simp only at hp
      rw [hp]
      rfl
    show n₂.exporter.metrics.energyConsumption.counter = _
    rw [hexporter, hanswer]
    show (s.node.exporter.update inc m).metrics.energyConsumption.counter = _
    rw [(hsound.update hinc m).shows, Exporter.update_updates, hsound.shows]
    exact peakEnergy_snoc _ m

/-- Two sweeps after the reboot, the slot of channel 1 holds 24 mAs again, and so does the counter
when the client was started again. -/
theorem restart_catches_up_sweeps :
    ∃ as s, (deployment exactInc (· == 7) 1 2 fun _ => steadyWorld).run
        (firstUpdate ++ .reboot :: bootSweeps 2 ++ as) = some s ∧
      s.node.exporter.metrics.energyConsumption.counter = 24 / 1000 := by
  have hbefore : ((deployment exactInc (· == 7) 1 2 fun _ => steadyWorld).run
      (firstUpdate ++ .reboot :: bootSweeps 2)).map
      (fun s => (s.esp.aborted, s.esp.boot.serverCreated, getMeasurement s.esp.boot.meter 1,
        s.node.exporter.metrics.energyConsumption.counter)) =
      some (false, true, .ok ⟨some .powerMeasurement, 12000000, 24, 2⟩, 12 / 1000) := by
    decide +kernel
  obtain ⟨s, hs, he⟩ := Option.map_eq_some_iff.mp hbefore
  simp only [Prod.mk.injEq] at he
  obtain ⟨haborted, hserver, hm, hcounter⟩ := he
  obtain ⟨s', hs', hmax⟩ := restart_catches_up exactInc_spec hs haborted hserver (by decide) hm rfl
    (show (7 == 7) = true by decide)
  refine ⟨_, s', hs', ?_⟩
  rw [hmax, hcounter]
  norm_num

end Powermeter
