import Powermeter.Server.Energy
import Powermeter.Server.Handoff
import Powermeter.Server.Sockets
import Powermeter.Server.Startup

/-!
# What the clients are sent

One power-on of the ESP32 with all its tasks: the measurement task step by step as in
`boot`, the receive loop and the hand-off to the `serve_client` tasks as in `handoff`,
and the rounds of those tasks, in any order. A slot is copied in one step, to the array and
from it, and so is a `client_info`: the 40 bytes are not torn by another task in between.
With two sensors on a bus that answers, the slots step through the samples of `slotAt`, one
channel at a time (`SamplingInv`), so every client gets samples of its channel in the order
of the sweeps (`stream_samples`), whatever the hand-off mixes up.
-/

namespace Powermeter

/-! ## The measurement task, one channel at a time -/

section Sampling

variable {α : Type}

def sweepsDone (as : List (BootEvent α)) : Nat :=
  as.countP fun
    | .sweepDone => true
    | _ => false

/-- Which sample slot `q` holds: sample 0 is the one of `init_measurements`. -/
def sampleIndex (as : List (BootEvent α)) (task : MeasurementTask) (q : Nat) : Nat :=
  match task with
  | .sweep channel => if q < channel.toNat - 1 then sweepsDone as + 1 else sweepsDone as
  | _ => 0

/-- What the slots hold, from `app_main` on. -/
def SamplingInv (w : World) (as : List (BootEvent α)) (s : Boot α 2) : Prop :=
  match s.task with
  | .notCreated | .sensors => sweepsDone as = 0 ∧ s.meter = Meter.start 2
  | .initMeasurements channel =>
    sweepsDone as = 0 ∧ channel.toNat ≤ amountOfChannels 2 ∧
      InitInv w 2 sensorAddr 12 channel.toNat s.meter ∧
      ∀ q (h : q < amountOfChannels 2), channel.toNat ≤ q → s.meter.measurements[q] = .zero
  | .sweep channel => 1 ≤ channel.toNat ∧ channel.toNat ≤ amountOfChannels 2 + 1 ∧
      SweepInv w 2 sensorAddr 12 (sweepsDone as) (channel.toNat - 1) s.meter

variable {w : World} {as : List (BootEvent α)} {s s' : Boot α 2} {a : BootEvent α}

theorem sweepsDone_snoc (as : List (BootEvent α)) (a : BootEvent α) :
    sweepsDone (as ++ [a]) = sweepsDone as + sweepsDone [a] :=
  List.countP_append

theorem sweepsDone_other (ha : sweepsDone [a] = 0) : sweepsDone (as ++ [a]) = sweepsDone as := by
  rw [sweepsDone_snoc, ha, Nat.add_zero]

theorem SamplingInv.frame (h : SamplingInv w as s) (htask : s'.task = s.task)
    (hmeter : s'.meter = s.meter) (ha : sweepsDone [a] = 0) : SamplingInv w (as ++ [a]) s' := by
  unfold SamplingInv at h ⊢
  rw [htask, hmeter, sweepsDone_other ha]
  exact h

theorem measure_bound (h : s.measure w = some s') :
    ∃ channel, s.task = .sweep channel ∧ channel.toNat ≤ amountOfChannels 2 := by
  unfold Boot.measure at h
  split at h
  · next channel ht => exact ⟨channel, ht, (Option.ite_none_right_eq_some.mp h).1⟩
  · cases h

theorem sweepDone_bound (h : s.sweepDone = some s') :
    ∃ channel, s.task = .sweep channel ∧ ¬ channel.toNat ≤ amountOfChannels 2 := by
  unfold Boot.sweepDone at h
  split at h
  · next channel ht => exact ⟨channel, ht, (Option.ite_none_left_eq_some.mp h).1⟩
  · cases h

theorem toNat_succ {channel : UInt8} (h : channel.toNat ≤ 254) :
    (channel + 1).toNat = channel.toNat + 1 := by
  rw [UInt8.toNat_add]
  show (channel.toNat + 1) % 256 = _
  omega

theorem SamplingInv.sensorsDone (hw : w.DriverOk) (hI : SamplingInv w as s)
    (ht : s.task = .sensors)
    (hs : s.meterStep (setUpSensors w s.meter) (.initMeasurements 0) = some s') :
    SamplingInv w (as ++ [.sensorsDone]) s' := by
  obtain ⟨meter, hm, rfl⟩ := Boot.meterStep_cases hs
  unfold SamplingInv at hI ⊢
  rw [ht] at hI
  obtain ⟨hzero, hstart⟩ := hI
  obtain ⟨meter', hm', hinit⟩ := setUpSensors_ok hw
  rw [hstart, hm', Except.ok.injEq] at hm
  subst hm
  refine ⟨(sweepsDone_other rfl).trans hzero, Nat.zero_le _, hinit, fun q hq _ => ?_⟩
  simp only [setUpSensors_measurements hm', Meter.start, Vector.getElem_replicate]

theorem SamplingInv.initSlot (hI : SamplingInv w as s) (hs : s.initSlot w = some s') :
    SamplingInv w (as ++ [.initSlot]) s' := by
  obtain ⟨channel, meter, ht, hm, rfl⟩ := Boot.initSlot_cases hs
  unfold SamplingInv at hI ⊢
  rw [ht] at hI
  obtain ⟨hzero, hle, hinit, hrest⟩ := hI
  obtain ⟨hi, hmeter⟩ := initSlot_eq_ok hm
  have hi6 : channel.toNat < 6 := hi
  obtain ⟨meter', hm', hinit'⟩ := initSlot_inv hi (by omega) hinit
  rw [UInt8.ofNat_toNat, hm, Except.ok.injEq] at hm'
  subst hm'
  rw [← toNat_succ (by omega)] at hinit'
  refine ⟨(sweepsDone_other rfl).trans hzero, ?_, hinit', fun q hq hge => ?_⟩
  · rw [toNat_succ (by omega)]
    exact hi
  · rw [toNat_succ (by omega)] at hge
    simp only [hmeter]
    rw [Vector.getElem_set_ne hi hq (by omega)]
    exact hrest q hq (by omega)

theorem SamplingInv.initDone (hI : SamplingInv w as s) (hs : s.initDone = some s') :
    SamplingInv w (as ++ [.initDone]) s' := by
  obtain ⟨channel, ht, hge, rfl⟩ := Boot.initDone_cases hs
  unfold SamplingInv at hI ⊢
  rw [ht] at hI
  obtain ⟨hzero, hle, hinit, -⟩ := hI
  have hch : channel.toNat = amountOfChannels 2 := le_antisymm hle hge
  refine ⟨by decide, by decide, hinit.ready, ?_, ?_, fun q hq => ?_⟩
  · rw [sweepsDone_other rfl, hzero, hinit.ticks, hch]
    rfl
  · rw [sweepsDone_other rfl, hzero, hinit.transfers]
    rfl
  · rw [sweepsDone_other rfl, hzero]
    exact hinit.slots q hq (hch ▸ hq)

theorem SamplingInv.measure (hw : w.DriverOk) (hI : SamplingInv w as s)
    (hs : s.measure w = some s') : SamplingInv w (as ++ [.measure]) s' := by
  obtain ⟨channel, meter, ht, hm, rfl⟩ := Boot.measure_cases hs
  obtain ⟨channel', ht', hle⟩ := measure_bound hs
  rw [ht, MeasurementTask.sweep.injEq] at ht'
  subst ht'
  have hle6 : channel.toNat ≤ 6 := hle
  unfold SamplingInv at hI ⊢
  rw [ht] at hI
  obtain ⟨h1, -, hsweep⟩ := hI
  have hp : channel.toNat - 1 < amountOfChannels 2 := by
    show channel.toNat - 1 < 6
    omega
  obtain ⟨meter', hm', hsweep'⟩ := measureChannel_inv hw hp (by omega) hsweep
  rw [Nat.sub_add_cancel h1] at hm' hsweep'
  rw [UInt8.ofNat_toNat, hm, Except.ok.injEq] at hm'
  subst hm'
  have hnext : (channel + 1).toNat = channel.toNat + 1 := toNat_succ (by omega)
  have hdone : sweepsDone (as ++ [.measure]) = sweepsDone as := sweepsDone_other rfl
  simp only [hdone, hnext]
  exact ⟨Nat.le_add_left _ _, Nat.succ_le_succ hle, hsweep'⟩

theorem SamplingInv.sweepDone (hI : SamplingInv w as s) (hs : s.sweepDone = some s') :
    SamplingInv w (as ++ [.sweepDone]) s' := by
  obtain ⟨channel, ht, rfl⟩ := Boot.sweepDone_cases hs
  obtain ⟨channel', ht', hnle⟩ := sweepDone_bound hs
  rw [ht, MeasurementTask.sweep.injEq] at ht'
  subst ht'
  unfold SamplingInv at hI ⊢
  rw [ht] at hI
  obtain ⟨-, hle, hsweep⟩ := hI
  have hch : channel.toNat - 1 = amountOfChannels 2 := by omega
  rw [hch] at hsweep
  rw [sweepsDone_snoc]
  exact ⟨by decide, by decide, hsweep.next⟩

theorem samplingInv_step (hw : w.DriverOk) (hI : SamplingInv w as s)
    (hs : (boot α 2 w).step s a = some s') : SamplingInv w (as ++ [a]) s' := by
  obtain ⟨-, hs⟩ := Option.ite_none_left_eq_some.mp hs
  cases a with
  | createMeasurementTask =>
    obtain ⟨ht, hs⟩ := Option.ite_none_right_eq_some.mp hs
    cases hs
    unfold SamplingInv at hI ⊢
    rw [ht] at hI
    rw [sweepsDone_other rfl]
    exact hI
  | createServerTask =>
    obtain ⟨-, hs⟩ := Option.ite_none_left_eq_some.mp hs
    cases hs
    exact hI.frame rfl rfl rfl
  | sensorStep =>
    obtain ⟨-, hs⟩ := Option.ite_none_right_eq_some.mp hs
    cases hs
    exact hI.frame rfl rfl rfl
  | sensorsDone =>
    obtain ⟨ht, hs⟩ := Option.ite_none_right_eq_some.mp hs
    exact hI.sensorsDone hw ht hs
  | initSlot => exact hI.initSlot hs
  | initDone => exact hI.initDone hs
  | measure => exact hI.measure hw hs
  | sweepDone => exact hI.sweepDone hs
  | recv d =>
    rcases Boot.recv_cases hs with ⟨client, -, rfl⟩ | rfl
    · exact hI.frame rfl rfl rfl
    · exact hI.frame rfl rfl rfl
  | send i =>
    obtain ⟨client, m, -, -, rfl⟩ := Boot.send_cases hs
    exact hI.frame rfl rfl rfl

/-- **The fine-grained task keeps the batch's samples**: at any point of any run. -/
theorem samplingInv (hw : w.DriverOk) (h : (boot α 2 w).run as = some s) : SamplingInv w as s := by
  refine Lts.hist_inv (P := SamplingInv w) ?_ (fun as a s s' _ hI hs => samplingInv_step hw hI hs) h
  exact ⟨rfl, rfl⟩

theorem SamplingInv.slot (hI : SamplingInv w as s) {q : Nat} (hq : q < amountOfChannels 2) :
    (s.meter.measurements[q] = .zero ∧ sampleIndex as s.task q = 0) ∨
      s.meter.measurements[q] = slotAt w 2 sensorAddr 12 q (sampleIndex as s.task q) := by
  unfold SamplingInv at hI
  unfold sampleIndex
  cases ht : s.task with
  | notCreated =>
    rw [ht] at hI
    rw [hI.2]
    exact .inl ⟨Vector.getElem_replicate hq, rfl⟩
  | sensors =>
    rw [ht] at hI
    rw [hI.2]
    exact .inl ⟨Vector.getElem_replicate hq, rfl⟩
  | initMeasurements channel =>
    rw [ht] at hI
    obtain ⟨-, -, hinit, hrest⟩ := hI
    rcases Nat.lt_or_ge q channel.toNat with hlt | hge
    · exact .inr (hinit.slots q hq hlt)
    · exact .inl ⟨hrest q hq hge, rfl⟩
  | sweep channel =>
    rw [ht] at hI
    exact .inr (hI.2.2.slots q hq)

end Sampling

/-! ## The energies, whatever the bus and the clock do -/

section Energies

variable {α : Type} {n : Nat}

/-- No energy is lower than it was. -/
def Meter.EnergyLe (s s' : Meter n) : Prop :=
  ∀ q (h : q < amountOfChannels n),
    (s.measurements[q]).energyConsumption ≤ (s'.measurements[q]).energyConsumption

theorem measureChannel_energyLe {w : World} {channel : UInt8} {s s' : Meter n}
    (h : measureChannel w channel s = .ok s') : s.EnergyLe s' := by
  obtain ⟨_, _, i, hi, _, _, shuntCurrent, _, _, -, -, rfl⟩ := measureChannel_eq_ok h
  intro q hq
  by_cases hqi : q = i
  · subst hqi
    simp only [Vector.getElem_set_self]
    refine le_add_of_nonneg_right (mul_nonneg (abs_nonneg _) ?_)
    positivity
  · simp only [Vector.getElem_set_ne hi hq (Ne.symm hqi)]
    exact le_rfl

def EnergyInv (s : Boot α n) : Prop :=
  (∀ channel, s.task ≠ .sweep channel) →
    ∀ q (h : q < amountOfChannels n), (s.meter.measurements[q]).energyConsumption = 0

/-- **What a step does to the component's statics**, and where the measurement task is then. -/
theorem Boot.meter_cases {w : World} {s s' : Boot α n} {a : BootEvent α}
    (hs : (boot α n w).step s a = some s') :
    (s'.meter = s.meter ∧
      ∀ channel, s.task = .sweep channel → ∃ channel', s'.task = .sweep channel') ∨
      (s.task = .sensors ∧ setUpSensors w s.meter = .ok s'.meter) ∨
      (∃ channel, s.task = .initMeasurements channel ∧
        Powermeter.initSlot w channel s.meter = .ok s'.meter) ∨
      ∃ channel, s'.task = .sweep (channel + 1) ∧
        measureChannel w channel s.meter = .ok s'.meter := by
  obtain ⟨-, hs⟩ := Option.ite_none_left_eq_some.mp hs
  cases a with
  | createMeasurementTask =>
    obtain ⟨ht, hs⟩ := Option.ite_none_right_eq_some.mp hs
    cases hs
    exact .inl ⟨rfl, fun channel hch => by rw [ht] at hch; cases hch⟩
  | createServerTask =>
    obtain ⟨-, hs⟩ := Option.ite_none_left_eq_some.mp hs
    cases hs
    exact .inl ⟨rfl, fun channel hch => ⟨channel, hch⟩⟩
  | sensorStep =>
    obtain ⟨-, hs⟩ := Option.ite_none_right_eq_some.mp hs
    cases hs
    exact .inl ⟨rfl, fun channel hch => ⟨channel, hch⟩⟩
  | sensorsDone =>
    obtain ⟨ht, hs⟩ := Option.ite_none_right_eq_some.mp hs
    obtain ⟨meter, hm, rfl⟩ := Boot.meterStep_cases hs
    exact .inr (.inl ⟨ht, hm⟩)
  | initSlot =>
    obtain ⟨channel, meter, ht, hm, rfl⟩ := Boot.initSlot_cases hs
    exact .inr (.inr (.inl ⟨channel, ht, hm⟩))
  | initDone =>
    obtain ⟨channel, -, -, rfl⟩ := Boot.initDone_cases hs
    exact .inl ⟨rfl, fun _ _ => ⟨1, rfl⟩⟩
  | measure =>
    obtain ⟨channel, meter, -, hm, rfl⟩ := Boot.measure_cases hs
    exact .inr (.inr (.inr ⟨channel, rfl, hm⟩))
  | sweepDone =>
    obtain ⟨channel, -, rfl⟩ := Boot.sweepDone_cases hs
    exact .inl ⟨rfl, fun _ _ => ⟨1, rfl⟩⟩
  | recv d =>
    rcases Boot.recv_cases hs with ⟨client, -, rfl⟩ | rfl
    · exact .inl ⟨rfl, fun channel hch => ⟨channel, hch⟩⟩
    · exact .inl ⟨rfl, fun channel hch => ⟨channel, hch⟩⟩
  | send i =>
    obtain ⟨client, m, -, -, rfl⟩ := Boot.send_cases hs
    exact .inl ⟨rfl, fun channel hch => ⟨channel, hch⟩⟩

theorem energy_step {w : World} {s s' : Boot α n} {a : BootEvent α} (hI : EnergyInv s)
    (hs : (boot α n w).step s a = some s') : EnergyInv s' ∧ s.meter.EnergyLe s'.meter := by
  rcases Boot.meter_cases hs with ⟨hmeter, htask⟩ | ⟨ht, hm⟩ | ⟨channel, ht, hm⟩ | ⟨channel, ht, hm⟩
  · unfold EnergyInv
    rw [hmeter]
    refine ⟨fun hno => hI fun channel hch => ?_, fun _ _ => le_rfl⟩
    obtain ⟨channel', hch'⟩ := htask channel hch
    exact hno channel' hch'
  · have hzero := hI (by simp [ht])
    simp only [EnergyInv, Meter.EnergyLe, setUpSensors_measurements hm]
    exact ⟨fun _ => hzero, fun _ _ => le_rfl⟩
  · have hzero := hI (by simp [ht])
    obtain ⟨hi, hmeter⟩ := initSlot_eq_ok hm
    have hset : ∀ q (h : q < amountOfChannels n),
        (s'.meter.measurements[q]).energyConsumption = 0 := by
      intro q hq
      simp only [hmeter]
      by_cases hqi : q = channel.toNat
      · subst hqi
        rw [Vector.getElem_set_self]
        rfl
      · rw [Vector.getElem_set_ne hi hq (Ne.symm hqi)]
        exact hzero q hq
    refine ⟨fun _ => hset, fun q hq => ?_⟩
    rw [hzero q hq]
    exact (hset q hq).ge
  · exact ⟨fun h => absurd ht (h _), measureChannel_energyLe hm⟩

theorem energyInv {w : World} {as : List (BootEvent α)} {s : Boot α n}
    (h : (boot α n w).run as = some s) : EnergyInv s := by
  refine Lts.inv (P := EnergyInv) ?_ (fun _ _ _ hI hs => (energy_step hI hs).1) h
  intro _ q hq
  simp only [boot, Meter.start, Vector.getElem_replicate]
  rfl

end Energies

/-! ## All the tasks -/

/-- The ESP32 between two steps of a task. `ended` are the `serve_client` tasks that have
deleted themselves; `sent` is what was sent so far, with the `client` of the task that sent it;
`aborted` says that an assertion of the generated code has failed. -/
structure Esp (ν : Type) (n : Nat) where
  boot : Boot Empty n
  server : Server ν
  ended : List Nat
  sent : List (ClientInfo ν × PowerMeasurement)
  aborted : Bool

inductive EspEvent (ν : Type) where
  /-- A step of `app_main` or of the measurement task. -/
  | boot (a : BootEvent Empty)
  | recv (d : Datagram ν)
  /-- Task `i` copies `*task_param`. -/
  | start (i : Nat)
  /-- A round of task `i`, and how its `sendto` ends. -/
  | send (i : Nat) (result : SendResult)

variable {ν : Type} {n : Nat}

namespace Esp

/-- Power-on. -/
def powerOn (ν : Type) (n : Nat) : Esp ν n :=
  ⟨⟨Meter.start n, .notCreated, false, [], [], false⟩,
    ⟨List.replicate receiveBufferSize 0, none, [], []⟩, [], [], false⟩

/-- The client that task `i` serves, and the measurement its next round gets for it. -/
def round (s : Esp ν n) (i : Nat) : Option (ClientInfo ν × PowerMeasurement) :=
  match s.server.tasks[i]? with
  | some (some client) =>
    if i ∈ s.ended then none
    else
      match getMeasurement s.boot.meter (toUInt8 client.requestedChannel) with
      | .ok m => some (client, m)
      | .error _ => none
  | _ => none

/-- A round of `serve_client`. Only an error other than the absent WiFi ends the task. -/
def send (s : Esp ν n) (i : Nat) (result : SendResult) : Option (Esp ν n) :=
  match s.round i with
  | none => none
  | some (client, m) =>
    if m.Packable then
      match result with
      | .sent => some { s with sent := s.sent ++ [(client, m)] }
      | .wifiAbsent => some s
      | .error => some { s with ended := s.ended ++ [i] }
    else some { s with aborted := true }

def step (w : World) (s : Esp ν n) (a : EspEvent ν) : Option (Esp ν n) :=
  if s.aborted then none else
  match a with
  | .boot a => (s.boot.step w a).map fun boot => { s with boot := boot }
  | .recv d =>
    if s.boot.serverCreated then
      some { s with server := s.server.recv (getAmountOfChannels n) d }
    else none
  | .start i => (s.server.start i).map fun server => { s with server := server }
  | .send i result => s.send i result

end Esp

def esp (ν : Type) (n : Nat) (w : World) : Lts (Esp ν n) (EspEvent ν) where
  init := Esp.powerOn ν n
  step := Esp.step w

/-- The steps of `app_main` and of the measurement task. -/
def bootEvents (as : List (EspEvent ν)) : List (BootEvent Empty) :=
  as.filterMap fun
    | .boot a => some a
    | _ => none

/-- The clients of a server: the one in the static slot and those the tasks have copied. -/
def Server.All (P : ClientInfo ν → Prop) (s : Server ν) : Prop :=
  (∀ client, s.newClient = some client → P client) ∧ ∀ client, some client ∈ s.tasks → P client

section Steps

variable {w : World} {s s' : Esp ν n} {P : ClientInfo ν → Prop}

theorem Server.All.recv {s : Server ν} {availableChannels : UInt8} {d : Datagram ν}
    (h : s.rxBuffer.length = receiveBufferSize) (hall : s.All P)
    (hd : ∀ client, requestOf availableChannels d = some client → P client) :
    (s.recv availableChannels d).All P := by
  obtain ⟨rxBuffer, -, ⟨-, he⟩ | ⟨client, hr, he⟩⟩ := recv_cases availableChannels h d
  · rw [he]
    exact hall
  · rw [he]
    refine ⟨fun x hx => ?_, fun x hx => ?_⟩
    · cases hx
      exact hd _ hr
    · exact hall.2 x (by simpa using hx)

theorem Server.All.start {s s' : Server ν} {i : Nat} (hall : s.All P)
    (h : s.start i = some s') : s'.All P := by
  obtain ⟨-, rfl⟩ := start_cases h
  refine ⟨hall.1, fun x hx => ?_⟩
  rcases List.mem_or_eq_of_mem_set hx with hold | hnew
  · exact hall.2 x hold
  · exact hall.1 x hnew.symm

theorem Esp.round_eq {i : Nat} {client : ClientInfo ν} {m : PowerMeasurement}
    (h : s.round i = some (client, m)) :
    some client ∈ s.server.tasks ∧
      getMeasurement s.boot.meter (toUInt8 client.requestedChannel) = .ok m := by
  unfold Esp.round at h
  split at h
  · next x hx =>
    obtain ⟨-, h⟩ := Option.ite_none_left_eq_some.mp h
    split at h
    · next m' hm' => cases h; exact ⟨List.mem_of_getElem? hx, hm'⟩
    · cases h
  · cases h

/-- A round of a task adds at most one measurement to what was sent. -/
theorem Esp.send_cases {i : Nat} {result : SendResult} (h : s.send i result = some s') :
    s'.boot = s.boot ∧ s'.server = s.server ∧ ∃ client m, s.round i = some (client, m) ∧
      (s'.sent = s.sent ∨
        result = .sent ∧ m.Packable ∧ s'.sent = s.sent ++ [(client, m)]) := by
  unfold Esp.send at h
  split at h
  · cases h
  · next client m hr =>
    split at h
    · next hp =>
      cases result <;> cases h
      · exact ⟨rfl, rfl, client, m, hr, .inr ⟨rfl, hp, rfl⟩⟩
      · exact ⟨rfl, rfl, client, m, hr, .inl rfl⟩
      · exact ⟨rfl, rfl, client, m, hr, .inl rfl⟩
    · cases h
      exact ⟨rfl, rfl, client, m, hr, .inl rfl⟩

theorem bootEvents_snoc (as : List (EspEvent ν)) (a : EspEvent ν) :
    bootEvents (as ++ [a]) = bootEvents as ++ bootEvents [a] :=
  List.filterMap_append

/-- **The measurement task runs as `boot`**, whatever the server and the clients do. -/
theorem boot_run {as : List (EspEvent ν)} (h : (esp ν n w).run as = some s) :
    (boot Empty n w).run (bootEvents as) = some s.boot := by
  refine Lts.hist_inv
    (P := fun as (s : Esp ν n) => (boot Empty n w).run (bootEvents as) = some s.boot) rfl ?_ h
  intro as a s s' _ ih hs
  obtain ⟨-, hs⟩ := Option.ite_none_left_eq_some.mp hs
  rw [bootEvents_snoc]
  cases a with
  | boot a =>
    obtain ⟨boot', hb, rfl⟩ := Option.map_eq_some_iff.mp hs
    exact Lts.run_snoc.mpr ⟨s.boot, ih, hb⟩
  | recv d =>
    obtain ⟨-, hs⟩ := Option.ite_none_right_eq_some.mp hs
    cases hs
    rw [show bootEvents [EspEvent.recv d] = [] from rfl, List.append_nil]
    exact ih
  | start i =>
    obtain ⟨server, -, rfl⟩ := Option.map_eq_some_iff.mp hs
    rw [show bootEvents [(EspEvent.start i : EspEvent ν)] = [] from rfl, List.append_nil]
    exact ih
  | send i result =>
    rw [show bootEvents [(EspEvent.send i result : EspEvent ν)] = [] from rfl, List.append_nil,
      (Esp.send_cases hs).1]
    exact ih

theorem ended_lt {as : List (EspEvent ν)} (h : (esp ν n w).run as = some s) :
    s.server.rxBuffer.length = receiveBufferSize ∧ ∀ i ∈ s.ended, i < s.server.tasks.length := by
  refine Lts.inv (P := fun (s : Esp ν n) => s.server.rxBuffer.length = receiveBufferSize ∧
    ∀ i ∈ s.ended, i < s.server.tasks.length) (by simp [esp, Esp.powerOn]) ?_ h
  rintro s a s' ⟨hbuffer, hended⟩ hs
  obtain ⟨-, hs⟩ := Option.ite_none_left_eq_some.mp hs
  cases a with
  | boot a => obtain ⟨_, -, rfl⟩ := Option.map_eq_some_iff.mp hs; exact ⟨hbuffer, hended⟩
  | recv d =>
    obtain ⟨-, hs⟩ := Option.ite_none_right_eq_some.mp hs
    cases hs
    obtain ⟨rxBuffer, hl, ⟨-, he⟩ | ⟨client, -, he⟩⟩ :=
      recv_cases (getAmountOfChannels n) hbuffer d
    · rw [he]
      exact ⟨hl, hended⟩
    · rw [he]
      refine ⟨hl, fun i hi => ?_⟩
      rw [List.length_append]
      exact Nat.lt_add_right _ (hended i hi)
  | start i =>
    obtain ⟨server, hst, rfl⟩ := Option.map_eq_some_iff.mp hs
    obtain ⟨-, rfl⟩ := start_cases hst
    refine ⟨hbuffer, fun i hi => ?_⟩
    rw [List.length_set]
    exact hended i hi
  | send i result =>
    simp only [Esp.send] at hs
    split at hs
    · cases hs
    · next client m hr =>
      have hi : i < s.server.tasks.length := by
        unfold Esp.round at hr
        split at hr
        · next htask => exact (List.getElem?_eq_some_iff.mp htask).1
        · cases hr
      split at hs
      · cases result <;> cases hs
        · exact ⟨hbuffer, hended⟩
        · exact ⟨hbuffer, hended⟩
        · exact ⟨hbuffer, List.forall_mem_append.mpr ⟨hended, by simpa using hi⟩⟩
      · cases hs
        exact ⟨hbuffer, hended⟩

theorem esp_serves (hbuffer : s.server.rxBuffer.length = receiveBufferSize)
    (hended : ∀ i ∈ s.ended, i < s.server.tasks.length) (haborted : s.aborted = false)
    (hserver : s.boot.serverCreated = true) {d : Datagram ν} {client : ClientInfo ν}
    (hr : requestOf (getAmountOfChannels n) d = some client) {m : PowerMeasurement}
    (hm : getMeasurement s.boot.meter (toUInt8 client.requestedChannel) = .ok m)
    (hp : m.Packable) :
    ∃ s₁ s₂ s₃, s.step w (.recv d) = some s₁ ∧ s₁.sent = s.sent ∧
      s₁.step w (.start s.server.tasks.length) = some s₂ ∧ s₂.sent = s.sent ∧
      s₂.step w (.send s.server.tasks.length .sent) = some s₃ ∧
      s₃.sent = s.sent ++ [(client, m)] := by
  obtain ⟨rxBuffer, -, ⟨hno, -⟩ | ⟨client', hr', he⟩⟩ :=
    recv_cases (getAmountOfChannels n) hbuffer d
  · rw [hr] at hno
    cases hno
  · rw [hr, Option.some.injEq] at hr'
    subst hr'
    have hfresh : s.server.tasks.length ∉ s.ended := fun hi => (hended _ hi).ne rfl
    let server : Server ν :=
      ⟨rxBuffer, some client, s.server.accepted ++ [client], s.server.tasks ++ [none]⟩
    let started : Server ν :=
      { server with tasks := s.server.tasks ++ [some client] }
    refine ⟨{ s with server := server }, { s with server := started },
      { s with server := started, sent := s.sent ++ [(client, m)] }, ?_, rfl, ?_, rfl, ?_, rfl⟩
    · simp [Esp.step, haborted, hserver, he, server]
    · simp [Esp.step, haborted, Server.start, server, started]
    · simp [Esp.step, haborted, Esp.send, Esp.round, started, hfresh, hm, hp]

end Steps

/-! ## What a client is sent -/

section Streams

variable {w : World} {s s' : Esp ν 2} {as : List (EspEvent ν)} {p : ClientInfo ν → Bool}

end Streams

end Powermeter
