import Powermeter.Lib.Lts
import Powermeter.Server.Energy
import Powermeter.Server.Request

/-!
# The tasks of `app_main`

`app_main` creates the measurement task and then the server task, and nothing makes the
server wait for the measurement task. The machine below plays the steps of the measurement
task (sensor initialisation, the slots of `init_measurements`, the channels of the sweeps),
datagrams for the server and rounds of the `serve_client` tasks in any order. A failed
`ESP_ERROR_CHECK` reboots, which starts another run.
-/

namespace Powermeter

inductive MeasurementTask where
  | notCreated
  | sensors
  | initMeasurements (channel : UInt8)
  | sweep (channel : UInt8)
  deriving DecidableEq, Repr

/-- The tasks and what they share. `packed` are the measurements handed to
`power_measurement__get_packed_size` and `power_measurement__pack`; `rebooted` says that one
of their assertions has failed. -/
structure Boot (α : Type) (n : Nat) where
  meter : Meter n
  task : MeasurementTask
  serverCreated : Bool
  clients : List (ClientInfo α)
  packed : List PowerMeasurement
  rebooted : Bool

inductive BootEvent (α : Type) where
  | createMeasurementTask
  | createServerTask
  /-- A step of the sensor initialisation, and its end. -/
  | sensorStep
  | sensorsDone
  | initSlot
  | initDone
  | measure
  | sweepDone
  /-- The server gets a datagram. -/
  | recv (d : Datagram α)
  /-- The task of client `i` sends a measurement. -/
  | send (i : Nat)

variable {α : Type} {n : Nat}

namespace Boot

/-- A step of the measurement task on the component's statics. -/
def meterStep (s : Boot α n) (r : Except Fault (Meter n)) (task : MeasurementTask) :
    Option (Boot α n) :=
  match r with
  | .ok meter => some { s with meter := meter, task := task }
  | .error _ => none

/-- A request that is accepted gets a `serve_client` task. -/
def recv (s : Boot α n) (d : Datagram α) : Option (Boot α n) :=
  if s.serverCreated then
    match requestOf (getAmountOfChannels n) d with
    | some client => some { s with clients := s.clients ++ [client] }
    | none => some s
  else none

/-- A round of `serve_client` up to its `sendto`. -/
def send (s : Boot α n) (i : Nat) : Option (Boot α n) :=
  match s.clients[i]? with
  | none => none
  | some client =>
    match getMeasurement s.meter (toUInt8 client.requestedChannel) with
    | .error _ => none
    | .ok m => some { s with packed := s.packed ++ [m], rebooted := !decide m.Packable }

def initSlot (w : World) (s : Boot α n) : Option (Boot α n) :=
  match s.task with
  | .initMeasurements channel =>
    if channel.toNat < amountOfChannels n then
      s.meterStep (Powermeter.initSlot w channel s.meter) (.initMeasurements (channel + 1))
    else none
  | _ => none

def initDone (s : Boot α n) : Option (Boot α n) :=
  match s.task with
  | .initMeasurements channel =>
    if channel.toNat < amountOfChannels n then none else some { s with task := .sweep 1 }
  | _ => none

def measure (w : World) (s : Boot α n) : Option (Boot α n) :=
  match s.task with
  | .sweep channel =>
    if channel.toNat ≤ amountOfChannels n then
      s.meterStep (measureChannel w channel s.meter) (.sweep (channel + 1))
    else none
  | _ => none

def sweepDone (s : Boot α n) : Option (Boot α n) :=
  match s.task with
  | .sweep channel =>
    if channel.toNat ≤ amountOfChannels n then none else some { s with task := .sweep 1 }
  | _ => none

def step (w : World) (s : Boot α n) (a : BootEvent α) : Option (Boot α n) :=
  if s.rebooted then none else
  match a with
  | .createMeasurementTask =>
    if s.task = .notCreated then some { s with task := .sensors } else none
  | .createServerTask =>
    if s.task = .notCreated then none else some { s with serverCreated := true }
  | .sensorStep => if s.task = .sensors then some s else none
  | .sensorsDone =>
    if s.task = .sensors then s.meterStep (setUpSensors w s.meter) (.initMeasurements 0) else none
  | .initSlot => s.initSlot w
  | .initDone => s.initDone
  | .measure => s.measure w
  | .sweepDone => s.sweepDone
  | .recv d => s.recv d
  | .send i => s.send i

/-- No assertion of the generated code has failed. -/
def AllPackable (s : Boot α n) : Prop := ∀ m ∈ s.packed, m.Packable

end Boot

/-- The powermeter from `app_main` on. -/
def boot (α : Type) (n : Nat) (w : World) : Lts (Boot α n) (BootEvent α) where
  init := ⟨Meter.start n, .notCreated, false, [], [], false⟩
  step := Boot.step w

def slotsWritten (as : List (BootEvent α)) : Nat :=
  as.countP fun
    | .initSlot => true
    | _ => false

/-- Before a client of channel `c` is sent to, `init_measurements` has written `c` slots. -/
def SendsAfterInit (pre : List (BootEvent α)) (s : Boot α n) (a : BootEvent α) : Prop :=
  ∀ i client, a = .send i → s.clients[i]? = some client →
    client.requestedChannel ≤ slotsWritten pre

/-! ## What the steps do to the array -/

section Slots

variable {w : World} {s s' : Meter n}

theorem setUpSensors_measurements (h : setUpSensors w s = .ok s') :
    s'.measurements = s.measurements := by
  obtain ⟨_, _, _, _, _, -, -, _, rfl⟩ := setUpSensors_eq_ok h
  rfl

theorem initSlot_measurements {channel : UInt8} (h : initSlot w channel s = .ok s') :
    ∃ m : PowerMeasurement, m.Packable ∧ ∃ hi : channel.toNat < amountOfChannels n,
      s'.measurements = s.measurements.set channel.toNat m hi := by
  obtain ⟨hi, rfl⟩ := initSlot_eq_ok h
  refine ⟨_, ?_, hi, rfl⟩
  rfl

theorem measureChannel_measurements {channel : UInt8} (h : measureChannel w channel s = .ok s') :
    ∃ m : PowerMeasurement, m.Packable ∧ ∃ i, ∃ hi : i < amountOfChannels n,
      s'.measurements = s.measurements.set i m hi := by
  obtain ⟨_, _, i, hi, _, _, _, _, _, -, -, rfl⟩ := measureChannel_eq_ok h
  refine ⟨_, ?_, i, hi, rfl⟩
  rfl

end Slots

/-! ## Which slots are initialised -/

/-- The slots that hold a message are the `k` slots `init_measurements` has written. -/
structure BootInv (k : Nat) (s : Boot α n) : Prop where
  slots : ∀ i (h : i < amountOfChannels n), i < 256 →
    ((s.meter.measurements[i]).Packable ↔ i < k)
  task : match s.task with
    | .notCreated | .sensors => k = 0
    | .initMeasurements channel => channel.toNat = k % 256
    | .sweep _ => amountOfChannels n ≤ k
  clients : ∀ client ∈ s.clients, 1 ≤ client.requestedChannel ∧
    client.requestedChannel ≤ (getAmountOfChannels n).toNat

namespace Boot

variable {w : World} {s s' : Boot α n}

theorem meterStep_cases {r : Except Fault (Meter n)} {task : MeasurementTask}
    (h : s.meterStep r task = some s') :
    ∃ meter, r = .ok meter ∧ s' = { s with meter := meter, task := task } := by
  unfold meterStep at h
  split at h
  · next meter => cases h; exact ⟨meter, rfl, rfl⟩
  · cases h

theorem initSlot_cases (h : s.initSlot w = some s') :
    ∃ channel meter, s.task = .initMeasurements channel ∧
      Powermeter.initSlot w channel s.meter = .ok meter ∧
      s' = { s with meter := meter, task := .initMeasurements (channel + 1) } := by
  unfold initSlot at h
  split at h
  · next channel ht =>
    obtain ⟨-, h⟩ := Option.ite_none_right_eq_some.mp h
    obtain ⟨meter, hm, rfl⟩ := meterStep_cases h
    exact ⟨channel, meter, ht, hm, rfl⟩
  · cases h

theorem initDone_cases (h : s.initDone = some s') :
    ∃ channel, s.task = .initMeasurements channel ∧ amountOfChannels n ≤ channel.toNat ∧
      s' = { s with task := .sweep 1 } := by
  unfold initDone at h
  split at h
  · next channel ht =>
    obtain ⟨hle, h⟩ := Option.ite_none_left_eq_some.mp h
    cases h
    exact ⟨channel, ht, Nat.le_of_not_lt hle, rfl⟩
  · cases h

theorem measure_cases (h : s.measure w = some s') :
    ∃ channel meter, s.task = .sweep channel ∧ measureChannel w channel s.meter = .ok meter ∧
      s' = { s with meter := meter, task := .sweep (channel + 1) } := by
  unfold measure at h
  split at h
  · next channel ht =>
    obtain ⟨-, h⟩ := Option.ite_none_right_eq_some.mp h
    obtain ⟨meter, hm, rfl⟩ := meterStep_cases h
    exact ⟨channel, meter, ht, hm, rfl⟩
  · cases h

theorem sweepDone_cases (h : s.sweepDone = some s') :
    ∃ channel, s.task = .sweep channel ∧ s' = { s with task := .sweep 1 } := by
  unfold sweepDone at h
  split at h
  · next channel ht =>
    obtain ⟨-, h⟩ := Option.ite_none_left_eq_some.mp h
    cases h
    exact ⟨channel, ht, rfl⟩
  · cases h

theorem recv_cases {d : Datagram α} (h : s.recv d = some s') :
    (∃ client, requestOf (getAmountOfChannels n) d = some client ∧
      s' = { s with clients := s.clients ++ [client] }) ∨ s' = s := by
  unfold recv at h
  split at h
  · split at h
    · next client hr => cases h; exact .inl ⟨client, hr, rfl⟩
    · cases h; exact .inr rfl
  · cases h

theorem send_cases {i : Nat} (h : s.send i = some s') :
    ∃ client m, s.clients[i]? = some client ∧
      getMeasurement s.meter (toUInt8 client.requestedChannel) = .ok m ∧
      s' = { s with packed := s.packed ++ [m], rebooted := !decide m.Packable } := by
  unfold send at h
  split at h
  · cases h
  · next client hc =>
    split at h
    · cases h
    · next m hm => cases h; exact ⟨client, m, hc, hm, rfl⟩

end Boot

section Steps

variable {w : World} {s s' : Boot α n} {k : Nat}

theorem slotsWritten_snoc (as : List (BootEvent α)) (a : BootEvent α) :
    slotsWritten (as ++ [a]) = slotsWritten as + slotsWritten [a] :=
  List.countP_append

theorem slots_set {v : Vector PowerMeasurement (amountOfChannels n)} {m : PowerMeasurement}
    {i k' : Nat} (hi : i < amountOfChannels n) (hm : m.Packable)
    (hv : ∀ j (h : j < amountOfChannels n), j < 256 → ((v[j]).Packable ↔ j < k))
    (hk : ∀ j < 256, j < k' ↔ j < k ∨ j = i) :
    ∀ j (h : j < amountOfChannels n), j < 256 → (((v.set i m hi)[j]).Packable ↔ j < k') := by
  intro j hj h256
  rw [hk j h256]
  by_cases hji : j = i
  · subst hji
    rw [Vector.getElem_set_self]
    exact iff_of_true hm (.inr rfl)
  · rw [Vector.getElem_set_ne hi hj (Ne.symm hji), hv j hj h256]
    simp [hji]

theorem bootInv_step {a : BootEvent α} (hI : BootInv k s) (hs : (boot α n w).step s a = some s') :
    BootInv (k + slotsWritten [a]) s' := by
  obtain ⟨-, hs⟩ := Option.ite_none_left_eq_some.mp hs
  obtain ⟨hslots, htask, hclients⟩ := hI
  cases a with
  | createMeasurementTask =>
    obtain ⟨ht, hs⟩ := Option.ite_none_right_eq_some.mp hs
    cases hs
    rw [ht] at htask
    exact ⟨hslots, htask, hclients⟩
  | createServerTask =>
    obtain ⟨-, hs⟩ := Option.ite_none_left_eq_some.mp hs
    cases hs
    exact ⟨hslots, htask, hclients⟩
  | sensorStep =>
    obtain ⟨-, hs⟩ := Option.ite_none_right_eq_some.mp hs
    cases hs
    exact ⟨hslots, htask, hclients⟩
  | sensorsDone =>
    obtain ⟨ht, hs⟩ := Option.ite_none_right_eq_some.mp hs
    obtain ⟨meter, hm, rfl⟩ := Boot.meterStep_cases hs
    rw [ht] at htask
    have hk : k = 0 := htask
    subst hk
    refine ⟨?_, rfl, hclients⟩
    simp only [setUpSensors_measurements hm]
    exact hslots
  | initSlot =>
    obtain ⟨channel, meter, ht, hm, rfl⟩ := Boot.initSlot_cases hs
    obtain ⟨m, hp, hi, hset⟩ := initSlot_measurements hm
    rw [ht] at htask
    have hch : channel.toNat = k % 256 := htask
    refine ⟨?_, ?_, hclients⟩
    · simp only [hset]
      refine slots_set hi hp hslots fun j hj => ?_
      show j < k + 1 ↔ _
      omega
    · show (channel + 1).toNat = (k + 1) % 256
      rw [UInt8.toNat_add, hch]
      show (k % 256 + 1) % 256 = _
      omega
  | initDone =>
    obtain ⟨channel, ht, hle, rfl⟩ := Boot.initDone_cases hs
    rw [ht] at htask
    have hch : channel.toNat = k % 256 := htask
    exact ⟨hslots, hle.trans (hch.trans_le (Nat.mod_le _ _)), hclients⟩
  | measure =>
    obtain ⟨channel, meter, ht, hm, rfl⟩ := Boot.measure_cases hs
    obtain ⟨m, hp, i, hi, hset⟩ := measureChannel_measurements hm
    rw [ht] at htask
    have hle : amountOfChannels n ≤ k := htask
    refine ⟨?_, hle, hclients⟩
    simp only [hset]
    refine slots_set hi hp hslots fun j _ => ?_
    show j < k ↔ _
    omega
  | sweepDone =>
    obtain ⟨channel, ht, rfl⟩ := Boot.sweepDone_cases hs
    rw [ht] at htask
    exact ⟨hslots, htask, hclients⟩
  | recv d =>
    rcases Boot.recv_cases hs with ⟨client, hr, rfl⟩ | rfl
    · refine ⟨hslots, htask, fun c hc => ?_⟩
      rcases List.mem_append.mp hc with hc | hc
      · exact hclients c hc
      · rw [List.mem_singleton] at hc
        subst hc
        exact requestOf_range hr
    · exact ⟨hslots, htask, hclients⟩
  | send i =>
    obtain ⟨client, m, -, -, rfl⟩ := Boot.send_cases hs
    exact ⟨hslots, htask, hclients⟩

theorem bootInv {as : List (BootEvent α)} (h : (boot α n w).run as = some s) :
    BootInv (slotsWritten as) s := by
  refine Lts.hist_inv (P := fun as s => BootInv (slotsWritten as) s) ?_ ?_ h
  · refine ⟨fun i hi _ => ?_, rfl, nofun⟩
    simp [boot, Meter.start, PowerMeasurement.Packable, PowerMeasurement.zero, slotsWritten]
  · intro as a s s' _ hI hs
    rw [slotsWritten_snoc]
    exact bootInv_step hI hs

/-- What a client is sent is a message exactly when its slot has been written. -/
theorem getMeasurement_packable (hI : BootInv k s) {client : ClientInfo α} {m : PowerMeasurement}
    (hc : client ∈ s.clients)
    (hm : getMeasurement s.meter (toUInt8 client.requestedChannel) = .ok m) :
    m.Packable ↔ client.requestedChannel ≤ k := by
  obtain ⟨h1, h2⟩ := hI.clients client hc
  obtain ⟨-, hi, hget⟩ := load_eq_ok hm
  have h255 := (getAmountOfChannels n).toNat_lt
  have hindex : ((toUInt8 client.requestedChannel).toNat - 1 : Int).toNat =
      client.requestedChannel.toNat - 1 := by
    obtain ⟨c, hcast⟩ := Int.eq_ofNat_of_zero_le (show 0 ≤ client.requestedChannel by omega)
    rw [hcast, toNat_toUInt8, Nat.mod_eq_of_lt (by omega)]
    omega
  have hs := hI.slots _ hi (by omega)
  rw [hget, hindex] at hs
  rw [hs]
  omega

theorem packed_step {a : BootEvent α} (hs : (boot α n w).step s a = some s') :
    (∃ i, a = .send i) ∨ s'.packed = s.packed ∧ ∀ i, a ≠ .send i := by
  obtain ⟨-, hs⟩ := Option.ite_none_left_eq_some.mp hs
  cases a with
  | createMeasurementTask =>
    obtain ⟨-, hs⟩ := Option.ite_none_right_eq_some.mp hs
    cases hs; exact .inr ⟨rfl, nofun⟩
  | createServerTask =>
    obtain ⟨-, hs⟩ := Option.ite_none_left_eq_some.mp hs
    cases hs; exact .inr ⟨rfl, nofun⟩
  | sensorStep =>
    obtain ⟨-, hs⟩ := Option.ite_none_right_eq_some.mp hs
    cases hs; exact .inr ⟨rfl, nofun⟩
  | sensorsDone =>
    obtain ⟨-, hs⟩ := Option.ite_none_right_eq_some.mp hs
    obtain ⟨_, -, rfl⟩ := Boot.meterStep_cases hs
    exact .inr ⟨rfl, nofun⟩
  | initSlot => obtain ⟨_, _, -, -, rfl⟩ := Boot.initSlot_cases hs; exact .inr ⟨rfl, nofun⟩
  | initDone => obtain ⟨_, -, -, rfl⟩ := Boot.initDone_cases hs; exact .inr ⟨rfl, nofun⟩
  | measure => obtain ⟨_, _, -, -, rfl⟩ := Boot.measure_cases hs; exact .inr ⟨rfl, nofun⟩
  | sweepDone => obtain ⟨_, -, rfl⟩ := Boot.sweepDone_cases hs; exact .inr ⟨rfl, nofun⟩
  | recv d =>
    rcases Boot.recv_cases hs with ⟨_, -, rfl⟩ | rfl
    · exact .inr ⟨rfl, nofun⟩
    · exact .inr ⟨rfl, nofun⟩
  | send i => exact .inl ⟨i, rfl⟩

end Steps

/-! ## Runs -/

section Runs

variable {w : World} {as : List (BootEvent α)} {s : Boot α n}

theorem allPackable_step {a : BootEvent α} {s' : Boot α n} (hI : BootInv (slotsWritten as) s)
    (hs : (boot α n w).step s a = some s') :
    s'.AllPackable ↔ s.AllPackable ∧ SendsAfterInit as s a := by
  rcases packed_step hs with ⟨i, rfl⟩ | ⟨hp, ha⟩
  · obtain ⟨-, hs⟩ := Option.ite_none_left_eq_some.mp hs
    obtain ⟨client, m, hc, hm, rfl⟩ := Boot.send_cases hs
    have hiff := getMeasurement_packable hI (List.mem_of_getElem? hc) hm
    have hsends : SendsAfterInit as s (.send i) ↔ m.Packable := by
      rw [hiff]
      constructor
      · exact fun h => h i client rfl hc
      · rintro h _ x ⟨⟩ hx
        rw [hc] at hx
        cases hx
        exact h
    rw [hsends]
    simp [Boot.AllPackable, or_imp, forall_and]
  · have hsends : SendsAfterInit as s a := fun i _ h _ => absurd h (ha i)
    simp [Boot.AllPackable, hp, hsends]

theorem allPackable_run (h : (boot α n w).run as = some s) :
    s.AllPackable ↔ (boot α n w).EachStep SendsAfterInit as :=
  Lts.iff_eachStep (P := Boot.AllPackable) (by simp [boot, Boot.AllPackable])
    (fun _ _ _ _ hrun hs => allPackable_step (bootInv hrun) hs) h

/-- **The assertions hold exactly when no client is served before its slot is written**: in a run
from `app_main` on, every measurement handed to the generated code has the descriptor it asserts
if and only if each measurement for channel `c` is sent after `init_measurements` has written `c`
slots. -/
theorem startup_iff (h : (boot α n w).run as = some s) :
    (boot α n w).Throughout Boot.AllPackable as ↔ (boot α n w).EachStep SendsAfterInit as :=
  Lts.throughout_iff_eachStep allPackable_run h

end Runs

def firstSlot : List (BootEvent Unit) :=
  [.createMeasurementTask, .createServerTask, .sensorStep, .sensorsDone, .recv ⟨[49], (), 16⟩,
    .initSlot]

/-- A client of channel 1 is served once `init_measurements` has written the first slot. -/
theorem startup_served :
    (boot Unit 2 steadyWorld).Throughout Boot.AllPackable (firstSlot ++ [.send 0]) := by
  have hrun : ((boot Unit 2 steadyWorld).run (firstSlot ++ [.send 0])).isSome := by
    decide +kernel
  have hclients : ((boot Unit 2 steadyWorld).run firstSlot).map (·.clients) =
      some [⟨1, (), 16⟩] := by
    decide +kernel
  obtain ⟨s, hs⟩ := Option.isSome_iff_exists.mp hrun
  refine (startup_iff hs).mpr (Lts.eachStep_snoc.mpr ⟨?_, ?_⟩)
  · rintro pre a post he s - i client rfl
    exact absurd (he ▸ List.mem_append_right pre List.mem_cons_self) (by simp [firstSlot])
  · rintro s hs i client ⟨⟩ hc
    rw [hs, Option.map_some, Option.some.injEq] at hclients
    rw [hclients, List.getElem?_cons_zero, Option.some.injEq] at hc
    subst hc
    decide

/-- A client that subscribes during the sensor initialisation is sent the zeroed slot. -/
theorem startup_asserts :
    ¬ (boot Unit 2 steadyWorld).Throughout Boot.AllPackable
      [.createMeasurementTask, .createServerTask, .recv ⟨[49], (), 16⟩, .send 0] := by
  intro hall
  have hlast := hall.last (s := ⟨Meter.start 2, .sensors, true, [⟨1, (), 16⟩], [.zero], true⟩) rfl
  exact absurd (hlast .zero (by simp)) (by decide)

end Powermeter
