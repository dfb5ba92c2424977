import Powermeter.Lib.ByteLoop
import Powermeter.Message
import Powermeter.Server.Ina3221

/-!
# The power measurement component

`power_measurement.c`: the measurement array, its initialisation, one measurement
and the sweep over all channels. `n` is `AMOUNT_OF_SENSORS`, so the sizes of the two
arrays and the loop bounds are those of the configuration. A failed
`ESP_ERROR_CHECK` and an access outside an array end the run with a `Fault`; a loop
over the 8-bit `channel` takes fuel and is `none` when it has not ended.
-/

namespace Powermeter

def channelsPerSensor : Nat := 3

abbrev amountOfChannels (n : Nat) : Nat := n * channelsPerSensor

inductive Fault where
  | espErrorCheck (e : EspErr)
  | outOfBounds
  deriving DecidableEq, Repr

def load {α : Type} {m : Nat} (v : Vector α m) (i : Int) : Except Fault α :=
  if 0 ≤ i then if h : i.toNat < m then .ok v[i.toNat] else .error .outOfBounds
  else .error .outOfBounds

def store {α : Type} {m : Nat} (v : Vector α m) (i : Int) (a : α) : Except Fault (Vector α m) :=
  if 0 ≤ i then if h : i.toNat < m then .ok (v.set i.toNat a h) else .error .outOfBounds
  else .error .outOfBounds

section Arrays

variable {α : Type} {m : Nat} {v : Vector α m}

theorem load_ofNat {i : Nat} (h : i < m) : load v (i : Int) = .ok v[i] := by
  unfold load
  rw [if_pos (Int.natCast_nonneg i)]
  simp [h]

theorem store_ofNat {i : Nat} (h : i < m) (a : α) : store v (i : Int) a = .ok (v.set i a h) := by
  unfold store
  rw [if_pos (Int.natCast_nonneg i)]
  simp [h]

theorem load_eq_ok {i : Int} {a : α} (h : load v i = .ok a) :
    0 ≤ i ∧ ∃ hi : i.toNat < m, v[i.toNat] = a := by
  unfold load at h
  split at h
  · next h0 =>
    split at h
    · next hi => cases h; exact ⟨h0, hi, rfl⟩
    · cases h
  · cases h

theorem store_eq_ok {i : Int} {a : α} {v' : Vector α m} (h : store v i a = .ok v') :
    0 ≤ i ∧ ∃ hi : i.toNat < m, v' = v.set i.toNat a hi := by
  unfold store at h
  split at h
  · next h0 =>
    split at h
    · next hi => cases h; exact ⟨h0, hi, rfl⟩
    · cases h
  · cases h

end Arrays

section Bind

variable {ε β γ : Type} {x : Except ε β} {f : β → Except ε γ}

theorem bind_eq_ok {c : γ} (h : x >>= f = .ok c) : ∃ b, x = .ok b ∧ f b = .ok c := by
  cases x with
  | error e => cases h
  | ok b => exact ⟨b, rfl, h⟩

theorem bind_eq_error {e : ε} (h : x >>= f = .error e) :
    x = .error e ∨ ∃ b, x = .ok b ∧ f b = .error e := by
  cases x with
  | error e' => cases h; exact .inl rfl
  | ok b => exact .inr ⟨b, rfl, h⟩

end Bind

/-- The component's statics, and how many calls of the clock and transfers were made. -/
structure Meter (n : Nat) where
  sensors : Vector Ina3221 n
  measurements : Vector PowerMeasurement (amountOfChannels n)
  ticks : Nat
  transfers : Nat

/-- `ESP_ERROR_CHECK` of a driver computation, which goes on counting transfers. -/
def espErrorCheck {α : Type} (x : Drv α) (t : Nat) : Except Fault (α × Nat) :=
  match x t with
  | .error e => .error (.espErrorCheck e)
  | .ok r => .ok r

/-- `ina3221_vs` and `ina3221_gnd` as initialised in the source. -/
def ina3221Static : Ina3221 := ⟨0, 0, fun _ => 100, ina3221DefaultConfig, 0x0002⟩

/-- An element of a static array that was never written. -/
def ina3221Zero : Ina3221 :=
  ⟨0, 0, fun _ => 0, ⟨false, false, false, 0, 0, 0, false, false, false, false⟩, 0⟩

def i2cPort : Nat := 1

def initIna3221 (w : World) (dev : Ina3221) (i2cAddr : UInt8) : Drv Ina3221 := do
  let dev ← ina3221InitDesc w dev i2cAddr i2cPort
  let dev ← ina3221SetOptions w dev true true true
  let dev ← ina3221EnableChannel w dev true true true
  let dev ← ina3221SetAverage w dev 0
  let dev ← ina3221SetBusConversionTime w dev 5
  let dev ← ina3221SetShuntConversionTime w dev 5
  ina3221SetWarningAlert w dev .channel1 200
  return dev

def getIna3221ForChannel {n : Nat} (s : Meter n) (requestedChannel : UInt8) :
    Except Fault Ina3221 :=
  let responsibleIna3221 := (requestedChannel.toNat + (channelsPerSensor - 1)) / channelsPerSensor
  load s.sensors ((UInt8.ofNat responsibleIna3221).toNat - 1 : Int)

def getChannel (requestedChannel : UInt8) : Ina3221Channel :=
  let remainder := requestedChannel.toNat % channelsPerSensor
  if remainder = 0 then .channel3 else if remainder = 2 then .channel2 else .channel1

def espTimerGetTime {n : Nat} (w : World) (s : Meter n) : UInt64 × Meter n :=
  (w.clock s.ticks, { s with ticks := s.ticks + 1 })

/-- The new measurement from the previous one, the time and the shunt current. The
timestamps are subtracted as `uint64_t`. -/
def nextMeasurement (prev : PowerMeasurement) (timestamp : UInt64) (shuntCurrent : ℚ) :
    PowerMeasurement :=
  let elapsedSeconds : ℚ := (timestamp - prev.timestamp).toNat * 1 / 1000000
  { PowerMeasurement.init with
    timestamp := timestamp
    current := |shuntCurrent|
    energyConsumption := prev.energyConsumption + |shuntCurrent| * elapsedSeconds }

def execMeasurement {n : Nat} (w : World) (channel : UInt8) (s : Meter n) :
    Except Fault (PowerMeasurement × Meter n) := do
  let sensor ← getIna3221ForChannel s channel
  let sensorChannel := getChannel channel
  let (sensor, t) ← espErrorCheck (ina3221GetStatus w sensor) s.transfers
  let ((_, shuntCurrent), t) ← espErrorCheck (ina3221GetShuntValue w sensor sensorChannel) t
  let prev ← load s.measurements (channel.toNat - 1 : Int)
  let (now, s) := espTimerGetTime w { s with transfers := t }
  return (nextMeasurement prev now shuntCurrent, s)

/-- `measurements[channel - 1] = exec_measurement(channel)`. -/
def measureChannel {n : Nat} (w : World) (channel : UInt8) (s : Meter n) :
    Except Fault (Meter n) := do
  let (m, s) ← execMeasurement w channel s
  let ms ← store s.measurements (channel.toNat - 1 : Int) m
  return { s with measurements := ms }

/-- One iteration of `init_measurements`. -/
def initSlot {n : Nat} (w : World) (channel : UInt8) (s : Meter n) : Except Fault (Meter n) := do
  let (now, s) := espTimerGetTime w s
  let ms ← store s.measurements channel.toNat { PowerMeasurement.init with timestamp := now }
  return { s with measurements := ms }

def initMeasurements {n : Nat} (w : World) (fuel : Nat) (s : Meter n) :
    Option (Except Fault (Meter n)) :=
  ByteLoop.loop (fun channel => channel.toNat < amountOfChannels n) (initSlot w) fuel 0 s

/-- One pass of the measurement loop over all channels. -/
def sweep {n : Nat} (w : World) (fuel : Nat) (s : Meter n) : Option (Except Fault (Meter n)) :=
  ByteLoop.loop (fun channel => channel.toNat ≤ amountOfChannels n) (measureChannel w) fuel 1 s

/-- `start_power_measurements` up to its call of `init_measurements`. -/
def setUpSensors {n : Nat} (w : World) (s : Meter n) : Except Fault (Meter n) := do
  let (_, t) ← espErrorCheck (lift w.i2cdevInit) s.transfers
  let (vs, t) ← espErrorCheck (initIna3221 w ina3221Static ina3221I2cAddrVs) t
  let (gnd, t) ← espErrorCheck (initIna3221 w ina3221Static ina3221I2cAddrGnd) t
  let sensors ← store s.sensors 0 vs
  let sensors ← store sensors 1 gnd
  return { s with sensors := sensors, transfers := t }

def Meter.start (n : Nat) : Meter n :=
  ⟨Vector.replicate n ina3221Zero, Vector.replicate _ PowerMeasurement.zero, 0, 0⟩

/-- `start_power_measurements` up to the end of its `k`-th sweep. -/
def startPowerMeasurements {n : Nat} (w : World) (fuel : Nat) :
    Nat → Meter n → Option (Except Fault (Meter n))
  | 0, s =>
    match setUpSensors w s with
    | .error e => some (.error e)
    | .ok s => initMeasurements w fuel s
  | k + 1, s =>
    match startPowerMeasurements w fuel k s with
    | some (.ok s) => sweep w fuel s
    | r => r

/-- The check only logs; the array is read all the same. -/
def getMeasurement {n : Nat} (s : Meter n) (channel : UInt8) : Except Fault PowerMeasurement :=
  load s.measurements (channel.toNat - 1 : Int)

def getAmountOfChannels (n : Nat) : UInt8 := UInt8.ofNat (amountOfChannels n)

/-! ## What is changed -/

section Changes

variable {n : Nat} {w : World} {s s' : Meter n} {channel : UInt8}

theorem espErrorCheck_eq_ok {α : Type} {x : Drv α} {t : Nat} {r : α × Nat}
    (h : espErrorCheck x t = .ok r) : x t = .ok r := by
  unfold espErrorCheck at h
  split at h
  · cases h
  · next hx => cases h; exact hx

theorem setUpSensors_eq_ok (h : setUpSensors w s = .ok s') :
    ∃ vs gnd t₀ t₁ t₂, initIna3221 w ina3221Static ina3221I2cAddrVs t₀ = .ok (vs, t₁) ∧
      initIna3221 w ina3221Static ina3221I2cAddrGnd t₁ = .ok (gnd, t₂) ∧ ∃ hn : 1 < n,
      s' = { s with
        sensors := (s.sensors.set 0 vs (Nat.zero_lt_of_lt hn)).set 1 gnd hn
        transfers := t₂ } := by
  obtain ⟨⟨_, t₀⟩, -, h⟩ := bind_eq_ok h
  obtain ⟨⟨vs, t₁⟩, hvs, h⟩ := bind_eq_ok h
  obtain ⟨⟨gnd, t₂⟩, hgnd, h⟩ := bind_eq_ok h
  obtain ⟨v0, h0, h⟩ := bind_eq_ok h
  obtain ⟨v1, h1, h⟩ := bind_eq_ok h
  cases h
  obtain ⟨-, hi0, rfl⟩ := store_eq_ok h0
  obtain ⟨-, hi1, rfl⟩ := store_eq_ok h1
  exact ⟨vs, gnd, t₀, t₁, t₂, espErrorCheck_eq_ok hvs, espErrorCheck_eq_ok hgnd, hi1, rfl⟩

theorem initSlot_eq_ok (h : initSlot w channel s = .ok s') :
    ∃ hi : channel.toNat < amountOfChannels n,
      s' = { s with
        measurements := s.measurements.set channel.toNat
          { PowerMeasurement.init with timestamp := w.clock s.ticks } hi
        ticks := s.ticks + 1 } := by
  obtain ⟨ms, hms, h⟩ := bind_eq_ok h
  cases h
  obtain ⟨-, hi, rfl⟩ := store_eq_ok hms
  exact ⟨hi, rfl⟩

/-- A measurement reads the shunt of one sensor and one slot, and writes that slot, beside the
counts of the clock and the bus. -/
theorem measureChannel_eq_ok (h : measureChannel w channel s = .ok s') :
    ∃ j, ∃ hj : j < n, ∃ i, ∃ hi : i < amountOfChannels n,
      ∃ sensor shuntVoltage shuntCurrent transfers transfers',
      ina3221GetStatus w s.sensors[j] s.transfers = .ok (sensor, transfers) ∧
      ina3221GetShuntValue w sensor (getChannel channel) transfers =
        .ok ((shuntVoltage, shuntCurrent), transfers') ∧
      s' = { s with
        measurements := s.measurements.set i
          (nextMeasurement s.measurements[i] (w.clock s.ticks) shuntCurrent) hi
        ticks := s.ticks + 1
        transfers := transfers' } := by
  obtain ⟨⟨m, s1⟩, hm, h⟩ := bind_eq_ok h
  obtain ⟨ms, hms, h⟩ := bind_eq_ok h
  cases h
  obtain ⟨-, hi, rfl⟩ := store_eq_ok hms
  obtain ⟨_, hsensor, hm⟩ := bind_eq_ok hm
  obtain ⟨⟨sensor, transfers⟩, hstatus, hm⟩ := bind_eq_ok hm
  obtain ⟨⟨⟨shuntVoltage, shuntCurrent⟩, transfers'⟩, hshunt, hm⟩ := bind_eq_ok hm
  obtain ⟨prev, hprev, hm⟩ := bind_eq_ok hm
  cases hm
  obtain ⟨-, _, rfl⟩ := load_eq_ok hprev
  obtain ⟨-, hj, rfl⟩ := load_eq_ok hsensor
  exact ⟨_, hj, _, hi, sensor, shuntVoltage, shuntCurrent, transfers, transfers',
    espErrorCheck_eq_ok hstatus, espErrorCheck_eq_ok hshunt, rfl⟩

end Changes

end Powermeter
