import Mathlib.Algebra.BigOperators.Field
import Powermeter.Lib.Sampled
import Powermeter.Server.PowerMeasurement

/-!
# The energy of a channel

What the slot of a channel holds after any number of sweeps: the integral of the
channel's own shunt current, sampled at the channel's own time stamps. `Ready` is
what the sweeps need of the sensor array, `SweepInv` the invariant of the loop over
the channels; the slots are numbered from 0, channel `c` is slot `c - 1`.
-/

namespace Powermeter

theorem toNat_ofNat_of_le {c : Nat} (h : c ≤ 255) : (UInt8.ofNat c).toNat = c :=
  UInt8.toNat_ofNat_of_lt' (by simp [UInt8.size]; omega)

theorem pred_cast {c : Nat} (h1 : 1 ≤ c) (h : c ≤ 255) :
    ((UInt8.ofNat c).toNat : Int) - 1 = ((c - 1 : Nat) : Int) := by
  rw [toNat_ofNat_of_le h]; omega

/-! ## One measurement -/

/-- The word transfer `t` reads, for a bus that answers. -/
def World.word (w : World) (t : Nat) (addr reg : UInt8) : UInt16 :=
  match w.readReg t addr reg with
  | .ok v => v
  | .error _ => 0

theorem World.DriverOk.readReg {w : World} (hw : w.DriverOk) (t : Nat) (addr reg : UInt8) :
    w.readReg t addr reg = .ok (w.word t addr reg) := by
  obtain ⟨v, hv⟩ := hw.read t addr reg
  simp only [World.word, hv]

/-- The current (mA) a raw shunt register word stands for, over a 100 mOhm shunt. -/
def shuntCurrent (raw : UInt16) : ℚ := ((swap16 raw).toInt16.toInt : ℚ) * (5 / 1000) * 1000 / 100

/-- The shunt register of the physical channel `r` of a sensor, `r = 0, 1, 2`. -/
def shuntReg (r : Nat) : UInt8 := ina3221RegShuntvoltage1 + UInt8.ofNat (r * 2)

/-- Every sensor was set up: its bus address is known and its shunts are 100 mOhm. -/
structure Ready {n : Nat} (addr : Nat → UInt8) (v : Vector Ina3221 n) : Prop where
  addr_eq : ∀ i (h : i < n), v[i].addr = addr i
  shunt_eq : ∀ i (h : i < n) ch, v[i].shunt ch = 100

theorem getChannel_toNat {c : Nat} (h1 : 1 ≤ c) (h : c ≤ 255) :
    (getChannel (UInt8.ofNat c)).toNat = (c - 1) % 3 := by
  unfold getChannel channelsPerSensor
  rw [toNat_ofNat_of_le h]
  have : c % 3 = 0 ∨ c % 3 = 1 ∨ c % 3 = 2 := by omega
  rcases this with h' | h' | h' <;> simp [h', Ina3221Channel.toNat] <;> omega

theorem getIna3221ForChannel_ok {n c : Nat} (s : Meter n) (h1 : 1 ≤ c) (h : c ≤ 255)
    (hn : (c - 1) / 3 < n) :
    getIna3221ForChannel s (UInt8.ofNat c) = .ok s.sensors[(c - 1) / 3] := by
  unfold getIna3221ForChannel channelsPerSensor
  have e : (((UInt8.ofNat ((c + (3 - 1)) / 3)).toNat : Int) - 1) = (((c - 1) / 3 : Nat) : Int) := by
    rw [toNat_ofNat_of_le (by omega)]; omega
  simp only [toNat_ofNat_of_le h, e, load_ofNat hn]

theorem shunt_ok {w : World} (hw : w.DriverOk) {dev : Ina3221} (hs : ∀ ch, dev.shunt ch = 100)
    (ch : Ina3221Channel) (t : Nat) :
    ∃ dev' volts, ina3221GetStatus w dev t = .ok (dev', t + 1) ∧
      ina3221GetShuntValue w dev' ch (t + 1) =
        .ok ((volts, shuntCurrent (w.word (t + 1) dev.addr (shuntReg ch.toNat))), t + 2) := by
  refine ⟨_, (swap16 (w.word (t + 1) dev.addr (shuntReg ch.toNat))).toInt16.toInt * (5 / 1000),
    ina3221GetStatus_ok (hw.readReg _ _ _), ?_⟩
  rw [ina3221GetShuntValue_ok (by rw [hs]; decide) (hw.readReg _ _ _)]
  simp only [shuntValue, hs]
  rfl

/-- **One iteration of `init_measurements`**: slot `p` gets a message with the time. -/
theorem initSlot_ok {n p : Nat} {w : World} {s : Meter n} (hp : p < amountOfChannels n)
    (h : p ≤ 255) :
    initSlot w (UInt8.ofNat p) s = .ok
      { s with
        measurements := s.measurements.set p
          { PowerMeasurement.init with timestamp := w.clock s.ticks }
        ticks := s.ticks + 1 } := by
  unfold initSlot
  simp only [espTimerGetTime, toNat_ofNat_of_le h, store_ofNat hp, bind, Except.bind, pure,
    Except.pure]

/-- **One measurement** of channel `c`: slot `c - 1` is replaced, the rest is unchanged. -/
theorem measureChannel_ok {n c : Nat} {w : World} (hw : w.DriverOk) {addr : Nat → UInt8}
    {s : Meter n} (hs : Ready addr s.sensors) (h1 : 1 ≤ c) (h : c ≤ 255)
    (hn : c - 1 < amountOfChannels n) :
    measureChannel w (UInt8.ofNat c) s = .ok
      { s with
        measurements := s.measurements.set (c - 1) (nextMeasurement s.measurements[c - 1]
          (w.clock s.ticks) (shuntCurrent (w.word (s.transfers + 1) (addr ((c - 1) / 3))
            (shuntReg ((c - 1) % 3)))))
        ticks := s.ticks + 1
        transfers := s.transfers + 2 } := by
  have hi : (c - 1) / 3 < n := by
    have : c - 1 < n * 3 := hn
    omega
  obtain ⟨dev', volts, hst, hsv⟩ := shunt_ok hw (hs.shunt_eq _ hi) (getChannel (UInt8.ofNat c))
    s.transfers
  rw [hs.addr_eq, getChannel_toNat h1 h] at hsv
  unfold measureChannel execMeasurement
  rw [getIna3221ForChannel_ok s h1 h hi]
  simp only [bind, Except.bind, espErrorCheck, hst, hsv, pred_cast h1 h, load_ofNat hn,
    espTimerGetTime, pure, Except.pure, store_ofNat hn]

/-! ## The run -/

section Run

variable (w : World) (n : Nat) (addr : Nat → UInt8) (t0 : Nat)

/-- The time stamp of slot `p` in sweep `j`; sweep 0 is `init_measurements`. -/
def stamp (p j : Nat) : UInt64 := w.clock (amountOfChannels n * j + p)

/-- The current read for slot `p` in sweep `j ≥ 1`: from channel `p % 3` of sensor `p / 3`, in
the second transfer of that measurement, `t0` transfers having come before the sweeps. -/
def reading (p j : Nat) : ℚ :=
  shuntCurrent (w.word (t0 + 2 * (amountOfChannels n * (j - 1) + p) + 1) (addr (p / 3))
    (shuntReg (p % 3)))

/-- What slot `p` holds after `j` sweeps, one measurement at a time. -/
def slotAt (p : Nat) : Nat → PowerMeasurement
  | 0 => { PowerMeasurement.init with timestamp := stamp w n p 0 }
  | j + 1 => nextMeasurement (slotAt p j) (stamp w n p (j + 1)) (reading w n addr t0 p (j + 1))

/-- Between the channels of sweep `j + 1`: the slots below `p` are done. -/
structure SweepInv (j p : Nat) (s : Meter n) : Prop where
  ready : Ready addr s.sensors
  ticks : s.ticks = amountOfChannels n * (j + 1) + p
  transfers : s.transfers = t0 + 2 * (amountOfChannels n * j + p)
  slots : ∀ q (h : q < amountOfChannels n),
    s.measurements[q] = slotAt w n addr t0 q (if q < p then j + 1 else j)

structure InitInv (p : Nat) (s : Meter n) : Prop where
  ready : Ready addr s.sensors
  ticks : s.ticks = p
  transfers : s.transfers = t0
  slots : ∀ q (h : q < amountOfChannels n), q < p → s.measurements[q] = slotAt w n addr t0 q 0

variable {w n addr t0}

theorem initSlot_inv {p : Nat} {s : Meter n} (hp : p < amountOfChannels n) (h : p ≤ 255)
    (hI : InitInv w n addr t0 p s) :
    ∃ s', initSlot w (UInt8.ofNat p) s = .ok s' ∧ InitInv w n addr t0 (p + 1) s' := by
  refine ⟨_, initSlot_ok hp h, hI.ready, by simp [hI.ticks], hI.transfers, fun q hq hlt => ?_⟩
  by_cases hqp : q = p
  · subst hqp
    simp [slotAt, stamp, hI.ticks]
  · simp only [Vector.getElem_set_ne hp hq (Ne.symm hqp)]
    exact hI.slots q hq (by omega)

theorem measureChannel_inv (hw : w.DriverOk) {j p : Nat} {s : Meter n}
    (hp : p < amountOfChannels n) (h : p + 1 ≤ 255) (hI : SweepInv w n addr t0 j p s) :
    ∃ s', measureChannel w (UInt8.ofNat (p + 1)) s = .ok s' ∧
      SweepInv w n addr t0 j (p + 1) s' := by
  refine ⟨_, measureChannel_ok hw hI.ready (by omega) h (by omega), hI.ready, ?_, ?_,
    fun q hq => ?_⟩
  · simp only [hI.ticks]; omega
  · simp only [hI.transfers]; omega
  · by_cases hqp : q = p
    · subst hqp
      have hsl := hI.slots q hq
      simp only [lt_irrefl, if_false] at hsl
      simp only [Nat.add_sub_cancel, Vector.getElem_set_self, hsl, Nat.lt_succ_self, if_true,
        slotAt, stamp, reading, hI.ticks, hI.transfers]
    · have hset : ∀ m, (s.measurements.set p m hp)[q] = s.measurements[q] := fun m =>
        Vector.getElem_set_ne hp hq (Ne.symm hqp)
      simp only [Nat.add_sub_cancel, hset, hI.slots q hq]
      have : q < p ↔ q < p + 1 := by omega
      simp only [this]

theorem SweepInv.next {j : Nat} {s : Meter n} (h : SweepInv w n addr t0 j (amountOfChannels n) s) :
    SweepInv w n addr t0 (j + 1) 0 s := by
  refine ⟨h.ready, ?_, ?_, fun q hq => ?_⟩
  · rw [h.ticks]; ring
  · rw [h.transfers]; ring
  · have hsl := h.slots q hq
    rw [if_pos hq] at hsl
    rw [hsl, if_neg (by omega)]

/-- **`init_measurements`** fills every slot. -/
theorem initMeasurements_ok (hn : amountOfChannels n ≤ 255) {fuel : Nat}
    (hf : amountOfChannels n < fuel) {s : Meter n} (hI : InitInv w n addr t0 0 s) :
    ∃ s', initMeasurements w fuel s = some (.ok s') ∧ SweepInv w n addr t0 0 0 s' := by
  obtain ⟨s', hs', hI'⟩ := ByteLoop.loop_total
    (fun channel => decide (channel.toNat < amountOfChannels n)) (initSlot w)
    (I := InitInv w n addr t0) (a := 0) (b := amountOfChannels n) (Nat.zero_le _) hn
    (fun i hi => by simp only [toNat_ofNat_of_le hi])
    (fun i s _ hi hIi => initSlot_inv hi (by omega) hIi) (by simpa using hf) hI
  refine ⟨s', hs', hI'.ready, ?_, hI'.transfers, fun q hq => ?_⟩
  · rw [hI'.ticks]; omega
  · rw [if_neg (by omega)]; exact hI'.slots q hq hq

/-- **One sweep** measures every channel once. -/
theorem sweep_ok (hw : w.DriverOk) (hn : amountOfChannels n ≤ 254) {fuel : Nat}
    (hf : amountOfChannels n < fuel) {j : Nat} {s : Meter n} (hI : SweepInv w n addr t0 j 0 s) :
    ∃ s', sweep w fuel s = some (.ok s') ∧ SweepInv w n addr t0 (j + 1) 0 s' := by
  obtain ⟨s', hs', hI'⟩ := ByteLoop.loop_total
    (fun channel => decide (channel.toNat ≤ amountOfChannels n)) (measureChannel w)
    (I := fun i s => SweepInv w n addr t0 j (i - 1) s)
    (a := 1) (b := amountOfChannels n + 1) (by omega) (by omega)
    (fun i hi => by simp only [toNat_ofNat_of_le hi, Nat.lt_succ_iff])
    (fun i s h1 hi hIi => by
      obtain ⟨p, rfl⟩ : ∃ p, i = p + 1 := ⟨i - 1, by omega⟩
      exact measureChannel_inv hw (by omega) (by omega) hIi)
    (by simpa using hf) hI
  exact ⟨s', hs', SweepInv.next hI'⟩

theorem startPowerMeasurements_ok (hw : w.DriverOk) (hn : amountOfChannels n ≤ 254) {fuel : Nat}
    (hf : amountOfChannels n < fuel) {s0 s1 : Meter n} (hset : setUpSensors w s0 = .ok s1)
    (hI : InitInv w n addr t0 0 s1) (k : Nat) :
    ∃ s, startPowerMeasurements w fuel k s0 = some (.ok s) ∧ SweepInv w n addr t0 k 0 s := by
  induction k with
  | zero =>
    simp only [startPowerMeasurements, hset]
    exact initMeasurements_ok (by omega) hf hI
  | succ k ih =>
    obtain ⟨s, hs, hIs⟩ := ih
    simp only [startPowerMeasurements, hs]
    exact sweep_ok hw hn hf hIs

end Run

/-! ## The two sensors of the source -/

theorem initIna3221_ok {w : World} (hw : w.DriverOk) (dev : Ina3221) {i2cAddr : UInt8}
    (ha : i2cAddr = ina3221I2cAddrVs ∨ i2cAddr = ina3221I2cAddrGnd) (t : Nat) :
    ∃ dev', initIna3221 w dev i2cAddr t = .ok (dev', t + 6) ∧ dev'.addr = i2cAddr ∧
      dev'.shunt = dev.shunt := by
  unfold initIna3221 ina3221SetOptions ina3221EnableChannel ina3221SetAverage
    ina3221SetBusConversionTime ina3221SetShuntConversionTime
  simp only [bind_run, ina3221InitDesc_ok hw _ ha, updateConfig_ok hw,
    ina3221SetWarningAlert_ok hw, pure_run]
  exact ⟨_, rfl, rfl, rfl⟩

/-- The bus address of sensor `i`: VS first, then GND. -/
def sensorAddr (i : Nat) : UInt8 := if i = 0 then ina3221I2cAddrVs else ina3221I2cAddrGnd

/-- On a bus that answers, the set-up goes as far as the two writes, with 6 transfers for each
sensor. -/
theorem setUpSensors_eq {n : Nat} {w : World} (hw : w.DriverOk) (s : Meter n) :
    ∃ vs gnd, (vs.addr = ina3221I2cAddrVs ∧ vs.shunt = ina3221Static.shunt) ∧
      (gnd.addr = ina3221I2cAddrGnd ∧ gnd.shunt = ina3221Static.shunt) ∧
      setUpSensors w s = (do
        let sensors ← store s.sensors 0 vs
        let sensors ← store sensors 1 gnd
        return { s with sensors := sensors, transfers := s.transfers + 6 + 6 }) := by
  obtain ⟨vs, hvs, hva, hvh⟩ := initIna3221_ok hw ina3221Static (.inl rfl) s.transfers
  obtain ⟨gnd, hgnd, hga, hgh⟩ := initIna3221_ok hw ina3221Static (.inr rfl) (s.transfers + 6)
  refine ⟨vs, gnd, ⟨hva, hvh⟩, ⟨hga, hgh⟩, ?_⟩
  unfold setUpSensors
  simp only [espErrorCheck, lift, hw.init, Except.map, bind, Except.bind, hvs, hgnd]

theorem setUpSensors_ok {w : World} (hw : w.DriverOk) :
    ∃ s, setUpSensors w (Meter.start 2) = .ok s ∧ InitInv w 2 sensorAddr 12 0 s := by
  obtain ⟨vs, gnd, ⟨hva, hvh⟩, ⟨hga, hgh⟩, hset⟩ := setUpSensors_eq hw (Meter.start 2)
  refine ⟨_, hset, ⟨fun i hi => ?_, fun i hi ch => ?_⟩, rfl, rfl, fun q _ hq => ?_⟩
  · have : i = 0 ∨ i = 1 := by omega
    rcases this with rfl | rfl
    · exact hva
    · exact hga
  · have : i = 0 ∨ i = 1 := by omega
    rcases this with rfl | rfl
    · show vs.shunt ch = 100
      rw [hvh]; rfl
    · show gnd.shunt ch = 100
      rw [hgh]; rfl
  · exact absurd hq (Nat.not_lt_zero q)

/-! ## The energy is the integral of the current -/

section Integral

variable {w : World} {n : Nat} {addr : Nat → UInt8} {t0 : Nat}

/-- `esp_timer_get_time` never goes back. -/
def World.ClockMono (w : World) : Prop := ∀ a b, a ≤ b → w.clock a ≤ w.clock b

theorem stamp_mono (hc : w.ClockMono) (p : Nat) :
    Monotone fun j => ((stamp w n p j).toNat : ℚ) := by
  intro i j hij
  have h := hc (amountOfChannels n * i + p) (amountOfChannels n * j + p)
    (Nat.add_le_add_right (Nat.mul_le_mul_left _ hij) p)
  have h' : (stamp w n p i).toNat ≤ (stamp w n p j).toNat := UInt64.le_iff_toNat_le.mp h
  exact Nat.cast_le.mpr h'

/-- The `uint64_t` difference of two time stamps of a slot does not wrap. -/
theorem stamp_sub (hc : w.ClockMono) (p j : Nat) :
    ((stamp w n p (j + 1) - stamp w n p j).toNat : ℚ) =
      (stamp w n p (j + 1)).toNat - (stamp w n p j).toNat := by
  have h : stamp w n p j ≤ stamp w n p (j + 1) :=
    hc _ _ (Nat.add_le_add_right (Nat.mul_le_mul_left _ (Nat.le_succ j)) p)
  rw [UInt64.toNat_sub_of_le _ _ h, Nat.cast_sub (UInt64.le_iff_toNat_le.mp h)]

@[simp] theorem slotAt_timestamp (p k : Nat) :
    (slotAt w n addr t0 p k).timestamp = stamp w n p k := by
  cases k <;> rfl

theorem slotAt_descriptor (p k : Nat) :
    (slotAt w n addr t0 p k).descriptor = some .powerMeasurement := by
  cases k <;> rfl

theorem slotAt_current (p k : Nat) :
    (slotAt w n addr t0 p k).current = if k = 0 then 0 else |reading w n addr t0 p k| := by
  cases k <;> rfl

theorem slotAt_energy (hc : w.ClockMono) (p k : Nat) :
    (slotAt w n addr t0 p k).energyConsumption =
      Sampled.integral (fun j => |reading w n addr t0 p j|)
        (fun j => ((stamp w n p j).toNat : ℚ)) k / 10 ^ 6 := by
  induction k with
  | zero => simp [slotAt, PowerMeasurement.init]
  | succ k ih =>
    rw [Sampled.integral_succ]
    simp only [slotAt, nextMeasurement, ih, slotAt_timestamp, stamp_sub hc]
    ring

theorem slotAt_energy_mono (hc : w.ClockMono) (p : Nat) :
    Monotone fun k => (slotAt w n addr t0 p k).energyConsumption := by
  intro i j hij
  simp only [slotAt_energy hc]
  have := Sampled.integral_mono (i := fun j => |reading w n addr t0 p j|)
    (fun j => abs_nonneg _) (stamp_mono (n := n) hc p) hij
  exact div_le_div_of_nonneg_right this (by norm_num)

/-- Two runs that agree on the clock and on what one physical channel delivers agree on its slot. -/
theorem slotAt_congr {w' : World} {p : Nat} (hclock : w'.clock = w.clock)
    (hword : ∀ t, w'.word t (addr (p / 3)) (shuntReg (p % 3)) =
      w.word t (addr (p / 3)) (shuntReg (p % 3))) (k : Nat) :
    slotAt w' n addr t0 p k = slotAt w n addr t0 p k := by
  induction k with
  | zero => simp only [slotAt, stamp, hclock]
  | succ k ih => simp only [slotAt, ih, stamp, reading, hclock, hword]

end Integral

def slotAfter (w : World) (fuel k c : Nat) : Option PowerMeasurement :=
  match startPowerMeasurements w fuel k (Meter.start 2) with
  | some (.ok s) => s.measurements[c - 1]?
  | _ => none

theorem slotAfter_eq {w : World} (hw : w.DriverOk) {fuel c : Nat} (hfuel : 7 ≤ fuel)
    (h1 : 1 ≤ c) (h6 : c ≤ 6) (k : Nat) :
    slotAfter w fuel k c = some (slotAt w 2 sensorAddr 12 (c - 1) k) := by
  obtain ⟨s0, hset, hI0⟩ := setUpSensors_ok hw
  have hf : amountOfChannels 2 < fuel := hfuel
  obtain ⟨s, hs, hI⟩ := startPowerMeasurements_ok hw (by decide) hf hset hI0 k
  have hp : c - 1 < amountOfChannels 2 := by show c - 1 < 6; omega
  unfold slotAfter
  simp only [hs]
  rw [Vector.getElem?_eq_getElem hp, hI.slots (c - 1) hp, if_neg (Nat.not_lt_zero _)]

/-- **The energy of a channel is the time integral of its own current.** After `k` sweeps the
slot of channel `c` holds the last reading, the last time stamp and the sum over all sweeps;
its intervals telescope, its energy never decreases, and what the other physical channels
deliver is irrelevant. -/
theorem energy_is_time_integral {w : World} (hw : w.DriverOk) (hc : w.ClockMono)
    {fuel c : Nat} (hfuel : 7 ≤ fuel) (h1 : 1 ≤ c) (h6 : c ≤ 6) (k : Nat) :
    let t := fun j => ((stamp w 2 (c - 1) j).toNat : ℚ)
    let i := fun j => reading w 2 sensorAddr 12 (c - 1) j
    slotAfter w fuel k c = some
      { descriptor := some .powerMeasurement
        timestamp := stamp w 2 (c - 1) k
        current := if k = 0 then 0 else |i k|
        energyConsumption := ∑ j ∈ Finset.range k, |i (j + 1)| * (t (j + 1) - t j) / 10 ^ 6 } ∧
    ∑ j ∈ Finset.range k, (t (j + 1) - t j) = t k - t 0 ∧
    (∀ k' m m', k ≤ k' → slotAfter w fuel k c = some m → slotAfter w fuel k' c = some m' →
      m.energyConsumption ≤ m'.energyConsumption) ∧
    ∀ w' : World, w'.DriverOk → w'.clock = w.clock →
      (∀ x, w'.word x (sensorAddr ((c - 1) / 3)) (shuntReg ((c - 1) % 3)) =
        w.word x (sensorAddr ((c - 1) / 3)) (shuntReg ((c - 1) % 3))) →
      slotAfter w' fuel k c = slotAfter w fuel k c := by
  intro t i
  have hslot := fun k => slotAfter_eq hw hfuel h1 h6 k
  refine ⟨?_, Finset.sum_range_sub t k, ?_, ?_⟩
  · rw [hslot]
    have he : (slotAt w 2 sensorAddr 12 (c - 1) k).energyConsumption = _ :=
      slotAt_energy hc (c - 1) k
    have hcur : (slotAt w 2 sensorAddr 12 (c - 1) k).current = _ := slotAt_current (c - 1) k
    have hd : (slotAt w 2 sensorAddr 12 (c - 1) k).descriptor = _ := slotAt_descriptor (c - 1) k
    have ht : (slotAt w 2 sensorAddr 12 (c - 1) k).timestamp = _ := slotAt_timestamp (c - 1) k
    rw [Sampled.integral, Finset.sum_div] at he
    congr 1
    generalize slotAt w 2 sensorAddr 12 (c - 1) k = m at he hcur hd ht
    cases m
    simp only at he hcur hd ht
    simp only [he, hcur, hd, ht, t, i]
  · intro k' m m' hk hm hm'
    rw [hslot] at hm hm'
    cases hm; cases hm'
    exact slotAt_energy_mono hc (c - 1) hk
  · intro w' hw' hclock hword
    rw [hslot, slotAfter_eq hw' hfuel h1 h6, slotAt_congr hclock hword]

/-- A bus that always delivers 2 mA and a clock that advances by a second at each call. -/
def steadyWorld : World where
  clock a := UInt64.ofNat (min a 1000 * 1000000)
  i2cdevInit := .ok ()
  createMutex _ := .ok ()
  readReg _ _ _ := .ok 0x2800
  writeReg _ _ _ _ := .ok ()

theorem steadyWorld_driverOk : steadyWorld.DriverOk :=
  ⟨rfl, fun _ => rfl, fun _ _ _ => ⟨_, rfl⟩, fun _ _ _ _ => rfl⟩

theorem steadyWorld_clockMono : steadyWorld.ClockMono := by
  intro a b hab
  have e : ∀ x, (UInt64.ofNat (min x 1000 * 1000000)).toNat = min x 1000 * 1000000 := fun x =>
    UInt64.toNat_ofNat_of_lt' (by simp only [UInt64.size]; omega)
  rw [UInt64.le_iff_toNat_le]
  show (UInt64.ofNat _).toNat ≤ (UInt64.ofNat _).toNat
  rw [e, e]
  omega

theorem reading_steadyWorld (p j : Nat) : reading steadyWorld 2 sensorAddr 12 p j = 2 := by
  have hword : (swap16 0x2800).toInt16.toInt = 40 := by decide
  simp only [reading, shuntCurrent, World.word, steadyWorld, hword]
  norm_num

/-- Two sweeps, 6 s apart, at 2 mA are 24 mAs. -/
theorem energy_steadyWorld :
    ∃ m, slotAfter steadyWorld 7 2 4 = some m ∧ m.energyConsumption = 24 := by
  obtain ⟨h, -⟩ := energy_is_time_integral steadyWorld_driverOk steadyWorld_clockMono
    (show 7 ≤ 7 by decide) (show 1 ≤ 4 by decide) (show 4 ≤ 6 by decide) 2
  refine ⟨_, h, ?_⟩
  have ht : ∀ j ≤ 2, (stamp steadyWorld 2 3 j).toNat = (6 * j + 3) * 1000000 := by decide
  simp only [Finset.sum_range_succ, Finset.sum_range_zero, reading_steadyWorld, ht 0 (by decide),
    ht 1 (by decide), ht 2 (by decide)]
  norm_num

end Powermeter
