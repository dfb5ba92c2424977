import Powermeter.Lib.Rounding
import Powermeter.Server.Energy

/-!
# The powermeter in floating point

`power_measurement.c` and `ina3221_get_shunt_value` once more, with the roundings of the
source: `float` variables, constants and casts to `double`, one rounding for each operation. The
program does the same calls as the one in exact arithmetic, whatever the bus does, and the two
agree in all but the currents and energies (`startPowerMeasurements_sim`). These are off by a
fraction that grows with the number of measurements, from about 2⁻²² on (`energyError`).
-/

namespace Powermeter

namespace Floats

open Rounding ByteLoop

/-- `0.005` and `1000.0` are `double`s, `mvolts` and `*current` are `float`s. An `int16_t` and a
`uint16_t` are `double`s as they are. -/
def shuntValue (dev : Ina3221) (channel : Ina3221Channel) (raw : Int16) : ℚ × ℚ :=
  let mvolts := binary32.fl (binary64.fl (raw.toInt * binary64.fl (5 / 1000)))
  (mvolts, binary32.fl (binary64.fl (binary64.fl (mvolts * 1000) / (dev.shunt channel).toNat)))

def ina3221GetShuntValue (w : World) (dev : Ina3221) (channel : Ina3221Channel) : Drv (ℚ × ℚ) :=
  if dev.shunt channel = 0 then fail .invalidArg
  else do
    let raw ← readReg16 w dev (ina3221RegShuntvoltage1 + UInt8.ofNat (channel.toNat * 2))
    return shuntValue dev channel raw.toInt16

/-- The difference of two time stamps becomes a `double`, the seconds are a `float`. -/
def elapsedSeconds (micros : UInt64) : ℚ :=
  binary32.fl (binary64.fl (binary64.fl (binary64.fl micros.toNat * 1) / 1000000))

/-- The product is a `float`, the energy a `double`. -/
def nextMeasurement (prev : PowerMeasurement) (timestamp : UInt64) (shuntCurrent : ℚ) :
    PowerMeasurement :=
  { PowerMeasurement.init with
    timestamp := timestamp
    current := |shuntCurrent|
    energyConsumption := binary64.fl (prev.energyConsumption +
      binary32.fl (|shuntCurrent| * elapsedSeconds (timestamp - prev.timestamp))) }

def execMeasurement {n : Nat} (w : World) (channel : UInt8) (s : Meter n) :
    Except Fault (PowerMeasurement × Meter n) := do
  let sensor ← getIna3221ForChannel s channel
  let sensorChannel := getChannel channel
  let (sensor, t) ← espErrorCheck (ina3221GetStatus w sensor) s.transfers
  let ((_, shuntCurrent), t) ← espErrorCheck (ina3221GetShuntValue w sensor sensorChannel) t
  let prev ← load s.measurements (channel.toNat - 1 : Int)
  let (now, s) := espTimerGetTime w { s with transfers := t }
  return (nextMeasurement prev now shuntCurrent, s)

def measureChannel {n : Nat} (w : World) (channel : UInt8) (s : Meter n) :
    Except Fault (Meter n) := do
  let (m, s) ← execMeasurement w channel s
  let ms ← store s.measurements (channel.toNat - 1 : Int) m
  return { s with measurements := ms }

def sweep {n : Nat} (w : World) (fuel : Nat) (s : Meter n) : Option (Except Fault (Meter n)) :=
  loop (fun channel => channel.toNat ≤ amountOfChannels n) (measureChannel w) fuel 1 s

def startPowerMeasurements {n : Nat} (w : World) (fuel : Nat) :
    Nat → Meter n → Option (Except Fault (Meter n))
  | 0, s =>
    match setUpSensors w s with
    | .error e => some (.error e)
    | .ok s => initMeasurements w fuel s
  | k + 1, s =>
    match startPowerMeasurements w fuel k s with
    | some (.ok s) => sweep w fuel s
    | r => r

/-! ## One measurement -/

abbrev u32 : ℚ := binary32.unit
abbrev u64 : ℚ := binary64.unit

/-- What is not below `2⁻⁶⁰` is far from the small numbers of both formats. -/
theorem least_le {b : ℚ} (hb : 2 ^ (-60 : ℤ) ≤ b) :
    2 ^ (binary32.emin + binary32.prec - 1) ≤ b ∧ 2 ^ (binary64.emin + binary64.prec - 1) ≤ b :=
  ⟨(zpow_le_zpow_right₀ one_le_two (by norm_num [binary32])).trans hb,
    (zpow_le_zpow_right₀ one_le_two (by norm_num [binary64])).trans hb⟩

theorem approx_nat (d : Nat) : Approx 0 1 (d : ℚ) d := by
  refine .exact zero_le_one ?_
  rcases Nat.eq_zero_or_pos d with rfl | hd
  · exact .inl Nat.cast_zero
  · exact .inr (by rw [Nat.abs_cast]; exact_mod_cast hd)

theorem approx_int (i : Int) : Approx 0 1 (i : ℚ) i := by
  refine .exact zero_le_one ?_
  by_cases hi : i = 0
  · exact .inl (by rw [hi, Int.cast_zero])
  · exact .inr (by exact_mod_cast Int.one_le_abs hi)

theorem approx_pos {c : ℚ} (hc : 0 < c) : Approx 0 c c c :=
  .exact hc.le (.inr (le_abs_self c))

/-- **The current**, off by two `float` and four `double` roundings. -/
theorem shuntValue_approx (dev : Ina3221) {channel : Ina3221Channel} (raw : Int16)
    (hs : dev.shunt channel ≠ 0) :
    Approx (2 * u32 + 4 * u64) (2 ^ (-21 : ℤ)) (Powermeter.shuntValue dev channel raw).2
      (shuntValue dev channel raw).2 := by
  have hshunt : 0 < (dev.shunt channel).toNat := by
    refine Nat.pos_of_ne_zero fun h => hs ?_
    exact UInt16.toNat_inj.mp h
  have hlt : ((dev.shunt channel).toNat : ℚ) ≤ 65536 := by
    exact_mod_cast (dev.shunt channel).toNat_lt.le
  have hinv : Approx 0 (1 / 65536) ((dev.shunt channel).toNat : ℚ)⁻¹
      ((dev.shunt channel).toNat : ℚ)⁻¹ := by
    refine .exact (by norm_num) (.inr ?_)
    rw [abs_of_nonneg (inv_nonneg.mpr (Nat.cast_nonneg _)), one_div]
    exact inv_anti₀ (by exact_mod_cast hshunt) hlt
  have hconst := (approx_pos (c := 5 / 1000) (by norm_num)).fl (F := binary64)
    (least_le (by norm_num)).2
  have hvolts := (((approx_int raw.toInt).mul hconst).fl (F := binary64)
    (least_le (by norm_num)).2).fl (F := binary32) (least_le (by norm_num)).1
  have hcurrent := ((((hvolts.mul (approx_pos (c := 1000) (by norm_num))).fl (F := binary64)
    (least_le (by norm_num)).2).mul hinv).fl (F := binary64)
    (least_le (by norm_num)).2).fl (F := binary32) (least_le (by norm_num)).1
  simp only [Powermeter.shuntValue, shuntValue, div_eq_mul_inv _ ((dev.shunt channel).toNat : ℚ)]
  refine hcurrent.mono (le_of_eq ?_) (by norm_num) (by positivity)
  ring

theorem elapsedSeconds_nonneg (micros : UInt64) : 0 ≤ elapsedSeconds micros := by
  refine binary32.fl_nonneg (binary64.fl_nonneg (div_nonneg (binary64.fl_nonneg
    (mul_nonneg (binary64.fl_nonneg ?_) zero_le_one)) ?_))
  · exact Nat.cast_nonneg _
  · norm_num

/-- **The seconds**, off by one `float` and three `double` roundings. -/
theorem elapsedSeconds_approx (micros : UInt64) :
    Approx (u32 + 3 * u64) (2 ^ (-25 : ℤ)) (micros.toNat * 1 / 1000000)
      (elapsedSeconds micros) := by
  have hdouble := (((approx_nat micros.toNat).fl (F := binary64) (least_le (by norm_num)).2).mul
    (approx_pos one_pos)).fl (F := binary64) (least_le (by norm_num)).2
  have hseconds := ((hdouble.mul (approx_pos (c := 1000000⁻¹) (by norm_num))).fl (F := binary64)
    (least_le (by norm_num)).2).fl (F := binary32) (least_le (by norm_num)).1
  simp only [elapsedSeconds, div_eq_mul_inv _ (1000000 : ℚ)]
  refine hseconds.mono (le_of_eq ?_) (by norm_num) (by positivity)
  ring

/-- **The energy of one measurement**, off by four `float` and seven `double` roundings. -/
theorem increment_near {current current' : ℚ} (micros : UInt64)
    (h : Approx (2 * u32 + 4 * u64) (2 ^ (-21 : ℤ)) current current') :
    Near (4 * u32 + 7 * u64) (|current| * (micros.toNat * 1 / 1000000))
        (binary32.fl (|current'| * elapsedSeconds micros)) ∧
      (binary32.fl (|current'| * elapsedSeconds micros) = 0 ∨
        2 ^ (-48 : ℤ) ≤ binary32.fl (|current'| * elapsedSeconds micros)) := by
  have hproduct := ((h.abs.mul (elapsedSeconds_approx micros)).fl (F := binary32)
    (least_le (by norm_num)).1).mono (φ := 4 * u32 + 7 * u64) (c := 2 ^ (-48 : ℤ))
    (le_of_eq (by ring)) (by norm_num) (by positivity)
  have h0 : 0 ≤ |current| * ((micros.toNat : ℚ) * 1 / 1000000) := by positivity
  have h0' : 0 ≤ binary32.fl (|current'| * elapsedSeconds micros) :=
    binary32.fl_nonneg (mul_nonneg (abs_nonneg _) (elapsedSeconds_nonneg micros))
  have hnear := hproduct.near
  have hclear := hproduct.clear
  rw [abs_of_nonneg h0, abs_of_nonneg h0'] at hnear
  rw [abs_of_nonneg h0'] at hclear
  exact ⟨hnear, hclear⟩

/-! ## Side by side -/

/-- The error of the energies after so many calls of the clock. -/
def energyError (ticks : Nat) : ℚ := 4 * u32 + (7 + ticks) * u64

theorem energyError_mono {a b : Nat} (h : a ≤ b) : energyError a ≤ energyError b := by
  unfold energyError
  have : (a : ℚ) * u64 ≤ b * u64 :=
    mul_le_mul_of_nonneg_right (Nat.cast_le.mpr h) binary64.unit_pos.le
  linarith

/-- A measurement in exact arithmetic, and what the program has in its place. -/
structure SlotNear (ticks : Nat) (m m' : PowerMeasurement) : Prop where
  descriptor : m'.descriptor = m.descriptor
  timestamp : m'.timestamp = m.timestamp
  current : Near (2 * u32 + 4 * u64) m.current m'.current
  energy : Near (energyError ticks) m.energyConsumption m'.energyConsumption
  double : binary64.fl m'.energyConsumption = m'.energyConsumption
  clear : m'.energyConsumption = 0 ∨ 2 ^ (-48 : ℤ) ≤ m'.energyConsumption

theorem energyError_nonneg (ticks : Nat) : 0 ≤ energyError ticks := by
  have h32 := binary32.unit_pos
  have h64 := binary64.unit_pos
  unfold energyError
  positivity

theorem SlotNear.mono {a b : Nat} {m m' : PowerMeasurement} (h : SlotNear a m m') (hab : a ≤ b) :
    SlotNear b m m' :=
  { h with energy := h.energy.mono (energyError_mono hab) }

theorem slotNear_zero (ticks : Nat) {m : PowerMeasurement} (hcurrent : m.current = 0)
    (henergy : m.energyConsumption = 0) : SlotNear ticks m m where
  descriptor := rfl
  timestamp := rfl
  current := by
    rw [hcurrent]
    exact (Near.refl le_rfl).mono (by linarith [binary32.unit_pos, binary64.unit_pos])
  energy := by
    rw [henergy]
    exact (Near.refl le_rfl).mono (energyError_nonneg ticks)
  double := by rw [henergy, Format.fl_zero]
  clear := .inl henergy

/-- **One addition more** is one `double` rounding more. -/
theorem energy_step {ticks : Nat} {e e' p p' : ℚ} (he : Near (energyError ticks) e e')
    (hdouble : binary64.fl e' = e') (hp : Near (4 * u32 + 7 * u64) p p')
    (hfloat : binary32.fl p' = p') :
    Near (energyError (ticks + 1)) (e + p) (binary64.fl (e' + p')) := by
  have hle : 4 * u32 + 7 * u64 ≤ energyError ticks := by
    have := mul_nonneg (Nat.cast_nonneg (α := ℚ) ticks) binary64.unit_pos.le
    unfold energyError
    linarith
  have hsum := (he.add (hp.mono hle)).fl
    (binary64.normal_add (G := binary32) (by decide) hdouble hfloat) (energyError_nonneg ticks)
  refine hsum.mono (le_of_eq ?_)
  unfold energyError
  push_cast
  ring

theorem clear_step {e' p' : ℚ} (he : e' = 0 ∨ 2 ^ (-48 : ℤ) ≤ e') (h0 : 0 ≤ p')
    (hp : p' = 0 ∨ 2 ^ (-48 : ℤ) ≤ p') :
    binary64.fl (e' + p') = 0 ∨ 2 ^ (-48 : ℤ) ≤ binary64.fl (e' + p') := by
  have hsum : e' + p' = 0 ∨ 2 ^ (-48 : ℤ) ≤ e' + p' := by
    rcases he with h | h
    · rwa [h, zero_add]
    · exact .inr (h.trans (le_add_of_nonneg_right h0))
  refine hsum.imp (fun h => by rw [h, Format.fl_zero]) fun h => ?_
  rw [← binary64.fl_two_zpow (e := -48) (by norm_num [binary64])]
  exact binary64.fl_mono ((zpow_pos two_pos _).le.trans h) h

theorem slotNear_next {ticks : Nat} {m m' : PowerMeasurement} (h : SlotNear ticks m m')
    {current current' : ℚ} (hc : Approx (2 * u32 + 4 * u64) (2 ^ (-21 : ℤ)) current current')
    (now : UInt64) :
    SlotNear (ticks + 1) (Powermeter.nextMeasurement m now current)
      (nextMeasurement m' now current') := by
  obtain ⟨hnear, hclear⟩ := increment_near (now - m.timestamp) hc
  simp only [Powermeter.nextMeasurement, nextMeasurement, h.timestamp]
  exact ⟨rfl, rfl, hc.near, energy_step h.energy h.double hnear (binary32.fl_fl _),
    binary64.fl_fl _, clear_step h.clear hnear.right hclear⟩

/-- The two programs between two of their steps. -/
structure Simulates {n : Nat} (s t : Meter n) : Prop where
  sensors : t.sensors = s.sensors
  ticks : t.ticks = s.ticks
  transfers : t.transfers = s.transfers
  slots : ∀ q (h : q < amountOfChannels n),
    SlotNear s.ticks s.measurements[q] t.measurements[q]

section Simulation

variable {n : Nat} {w : World} {s t : Meter n} {channel : UInt8}

theorem sameOutcome_eq {ε α : Type} (x : Except ε α) : SameOutcome (· = ·) x x := by
  cases x with
  | error e => exact .error e
  | ok a => exact .ok rfl

theorem load_sim {α : Type} {m : Nat} {R : α → α → Prop} {u v : Vector α m} (i : Int)
    (h : ∀ q (hq : q < m), R u[q] v[q]) : SameOutcome R (load u i) (load v i) := by
  unfold load
  split
  · split
    · next hq => exact .ok (h _ hq)
    · exact .error _
  · exact .error _

theorem store_sim {α : Type} {m : Nat} {R : α → α → Prop} {u v : Vector α m} (i : Int) {a b : α}
    (h : ∀ q (hq : q < m), R u[q] v[q]) (hab : R a b) :
    SameOutcome (fun u v : Vector α m => ∀ q (hq : q < m), R u[q] v[q])
      (store u i a) (store v i b) := by
  unfold store
  split
  · split
    · next hi =>
      refine .ok fun q hq => ?_
      by_cases hqi : i.toNat = q
      · subst hqi
        simpa only [Vector.getElem_set_self] using hab
      · simpa only [Vector.getElem_set_ne hi hq hqi] using h q hq
    · exact .error _
  · exact .error _

theorem getShuntValue_sim (dev : Ina3221) (ch : Ina3221Channel) (k : Nat) :
    SameOutcome (fun a b => a.2 = b.2 ∧
        Approx (2 * u32 + 4 * u64) (2 ^ (-21 : ℤ)) a.1.2 b.1.2)
      (espErrorCheck (Powermeter.ina3221GetShuntValue w dev ch) k)
      (espErrorCheck (ina3221GetShuntValue w dev ch) k) := by
  unfold espErrorCheck Powermeter.ina3221GetShuntValue ina3221GetShuntValue
  by_cases hs : dev.shunt ch = 0
  · rw [if_pos hs, if_pos hs]
    exact .error _
  · rw [if_neg hs, if_neg hs, bind_run, bind_run]
    cases readReg16 w dev (ina3221RegShuntvoltage1 + UInt8.ofNat (ch.toNat * 2)) k with
    | error e => exact .error _
    | ok r => exact .ok ⟨rfl, shuntValue_approx dev r.1.toInt16 hs⟩

theorem execMeasurement_sim (h : Simulates s t) :
    SameOutcome (fun a b => SlotNear a.2.ticks a.1 b.1 ∧ Simulates a.2 b.2)
      (Powermeter.execMeasurement w channel s) (execMeasurement w channel t) := by
  unfold Powermeter.execMeasurement execMeasurement getIna3221ForChannel
  rw [h.sensors, h.transfers]
  refine (sameOutcome_eq _).bind fun sensor _ hsensor => ?_
  subst hsensor
  refine (sameOutcome_eq _).bind fun r _ hr => ?_
  subst hr
  refine (getShuntValue_sim r.1 _ r.2).bind fun a b hab => ?_
  refine (load_sim _ h.slots).bind fun prev prev' hprev => ?_
  simp only [espTimerGetTime, h.ticks, ← hab.1]
  exact .ok ⟨slotNear_next hprev hab.2 _, rfl, rfl, rfl,
    fun q hq => (h.slots q hq).mono (Nat.le_succ _)⟩

theorem measureChannel_sim (h : Simulates s t) :
    SameOutcome Simulates (Powermeter.measureChannel w channel s) (measureChannel w channel t) := by
  unfold Powermeter.measureChannel measureChannel
  refine (execMeasurement_sim h).bind fun a b hab => ?_
  refine (store_sim _ hab.2.slots hab.1).bind fun u v huv => ?_
  exact .ok ⟨hab.2.sensors, hab.2.ticks, hab.2.transfers, huv⟩

theorem sweep_sim (fuel : Nat) (h : Simulates s t) :
    Option.Rel (SameOutcome Simulates) (Powermeter.sweep w fuel s) (sweep w fuel t) := by
  refine loop_sim (R := Simulates) ?_ fuel 1 h
  intro i s t hst
  exact measureChannel_sim hst

theorem initSlot_sim (h : Simulates s t) :
    SameOutcome Simulates (initSlot w channel s) (initSlot w channel t) := by
  unfold initSlot
  simp only [espTimerGetTime, h.ticks]
  refine (store_sim _ h.slots (slotNear_zero s.ticks rfl rfl)).bind fun u v huv => ?_
  exact .ok ⟨h.sensors, rfl, h.transfers, fun q hq => (huv q hq).mono (Nat.le_succ _)⟩

theorem initMeasurements_sim (fuel : Nat) (h : Simulates s t) :
    Option.Rel (SameOutcome Simulates) (initMeasurements w fuel s)
      (initMeasurements w fuel t) := by
  refine loop_sim (R := Simulates) ?_ fuel 0 h
  intro i s t hst
  exact initSlot_sim hst

theorem simulates_refl (hzero : ∀ q (h : q < amountOfChannels n),
    s.measurements[q].current = 0 ∧ s.measurements[q].energyConsumption = 0) : Simulates s s :=
  ⟨rfl, rfl, rfl, fun q hq => slotNear_zero _ (hzero q hq).1 (hzero q hq).2⟩

/-- **The same program**: whatever the bus does, the program in floating point makes the same
calls, ends in the same error, and has the same measurements up to the errors of `SlotNear`. -/
theorem startPowerMeasurements_sim (fuel k : Nat) :
    Option.Rel (SameOutcome Simulates)
      (Powermeter.startPowerMeasurements w fuel k (Meter.start n))
      (startPowerMeasurements w fuel k (Meter.start n)) := by
  induction k with
  | zero =>
    unfold Powermeter.startPowerMeasurements startPowerMeasurements
    cases hset : setUpSensors w (Meter.start n) with
    | error e => exact .some (.error e)
    | ok s =>
      -- the set-up leaves the measurements as they are
      obtain ⟨vs, gnd, -, -, -, -, -, -, rfl⟩ := setUpSensors_eq_ok hset
      refine initMeasurements_sim fuel (simulates_refl fun q hq => ?_)
      simp [Meter.start, PowerMeasurement.zero]
  | succ k ih =>
    unfold Powermeter.startPowerMeasurements startPowerMeasurements
    revert ih
    generalize Powermeter.startPowerMeasurements w fuel k (Meter.start n) = x
    generalize startPowerMeasurements w fuel k (Meter.start n) = y
    rintro (h | _)
    · cases h with
      | error e => exact .some (.error e)
      | ok h => exact sweep_sim fuel h
    · exact .none

end Simulation

/-! ## The energy is the integral of the current -/

def slotAfter (w : World) (fuel k c : Nat) : Option PowerMeasurement :=
  match startPowerMeasurements w fuel k (Meter.start 2) with
  | some (.ok s) => s.measurements[c - 1]?
  | _ => none

/-- The run in exact arithmetic has one in floating point beside it. -/
theorem floatRun_ok {w : World} (hw : w.DriverOk) {fuel : Nat} (hfuel : 7 ≤ fuel) (k : Nat) :
    ∃ s t, SweepInv w 2 sensorAddr 12 k 0 s ∧
      startPowerMeasurements w fuel k (Meter.start 2) = some (.ok t) ∧ Simulates s t := by
  obtain ⟨s0, hset, hI0⟩ := setUpSensors_ok hw
  have hf : amountOfChannels 2 < fuel := hfuel
  obtain ⟨s, hs, hI⟩ := startPowerMeasurements_ok hw (by decide) hf hset hI0 k
  have hsim := startPowerMeasurements_sim (n := 2) (w := w) fuel k
  rw [hs] at hsim
  generalize startPowerMeasurements w fuel k (Meter.start 2) = y at hsim
  cases hsim with
  | some hsame =>
    cases hsame with
    | ok h => exact ⟨s, _, hI, rfl, h⟩

theorem slotAfter_near {w : World} (hw : w.DriverOk) {fuel c : Nat} (hfuel : 7 ≤ fuel)
    (h1 : 1 ≤ c) (h6 : c ≤ 6) (k : Nat) :
    ∃ m, slotAfter w fuel k c = some m ∧
      SlotNear (6 * (k + 1)) (slotAt w 2 sensorAddr 12 (c - 1) k) m := by
  obtain ⟨s, t, hI, hrun, ht⟩ := floatRun_ok hw hfuel k
  have hp : c - 1 < amountOfChannels 2 := by
    show c - 1 < 6
    omega
  have hslot := ht.slots (c - 1) hp
  rw [hI.slots (c - 1) hp, if_neg (Nat.not_lt_zero _), hI.ticks] at hslot
  refine ⟨t.measurements[c - 1], ?_, hslot⟩
  unfold slotAfter
  simp only [hrun, Vector.getElem?_eq_getElem hp]

theorem energyError_sweeps (k : Nat) :
    energyError (6 * (k + 1)) = 4 / 2 ^ 24 + (13 + 6 * k) / 2 ^ 53 := by
  norm_num [energyError, u32, u64, Format.unit, binary32, binary64]
  ring

/-- **In floating point the energy of a channel is the time integral of its current** up to a
fraction of 2⁻²², which grows by six `double` roundings a sweep, and the last current is the
last reading up to a fraction of about 2⁻²³. -/
theorem floatEnergy_near {w : World} (hw : w.DriverOk) (hc : w.ClockMono) {fuel c : Nat}
    (hfuel : 7 ≤ fuel) (h1 : 1 ≤ c) (h6 : c ≤ 6) (k : Nat) :
    ∃ m, slotAfter w fuel k c = some m ∧
      m.descriptor = some .powerMeasurement ∧ m.timestamp = stamp w 2 (c - 1) k ∧
      Near (2 / 2 ^ 24 + 4 / 2 ^ 53)
        (if k = 0 then 0 else |reading w 2 sensorAddr 12 (c - 1) k|) m.current ∧
      Near (4 / 2 ^ 24 + (13 + 6 * k) / 2 ^ 53)
        (Sampled.integral (fun j => |reading w 2 sensorAddr 12 (c - 1) j|)
          (fun j => ((stamp w 2 (c - 1) j).toNat : ℚ)) k / 10 ^ 6) m.energyConsumption := by
  obtain ⟨m, hm, hslot⟩ := slotAfter_near hw hfuel h1 h6 k
  have henergy := hslot.energy
  have hcurrent := hslot.current
  rw [slotAt_energy hc, energyError_sweeps] at henergy
  rw [slotAt_current] at hcurrent
  refine ⟨m, hm, ?_, ?_, hcurrent.mono (le_of_eq ?_), henergy⟩
  · rw [hslot.descriptor, slotAt_descriptor]
  · rw [hslot.timestamp, slotAt_timestamp]
  · norm_num [u32, u64, Format.unit, binary32, binary64]

theorem integral_steadyWorld :
    Sampled.integral (fun j => |reading steadyWorld 2 sensorAddr 12 3 j|)
      (fun j => ((stamp steadyWorld 2 3 j).toNat : ℚ)) 2 / 10 ^ 6 = 24 := by
  have ht : ∀ j ≤ 2, (stamp steadyWorld 2 3 j).toNat = (6 * j + 3) * 1000000 := by decide
  simp only [Sampled.integral, Finset.sum_range_succ, Finset.sum_range_zero, reading_steadyWorld,
    ht 0 (by decide), ht 1 (by decide), ht 2 (by decide)]
  norm_num

/-- The energy is the 24 mAs of these two sweeps, up to that fraction. -/
theorem floatEnergy_near_steadyWorld :
    ∃ m, slotAfter steadyWorld 7 2 4 = some m ∧
      Near (4 / 2 ^ 24 + (13 + 6 * 2) / 2 ^ 53) 24 m.energyConsumption := by
  obtain ⟨m, hm, -, -, -, henergy⟩ := floatEnergy_near steadyWorld_driverOk steadyWorld_clockMono
    (show 7 ≤ 7 by decide) (show 1 ≤ 4 by decide) (show 4 ≤ 6 by decide) 2
  rw [integral_steadyWorld, Nat.cast_ofNat] at henergy
  exact ⟨m, hm, henergy⟩

/-! ## The energy does not fall -/

/-- The energies are `double`s, and none has fallen since `s`. -/
structure Risen {n : Nat} (s s' : Meter n) : Prop where
  nonneg : ∀ q (h : q < amountOfChannels n), 0 ≤ s'.measurements[q].energyConsumption
  double : ∀ q (h : q < amountOfChannels n),
    binary64.fl s'.measurements[q].energyConsumption = s'.measurements[q].energyConsumption
  le : ∀ q (h : q < amountOfChannels n),
    s.measurements[q].energyConsumption ≤ s'.measurements[q].energyConsumption

section Risen

variable {n fuel k k' : Nat} {w : World} {s s' s'' : Meter n} {channel : UInt8}

theorem le_fl_add {e p : ℚ} (h0 : 0 ≤ e) (hdouble : binary64.fl e = e) (hp : 0 ≤ p) :
    e ≤ binary64.fl (e + p) := by
  have hmono := binary64.fl_mono (add_nonneg h0 hp) (le_add_of_nonneg_right hp)
  rwa [hdouble] at hmono

theorem nextMeasurement_energy {prev : PowerMeasurement} (h0 : 0 ≤ prev.energyConsumption)
    (hdouble : binary64.fl prev.energyConsumption = prev.energyConsumption) (now : UInt64)
    (current : ℚ) :
    prev.energyConsumption ≤ (nextMeasurement prev now current).energyConsumption ∧
      binary64.fl (nextMeasurement prev now current).energyConsumption =
        (nextMeasurement prev now current).energyConsumption := by
  refine ⟨le_fl_add h0 hdouble ?_, binary64.fl_fl _⟩
  exact binary32.fl_nonneg (mul_nonneg (abs_nonneg _) (elapsedSeconds_nonneg _))

/-- A measurement replaces the slot it has read. -/
theorem measureChannel_eq_ok (h : measureChannel w channel s = .ok s') :
    ∃ current transfers i, ∃ hi : i < amountOfChannels n,
      s' = { s with
        measurements := s.measurements.set i
          (nextMeasurement s.measurements[i] (w.clock s.ticks) current) hi
        ticks := s.ticks + 1
        transfers := transfers } := by
  obtain ⟨⟨m, s1⟩, hm, h⟩ := bind_eq_ok h
  obtain ⟨ms, hms, h⟩ := bind_eq_ok h
  cases h
  obtain ⟨-, hi, rfl⟩ := store_eq_ok hms
  obtain ⟨_, -, hm⟩ := bind_eq_ok hm
  obtain ⟨⟨_, _⟩, -, hm⟩ := bind_eq_ok hm
  obtain ⟨⟨⟨_, current⟩, t⟩, -, hm⟩ := bind_eq_ok hm
  obtain ⟨prev, hprev, hm⟩ := bind_eq_ok hm
  cases hm
  obtain ⟨-, -, rfl⟩ := load_eq_ok hprev
  exact ⟨current, t, _, hi, rfl⟩

theorem Risen.set (h : Risen s s') {i : Nat} (hi : i < amountOfChannels n)
    {m : PowerMeasurement} (hset : s''.measurements = s'.measurements.set i m hi)
    (h0 : 0 ≤ m.energyConsumption) (hdouble : binary64.fl m.energyConsumption = m.energyConsumption)
    (hle : s.measurements[i].energyConsumption ≤ m.energyConsumption) : Risen s s'' := by
  have hslot : ∀ q (hq : q < amountOfChannels n), 0 ≤ s''.measurements[q].energyConsumption ∧
      binary64.fl s''.measurements[q].energyConsumption = s''.measurements[q].energyConsumption ∧
      s.measurements[q].energyConsumption ≤ s''.measurements[q].energyConsumption := by
    intro q hq
    simp only [hset]
    by_cases hqi : i = q
    · subst hqi
      rw [Vector.getElem_set_self]
      exact ⟨h0, hdouble, hle⟩
    · rw [Vector.getElem_set_ne hi hq hqi]
      exact ⟨h.nonneg q hq, h.double q hq, h.le q hq⟩
  exact ⟨fun q hq => (hslot q hq).1, fun q hq => (hslot q hq).2.1, fun q hq => (hslot q hq).2.2⟩

theorem risen_measure (h : Risen s s') (hm : measureChannel w channel s' = .ok s'') :
    Risen s s'' := by
  obtain ⟨current, transfers, i, hi, rfl⟩ := measureChannel_eq_ok hm
  obtain ⟨hle, hdouble⟩ := nextMeasurement_energy (h.nonneg i hi) (h.double i hi)
    (w.clock s'.ticks) current
  exact h.set hi rfl ((h.nonneg i hi).trans hle) hdouble ((h.le i hi).trans hle)

theorem risen_sweep (h : Risen s s') (hs : sweep w fuel s' = some (.ok s'')) : Risen s s'' :=
  (loop_inv (I := Risen s) (E := fun _ => True) (fun _ _ _ => risen_measure) (fun _ _ _ _ _ => ⟨⟩)
    h).1 s'' hs

theorem risen_init (h : Risen s s) (hzero : ∀ q (h : q < amountOfChannels n),
    s.measurements[q].energyConsumption = 0) (hs : initMeasurements w fuel s = some (.ok s')) :
    Risen s s' := by
  refine (loop_inv (I := Risen s) (E := fun _ => True) ?_ (fun _ _ _ _ _ => ⟨⟩) h).1 s' hs
  intro i u u' hu hinit
  obtain ⟨hi, rfl⟩ := initSlot_eq_ok hinit
  exact hu.set hi rfl le_rfl (Format.fl_zero _) (hzero _ hi).le

theorem Risen.refl (h : Risen s s') : Risen s' s' := ⟨h.nonneg, h.double, fun _ _ => le_rfl⟩

theorem risen_run (h : startPowerMeasurements w fuel k (Meter.start n) = some (.ok s)) :
    Risen s s := by
  induction k generalizing s with
  | zero =>
    unfold startPowerMeasurements at h
    cases hset : setUpSensors w (Meter.start n) with
    | error e => simp [hset] at h
    | ok s₀ =>
      simp only [hset] at h
      have hzero : ∀ q (hq : q < amountOfChannels n),
          s₀.measurements[q].energyConsumption = 0 := by
        intro q hq
        obtain ⟨vs, gnd, -, -, -, -, -, -, rfl⟩ := setUpSensors_eq_ok hset
        simp [Meter.start, PowerMeasurement.zero]
      have hrisen : Risen s₀ s₀ :=
        ⟨fun q hq => (hzero q hq).ge, fun q hq => by rw [hzero q hq, Format.fl_zero],
          fun _ _ => le_rfl⟩
      exact (risen_init hrisen hzero h).refl
  | succ k ih =>
    unfold startPowerMeasurements at h
    split at h
    · next s₁ hs₁ => exact (risen_sweep (ih hs₁) h).refl
    · next hne => exact absurd h (hne s)

theorem risen_of_le (hk : k ≤ k')
    (hs : startPowerMeasurements w fuel k (Meter.start n) = some (.ok s))
    (hs' : startPowerMeasurements w fuel k' (Meter.start n) = some (.ok s')) : Risen s s' := by
  induction hk generalizing s' with
  | refl =>
    cases Option.some.inj (hs.symm.trans hs')
    exact risen_run hs
  | step hk ih =>
    unfold startPowerMeasurements at hs'
    split at hs'
    · next s₁ hs₁ => exact risen_sweep (ih hs₁) hs'
    · next hne => exact absurd hs' (hne s')

theorem slotAfter_eq_some {c : Nat} {m : PowerMeasurement}
    (h : slotAfter w fuel k c = some m) :
    ∃ s, startPowerMeasurements w fuel k (Meter.start 2) = some (.ok s) ∧
      ∃ hc : c - 1 < amountOfChannels 2, s.measurements[c - 1] = m := by
  unfold slotAfter at h
  split at h
  · next s hs => exact ⟨s, hs, Vector.getElem?_eq_some_iff.mp h⟩
  · cases h

theorem slotAfter_mono {c : Nat} {m m' : PowerMeasurement} (hk : k ≤ k')
    (hm : slotAfter w fuel k c = some m) (hm' : slotAfter w fuel k' c = some m') :
    m.energyConsumption ≤ m'.energyConsumption := by
  obtain ⟨s, hs, hc, rfl⟩ := slotAfter_eq_some hm
  obtain ⟨s', hs', -, rfl⟩ := slotAfter_eq_some hm'
  exact (risen_of_le hk hs hs').le (c - 1) hc

/-- **The energy never falls**, in floating point as in exact arithmetic, for any number of sensors
and whatever the clock and the bus do. -/
theorem floatEnergy_mono (hk : k ≤ k')
    (hs : startPowerMeasurements w fuel k (Meter.start n) = some (.ok s))
    (hs' : startPowerMeasurements w fuel k' (Meter.start n) = some (.ok s')) (q : Nat)
    (hq : q < amountOfChannels n) :
    s.measurements[q].energyConsumption ≤ s'.measurements[q].energyConsumption :=
  (risen_of_le hk hs hs').le q hq

/-- From the first sweep to the fifth, on the sensors of the source. -/
theorem floatEnergy_mono_steadyWorld :
    ∃ s s', startPowerMeasurements steadyWorld 7 1 (Meter.start 2) = some (.ok s) ∧
      startPowerMeasurements steadyWorld 7 5 (Meter.start 2) = some (.ok s') ∧
      s.measurements[3].energyConsumption ≤ s'.measurements[3].energyConsumption := by
  obtain ⟨-, s, -, hs, -⟩ := floatRun_ok steadyWorld_driverOk (show 7 ≤ 7 by decide) 1
  obtain ⟨-, s', -, hs', -⟩ := floatRun_ok steadyWorld_driverOk (show 7 ≤ 7 by decide) 5
  exact ⟨s, s', hs, hs', floatEnergy_mono (by decide) hs hs' 3 (by decide)⟩

end Risen

end Floats

end Powermeter
