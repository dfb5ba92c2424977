import Powermeter.Exporter.Metrics
import Powermeter.Server.Floats

/-!
# The exporter in floating point

`power_metrics.py` with the roundings of Python's `float`, a `double`; the `inc` of the client
library adds with `floatAdd`. The wrapper keeps the highest value it was given, but the counter is
a sum of differences: each increment may move it away from that value by a rounding
(`CounterNear`). With the energies of the powermeter in floating point this bounds the error of
the whole way from the current to the counter.
-/

namespace Powermeter

namespace Floats

open Rounding

/-- Python's `+`. -/
def floatAdd (x y : ℚ) : ℚ := binary64.fl (x + y)

section Update

variable (inc : CounterInc)

def incrementCounterTo (w : CounterWrapper) (newValue : ℚ) : Except ValueError CounterWrapper :=
  if newValue < 0 ∨ newValue < w.counterValue then .ok w
  else
    let difference := binary64.fl (newValue - w.counterValue)
    match inc w.counter difference with
    | .error e => .error e
    | .ok counter => .ok ⟨counter, newValue⟩

def updateMetrics (s : Metrics) (newData : PowerMeasurement) : Except ValueError Metrics :=
  match incrementCounterTo inc s.energyConsumption
    (binary64.fl (newData.energyConsumption / 1000)) with
  | .error e => .error e
  | .ok w => .ok ⟨w, binary64.fl (newData.current / 1000)⟩

def runUpdates (s : Metrics) (data : List PowerMeasurement) : Except ValueError Metrics :=
  data.foldlM (updateMetrics inc) s

end Update

/-- After `count` updates the counter is near the value of the wrapper. -/
structure CounterNear (count : Nat) (w : CounterWrapper) : Prop where
  near : Near ((count + 1) * u64) w.counterValue w.counter
  value : binary64.fl w.counterValue = w.counterValue
  counter : binary64.fl w.counter = w.counter

theorem counterNear_fresh : CounterNear 0 ⟨0, 0⟩ where
  near := (Near.refl le_rfl).mono (by simpa using binary64.unit_pos.le)
  value := Format.fl_zero _
  counter := Format.fl_zero _

section Spec

variable {inc : CounterInc} (hinc : IncSpec floatAdd inc)

include hinc

/-- **One increment** raises no exception, does not lower the counter, and is two roundings, one
of the difference and one of the sum. -/
theorem incrementCounterTo_near {count : Nat} {w : CounterWrapper} (h : CounterNear count w)
    {newValue : ℚ} (hnew : binary64.fl newValue = newValue) :
    ∃ counter, incrementCounterTo inc w newValue = .ok ⟨counter, max w.counterValue newValue⟩ ∧
      CounterNear (count + 1) ⟨counter, max w.counterValue newValue⟩ ∧ w.counter ≤ counter := by
  have hu := binary64.unit_pos
  have hcount : 0 ≤ (count : ℚ) * u64 := mul_nonneg (Nat.cast_nonneg count) hu.le
  unfold incrementCounterTo
  by_cases hlow : newValue < 0 ∨ newValue < w.counterValue
  · have hle : newValue ≤ w.counterValue := by
      rcases hlow with hlow | hlow
      · exact hlow.le.trans h.near.left
      · exact hlow.le
    rw [if_pos hlow, max_eq_left hle]
    refine ⟨w.counter, rfl, ⟨h.near.mono ?_, h.value, h.counter⟩, le_rfl⟩
    push_cast
    linarith
  · have hge : w.counterValue ≤ newValue := by
      by_contra hlt
      exact hlow (.inr (not_le.mp hlt))
    have hdiff : 0 ≤ newValue - w.counterValue := sub_nonneg.mpr hge
    have hamount := binary64.fl_nonneg hdiff
    have hnear := ((Near.refl hdiff).fl (binary64.normal_sub hnew h.value) le_rfl).mono
      (φ := (count + 1) * u64) (by linarith)
    have hsum := (h.near.add hnear).fl (binary64.normal_add le_rfl h.counter (Format.fl_fl _ _))
      (by linarith)
    rw [add_sub_cancel] at hsum
    rw [if_neg hlow, max_eq_right hge]
    simp only [hinc.nonneg hamount]
    refine ⟨_, rfl, ⟨hsum.mono ?_, hnew, Format.fl_fl _ _⟩,
      le_fl_add h.near.right h.counter hamount⟩
    push_cast
    linarith

theorem updateMetrics_near {count : Nat} {s : Metrics} (h : CounterNear count s.energyConsumption)
    (m : PowerMeasurement) :
    ∃ s', updateMetrics inc s m = .ok s' ∧ CounterNear (count + 1) s'.energyConsumption ∧
      s'.energyConsumption.counterValue = max s.energyConsumption.counterValue
        (binary64.fl (m.energyConsumption / 1000)) ∧
      s.energyConsumption.counter ≤ s'.energyConsumption.counter := by
  have hvalue := binary64.fl_fl (m.energyConsumption / 1000)
  obtain ⟨counter, hinc, hnear, hle⟩ := incrementCounterTo_near hinc h hvalue
  refine ⟨⟨_, binary64.fl (m.current / 1000)⟩, ?_, hnear, rfl, hle⟩
  unfold updateMetrics
  rw [hinc]

/-- **Any number of updates** of a fresh exporter: no increment is negative, the wrapper has the
highest energy, and the counter is near it. -/
theorem runUpdates_near (data : List PowerMeasurement) :
    ∃ s, runUpdates inc .fresh data = .ok s ∧ CounterNear data.length s.energyConsumption ∧
      s.energyConsumption.counterValue = binary64.fl (peakEnergy data) := by
  induction data using List.reverseRecOn with
  | nil =>
    refine ⟨.fresh, rfl, counterNear_fresh, ?_⟩
    simp [peakEnergy, Metrics.fresh]
  | append_singleton data m ih =>
    obtain ⟨s, hs, hnear, hvalue⟩ := ih
    obtain ⟨s', hs', hnear', hvalue', -⟩ := updateMetrics_near hinc hnear m
    refine ⟨s', ?_, ?_, ?_⟩
    · unfold runUpdates at hs ⊢
      rw [List.foldlM_append, hs]
      show List.foldlM (updateMetrics inc) s [m] = _
      rw [List.foldlM_cons, hs']
      rfl
    · rw [List.length_append, List.length_singleton]
      exact hnear'
    · rw [hvalue', peakEnergy_snoc, binary64.fl_max (peakEnergy_nonneg data), ← hvalue]

end Spec

/-! ## From the current to the counter -/

section Counter

variable {w : World} {fuel c : Nat}

def energyAfter (w : World) (fuel c k : Nat) : ℚ :=
  ((slotAfter w fuel k c).map (·.energyConsumption)).getD 0

theorem energyAfter_eq {k : Nat} {m : PowerMeasurement} (h : slotAfter w fuel k c = some m) :
    energyAfter w fuel c k = m.energyConsumption := by
  unfold energyAfter
  rw [h, Option.map_some, Option.getD_some]

theorem energyAfter_mono (hw : w.DriverOk) (hfuel : 7 ≤ fuel) (h1 : 1 ≤ c) (h6 : c ≤ 6) :
    Monotone (energyAfter w fuel c) := by
  intro k k' hk
  obtain ⟨m, hm, -⟩ := slotAfter_near hw hfuel h1 h6 k
  obtain ⟨m', hm', -⟩ := slotAfter_near hw hfuel h1 h6 k'
  rw [energyAfter_eq hm, energyAfter_eq hm']
  exact slotAfter_mono hk hm hm'

theorem energyAfter_zero (hw : w.DriverOk) (hfuel : 7 ≤ fuel) (h1 : 1 ≤ c) (h6 : c ≤ 6) :
    energyAfter w fuel c 0 = 0 := by
  obtain ⟨m, hm, hnear⟩ := slotAfter_near hw hfuel h1 h6 0
  have hge := hnear.energy.ge
  rw [energyError_sweeps] at hge
  norm_num [slotAt, PowerMeasurement.init] at hge
  rw [energyAfter_eq hm]
  exact le_antisymm (by linarith) hnear.energy.right

theorem peakEnergy_sweeps (hw : w.DriverOk) (hfuel : 7 ≤ fuel) (h1 : 1 ≤ c) (h6 : c ≤ 6)
    {ks : List Nat} {data : List PowerMeasurement}
    (hdata : ks.map (slotAfter w fuel · c) = data.map some) :
    peakEnergy data = energyAfter w fuel c (peak ks) / 1000 := by
  have hmap : data.map (·.energyConsumption) = ks.map (energyAfter w fuel c) := by
    have h := congrArg (List.map fun m => (m.map (·.energyConsumption)).getD 0) hdata
    rw [List.map_map, List.map_map] at h
    exact h.symm
  unfold peakEnergy
  rw [hmap, peak_map_of_monotone (energyAfter_mono hw hfuel h1 h6)
    (energyAfter_zero hw hfuel h1 h6)]

/-- **From the current to the counter in floating point.** Whatever measurements of a channel
arrive, after sweeps `ks` in any order and any number of times, no increment raises an exception,
the counter is the time integral of the current up to the last of these sweeps but for a
fraction of 2⁻²², which grows by six roundings a sweep and one an update, and no further
measurement lowers it. -/
theorem floatCounter_near {inc : CounterInc} (hinc : IncSpec floatAdd inc) (hw : w.DriverOk)
    (hc : w.ClockMono) (hfuel : 7 ≤ fuel) (h1 : 1 ≤ c) (h6 : c ≤ 6) {ks : List Nat}
    {data : List PowerMeasurement}
    (hdata : ks.map (slotAfter w fuel · c) = data.map some) :
    ∃ s, runUpdates inc .fresh data = .ok s ∧
      Near (4 / 2 ^ 24 + (15 + 6 * peak ks + ks.length) / 2 ^ 53)
        (Sampled.integral (fun j => |reading w 2 sensorAddr 12 (c - 1) j|)
          (fun j => ((stamp w 2 (c - 1) j).toNat : ℚ)) (peak ks) / 10 ^ 6 / 1000)
        s.energyConsumption.counter ∧
      ∀ m, ∃ s', updateMetrics inc s m = .ok s' ∧
        s.energyConsumption.counter ≤ s'.energyConsumption.counter := by
  obtain ⟨s, hs, hcounter, hvalue⟩ := runUpdates_near hinc data
  obtain ⟨m, hm, hslot⟩ := slotAfter_near hw hfuel h1 h6 (peak ks)
  have hlength : data.length = ks.length := by
    simpa using (congrArg List.length hdata).symm
  have henergy := hslot.energy.mul (Near.refl (x := 1 / 1000) (by norm_num))
    (energyError_nonneg _) le_rfl
  rw [slotAt_energy hc, energyError_sweeps, mul_one_div, mul_one_div, add_zero] at henergy
  have hn : binary64.Normal (m.energyConsumption / 1000) := by
    rcases hslot.clear with h | h
    · rw [h, zero_div]
      exact .inr ⟨0, by simp⟩
    · refine .inl ((least_le (b := 2 ^ (-48 : ℤ) / 1000) (by norm_num)).2.trans ?_)
      rw [abs_of_nonneg henergy.right]
      exact div_le_div_of_nonneg_right h (by norm_num)
  have hround := henergy.fl hn (by positivity)
  rw [← energyAfter_eq hm, ← peakEnergy_sweeps hw hfuel h1 h6 hdata, ← hvalue] at hround
  have htotal := hround.trans hcounter.near
    (add_nonneg (by positivity) binary64.unit_pos.le)
    (mul_nonneg (by positivity) binary64.unit_pos.le)
  refine ⟨s, hs, htotal.mono (le_of_eq ?_), fun m => ?_⟩
  · rw [hlength]
    norm_num [u64, Format.unit, binary64]
    ring
  · obtain ⟨s', hs', -, -, hle⟩ := updateMetrics_near hinc hcounter m
    exact ⟨s', hs', hle⟩

def floatInc : CounterInc := fun value amount =>
  if amount < 0 then .error .negativeAmount else .ok (floatAdd value amount)

theorem floatInc_spec : IncSpec floatAdd floatInc where
  nonneg h := if_neg (not_lt.mpr h)
  negative h := if_pos h

/-- Sweep 2 arrives twice, and sweep 1 late: the counter is near 24 mAs. -/
theorem floatCounter_near_steadyWorld :
    ∃ data s, [2, 1, 2].map (slotAfter steadyWorld 7 · 4) = data.map some ∧
      runUpdates floatInc .fresh data = .ok s ∧
      Near (4 / 2 ^ 24 + (15 + 6 * 2 + 3) / 2 ^ 53) (24 / 1000) s.energyConsumption.counter := by
  obtain ⟨m₁, hm₁, -⟩ := slotAfter_near steadyWorld_driverOk (show 7 ≤ 7 by decide)
    (show 1 ≤ 4 by decide) (show 4 ≤ 6 by decide) 1
  obtain ⟨m₂, hm₂, -⟩ := slotAfter_near steadyWorld_driverOk (show 7 ≤ 7 by decide)
    (show 1 ≤ 4 by decide) (show 4 ≤ 6 by decide) 2
  have hdata : [2, 1, 2].map (slotAfter steadyWorld 7 · 4) = [m₂, m₁, m₂].map some := by
    simp only [List.map_cons, List.map_nil, hm₁, hm₂]
  obtain ⟨s, hs, hnear, -⟩ := floatCounter_near floatInc_spec steadyWorld_driverOk
    steadyWorld_clockMono (show 7 ≤ 7 by decide) (show 1 ≤ 4 by decide) (show 4 ≤ 6 by decide) hdata
  have hpeak : peak [2, 1, 2] = 2 := by decide
  rw [hpeak, integral_steadyWorld] at hnear
  exact ⟨_, s, hdata, hs, by exact_mod_cast hnear⟩

end Counter

end Floats

end Powermeter
