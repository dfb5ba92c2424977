import Mathlib.Algebra.Order.Field.Basic
import Mathlib.Tactic.Linarith
import Powermeter.Lib.Peak
import Powermeter.Message

/-!
# The metrics of the exporter

`power_metrics.py` in exact arithmetic. The counter is that of the client library, whose
`Counter.inc` is the parameter `inc` here; `IncSpec` is what the library documents.
`CounterWrapper` keeps its value a second time. From a fresh exporter on, both are the
largest energy that was passed to `update_metrics` (`runUpdates_ok`).
-/

namespace Powermeter

inductive ValueError where
  | negativeAmount
  deriving DecidableEq, Repr

/-- `Counter.inc`, from the value of the counter and the amount to its new value. -/
abbrev CounterInc := ℚ → ℚ → Except ValueError ℚ

/-- The documented `Counter.inc`, where the values are added with `add`: a negative amount is an
exception. -/
structure IncSpec (add : ℚ → ℚ → ℚ) (inc : CounterInc) : Prop where
  nonneg : ∀ {value amount}, 0 ≤ amount → inc value amount = .ok (add value amount)
  negative : ∀ {value amount}, amount < 0 → inc value amount = .error .negativeAmount

structure CounterWrapper where
  counter : ℚ
  counterValue : ℚ
  deriving DecidableEq, Repr

section Update

variable (inc : CounterInc)

/-- `increment_counter_to`; a lower value is logged as an error and ignored. -/
def incrementCounterTo (w : CounterWrapper) (newValue : ℚ) : Except ValueError CounterWrapper :=
  if newValue < 0 ∨ newValue < w.counterValue then .ok w
  else
    let difference := newValue - w.counterValue
    match inc w.counter difference with
    | .error e => .error e
    | .ok counter => .ok ⟨counter, newValue⟩

/-- `ENERGY_CONSUMPTION_COUNTER` and `ELECTRICAL_CURRENT_GAUGE`. -/
structure Metrics where
  energyConsumption : CounterWrapper
  electricalCurrent : ℚ
  deriving DecidableEq, Repr

def Metrics.fresh : Metrics := ⟨⟨0, 0⟩, 0⟩

/-- `update_metrics`: mAs to As, and mA to A. -/
def updateMetrics (s : Metrics) (newData : PowerMeasurement) : Except ValueError Metrics :=
  match incrementCounterTo inc s.energyConsumption (newData.energyConsumption / 1000) with
  | .error e => .error e
  | .ok w => .ok ⟨w, newData.current / 1000⟩

def runUpdates (s : Metrics) (data : List PowerMeasurement) : Except ValueError Metrics :=
  data.foldlM (updateMetrics inc) s

end Update

/-- The highest energy passed on, in As. -/
def peakEnergy (data : List PowerMeasurement) : ℚ :=
  peak (data.map (·.energyConsumption)) / 1000

/-- The wrapper and the counter agree, on a value that is not negative. -/
structure CounterWrapper.Synced (w : CounterWrapper) : Prop where
  eq : w.counter = w.counterValue
  nonneg : 0 ≤ w.counterValue

theorem peakEnergy_snoc (data : List PowerMeasurement) (m : PowerMeasurement) :
    peakEnergy (data ++ [m]) = max (peakEnergy data) (m.energyConsumption / 1000) := by
  unfold peakEnergy
  rw [List.map_append, List.map_singleton, peak_snoc, max_div_div_right (by norm_num)]

theorem peakEnergy_nonneg (data : List PowerMeasurement) : 0 ≤ peakEnergy data :=
  div_nonneg (zero_le_peak _) (by norm_num)

/-- The counter shows the highest energy passed on since the exporter started. -/
def CounterWrapper.Shows (w : CounterWrapper) (data : List PowerMeasurement) : Prop :=
  w = ⟨peakEnergy data, peakEnergy data⟩

section Spec

variable {inc : CounterInc} (hinc : IncSpec (· + ·) inc)

include hinc

/-- **One increment**: the counter is raised to the new value if that is higher, and the amount
is never negative. -/
theorem incrementCounterTo_ok {w : CounterWrapper} (h : w.Synced) (newValue : ℚ) :
    incrementCounterTo inc w newValue =
      .ok ⟨max w.counterValue newValue, max w.counterValue newValue⟩ := by
  unfold incrementCounterTo
  have hnonneg := h.nonneg
  by_cases hlow : newValue < 0 ∨ newValue < w.counterValue
  · have hle : newValue ≤ w.counterValue := by
      rcases hlow with hlow | hlow <;> linarith
    rw [if_pos hlow, max_eq_left hle]
    exact congrArg Except.ok (by cases w; simpa using h.eq)
  · have hge : w.counterValue ≤ newValue := by
      by_contra hlt
      exact hlow (.inr (not_le.mp hlt))
    rw [if_neg hlow, max_eq_right hge]
    simp only [hinc.nonneg (sub_nonneg.mpr hge), h.eq, add_sub_cancel]

theorem updateMetrics_ok {s : Metrics} (h : s.energyConsumption.Synced) (m : PowerMeasurement) :
    updateMetrics inc s m = .ok
      ⟨⟨max s.energyConsumption.counterValue (m.energyConsumption / 1000),
        max s.energyConsumption.counterValue (m.energyConsumption / 1000)⟩, m.current / 1000⟩ := by
  unfold updateMetrics
  rw [incrementCounterTo_ok hinc h]

theorem shows_update {s : Metrics} {data : List PowerMeasurement}
    (h : s.energyConsumption.Shows data) (m : PowerMeasurement) :
    ∃ s', updateMetrics inc s m = .ok s' ∧ s'.energyConsumption.Shows (data ++ [m]) := by
  have hs : s.energyConsumption.Synced := by
    rw [h]; exact ⟨rfl, peakEnergy_nonneg data⟩
  refine ⟨_, updateMetrics_ok hinc hs m, ?_⟩
  unfold CounterWrapper.Shows
  rw [peakEnergy_snoc, h]

/-- **Any number of updates** of a fresh exporter: no increment is negative, and the counter
shows the highest energy. -/
theorem runUpdates_ok (data : List PowerMeasurement) :
    ∃ s, runUpdates inc .fresh data = .ok s ∧ s.energyConsumption.Shows data := by
  induction data using List.reverseRecOn with
  | nil => exact ⟨.fresh, rfl, by simp [CounterWrapper.Shows, peakEnergy, Metrics.fresh]⟩
  | append_singleton data m ih =>
    obtain ⟨s, hs, hshows⟩ := ih
    obtain ⟨s', hs', hshows'⟩ := shows_update hinc hshows m
    refine ⟨s', ?_, hshows'⟩
    unfold runUpdates at hs ⊢
    rw [List.foldlM_append, hs]
    show List.foldlM (updateMetrics inc) s [m] = _
    rw [List.foldlM_cons, hs']
    rfl

end Spec

def exactInc : CounterInc := fun value amount =>
  if amount < 0 then .error .negativeAmount else .ok (value + amount)

theorem exactInc_spec : IncSpec (· + ·) exactInc where
  nonneg h := if_neg (not_lt.mpr h)
  negative h := if_pos h

end Powermeter
