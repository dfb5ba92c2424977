import Mathlib.Data.Rat.Defs

/-!
# The measurement message

The structure generated from `powermeasurement.proto`, which server and client both
use as their record of a measurement.
-/

namespace Powermeter

inductive Descriptor where
  | powerMeasurement
  deriving DecidableEq, Repr

/-- The generated `PowerMeasurement`; `descriptor` is `base.descriptor`, `none` for `NULL`.
The energy is in mAs, the current in mA, the timestamp in microseconds. -/
structure PowerMeasurement where
  descriptor : Option Descriptor
  timestamp : UInt64
  energyConsumption : ℚ
  current : ℚ
  deriving DecidableEq, Repr

/-- `POWER_MEASUREMENT__INIT`. -/
def PowerMeasurement.init : PowerMeasurement := ⟨some .powerMeasurement, 0, 0, 0⟩

/-- Static storage before anything was stored in it. -/
def PowerMeasurement.zero : PowerMeasurement := ⟨none, 0, 0, 0⟩

/-- What `power_measurement__get_packed_size` and `power_measurement__pack` assert. -/
def PowerMeasurement.Packable (m : PowerMeasurement) : Prop :=
  m.descriptor = some .powerMeasurement

instance (m : PowerMeasurement) : Decidable m.Packable :=
  inferInstanceAs (Decidable (m.descriptor = some .powerMeasurement))

end Powermeter
