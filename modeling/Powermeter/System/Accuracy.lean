import Powermeter.Lib.Riemann
import Powermeter.System.Counter

/-!
# How accurate the counter is

The current of a device as it really is, a function of the time since the powermeter booted,
beside the readings of its channel. What arrives at the exporter is the time integral of that
current, up to an error that grows with the time only: it is the same for each sweep, however
many there are, and in exact arithmetic nothing on the way to the exporter adds to it.
-/

namespace Powermeter

open scoped NNReal

variable {ν : Type} [DecidableEq ν] {inc : CounterInc} {own : ν → Bool} {channel : UInt8}
  {worlds : Nat → World} {as : List (DeploymentEvent ν)} {w : World} {I : ℝ → ℝ} {L : ℝ≥0}
  {q h : ℝ}

/-- The time stamps of a channel, in microseconds. -/
def stampTime (w : World) (channel : UInt8) (j : Nat) : ℝ :=
  ((stamp w 2 (channel.toNat - 1) j).toNat : ℝ)

/-- What sweep `j` reads from a channel, in mA. -/
def sampledCurrent (w : World) (channel : UInt8) (j : Nat) : ℝ :=
  (reading w 2 sensorAddr 12 (channel.toNat - 1) j : ℝ)

/-- The readings of a channel follow the current `I` (in mA, over microseconds): it changes by at
most `L` mA each microsecond, a reading is off by at most `q` mA, and sweeps are at most `h`
microseconds apart. -/
structure Follows (w : World) (channel : UInt8) (I : ℝ → ℝ) (L : ℝ≥0) (q h : ℝ) : Prop where
  lipschitz : LipschitzWith L I
  reading : ∀ j ≥ 1, |sampledCurrent w channel j - I (stampTime w channel j)| ≤ q
  step : ∀ j, stampTime w channel (j + 1) - stampTime w channel j ≤ h

theorem stampTime_mono (hclock : w.ClockMono) : Monotone (stampTime w channel) := by
  intro i j hij
  have h := stamp_mono (n := 2) hclock (channel.toNat - 1) hij
  have h' : (stamp w 2 (channel.toNat - 1) i).toNat ≤ (stamp w 2 (channel.toNat - 1) j).toNat :=
    Nat.cast_le.mp h
  exact Nat.cast_le.mpr h'

theorem Follows.magnitude (hI : Follows w channel I L q h) : LipschitzWith L fun x => |I x| := by
  have hcomp := lipschitzWith_one_norm.comp hI.lipschitz
  rwa [one_mul] at hcomp

theorem channelIntegral_cast (j : Nat) :
    (channelIntegral w channel j : ℝ) =
      Sampled.integral (fun i => |sampledCurrent w channel i|) (stampTime w channel) j /
        10 ^ 6 := by
  unfold channelIntegral
  rw [Rat.cast_div, Sampled.cast_integral]
  simp only [Rat.cast_abs, Rat.cast_natCast, Rat.cast_pow, Rat.cast_ofNat]
  rfl

/-- **The energy of a channel is the integral of its current**, up to the error of a sample. -/
theorem channelIntegral_accuracy (hclock : w.ClockMono) (hI : Follows w channel I L q h)
    (j : Nat) :
    |(channelIntegral w channel j : ℝ) -
      (∫ x in stampTime w channel 0..stampTime w channel j, |I x|) / 10 ^ 6| ≤
      (q + L * h) * (stampTime w channel j - stampTime w channel 0) / 10 ^ 6 := by
  have hreading : ∀ i < j,
      abs (|sampledCurrent w channel (i + 1)| - |I (stampTime w channel (i + 1))|) ≤ q :=
    fun i _ => (abs_abs_sub_abs_le _ _).trans (hI.reading (i + 1) (Nat.le_add_left 1 i))
  have hbound := Sampled.abs_integral_sub_le (i := fun i => |sampledCurrent w channel i|)
    hI.magnitude (stampTime_mono hclock) j hreading fun i _ => hI.step i
  rw [channelIntegral_cast, ← sub_div, abs_div, abs_of_pos (show (0 : ℝ) < 10 ^ 6 by norm_num)]
  exact div_le_div_of_nonneg_right hbound (by norm_num)

/-- **The counter is accurate.** Where the readings of a node's channel follow the current of its
device in every power-on, each energy at the exporter of the node is the integral of that current
from `init_measurements` after a boot to the last sweep at some moment of the run, up to an error
that grows with this time only. -/
theorem counter_accuracy {I : Nat → ℝ → ℝ} {s : Deployment ν 2} (hw : ∀ k, (worlds k).DriverOk)
    (hclock : ∀ k, (worlds k).ClockMono) (hI : ∀ k, Follows (worlds k) channel (I k) L q h)
    (h1 : 1 ≤ channel.toNat) (h6 : channel.toNat ≤ 6)
    (hs : (deployment inc own channel 2 worlds).run as = some s) :
    ∀ m ∈ s.node.exporter.updates, ∃ pre post s₁, as = pre ++ post ∧
      (deployment inc own channel 2 worlds).run pre = some s₁ ∧
      m.energyConsumption = s₁.channelEnergy channel ∧
      |(m.energyConsumption : ℝ) -
        (∫ x in stampTime (worlds s₁.session) channel 0..stampTime (worlds s₁.session) channel
          (lastSweep channel pre s₁), |I s₁.session x|) / 10 ^ 6| ≤
      (q + L * h) * (stampTime (worlds s₁.session) channel (lastSweep channel pre s₁) -
        stampTime (worlds s₁.session) channel 0) / 10 ^ 6 := by
  intro m hm
  obtain ⟨pre, post, s₁, he, hs₁, hx⟩ := (storesOwn_occurred hs).node.updates m hm
  refine ⟨pre, post, s₁, he, hs₁, hx.symm, ?_⟩
  rw [← hx, channelEnergy_integral hw hclock h1 h6 hs₁]
  exact channelIntegral_accuracy (hclock _) (hI _) _

theorem follows_steadyWorld : Follows steadyWorld 1 (fun _ => 2) 0 0 6000000 where
  lipschitz := LipschitzWith.const 2
  reading j _ := by
    have hread : sampledCurrent steadyWorld 1 j = 2 := by
      show ((Powermeter.reading steadyWorld 2 sensorAddr 12 0 j : ℚ) : ℝ) = 2
      rw [reading_steadyWorld]
      rfl
    rw [hread, sub_self, abs_zero]
  step j := by
    have hstamp : ∀ i, stampTime steadyWorld 1 i = ((min (6 * i) 1000 * 1000000 : Nat) : ℝ) := by
      intro i
      have hlt : min (6 * i) 1000 * 1000000 < UInt64.size := by
        simp only [UInt64.size]
        omega
      exact congrArg Nat.cast (UInt64.toNat_ofNat_of_lt' hlt)
    have hle : min (6 * (j + 1)) 1000 * 1000000 ≤ 6000000 + min (6 * j) 1000 * 1000000 := by omega
    rw [hstamp, hstamp, sub_le_iff_le_add]
    exact_mod_cast hle

/-- The 12 mAs of the first update are the integral of these 2 mA up to a sweep of the run, with no
error at all. -/
theorem counter_accuracy_firstUpdate :
    ∃ s, (deployment exactInc (· == 7) 1 2 fun _ => steadyWorld).run firstUpdate = some s ∧
      ∃ pre post s₁, firstUpdate = pre ++ post ∧
        (deployment exactInc (· == 7) 1 2 fun _ => steadyWorld).run pre = some s₁ ∧
        (12 : ℝ) = (∫ _ in stampTime steadyWorld 1 0..stampTime steadyWorld 1
          (lastSweep 1 pre s₁), |(2 : ℝ)|) / 10 ^ 6 := by
  obtain ⟨s, hs, hu⟩ := firstUpdate_run
  have hmem : ⟨some .powerMeasurement, 6000000, 12, 2⟩ ∈ s.node.exporter.updates := by
    rw [hu]
    exact List.mem_cons_self
  obtain ⟨pre, post, s₁, he, hs₁, -, hj⟩ := counter_accuracy (fun _ => steadyWorld_driverOk)
    (fun _ => steadyWorld_clockMono) (fun _ => follows_steadyWorld) (by decide) (by decide) hs _
    hmem
  refine ⟨s, hs, pre, post, s₁, he, hs₁, ?_⟩
  rw [NNReal.coe_zero, zero_mul, add_zero, zero_mul, zero_div] at hj
  have hzero := sub_eq_zero.mp (abs_nonpos_iff.mp hj)
  rw [← hzero]
  norm_num

end Powermeter
