import Mathlib.Tactic.Ring
import Powermeter.Exporter.Metrics

/-!
# Reboots of the powermeter

A session are the measurements the exporter gets between two boots of the powermeter,
which starts its energy again at 0, while the exporter keeps the counter of all sessions.
The counter ends at the highest energy of any session (`counterAfter_sessions`), so it is
the sum over the sessions only if at most one of them has delivered any energy.
-/

namespace Powermeter

/-- The energies of a session do not fall, and none is negative. -/
structure Session where
  data : List PowerMeasurement
  nonneg : ∀ m ∈ data, 0 ≤ m.energyConsumption
  rising : data.Pairwise fun a b => a.energyConsumption ≤ b.energyConsumption

/-- The energy delivered last in a session, 0 if none was delivered. -/
def Session.lastEnergy (s : Session) : ℚ := ((s.data.map (·.energyConsumption)).getLast?).getD 0

/-- What the counter shows after an exporter got the measurements of the sessions in turn; `none`
if `Counter.inc` has raised. -/
def counterAfter (inc : CounterInc) (sessions : List Session) : Option ℚ :=
  match runUpdates inc .fresh (sessions.map (·.data)).flatten with
  | .ok s => some s.energyConsumption.counter
  | .error _ => none

/-- The counter ends at the sum of the sessions' energies, in As, having risen in each session by
the energy of that session. -/
def NothingLost (inc : CounterInc) (sessions : List Session) : Prop :=
  counterAfter inc sessions = some ((sessions.map Session.lastEnergy).sum / 1000) ∧
  ∀ pre s post, sessions = pre ++ s :: post →
    ∃ before after, counterAfter inc pre = some before ∧
      counterAfter inc (pre ++ [s]) = some after ∧ after - before = s.lastEnergy / 1000

theorem Session.lastEnergy_nonneg (s : Session) : 0 ≤ s.lastEnergy := by
  unfold lastEnergy
  cases h : (s.data.map (·.energyConsumption)).getLast? with
  | none => exact le_rfl
  | some e =>
    obtain ⟨m, hm, rfl⟩ := List.mem_map.mp (List.mem_of_getLast? h)
    exact s.nonneg m hm

theorem Session.peak_eq (s : Session) :
    peak (s.data.map (·.energyConsumption)) = s.lastEnergy := by
  refine peak_of_sorted (fun e he => ?_) (List.pairwise_map.mpr s.rising)
  obtain ⟨m, hm, rfl⟩ := List.mem_map.mp he
  exact s.nonneg m hm

/-- **The counter ends at the highest energy of any session.** -/
theorem counterAfter_sessions {inc : CounterInc} (hinc : IncSpec (· + ·) inc)
    (sessions : List Session) :
    counterAfter inc sessions = some (peak (sessions.map Session.lastEnergy) / 1000) := by
  obtain ⟨s, hs, hshows⟩ := runUpdates_ok hinc (sessions.map (·.data)).flatten
  have hpeak : peakEnergy (sessions.map (·.data)).flatten =
      peak (sessions.map Session.lastEnergy) / 1000 := by
    unfold peakEnergy
    rw [List.map_flatten, peak_flatten, List.map_map, List.map_map]
    exact congrArg (fun l => peak l / 1000) (List.map_congr_left fun s _ => s.peak_eq)
  simp only [counterAfter, hs]
  rw [hshows, hpeak]

theorem lastEnergies_nonneg (sessions : List Session) :
    ∀ e ∈ sessions.map Session.lastEnergy, 0 ≤ e := by
  intro e he
  obtain ⟨s, -, rfl⟩ := List.mem_map.mp he
  exact s.lastEnergy_nonneg

/-- The counter is the sum exactly when at most one session has delivered energy. -/
theorem counterAfter_eq_sum_iff {inc : CounterInc} (hinc : IncSpec (· + ·) inc)
    (sessions : List Session) :
    counterAfter inc sessions = some ((sessions.map Session.lastEnergy).sum / 1000) ↔
      sessions.Pairwise fun s t => s.lastEnergy = 0 ∨ t.lastEnergy = 0 := by
  rw [counterAfter_sessions hinc, Option.some.injEq, div_left_inj' (by norm_num), eq_comm,
    sum_eq_peak_iff (lastEnergies_nonneg sessions), List.pairwise_map]

/-- **When no energy is lost**: the counter ends at the sum over the sessions, having risen in
each by its energy, if and only if at most one session has delivered any energy. -/
theorem nothingLost_iff {inc : CounterInc} (hinc : IncSpec (· + ·) inc) (sessions : List Session) :
    NothingLost inc sessions ↔
      sessions.Pairwise fun s t => s.lastEnergy = 0 ∨ t.lastEnergy = 0 := by
  rw [← counterAfter_eq_sum_iff hinc]
  refine ⟨And.left, fun hsum => ⟨hsum, ?_⟩⟩
  rintro pre s post rfl
  have hpair := (counterAfter_eq_sum_iff hinc _).mp hsum
  rw [List.append_cons] at hpair
  -- what holds of all sessions holds of the first of them
  have hafter := (List.pairwise_append.mp hpair).1
  have hbefore := (List.pairwise_append.mp hafter).1
  refine ⟨_, _, (counterAfter_eq_sum_iff hinc pre).mpr hbefore,
    (counterAfter_eq_sum_iff hinc (pre ++ [s])).mpr hafter, ?_⟩
  rw [List.map_append, List.sum_append, List.map_singleton, List.sum_singleton]
  ring

def oneMeasurement (energy : Nat) : Session where
  data := [{ PowerMeasurement.init with energyConsumption := energy }]
  nonneg := by simp
  rising := List.pairwise_singleton _ _

/-- A powermeter that is on for 1 As and reboots before the next measurement. -/
theorem nothingLost_oneSession : NothingLost exactInc [oneMeasurement 1000, ⟨[], by simp, .nil⟩] :=
  (nothingLost_iff exactInc_spec _).mpr (by simp [Session.lastEnergy])

/-- 1 As before a reboot and 0.5 As after it: the counter stays at 1 As. -/
theorem nothingLost_fails :
    ¬ NothingLost exactInc [oneMeasurement 1000, oneMeasurement 500] := by
  rintro ⟨hsum, -⟩
  rw [counterAfter_sessions exactInc_spec] at hsum
  norm_num [Session.lastEnergy, oneMeasurement, peak] at hsum

end Powermeter
