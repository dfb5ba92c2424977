import Powermeter.Server.Energy

/-!
# Any number of sensors

`CONFIG_AMOUNT_OF_INA3221_SENSORS` sizes the two arrays of `power_measurement.c`, bounds
its two loops over 8-bit counters and is returned as an 8-bit number of channels, while
the set-up writes the sensors 0 and 1 whatever its value. What has to go right is stated
piece by piece, each with the numbers of sensors for which it does; together they leave
the number 2.
-/

namespace Powermeter

/-- Every write of the set-up to `ina3221_sensors` is inside the array. -/
def WritesInBounds (n : Nat) : Prop :=
  ∀ w : World, setUpSensors w (Meter.start n) ≠ .error .outOfBounds

def Initialised (w : World) (dev : Ina3221) : Prop :=
  ∃ dev₀ i2cAddr t t', initIna3221 w dev₀ i2cAddr t = .ok (dev, t')

/-- Every sensor is initialised whenever a sweep starts. -/
def SensorsInitialised (n : Nat) : Prop :=
  ∀ w fuel k s, startPowerMeasurements w fuel k (Meter.start n) = some (.ok s) →
    ∀ i (h : i < n), Initialised w s.sensors[i]

/-- `sweep`, with the channels that were measured. -/
def recordedSweep {n : Nat} (w : World) (fuel : Nat) (s : Meter n) :
    Option (Except Fault (Meter n × List UInt8)) :=
  ByteLoop.loop (fun channel => channel.toNat ≤ amountOfChannels n)
    (ByteLoop.recorded (measureChannel w)) fuel 1 (s, [])

def recordedInit {n : Nat} (w : World) (fuel : Nat) (s : Meter n) :
    Option (Except Fault (Meter n × List UInt8)) :=
  ByteLoop.loop (fun channel => channel.toNat < amountOfChannels n)
    (ByteLoop.recorded (initSlot w)) fuel 0 (s, [])

/-- Every sweep ends with each channel measured once, if no `ESP_ERROR_CHECK` ends it before. -/
def SweepsOnce (n : Nat) : Prop :=
  ∀ w (s : Meter n), (∃ fuel e, recordedSweep w fuel s = some (.error (.espErrorCheck e))) ∨
    ∃ fuel s', recordedSweep w fuel s =
      some (.ok (s', (List.range' 1 (amountOfChannels n)).map UInt8.ofNat))

/-- `init_measurements` ends with each slot initialised. -/
def InitialisesAll (n : Nat) : Prop :=
  ∀ w (s : Meter n), ∃ fuel s', recordedInit w fuel s =
      some (.ok (s', (List.range' 0 (amountOfChannels n)).map UInt8.ofNat)) ∧
    ∀ i (h : i < amountOfChannels n), ∃ t,
      s'.measurements[i] = { PowerMeasurement.init with timestamp := t }

/-- The measurement subsystem is correct for `n` sensors. -/
structure MeasurementsOk (n : Nat) : Prop where
  writes : WritesInBounds n
  sensors : SensorsInitialised n
  sweeps : SweepsOnce n
  init : InitialisesAll n
  channels : (getAmountOfChannels n).toNat = 3 * n

/-! ## The set-up -/

section SetUp

variable {n : Nat} {w : World} {s s' : Meter n}

theorem drv_bind_eq_ok {α β : Type} {x : Drv α} {f : α → Drv β} {t : Nat} {r : β × Nat}
    (h : (x >>= f) t = .ok r) : ∃ a t', x t = .ok (a, t') ∧ f a t' = .ok r := by
  rw [bind_run] at h
  split at h
  · cases h
  · next a t' hx => exact ⟨a, t', hx, h⟩

theorem updateConfig_addr {f : Ina3221Config → Ina3221Config} {dev dev' : Ina3221} {t t' : Nat}
    (h : updateConfig w f dev t = .ok (dev', t')) : dev'.addr = dev.addr := by
  obtain ⟨_, _, -, h⟩ := drv_bind_eq_ok h
  cases h
  rfl

theorem initIna3221_addr {dev dev' : Ina3221} {i2cAddr : UInt8} {t t' : Nat}
    (h : initIna3221 w dev i2cAddr t = .ok (dev', t')) : ina3221I2cAddrGnd ≤ dev'.addr := by
  obtain ⟨d1, _, h1, h⟩ := drv_bind_eq_ok h
  obtain ⟨d2, _, h2, h⟩ := drv_bind_eq_ok h
  obtain ⟨d3, _, h3, h⟩ := drv_bind_eq_ok h
  obtain ⟨d4, _, h4, h⟩ := drv_bind_eq_ok h
  obtain ⟨d5, _, h5, h⟩ := drv_bind_eq_ok h
  obtain ⟨d6, _, h6, h⟩ := drv_bind_eq_ok h
  obtain ⟨_, _, -, h⟩ := drv_bind_eq_ok h
  cases h
  rw [updateConfig_addr h6, updateConfig_addr h5, updateConfig_addr h4, updateConfig_addr h3,
    updateConfig_addr h2]
  unfold ina3221InitDesc at h1
  split at h1
  · cases h1
  · next hr =>
    obtain ⟨_, _, -, h1⟩ := drv_bind_eq_ok h1
    cases h1
    simp only [Bool.or_eq_true, decide_eq_true_eq, not_or] at hr
    exact UInt8.not_lt.mp hr.1

theorem updateConfig_eq_ok {f : Ina3221Config → Ina3221Config} {dev dev' : Ina3221} {t t' : Nat}
    (h : updateConfig w f dev t = .ok (dev', t')) : dev' = { dev with config := f dev.config } := by
  obtain ⟨_, _, -, h⟩ := drv_bind_eq_ok h
  cases h
  rfl

theorem initIna3221_eq_ok {dev dev' : Ina3221} {i2cAddr : UInt8} {t t' : Nat}
    (h : initIna3221 w dev i2cAddr t = .ok (dev', t')) :
    dev' = { dev with
      port := i2cPort
      addr := i2cAddr
      config := { dev.config with
        mode := true, ebus := true, esht := true, ch1 := true, ch2 := true, ch3 := true,
        avg := 0, vbus := 5, vsht := 5 } } := by
  obtain ⟨d1, _, h1, h⟩ := drv_bind_eq_ok h
  obtain ⟨d2, _, h2, h⟩ := drv_bind_eq_ok h
  obtain ⟨d3, _, h3, h⟩ := drv_bind_eq_ok h
  obtain ⟨d4, _, h4, h⟩ := drv_bind_eq_ok h
  obtain ⟨d5, _, h5, h⟩ := drv_bind_eq_ok h
  obtain ⟨d6, _, h6, h⟩ := drv_bind_eq_ok h
  obtain ⟨_, _, -, h⟩ := drv_bind_eq_ok h
  cases h
  have hdesc : d1 = { dev with port := i2cPort, addr := i2cAddr } := by
    unfold ina3221InitDesc at h1
    split at h1
    · cases h1
    · obtain ⟨_, _, -, h1⟩ := drv_bind_eq_ok h1
      cases h1
      rfl
  rw [updateConfig_eq_ok h6, updateConfig_eq_ok h5, updateConfig_eq_ok h4, updateConfig_eq_ok h3,
    updateConfig_eq_ok h2, hdesc]

theorem not_initialised_zero : ¬ Initialised w ina3221Zero := by
  rintro ⟨dev₀, i2cAddr, t, t', h⟩
  exact absurd (initIna3221_addr h) (by decide)

theorem espErrorCheck_eq_error {α : Type} {x : Drv α} {t : Nat} {e : Fault}
    (h : espErrorCheck x t = .error e) : ∃ e', e = .espErrorCheck e' := by
  unfold espErrorCheck at h
  split at h
  · next e' _ => cases h; exact ⟨e', rfl⟩
  · cases h

theorem store_zero (hn : 2 ≤ n) (v : Vector Ina3221 n) (dev : Ina3221) :
    store v 0 dev = .ok (v.set 0 dev) :=
  store_ofNat (i := 0) (by omega) dev

theorem store_one (hn : 2 ≤ n) (v : Vector Ina3221 n) (dev : Ina3221) :
    store v 1 dev = .ok (v.set 1 dev) :=
  store_ofNat (i := 1) (by omega) dev

/-- With two sensors or more only an `ESP_ERROR_CHECK` stops the set-up. -/
theorem setUpSensors_error {e : Fault} (hn : 2 ≤ n) (h : setUpSensors w s = .error e) :
    ∃ e', e = .espErrorCheck e' := by
  rcases bind_eq_error h with h | ⟨⟨_, _⟩, -, h⟩
  · exact espErrorCheck_eq_error h
  rcases bind_eq_error h with h | ⟨⟨vs, _⟩, -, h⟩
  · exact espErrorCheck_eq_error h
  rcases bind_eq_error h with h | ⟨⟨gnd, _⟩, -, h⟩
  · exact espErrorCheck_eq_error h
  rw [store_zero hn] at h
  rcases bind_eq_error h with h | ⟨_, -, h⟩
  · cases h
  · rw [store_one hn] at h
    rcases bind_eq_error h with h | ⟨_, -, h⟩
    · cases h
    · cases h

theorem setUpSensors_sensors (h : setUpSensors w s = .ok s') :
    ∃ vs gnd, Initialised w vs ∧ Initialised w gnd ∧ ∃ hn : 1 < n,
      s'.sensors = (s.sensors.set 0 vs (Nat.zero_lt_of_lt hn)).set 1 gnd hn := by
  obtain ⟨vs, gnd, _, _, _, hvs, hgnd, hn, rfl⟩ := setUpSensors_eq_ok h
  exact ⟨vs, gnd, ⟨_, _, _, _, hvs⟩, ⟨_, _, _, _, hgnd⟩, hn, rfl⟩

theorem setUpSensors_ends (hw : w.DriverOk) (hn : 2 ≤ n) (s : Meter n) :
    ∃ s', setUpSensors w s = .ok s' := by
  obtain ⟨vs, gnd, -, -, hset⟩ := setUpSensors_eq hw s
  rw [hset, store_zero hn]
  simp only [bind, Except.bind, store_one hn]
  exact ⟨_, rfl⟩

theorem writesInBounds_iff : WritesInBounds n ↔ 2 ≤ n := by
  constructor
  · intro h
    by_contra hn
    obtain ⟨vs, gnd, -, -, hset⟩ := setUpSensors_eq steadyWorld_driverOk (Meter.start n)
    apply h steadyWorld
    rw [hset]
    have : n = 0 ∨ n = 1 := by omega
    rcases this with rfl | rfl <;> rfl
  · intro hn w h
    obtain ⟨e, he⟩ := setUpSensors_error hn h
    cases he

end SetUp

/-! ## The loops -/

section Loops

variable {n : Nat} {w : World} {s s' : Meter n}

theorem initSlot_sensors {channel : UInt8} (h : initSlot w channel s = .ok s') :
    s'.sensors = s.sensors := by
  obtain ⟨_, rfl⟩ := initSlot_eq_ok h
  rfl

theorem measureChannel_sensors {channel : UInt8} (h : measureChannel w channel s = .ok s') :
    s'.sensors = s.sensors := by
  obtain ⟨_, _, _, _, _, _, _, _, _, -, -, rfl⟩ := measureChannel_eq_ok h
  rfl

theorem sweep_eq (w : World) (fuel : Nat) (s : Meter n) :
    sweep w fuel s = (recordedSweep w fuel s).map (Except.map Prod.fst) :=
  (ByteLoop.loop_recorded fuel 1 s []).symm

theorem initMeasurements_eq (w : World) (fuel : Nat) (s : Meter n) :
    initMeasurements w fuel s = (recordedInit w fuel s).map (Except.map Prod.fst) :=
  (ByteLoop.loop_recorded fuel 0 s []).symm

/-- In a channel's own iteration of the sweep, only an `ESP_ERROR_CHECK` can fail. -/
theorem measureChannel_error {c : Nat} {e : Fault} (h1 : 1 ≤ c) (h : c ≤ 255)
    (hn : c ≤ amountOfChannels n) (he : measureChannel w (UInt8.ofNat c) s = .error e) :
    ∃ e', e = .espErrorCheck e' := by
  have hlt : c - 1 < amountOfChannels n := by omega
  have hsensor : (c - 1) / 3 < n := by
    have : c - 1 < n * 3 := hlt
    omega
  rcases bind_eq_error he with he | ⟨⟨m, s1⟩, -, he⟩
  · rcases bind_eq_error he with he | ⟨sensor, -, he⟩
    · rw [getIna3221ForChannel_ok s h1 h hsensor] at he
      cases he
    rcases bind_eq_error he with he | ⟨⟨_, _⟩, -, he⟩
    · exact espErrorCheck_eq_error he
    rcases bind_eq_error he with he | ⟨⟨⟨_, _⟩, _⟩, -, he⟩
    · exact espErrorCheck_eq_error he
    rcases bind_eq_error he with he | ⟨prev, -, he⟩
    · rw [pred_cast h1 h, load_ofNat hlt] at he
      cases he
    · cases he
  · rcases bind_eq_error he with he | ⟨_, -, he⟩
    · rw [pred_cast h1 h, store_ofNat hlt] at he
      cases he
    · cases he

/-- Up to 84 sensors the 8-bit counter reaches a value above the number of channels. -/
theorem sweepsOnce_of_le (hn : n ≤ 84) : SweepsOnce n := by
  intro w s
  have hle : amountOfChannels n ≤ 252 := Nat.mul_le_mul_right 3 hn
  have hbody : ∀ i (s : Meter n), 1 ≤ i → i < amountOfChannels n + 1 → True →
      (∃ e, measureChannel w (UInt8.ofNat i) s = .error e ∧ ∃ e', e = .espErrorCheck e') ∨
        ∃ s', measureChannel w (UInt8.ofNat i) s = .ok s' ∧ True := by
    intro i s h1 hi _
    cases hr : measureChannel w (UInt8.ofNat i) s with
    | error e => exact .inl ⟨e, rfl, measureChannel_error h1 (by omega) (by omega) hr⟩
    | ok s' => exact .inr ⟨s', rfl, trivial⟩
  rcases ByteLoop.recorded_ends (fun channel => decide (channel.toNat ≤ amountOfChannels n))
    (measureChannel w) (I := fun _ _ => True) (a := 1) (b := amountOfChannels n + 1)
    (by omega) (by omega) (fun i hi => by simp only [toNat_ofNat_of_le hi, Nat.lt_succ_iff])
    hbody (Nat.lt_succ_self _) (s := s) trivial with ⟨_, he, e, rfl⟩ | ⟨s', hs', -⟩
  · exact .inl ⟨_, e, he⟩
  · exact .inr ⟨_, s', hs'⟩

def SlotsInitialised (k : Nat) (s : Meter n) : Prop :=
  ∀ i (h : i < amountOfChannels n), i < k → ∃ t,
    s.measurements[i] = { PowerMeasurement.init with timestamp := t }

theorem initSlot_initialised {k : Nat} (hk : k < amountOfChannels n) (h : k ≤ 255)
    (hI : SlotsInitialised k s) :
    ∃ s', initSlot w (UInt8.ofNat k) s = .ok s' ∧ SlotsInitialised (k + 1) s' := by
  refine ⟨_, initSlot_ok hk h, fun i hi hik => ?_⟩
  by_cases he : i = k
  · subst he
    exact ⟨_, Vector.getElem_set_self hk⟩
  · simp only [Vector.getElem_set_ne hk hi (Ne.symm he)]
    exact hI i hi (by omega)

theorem initialisesAll_of_le (hn : n ≤ 85) : InitialisesAll n := by
  intro w s
  have hle : amountOfChannels n ≤ 255 := Nat.mul_le_mul_right 3 hn
  rcases ByteLoop.recorded_ends (fun channel => decide (channel.toNat < amountOfChannels n))
    (initSlot w) (I := SlotsInitialised) (E := fun _ => False) (a := 0) (b := amountOfChannels n)
    (Nat.zero_le _) hle (fun i hi => by simp only [toNat_ofNat_of_le hi])
    (fun i s _ hi hI => .inr (initSlot_initialised hi (by omega) hI)) (Nat.lt_succ_self _)
    (s := s) nofun with ⟨_, -, hE⟩ | ⟨s', hs', hI⟩
  · exact hE.elim
  · exact ⟨_, s', hs', fun i h => hI i h h⟩

theorem load_outOfBounds_or {α : Type} {m : Nat} (v : Vector α m) (i : Int) :
    load v i = .error .outOfBounds ∨ ∃ j, ∃ h : j < m, load v i = .ok v[j] := by
  unfold load
  split
  · split
    · next h => exact .inr ⟨_, h, rfl⟩
    · exact .inl rfl
  · exact .inl rfl

theorem store_outOfBounds_or {α : Type} {m : Nat} (v : Vector α m) (i : Int) (a : α) :
    store v i a = .error .outOfBounds ∨ ∃ v', store v i a = .ok v' := by
  unfold store
  split
  · split
    · exact .inr ⟨_, rfl⟩
    · exact .inl rfl
  · exact .inl rfl

theorem measureChannel_ready (hw : w.DriverOk) (channel : UInt8)
    (hs : ∀ i (h : i < n) ch, s.sensors[i].shunt ch = 100) :
    measureChannel w channel s = .error .outOfBounds ∨
      ∃ s', measureChannel w channel s = .ok s' := by
  unfold measureChannel execMeasurement getIna3221ForChannel
  rcases load_outOfBounds_or s.sensors ((UInt8.ofNat ((channel.toNat + (channelsPerSensor - 1)) /
    channelsPerSensor)).toNat - 1 : Int) with hsensor | ⟨j, hj, hsensor⟩
  · exact .inl (by simp only [hsensor, bind, Except.bind])
  obtain ⟨dev', volts, hst, hsv⟩ := shunt_ok hw (hs j hj) (getChannel channel) s.transfers
  rcases load_outOfBounds_or s.measurements (channel.toNat - 1 : Int) with hprev | ⟨k, hk, hprev⟩
  · exact .inl (by simp only [hsensor, espErrorCheck, hst, hsv, hprev, bind, Except.bind])
  simp only [hsensor, espErrorCheck, hst, hsv, hprev, espTimerGetTime, bind, Except.bind, pure,
    Except.pure]
  rcases store_outOfBounds_or s.measurements (channel.toNat - 1 : Int)
    (nextMeasurement s.measurements[k] (w.clock s.ticks) (shuntCurrent
      (w.word (s.transfers + 1) s.sensors[j].addr (shuntReg (getChannel channel).toNat))))
    with hms | ⟨ms, hms⟩
  · exact .inl (by simp only [hms])
  · refine .inr ⟨{ s with measurements := ms, ticks := s.ticks + 1, transfers := s.transfers + 2 },
      ?_⟩
    simp only [hms]

theorem sweep_error (hw : w.DriverOk) (hs : ∀ i (h : i < n) ch, s.sensors[i].shunt ch = 100)
    {fuel : Nat} {e : Fault} (h : sweep w fuel s = some (.error e)) : e = .outOfBounds := by
  refine (ByteLoop.loop_inv (I := fun s : Meter n => ∀ i (h : i < n) ch,
    s.sensors[i].shunt ch = 100) (E := fun e => e = .outOfBounds) ?_ ?_ hs).2 e h
  · intro channel s s' hI hok
    simp only [measureChannel_sensors hok]
    exact hI
  · intro channel s e hI herr
    rcases measureChannel_ready hw channel hI with hm | ⟨s', hm⟩
    · rw [hm] at herr
      cases herr
      rfl
    · rw [hm] at herr
      cases herr

/-- From 85 sensors on, every value of the counter passes the loop's condition. -/
theorem sweepsOnce_iff : SweepsOnce n ↔ n ≤ 84 := by
  refine ⟨fun h => ?_, sweepsOnce_of_le⟩
  by_contra hn
  let s : Meter n := { Meter.start n with sensors := Vector.replicate n ina3221Static }
  have hs : ∀ i (h : i < n) ch, s.sensors[i].shunt ch = 100 := by
    intro i h ch
    simp [s, ina3221Static]
  rcases h steadyWorld s with ⟨fuel, e, he⟩ | ⟨fuel, s', hs'⟩
  · -- the loop ends only by reading before the array
    have hsweep : sweep steadyWorld fuel s = some (.error (.espErrorCheck e)) := by
      rw [sweep_eq, he]
      rfl
    cases sweep_error steadyWorld_driverOk hs hsweep
  · refine ByteLoop.loop_never (fun i => ?_) _ _ _ _ hs'
    have : 85 * 3 ≤ amountOfChannels n := Nat.mul_le_mul_right 3 (by omega)
    have := i.toNat_lt
    exact decide_eq_true (by omega)

/-- From 86 sensors on, every value of the counter is below the number of channels. -/
theorem initialisesAll_iff : InitialisesAll n ↔ n ≤ 85 := by
  refine ⟨fun h => ?_, initialisesAll_of_le⟩
  by_contra hn
  obtain ⟨fuel, s', hs', -⟩ := h steadyWorld (Meter.start n)
  refine ByteLoop.loop_never (fun i => ?_) _ _ _ _ hs'
  have : 86 * 3 ≤ amountOfChannels n := Nat.mul_le_mul_right 3 (by omega)
  have := i.toNat_lt
  exact decide_eq_true (by omega)

theorem channels_iff : (getAmountOfChannels n).toNat = 3 * n ↔ n ≤ 85 := by
  unfold getAmountOfChannels amountOfChannels channelsPerSensor
  rw [UInt8.toNat_ofNat']
  omega

theorem startPowerMeasurements_sensors {fuel k : Nat}
    (h : startPowerMeasurements w fuel k s = some (.ok s')) :
    ∃ s1, setUpSensors w s = .ok s1 ∧ s'.sensors = s1.sensors := by
  induction k generalizing s' with
  | zero =>
    simp only [startPowerMeasurements] at h
    split at h
    · cases h
    · next s1 hs1 =>
      refine ⟨s1, hs1, ?_⟩
      exact (ByteLoop.loop_inv (I := fun s : Meter n => s.sensors = s1.sensors)
        (E := fun _ => True) (fun _ _ _ hI hok => (initSlot_sensors hok).trans hI)
        (fun _ _ _ _ _ => trivial) rfl).1 s' h
  | succ k ih =>
    simp only [startPowerMeasurements] at h
    split at h
    · next s2 hs2 =>
      obtain ⟨s1, hs1, heq⟩ := ih hs2
      refine ⟨s1, hs1, ?_⟩
      exact (ByteLoop.loop_inv (I := fun s : Meter n => s.sensors = s1.sensors)
        (E := fun _ => True) (fun _ _ _ hI hok => (measureChannel_sensors hok).trans hI)
        (fun _ _ _ _ _ => trivial) heq).1 s' h
    · next hne => exact absurd h (hne s')

theorem sensorsInitialised_of_le (hn : n ≤ 2) : SensorsInitialised n := by
  intro w fuel k s h i hi
  obtain ⟨s1, hs1, heq⟩ := startPowerMeasurements_sensors h
  obtain ⟨vs, gnd, hvs, hgnd, hlt, hset⟩ := setUpSensors_sensors hs1
  simp only [heq, hset]
  have : i = 0 ∨ i = 1 := by omega
  rcases this with rfl | rfl
  · rw [Vector.getElem_set_ne _ _ (by decide), Vector.getElem_set_self]
    exact hvs
  · rw [Vector.getElem_set_self]
    exact hgnd

/-- A third sensor is read as the zeroed static array has it. -/
theorem sensors_le_two (hinit : InitialisesAll n) (hsensors : SensorsInitialised n) : n ≤ 2 := by
  by_contra hn
  obtain ⟨s1, hs1⟩ := setUpSensors_ends steadyWorld_driverOk (n := n) (by omega) (Meter.start n)
  obtain ⟨fuel, s', hrec, -⟩ := hinit steadyWorld s1
  have hinit : initMeasurements steadyWorld fuel s1 = some (.ok s') := by
    rw [initMeasurements_eq, hrec]
    rfl
  have hstart : startPowerMeasurements steadyWorld fuel 0 (Meter.start n) = some (.ok s') := by
    simp only [startPowerMeasurements, hs1, hinit]
  have hlt : 2 < n := by omega
  apply not_initialised_zero (w := steadyWorld)
  obtain ⟨s2, hs2, heq⟩ := startPowerMeasurements_sensors hstart
  rw [hs1] at hs2
  cases hs2
  obtain ⟨vs, gnd, -, -, _, hsens⟩ := setUpSensors_sensors hs1
  have hzero : s'.sensors[2] = ina3221Zero := by
    simp only [heq, hsens]
    rw [Vector.getElem_set_ne _ _ (by decide), Vector.getElem_set_ne _ _ (by decide)]
    simp [Meter.start]
  rw [← hzero]
  exact hsensors steadyWorld fuel 0 s' hstart 2 hlt

end Loops

/-- **The measurement subsystem is correct for two sensors only.** With fewer the set-up writes
outside the sensor array (`writesInBounds_iff`); with more, sweeps read sensors that were never
initialised; from 85 on no sweep ends, and from 86 on neither does `init_measurements`, and the
number of channels is not 3 for each sensor (`sweepsOnce_iff`, `initialisesAll_iff`,
`channels_iff`). -/
theorem measurementsOk_iff {n : Nat} : MeasurementsOk n ↔ n = 2 := by
  constructor
  · rintro ⟨hwrites, hsensors, -, hinit, -⟩
    have := writesInBounds_iff.mp hwrites
    have := sensors_le_two hinit hsensors
    omega
  · rintro rfl
    exact ⟨writesInBounds_iff.mpr (by decide), sensorsInitialised_of_le (by decide),
      sweepsOnce_of_le (by decide), initialisesAll_of_le (by decide), rfl⟩

/-- With one sensor, the second write of the set-up is outside the array. -/
theorem measurements_one_sensor : ¬ ∀ n, 1 ≤ n → MeasurementsOk n := by
  intro h
  have hwrites := (h 1 (by decide)).writes
  exact absurd (writesInBounds_iff.mp hwrites) (by decide)

end Powermeter
