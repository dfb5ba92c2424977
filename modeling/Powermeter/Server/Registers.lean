import Powermeter.Lib.Lts
import Powermeter.Server.Sensors

/-!
# The descriptor and the registers behind it

`ina3221_t` remembers the configuration and the mask register of its chip, and the calls of
`ina3221.c` change the descriptor first and the chip by a transfer that may fail. The chip here is
what `ina3221.h` says of it: two words, a configuration word with its highest bit set restores
the defaults, of the mask word only `INA3221_MASK_CONFIG` can be written. Its flags change at any
time.
-/

namespace Powermeter

def ina3221MaskConfig : UInt16 := 0x7C00

structure Chip where
  config : UInt16
  mask : UInt16
  deriving DecidableEq, Repr

def Chip.default : Chip := ⟨0x7127, 0x0002⟩

def Chip.setConfig (c : Chip) (val : UInt16) : Chip :=
  if 0x8000 ≤ val then .default else { c with config := val }

def Chip.setMask (c : Chip) (val : UInt16) : Chip :=
  { c with mask := (c.mask &&& ~~~ina3221MaskConfig) ||| (val &&& ina3221MaskConfig) }

def Chip.setFlags (c : Chip) (val : UInt16) : Chip :=
  { c with mask := (val &&& ~~~ina3221MaskConfig) ||| (c.mask &&& ina3221MaskConfig) }

def setBit (v : UInt16) (i : UInt16) (b : Bool) : UInt16 :=
  if b then v ||| (1 <<< i) else v &&& ~~~(1 <<< i)

/-- The calls of `ina3221.c` that make at most one transfer, of a register the descriptor
remembers. -/
inductive DriverCall where
  | setOptions (mode bus shunt : Bool)
  | enableChannel (ch1 ch2 ch3 : Bool)
  | setAverage (avg : BitVec 3)
  | setBusConversionTime (ct : BitVec 3)
  | setShuntConversionTime (ct : BitVec 3)
  | trigger
  | enableChannelSum (ch1 ch2 ch3 : Bool)
  | enableLatchPin (warning critical : Bool)
  | reset
  | getStatus
  deriving DecidableEq

namespace DriverCall

/-- What a call does to `dev->config`, `reset` sets `rst` as well. -/
def config (c : Ina3221Config) : DriverCall → Ina3221Config
  | .setOptions mode bus shunt => { c with mode := mode, ebus := bus, esht := shunt }
  | .enableChannel ch1 ch2 ch3 => { c with ch1 := ch1, ch2 := ch2, ch3 := ch3 }
  | .setAverage avg => { c with avg := avg }
  | .setBusConversionTime ct => { c with vbus := ct }
  | .setShuntConversionTime ct => { c with vsht := ct }
  | .reset => { ina3221DefaultConfig with rst := true }
  | _ => c

/-- What a call does to `dev->mask` before its transfer; `reset` stores the default of the other
register. -/
def mask (m : UInt16) : DriverCall → UInt16
  | .enableChannelSum ch1 ch2 ch3 => setBit (setBit (setBit m 14 ch1) 13 ch2) 12 ch3
  | .enableLatchPin warning critical => setBit (setBit m 11 warning) 10 critical
  | .reset => ina3221DefaultConfig.configRegister
  | _ => m

/-- The call ends with `write_config`. -/
def WritesConfig : DriverCall → Bool
  | .enableChannelSum .. | .enableLatchPin .. | .getStatus => false
  | _ => true

end DriverCall

structure Sensor where
  dev : Ina3221
  chip : Chip

/-- What the four transfers of `ina3221_sync` return, as far as they are made. -/
structure SyncResults where
  readConfig : Except EspErr Unit
  writeConfig : Except EspErr Unit
  readMask : Except EspErr Unit
  writeMask : Except EspErr Unit

inductive SensorEvent where
  | call (c : DriverCall) (r : Except EspErr Unit)
  | sync (r : SyncResults)
  | flags (val : UInt16)

namespace Sensor

def writeConfig (s : Sensor) (r : Except EspErr Unit) : Except EspErr Unit × Sensor :=
  match r with
  | .error e => (.error e, s)
  | .ok () => (.ok (), { s with chip := s.chip.setConfig s.dev.config.configRegister })

def writeMask (s : Sensor) (r : Except EspErr Unit) : Except EspErr Unit × Sensor :=
  match r with
  | .error e => (.error e, s)
  | .ok () => (.ok (), { s with chip := s.chip.setMask (s.dev.mask &&& ina3221MaskConfig) })

/-- `ina3221_get_status`. -/
def getStatus (s : Sensor) (r : Except EspErr Unit) : Except EspErr Unit × Sensor :=
  match r with
  | .error e => (.error e, s)
  | .ok () => (.ok (), { s with dev := { s.dev with mask := s.chip.mask } })

/-- The descriptor first, then the transfer. -/
def call (s : Sensor) (c : DriverCall) (r : Except EspErr Unit) : Except EspErr Unit × Sensor :=
  let s := { s with dev := { s.dev with
    config := c.config s.dev.config, mask := c.mask s.dev.mask } }
  match c with
  | .enableChannelSum .. | .enableLatchPin .. => s.writeMask r
  | .getStatus => s.getStatus r
  | _ => s.writeConfig r

/-- `ina3221_sync` up to `// Sync mask register`. -/
def syncConfig (s : Sensor) (read write : Except EspErr Unit) : Except EspErr Unit × Sensor :=
  match read with
  | .error e => (.error e, s)
  | .ok () =>
    if s.chip.config ≠ s.dev.config.configRegister then s.writeConfig write else (.ok (), s)

/-- The rest of it. -/
def syncMask (s : Sensor) (read write : Except EspErr Unit) : Except EspErr Unit × Sensor :=
  match read with
  | .error e => (.error e, s)
  | .ok () =>
    if s.chip.mask &&& ina3221MaskConfig ≠ s.dev.mask &&& ina3221MaskConfig then s.writeMask write
    else (.ok (), s)

def sync (s : Sensor) (r : SyncResults) : Except EspErr Unit × Sensor :=
  match s.syncConfig r.readConfig r.writeConfig with
  | (.error e, s) => (.error e, s)
  | (.ok (), s) => s.syncMask r.readMask r.writeMask

def step (s : Sensor) : SensorEvent → Sensor
  | .call c r => (s.call c r).2
  | .sync r => (s.sync r).2
  | .flags val => { s with chip := s.chip.setFlags val }

end Sensor

/-- Any calls of the driver on a descriptor, with a chip that may have any settings left. -/
def sensor (dev : Ina3221) (chip : Chip) : Lts Sensor SensorEvent where
  init := ⟨dev, chip⟩
  step s a := some (s.step a)

/-! ## Words and bits -/

theorem Ina3221Config.toNat_configRegister (c : Ina3221Config) :
    c.configRegister.toNat = c.esht.toNat + 2 * c.ebus.toNat + 4 * c.mode.toNat +
      8 * c.vsht.toNat + 64 * c.vbus.toNat + 512 * c.avg.toNat + 4096 * c.ch3.toNat +
      8192 * c.ch2.toNat + 16384 * c.ch1.toNat + 32768 * c.rst.toNat := by
  have h1 := c.vsht.isLt
  have h2 := c.vbus.isLt
  have h3 := c.avg.isLt
  have hb (b : Bool) : b.toNat ≤ 1 := Bool.toNat_le b
  refine UInt16.toNat_ofNat_of_lt' ?_
  have := hb c.esht; have := hb c.ebus; have := hb c.mode; have := hb c.ch3; have := hb c.ch2
  have := hb c.ch1; have := hb c.rst
  show _ < 65536
  omega

theorem Ina3221Config.rst_iff (c : Ina3221Config) : 0x8000 ≤ c.configRegister ↔ c.rst = true := by
  have h1 := c.vsht.isLt
  have h2 := c.vbus.isLt
  have h3 := c.avg.isLt
  have hb (b : Bool) : b.toNat ≤ 1 := Bool.toNat_le b
  have := hb c.esht; have := hb c.ebus; have := hb c.mode; have := hb c.ch3; have := hb c.ch2
  have := hb c.ch1
  rw [UInt16.le_iff_toNat_le, c.toNat_configRegister]
  show 32768 ≤ _ ↔ _
  cases c.rst with
  | false =>
    simp only [Bool.toNat_false, Bool.false_eq_true, iff_false]
    omega
  | true =>
    simp only [Bool.toNat_true, iff_true]
    omega

theorem masked_or (a b m : UInt16) : ((a &&& ~~~m) ||| (b &&& m)) &&& m = b &&& m := by
  apply UInt16.eq_of_toBitVec_eq
  simp only [UInt16.toBitVec_and, UInt16.toBitVec_or, UInt16.toBitVec_not]
  ext i hi
  simp only [BitVec.getElem_and, BitVec.getElem_or, BitVec.getElem_not]
  cases m.toBitVec[i] <;> simp

namespace SyncResults

def AllOk (r : SyncResults) : Bool :=
  r.readConfig.isOk && r.writeConfig.isOk && r.readMask.isOk && r.writeMask.isOk

end SyncResults

namespace SensorEvent

/-- The chip has the configuration of the descriptor, as far as the transfers tell. -/
def settlesConfig (settled : Bool) : SensorEvent → Bool
  | .call c r => if c.WritesConfig then r.isOk else settled
  | .sync r => settled || r.AllOk
  | .flags _ => settled

/-- The same of the mask; `getStatus` takes over that of the chip. -/
def settlesMask (settled : Bool) : SensorEvent → Bool
  | .call (.enableChannelSum ..) r | .call (.enableLatchPin ..) r => r.isOk
  | .call .getStatus r => settled || r.isOk
  | .call .. => settled
  | .sync r => settled || r.AllOk
  | .flags _ => settled

/-- What the event does to the configuration in the descriptor. -/
def config (c : Ina3221Config) : SensorEvent → Ina3221Config
  | .call d _ => d.config c
  | .sync _ => c
  | .flags _ => c

theorem config_rst (a : SensorEvent) {c : Ina3221Config} (h : c.rst = true) :
    (a.config c).rst = true := by
  cases a with
  | call d r => cases d <;> first | exact h | rfl
  | sync r => exact h
  | flags val => exact h

end SensorEvent

namespace Sensor

theorem writeConfig_ok {s : Sensor} (h : s.dev.config.rst = false) :
    s.writeConfig (.ok ()) =
      (.ok (), { s with chip := { s.chip with config := s.dev.config.configRegister } }) := by
  have : ¬ 0x8000 ≤ s.dev.config.configRegister := by
    rw [s.dev.config.rst_iff, h]
    exact Bool.false_ne_true
  simp only [writeConfig, Chip.setConfig, if_neg this]

/-- As long as nothing was reset: what is settled is the same on both sides. -/
structure Settled (s : Sensor) (config mask : Bool) : Prop where
  rst : s.dev.config.rst = false
  config : config = true → s.chip.config = s.dev.config.configRegister
  mask : mask = true → s.chip.mask &&& ina3221MaskConfig = s.dev.mask &&& ina3221MaskConfig

section Settled

variable {s : Sensor} {cs ms : Bool}

theorem Settled.weaken (h : s.Settled cs ms) {cs' ms' : Bool} (hc : cs' = true → cs = true)
    (hm : ms' = true → ms = true) : s.Settled cs' ms' :=
  ⟨h.rst, fun hcs => h.config (hc hcs), fun hms => h.mask (hm hms)⟩

theorem Settled.writeConfig (h : s.Settled cs ms) {config : Ina3221Config}
    (hrst : config.rst = false) (r : Except EspErr Unit) :
    (({ s with dev := { s.dev with config := config } } : Sensor).writeConfig r).2.Settled
      r.isOk ms := by
  cases r with
  | error e => exact ⟨hrst, (nomatch ·), h.mask⟩
  | ok u =>
    rw [writeConfig_ok hrst]
    exact ⟨hrst, fun _ => rfl, h.mask⟩

theorem Settled.writeMask (h : s.Settled cs ms) (mask : UInt16) (r : Except EspErr Unit) :
    (({ s with dev := { s.dev with mask := mask } } : Sensor).writeMask r).2.Settled
      cs r.isOk := by
  cases r with
  | error e => exact ⟨h.rst, h.config, (nomatch ·)⟩
  | ok u =>
    refine ⟨h.rst, h.config, fun _ => ?_⟩
    show (_ ||| ((mask &&& ina3221MaskConfig) &&& ina3221MaskConfig)) &&& ina3221MaskConfig =
      mask &&& ina3221MaskConfig
    rw [masked_or, UInt16.and_assoc, UInt16.and_self]

theorem Settled.getStatus (h : s.Settled cs ms) (r : Except EspErr Unit) :
    (s.getStatus r).2.Settled cs (ms || r.isOk) := by
  cases r with
  | error e => exact h.weaken id (by simp [Except.isOk, Except.toBool])
  | ok u => exact ⟨h.rst, h.config, fun _ => rfl⟩

theorem Settled.call (h : s.Settled cs ms) {c : DriverCall} (hc : c ≠ .reset)
    (r : Except EspErr Unit) :
    (s.call c r).2.Settled (SensorEvent.settlesConfig cs (.call c r))
      (SensorEvent.settlesMask ms (.call c r)) := by
  cases c with
  | setOptions mode bus shunt =>
    refine h.writeConfig ?_ r
    exact h.rst
  | enableChannel ch1 ch2 ch3 =>
    refine h.writeConfig ?_ r
    exact h.rst
  | setAverage avg =>
    refine h.writeConfig ?_ r
    exact h.rst
  | setBusConversionTime ct =>
    refine h.writeConfig ?_ r
    exact h.rst
  | setShuntConversionTime ct =>
    refine h.writeConfig ?_ r
    exact h.rst
  | trigger =>
    refine h.writeConfig ?_ r
    exact h.rst
  | enableChannelSum ch1 ch2 ch3 => exact h.writeMask _ r
  | enableLatchPin warning critical => exact h.writeMask _ r
  | reset => exact absurd rfl hc
  | getStatus => exact h.getStatus r

theorem Settled.syncConfig (h : s.Settled cs ms) (read write : Except EspErr Unit) :
    (s.syncConfig read write).2.Settled (cs || (read.isOk && write.isOk)) ms := by
  unfold Sensor.syncConfig
  cases read with
  | error e => exact h.weaken (by simp [Except.isOk, Except.toBool]) id
  | ok u =>
    by_cases hsame : s.chip.config = s.dev.config.configRegister
    · rw [if_neg (not_not.mpr hsame)]
      exact ⟨h.rst, fun _ => hsame, h.mask⟩
    · rw [if_pos hsame]
      have hcs : cs = false := Bool.eq_false_iff.mpr fun hcs => hsame (h.config hcs)
      refine (h.writeConfig h.rst write).weaken (fun hok => ?_) id
      simpa [hcs, Except.isOk, Except.toBool] using hok

theorem Settled.syncMask (h : s.Settled cs ms) (read write : Except EspErr Unit) :
    (s.syncMask read write).2.Settled cs (ms || (read.isOk && write.isOk)) := by
  unfold Sensor.syncMask
  cases read with
  | error e => exact h.weaken id (by simp [Except.isOk, Except.toBool])
  | ok u =>
    by_cases hsame : s.chip.mask &&& ina3221MaskConfig = s.dev.mask &&& ina3221MaskConfig
    · rw [if_neg (not_not.mpr hsame)]
      exact ⟨h.rst, h.config, fun _ => hsame⟩
    · rw [if_pos hsame]
      have hms : ms = false := Bool.eq_false_iff.mpr fun hms => hsame (h.mask hms)
      refine (h.writeMask s.dev.mask write).weaken id fun hok => ?_
      simpa [hms, Except.isOk, Except.toBool] using hok

theorem syncConfig_ok {read write : Except EspErr Unit} (hread : read.isOk = true)
    (hwrite : write.isOk = true) : (s.syncConfig read write).1 = .ok () := by
  cases read with
  | error e => cases hread
  | ok u =>
    cases write with
    | error e => cases hwrite
    | ok u' =>
      show (if s.chip.config ≠ s.dev.config.configRegister then s.writeConfig (.ok ())
        else (.ok (), s)).1 = _
      split <;> rfl

/-- **`ina3221_sync`** writes what differs, if no transfer fails. -/
theorem Settled.sync (h : s.Settled cs ms) (r : SyncResults) :
    (s.sync r).2.Settled (cs || r.AllOk) (ms || r.AllOk) := by
  have hconfig := h.syncConfig r.readConfig r.writeConfig
  have hok : r.AllOk = true → (s.syncConfig r.readConfig r.writeConfig).1 = .ok () := by
    intro hall
    simp only [SyncResults.AllOk, Bool.and_eq_true] at hall
    exact syncConfig_ok hall.1.1.1 hall.1.1.2
  unfold Sensor.sync
  split
  · next e t heq =>
    rw [heq] at hconfig hok
    have hall : r.AllOk = false := Bool.eq_false_iff.mpr fun hall => nomatch hok hall
    rw [hall]
    refine hconfig.weaken (fun hcs => ?_) (by simp)
    rw [Bool.or_false] at hcs
    rw [hcs, Bool.true_or]
  · next t heq =>
    rw [heq] at hconfig
    refine (hconfig.syncMask r.readMask r.writeMask).weaken (fun hcs => ?_) fun hms => ?_
    · simp only [SyncResults.AllOk, Bool.or_eq_true, Bool.and_eq_true] at hcs ⊢
      tauto
    · simp only [SyncResults.AllOk, Bool.or_eq_true, Bool.and_eq_true] at hms ⊢
      tauto

theorem Settled.flags (h : s.Settled cs ms) (val : UInt16) :
    ({ s with chip := s.chip.setFlags val } : Sensor).Settled cs ms := by
  refine ⟨h.rst, h.config, fun hms => ?_⟩
  show ((val &&& ~~~ina3221MaskConfig) ||| (s.chip.mask &&& ina3221MaskConfig)) &&&
    ina3221MaskConfig = _
  rw [masked_or]
  exact h.mask hms

/-- **One step** without a reset. -/
theorem Settled.step (h : s.Settled cs ms) {a : SensorEvent} (ha : ∀ r, a ≠ .call .reset r) :
    (s.step a).Settled (a.settlesConfig cs) (a.settlesMask ms) := by
  cases a with
  | call c r => exact h.call (fun hc => ha r (by rw [hc])) r
  | sync r => exact h.sync r
  | flags val => exact h.flags val

end Settled

/-! ## After a reset -/

/-- The descriptor has the configuration `config` now, and the chip's is the old one or what a
write of it leaves. -/
structure Effect (s t : Sensor) (config : Ina3221Config) : Prop where
  dev : t.dev.config = config
  chip : t.chip.config = s.chip.config ∨
    t.chip.config = (s.chip.setConfig config.configRegister).config

section Effect

variable (s : Sensor)

theorem effect_writeConfig (dev : Ina3221) (r : Except EspErr Unit) :
    s.Effect (({ s with dev := dev } : Sensor).writeConfig r).2 dev.config := by
  cases r with
  | error e => exact ⟨rfl, .inl rfl⟩
  | ok u => exact ⟨rfl, .inr rfl⟩

theorem effect_writeMask (dev : Ina3221) (r : Except EspErr Unit) :
    s.Effect (({ s with dev := dev } : Sensor).writeMask r).2 dev.config := by
  cases r with
  | error e => exact ⟨rfl, .inl rfl⟩
  | ok u => exact ⟨rfl, .inl rfl⟩

theorem effect_getStatus (dev : Ina3221) (r : Except EspErr Unit) :
    s.Effect (({ s with dev := dev } : Sensor).getStatus r).2 dev.config := by
  cases r with
  | error e => exact ⟨rfl, .inl rfl⟩
  | ok u => exact ⟨rfl, .inl rfl⟩

theorem effect_call (c : DriverCall) (r : Except EspErr Unit) :
    s.Effect (s.call c r).2 (c.config s.dev.config) := by
  cases c with
  | setOptions mode bus shunt => exact s.effect_writeConfig _ r
  | enableChannel ch1 ch2 ch3 => exact s.effect_writeConfig _ r
  | setAverage avg => exact s.effect_writeConfig _ r
  | setBusConversionTime ct => exact s.effect_writeConfig _ r
  | setShuntConversionTime ct => exact s.effect_writeConfig _ r
  | trigger => exact s.effect_writeConfig _ r
  | enableChannelSum ch1 ch2 ch3 => exact s.effect_writeMask _ r
  | enableLatchPin warning critical => exact s.effect_writeMask _ r
  | reset => exact s.effect_writeConfig _ r
  | getStatus => exact s.effect_getStatus _ r

theorem effect_syncConfig (read write : Except EspErr Unit) :
    s.Effect (s.syncConfig read write).2 s.dev.config := by
  unfold syncConfig
  split
  · exact ⟨rfl, .inl rfl⟩
  · split
    · exact s.effect_writeConfig s.dev write
    · exact ⟨rfl, .inl rfl⟩

theorem config_syncMask (read write : Except EspErr Unit) :
    (s.syncMask read write).2.dev.config = s.dev.config ∧
      (s.syncMask read write).2.chip.config = s.chip.config := by
  unfold syncMask
  split
  · exact ⟨rfl, rfl⟩
  · split
    · cases write with
      | error e => exact ⟨rfl, rfl⟩
      | ok u => exact ⟨rfl, rfl⟩
    · exact ⟨rfl, rfl⟩

theorem effect_sync (r : SyncResults) : s.Effect (s.sync r).2 s.dev.config := by
  have hconfig := s.effect_syncConfig r.readConfig r.writeConfig
  unfold sync
  split
  · next e t heq => rwa [heq] at hconfig
  · next t heq =>
    rw [heq] at hconfig
    obtain ⟨hdev, hchip⟩ := t.config_syncMask r.readMask r.writeMask
    exact ⟨hdev.trans hconfig.dev, by rw [hchip]; exact hconfig.chip⟩

/-- **One step** and the configurations on both sides. -/
theorem effect_step (a : SensorEvent) : s.Effect (s.step a) (a.config s.dev.config) := by
  cases a with
  | call c r => exact s.effect_call c r
  | sync r => exact s.effect_sync r
  | flags val => exact ⟨rfl, .inl rfl⟩

end Effect

/-- The descriptor asks for a reset, and the chip has not been configured since. -/
structure Stuck (s : Sensor) (before : UInt16) : Prop where
  rst : s.dev.config.rst = true
  chip : s.chip.config = before ∨ s.chip.config = Chip.default.config

/-- No call takes `rst` back, so every transfer of the configuration resets the chip. -/
theorem Effect.stuck {s t : Sensor} {config : Ina3221Config} (h : s.Effect t config)
    (hrst : config.rst = true) {before : UInt16}
    (hs : s.chip.config = before ∨ s.chip.config = Chip.default.config) : t.Stuck before := by
  obtain ⟨hdev, hchip⟩ := h
  refine ⟨by rw [hdev, hrst], ?_⟩
  rcases hchip with hchip | hchip
  · rwa [hchip]
  · right
    rw [hchip, Chip.setConfig, if_pos (config.rst_iff.mpr hrst)]

theorem Stuck.step {s : Sensor} {before : UInt16} (h : s.Stuck before) (a : SensorEvent) :
    (s.step a).Stuck before :=
  (s.effect_step a).stuck (SensorEvent.config_rst a h.rst) h.chip

end Sensor

/-! ## Whole runs -/

section Runs

variable {dev : Ina3221} {chip : Chip} {as : List SensorEvent} {s : Sensor}

theorem sensor_config (h : (sensor dev chip).run as = some s) :
    s.dev.config = as.foldl SensorEvent.config dev.config := by
  refine Lts.hist_inv
    (P := fun as (s : Sensor) => s.dev.config = as.foldl SensorEvent.config dev.config)
    rfl ?_ h
  intro as a s s' _ hs hstep
  cases hstep
  rw [List.foldl_concat, ← hs]
  exact (s.effect_step a).dev

theorem sensor_settled (hrst : dev.config.rst = false) (h : (sensor dev chip).run as = some s)
    (hreset : ∀ r, .call .reset r ∉ as) :
    s.Settled (as.foldl SensorEvent.settlesConfig false)
      (as.foldl SensorEvent.settlesMask false) := by
  refine Lts.hist_inv (P := fun as (s : Sensor) => (∀ r, SensorEvent.call .reset r ∉ as) →
    s.Settled (as.foldl SensorEvent.settlesConfig false)
      (as.foldl SensorEvent.settlesMask false)) ?_ ?_ h hreset
  · intro _
    exact ⟨hrst, (nomatch ·), (nomatch ·)⟩
  · intro as a s s' _ hs hstep hreset
    cases hstep
    rw [List.foldl_concat, List.foldl_concat]
    refine (hs fun r hr => hreset r (List.mem_append_left _ hr)).step fun r ha => ?_
    exact hreset r (List.mem_append_right _ (List.mem_singleton.mpr ha.symm))

end Runs

def initCalls : List SensorEvent :=
  [.call (.setOptions true true true) (.ok ()), .call (.enableChannel true true true) (.ok ()),
    .call (.setAverage 0) (.ok ()), .call (.setBusConversionTime 5) (.ok ()),
    .call (.setShuntConversionTime 5) (.ok ())]

theorem reset_not_mem_initCalls (r : Except EspErr Unit) : .call .reset r ∉ initCalls := by
  simp [initCalls]

/-- **`init_ina3221`** leaves the chip as its descriptor says, however it was set before. -/
theorem initIna3221_settled {w : World} {dev dev' : Ina3221} {i2cAddr : UInt8} {t t' : Nat}
    (hrst : dev.config.rst = false) (h : initIna3221 w dev i2cAddr t = .ok (dev', t'))
    (chip : Chip) :
    ∃ s, (sensor dev chip).run initCalls = some s ∧ s.dev.config = dev'.config ∧
      s.chip.config = dev'.config.configRegister := by
  obtain ⟨s, hs⟩ : ∃ s, (sensor dev chip).run initCalls = some s := ⟨_, rfl⟩
  have hconfig : s.dev.config = dev'.config := by
    rw [sensor_config hs, initIna3221_eq_ok h]
    rfl
  refine ⟨s, hs, hconfig, ?_⟩
  rw [← hconfig]
  exact (sensor_settled hrst hs reset_not_mem_initCalls).config rfl

end Powermeter
