import Mathlib.Data.Rat.Floor
import Mathlib.Tactic.NormNum

/-!
# The INA3221 driver

The part of `ina3221.c` the powermeter calls. `World` is what the device driver
sees from outside: the value of every `esp_timer_get_time` call and the outcome
of every I2C transfer, both numbered in the order they are made. A `Drv`
computation counts the transfers and stops at the first `esp_err_t` other than
`ESP_OK`. Arithmetic on `float` values is exact, over `ℚ`.
-/

namespace Powermeter

/-- The errors the driver returns itself, and those of the layers below it. -/
inductive EspErr where
  | invalidArg
  | io (code : Nat)
  deriving DecidableEq, Repr

structure World where
  clock : Nat → UInt64
  i2cdevInit : Except EspErr Unit
  createMutex : UInt8 → Except EspErr Unit
  /-- Transfer number, I2C address, register, the word as it comes off the bus. -/
  readReg : Nat → UInt8 → UInt8 → Except EspErr UInt16
  writeReg : Nat → UInt8 → UInt8 → UInt16 → Except EspErr Unit

/-- Every call of the layers below the driver returns `ESP_OK`. -/
structure World.DriverOk (w : World) : Prop where
  init : w.i2cdevInit = .ok ()
  mutex : ∀ addr, w.createMutex addr = .ok ()
  read : ∀ t addr reg, ∃ v, w.readReg t addr reg = .ok v
  write : ∀ t addr reg v, w.writeReg t addr reg v = .ok ()

abbrev Drv := StateT Nat (Except EspErr)

inductive Ina3221Channel where
  | channel1
  | channel2
  | channel3
  deriving DecidableEq, Repr

def Ina3221Channel.toNat : Ina3221Channel → Nat
  | .channel1 => 0
  | .channel2 => 1
  | .channel3 => 2

/-- `ina3221_config_t`, bit fields from the least significant. -/
structure Ina3221Config where
  esht : Bool
  ebus : Bool
  mode : Bool
  vsht : BitVec 3
  vbus : BitVec 3
  avg : BitVec 3
  ch3 : Bool
  ch2 : Bool
  ch1 : Bool
  rst : Bool
  deriving DecidableEq, Repr

/-- `config_register`, the same 16 bits as one word. -/
def Ina3221Config.configRegister (c : Ina3221Config) : UInt16 :=
  UInt16.ofNat (c.esht.toNat + 2 * c.ebus.toNat + 4 * c.mode.toNat + 8 * c.vsht.toNat +
    64 * c.vbus.toNat + 512 * c.avg.toNat + 4096 * c.ch3.toNat + 8192 * c.ch2.toNat +
    16384 * c.ch1.toNat + 32768 * c.rst.toNat)

def ina3221DefaultConfig : Ina3221Config :=
  ⟨true, true, true, 4, 4, 0, true, true, true, false⟩

example : ina3221DefaultConfig.configRegister = 0x7127 := by decide

/-- The device descriptor `ina3221_t`; `shunt` is in mOhm. -/
structure Ina3221 where
  port : Nat
  addr : UInt8
  shunt : Ina3221Channel → UInt16
  config : Ina3221Config
  mask : UInt16

def ina3221I2cAddrGnd : UInt8 := 0x40
def ina3221I2cAddrVs : UInt8 := 0x41
def ina3221I2cAddrScl : UInt8 := 0x43

def ina3221RegConfig : UInt8 := 0x00
def ina3221RegShuntvoltage1 : UInt8 := 0x01
def ina3221RegWarningAlert1 : UInt8 := 0x08
def ina3221RegMask : UInt8 := 0x0F

def swap16 (v : UInt16) : UInt16 := (v >>> 8) ||| (v <<< 8)

/-- Lift the outcome of one transfer, counting it. -/
def transfer {α : Type} (f : Nat → Except EspErr α) : Drv α := fun t =>
  match f t with
  | .error e => .error e
  | .ok a => .ok (a, t + 1)

def readReg16 (w : World) (dev : Ina3221) (reg : UInt8) : Drv UInt16 := do
  let val ← transfer fun t => w.readReg t dev.addr reg
  return swap16 val

def writeReg16 (w : World) (dev : Ina3221) (reg : UInt8) (val : UInt16) : Drv Unit :=
  transfer fun t => w.writeReg t dev.addr reg (swap16 val)

def writeConfig (w : World) (dev : Ina3221) : Drv Unit :=
  writeReg16 w dev ina3221RegConfig dev.config.configRegister

def fail {α : Type} (e : EspErr) : Drv α := fun _ => .error e

/-- A call below the driver that is no transfer. -/
def lift {α : Type} (x : Except EspErr α) : Drv α := fun t => x.map fun a => (a, t)

def ina3221InitDesc (w : World) (dev : Ina3221) (addr : UInt8) (port : Nat) : Drv Ina3221 :=
  if addr < ina3221I2cAddrGnd || ina3221I2cAddrScl < addr then fail .invalidArg
  else do
    lift (w.createMutex addr)
    return { dev with port := port, addr := addr }

/-- The `ina3221_set_*` and `ina3221_enable_*` functions: change the configuration in the
descriptor, then write it to the device. -/
def updateConfig (w : World) (f : Ina3221Config → Ina3221Config) (dev : Ina3221) : Drv Ina3221 := do
  let dev := { dev with config := f dev.config }
  writeConfig w dev
  return dev

def ina3221SetOptions (w : World) (dev : Ina3221) (mode bus shunt : Bool) : Drv Ina3221 :=
  updateConfig w (fun c => { c with mode := mode, ebus := bus, esht := shunt }) dev

def ina3221EnableChannel (w : World) (dev : Ina3221) (ch1 ch2 ch3 : Bool) : Drv Ina3221 :=
  updateConfig w (fun c => { c with ch1 := ch1, ch2 := ch2, ch3 := ch3 }) dev

def ina3221SetAverage (w : World) (dev : Ina3221) (avg : BitVec 3) : Drv Ina3221 :=
  updateConfig w (fun c => { c with avg := avg }) dev

def ina3221SetBusConversionTime (w : World) (dev : Ina3221) (ct : BitVec 3) : Drv Ina3221 :=
  updateConfig w (fun c => { c with vbus := ct }) dev

def ina3221SetShuntConversionTime (w : World) (dev : Ina3221) (ct : BitVec 3) : Drv Ina3221 :=
  updateConfig w (fun c => { c with vsht := ct }) dev

def toInt16 (x : ℚ) : Int16 := Int16.ofInt (if x < 0 then ⌈x⌉ else ⌊x⌋)

def ina3221SetWarningAlert (w : World) (dev : Ina3221) (channel : Ina3221Channel) (current : ℚ) :
    Drv Unit :=
  let raw := toInt16 (current * (dev.shunt channel).toNat * (2 / 10))
  writeReg16 w dev (ina3221RegWarningAlert1 + UInt8.ofNat (channel.toNat * 2)) raw.toUInt16

/-- Reading the mask register clears its flags in the device. -/
def ina3221GetStatus (w : World) (dev : Ina3221) : Drv Ina3221 := do
  let mask ← readReg16 w dev ina3221RegMask
  return { dev with mask := mask }

/-- The shunt voltage (mV) and current (mA) of a raw register value. -/
def shuntValue (dev : Ina3221) (channel : Ina3221Channel) (raw : Int16) : ℚ × ℚ :=
  let mvolts : ℚ := raw.toInt * (5 / 1000)
  (mvolts, mvolts * 1000 / (dev.shunt channel).toNat)

def ina3221GetShuntValue (w : World) (dev : Ina3221) (channel : Ina3221Channel) : Drv (ℚ × ℚ) :=
  if dev.shunt channel = 0 then fail .invalidArg
  else do
    let raw ← readReg16 w dev (ina3221RegShuntvoltage1 + UInt8.ofNat (channel.toNat * 2))
    return shuntValue dev channel raw.toInt16

/-! ## What a call does when the bus answers -/

theorem bind_run {α β : Type} (x : Drv α) (f : α → Drv β) (t : Nat) :
    (x >>= f) t = match x t with | .error e => .error e | .ok (a, t') => f a t' := by
  show (StateT.bind x f) t = _
  unfold StateT.bind
  cases x t with
  | error e => rfl
  | ok p => rfl

theorem pure_run {α : Type} (a : α) (t : Nat) : (pure a : Drv α) t = .ok (a, t) := rfl

theorem readReg16_ok {w : World} {dev : Ina3221} {reg : UInt8} {t : Nat} {v : UInt16}
    (h : w.readReg t dev.addr reg = .ok v) : readReg16 w dev reg t = .ok (swap16 v, t + 1) := by
  unfold readReg16
  rw [bind_run]
  simp only [transfer, h, pure_run]

theorem updateConfig_ok {w : World} (hw : w.DriverOk) (f : Ina3221Config → Ina3221Config)
    (dev : Ina3221) (t : Nat) :
    updateConfig w f dev t = .ok ({ dev with config := f dev.config }, t + 1) := by
  unfold updateConfig writeConfig writeReg16
  rw [bind_run]
  simp only [transfer, hw.write, pure_run]

theorem ina3221InitDesc_ok {w : World} (hw : w.DriverOk) (dev : Ina3221) {addr : UInt8}
    (h : addr = ina3221I2cAddrVs ∨ addr = ina3221I2cAddrGnd) (port t : Nat) :
    ina3221InitDesc w dev addr port t = .ok ({ dev with port := port, addr := addr }, t) := by
  have hr : (addr < ina3221I2cAddrGnd || ina3221I2cAddrScl < addr) = false := by
    rcases h with rfl | rfl <;> decide
  unfold ina3221InitDesc
  rw [hr]
  simp only [Bool.false_eq_true, if_false]
  rw [bind_run]
  simp only [lift, hw.mutex, Except.map, pure_run]

theorem ina3221SetWarningAlert_ok {w : World} (hw : w.DriverOk) (dev : Ina3221)
    (channel : Ina3221Channel) (current : ℚ) (t : Nat) :
    ina3221SetWarningAlert w dev channel current t = .ok ((), t + 1) := by
  simp only [ina3221SetWarningAlert, writeReg16, transfer, hw.write]

theorem ina3221GetStatus_ok {w : World} {dev : Ina3221} {t : Nat} {v : UInt16}
    (h : w.readReg t dev.addr ina3221RegMask = .ok v) :
    ina3221GetStatus w dev t = .ok ({ dev with mask := swap16 v }, t + 1) := by
  unfold ina3221GetStatus
  rw [bind_run, readReg16_ok h]
  rfl

theorem ina3221GetShuntValue_ok {w : World} {dev : Ina3221} {channel : Ina3221Channel} {t : Nat}
    {v : UInt16} (hs : dev.shunt channel ≠ 0)
    (h : w.readReg t dev.addr (ina3221RegShuntvoltage1 + UInt8.ofNat (channel.toNat * 2)) = .ok v) :
    ina3221GetShuntValue w dev channel t =
      .ok (shuntValue dev channel (swap16 v).toInt16, t + 1) := by
  unfold ina3221GetShuntValue
  rw [if_neg hs, bind_run, readReg16_ok h]
  rfl

end Powermeter
