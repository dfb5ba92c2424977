import Powermeter.Lib.Lts
import Powermeter.Server.Ina3221

/-!
# The I2C port of the sensors and the display

`i2cdev.c` under the sensors, and `ssd1306_hal/esp/platform.c` under the display, on the one port
both use. `i2cdev` remembers the configuration it has given to the driver of ESP-IDF and whether it
has installed it; the display configures the port on its own and relies on a driver that is
there. The state keeps the calls of ESP-IDF with what each returned, which is part of the events;
what the calls do is the parameter `I2cPort`, of which `I2cPort.Spec` says what ESP-IDF documents.
The tasks run in any order (`app_main` creates the one of the display first), transfer by transfer:
the display takes no semaphore, but none of its calls falls between two calls of one transfer of
a sensor.
-/

namespace Powermeter

/-- The fields of `i2c_config_t` that `cfg_equal` compares. -/
structure I2cConfig where
  sdaIoNum : Nat
  sclIoNum : Nat
  sdaPullupEn : Bool
  sclPullupEn : Bool
  clkSpeed : Nat
  deriving DecidableEq, Repr

def I2cConfig.zero : I2cConfig := ⟨0, 0, false, false, 0⟩

/-- `cfg` of both sensors after `ina3221_init_desc`. -/
def ina3221Cfg : I2cConfig := ⟨21, 22, false, false, 1000000⟩

/-- `conf` of `ssd1306_platform_i2cInit` for the default pins. -/
def ssd1306Conf : I2cConfig := ⟨21, 22, true, true, 400000⟩

/-- What went over the wire, and how the port was configured then. -/
structure Frame where
  addr : UInt8
  bytes : List UInt8
  config : I2cConfig
  deriving DecidableEq, Repr

def espErrTimeout : EspErr := .io 0x107

/-- What the calls of one transfer return, as far as they are made. -/
structure IdfResults where
  semaphoreTake : Bool
  paramConfig : Except EspErr Unit
  driverInstall : Except EspErr Unit
  getTimeout : Except EspErr Nat
  setTimeout : Except EspErr Unit
  cmdBegin : Except EspErr Unit

inductive IdfCall where
  | paramConfig (cfg : I2cConfig) (r : Except EspErr Unit)
  | driverInstall (r : Except EspErr Unit)
  | driverDelete
  | getTimeout (r : Except EspErr Nat)
  | setTimeout (ticks : Nat) (r : Except EspErr Unit)
  | cmdBegin (addr : UInt8) (bytes : List UInt8) (r : Except EspErr Unit)

/-- `states[1]` of `i2cdev`, and the calls made on the port. -/
structure Bus where
  config : I2cConfig
  installed : Bool
  calls : List IdfCall

inductive BusEvent where
  | transfer (addr : UInt8) (bytes : List UInt8) (r : IdfResults)
  | i2cInit (r : Except EspErr Unit)
  | i2cStop (bytes : List UInt8) (r : Except EspErr Unit)

def ssd1306Addr : UInt8 := 0x3C

namespace Bus

/-- After `i2cdev_init`. -/
def start : Bus := ⟨.zero, false, []⟩

def call (s : Bus) (c : IdfCall) : Bus := { s with calls := s.calls ++ [c] }

section Step

-- `I2CDEV_MAX_STRETCH_TIME`, on the ESP32 the `I2C_TIME_OUT_REG_V` of ESP-IDF; the sensors leave
-- `timeout_ticks` at 0
variable (maxStretchTime : Nat)

/-- The end of `i2c_setup_port`. -/
def setupTimeout (s : Bus) (r : IdfResults) : Except EspErr Unit × Bus :=
  let s := s.call (.getTimeout r.getTimeout)
  match r.getTimeout with
  | .error e => (.error e, s)
  | .ok t =>
    if maxStretchTime ≠ t then (r.setTimeout, s.call (.setTimeout maxStretchTime r.setTimeout))
    else (.ok (), s)

/-- `i2c_setup_port`. -/
def setupPort (s : Bus) (cfg : I2cConfig) (r : IdfResults) : Except EspErr Unit × Bus :=
  if cfg ≠ s.config then
    let s := if s.installed then s.call .driverDelete else s
    let s := s.call (.paramConfig cfg r.paramConfig)
    match r.paramConfig with
    | .error e => (.error e, s)
    | .ok () =>
      let s := s.call (.driverInstall r.driverInstall)
      match r.driverInstall with
      | .error e => (.error e, s)
      | .ok () => setupTimeout maxStretchTime { s with installed := true, config := cfg } r
  else s.setupTimeout maxStretchTime r

/-- `i2c_dev_read` and `i2c_dev_write`, the semaphore taken and given back. -/
def devTransfer (s : Bus) (cfg : I2cConfig) (addr : UInt8) (bytes : List UInt8) (r : IdfResults) :
    Except EspErr Unit × Bus :=
  if r.semaphoreTake then
    match s.setupPort maxStretchTime cfg r with
    | (.error e, s) => (.error e, s)
    | (.ok (), s) => (r.cmdBegin, s.call (.cmdBegin addr bytes r.cmdBegin))
  else (.error espErrTimeout, s)

/-- A transfer of a sensor, `ssd1306_platform_i2cInit`, or `platform_i2c_stop` after the bytes of
a transfer were queued; the display looks at no result. -/
def step (s : Bus) : BusEvent → Bus
  | .transfer addr bytes r => (s.devTransfer maxStretchTime ina3221Cfg addr bytes r).2
  | .i2cInit r => s.call (.paramConfig ssd1306Conf r)
  | .i2cStop bytes r => s.call (.cmdBegin ssd1306Addr bytes r)

end Step

end Bus

def bus (maxStretchTime : Nat) : Lts Bus BusEvent where
  init := .start
  step s a := some (s.step maxStretchTime a)

/-! ## The driver of ESP-IDF -/

/-- The port after the calls made so far: whether its driver is installed, how it is configured,
and what went over the wire. -/
structure I2cPort where
  driver : List IdfCall → Bool
  config : List IdfCall → I2cConfig
  wire : List IdfCall → List Frame

/-- What a transfer puts on the wire: the frame if it went well, else at most a first part. -/
inductive Frame.Sent (f : Frame) : Except EspErr Unit → List Frame → Prop
  | ok : f.Sent (.ok ()) [f]
  | nothing {e : EspErr} : f.Sent (.error e) []
  | cut {e : EspErr} {bytes : List UInt8} (h : bytes <+: f.bytes) :
      f.Sent (.error e) [{ f with bytes := bytes }]

namespace IdfCall

def onDriver : IdfCall → Bool
  | .driverInstall _ | .driverDelete => true
  | _ => false

def onConfig : IdfCall → Bool
  | .paramConfig _ (.ok ()) => true
  | _ => false

def onWire : IdfCall → Bool
  | .cmdBegin .. => true
  | _ => false

def installs : IdfCall → Bool
  | .driverInstall (.ok ()) => true
  | _ => false

end IdfCall

/-- What ESP-IDF documents: `i2c_driver_install` says whether there is a driver then, the
configuration is the last `i2c_param_config` accepted, and `i2c_master_cmd_begin` sends nothing
without a driver. -/
structure I2cPort.Spec (port : I2cPort) : Prop where
  start_driver : port.driver [] = false
  start_wire : port.wire [] = []
  install : ∀ {calls} r, port.driver calls = false →
    port.driver (calls ++ [.driverInstall r]) = r.isOk
  driver : ∀ {calls} c, c.onDriver = false → port.driver (calls ++ [c]) = port.driver calls
  configured : ∀ calls cfg, port.config (calls ++ [.paramConfig cfg (.ok ())]) = cfg
  config : ∀ {calls} c, c.onConfig = false → port.config (calls ++ [c]) = port.config calls
  wire : ∀ {calls} c, c.onWire = false → port.wire (calls ++ [c]) = port.wire calls
  absent : ∀ {calls} addr bytes r, port.driver calls = false →
    port.wire (calls ++ [.cmdBegin addr bytes r]) = port.wire calls
  sent : ∀ {calls} addr bytes r, port.driver calls = true →
    ∃ out, Frame.Sent ⟨addr, bytes, port.config calls⟩ r out ∧
      port.wire (calls ++ [.cmdBegin addr bytes r]) = port.wire calls ++ out

/-! ## What should go over the wire -/

def IdfResults.timeoutOk (maxStretchTime : Nat) (r : IdfResults) : Bool :=
  match r.getTimeout with
  | .error _ => false
  | .ok t => maxStretchTime == t || r.setTimeout.isOk

namespace BusEvent

/-- The transfer gets past the installation of the driver. -/
def Installs : BusEvent → Bool
  | .transfer _ _ r => r.semaphoreTake && r.paramConfig.isOk && r.driverInstall.isOk
  | _ => false

def configAfter (cfg : I2cConfig) : BusEvent → I2cConfig
  | .i2cInit (.ok ()) => ssd1306Conf
  | _ => cfg

/-- What the event puts on the wire, once there is a driver. -/
inductive Sends (maxStretchTime : Nat) (cfg : I2cConfig) : BusEvent → List Frame → Prop
  | transfer {addr : UInt8} {bytes : List UInt8} {r : IdfResults} {out : List Frame}
      (take : r.semaphoreTake = true) (timeout : r.timeoutOk maxStretchTime = true)
      (sent : Frame.Sent ⟨addr, bytes, cfg⟩ r.cmdBegin out) :
      Sends maxStretchTime cfg (.transfer addr bytes r) out
  | noTransfer {addr : UInt8} {bytes : List UInt8} {r : IdfResults}
      (h : (r.semaphoreTake && r.timeoutOk maxStretchTime) = false) :
      Sends maxStretchTime cfg (.transfer addr bytes r) []
  | i2cInit {r : Except EspErr Unit} : Sends maxStretchTime cfg (.i2cInit r) []
  | i2cStop {bytes : List UInt8} {r : Except EspErr Unit} {out : List Frame}
      (sent : Frame.Sent ⟨ssd1306Addr, bytes, cfg⟩ r out) :
      Sends maxStretchTime cfg (.i2cStop bytes r) out

end BusEvent

/-- The wire for a driver that is there from the start. -/
inductive WireOf (maxStretchTime : Nat) : I2cConfig → List BusEvent → List Frame → Prop
  | nil {cfg : I2cConfig} : WireOf maxStretchTime cfg [] []
  | cons {cfg : I2cConfig} {a : BusEvent} {as : List BusEvent} {out wire : List Frame}
      (sends : a.Sends maxStretchTime cfg out)
      (rest : WireOf maxStretchTime (a.configAfter cfg) as wire) :
      WireOf maxStretchTime cfg (a :: as) (out ++ wire)

section Wire

variable {maxStretchTime : Nat} {cfg : I2cConfig} {as : List BusEvent} {a : BusEvent}
  {out wire : List Frame}

theorem WireOf.snoc (h : WireOf maxStretchTime cfg as wire)
    (ha : a.Sends maxStretchTime (as.foldl BusEvent.configAfter cfg) out) :
    WireOf maxStretchTime cfg (as ++ [a]) (wire ++ out) := by
  induction h with
  | nil => simpa using WireOf.cons ha .nil
  | cons sends _ ih =>
    rw [List.append_assoc]
    exact .cons sends (ih ha)

end Wire

/-! ## The two states of the port -/

namespace Bus

/-- No driver yet; the display may have configured the port. -/
structure Off (port : I2cPort) (s : Bus) : Prop where
  config : s.config = .zero
  installed : s.installed = false
  driver : port.driver s.calls = false
  wire : port.wire s.calls = []
  installs : s.calls.countP IdfCall.installs = 0
  deletes : .driverDelete ∉ s.calls

/-- The driver was installed for the sensors. -/
structure On (port : I2cPort) (cfg : I2cConfig) (wire : List Frame) (s : Bus) : Prop where
  config : s.config = ina3221Cfg
  installed : s.installed = true
  driver : port.driver s.calls = true
  portConfig : port.config s.calls = cfg
  wire : port.wire s.calls = wire
  installs : s.calls.countP IdfCall.installs = 1
  deletes : .driverDelete ∉ s.calls

section States

variable {port : I2cPort} {maxStretchTime : Nat} {cfg : I2cConfig} {wire : List Frame} {s : Bus}
  {r : IdfResults}

theorem countP_call {c : IdfCall} (hc : c.installs = false) :
    (s.calls ++ [c]).countP IdfCall.installs = s.calls.countP IdfCall.installs := by
  rw [List.countP_append, List.countP_singleton, hc]
  rfl

theorem not_mem_call {c : IdfCall} (hc : c.onDriver = false) (h : .driverDelete ∉ s.calls) :
    .driverDelete ∉ s.calls ++ [c] := by
  rw [List.mem_append, List.mem_singleton]
  rintro (hmem | rfl)
  · exact h hmem
  · cases hc

theorem installs_of_onDriver {c : IdfCall} (hc : c.onDriver = false) : c.installs = false := by
  cases c <;> first | rfl | cases hc

theorem Off.call (hport : port.Spec) (h : Off port s) {c : IdfCall} (hc : c.onDriver = false) :
    Off port (s.call c) where
  config := h.config
  installed := h.installed
  driver := (hport.driver c hc).trans h.driver
  wire := by
    refine Eq.trans ?_ h.wire
    cases c with
    | cmdBegin addr bytes r => exact hport.absent addr bytes r h.driver
    | driverInstall r => cases hc
    | _ => exact hport.wire _ rfl
  installs := (countP_call (installs_of_onDriver hc)).trans h.installs
  deletes := not_mem_call hc h.deletes

theorem Off.installFails (hport : port.Spec) (h : Off port s) (e : EspErr) :
    Off port (s.call (.driverInstall (.error e))) where
  config := h.config
  installed := h.installed
  driver := hport.install _ h.driver
  wire := (hport.wire _ rfl).trans h.wire
  installs := (countP_call rfl).trans h.installs
  deletes := by simpa [Bus.call] using h.deletes

theorem Off.install (hport : port.Spec) (h : Off port s) (hcfg : port.config s.calls = cfg) :
    On port cfg []
      { s.call (.driverInstall (.ok ())) with installed := true, config := ina3221Cfg } where
  config := rfl
  installed := rfl
  driver := hport.install _ h.driver
  portConfig := (hport.config _ rfl).trans hcfg
  wire := (hport.wire _ rfl).trans h.wire
  installs := by
    show (s.calls ++ [_]).countP IdfCall.installs = 1
    rw [List.countP_append, h.installs]
    rfl
  deletes := by simpa [Bus.call] using h.deletes

theorem On.call (hport : port.Spec) (h : On port cfg wire s) {c : IdfCall}
    (hc : c.onDriver = false) :
    On port (port.config (s.calls ++ [c])) (port.wire (s.calls ++ [c])) (s.call c) where
  config := h.config
  installed := h.installed
  driver := (hport.driver c hc).trans h.driver
  portConfig := rfl
  wire := rfl
  installs := (countP_call (installs_of_onDriver hc)).trans h.installs
  deletes := not_mem_call hc h.deletes

theorem On.quiet (hport : port.Spec) (h : On port cfg wire s) {c : IdfCall}
    (hd : c.onDriver = false) (hc : c.onConfig = false) (hw : c.onWire = false) :
    On port cfg wire (s.call c) := by
  have hcall := h.call hport hd
  rwa [hport.config c hc, hport.wire c hw, h.portConfig, h.wire] at hcall

theorem On.cmdBegin (hport : port.Spec) (h : On port cfg wire s) (addr : UInt8)
    (bytes : List UInt8) (r : Except EspErr Unit) :
    ∃ out, Frame.Sent ⟨addr, bytes, cfg⟩ r out ∧
      On port cfg (wire ++ out) (s.call (.cmdBegin addr bytes r)) := by
  obtain ⟨out, hout, hwire⟩ := hport.sent addr bytes r h.driver
  have hcall := h.call hport (c := .cmdBegin addr bytes r) rfl
  rw [hport.config _ rfl, hwire, h.portConfig, h.wire] at hcall
  rw [h.portConfig] at hout
  exact ⟨out, hout, hcall⟩

theorem On.setupTimeout (hport : port.Spec) (h : On port cfg wire s) (maxStretchTime : Nat)
    (r : IdfResults) :
    (s.setupTimeout maxStretchTime r).1.isOk = r.timeoutOk maxStretchTime ∧
      On port cfg wire (s.setupTimeout maxStretchTime r).2 := by
  have hget (x : Except EspErr Nat) : On port cfg wire (s.call (.getTimeout x)) :=
    h.quiet hport rfl rfl rfl
  unfold Bus.setupTimeout IdfResults.timeoutOk
  cases r.getTimeout with
  | error e => exact ⟨rfl, hget _⟩
  | ok t =>
    by_cases ht : maxStretchTime = t
    · simp only [ht, ne_eq, not_true_eq_false, if_false, beq_self_eq_true, Bool.true_or]
      exact ⟨rfl, hget _⟩
    · simp only [ne_eq, ht, not_false_eq_true, if_true, beq_eq_false_iff_ne.mpr ht, Bool.false_or]
      exact ⟨trivial, (hget _).quiet hport rfl rfl rfl⟩

/-- The transfer itself, after a set-up that has left the driver there. -/
theorem On.transfer (hport : port.Spec) {addr : UInt8} {bytes : List UInt8}
    (htake : r.semaphoreTake = true) {s' : Bus} (h : On port cfg wire s')
    (hsetup : s.setupPort maxStretchTime ina3221Cfg r = s'.setupTimeout maxStretchTime r) :
    ∃ out, BusEvent.Sends maxStretchTime cfg (.transfer addr bytes r) out ∧
      On port cfg (wire ++ out) (s.step maxStretchTime (.transfer addr bytes r)) := by
  obtain ⟨hok, hon⟩ := h.setupTimeout hport maxStretchTime r
  simp only [step, devTransfer, if_pos htake, hsetup]
  rcases hres : s'.setupTimeout maxStretchTime r with ⟨result, s''⟩
  rw [hres] at hok hon
  cases result with
  | error e =>
    refine ⟨[], .noTransfer ?_, by simpa using hon⟩
    rw [← hok, Bool.and_eq_false_iff]
    exact .inr rfl
  | ok u =>
    obtain ⟨out, hsent, hon'⟩ := hon.cmdBegin hport addr bytes r.cmdBegin
    exact ⟨out, .transfer htake hok.symm hsent, hon'⟩

/-- **With a driver** every event does what `WireOf` says. -/
theorem On.step (hport : port.Spec) (h : On port cfg wire s) (maxStretchTime : Nat)
    (a : BusEvent) :
    ∃ out, a.Sends maxStretchTime cfg out ∧
      On port (a.configAfter cfg) (wire ++ out) (s.step maxStretchTime a) := by
  cases a with
  | transfer addr bytes r =>
    cases htake : r.semaphoreTake with
    | false =>
      refine ⟨[], .noTransfer (by rw [htake, Bool.false_and]), ?_⟩
      simpa [Bus.step, devTransfer, htake, BusEvent.configAfter] using h
    | true =>
      -- the port is set up already: only the timeout is looked at
      exact h.transfer hport htake (if_neg (not_not.mpr h.config.symm))
  | i2cInit r =>
    refine ⟨[], .i2cInit, ?_⟩
    rw [List.append_nil]
    cases r with
    | error e => exact h.quiet hport rfl rfl rfl
    | ok u =>
      have hcall := h.call hport (c := .paramConfig ssd1306Conf (.ok ())) rfl
      rwa [hport.configured, hport.wire _ rfl, h.wire] at hcall
  | i2cStop bytes r =>
    obtain ⟨out, hsent, hon⟩ := h.cmdBegin hport ssd1306Addr bytes r
    exact ⟨out, .i2cStop hsent, hon⟩

theorem Off.ne_config (h : Off port s) : ina3221Cfg ≠ s.config := by
  rw [h.config]
  decide

/-- **The first transfer that gets as far installs it.** -/
theorem step_installs (hport : port.Spec) (h : Off port s) {a : BusEvent}
    (ha : a.Installs = true) :
    ∃ out, a.Sends maxStretchTime ina3221Cfg out ∧
      On port ina3221Cfg out (s.step maxStretchTime a) := by
  cases a with
  | transfer addr bytes r =>
    simp only [BusEvent.Installs, Bool.and_eq_true] at ha
    obtain ⟨⟨htake, hparam⟩, hinstall⟩ := ha
    cases hp : r.paramConfig with
    | error e => rw [hp] at hparam; cases hparam
    | ok u =>
      cases hi : r.driverInstall with
      | error e => rw [hi] at hinstall; cases hinstall
      | ok u' =>
        have hoff := h.call hport (c := .paramConfig ina3221Cfg (.ok ())) rfl
        have hon := hoff.install hport (hport.configured s.calls ina3221Cfg)
        refine hon.transfer hport htake ?_
        simp only [setupPort, if_pos h.ne_config, h.installed, hp, hi]
        rfl
  | i2cInit r => cases ha
  | i2cStop bytes r => cases ha

theorem step_off (hport : port.Spec) (h : Off port s) {a : BusEvent} (ha : a.Installs = false) :
    Off port (s.step maxStretchTime a) := by
  cases a with
  | transfer addr bytes r =>
    simp only [step, devTransfer]
    cases htake : r.semaphoreTake with
    | false => exact h
    | true =>
      simp only [if_true, setupPort, if_pos h.ne_config, h.installed]
      have hoff := h.call hport (c := .paramConfig ina3221Cfg r.paramConfig) rfl
      cases hp : r.paramConfig with
      | error e => rw [hp] at hoff; exact hoff
      | ok u =>
        rw [hp] at hoff
        cases hi : r.driverInstall with
        | error e => exact hoff.installFails hport e
        | ok u' => simp [BusEvent.Installs, htake, hp, hi, Except.isOk, Except.toBool] at ha
  | i2cInit r => exact h.call hport rfl
  | i2cStop bytes r => exact h.call hport rfl

/-- The state after the events `as`: no driver while none of them installed it, and from the
first that did the wire is one of `WireOf`. -/
def Reaches (port : I2cPort) (maxStretchTime : Nat) (as : List BusEvent) (s : Bus) : Prop :=
  match as.dropWhile (!·.Installs) with
  | [] => Off port s
  | b :: bs => ∃ wire, WireOf maxStretchTime ina3221Cfg (b :: bs) wire ∧
      On port ((b :: bs).foldl BusEvent.configAfter ina3221Cfg) wire s

theorem Reaches.snoc (hport : port.Spec) {as : List BusEvent}
    (h : Reaches port maxStretchTime as s) (a : BusEvent) :
    Reaches port maxStretchTime (as ++ [a]) (s.step maxStretchTime a) := by
  unfold Reaches at h ⊢
  rw [List.dropWhile_append]
  cases hd : as.dropWhile (!·.Installs) with
  | nil =>
    rw [hd] at h
    rw [List.isEmpty_nil, if_pos rfl]
    cases ha : a.Installs with
    | false =>
      rw [List.dropWhile_cons_of_pos (by simp [ha])]
      exact step_off hport h ha
    | true =>
      rw [List.dropWhile_cons_of_neg (by simp [ha])]
      have hcfg : a.configAfter ina3221Cfg = ina3221Cfg := by
        cases a with
        | transfer addr bytes r => rfl
        | i2cInit r => cases ha
        | i2cStop bytes r => cases ha
      obtain ⟨out, hsends, hon⟩ := step_installs hport h ha
      refine ⟨out, by simpa using WireOf.cons hsends .nil, ?_⟩
      rwa [List.foldl_cons, List.foldl_nil, hcfg]
  | cons b bs =>
    rw [hd] at h
    obtain ⟨wire, hwire, hon⟩ := h
    rw [List.isEmpty_cons, if_neg Bool.false_ne_true]
    obtain ⟨out, hsends, hon'⟩ := hon.step hport maxStretchTime a
    refine ⟨wire ++ out, hwire.snoc hsends, ?_⟩
    show On port (((b :: bs) ++ [a]).foldl _ _) _ _
    rw [List.foldl_append]
    exact hon'

end States

end Bus

/-- **One driver, and what it lets through**: in every run the driver is installed at most once
and never deleted, `i2cdev` knows whether it is there, and the wire is that of the events from
the first set up of the sensors on. What the display sent before that is lost, and what follows
its own initialisation runs at its speed. -/
theorem bus_wire {port : I2cPort} (hport : port.Spec) (maxStretchTime : Nat)
    (as : List BusEvent) :
    ∃ s, (bus maxStretchTime).run as = some s ∧
      WireOf maxStretchTime ina3221Cfg (as.dropWhile (!·.Installs)) (port.wire s.calls) ∧
      s.calls.countP IdfCall.installs ≤ 1 ∧ .driverDelete ∉ s.calls ∧
      port.driver s.calls = s.installed := by
  have hrun : ∃ s, (bus maxStretchTime).run as = some s ∧
      Bus.Reaches port maxStretchTime as s := by
    induction as using List.reverseRecOn with
    | nil =>
      exact ⟨.start, rfl, rfl, rfl, hport.start_driver, hport.start_wire, rfl, by simp [Bus.start]⟩
    | append_singleton as a ih =>
      obtain ⟨s, hrun, hs⟩ := ih
      exact ⟨s.step maxStretchTime a, Lts.run_snoc.mpr ⟨s, hrun, rfl⟩, hs.snoc hport a⟩
  obtain ⟨s, hrun, hs⟩ := hrun
  refine ⟨s, hrun, ?_⟩
  unfold Bus.Reaches at hs
  cases hd : as.dropWhile (!·.Installs) with
  | nil =>
    rw [hd] at hs
    rw [hs.wire]
    exact ⟨.nil, hs.installs.le.trans (Nat.zero_le 1), hs.deletes,
      hs.driver.trans hs.installed.symm⟩
  | cons b bs =>
    rw [hd] at hs
    obtain ⟨wire, hwire, hon⟩ := hs
    rw [hon.wire]
    exact ⟨hwire, hon.installs.le, hon.deletes, hon.driver.trans hon.installed.symm⟩

/-! ## A port -/

/-- A port of which a transfer that fails sends nothing. -/
def IdfCall.portAfter (s : Bool × I2cConfig × List Frame) :
    IdfCall → Bool × I2cConfig × List Frame
  | .paramConfig cfg (.ok ()) => (s.1, cfg, s.2.2)
  | .driverInstall (.ok ()) => (true, s.2)
  | .driverDelete => (false, s.2)
  | .cmdBegin addr bytes (.ok ()) =>
    if s.1 then (s.1, s.2.1, s.2.2 ++ [⟨addr, bytes, s.2.1⟩]) else s
  | _ => s

def plainState (calls : List IdfCall) : Bool × I2cConfig × List Frame :=
  calls.foldl IdfCall.portAfter (false, .zero, [])

def plainPort : I2cPort where
  driver calls := (plainState calls).1
  config calls := (plainState calls).2.1
  wire calls := (plainState calls).2.2

theorem plainState_snoc (calls : List IdfCall) (c : IdfCall) :
    plainState (calls ++ [c]) = c.portAfter (plainState calls) :=
  List.foldl_append

theorem IdfCall.portAfter_frame (c : IdfCall) (s : Bool × I2cConfig × List Frame) :
    (c.onDriver = false → (c.portAfter s).1 = s.1) ∧
    (c.onConfig = false → (c.portAfter s).2.1 = s.2.1) ∧
    (c.onWire = false → (c.portAfter s).2.2 = s.2.2) := by
  unfold portAfter
  split
  · exact ⟨fun _ => rfl, nofun, fun _ => rfl⟩
  · exact ⟨nofun, fun _ => rfl, fun _ => rfl⟩
  · exact ⟨nofun, fun _ => rfl, fun _ => rfl⟩
  · refine ⟨fun _ => ?_, fun _ => ?_, nofun⟩
    · split <;> rfl
    · split <;> rfl
  · exact ⟨fun _ => rfl, fun _ => rfl, fun _ => rfl⟩

theorem plainPort_spec : plainPort.Spec where
  start_driver := rfl
  start_wire := rfl
  install {calls} r h := by
    show (plainState _).1 = _
    rw [plainState_snoc]
    cases r with
    | error e => exact h
    | ok u => rfl
  driver {calls} c hc := by
    show (plainState _).1 = (plainState _).1
    rw [plainState_snoc]
    exact (c.portAfter_frame _).1 hc
  configured calls cfg := by
    show (plainState _).2.1 = _
    rw [plainState_snoc]
    rfl
  config {calls} c hc := by
    show (plainState _).2.1 = (plainState _).2.1
    rw [plainState_snoc]
    exact (c.portAfter_frame _).2.1 hc
  wire {calls} c hc := by
    show (plainState _).2.2 = (plainState _).2.2
    rw [plainState_snoc]
    exact (c.portAfter_frame _).2.2 hc
  absent {calls} addr bytes r h := by
    show (plainState _).2.2 = (plainState _).2.2
    rw [plainState_snoc]
    have h' : (plainState calls).1 = false := h
    cases r with
    | error e => rfl
    | ok u => simp [IdfCall.portAfter, h']
  sent {calls} addr bytes r h := by
    have h' : (plainState calls).1 = true := h
    show ∃ out, _ ∧ (plainState _).2.2 = (plainState _).2.2 ++ out
    rw [plainState_snoc]
    cases r with
    | error e => exact ⟨[], .nothing, (List.append_nil _).symm⟩
    | ok u => exact ⟨_, .ok, by simp [IdfCall.portAfter, h', plainPort]⟩

def noError : IdfResults := ⟨true, .ok (), .ok (), .ok 0xFFFFF, .ok (), .ok ()⟩

/-- The display is there first, and the sensors' transfers follow its second frame. -/
def displayFirst : List BusEvent :=
  [.i2cInit (.ok ()), .i2cStop [0xAE] (.ok ()), .transfer 0x40 [0x00] noError,
    .i2cInit (.ok ()), .i2cStop [0xAF] (.ok ()), .transfer 0x40 [0x01] noError]

/-- The first frame of the display is lost, and its speed stays. -/
theorem bus_wire_displayFirst :
    ∃ s, (bus 0xFFFFF).run displayFirst = some s ∧
      plainPort.wire s.calls = [⟨0x40, [0x00], ina3221Cfg⟩, ⟨ssd1306Addr, [0xAF], ssd1306Conf⟩,
        ⟨0x40, [0x01], ssd1306Conf⟩] ∧
      WireOf 0xFFFFF ina3221Cfg (displayFirst.drop 2) (plainPort.wire s.calls) := by
  have hwire : ((bus 0xFFFFF).run displayFirst).map (fun s => plainPort.wire s.calls) =
      some [⟨0x40, [0x00], ina3221Cfg⟩, ⟨ssd1306Addr, [0xAF], ssd1306Conf⟩,
        ⟨0x40, [0x01], ssd1306Conf⟩] := by
    decide
  obtain ⟨s, hs, hw⟩ := Option.map_eq_some_iff.mp hwire
  obtain ⟨s', hs', hof, -⟩ := bus_wire plainPort_spec 0xFFFFF displayFirst
  cases hs.symm.trans hs'
  exact ⟨s, hs, hw, hof⟩

end Powermeter
