import Powermeter.Lib.FixedPoint
import Powermeter.Server.Sensors
import Powermeter.Server.Streams

/-!
# The display task

`show_measurements` of `main.c`, beside the tasks of `Server/Startup.lean`, with the energies in
exact arithmetic. It formats each measurement into a buffer of 200 bytes with `sprintf`, which
checks no bound; that the texts fit is a matter of how large the energies can get. The 40 bytes
of a slot are copied in one step, though nothing in `get_measurement` locks them. A text that does
not fit and an access outside the measurement array are faults. A screen is what is printed between
two calls of `ssd1306_clearScreen`, and `Screen.channel`, `Screen.energy` and `Screen.current` are
the numbers a reader of the display sees.
-/

namespace Powermeter

/-- `sprintf(buffer, ..)` of a text without a NUL. -/
def sprintf {m : Nat} (buffer : Vector UInt8 m) (text : List UInt8) :
    Except Fault (Vector UInt8 m) :=
  if h : text.length < m then
    .ok ⟨(text ++ 0 :: buffer.toList.drop (text.length + 1)).toArray, by
      simp only [List.size_toArray, List.length_append, List.length_cons, List.length_drop,
        Vector.length_toList]
      omega⟩
  else .error .outOfBounds

def displayBufferSize : Nat := 200

def printed {m : Nat} (buffer : Vector UInt8 m) : List UInt8 := CStr.cstr buffer.toList

def ascii (s : String) : List UInt8 := s.toList.map fun c => UInt8.ofNat c.toNat

structure Screen where
  channelLine : List UInt8
  energyLine : List UInt8
  currentLine : List UInt8
  deriving DecidableEq, Repr

namespace Screen

def channel (s : Screen) : Nat := CStr.digitsVal (s.channelLine.filter CStr.isDigit)

/-- The energy (mAs) and the current (mA) on the screen. -/
def energy (s : Screen) : ℚ := CStr.places 1 s.energyLine
def current (s : Screen) : ℚ := CStr.places 1 s.currentLine

end Screen

def channelText (channel : UInt8) : List UInt8 := ascii "Channel " ++ CStr.decimal channel.toNat
def energyText (m : PowerMeasurement) : List UInt8 :=
  CStr.fixed 1 m.energyConsumption ++ ascii " mAs"
def currentText (m : PowerMeasurement) : List UInt8 := CStr.fixed 1 m.current ++ ascii " mA"

/-- The body of the inner loop of `show_measurements`. -/
def showMeasurement {n m : Nat} (s : Meter n) (channel : UInt8) (buffer : Vector UInt8 m) :
    Except Fault (Vector UInt8 m × Screen) := do
  let currMeasurement ← getMeasurement s channel
  let buffer ← sprintf buffer (channelText channel)
  let channelLine := printed buffer
  let buffer ← sprintf buffer (energyText currMeasurement)
  let energyLine := printed buffer
  let buffer ← sprintf buffer (currentText currMeasurement)
  return (buffer, ⟨channelLine, energyLine, printed buffer⟩)

inductive DisplayTask where
  | notCreated
  | initializing
  | showing (channel : UInt8)
  deriving DecidableEq, Repr

structure Panel (α : Type) (n : Nat) where
  boot : Boot α n
  task : DisplayTask
  buffer : Vector UInt8 displayBufferSize
  screens : List Screen
  fault : Option Fault

inductive PanelEvent (α : Type) where
  | boot (a : BootEvent α)
  | createDisplayTask
  /-- The initialisation of the display and its greeting. -/
  | greet
  | refresh
  | passDone

variable {α : Type} {n : Nat}

namespace Panel

def greet (s : Panel α n) : Panel α n :=
  match sprintf s.buffer (ascii "Hello :)") with
  | .error e => { s with fault := some e }
  | .ok buffer => { s with buffer := buffer, task := .showing 1 }

def refresh (s : Panel α n) (channel : UInt8) : Panel α n :=
  match showMeasurement s.boot.meter channel s.buffer with
  | .error e => { s with fault := some e }
  | .ok (buffer, screen) =>
    { s with buffer := buffer, screens := s.screens ++ [screen], task := .showing (channel + 1) }

/-- `app_main` creates the display task before the one that measures. -/
def step (w : World) (s : Panel α n) (a : PanelEvent α) : Option (Panel α n) :=
  if s.fault.isSome || s.boot.rebooted then none else
  match a, s.task with
  | .boot a, _ => (s.boot.step w a).map fun boot => { s with boot := boot }
  | .createDisplayTask, .notCreated =>
    if s.boot.task = .notCreated then some { s with task := .initializing } else none
  | .greet, .initializing => some s.greet
  | .refresh, .showing channel =>
    if channel ≤ getAmountOfChannels n then some (s.refresh channel) else none
  | .passDone, .showing channel =>
    if channel ≤ getAmountOfChannels n then none else some { s with task := .showing 1 }
  | _, _ => none

end Panel

def panel (α : Type) (n : Nat) (w : World) (buffer : Vector UInt8 displayBufferSize) :
    Lts (Panel α n) (PanelEvent α) where
  init := ⟨(boot α n w).init, .notCreated, buffer, [], none⟩
  step := Panel.step w

/-! ## What the texts show -/

theorem printed_of_sprintf {m : Nat} (buffer : Vector UInt8 m) {text : List UInt8}
    (h : text.length < m) (hnul : 0 ∉ text) :
    ∃ buffer', sprintf buffer text = .ok buffer' ∧ printed buffer' = text := by
  refine ⟨_, dif_pos h, ?_⟩
  show CStr.cstr (text ++ 0 :: _) = text
  refine CStr.cstr_append_nul_self fun c hc h0 => ?_
  subst h0
  exact hnul hc

theorem channelText_no_nul (channel : UInt8) : 0 ∉ channelText channel := by
  rw [channelText, List.mem_append, not_or]
  exact ⟨by decide, fun h => CStr.decimal_no_nul 0 h rfl⟩

theorem fixed_append_no_nul {p : Nat} {x : ℚ} {unit : List UInt8} (h : 0 ∉ unit) :
    0 ∉ CStr.fixed p x ++ unit := by
  rw [List.mem_append, not_or]
  exact ⟨fun h0 => CStr.fixed_no_nul 0 h0 rfl, h⟩

theorem places_append {p : Nat} {s unit : List UInt8} (h : unit.filter CStr.isDigit = []) :
    CStr.places p (s ++ unit) = CStr.places p s := by
  rw [CStr.places, List.filter_append, h, List.append_nil, CStr.places]

def screenOf (channel : UInt8) (m : PowerMeasurement) : Screen :=
  ⟨channelText channel, energyText m, currentText m⟩

@[simp] theorem screenOf_channel (channel : UInt8) (m : PowerMeasurement) :
    (screenOf channel m).channel = channel.toNat := by
  show CStr.digitsVal ((ascii "Channel " ++ CStr.decimal channel.toNat).filter CStr.isDigit) = _
  have hlabel : (ascii "Channel ").filter CStr.isDigit = [] := by decide
  rw [List.filter_append, hlabel, List.nil_append, List.filter_eq_self.mpr CStr.decimal_digits,
    CStr.digitsVal_decimal]

@[simp] theorem screenOf_energy (channel : UInt8) (m : PowerMeasurement) :
    (screenOf channel m).energy = CStr.places 1 (CStr.fixed 1 m.energyConsumption) :=
  places_append (by decide)

/-- The largest current (mA) a register holds, at 100 mOhm. -/
def maxCurrent : ℚ := 16384 / 10

/-- The shunts of a sensor are the ones `init_ina3221` was given, or not set. -/
def Ina3221.ShuntsSet (dev : Ina3221) : Prop := ∀ ch, dev.shunt ch = 100 ∨ dev.shunt ch = 0

/-- A slot whose last stamp is not after `now`: its energy is at most that of the largest current
since the clock was started. -/
structure PowerMeasurement.Bounded (m : PowerMeasurement) (now : UInt64) : Prop where
  past : m.timestamp ≤ now
  energy_nonneg : 0 ≤ m.energyConsumption
  energy_le : m.energyConsumption ≤ maxCurrent * (m.timestamp.toNat / 1000000)
  current_nonneg : 0 ≤ m.current
  current_le : m.current ≤ maxCurrent

structure Meter.Bounded (w : World) (s : Meter n) : Prop where
  shunts : ∀ i (h : i < n), (s.sensors[i]).ShuntsSet
  slots : ∀ q (h : q < amountOfChannels n), (s.measurements[q]).Bounded (w.clock s.ticks)

namespace PowerMeasurement.Bounded

variable {m : PowerMeasurement} {now later : UInt64}

theorem mono (h : m.Bounded now) (hle : now ≤ later) : m.Bounded later :=
  { h with past := UInt64.le_trans h.past hle }

theorem of_zero (hc : m.current = 0) (he : m.energyConsumption = 0) (hp : m.timestamp ≤ now) :
    m.Bounded now where
  past := hp
  energy_nonneg := he.ge
  energy_le := by
    rw [he]
    have : (0 : ℚ) ≤ maxCurrent := by norm_num [maxCurrent]
    positivity
  current_nonneg := hc.ge
  current_le := by rw [hc]; norm_num [maxCurrent]

/-- **A measurement keeps the bound**: it adds at most the largest current for the time since
the last. -/
theorem next (h : m.Bounded now) {shuntCurrent : ℚ} (hI : |shuntCurrent| ≤ maxCurrent)
    (hle : now ≤ later) : (nextMeasurement m later shuntCurrent).Bounded later where
  past := UInt64.le_refl _
  energy_nonneg := by
    have := h.energy_nonneg
    show 0 ≤ m.energyConsumption + |shuntCurrent| * _
    positivity
  energy_le := by
    have hpast := UInt64.le_trans h.past hle
    have helapsed : ((later - m.timestamp).toNat : ℚ) = later.toNat - m.timestamp.toNat := by
      rw [UInt64.toNat_sub_of_le _ _ hpast, Nat.cast_sub (UInt64.le_iff_toNat_le.mp hpast)]
    show m.energyConsumption + |shuntCurrent| * ((later - m.timestamp).toNat * 1 / 1000000) ≤ _
    calc m.energyConsumption + |shuntCurrent| * ((later - m.timestamp).toNat * 1 / 1000000)
        ≤ maxCurrent * (m.timestamp.toNat / 1000000) +
            maxCurrent * ((later - m.timestamp).toNat * 1 / 1000000) := by
          have := h.energy_le
          gcongr
      _ = maxCurrent * (later.toNat / 1000000) := by rw [helapsed]; ring
  current_nonneg := abs_nonneg _
  current_le := hI

theorem energy_lt (h : m.Bounded now) : m.energyConsumption ≤ 10 ^ 17 - 1 := by
  have hstamp : (m.timestamp.toNat : ℚ) ≤ 2 ^ 64 := by
    exact_mod_cast m.timestamp.toNat_lt.le
  calc m.energyConsumption ≤ maxCurrent * (m.timestamp.toNat / 1000000) := h.energy_le
    _ ≤ maxCurrent * (2 ^ 64 / 1000000) := by
      have : (0 : ℚ) ≤ maxCurrent := by norm_num [maxCurrent]
      gcongr
    _ ≤ 10 ^ 17 - 1 := by norm_num [maxCurrent]

theorem current_lt (h : m.Bounded now) : m.current ≤ 10 ^ 4 - 1 :=
  h.current_le.trans (by norm_num [maxCurrent])

end PowerMeasurement.Bounded

/-- No register gives more than the largest current. -/
theorem shuntValue_le {dev : Ina3221} (hs : dev.ShuntsSet) (ch : Ina3221Channel)
    (hne : dev.shunt ch ≠ 0) (raw : Int16) : |(shuntValue dev ch raw).2| ≤ maxCurrent := by
  have h100 : dev.shunt ch = 100 := (hs ch).resolve_right hne
  have hraw : |(raw.toInt : ℚ)| ≤ 32768 := by
    have h1 := raw.le_toInt
    have h2 := raw.toInt_lt
    rw [abs_le]
    constructor
    · exact_mod_cast h1
    · exact_mod_cast (by omega : raw.toInt ≤ 32768)
  have hvalue : (shuntValue dev ch raw).2 = raw.toInt * (5 / 1000 * 1000 / 100) := by
    show (raw.toInt : ℚ) * (5 / 1000) * 1000 / (dev.shunt ch).toNat = _
    rw [h100]
    show (raw.toInt : ℚ) * (5 / 1000) * 1000 / (100 : ℕ) = _
    push_cast
    ring
  rw [hvalue, abs_mul]
  calc |(raw.toInt : ℚ)| * |(5 / 1000 * 1000 / 100 : ℚ)|
      ≤ 32768 * |(5 / 1000 * 1000 / 100 : ℚ)| := by gcongr
    _ = maxCurrent := by norm_num [maxCurrent]

theorem measureChannel_bounded {w : World} {s s' : Meter n} {channel : UInt8}
    (hs : ∀ i (h : i < n), (s.sensors[i]).ShuntsSet) (h : measureChannel w channel s = .ok s') :
    ∃ i, ∃ hi : i < amountOfChannels n, ∃ shuntCurrent transfers, |shuntCurrent| ≤ maxCurrent ∧
      s' = { s with
        measurements := s.measurements.set i
          (nextMeasurement s.measurements[i] (w.clock s.ticks) shuntCurrent) hi
        ticks := s.ticks + 1
        transfers := transfers } := by
  obtain ⟨j, hj, i, hi, sensor, shuntVoltage, shuntCurrent, transfers, transfers', hstatus, hshunt,
    hs'⟩ := measureChannel_eq_ok h
  refine ⟨i, hi, shuntCurrent, transfers', ?_, hs'⟩
  -- reading the status changes only the mask
  have hset : sensor.ShuntsSet := by
    obtain ⟨_, _, -, hstatus⟩ := drv_bind_eq_ok hstatus
    cases hstatus
    exact hs j hj
  unfold ina3221GetShuntValue at hshunt
  split at hshunt
  · cases hshunt
  · next hne =>
    obtain ⟨raw, _, -, hvalue⟩ := drv_bind_eq_ok hshunt
    cases hvalue
    exact shuntValue_le hset _ hne _

/-! ## The slots stay bounded -/

section Steps

variable {w : World} {s s' : Boot α n}

variable {m m' : Meter n}

theorem Meter.Bounded.start (w : World) : (Meter.start n).Bounded w where
  shunts i h := by
    simp only [Meter.start, Vector.getElem_replicate]
    exact fun _ => .inr rfl
  slots q h := by
    simp only [Meter.start, Vector.getElem_replicate]
    exact .of_zero rfl rfl (UInt64.le_iff_toNat_le.mpr (Nat.zero_le _))

theorem Meter.Bounded.setUp (hm : m.Bounded w) (h : setUpSensors w m = .ok m') :
    m'.Bounded w := by
  obtain ⟨vs, gnd, _, _, _, hvs, hgnd, hn, rfl⟩ := setUpSensors_eq_ok h
  have hstatic {dev : Ina3221} (h : dev.shunt = ina3221Static.shunt) : dev.ShuntsSet :=
    fun ch => .inl (congrFun h ch)
  refine ⟨fun i hi => ?_, hm.slots⟩
  rw [Vector.getElem_set]
  split
  · exact hstatic (by rw [initIna3221_eq_ok hgnd])
  · rw [Vector.getElem_set]
    split
    · exact hstatic (by rw [initIna3221_eq_ok hvs])
    · exact hm.shunts i hi

theorem Meter.Bounded.set (hm : m.Bounded w) (hc : w.ClockMono) {i : Nat}
    (hi : i < amountOfChannels n) {v : PowerMeasurement} (hv : v.Bounded (w.clock m.ticks))
    (transfers : Nat) :
    ({ m with
        measurements := m.measurements.set i v hi
        ticks := m.ticks + 1
        transfers := transfers } : Meter n).Bounded w := by
  have hnext : w.clock m.ticks ≤ w.clock (m.ticks + 1) := hc _ _ (Nat.le_succ _)
  refine ⟨hm.shunts, fun q hq => ?_⟩
  by_cases hqi : q = i
  · subst hqi
    simp only [Vector.getElem_set_self]
    exact hv.mono hnext
  · simp only [Vector.getElem_set_ne hi hq (Ne.symm hqi)]
    exact (hm.slots q hq).mono hnext

/-- **Every step of every task keeps the slots bounded.** -/
theorem bounded_step (hc : w.ClockMono) {a : BootEvent α} (hm : s.meter.Bounded w)
    (hs : (boot α n w).step s a = some s') : s'.meter.Bounded w := by
  rcases Boot.meter_cases hs with ⟨h, -⟩ | ⟨-, h⟩ | ⟨channel, -, h⟩ | ⟨channel, -, h⟩
  · rwa [h]
  · exact hm.setUp h
  · obtain ⟨hi, hs'⟩ := initSlot_eq_ok h
    rw [hs']
    exact hm.set hc hi (.of_zero rfl rfl (UInt64.le_refl _)) _
  · obtain ⟨i, hi, shuntCurrent, transfers, hI, hs'⟩ := measureChannel_bounded hm.shunts h
    rw [hs']
    exact hm.set hc hi ((hm.slots i hi).next hI (UInt64.le_refl _)) _

end Steps

/-! ## The screens -/

theorem fixed_fits {k : Nat} {x : ℚ} {unit : List UInt8} (hk : 1 ≤ k) (h0 : 0 ≤ x)
    (h : x ≤ 10 ^ k - 1) (hlen : k + 2 + unit.length < displayBufferSize) :
    (CStr.fixed 1 x ++ unit).length < displayBufferSize := by
  have := CStr.length_fixed_le 1 hk h0 h
  rw [List.length_append]
  omega

theorem getMeasurement_slot {s : Meter n} {channel : UInt8} (h1 : 1 ≤ channel.toNat)
    (hlt : channel.toNat - 1 < amountOfChannels n) :
    getMeasurement s channel = .ok s.measurements[channel.toNat - 1] := by
  have hcast : (channel.toNat - 1 : Int) = ((channel.toNat - 1 : Nat) : Int) := by omega
  unfold getMeasurement
  rw [hcast]
  exact load_ofNat hlt

theorem showMeasurement_ok {w : World} {s : Meter n} (hm : s.Bounded w) {channel : UInt8}
    (h1 : 1 ≤ channel.toNat) (hle : channel.toNat - 1 < amountOfChannels n)
    (buffer : Vector UInt8 displayBufferSize) :
    ∃ buffer', showMeasurement s channel buffer =
      .ok (buffer', screenOf channel s.measurements[channel.toNat - 1]) := by
  have hslot := hm.slots _ hle
  have hget := getMeasurement_slot (s := s) h1 hle
  generalize s.measurements[channel.toNat - 1] = m at hslot hget ⊢
  have hchannel : (channelText channel).length < displayBufferSize := by
    have := CStr.length_decimal_le (m := channel.toNat) (k := 3) (by decide)
      (channel.toNat_lt.trans (by decide))
    have hlabel : (ascii "Channel ").length = 8 := by decide
    rw [channelText, List.length_append, hlabel]
    unfold displayBufferSize
    omega
  have henergy : (energyText m).length < displayBufferSize :=
    fixed_fits (by decide) hslot.energy_nonneg hslot.energy_lt (by decide)
  have hcurrent : (currentText m).length < displayBufferSize :=
    fixed_fits (by decide) hslot.current_nonneg hslot.current_lt (by decide)
  obtain ⟨b1, hb1, hp1⟩ := printed_of_sprintf buffer hchannel
    (channelText_no_nul channel)
  obtain ⟨b2, hb2, hp2⟩ := printed_of_sprintf b1 henergy (fixed_append_no_nul (by decide))
  obtain ⟨b3, hb3, hp3⟩ := printed_of_sprintf b2 hcurrent
    (fixed_append_no_nul (by decide))
  refine ⟨b3, ?_⟩
  unfold showMeasurement
  rw [hget]
  show (sprintf buffer (channelText channel) >>= _) = _
  rw [hb1]
  show (sprintf b1 (energyText m) >>= _) = _
  rw [hb2]
  show (sprintf b2 (currentText m) >>= _) = _
  rw [hb3]
  show Except.ok (b3, (⟨printed b1, printed b2, printed b3⟩ : Screen)) = _
  rw [hp1, hp2, hp3]
  rfl

section Panel

variable {w : World} {buffer : Vector UInt8 displayBufferSize} {s s' : Panel α n}

/-- The screens come in the order of the channels, over and over; each shows at most the energy
the slot of its channel has by now, and at least what a screen of its channel showed before. -/
structure PanelInv (w : World) (s : Panel α n) : Prop where
  meter : s.boot.meter.Bounded w
  energies : EnergyInv s.boot
  fault : s.fault = none
  position : match s.task with
    | .notCreated | .initializing => s.screens = []
    | .showing channel => 1 ≤ channel.toNat ∧ channel.toNat ≤ amountOfChannels n + 1 ∧
        (channel.toNat - 1) % amountOfChannels n = s.screens.length % amountOfChannels n
  channels : ∀ k (hk : k < s.screens.length),
    (s.screens[k]).channel = k % amountOfChannels n + 1
  shown : ∀ screen ∈ s.screens, ∀ q (h : q < amountOfChannels n), screen.channel = q + 1 →
    screen.energy ≤ CStr.places 1 (CStr.fixed 1 (s.boot.meter.measurements[q]).energyConsumption)
  sorted : s.screens.Pairwise fun a b => a.channel = b.channel → a.energy ≤ b.energy

theorem PanelInv.init (w : World) (buffer : Vector UInt8 displayBufferSize) :
    PanelInv w (panel α n w buffer).init where
  meter := .start w
  energies := energyInv (s := (boot α n w).init) Lts.run_nil
  fault := rfl
  position := rfl
  channels k hk := absurd hk (Nat.not_lt_zero k)
  shown _ hmem := absurd hmem List.not_mem_nil
  sorted := .nil

theorem PanelInv.boot (hc : w.ClockMono) (hI : PanelInv w s) {a : BootEvent α} {b : Boot α n}
    (hs : s.boot.step w a = some b) : PanelInv w { s with boot := b } := by
  obtain ⟨henergies, hle⟩ := energy_step hI.energies hs
  refine { hI with meter := bounded_step hc hI.meter hs, energies := henergies, shown := ?_ }
  intro screen hmem q hq hch
  refine (hI.shown screen hmem q hq hch).trans (CStr.places_fixed_mono 1 ?_)
  have h0 := (hI.meter.slots q hq).energy_nonneg
  rw [abs_of_nonneg h0, abs_of_nonneg (h0.trans (hle q hq))]
  exact hle q hq

theorem PanelInv.greet (hI : PanelInv w s) (ht : s.task = .initializing) : PanelInv w s.greet := by
  have hfits : (ascii "Hello :)").length < displayBufferSize := by decide
  obtain ⟨b, hb, -⟩ := printed_of_sprintf s.buffer hfits (by decide)
  have hnil : s.screens = [] := by
    have := hI.position
    rwa [ht] at this
  unfold Panel.greet
  rw [hb]
  refine { hI with position := ⟨Nat.le_refl 1, Nat.le_add_left 1 _, ?_⟩ }
  rw [hnil]
  rfl

theorem Panel.refresh_eq (hI : PanelInv w s) {channel : UInt8}
    (h1 : 1 ≤ channel.toNat) (hle : channel.toNat - 1 < amountOfChannels n) :
    ∃ b, s.refresh channel = { s with
      buffer := b
      screens := s.screens ++ [screenOf channel s.boot.meter.measurements[channel.toNat - 1]]
      task := .showing (channel + 1) } := by
  obtain ⟨b, hb⟩ := showMeasurement_ok hI.meter h1 hle s.buffer
  refine ⟨b, ?_⟩
  unfold Panel.refresh
  rw [hb]

theorem PanelInv.turn (hn : amountOfChannels n ≤ 254) (hI : PanelInv w s) {channel : UInt8}
    (ht : s.task = .showing channel) (hle : channel ≤ getAmountOfChannels n) :
    1 ≤ channel.toNat ∧ channel.toNat - 1 < amountOfChannels n ∧
      channel.toNat - 1 = s.screens.length % amountOfChannels n := by
  have hposition := hI.position
  rw [ht] at hposition
  obtain ⟨h1, -, hmod⟩ := hposition
  have hle' : channel.toNat ≤ amountOfChannels n := by
    have := UInt8.le_iff_toNat_le.mp hle
    rwa [getAmountOfChannels, toNat_ofNat_of_le (by omega)] at this
  have hlt : channel.toNat - 1 < amountOfChannels n := by omega
  rw [Nat.mod_eq_of_lt hlt] at hmod
  exact ⟨h1, hlt, hmod⟩

/-- **A refresh** shows it. -/
theorem PanelInv.refresh (hn : amountOfChannels n ≤ 254) (hI : PanelInv w s) {channel : UInt8}
    (ht : s.task = .showing channel) (hle : channel ≤ getAmountOfChannels n) :
    PanelInv w (s.refresh channel) := by
  obtain ⟨h1, hlt, hturn⟩ := hI.turn hn ht hle
  obtain ⟨b, hb⟩ := Panel.refresh_eq hI h1 hlt
  rw [hb]
  refine { hI with position := ?_, channels := ?_, shown := ?_, sorted := ?_ }
  · show 1 ≤ (channel + 1).toNat ∧ (channel + 1).toNat ≤ _ ∧ _
    rw [toNat_succ (by omega), List.length_append, List.length_singleton]
    refine ⟨by omega, by omega, ?_⟩
    rw [Nat.add_mod, ← hturn, Nat.add_sub_cancel]
    conv_lhs => rw [show channel.toNat = channel.toNat - 1 + 1 by omega, Nat.add_mod,
      Nat.mod_eq_of_lt hlt]
  · intro k hk
    rw [List.length_append, List.length_singleton] at hk
    rcases Nat.lt_succ_iff_lt_or_eq.mp hk with hk | rfl
    · rw [List.getElem_append_left hk]
      exact hI.channels k hk
    · rw [List.getElem_append_right (Nat.le_refl _)]
      simp only [Nat.sub_self, List.getElem_singleton, screenOf_channel]
      omega
  · intro screen hmem q hq hch
    rcases List.mem_append.mp hmem with hmem | hmem
    · exact hI.shown screen hmem q hq hch
    · rw [List.mem_singleton.mp hmem] at hch ⊢
      rw [screenOf_channel] at hch
      have hq' : channel.toNat - 1 = q := by omega
      subst hq'
      rw [screenOf_energy]
  · rw [List.pairwise_append]
    refine ⟨hI.sorted, List.pairwise_singleton _ _, fun a ha c hc hch => ?_⟩
    rw [List.mem_singleton.mp hc] at hch ⊢
    rw [screenOf_channel] at hch
    rw [screenOf_energy]
    exact hI.shown a ha _ hlt (by omega)

end Panel

end Powermeter
