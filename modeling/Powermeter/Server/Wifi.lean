import Powermeter.Lib.Lts

/-!
# The WiFi connection

`wifi.c`: the event handler with its reconnect counter and the two event bits, and
`connect_to_wifi`, which sets the driver up and waits for one of the bits. The driver is
what the events come from: each `esp_wifi_connect` starts an attempt that ends in
`STA_DISCONNECTED` or in `GOT_IP`, an established connection may be lost, and nothing
reconnects by itself. Events are handled one at a time; `max` is `WIFI_MAX_RECONNECTS`.
-/

namespace Powermeter

inductive EspErrT where
  | ok
  | nvsNoFreePages
  | nvsNewVersionFound
  | other
  deriving DecidableEq, Repr

/-- What the calls of `connect_to_wifi` up to `esp_wifi_start` return. -/
structure SetUpResults where
  nvsFlashInit : EspErrT
  nvsFlashErase : EspErrT
  nvsFlashInitAgain : EspErrT
  espNetifInit : EspErrT
  espEventLoopCreateDefault : EspErrT
  espWifiInit : EspErrT
  registerWifiEvent : EspErrT
  registerIpEvent : EspErrT
  espWifiSetMode : EspErrT
  espWifiSetConfig : EspErrT
  espWifiStart : EspErrT
  deriving DecidableEq, Repr

/-- The NVS partition is erased and initialised again when that may help. -/
def SetUpResults.nvsOk (r : SetUpResults) : Bool :=
  if r.nvsFlashInit = .nvsNoFreePages ∨ r.nvsFlashInit = .nvsNewVersionFound then
    r.nvsFlashErase = .ok && r.nvsFlashInitAgain = .ok
  else r.nvsFlashInit = .ok

/-- Every `ESP_ERROR_CHECK` of the set-up passes. -/
def SetUpResults.ok (r : SetUpResults) : Bool :=
  r.nvsOk && r.espNetifInit = .ok && r.espEventLoopCreateDefault = .ok && r.espWifiInit = .ok &&
    r.registerWifiEvent = .ok && r.registerIpEvent = .ok && r.espWifiSetMode = .ok &&
    r.espWifiSetConfig = .ok && r.espWifiStart = .ok

/-- The event bits: `WIFI_CONNECTED_BIT` and `WIFI_FAIL_BIT`. -/
structure EventBits where
  connected : Bool
  fail : Bool
  deriving DecidableEq, Repr

inductive WifiReport where
  | connected
  | failed
  | unexpectedEvent
  deriving DecidableEq, Repr

def wifiReport (bits : EventBits) : WifiReport :=
  if bits.connected then .connected else if bits.fail then .failed else .unexpectedEvent

inductive ConnectToWifi where
  | setUp
  /-- `esp_wifi_start` has returned, `xEventGroupWaitBits` has not. -/
  | waiting
  | returned (report : WifiReport)
  /-- An `ESP_ERROR_CHECK` has failed. -/
  | aborted
  deriving DecidableEq, Repr

/-- The statics of `wifi.c`, the number of `esp_wifi_connect` calls, and the driver: whether it
has `STA_START` to post, the attempts under way, and whether the station holds an IP. -/
structure Station where
  reconnectCounter : Nat
  bits : EventBits
  connects : Nat
  starting : Bool
  pending : Nat
  hasIp : Bool
  main : ConnectToWifi
  deriving DecidableEq, Repr

inductive WifiEvent where
  | staStart
  | staDisconnected
  | staGotIp
  | other
  deriving DecidableEq, Repr

def espWifiConnect (s : Station) : Station :=
  { s with connects := s.connects + 1, pending := s.pending + 1 }

def eventHandler (max : Nat) (s : Station) : WifiEvent → Station
  | .staStart => espWifiConnect s
  | .staDisconnected =>
    if s.reconnectCounter < max then
      { espWifiConnect s with reconnectCounter := s.reconnectCounter + 1 }
    else { s with bits := { s.bits with fail := true } }
  | .staGotIp => { s with reconnectCounter := 0, bits := { s.bits with connected := true } }
  | .other => s

inductive WifiAction where
  /-- `connect_to_wifi` up to `esp_wifi_start`. -/
  | setUp (r : SetUpResults)
  | started
  /-- `STA_DISCONNECTED`, at the end of an attempt or of a connection. -/
  | attemptFails
  | connectionLost
  /-- `GOT_IP` at the end of an attempt. -/
  | gotIp
  | otherEvent
  /-- `xEventGroupWaitBits` returns, which it does when a bit is set. -/
  | waitBits
  deriving DecidableEq, Repr

def Station.step (max : Nat) (s : Station) : WifiAction → Option Station
  | .setUp r =>
    if s.main = .setUp then
      some (if r.ok then { s with main := .waiting, starting := true }
        else { s with main := .aborted })
    else none
  | .started =>
    if s.starting then some (eventHandler max { s with starting := false } .staStart) else none
  | .attemptFails =>
    if 0 < s.pending then
      some (eventHandler max { s with pending := s.pending - 1 } .staDisconnected)
    else none
  | .connectionLost =>
    if s.hasIp then some (eventHandler max { s with hasIp := false } .staDisconnected) else none
  | .gotIp =>
    if 0 < s.pending then
      some (eventHandler max { s with pending := s.pending - 1, hasIp := true } .staGotIp)
    else none
  | .otherEvent => some (eventHandler max s .other)
  | .waitBits =>
    if s.main = .waiting ∧ (s.bits.connected || s.bits.fail) then
      some { s with main := .returned (wifiReport s.bits) }
    else none

def station (max : Nat) : Lts Station WifiAction where
  init := ⟨0, ⟨false, false⟩, 0, false, 0, false, .setUp⟩
  step := Station.step max

/-! ## What has happened so far -/

/-- The disconnects counted, after one more action. -/
def countDisconnect (d : Nat) : WifiAction → Nat
  | .attemptFails => d + 1
  | .connectionLost => d + 1
  | .gotIp => 0
  | _ => d

/-- The `STA_DISCONNECTED` events since the last `GOT_IP`, or since the start. -/
def disconnects (as : List WifiAction) : Nat := as.foldl countDisconnect 0

/-- At some point so far there were more than `max` of them. -/
def Exceeded (max : Nat) (as : List WifiAction) : Prop :=
  ∃ pre post, as = pre ++ post ∧ max < disconnects pre

/-- After the last `STA_START` or `GOT_IP` of `as`, `esp_wifi_connect` was called `k` times. -/
def ConnectsSince (max : Nat) (as : List WifiAction) (s : Station) (k : Nat) : Prop :=
  ∀ pre a post s₀, as = pre ++ a :: post → a = .started ∨ a = .gotIp →
    (∀ b ∈ post, b ≠ .started ∧ b ≠ .gotIp) → (station max).run (pre ++ [a]) = some s₀ →
    s.connects = s₀.connects + k

theorem disconnects_snoc (as : List WifiAction) (a : WifiAction) :
    disconnects (as ++ [a]) = countDisconnect (disconnects as) a := by
  simp [disconnects]

theorem exceeded_snoc {max : Nat} {as : List WifiAction} {a : WifiAction} :
    Exceeded max (as ++ [a]) ↔ Exceeded max as ∨ max < disconnects (as ++ [a]) := by
  constructor
  · rintro ⟨pre, post, he, hd⟩
    rcases List.eq_nil_or_concat post with rfl | ⟨post, b, rfl⟩
    · rw [List.append_nil] at he
      exact .inr (he ▸ hd)
    · rw [List.concat_eq_append, ← List.append_assoc] at he
      exact .inl ⟨pre, post, (List.append_inj' he rfl).1, hd⟩
  · rintro (⟨pre, post, rfl, hd⟩ | hd)
    · exact ⟨pre, post ++ [a], by simp, hd⟩
    · exact ⟨as ++ [a], [], by simp, hd⟩

/-! ## The invariant -/

/-- `STA_START` has been handled. -/
structure Running (as : List WifiAction) (s : Station) : Prop where
  started : .started ∈ as
  starting : s.starting = false
  main : s.main ≠ .setUp

inductive Link (max : Nat) (as : List WifiAction) (s : Station) : Prop where
  | notStarted (hstart : .started ∉ as) (hip : s.hasIp = false) (hpending : s.pending = 0)
      (hd : disconnects as = 0)
  | holdsIp (hrun : Running as s) (hip : s.hasIp = true) (hpending : s.pending = 0)
      (hd : disconnects as = 0)
  | attempting (hrun : Running as s) (hip : s.hasIp = false) (hpending : s.pending = 1)
      (hd : disconnects as ≤ max)
  | gaveUp (hrun : Running as s) (hip : s.hasIp = false) (hpending : s.pending = 0)
      (hd : max < disconnects as)

structure WifiInv (max : Nat) (as : List WifiAction) (s : Station) : Prop where
  counter : s.reconnectCounter = min (disconnects as) max
  connected : s.bits.connected = true ↔ .gotIp ∈ as
  fail : s.bits.fail = true ↔ Exceeded max as
  link : Link max as s
  main : s.starting = true → s.main ≠ .setUp

section Steps

variable {max : Nat} {as : List WifiAction} {s s' : Station} {a : WifiAction}

theorem Running.snoc (h : Running as s) (hstarting : s'.starting = s.starting)
    (hmain : s'.main = s.main) : Running (as ++ [a]) s' :=
  ⟨List.mem_append_left _ h.started, hstarting.trans h.starting, hmain ▸ h.main⟩

theorem eventHandler_disconnected (max : Nat) (s : Station) :
    eventHandler max s .staDisconnected =
      if s.reconnectCounter < max then
        { s with
          reconnectCounter := s.reconnectCounter + 1
          connects := s.connects + 1
          pending := s.pending + 1 }
      else { s with bits := { s.bits with fail := true } } :=
  rfl

/-- **`STA_DISCONNECTED`, within the budget**: another attempt while there is budget left, else
the fail bit. -/
theorem handle_disconnected {d : Nat} (hc : s.reconnectCounter = min d max) (hd : d ≤ max) :
    d < max ∧ eventHandler max s .staDisconnected =
        { s with reconnectCounter := d + 1, connects := s.connects + 1, pending := s.pending + 1 } ∨
      d = max ∧ eventHandler max s .staDisconnected =
        { s with bits := { s.bits with fail := true } } := by
  rw [Nat.min_eq_left hd] at hc
  rw [eventHandler_disconnected]
  by_cases hlt : d < max
  · refine .inl ⟨hlt, ?_⟩
    rw [hc, if_pos hlt]
  · refine .inr ⟨by omega, ?_⟩
    rw [hc, if_neg hlt]

theorem wifiInv_disconnected (hI : WifiInv max as s) (hrun : Running as s) {s₀ : Station}
    (hs₀ : s₀ = { s with hasIp := false, pending := 0 }) (hd : disconnects as ≤ max)
    (ha : disconnects (as ++ [a]) = disconnects as + 1) (hgot : a ≠ .gotIp) :
    WifiInv max (as ++ [a]) (eventHandler max s₀ .staDisconnected) := by
  have hcounter : s₀.reconnectCounter = min (disconnects as) max := by rw [hs₀]; exact hI.counter
  have hconnected : s.bits.connected = true ↔ .gotIp ∈ as ++ [a] := by
    rw [hI.connected]
    simp [Ne.symm hgot]
  rcases handle_disconnected hcounter hd with ⟨hlt, he⟩ | ⟨heq, he⟩
  · rw [he, hs₀]
    refine ⟨?_, hconnected, ?_, ?_, hI.main⟩
    · rw [ha, Nat.min_eq_left (by omega)]
    · rw [exceeded_snoc, ha, hI.fail]
      exact (or_iff_left (by omega)).symm
    · exact .attempting (hrun.snoc rfl rfl) rfl rfl (by omega)
  · rw [he, hs₀]
    refine ⟨?_, hconnected, ?_, ?_, hI.main⟩
    · show s.reconnectCounter = _
      rw [ha, hI.counter]
      omega
    · rw [exceeded_snoc, ha]
      exact iff_of_true rfl (.inr (by omega))
    · exact .gaveUp (hrun.snoc rfl rfl) rfl rfl (by omega)

theorem wifiInv_silent (hI : WifiInv max as s) (ha : ∀ d, countDisconnect d a = d)
    (hstart : a ≠ .started) (hgot : a ≠ .gotIp)
    (hs' : ∃ starting main, s' = { s with starting := starting, main := main })
    (hrun : Running as s → s'.starting = s.starting ∧ s'.main ≠ .setUp)
    (hmain : s'.starting = true → s'.main ≠ .setUp) : WifiInv max (as ++ [a]) s' := by
  obtain ⟨starting, main, rfl⟩ := hs'
  have hd : disconnects (as ++ [a]) = disconnects as := by rw [disconnects_snoc, ha]
  have hrun : Running as s → Running (as ++ [a]) { s with starting := starting, main := main } :=
    fun h => ⟨List.mem_append_left _ h.started, (hrun h).1.trans h.starting, (hrun h).2⟩
  refine ⟨hd ▸ hI.counter, ?_, ?_, ?_, hmain⟩
  · rw [hI.connected]
    simp [Ne.symm hgot]
  · rw [exceeded_snoc, hd, hI.fail]
    exact ⟨.inl, fun h => h.elim id fun h => ⟨as, [], by simp, h⟩⟩
  · cases hI.link with
    | notStarted hs hip hp h0 => exact .notStarted (by simp [hs, Ne.symm hstart]) hip hp (hd ▸ h0)
    | holdsIp h hip hp h0 => exact .holdsIp (hrun h) hip hp (hd ▸ h0)
    | attempting h hip hp h0 => exact .attempting (hrun h) hip hp (hd ▸ h0)
    | gaveUp h hip hp h0 => exact .gaveUp (hrun h) hip hp (hd ▸ h0)

theorem wifiInv_step (hI : WifiInv max as s) (hs : s.step max a = some s') :
    WifiInv max (as ++ [a]) s' := by
  cases a with
  | setUp r =>
    obtain ⟨hm, h⟩ := Option.ite_none_right_eq_some.mp hs
    cases h
    split
    · exact wifiInv_silent hI (fun _ => rfl) nofun nofun ⟨true, .waiting, rfl⟩
        (fun h => absurd hm h.main) fun _ => nofun
    · exact wifiInv_silent hI (fun _ => rfl) nofun nofun ⟨s.starting, .aborted, rfl⟩
        (fun h => absurd hm h.main) fun _ => nofun
  | started =>
    obtain ⟨hst, h⟩ := Option.ite_none_right_eq_some.mp hs
    cases h
    have hd : disconnects (as ++ [.started]) = disconnects as := disconnects_snoc _ _
    have hno : Running as s → False := fun h => by rw [h.starting] at hst; cases hst
    cases hI.link with
    | notStarted _ hip hp h0 =>
      refine ⟨hd ▸ hI.counter, ?_, ?_, ?_, nofun⟩
      · show s.bits.connected = true ↔ _
        rw [hI.connected]
        simp
      · show s.bits.fail = true ↔ _
        rw [exceeded_snoc, hd, hI.fail]
        exact (or_iff_left (by omega)).symm
      · refine .attempting ⟨by simp, rfl, hI.main hst⟩ hip ?_ (by omega)
        show s.pending + 1 = 1
        rw [hp]
    | holdsIp hrun _ _ _ => exact (hno hrun).elim
    | attempting hrun _ _ _ => exact (hno hrun).elim
    | gaveUp hrun _ _ _ => exact (hno hrun).elim
  | attemptFails =>
    obtain ⟨hp, h⟩ := Option.ite_none_right_eq_some.mp hs
    cases h
    cases hI.link with
    | attempting hrun hip hp1 hd =>
      refine wifiInv_disconnected hI hrun ?_ hd (disconnects_snoc _ _) nofun
      rw [hp1, ← hip]
    | notStarted _ _ h0 _ => omega
    | holdsIp _ _ h0 _ => omega
    | gaveUp _ _ h0 _ => omega
  | connectionLost =>
    obtain ⟨hip, h⟩ := Option.ite_none_right_eq_some.mp hs
    cases h
    cases hI.link with
    | holdsIp hrun _ hp hd =>
      refine wifiInv_disconnected hI hrun ?_ (by omega) (disconnects_snoc _ _)
        nofun
      rw [hp]
    | notStarted _ h0 _ _ => rw [hip] at h0; cases h0
    | attempting _ h0 _ _ => rw [hip] at h0; cases h0
    | gaveUp _ h0 _ _ => rw [hip] at h0; cases h0
  | gotIp =>
    obtain ⟨hp, h⟩ := Option.ite_none_right_eq_some.mp hs
    cases h
    have hd : disconnects (as ++ [.gotIp]) = 0 := disconnects_snoc _ _
    cases hI.link with
    | attempting hrun hip hp1 _ =>
      refine ⟨?_, iff_of_true rfl (by simp), ?_, ?_, hI.main⟩
      · rw [hd, Nat.zero_min]
        rfl
      · rw [exceeded_snoc, hd, ← hI.fail]
        exact (or_iff_left (Nat.not_lt_zero _)).symm
      · refine .holdsIp (hrun.snoc rfl rfl) rfl ?_ hd
        show s.pending - 1 = 0
        rw [hp1]
    | notStarted _ _ h0 _ => omega
    | holdsIp _ _ h0 _ => omega
    | gaveUp _ _ h0 _ => omega
  | otherEvent =>
    cases hs
    exact wifiInv_silent hI (fun _ => rfl) nofun nofun ⟨s.starting, s.main, rfl⟩
      (fun h => ⟨rfl, h.main⟩) hI.main
  | waitBits =>
    obtain ⟨-, h⟩ := Option.ite_none_right_eq_some.mp hs
    cases h
    exact wifiInv_silent hI (fun _ => rfl) nofun nofun ⟨s.starting, _, rfl⟩
      (fun _ => ⟨rfl, nofun⟩) fun _ => nofun

/-- The event an action makes `event_handler` handle. -/
def WifiAction.event : WifiAction → Option WifiEvent
  | .started => some .staStart
  | .attemptFails => some .staDisconnected
  | .connectionLost => some .staDisconnected
  | .gotIp => some .staGotIp
  | .otherEvent => some .other
  | .setUp _ => none
  | .waitBits => none

theorem handled_step (hs : s.step max a = some s') {e : WifiEvent} (he : a.event = some e) :
    ∃ starting pending hasIp, s' = eventHandler max
      { s with starting := starting, pending := pending, hasIp := hasIp } e := by
  cases a with
  | setUp r => cases he
  | started =>
    obtain ⟨-, h⟩ := Option.ite_none_right_eq_some.mp hs
    cases h; cases he
    exact ⟨_, _, _, rfl⟩
  | attemptFails =>
    obtain ⟨-, h⟩ := Option.ite_none_right_eq_some.mp hs
    cases h; cases he
    exact ⟨_, _, _, rfl⟩
  | connectionLost =>
    obtain ⟨-, h⟩ := Option.ite_none_right_eq_some.mp hs
    cases h; cases he
    exact ⟨_, _, _, rfl⟩
  | gotIp =>
    obtain ⟨-, h⟩ := Option.ite_none_right_eq_some.mp hs
    cases h; cases he
    exact ⟨_, _, _, rfl⟩
  | otherEvent =>
    cases hs; cases he
    exact ⟨_, _, _, rfl⟩
  | waitBits => cases he

/-- A disconnect calls `esp_wifi_connect` if its count stays within `max`. -/
theorem connects_disconnected {s₀ : Station} {d : Nat} (hc : s₀.reconnectCounter = min d max) :
    (eventHandler max s₀ .staDisconnected).connects + min d max =
      s₀.connects + min (d + 1) max := by
  rw [eventHandler_disconnected]
  split
  · show s₀.connects + 1 + _ = _
    omega
  · show s₀.connects + _ = _
    omega

/-- What is called for a disconnect is what its count gains below `max`. -/
theorem connects_step (hI : WifiInv max as s) (hs : s.step max a = some s')
    (ha : a ≠ .started ∧ a ≠ .gotIp) :
    s'.connects + min (disconnects as) max = s.connects + min (disconnects (as ++ [a])) max := by
  rw [disconnects_snoc]
  cases a with
  | setUp r =>
    obtain ⟨-, h⟩ := Option.ite_none_right_eq_some.mp hs
    cases h
    split <;> rfl
  | started => exact absurd rfl ha.1
  | attemptFails =>
    obtain ⟨_, _, _, rfl⟩ := handled_step hs rfl
    exact connects_disconnected hI.counter
  | connectionLost =>
    obtain ⟨_, _, _, rfl⟩ := handled_step hs rfl
    exact connects_disconnected hI.counter
  | gotIp => exact absurd rfl ha.2
  | otherEvent =>
    obtain ⟨_, _, _, rfl⟩ := handled_step hs rfl
    rfl
  | waitBits =>
    obtain ⟨-, h⟩ := Option.ite_none_right_eq_some.mp hs
    cases h
    rfl

@[simp] theorem eventHandler_main (e : WifiEvent) : (eventHandler max s e).main = s.main := by
  cases e with
  | staDisconnected => rw [eventHandler_disconnected]; split <;> rfl
  | _ => rfl

theorem main_step (hs : s.step max a = some s') (ha : a ≠ .waitBits) :
    s'.main = s.main ∨ ∀ r, s'.main ≠ .returned r := by
  cases he : a.event with
  | some e =>
    obtain ⟨_, _, _, rfl⟩ := handled_step hs he
    exact .inl (eventHandler_main _)
  | none =>
    cases a with
    | setUp r =>
      obtain ⟨-, h⟩ := Option.ite_none_right_eq_some.mp hs
      cases h
      right
      split <;> nofun
    | waitBits => exact absurd rfl ha
    | _ => cases he

end Steps

/-! ## Runs -/

section Runs

variable {max : Nat} {as : List WifiAction} {s : Station}

theorem wifiInv (h : (station max).run as = some s) : WifiInv max as s := by
  refine Lts.hist_inv (P := WifiInv max) ?_ (fun as a s s' _ hI hs => wifiInv_step hI hs) h
  refine ⟨(Nat.zero_min max).symm, by simp [station], ?_, .notStarted nofun rfl rfl rfl, nofun⟩
  refine iff_of_false nofun ?_
  rintro ⟨pre, post, he, hd⟩
  obtain ⟨rfl, -⟩ := List.append_eq_nil_iff.mp he.symm
  exact absurd hd (Nat.not_lt_zero max)

theorem disconnects_reset {a : WifiAction} (ha : a = .started ∨ a = .gotIp)
    (h : (station max).run (as ++ [a]) = some s) : disconnects (as ++ [a]) = 0 := by
  rw [disconnects_snoc]
  rcases ha with rfl | rfl
  · obtain ⟨s₁, hs₁, hs⟩ := Lts.run_snoc.mp h
    obtain ⟨hst, -⟩ := Option.ite_none_right_eq_some.mp hs
    cases (wifiInv hs₁).link with
    | notStarted _ _ _ h0 => exact h0
    | holdsIp hrun _ _ _ => rw [hrun.starting] at hst; cases hst
    | attempting hrun _ _ _ => rw [hrun.starting] at hst; cases hst
    | gaveUp hrun _ _ _ => rw [hrun.starting] at hst; cases hst
  · rfl

/-- **The budget**: for `d` disconnects in a row, `min d max` attempts. -/
theorem connectsSince (h : (station max).run as = some s) :
    ConnectsSince max as s (min (disconnects as) max) := by
  rintro pre a post s₀ rfl ha hpost h₀
  rw [List.append_cons] at h ⊢
  induction post using List.reverseRecOn generalizing s with
  | nil =>
    rw [List.append_nil] at h ⊢
    rw [h₀, Option.some.injEq] at h
    rw [h, disconnects_reset ha h₀, Nat.zero_min]
    rfl
  | append_singleton post b ih =>
    rw [← List.append_assoc] at h ⊢
    obtain ⟨s₁, hs₁, hs⟩ := Lts.run_snoc.mp h
    have hprev := ih hs₁ fun c hc => hpost c (List.mem_append_left _ hc)
    have hstep := connects_step (wifiInv hs₁) hs (hpost b (by simp))
    omega

/-- `connect_to_wifi` has returned from `xEventGroupWaitBits` with the bits set at that time. -/
def ReturnedAt (max : Nat) (as : List WifiAction) (r : WifiReport) : Prop :=
  ∃ pre post s₁, as = pre ++ .waitBits :: post ∧ (station max).run pre = some s₁ ∧
    (s₁.bits.connected = true ∨ s₁.bits.fail = true) ∧ r = wifiReport s₁.bits

theorem returnedAt (h : (station max).run as = some s) {r : WifiReport}
    (hr : s.main = .returned r) : ReturnedAt max as r := by
  refine Lts.hist_inv (P := fun as s => ∀ r, s.main = .returned r → ReturnedAt max as r)
    (fun r hr => by cases hr) ?_ h r hr
  intro as a s s' hrun ih hs r hr
  by_cases ha : a = .waitBits
  · subst ha
    obtain ⟨⟨-, hbits⟩, h⟩ := Option.ite_none_right_eq_some.mp hs
    cases h
    cases hr
    exact ⟨as, [], s, rfl, hrun, Bool.or_eq_true_iff.mp hbits, rfl⟩
  · rcases main_step hs ha with hmain | hmain
    · obtain ⟨pre, post, s₁, rfl, hs₁, hbits, hreport⟩ := ih r (hmain ▸ hr)
      exact ⟨pre, post ++ [a], s₁, by simp, hs₁, hbits, hreport⟩
    · exact absurd hr (hmain r)

/-- **The reconnects keep their budget and the station never goes idle silently.** After
`STA_START`, with `d` disconnects since the last `GOT_IP`: the counter is `min d max`, as many
attempts were made for them, the fail bit says whether `d` has ever exceeded `max`, the other
one whether an IP was ever got, and the station holds an IP, or has one attempt under way, or
has set the fail bit after `max` attempts. `connect_to_wifi` returns after one of the bits was set
and reports success if and only if an IP was got by then. -/
theorem station_keeps_budget (h : (station max).run as = some s) (hstart : .started ∈ as) :
    s.reconnectCounter = min (disconnects as) max ∧
    ConnectsSince max as s (min (disconnects as) max) ∧
    (s.bits.fail = true ↔ Exceeded max as) ∧
    (s.bits.connected = true ↔ .gotIp ∈ as) ∧
    (s.hasIp = true ∨ s.pending = 1 ∨ s.bits.fail = true ∧ ConnectsSince max as s max) ∧
    ∀ r, s.main = .returned r → ∃ pre post s₁, as = pre ++ .waitBits :: post ∧
      (station max).run pre = some s₁ ∧ (s₁.bits.connected = true ∨ s₁.bits.fail = true) ∧
      (r = .connected ↔ s₁.bits.connected = true) ∧ (r = .connected ↔ .gotIp ∈ pre) ∧
      (r = .failed ↔ .gotIp ∉ pre) := by
  have hI := wifiInv h
  refine ⟨hI.counter, connectsSince h, hI.fail, hI.connected, ?_, fun r hr => ?_⟩
  · cases hI.link with
    | notStarted hs _ _ _ => exact absurd hstart hs
    | holdsIp _ hip _ _ => exact .inl hip
    | attempting _ _ hp _ => exact .inr (.inl hp)
    | gaveUp _ _ _ hd =>
      refine .inr (.inr ⟨hI.fail.mpr ⟨as, [], by simp, hd⟩, ?_⟩)
      have hspent := connectsSince h
      rwa [Nat.min_eq_right (Nat.le_of_lt hd)] at hspent
  · obtain ⟨pre, post, s₁, he, hs₁, hbits, rfl⟩ := returnedAt h hr
    have hconn := (wifiInv hs₁).connected
    have hreport : wifiReport s₁.bits = .connected ↔ s₁.bits.connected = true := by
      unfold wifiReport
      split
      · next hc => simp [hc]
      · next hc => split <;> simp [hc]
    have hfailed : wifiReport s₁.bits = .failed ↔ ¬ s₁.bits.connected = true := by
      unfold wifiReport
      split
      · next hc => simp [hc]
      · next hc => rw [if_pos (hbits.resolve_left hc)]; simp [hc]
    exact ⟨pre, post, s₁, he, hs₁, hbits, hreport, hreport.trans hconn,
      hfailed.trans (not_congr hconn)⟩

end Runs

/-- The results of a set-up on an NVS partition of an older version. -/
def setUpErasing : SetUpResults :=
  ⟨.nvsNewVersionFound, .ok, .ok, .ok, .ok, .ok, .ok, .ok, .ok, .ok, .ok⟩

/-- With one reconnect allowed, a connection is lost and the reconnect fails. -/
theorem station_gives_up :
    ∃ s, (station 1).run [.setUp setUpErasing, .started, .gotIp, .waitBits, .connectionLost,
        .attemptFails] = some s ∧
      s.reconnectCounter = 1 ∧ s.bits.fail = true ∧ s.main = .returned .connected := by
  obtain ⟨s, hs⟩ : ∃ s, (station 1).run [.setUp setUpErasing, .started, .gotIp, .waitBits,
      .connectionLost, .attemptFails] = some s := ⟨_, rfl⟩
  obtain ⟨hspent, -⟩ := station_keeps_budget hs (by decide)
  cases hs
  exact ⟨_, rfl, hspent, rfl, rfl⟩

end Powermeter
