import Powermeter.Client.Subscribe
import Powermeter.Lib.Provenance
import Powermeter.Server.Streams
import Powermeter.System.Node

/-!
# A node of the cluster and its powermeter

The whole way from the sensors to the counter of one node: the ESP32 with all its tasks and
any number of reboots, other hosts that send it any datagrams, the network, and the node.
`own` are the socket addresses of the node, `channel` is the channel its client is configured
with, `worlds k` is what the ESP32 meets after its `k`-th reboot. A slot and a `client_info` are
copied in one step, the client's `latest_measurement` field by field. Every energy on its way
to the node, or stored there, has come from the slot of its channel (`storesOwn_step`).
-/

namespace Powermeter

/-- `session` counts the reboots; `subscriptions` to the ESP32 and `measurements` to the clients
are in flight. -/
structure Deployment (ν : Type) (n : Nat) where
  session : Nat
  esp : Esp ν n
  subscriptions : List (Datagram ν)
  measurements : List (ν × PowerMeasurement)
  node : Node ν

inductive DeploymentEvent (ν : Type) where
  /-- A step of `app_main` or of the measurement task. -/
  | boot (a : BootEvent Empty)
  | reboot
  /-- `serve_client` task `i` copies its client. -/
  | startTask (i : Nat)
  | sendMeasurement (i : Nat) (result : SendResult)
  /-- Another host sends the ESP32 a datagram. -/
  | datagram (d : Datagram ν)
  | subscription (t : Transit) (d : Datagram ν)
  /-- The node's client is started, with a socket of this address, and sends its request. -/
  | startClient (a : ν)
  | measurement (t : Transit) (a : ν) (m : PowerMeasurement)
  | node (a : NodeEvent)

variable {ν : Type} {n : Nat}

namespace Deployment

/-- What the client sends: the channel in decimal, with its NUL. -/
def subscriptionOf (channel : UInt8) (a : ν) : Datagram ν :=
  ⟨CStr.decimal channel.toNat ++ [0], a, 16⟩

/-- A step of the ESP32; what it sends goes out. -/
def espStep (w : World) (s : Deployment ν n) (a : EspEvent ν) : Option (Deployment ν n) :=
  (s.esp.step w a).map fun esp =>
    { s with
      esp := esp
      measurements :=
        (esp.sent.drop s.esp.sent.length).map (fun x => (x.1.sockaddr, x.2)) ++ s.measurements }

variable [DecidableEq ν]

def step (inc : CounterInc) (own : ν → Bool) (channel : UInt8) (worlds : Nat → World)
    (s : Deployment ν n) : DeploymentEvent ν → Option (Deployment ν n)
  | .boot a => s.espStep (worlds s.session) (.boot a)
  | .reboot => some { s with session := s.session + 1, esp := Esp.powerOn ν n }
  | .startTask i => s.espStep (worlds s.session) (.start i)
  | .sendMeasurement i result => s.espStep (worlds s.session) (.send i result)
  | .datagram d =>
    if own d.sockaddr then none else some { s with subscriptions := d :: s.subscriptions }
  | .subscription t d => (Pipeline.transit s.subscriptions t d).bind fun subscriptions =>
      if t = .deliver then
        { s with subscriptions := subscriptions }.espStep (worlds s.session) (.recv d)
      else some { s with subscriptions := subscriptions }
  | .startClient a =>
    if own a then
      some { s with
        subscriptions := subscriptionOf channel a :: s.subscriptions
        node := s.node.startClient a }
    else none
  | .measurement t a m => (Pipeline.transit s.measurements t (a, m)).bind fun measurements =>
      if t = .deliver then
        (s.node.receive a m).map fun node => { s with measurements := measurements, node := node }
      else some { s with measurements := measurements }
  | .node a => (s.node.step inc a).map fun node => { s with node := node }

/-- The energy in the slot of the node's channel. -/
def channelEnergy (channel : UInt8) (s : Deployment ν n) : ℚ :=
  match getMeasurement s.esp.boot.meter channel with
  | .ok m => m.energyConsumption
  | .error _ => 0

end Deployment

/-- From the power-on of the ESP32 and the start of the exporter on. -/
def deployment [DecidableEq ν] (inc : CounterInc) (own : ν → Bool) (channel : UInt8) (n : Nat)
    (worlds : Nat → World) : Lts (Deployment ν n) (DeploymentEvent ν) where
  init := ⟨0, Esp.powerOn ν n, [], [], Node.start ν⟩
  step := Deployment.step inc own channel worlds

/-! ## Requests of the node -/

section Requests

theorem requestOf_sockaddr {availableChannels : UInt8} {d : Datagram ν} {client : ClientInfo ν}
    (h : requestOf availableChannels d = some client) : client.sockaddr = d.sockaddr := by
  unfold requestOf at h
  obtain ⟨-, h⟩ := Option.ite_none_right_eq_some.mp h
  cases h
  rfl

theorem toUInt8_toNat (c : UInt8) : toUInt8 c.toNat = c := by
  rw [← UInt8.toNat_inj, toNat_toUInt8, Nat.mod_eq_of_lt c.toNat_lt]

/-- The request of the node's client asks for its channel, and is accepted if there is one. -/
theorem requestOf_subscriptionOf (availableChannels channel : UInt8) (a : ν) :
    requestOf availableChannels (Deployment.subscriptionOf channel a) =
      if 1 ≤ channel.toNat ∧ channel.toNat ≤ availableChannels.toNat then
        some ⟨channel.toNat, a, 16⟩
      else none := by
  have hstreamed : streamedChannel availableChannels _ = _ :=
    streamedChannel_decimal channel.toNat_lt [] 0
  have hmap : requestOf availableChannels (Deployment.subscriptionOf channel a) =
      (requestOf availableChannels (Deployment.subscriptionOf channel ())).map fun client =>
        ⟨client.requestedChannel, a, 16⟩ := by
    unfold requestOf Deployment.subscriptionOf
    dsimp only
    split <;> rfl
  rw [hmap]
  change (requestOf availableChannels (Deployment.subscriptionOf channel ())).map _ = _
    at hstreamed
  cases hr : requestOf availableChannels (Deployment.subscriptionOf channel ()) with
  | none =>
    rw [hr] at hstreamed
    split at hstreamed
    · cases hstreamed
    · next hno => rw [if_neg hno]; rfl
  | some client =>
    rw [hr, toUInt8_toNat] at hstreamed
    split at hstreamed
    · next hyes =>
      rw [Option.map_some, Option.some.injEq] at hstreamed
      obtain ⟨h1, h2⟩ := requestOf_range hr
      have h255 := availableChannels.toNat_lt
      obtain ⟨c, hc⟩ := Int.eq_ofNat_of_zero_le (show 0 ≤ client.requestedChannel by omega)
      have hch := congrArg UInt8.toNat hstreamed
      rw [hc, toNat_toUInt8, Nat.mod_eq_of_lt (by omega)] at hch
      rw [if_pos hyes, Option.map_some, hc, hch]
    · cases hstreamed

end Requests

/-! ## One step -/

/-- Clients at the node's addresses are clients of the node's channel. -/
structure OwnInv (own : ν → Bool) (channel : UInt8) (s : Deployment ν n) : Prop where
  buffer : s.esp.server.rxBuffer.length = receiveBufferSize
  server : s.esp.server.All fun client =>
    own client.sockaddr = true → client.requestedChannel = channel.toNat
  subscriptions : ∀ d ∈ s.subscriptions, own d.sockaddr = true →
    d = Deployment.subscriptionOf channel d.sockaddr
  socket : ∀ a, s.node.socket = some a → own a = true

/-- Every energy on its way to the node or stored there meets `P`. -/
structure Deployment.StoresOwn (own : ν → Bool) (P : ℚ → Prop) (s : Deployment ν n) : Prop where
  measurements : ∀ x ∈ s.measurements, own x.1 = true → P x.2.energyConsumption
  node : s.node.Stores P

section Steps

variable {inc : CounterInc} {own : ν → Bool} {channel : UInt8} {worlds : Nat → World} {w : World}
  {s s' : Deployment ν n} {P Q : ℚ → Prop}

/-- What a step of the ESP32 sends is what a round of a task has read. -/
theorem espStep_cases {a : EspEvent ν} (h : s.espStep w a = some s') :
    ∃ esp out, s.esp.step w a = some esp ∧
      s' = { s with esp := esp, measurements := out ++ s.measurements } ∧
      ∀ x ∈ out, ∃ i client, s.esp.round i = some (client, x.2) ∧ client.sockaddr = x.1 ∧
        some client ∈ s.esp.server.tasks := by
  obtain ⟨esp, hesp, rfl⟩ := Option.map_eq_some_iff.mp h
  refine ⟨esp, _, hesp, rfl, fun x hx => ?_⟩
  obtain ⟨y, hy, rfl⟩ := List.mem_map.mp hx
  have hno : esp.sent = s.esp.sent → False := by
    intro he
    rw [he, List.drop_length] at hy
    cases hy
  obtain ⟨-, hs⟩ := Option.ite_none_left_eq_some.mp hesp
  cases a with
  | boot a => obtain ⟨_, -, rfl⟩ := Option.map_eq_some_iff.mp hs; exact (hno rfl).elim
  | recv d =>
    obtain ⟨-, hs⟩ := Option.ite_none_right_eq_some.mp hs
    cases hs
    exact (hno rfl).elim
  | start i => obtain ⟨_, -, rfl⟩ := Option.map_eq_some_iff.mp hs; exact (hno rfl).elim
  | send i result =>
    obtain ⟨-, -, client, m, hr, hsent | ⟨-, -, hsent⟩⟩ := Esp.send_cases hs
    · exact (hno hsent).elim
    · rw [hsent, List.drop_left, List.mem_singleton] at hy
      subst hy
      exact ⟨i, client, hr, rfl, (Esp.round_eq hr).1⟩

theorem espStep_server {a : EspEvent ν} {C : ClientInfo ν → Prop} {e e' : Esp ν n}
    (h : e.step w a = some e') (hbuffer : e.server.rxBuffer.length = receiveBufferSize)
    (hall : e.server.All C)
    (hrecv : ∀ d, a = .recv d → ∀ client, requestOf (getAmountOfChannels n) d = some client →
      C client) :
    e'.server.rxBuffer.length = receiveBufferSize ∧ e'.server.All C := by
  obtain ⟨-, hs⟩ := Option.ite_none_left_eq_some.mp h
  cases a with
  | boot a => obtain ⟨_, -, rfl⟩ := Option.map_eq_some_iff.mp hs; exact ⟨hbuffer, hall⟩
  | recv d =>
    obtain ⟨-, hs⟩ := Option.ite_none_right_eq_some.mp hs
    cases hs
    refine ⟨?_, hall.recv hbuffer (hrecv d rfl)⟩
    obtain ⟨rxBuffer, hl, ⟨-, he⟩ | ⟨client, -, he⟩⟩ :=
      recv_cases (getAmountOfChannels n) hbuffer d <;> rw [he] <;> exact hl
  | start i =>
    obtain ⟨server, hst, rfl⟩ := Option.map_eq_some_iff.mp hs
    refine ⟨?_, hall.start hst⟩
    obtain ⟨-, rfl⟩ := start_cases hst
    exact hbuffer
  | send i result =>
    obtain ⟨-, hserver, -⟩ := Esp.send_cases hs
    rw [hserver]
    exact ⟨hbuffer, hall⟩

theorem getAmountOfChannels_request {a : ν} {client : ClientInfo ν}
    (h : requestOf (getAmountOfChannels n) (Deployment.subscriptionOf channel a) = some client) :
    client.requestedChannel = channel.toNat := by
  rw [requestOf_subscriptionOf] at h
  obtain ⟨-, h⟩ := Option.ite_none_right_eq_some.mp h
  cases h
  rfl

theorem ownInv_esp {a : EspEvent ν} (hI : OwnInv own channel s)
    (hrecv : ∀ d, a = .recv d → own d.sockaddr = true →
      d = Deployment.subscriptionOf channel d.sockaddr)
    (hs : s.espStep w a = some s') : OwnInv own channel s' := by
  obtain ⟨esp, out, hesp, rfl, -⟩ := espStep_cases hs
  obtain ⟨hbuffer, hserver⟩ := espStep_server hesp hI.buffer hI.server
    fun d ha client hr hown => by
      rw [requestOf_sockaddr hr] at hown
      rw [hrecv d ha hown] at hr
      exact getAmountOfChannels_request hr
  exact ⟨hbuffer, hserver, hI.subscriptions, hI.socket⟩

theorem round_energy {i : Nat} {client : ClientInfo ν} {m : PowerMeasurement}
    (hr : s.esp.round i = some (client, m)) (hc : client.requestedChannel = channel.toNat) :
    m.energyConsumption = s.channelEnergy channel := by
  obtain ⟨-, hget⟩ := Esp.round_eq hr
  rw [hc, toUInt8_toNat] at hget
  unfold Deployment.channelEnergy
  rw [hget]

theorem Deployment.StoresOwn.mono (hPQ : ∀ x, P x → Q x) (h : s.StoresOwn own P) :
    s.StoresOwn own Q :=
  ⟨fun x hx hown => hPQ _ (h.measurements x hx hown), h.node.mono hPQ⟩

def Deployment.Serves (own : ν → Bool) (s : Deployment ν n) : Prop :=
  ∃ client, some client ∈ s.esp.server.tasks ∧ own client.sockaddr = true

theorem storesOwn_esp {a : EspEvent ν} (hI : OwnInv own channel s)
    (h : s.StoresOwn own P) (hsource : s.Serves own → P (s.channelEnergy channel))
    (hs : s.espStep w a = some s') : s'.StoresOwn own P := by
  obtain ⟨esp, out, -, rfl, hout⟩ := espStep_cases hs
  refine ⟨fun x hx hown => ?_, h.node⟩
  rcases List.mem_append.mp hx with hnew | hold
  · obtain ⟨i, client, hr, ha, hmem⟩ := hout x hnew
    rw [← ha] at hown
    rw [round_energy hr (hI.server.2 client hmem hown)]
    exact hsource ⟨client, hmem, hown⟩
  · exact h.measurements x hold hown

variable [DecidableEq ν]

theorem ownInv_step {a : DeploymentEvent ν} (hI : OwnInv own channel s)
    (hs : s.step inc own channel worlds a = some s') : OwnInv own channel s' := by
  cases a with
  | boot a => exact ownInv_esp hI (fun _ h => by cases h) hs
  | reboot =>
    cases hs
    exact ⟨List.length_replicate .., ⟨nofun, nofun⟩, hI.subscriptions, hI.socket⟩
  | startTask i => exact ownInv_esp hI (fun _ h => by cases h) hs
  | sendMeasurement i result => exact ownInv_esp hI (fun _ h => by cases h) hs
  | datagram d =>
    obtain ⟨hd, hs⟩ := Option.ite_none_left_eq_some.mp hs
    cases hs
    exact { hI with
      subscriptions := List.forall_mem_cons.mpr ⟨fun h => absurd h hd, hI.subscriptions⟩ }
  | subscription t d =>
    obtain ⟨subscriptions, ht, hs⟩ := Option.bind_eq_some_iff.mp hs
    obtain ⟨hd, hsub⟩ := transit_subset ht
    have hI' : OwnInv own channel { s with subscriptions := subscriptions } :=
      { hI with subscriptions := fun x hx => hI.subscriptions x (hsub hx) }
    split at hs
    · refine ownInv_esp hI' ?_ hs
      rintro _ ⟨⟩
      exact hI.subscriptions d hd
    · cases hs
      exact hI'
  | startClient a =>
    obtain ⟨hown, hs⟩ := Option.ite_none_right_eq_some.mp hs
    cases hs
    refine { hI with
      subscriptions := List.forall_mem_cons.mpr ⟨fun _ => rfl, hI.subscriptions⟩
      socket := ?_ }
    rintro _ ⟨⟩
    exact hown
  | measurement t a m =>
    obtain ⟨measurements, -, hs⟩ := Option.bind_eq_some_iff.mp hs
    split at hs
    · obtain ⟨node, hn, rfl⟩ := Option.map_eq_some_iff.mp hs
      obtain ⟨hbefore, hafter, -⟩ := receive_eq_some hn
      exact { hI with socket := fun b hb => hI.socket b (hbefore.trans (hafter.symm.trans hb)) }
    · cases hs
      exact { hI with }
  | node a =>
    obtain ⟨node, hn, rfl⟩ := Option.map_eq_some_iff.mp hs
    exact { hI with socket := fun b hb => hI.socket b ((exporter_step hn).1.symm.trans hb) }

/-- **Only the slot of the node's channel brings in a new energy**, whatever the hand-off to the
tasks mixes up, and only through a task at work for the node. -/
theorem storesOwn_step {a : DeploymentEvent ν} (hI : OwnInv own channel s)
    (h : s.StoresOwn own P) (h0 : P 0) (hsource : s.Serves own → P (s.channelEnergy channel))
    (hs : s.step inc own channel worlds a = some s') : s'.StoresOwn own P := by
  cases a with
  | boot a => exact storesOwn_esp hI h hsource hs
  | reboot => cases hs; exact ⟨h.measurements, h.node⟩
  | startTask i => exact storesOwn_esp hI h hsource hs
  | sendMeasurement i result => exact storesOwn_esp hI h hsource hs
  | datagram d =>
    obtain ⟨-, hs⟩ := Option.ite_none_left_eq_some.mp hs
    cases hs
    exact ⟨h.measurements, h.node⟩
  | subscription t d =>
    obtain ⟨subscriptions, ht, hs⟩ := Option.bind_eq_some_iff.mp hs
    obtain ⟨-, hsub⟩ := transit_subset ht
    have hI' : OwnInv own channel { s with subscriptions := subscriptions } :=
      { hI with subscriptions := fun x hx => hI.subscriptions x (hsub hx) }
    have h' : { s with subscriptions := subscriptions }.StoresOwn own P := ⟨h.measurements, h.node⟩
    split at hs
    · exact storesOwn_esp hI' h' hsource hs
    · cases hs
      exact h'
  | startClient a =>
    obtain ⟨-, hs⟩ := Option.ite_none_right_eq_some.mp hs
    cases hs
    exact ⟨h.measurements, stores_startClient h.node h0⟩
  | measurement t a m =>
    obtain ⟨measurements, ht, hs⟩ := Option.bind_eq_some_iff.mp hs
    obtain ⟨hm, hsub⟩ := transit_subset ht
    have hmeasurements : ∀ x ∈ measurements, own x.1 = true → P x.2.energyConsumption :=
      fun x hx => h.measurements x (hsub hx)
    split at hs
    · obtain ⟨node, hn, rfl⟩ := Option.map_eq_some_iff.mp hs
      have hown := hI.socket a (receive_eq_some hn).1
      exact ⟨hmeasurements, stores_receive h.node (h.measurements _ hm hown) hn⟩
    · cases hs
      exact ⟨hmeasurements, h.node⟩
  | node a =>
    obtain ⟨node, hn, rfl⟩ := Option.map_eq_some_iff.mp hs
    exact ⟨h.measurements, stores_step h.node h0 hn⟩

theorem exporter_cases {a : DeploymentEvent ν} (hs : s.step inc own channel worlds a = some s') :
    s'.node.exporter = s.node.exporter ∨ ∃ b, a = .node b ∧ s.node.step inc b = some s'.node := by
  have hesp : ∀ {b : EspEvent ν} {w : World} {u u' : Deployment ν n},
      u.espStep w b = some u' → u'.node = u.node := by
    intro b w u u' hs
    obtain ⟨esp, out, -, rfl, -⟩ := espStep_cases hs
    rfl
  cases a with
  | boot a => exact .inl (congrArg Node.exporter (hesp hs))
  | reboot => cases hs; exact .inl rfl
  | startTask i => exact .inl (congrArg Node.exporter (hesp hs))
  | sendMeasurement i result => exact .inl (congrArg Node.exporter (hesp hs))
  | datagram d =>
    obtain ⟨-, hs⟩ := Option.ite_none_left_eq_some.mp hs
    cases hs
    exact .inl rfl
  | subscription t d =>
    obtain ⟨subscriptions, -, hs⟩ := Option.bind_eq_some_iff.mp hs
    split at hs
    · exact .inl (congrArg Node.exporter (hesp (u := { s with subscriptions := subscriptions }) hs))
    · cases hs
      exact .inl rfl
  | startClient a =>
    obtain ⟨-, hs⟩ := Option.ite_none_right_eq_some.mp hs
    cases hs
    exact .inl rfl
  | measurement t a m =>
    obtain ⟨measurements, -, hs⟩ := Option.bind_eq_some_iff.mp hs
    split at hs
    · obtain ⟨node, hn, rfl⟩ := Option.map_eq_some_iff.mp hs
      exact .inl (receive_eq_some hn).2.2
    · cases hs
      exact .inl rfl
  | node a =>
    obtain ⟨node, hn, rfl⟩ := Option.map_eq_some_iff.mp hs
    exact .inr ⟨a, rfl, hn⟩

theorem exporterSound_step (hinc : IncSpec (· + ·) inc) {a : DeploymentEvent ν}
    (h : s.node.exporter.Sound) (hs : s.step inc own channel worlds a = some s') :
    s'.node.exporter.Sound := by
  rcases exporter_cases hs with he | ⟨b, -, hb⟩
  · rw [he]
    exact h
  · exact sound_step hinc h hb

end Steps

/-! ## Runs -/

theorem channelEnergy_slot {channel : UInt8} {i : Nat} (hi : i < amountOfChannels n)
    (hch : channel.toNat = i + 1) (s : Deployment ν n) :
    s.channelEnergy channel = (s.esp.boot.meter.measurements[i]).energyConsumption := by
  unfold Deployment.channelEnergy getMeasurement
  rw [show ((channel.toNat : Int) - 1) = (i : Nat) by omega, load_ofNat hi]

theorem channelEnergy_none {channel : UInt8}
    (h : ¬ ∃ i < amountOfChannels n, channel.toNat = i + 1) (s : Deployment ν n) :
    s.channelEnergy channel = 0 := by
  unfold Deployment.channelEnergy
  split
  · next m hm =>
    obtain ⟨h0, hi, -⟩ := load_eq_ok hm
    exact absurd ⟨_, hi, by omega⟩ h
  · rfl

theorem channelEnergy_powerOn (channel : UInt8) {s : Deployment ν n}
    (hs : s.esp = Esp.powerOn ν n) : s.channelEnergy channel = 0 := by
  by_cases h : ∃ i < amountOfChannels n, channel.toNat = i + 1
  · obtain ⟨i, hi, hch⟩ := h
    rw [channelEnergy_slot hi hch]
    simp only [hs, Esp.powerOn, Meter.start, Vector.getElem_replicate]
    rfl
  · exact channelEnergy_none h s

section Runs

variable [DecidableEq ν] {inc : CounterInc} {own : ν → Bool} {channel : UInt8}
  {worlds : Nat → World} {as : List (DeploymentEvent ν)} {s : Deployment ν n}

theorem ownInv (h : (deployment inc own channel n worlds).run as = some s) :
    OwnInv own channel s := by
  refine Lts.inv (P := OwnInv own channel) ?_ (fun s a s' hI hs => ownInv_step hI hs) h
  exact ⟨List.length_replicate .., ⟨nofun, nofun⟩, nofun, nofun⟩

theorem exporterSound (hinc : IncSpec (· + ·) inc)
    (h : (deployment inc own channel n worlds).run as = some s) :
    s.node.exporter.Sound :=
  Lts.inv (P := fun s => s.node.exporter.Sound) Exporter.sound_start
    (fun _ _ _ hI hs => exporterSound_step hinc hI hs) h

/-- **Every energy of the node has been the energy of its channel.** -/
theorem storesOwn_occurred (h : (deployment inc own channel n worlds).run as = some s) :
    s.StoresOwn own
      ((deployment inc own channel n worlds).Occurred (Deployment.channelEnergy channel) as) := by
  have hzero : Deployment.channelEnergy channel (deployment inc own channel n worlds).init = 0 :=
    channelEnergy_powerOn channel rfl
  refine Lts.stores_occurred (S := fun P s => s.StoresOwn own P)
    (fun hPQ hs => hs.mono hPQ) ?_ ?_ h
  · intro P h0
    rw [hzero] at h0
    exact ⟨nofun, stores_start h0⟩
  · intro P as a s s' hrun hs h0 hsource hstores
    rw [hzero] at h0
    exact storesOwn_step (ownInv hrun) hstores h0 (fun _ => hsource) hs

end Runs

end Powermeter
