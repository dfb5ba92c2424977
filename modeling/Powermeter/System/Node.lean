import Powermeter.Client.Relay
import Powermeter.Exporter.Metrics
import Powermeter.System.Pipeline

/-!
# A node: its client and its exporter

`udp_client` with its two threads and the exporter that asks it for measurements, with the
requests and responses in flight between them. Both programs may be restarted at any time; a
restarted one may find what its predecessor was sent. `Node.Stores` speaks of all the energies
a node has stored; only a received measurement brings in a new one (`stores_step`).
-/

namespace Powermeter

/-! ## The exporter -/

/-- An exporter: its metrics, what was passed to `update_metrics` since it started, and whether
that has raised an exception. -/
structure Exporter where
  metrics : Metrics
  updates : List PowerMeasurement
  raised : Bool
  deriving DecidableEq, Repr

namespace Exporter

def start : Exporter := ⟨.fresh, [], false⟩

def update (inc : CounterInc) (s : Exporter) (m : PowerMeasurement) : Exporter :=
  match updateMetrics inc s.metrics m with
  | .ok metrics => ⟨metrics, s.updates ++ [m], s.raised⟩
  | .error _ => ⟨s.metrics, s.updates ++ [m], true⟩

/-- The counter shows the highest energy passed on, and nothing was raised. -/
structure Sound (s : Exporter) : Prop where
  shows : s.metrics.energyConsumption.Shows s.updates
  raised : s.raised = false

theorem sound_start : start.Sound :=
  ⟨by simp [start, CounterWrapper.Shows, peakEnergy, Metrics.fresh], rfl⟩

theorem update_updates (inc : CounterInc) (s : Exporter) (m : PowerMeasurement) :
    (s.update inc m).updates = s.updates ++ [m] := by
  unfold update
  split <;> rfl

theorem Sound.update {inc : CounterInc} (hinc : IncSpec (· + ·) inc) {s : Exporter} (h : s.Sound)
    (m : PowerMeasurement) : (s.update inc m).Sound := by
  obtain ⟨metrics, hu, hshows⟩ := shows_update hinc h.shows m
  unfold Exporter.update
  rw [hu]
  exact ⟨hshows, h.raised⟩

end Exporter

/-! ## The node -/

def Relay.start : Relay := ⟨.zero, .zero, [], [], none, []⟩

/-- `socket` is the address of the client's socket to the server, `none` before the client was
first started; `requests` and `responses` are in flight between exporter and client. -/
structure Node (ν : Type) where
  socket : Option ν
  relay : Relay
  requests : List Unit
  responses : List PowerMeasurement
  exporter : Exporter

inductive NodeEvent where
  | store (f : MeasurementField)
  | startExporter
  | sendRequest
  | request (t : Transit)
  | load (f : MeasurementField)
  | respond
  | response (t : Transit) (m : PowerMeasurement)
  deriving DecidableEq, Repr

variable {ν : Type}

namespace Node

def start (ν : Type) : Node ν := ⟨none, Relay.start, [], [], Exporter.start⟩

def startClient (s : Node ν) (a : ν) : Node ν := { s with socket := some a, relay := Relay.start }

/-- The client reads a measurement that was sent to address `a`. -/
def receive [DecidableEq ν] (s : Node ν) (a : ν) (m : PowerMeasurement) : Option (Node ν) :=
  if s.socket = some a then (s.relay.receive m).map fun relay => { s with relay := relay }
  else none

def step (inc : CounterInc) (s : Node ν) : NodeEvent → Option (Node ν)
  | .store f => (s.relay.store f).map fun relay => { s with relay := relay }
  | .startExporter => some { s with exporter := Exporter.start }
  | .sendRequest =>
    if s.exporter.raised then none else some { s with requests := () :: s.requests }
  | .request t => (Pipeline.transit s.requests t ()).bind fun requests =>
      if t = .deliver then
        if s.socket.isSome then
          s.relay.request.map fun relay => { s with relay := relay, requests := requests }
        else none
      else some { s with requests := requests }
  | .load f => (s.relay.load f).map fun relay => { s with relay := relay }
  | .respond => s.relay.send.map fun relay =>
      { s with
        relay := relay
        responses := relay.responses.drop s.relay.responses.length ++ s.responses }
  | .response t m => (Pipeline.transit s.responses t m).bind fun responses =>
      if t = .deliver then
        if s.exporter.raised then none
        else some { s with responses := responses, exporter := s.exporter.update inc m }
      else some { s with responses := responses }

/-- Every energy a node has stored meets `P`: in the two threads of its client, in responses in
flight, and at its exporter. -/
structure Stores (P : ℚ → Prop) (s : Node ν) : Prop where
  latest : P s.relay.latestMeasurement.energyConsumption
  unstored : P s.relay.measurement.energyConsumption
  listener : ∀ message fs, s.relay.listener = some (message, fs) → P message.energyConsumption
  responses : ∀ m ∈ s.responses, P m.energyConsumption
  updates : ∀ m ∈ s.exporter.updates, P m.energyConsumption

end Node

def node (inc : CounterInc) (ν : Type) : Lts (Node ν) NodeEvent where
  init := Node.start ν
  step := Node.step inc

/-! ## What a step can do to the energies -/

section Steps

variable {inc : CounterInc} {s s' : Node ν} {P Q : ℚ → Prop}

theorem Node.Stores.mono (hPQ : ∀ x, P x → Q x) (h : s.Stores P) : s.Stores Q :=
  ⟨hPQ _ h.latest, hPQ _ h.unstored, fun message fs hl => hPQ _ (h.listener message fs hl),
    fun m hm => hPQ _ (h.responses m hm), fun m hm => hPQ _ (h.updates m hm)⟩

theorem stores_start (h0 : P 0) : (Node.start ν).Stores P := ⟨h0, h0, nofun, nofun, nofun⟩

theorem stores_startClient {a : ν} (h : s.Stores P) (h0 : P 0) : (s.startClient a).Stores P :=
  ⟨h0, h0, nofun, h.responses, h.updates⟩

theorem stores_receive [DecidableEq ν] {a : ν} {m : PowerMeasurement} (h : s.Stores P)
    (hm : P m.energyConsumption) (hs : s.receive a m = some s') : s'.Stores P := by
  obtain ⟨-, hs⟩ := Option.ite_none_right_eq_some.mp hs
  obtain ⟨relay, hr, rfl⟩ := Option.map_eq_some_iff.mp hs
  obtain ⟨-, rfl⟩ := receive_cases hr
  exact { h with unstored := hm }

theorem receive_eq_some [DecidableEq ν] {a : ν} {m : PowerMeasurement}
    (hs : s.receive a m = some s') :
    s.socket = some a ∧ s'.socket = some a ∧ s'.exporter = s.exporter := by
  obtain ⟨hsocket, hs⟩ := Option.ite_none_right_eq_some.mp hs
  obtain ⟨relay, -, rfl⟩ := Option.map_eq_some_iff.mp hs
  exact ⟨hsocket, hsocket, rfl⟩

theorem copyField_energy (f : MeasurementField) {src dst : PowerMeasurement}
    (hsrc : P src.energyConsumption) (hdst : P dst.energyConsumption) :
    P (PowerMeasurement.copyField f src dst).energyConsumption := by
  cases f
  · exact hdst
  · exact hdst
  · exact hsrc

/-- **On the node energies are only copied**, or forgotten for 0. -/
theorem stores_step {a : NodeEvent} (h : s.Stores P) (h0 : P 0)
    (hs : s.step inc a = some s') : s'.Stores P := by
  cases a with
  | store f =>
    obtain ⟨relay, hr, rfl⟩ := Option.map_eq_some_iff.mp hs
    obtain ⟨-, rfl⟩ := store_cases hr
    exact { h with latest := copyField_energy f h.unstored h.latest }
  | startExporter =>
    cases hs
    exact { h with updates := nofun }
  | sendRequest =>
    obtain ⟨-, hs⟩ := Option.ite_none_left_eq_some.mp hs
    cases hs
    exact { h with }
  | request t =>
    obtain ⟨requests, -, hs⟩ := Option.bind_eq_some_iff.mp hs
    split at hs
    · obtain ⟨-, hs⟩ := Option.ite_none_right_eq_some.mp hs
      obtain ⟨relay, hr, rfl⟩ := Option.map_eq_some_iff.mp hs
      obtain ⟨-, rfl⟩ := request_cases hr
      refine { h with listener := ?_ }
      rintro _ _ ⟨⟩
      exact h0
    · cases hs
      exact { h with }
  | load f =>
    obtain ⟨relay, hr, rfl⟩ := Option.map_eq_some_iff.mp hs
    obtain ⟨message, fs, hl, rfl⟩ := load_cases hr
    refine { h with listener := ?_ }
    rintro _ _ ⟨⟩
    exact copyField_energy f h.latest (h.listener message _ hl)
  | respond =>
    obtain ⟨relay, hr, rfl⟩ := Option.map_eq_some_iff.mp hs
    obtain ⟨message, hl, rfl⟩ := send_cases hr
    refine { h with listener := nofun, responses := ?_ }
    rw [List.drop_left]
    exact List.forall_mem_cons.mpr ⟨h.listener message _ hl, h.responses⟩
  | response t m =>
    obtain ⟨responses, ht, hs⟩ := Option.bind_eq_some_iff.mp hs
    obtain ⟨hm, hsub⟩ := transit_subset ht
    have hresponses : ∀ x ∈ responses, P x.energyConsumption := fun x hx => h.responses x (hsub hx)
    split at hs
    · obtain ⟨-, hs⟩ := Option.ite_none_left_eq_some.mp hs
      cases hs
      refine { h with responses := hresponses, updates := ?_ }
      rw [Exporter.update_updates, List.forall_mem_append, List.forall_mem_singleton]
      exact ⟨h.updates, h.responses m hm⟩
    · cases hs
      exact { h with responses := hresponses }

/-- What a step does to the exporter. The client keeps its socket. -/
theorem exporter_step {a : NodeEvent} (hs : s.step inc a = some s') :
    s'.socket = s.socket ∧ (s'.exporter = s.exporter ∨
      a = .startExporter ∧ s'.exporter = Exporter.start ∨
      ∃ m, s'.exporter = s.exporter.update inc m) := by
  cases a with
  | store f => obtain ⟨relay, -, rfl⟩ := Option.map_eq_some_iff.mp hs; exact ⟨rfl, .inl rfl⟩
  | startExporter => cases hs; exact ⟨rfl, .inr (.inl ⟨rfl, rfl⟩)⟩
  | sendRequest =>
    obtain ⟨-, hs⟩ := Option.ite_none_left_eq_some.mp hs
    cases hs
    exact ⟨rfl, .inl rfl⟩
  | request t =>
    obtain ⟨requests, -, hs⟩ := Option.bind_eq_some_iff.mp hs
    split at hs
    · obtain ⟨-, hs⟩ := Option.ite_none_right_eq_some.mp hs
      obtain ⟨relay, -, rfl⟩ := Option.map_eq_some_iff.mp hs
      exact ⟨rfl, .inl rfl⟩
    · cases hs
      exact ⟨rfl, .inl rfl⟩
  | load f => obtain ⟨relay, -, rfl⟩ := Option.map_eq_some_iff.mp hs; exact ⟨rfl, .inl rfl⟩
  | respond => obtain ⟨relay, -, rfl⟩ := Option.map_eq_some_iff.mp hs; exact ⟨rfl, .inl rfl⟩
  | response t m =>
    obtain ⟨responses, -, hs⟩ := Option.bind_eq_some_iff.mp hs
    split at hs
    · obtain ⟨-, hs⟩ := Option.ite_none_left_eq_some.mp hs
      cases hs
      exact ⟨rfl, .inr (.inr ⟨m, rfl⟩)⟩
    · cases hs
      exact ⟨rfl, .inl rfl⟩

/-- **No update raises an exception**, and the counter shows the highest energy passed on. -/
theorem sound_step (hinc : IncSpec (· + ·) inc) {a : NodeEvent} (h : s.exporter.Sound)
    (hs : s.step inc a = some s') : s'.exporter.Sound := by
  obtain ⟨-, he | ⟨-, he⟩ | ⟨m, he⟩⟩ := exporter_step hs
  · rw [he]
    exact h
  · rw [he]
    exact Exporter.sound_start
  · rw [he]
    exact h.update hinc m

theorem updates_prefix {a : NodeEvent} (ha : a ≠ .startExporter) (hs : s.step inc a = some s') :
    s.exporter.updates <+: s'.exporter.updates := by
  obtain ⟨-, he | ⟨hstart, -⟩ | ⟨m, he⟩⟩ := exporter_step hs
  · exact ⟨[], by rw [List.append_nil, he]⟩
  · exact absurd hstart ha
  · rw [he, Exporter.update_updates]
    exact List.prefix_append _ _

/-! ## One round -/

/-- The client stores the measurement it has read, and answers a request with it. -/
def answerRound (m : PowerMeasurement) : List NodeEvent :=
  [.store .timestamp, .store .energyConsumption, .store .current, .sendRequest,
    .request .deliver, .load .timestamp, .load .current, .load .energyConsumption, .respond,
    .response .deliver (answerWith m)]

theorem transit_cons {β : Type} [DecidableEq β] (d : β) (c : List β) :
    Pipeline.transit (d :: c) .deliver d = some c := by
  simp [Pipeline.transit, Channel.take]

/-- What a client that was just started reads gets to the exporter in one round. -/
theorem answerRound_ok [DecidableEq ν] {a : ν} (hsocket : s.socket = some a)
    (hrelay : s.relay = Relay.start) (hsound : s.exporter.Sound) (m : PowerMeasurement) :
    ∃ s₁ s₂, s.receive a m = some s₁ ∧ (node inc ν).runFrom s₁ (answerRound m) = some s₂ ∧
      s₂.exporter = s.exporter.update inc (answerWith m) := by
  obtain ⟨socket, relay, requests, responses, exporter⟩ := s
  subst hsocket hrelay
  have hraised : exporter.raised = false := hsound.raised
  have hread : (Node.mk (some a) Relay.start requests responses exporter).receive a m =
      some ⟨some a, ⟨.zero, m, [.timestamp, .energyConsumption, .current], [m], none, []⟩,
        requests, responses, exporter⟩ := by
    simp [Node.receive, Relay.receive, Relay.start]
  refine ⟨_, ⟨some a, ⟨⟨none, m.timestamp, m.energyConsumption, m.current⟩, m, [], [m], none,
    [answerWith m]⟩, requests, responses, exporter.update inc (answerWith m)⟩, hread, ?_, rfl⟩
  simp [Lts.runFrom, node, answerRound, Node.step, Relay.store, Relay.request, Relay.load,
    Relay.send, PowerMeasurement.copyField, PowerMeasurement.zero, answerWith, transit_cons,
    hraised]

end Steps

end Powermeter
