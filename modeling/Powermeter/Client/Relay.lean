import Mathlib.Data.List.DropRight
import Mathlib.Data.Rat.Cast.Order
import Powermeter.Lib.Lts
import Powermeter.Message

/-!
# The two threads of `udp_client`

`fetch_power_measurements` stores each decoded measurement to the global
`latest_measurement`, `listen_for_requests` loads its three fields one after the other
for each request and sends them. A store or a load of one field is one step, and the
steps of the two threads come in any order; the structure assignment stores the fields in
any order (`base`, which neither thread reads, is left as it is). A schedule says who
does what, the measurements come from a stream `ms`; only the schedule decides which
measurement a load sees (`RelayInv`).
-/

namespace Powermeter

inductive MeasurementField where
  | timestamp
  | current
  | energyConsumption
  deriving DecidableEq, Repr

namespace PowerMeasurement

def copyField (f : MeasurementField) (src dst : PowerMeasurement) : PowerMeasurement :=
  match f with
  | .timestamp => { dst with timestamp := src.timestamp }
  | .current => { dst with current := src.current }
  | .energyConsumption => { dst with energyConsumption := src.energyConsumption }

def SameField (f : MeasurementField) (a b : PowerMeasurement) : Prop :=
  match f with
  | .timestamp => a.timestamp = b.timestamp
  | .current => a.current = b.current
  | .energyConsumption => a.energyConsumption = b.energyConsumption

theorem SameField.refl (f : MeasurementField) (a : PowerMeasurement) : SameField f a a := by
  cases f <;> rfl

theorem sameField_copy (f : MeasurementField) {src dst x : PowerMeasurement} :
    SameField f (copyField f src dst) x ↔ SameField f src x := by
  cases f <;> rfl

theorem sameField_copy_ne {f g : MeasurementField} (h : g ≠ f) {src dst x : PowerMeasurement} :
    SameField g (copyField f src dst) x ↔ SameField g dst x := by
  cases f <;> cases g <;> first | exact absurd rfl h | rfl

end PowerMeasurement

open PowerMeasurement

/-- The two threads. `unstored` are the fields of `measurement`, the one decoded last, that
`fetch_power_measurements` has still to store; `listener` is the message being filled with
the fields still to load, `none` while the thread waits for a request. -/
structure Relay where
  latestMeasurement : PowerMeasurement
  measurement : PowerMeasurement
  unstored : List MeasurementField
  received : List PowerMeasurement
  listener : Option (PowerMeasurement × List MeasurementField)
  responses : List PowerMeasurement
  deriving DecidableEq, Repr

inductive RelayEvent where
  /-- A measurement is received and decoded. -/
  | receive
  | store (f : MeasurementField)
  /-- A request is received on the listen socket. -/
  | request
  | load (f : MeasurementField)
  | send
  deriving DecidableEq, Repr

namespace Relay

def receive (s : Relay) (m : PowerMeasurement) : Option Relay :=
  if s.unstored = [] then
    some { s with
      measurement := m
      unstored := [.timestamp, .energyConsumption, .current]
      received := s.received ++ [m] }
  else none

def store (s : Relay) (f : MeasurementField) : Option Relay :=
  if f ∈ s.unstored then
    some { s with
      latestMeasurement := copyField f s.measurement s.latestMeasurement
      unstored := s.unstored.filter (· ≠ f) }
  else none

def request (s : Relay) : Option Relay :=
  match s.listener with
  | none => some { s with listener := some (.init, [.timestamp, .current, .energyConsumption]) }
  | some _ => none

def load (s : Relay) (f : MeasurementField) : Option Relay :=
  match s.listener with
  | some (message, g :: fs) =>
    if f = g then
      some { s with listener := some (copyField f s.latestMeasurement message, fs) }
    else none
  | _ => none

def send (s : Relay) : Option Relay :=
  match s.listener with
  | some (message, []) => some { s with listener := none, responses := s.responses ++ [message] }
  | _ => none

/-- Every response has its three fields from one measurement received. -/
def Whole (s : Relay) : Prop :=
  ∀ r ∈ s.responses, ∃ m ∈ s.received, ∀ f, SameField f r m

end Relay

def relay (ms : Nat → PowerMeasurement) : Lts Relay RelayEvent where
  init := ⟨.zero, .zero, [], [], none, []⟩
  step s
    | .receive => s.receive (ms s.received.length)
    | .store f => s.store f
    | .request => s.request
    | .load f => s.load f
    | .send => s.send

/-- How many measurements had stored field `f` when it was loaded last. -/
def loadedVersion (f : MeasurementField) (as : List RelayEvent) : Nat :=
  (as.rdropWhile (· ≠ .load f)).count (.store f)

/-- The loads of a response all see the same measurement. -/
def LoadsOneMeasurement (pre : List RelayEvent) (a : RelayEvent) : Prop :=
  a = .send →
    1 ≤ loadedVersion .timestamp pre ∧ ∀ f, loadedVersion f pre = loadedVersion .timestamp pre

/-! ## Versions -/

section Versions

/-- The `v`-th measurement, the 0-th being the zeroed global. -/
def version (ms : Nat → PowerMeasurement) : Nat → PowerMeasurement
  | 0 => .zero
  | v + 1 => ms v

theorem loadedVersion_snoc (f : MeasurementField) (as : List RelayEvent) (a : RelayEvent) :
    loadedVersion f (as ++ [a]) =
      if a = .load f then as.count (.store f) else loadedVersion f as := by
  unfold loadedVersion
  rw [List.rdropWhile_concat]
  by_cases h : a = .load f
  · simp [h]
  · simp [h]

theorem loadedVersion_le (f : MeasurementField) (as : List RelayEvent) :
    loadedVersion f as ≤ as.count (.store f) :=
  (List.rdropWhile_prefix _ as).sublist.count_le _

/-- The state after a schedule: which measurement each field of the global and of the message
is from. -/
structure RelayInv (ms : Nat → PowerMeasurement) (as : List RelayEvent) (s : Relay) : Prop where
  received : s.received = (List.range s.received.length).map ms
  stored : ∀ f, as.count (.store f) + (if f ∈ s.unstored then 1 else 0) = s.received.length
  measurement : s.unstored ≠ [] → s.measurement = version ms s.received.length
  latest : ∀ f, SameField f s.latestMeasurement (version ms (as.count (.store f)))
  listener : ∀ message fs, s.listener = some (message, fs) →
    ∀ f, f ∉ fs → SameField f message (version ms (loadedVersion f as))

variable {ms : Nat → PowerMeasurement}

theorem mem_received {as : List RelayEvent} {s : Relay} (h : RelayInv ms as s)
    {m : PowerMeasurement} : m ∈ s.received ↔ ∃ v < s.received.length, ms v = m := by
  rw [h.received, List.mem_map]
  simp

theorem receive_cases {s s' : Relay} {m : PowerMeasurement} (h : s.receive m = some s') :
    s.unstored = [] ∧ s' = { s with
      measurement := m
      unstored := [.timestamp, .energyConsumption, .current]
      received := s.received ++ [m] } := by
  obtain ⟨h1, h2⟩ := Option.ite_none_right_eq_some.mp h
  cases h2
  exact ⟨h1, rfl⟩

theorem store_cases {s s' : Relay} {f : MeasurementField} (h : s.store f = some s') :
    f ∈ s.unstored ∧ s' = { s with
      latestMeasurement := copyField f s.measurement s.latestMeasurement
      unstored := s.unstored.filter (· ≠ f) } := by
  obtain ⟨h1, h2⟩ := Option.ite_none_right_eq_some.mp h
  cases h2
  exact ⟨h1, rfl⟩

theorem request_cases {s s' : Relay} (h : s.request = some s') :
    s.listener = none ∧ s' = { s with
      listener := some (.init, [.timestamp, .current, .energyConsumption]) } := by
  unfold Relay.request at h
  split at h
  · next hl => cases h; exact ⟨hl, rfl⟩
  · cases h

theorem load_cases {s s' : Relay} {f : MeasurementField} (h : s.load f = some s') :
    ∃ message fs, s.listener = some (message, f :: fs) ∧
      s' = { s with listener := some (copyField f s.latestMeasurement message, fs) } := by
  unfold Relay.load at h
  split at h
  · next message g fs hl =>
    obtain ⟨rfl, h2⟩ := Option.ite_none_right_eq_some.mp h
    cases h2
    exact ⟨message, fs, hl, rfl⟩
  · cases h

theorem send_cases {s s' : Relay} (h : s.send = some s') :
    ∃ message, s.listener = some (message, []) ∧
      s' = { s with listener := none, responses := s.responses ++ [message] } := by
  unfold Relay.send at h
  split at h
  · next message hl => cases h; exact ⟨message, hl, rfl⟩
  · cases h

theorem relayInv_step {as : List RelayEvent} {s s' : Relay} {a : RelayEvent}
    (hI : RelayInv ms as s) (hs : (relay ms).step s a = some s') :
    RelayInv ms (as ++ [a]) s' := by
  cases a with
  | receive =>
    obtain ⟨hempty, rfl⟩ := receive_cases hs
    refine ⟨?_, fun f => ?_, fun _ => ?_, fun f => ?_, fun message fs hl f hf => ?_⟩
    · rw [List.length_append, List.length_singleton, List.range_succ, List.map_append,
        ← hI.received]; rfl
    · have := hI.stored f
      rw [hempty] at this
      cases f <;> simpa [List.count_append] using this
    · rw [List.length_append]; rfl
    · rw [List.count_append]; exact hI.latest f
    · rw [loadedVersion_snoc]; exact hI.listener message fs hl f hf
  | store f =>
    obtain ⟨hf, rfl⟩ := store_cases hs
    have hcount : ∀ g, (as ++ [RelayEvent.store f]).count (.store g) =
        as.count (.store g) + if g = f then 1 else 0 := by
      intro g
      rw [List.count_append, List.count_singleton]
      by_cases hgf : g = f
      · simp [hgf]
      · simp [hgf, Ne.symm hgf]
    have hlast := hI.stored f
    rw [if_pos hf] at hlast
    refine ⟨hI.received, fun g => ?_, fun hne => hI.measurement ?_, fun g => ?_,
      fun message fs hl g hg => ?_⟩
    · have := hI.stored g
      rw [hcount]
      by_cases hgf : g = f
      · subst hgf; simpa [hf] using this
      · simpa [hgf] using this
    · exact List.ne_nil_of_mem hf
    · rw [hcount]
      by_cases hgf : g = f
      · subst hgf
        rw [if_pos rfl, sameField_copy, hI.measurement (List.ne_nil_of_mem hf), hlast]
        exact .refl g _
      · rw [if_neg hgf, sameField_copy_ne hgf]
        exact hI.latest g
    · rw [loadedVersion_snoc]; exact hI.listener message fs hl g hg
  | request =>
    obtain ⟨-, rfl⟩ := request_cases hs
    refine ⟨hI.received, fun f => ?_, hI.measurement, fun f => ?_, fun message fs hl f hf => ?_⟩
    · rw [List.count_append]; exact hI.stored f
    · rw [List.count_append]; exact hI.latest f
    · cases hl
      cases f <;> simp at hf
  | load f =>
    obtain ⟨message, fs, hl, rfl⟩ := load_cases hs
    refine ⟨hI.received, fun g => ?_, hI.measurement, fun g => ?_, fun message' fs' hl' g hg => ?_⟩
    · rw [List.count_append]; exact hI.stored g
    · rw [List.count_append]; exact hI.latest g
    · cases hl'
      rw [loadedVersion_snoc]
      by_cases hgf : g = f
      · subst hgf
        rw [if_pos rfl, sameField_copy]
        exact hI.latest g
      · rw [if_neg (by simpa using Ne.symm hgf), sameField_copy_ne hgf]
        exact hI.listener message _ hl g (by simp [hgf, hg])
  | send =>
    obtain ⟨message, hl, rfl⟩ := send_cases hs
    refine ⟨hI.received, fun f => ?_, hI.measurement, fun f => ?_, nofun⟩
    · rw [List.count_append]; exact hI.stored f
    · rw [List.count_append]; exact hI.latest f

theorem relayInv {as : List RelayEvent} {s : Relay} (h : (relay ms).run as = some s) :
    RelayInv ms as s := by
  refine Lts.hist_inv (P := RelayInv ms) ?_ (fun as a s s' _ hI hs => relayInv_step hI hs) h
  refine ⟨rfl, fun f => ?_, nofun, fun f => ?_, nofun⟩
  · cases f <;> rfl
  · exact .refl f _

end Versions

/-! ## Responses -/

section Responses

/-- A step other than `send` keeps the responses, and no step forgets a measurement. -/
theorem relay_frame {ms : Nat → PowerMeasurement} {s s' : Relay} {a : RelayEvent}
    (hs : (relay ms).step s a = some s') (ha : a ≠ .send) :
    s'.responses = s.responses ∧ s.received ⊆ s'.received := by
  cases a with
  | receive => obtain ⟨-, rfl⟩ := receive_cases hs; exact ⟨rfl, by simp⟩
  | store f => obtain ⟨-, rfl⟩ := store_cases hs; exact ⟨rfl, List.Subset.refl _⟩
  | request => obtain ⟨-, rfl⟩ := request_cases hs; exact ⟨rfl, List.Subset.refl _⟩
  | load f => obtain ⟨_, _, -, rfl⟩ := load_cases hs; exact ⟨rfl, List.Subset.refl _⟩
  | send => exact absurd rfl ha

theorem whole_of_loads {ms : Nat → PowerMeasurement} {as : List RelayEvent} {s : Relay}
    (h : (relay ms).run as = some s) (hC : EachAction LoadsOneMeasurement as) : s.Whole := by
  revert hC
  refine Lts.hist_inv (P := fun as s => EachAction LoadsOneMeasurement as → s.Whole) ?_ ?_ h
  · intro _ r hr
    cases hr
  · intro as a s s' hrun ih hs hC r hr
    obtain ⟨hC, hlast⟩ := EachAction.snoc.mp hC
    have hwhole := ih hC
    by_cases ha : a = .send
    · subst ha
      obtain ⟨message, hl, rfl⟩ := send_cases hs
      rcases List.mem_append.mp hr with hold | hnew
      · exact hwhole r hold
      · rw [List.mem_singleton] at hnew
        subst hnew
        have hI := relayInv hrun
        obtain ⟨hpos, hsame⟩ := hlast rfl
        -- the version all three loads saw has been received
        obtain ⟨v, hv⟩ := Nat.exists_eq_add_of_le' hpos
        have hlen : v < s.received.length := by
          have h1 := loadedVersion_le .timestamp as
          have h2 := hI.stored .timestamp
          omega
        refine ⟨ms v, (mem_received hI).mpr ⟨v, hlen, rfl⟩, fun f => ?_⟩
        have hf := hI.listener r [] hl f (by simp)
        rwa [hsame f, hv] at hf
    · obtain ⟨hresp, hrec⟩ := relay_frame hs ha
      rw [hresp] at hr
      obtain ⟨m, hm, hall⟩ := hwhole r hr
      exact ⟨m, hrec hm, hall⟩

/-- Measurements that can be told apart by current and energy, and the `b`-th from the rest by
its timestamp. -/
def marked (b i : Nat) : PowerMeasurement :=
  { PowerMeasurement.init with
    timestamp := if i + 1 = b then 1 else 0
    current := i + 1
    energyConsumption := i + 1 }

theorem version_marked (b v : Nat) :
    (version (marked b) v).current = v ∧ (version (marked b) v).energyConsumption = v ∧
      ((version (marked b) v).timestamp = 1 → v = b) := by
  cases v with
  | zero =>
    refine ⟨rfl, rfl, fun h => ?_⟩
    have h01 : (0 : UInt64) = 1 := h
    exact absurd h01 (by decide)
  | succ i =>
    refine ⟨by simp [version, marked], by simp [version, marked], fun h => ?_⟩
    by_contra hne
    simp [version, marked, hne] at h

theorem loads_of_whole {as : List RelayEvent} (hrun : ∀ ms, ((relay ms).run as).isSome)
    (h : ∀ ms, (relay ms).Throughout Relay.Whole as) :
    EachAction LoadsOneMeasurement as := by
  rintro pre a post he rfl
  have hwhole := h (marked (loadedVersion .current pre))
  have hsome := hrun (marked (loadedVersion .current pre))
  obtain ⟨s, hs⟩ := Option.isSome_iff_exists.mp hsome
  rw [he, List.append_cons pre .send post] at hs
  obtain ⟨s2, hs2, -⟩ := Lts.run_some_of_append hs
  obtain ⟨s1, hs1, hstep⟩ := Lts.run_snoc.mp hs2
  obtain ⟨message, hl, rfl⟩ := send_cases hstep
  have hI := relayInv hs1
  obtain ⟨m, hm, hall⟩ := hwhole (pre ++ [.send]) post _ (by simp [he]) hs2 message (by simp)
  obtain ⟨v, -, rfl⟩ := (mem_received hI).mp hm
  have hfield := fun f => hI.listener message [] hl f (by simp)
  have hts : message.timestamp = _ := hfield .timestamp
  have hcur : message.current = _ := hfield .current
  have hen : message.energyConsumption = _ := hfield .energyConsumption
  have hts' : message.timestamp = _ := hall .timestamp
  have hcur' : message.current = _ := hall .current
  have hen' : message.energyConsumption = _ := hall .energyConsumption
  rw [(version_marked _ _).1, hcur'] at hcur
  rw [(version_marked _ _).2.1, hen'] at hen
  have hcur : (v : ℚ) + 1 = loadedVersion .current pre := hcur
  have hen : (v : ℚ) + 1 = loadedVersion .energyConsumption pre := hen
  have hb : v + 1 = loadedVersion .current pre := by exact_mod_cast hcur
  have hc : v + 1 = loadedVersion .energyConsumption pre := by exact_mod_cast hen
  have ha := (version_marked (loadedVersion .current pre) (loadedVersion .timestamp pre)).2.2
    (by rw [← hts, hts']; simp [marked, hb])
  refine ⟨by omega, fun f => ?_⟩
  cases f with
  | timestamp => rfl
  | current => omega
  | energyConsumption => omega

/-- **Which schedules relay whole measurements**: of a schedule the threads can follow, every
response carries the fields of one measurement received, whatever is measured, if and only if
the loads of each response all see the same measurement, and there is one. -/
theorem relay_whole_iff {as : List RelayEvent} (h : ∀ ms, ((relay ms).run as).isSome) :
    (∀ ms, (relay ms).Throughout Relay.Whole as) ↔ EachAction LoadsOneMeasurement as := by
  constructor
  · exact loads_of_whole h
  · intro hC ms pre post s he hs
    exact whole_of_loads hs (hC.of_append he)

end Responses

/-- A measurement, and then a request for it. -/
theorem relay_whole_answer :
    (relay (marked 1)).Throughout Relay.Whole
      [.receive, .store .timestamp, .store .energyConsumption, .store .current,
        .request, .load .timestamp, .load .current, .load .energyConsumption, .send] :=
  (relay_whole_iff fun _ => rfl).mpr (by
    simp only [EachAction.cons, EachAction.nil, and_true]
    refine ⟨?_, ?_, ?_, ?_, ?_, ?_, ?_, ?_, ?_⟩
    on_goal 9 => exact fun _ => ⟨by decide, fun f => by cases f <;> decide⟩
    all_goals intro h; cases h) (marked 1)

/-- The stores of the second measurement come between the loads of the first request: the
response has the timestamp of one measurement and the current of the other. -/
theorem relay_torn :
    ¬ (relay (marked 1)).Throughout Relay.Whole
      [.receive, .store .timestamp, .store .energyConsumption, .store .current,
        .request, .load .timestamp, .receive, .store .timestamp, .store .energyConsumption,
        .store .current, .load .current, .load .energyConsumption, .send] := by
  intro hall
  have hwhole := hall.last (s := ⟨{ marked 1 1 with descriptor := none }, marked 1 1, [],
    [marked 1 0, marked 1 1], none,
    [{ marked 1 1 with timestamp := 1 }]⟩) (by decide +kernel)
  obtain ⟨m, hm, hsame⟩ := hwhole { marked 1 1 with timestamp := 1 } (by simp)
  rcases List.mem_pair.mp hm with rfl | rfl
  · exact absurd (hsame .current) (by simp [SameField, marked])
  · have hts : (1 : UInt64) = 0 := hsame .timestamp
    exact absurd hts (by decide)

/-- A request before the first measurement is answered with zeros. -/
theorem relay_before_first (ms : Nat → PowerMeasurement) :
    ¬ (relay ms).Throughout Relay.Whole
      [.request, .load .timestamp, .load .current, .load .energyConsumption, .send] := by
  intro hall
  have hwhole := hall.last (s := ⟨.zero, .zero, [], [], none, [.init]⟩) rfl
  obtain ⟨m, hm, -⟩ := hwhole .init (by simp)
  cases hm

end Powermeter
