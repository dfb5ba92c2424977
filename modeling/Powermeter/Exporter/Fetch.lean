import Powermeter.Lib.Channel
import Powermeter.Lib.Lts

/-!
# Requests and responses of the exporter

`fetch_data` against the listening thread of the client: request `k` is sent in iteration
`k`, then the exporter takes the oldest datagram of its socket queue or times out on an
empty queue. Requests and responses are delayed and lost at will. A datagram does not say
which request it belongs to; the numbers kept here are for the statements only
(`Response.request`, and `version`, which counts the measurements the client had stored).
-/

namespace Powermeter

structure Response (α : Type) where
  request : Nat
  measurement : α
  version : Nat
  deriving DecidableEq, Repr

inductive FetchPhase where
  /-- Before `sendto`, also while it sleeps. -/
  | idle
  /-- In `select`, after request `k` was sent. -/
  | waiting (k : Nat)
  deriving DecidableEq, Repr

/-- Exporter, network and client. `latest` is the client's latest measurement, the
`stored`-th one; `sent[k]` is how many it had stored when request `k` was sent. -/
structure Fetch (α : Type) where
  latest : α
  stored : Nat
  phase : FetchPhase
  sent : List Nat
  requests : List Nat
  responses : List (Response α)
  queue : List (Response α)
  updates : List (Nat × Response α)
  deriving DecidableEq, Repr

inductive FetchEvent (α : Type) where
  /-- The client stores a new measurement. -/
  | measure (m : α)
  | send
  /-- Request `k` reaches the client, which answers it. -/
  | answer (k : Nat)
  | loseRequest (k : Nat)
  | loseResponse (r : Response α)
  /-- A response reaches the socket queue. -/
  | deliver (r : Response α)
  /-- `recvfrom` and `update_metrics`. -/
  | consume
  | timeout
  deriving DecidableEq, Repr

variable {α : Type}

namespace Fetch

def send (s : Fetch α) : Option (Fetch α) :=
  if s.phase = .idle then
    some { s with
      phase := .waiting s.sent.length
      sent := s.sent ++ [s.stored]
      requests := s.sent.length :: s.requests }
  else none

def consume (s : Fetch α) : Option (Fetch α) :=
  match s.phase, s.queue with
  | .waiting k, r :: queue =>
    some { s with phase := .idle, queue := queue, updates := s.updates ++ [(k, r)] }
  | _, _ => none

/-- `select` times out only while nothing is in the queue. -/
def timeout (s : Fetch α) : Option (Fetch α) :=
  match s.phase, s.queue with
  | .waiting _, [] => some { s with phase := .idle }
  | _, _ => none

theorem send_cases {s s' : Fetch α} (h : s.send = some s') :
    s.phase = .idle ∧ s' = { s with
      phase := .waiting s.sent.length
      sent := s.sent ++ [s.stored]
      requests := s.sent.length :: s.requests } := by
  obtain ⟨h1, h2⟩ := Option.ite_none_right_eq_some.mp h
  cases h2
  exact ⟨h1, rfl⟩

theorem consume_cases {s s' : Fetch α} (h : s.consume = some s') :
    ∃ k r queue, s.phase = .waiting k ∧ s.queue = r :: queue ∧
      s' = { s with phase := .idle, queue := queue, updates := s.updates ++ [(k, r)] } := by
  unfold consume at h
  split at h
  · next k r queue hp hq => cases h; exact ⟨k, r, queue, hp, hq, rfl⟩
  · cases h

theorem timeout_cases {s s' : Fetch α} (h : s.timeout = some s') :
    s.queue = [] ∧ s' = { s with phase := .idle } := by
  unfold timeout at h
  split at h
  · next hq => cases h; exact ⟨hq, rfl⟩
  · cases h

/-- What was passed to `update_metrics` in iteration `k` answers request `k`, with a measurement
that was the latest after that request was sent. -/
def Fresh (s : Fetch α) : Prop :=
  ∀ k r, (k, r) ∈ s.updates → r.request = k ∧ ∃ n, s.sent[k]? = some n ∧ n ≤ r.version

end Fetch

section Machine

variable [DecidableEq α]

def Fetch.step (s : Fetch α) : FetchEvent α → Option (Fetch α)
  | .measure m => some { s with latest := m, stored := s.stored + 1 }
  | .send => s.send
  | .answer k => (Channel.take s.requests k).map fun requests =>
      { s with requests := requests, responses := ⟨k, s.latest, s.stored⟩ :: s.responses }
  | .loseRequest k => (Channel.take s.requests k).map fun requests =>
      { s with requests := requests }
  | .loseResponse r => (Channel.take s.responses r).map fun responses =>
      { s with responses := responses }
  | .deliver r => (Channel.take s.responses r).map fun responses =>
      { s with responses := responses, queue := s.queue ++ [r] }
  | .consume => s.consume
  | .timeout => s.timeout

/-- `fetch_data` and a client whose latest measurement is `latest`. -/
def fetchData (latest : α) : Lts (Fetch α) (FetchEvent α) where
  init := ⟨latest, 0, .idle, [], [], [], [], []⟩
  step := Fetch.step

/-- Nothing is left in the queue when a request is sent. -/
def QueueRead (s : Fetch α) (a : FetchEvent α) : Prop := a = .send → s.queue = []

/-- No iteration of the run takes an old response for a new request. -/
def FreshRun (latest : α) (as : List (FetchEvent α)) : Prop :=
  (fetchData latest).Throughout Fetch.Fresh as ∧
    (fetchData latest).EachStep (fun _ s a => QueueRead s a) as

/-- A response arrives only while the exporter waits for it: not after its request timed
out. -/
def ArrivesInTime (s : Fetch α) (a : FetchEvent α) : Prop :=
  ∀ r, a = .deliver r → s.phase = .waiting r.request

end Machine

/-! ## What is in flight -/

/-- How many requests and responses with number `k` are on their way. -/
def Fetch.copies (s : Fetch α) (k : Nat) : Nat :=
  s.requests.count k + s.responses.countP (·.request = k) + s.queue.countP (·.request = k)

def Fetch.Current (s : Fetch α) (r : Response α) : Prop :=
  ∃ n, s.sent[r.request]? = some n ∧ n ≤ r.version

/-- What holds in every reachable state. -/
structure FetchInv (s : Fetch α) : Prop where
  once : ∀ k, s.copies k ≤ if k < s.sent.length then 1 else 0
  stored : ∀ n ∈ s.sent, n ≤ s.stored
  responses : ∀ r ∈ s.responses, s.Current r
  queue : ∀ r ∈ s.queue, s.Current r
  updates : ∀ k r, (k, r) ∈ s.updates → s.Current r

theorem Fetch.Current.snoc {s s' : Fetch α} {r : Response α} (h : s.Current r)
    (hs : ∃ t, s'.sent = s.sent ++ t) : s'.Current r := by
  obtain ⟨n, hn, hle⟩ := h
  obtain ⟨t, ht⟩ := hs
  refine ⟨n, ?_, hle⟩
  rw [ht, List.getElem?_append_left (List.getElem?_eq_some_iff.mp hn).1]
  exact hn

theorem FetchInv.sent_of_mem {s : Fetch α} (h : FetchInv s) {k : Nat} (hk : k ∈ s.requests) :
    k < s.sent.length := by
  by_contra hlt
  have h1 := h.once k
  rw [if_neg hlt] at h1
  have h2 := List.count_pos_iff.mpr hk
  unfold Fetch.copies at h1
  omega

theorem FetchInv.queue_tail {s : Fetch α} (h : FetchInv s) {r x : Response α}
    {queue : List (Response α)} (hq : s.queue = r :: queue) (hx : x ∈ queue) :
    x.request ≠ r.request := by
  intro he
  have h1 := h.once r.request
  have h2 : 0 < queue.countP (·.request = r.request) :=
    List.countP_pos_iff.mpr ⟨x, hx, by simpa using he⟩
  simp only [Fetch.copies, hq, List.countP_cons, decide_true, if_true] at h1
  split at h1 <;> omega

section Steps

variable [DecidableEq α]

theorem fetchInv_step {s s' : Fetch α} {a : FetchEvent α} (hI : FetchInv s)
    (hs : s.step a = some s') : FetchInv s' := by
  cases a with
  | measure m =>
    cases hs
    exact ⟨hI.once, fun n hn => Nat.le_succ_of_le (hI.stored n hn), hI.responses, hI.queue,
      hI.updates⟩
  | send =>
    obtain ⟨-, rfl⟩ := Fetch.send_cases hs
    have hsent : ∃ t, s.sent ++ [s.stored] = s.sent ++ t := ⟨_, rfl⟩
    refine ⟨fun k => ?_, fun n hn => ?_, fun r hr => (hI.responses r hr).snoc hsent,
      fun r hr => (hI.queue r hr).snoc hsent, fun k r hr => (hI.updates k r hr).snoc hsent⟩
    · have := hI.once k
      simp only [Fetch.copies, List.count_cons, List.length_append, List.length_singleton,
        beq_iff_eq] at this ⊢
      split_ifs at this ⊢ <;> omega
    · rcases List.mem_append.mp hn with hn | hn
      · exact hI.stored n hn
      · rw [List.mem_singleton] at hn
        exact Nat.le_of_eq hn
  | answer k =>
    obtain ⟨requests, htake, rfl⟩ := Option.map_eq_some_iff.mp hs
    have hperm := Channel.take_perm htake
    refine ⟨fun j => ?_, hI.stored, fun r hr => ?_, hI.queue, hI.updates⟩
    · have := hI.once j
      simp only [Fetch.copies, hperm.count_eq, List.count_cons, List.countP_cons, beq_iff_eq,
        decide_eq_true_eq] at this ⊢
      omega
    · rcases List.mem_cons.mp hr with rfl | hr
      · have hlt := hI.sent_of_mem (Channel.mem_of_take htake)
        exact ⟨s.sent[k], List.getElem?_eq_getElem hlt, hI.stored _ (List.getElem_mem hlt)⟩
      · exact hI.responses r hr
  | loseRequest k =>
    obtain ⟨requests, htake, rfl⟩ := Option.map_eq_some_iff.mp hs
    have hperm := Channel.take_perm htake
    refine ⟨fun j => ?_, hI.stored, hI.responses, hI.queue, hI.updates⟩
    have := hI.once j
    simp only [Fetch.copies, hperm.count_eq, List.count_cons] at this ⊢
    omega
  | loseResponse r =>
    obtain ⟨responses, htake, rfl⟩ := Option.map_eq_some_iff.mp hs
    have hperm := Channel.take_perm htake
    refine ⟨fun j => ?_, hI.stored, fun x hx => hI.responses x (Channel.take_subset htake hx),
      hI.queue, hI.updates⟩
    have := hI.once j
    simp only [Fetch.copies, hperm.countP_eq, List.countP_cons] at this ⊢
    omega
  | deliver r =>
    obtain ⟨responses, htake, rfl⟩ := Option.map_eq_some_iff.mp hs
    have hperm := Channel.take_perm htake
    refine ⟨fun j => ?_, hI.stored, fun x hx => hI.responses x (Channel.take_subset htake hx),
      fun x hx => ?_, hI.updates⟩
    · have := hI.once j
      simp only [Fetch.copies, hperm.countP_eq, List.countP_cons, List.countP_append,
        List.countP_nil] at this ⊢
      omega
    · rcases List.mem_append.mp hx with hx | hx
      · exact hI.queue x hx
      · rw [List.mem_singleton] at hx
        subst hx
        exact hI.responses x (Channel.mem_of_take htake)
  | consume =>
    obtain ⟨k, r, queue, -, hq, rfl⟩ := Fetch.consume_cases hs
    have hsub : ∀ x ∈ queue, s.Current x := fun x hx => hI.queue x (by simp [hq, hx])
    refine ⟨fun j => ?_, hI.stored, hI.responses, hsub, fun i x hx => ?_⟩
    · have := hI.once j
      simp only [Fetch.copies, hq, List.countP_cons] at this ⊢
      omega
    · rcases List.mem_append.mp hx with hx | hx
      · exact hI.updates i x hx
      · rw [List.mem_singleton] at hx
        cases hx
        exact hI.queue r (by simp [hq])
  | timeout =>
    obtain ⟨-, rfl⟩ := Fetch.timeout_cases hs
    exact ⟨hI.once, hI.stored, hI.responses, hI.queue, hI.updates⟩

theorem fetchInv {latest : α} {as : List (FetchEvent α)} {s : Fetch α}
    (h : (fetchData latest).run as = some s) : FetchInv s := by
  refine Lts.inv (P := FetchInv) ?_ (fun s a s' hI hs => fetchInv_step hI hs) h
  refine ⟨fun k => ?_, ?_, ?_, ?_, ?_⟩ <;> simp [fetchData, Fetch.copies]

end Steps

/-! ## Runs without late responses -/

/-- While no response was late, the queue holds nothing but the response to the request the
exporter waits for. -/
structure InTime (s : Fetch α) : Prop where
  queue : ∀ r ∈ s.queue, s.phase = .waiting r.request
  fresh : ∀ k r, (k, r) ∈ s.updates → r.request = k

section InTime

variable [DecidableEq α]

theorem inTime_step {s s' : Fetch α} {a : FetchEvent α} (hI : FetchInv s) (hT : InTime s)
    (ha : ArrivesInTime s a) (hs : s.step a = some s') : InTime s' := by
  cases a with
  | measure m => cases hs; exact ⟨hT.queue, hT.fresh⟩
  | send =>
    obtain ⟨hp, rfl⟩ := Fetch.send_cases hs
    refine ⟨fun r hr => ?_, hT.fresh⟩
    have := hT.queue r hr
    rw [hp] at this
    cases this
  | answer k =>
    obtain ⟨requests, -, rfl⟩ := Option.map_eq_some_iff.mp hs
    exact ⟨hT.queue, hT.fresh⟩
  | loseRequest k =>
    obtain ⟨requests, -, rfl⟩ := Option.map_eq_some_iff.mp hs
    exact ⟨hT.queue, hT.fresh⟩
  | loseResponse r =>
    obtain ⟨responses, -, rfl⟩ := Option.map_eq_some_iff.mp hs
    exact ⟨hT.queue, hT.fresh⟩
  | deliver r =>
    obtain ⟨responses, -, rfl⟩ := Option.map_eq_some_iff.mp hs
    refine ⟨fun x hx => ?_, hT.fresh⟩
    rcases List.mem_append.mp hx with hx | hx
    · exact hT.queue x hx
    · rw [List.mem_singleton] at hx
      subst hx
      exact ha x rfl
  | consume =>
    obtain ⟨k, r, queue, hp, hq, rfl⟩ := Fetch.consume_cases hs
    have hwait : ∀ x ∈ s.queue, x.request = k := by
      intro x hx
      have := hT.queue x hx
      rw [hp] at this
      cases this; rfl
    have hr : r.request = k := hwait r (by simp [hq])
    refine ⟨fun x hx => ?_, fun i x hx => ?_⟩
    · exact absurd ((hwait x (by simp [hq, hx])).trans hr.symm) (hI.queue_tail hq hx)
    · rcases List.mem_append.mp hx with hx | hx
      · exact hT.fresh i x hx
      · rw [List.mem_singleton] at hx
        cases hx; exact hr
  | timeout =>
    obtain ⟨hq, rfl⟩ := Fetch.timeout_cases hs
    refine ⟨fun r hr => ?_, hT.fresh⟩
    rw [hq] at hr
    cases hr

theorem inTime {latest : α} {as : List (FetchEvent α)} {s : Fetch α}
    (h : (fetchData latest).run as = some s)
    (hC : (fetchData latest).EachStep (fun _ s a => ArrivesInTime s a) as) : InTime s := by
  refine Lts.inv_of_eachStep (P := fun _ s => InTime s) ?_ ?_ h hC
  · exact ⟨nofun, nofun⟩
  · exact fun as a s s' hrun hT ha hs => inTime_step (fetchInv hrun) hT ha hs

/-- **Without late responses every response is taken for the request it answers.** -/
theorem freshRun_of_inTime {latest : α} {as : List (FetchEvent α)}
    (hC : (fetchData latest).EachStep (fun _ s a => ArrivesInTime s a) as)
    (hrun : ((fetchData latest).run as).isSome) : FreshRun latest as := by
  refine ⟨fun pre post s he hs k r hr => ?_, ?_⟩
  · have hk := (inTime hs (hC.of_append he)).fresh k r hr
    obtain ⟨n, hn, hle⟩ := (fetchInv hs).updates k r hr
    exact ⟨hk, n, hk ▸ hn, hle⟩
  · rintro pre a post he s hs rfl
    have hT := inTime hs (hC.of_append he)
    obtain ⟨t, ht⟩ := Option.isSome_iff_exists.mp hrun
    rw [he, List.append_cons] at ht
    obtain ⟨s2, hs2, -⟩ := Lts.run_some_of_append ht
    obtain ⟨s1, hs1, hstep⟩ := Lts.run_snoc.mp hs2
    rw [hs] at hs1
    cases hs1
    obtain ⟨hp, -⟩ := Fetch.send_cases hstep
    refine List.eq_nil_iff_forall_not_mem.mpr fun r hr => ?_
    have := hT.queue r hr
    rw [hp] at this
    cases this

end InTime

/-! ## Runs with a late response -/

/-- A late response is in the queue, and whatever comes, it is taken for the response to a later
request or left there when one is sent. -/
def Stale (s : Fetch α) : Prop :=
  match s.phase with
  | .idle => s.queue ≠ []
  | .waiting k => ∃ r queue, s.queue = r :: queue ∧ (r.request ≠ k ∨ queue ≠ [])

section Late

variable [DecidableEq α]

theorem stale_deliver {s s' : Fetch α} {r : Response α} (hs : s.step (.deliver r) = some s')
    (h : Stale s ∨ s.phase ≠ .waiting r.request) : Stale s' := by
  obtain ⟨responses, -, rfl⟩ := Option.map_eq_some_iff.mp hs
  unfold Stale at h ⊢
  cases hp : s.phase with
  | idle => simp
  | waiting k =>
    simp only [hp] at h ⊢
    cases hq : s.queue with
    | nil =>
      have hne : r.request ≠ k := by
        rintro rfl
        simp [hq] at h
      exact ⟨r, [], rfl, .inl hne⟩
    | cons x queue => exact ⟨x, queue ++ [r], rfl, .inr (by simp)⟩

/-- A late response stays in the queue until it does harm. -/
theorem stale_step {s s' : Fetch α} {a : FetchEvent α} (hS : Stale s) (hs : s.step a = some s')
    (hq : QueueRead s a) (hf : s'.Fresh) : Stale s' := by
  cases a with
  | measure m => cases hs; exact hS
  | send =>
    obtain ⟨hp, -⟩ := Fetch.send_cases hs
    simp only [Stale, hp] at hS
    exact absurd (hq rfl) hS
  | answer k => obtain ⟨_, -, rfl⟩ := Option.map_eq_some_iff.mp hs; exact hS
  | loseRequest k => obtain ⟨_, -, rfl⟩ := Option.map_eq_some_iff.mp hs; exact hS
  | loseResponse r => obtain ⟨_, -, rfl⟩ := Option.map_eq_some_iff.mp hs; exact hS
  | deliver r => exact stale_deliver hs (.inl hS)
  | consume =>
    obtain ⟨k, r, queue, hp, hq, rfl⟩ := Fetch.consume_cases hs
    simp only [Stale, hp, hq] at hS
    obtain ⟨_, _, he, hne⟩ := hS
    cases he
    rcases hne with hne | hne
    · exact absurd (hf k r (by simp)).1 hne
    · exact hne
  | timeout =>
    obtain ⟨hq, rfl⟩ := Fetch.timeout_cases hs
    unfold Stale at hS
    split at hS
    · exact absurd hq hS
    · obtain ⟨_, _, he, -⟩ := hS
      rw [hq] at he
      cases he

theorem inTime_or_stale {latest : α} {as : List (FetchEvent α)} {s : Fetch α}
    (h : (fetchData latest).run as = some s) (hF : FreshRun latest as) :
    (fetchData latest).EachStep (fun _ s a => ArrivesInTime s a) as ∨ Stale s := by
  revert hF
  refine Lts.hist_inv (P := fun as s => FreshRun latest as →
    (fetchData latest).EachStep (fun _ s a => ArrivesInTime s a) as ∨ Stale s) ?_ ?_ h
  · exact fun _ => .inl Lts.eachStep_nil
  · rintro as a s s' hrun ih hs ⟨hfresh, hread⟩
    obtain ⟨hfresh, hlast⟩ := Lts.throughout_snoc.mp hfresh
    obtain ⟨hread, hq⟩ := Lts.eachStep_snoc.mp hread
    have hf' := hlast s' (Lts.run_snoc.mpr ⟨s, hrun, hs⟩)
    rcases ih ⟨hfresh, hread⟩ with hC | hS
    · by_cases ha : ArrivesInTime s a
      · exact .inl (Lts.eachStep_snoc.mpr ⟨hC, fun x hx => by rw [hrun] at hx; cases hx; exact ha⟩)
      · -- this is the late response
        simp only [ArrivesInTime, not_forall] at ha
        obtain ⟨r, rfl, hne⟩ := ha
        exact .inr (stale_deliver hs (.inr hne))
    · exact .inr (stale_step hS hs (hq s hrun) hf')

/-- **Old responses are taken for new requests exactly when responses are late**: a run in which
every response arrives while the exporter waits for it takes no old response for a new request,
and a run up to the sending of a request takes none only then. -/
theorem fetch_fresh_iff {latest : α} {as : List (FetchEvent α)}
    (h : ((fetchData latest).run as).isSome) :
    ((fetchData latest).EachStep (fun _ s a => ArrivesInTime s a) as → FreshRun latest as) ∧
    (as.getLast? = some .send → FreshRun latest as →
      (fetchData latest).EachStep (fun _ s a => ArrivesInTime s a) as) := by
  refine ⟨fun hC => freshRun_of_inTime hC h, fun hlast hF => ?_⟩
  obtain ⟨as, rfl⟩ := List.getLast?_eq_some_iff.mp hlast
  obtain ⟨s', hs'⟩ := Option.isSome_iff_exists.mp h
  obtain ⟨s, hrun, hs⟩ := Lts.run_snoc.mp hs'
  obtain ⟨hfresh, hread⟩ := hF
  obtain ⟨hread', hq⟩ := Lts.eachStep_snoc.mp hread
  rcases inTime_or_stale hrun ⟨(Lts.throughout_snoc.mp hfresh).1, hread'⟩ with hC | hS
  · exact Lts.eachStep_snoc.mpr ⟨hC, fun _ _ _ => nofun⟩
  · obtain ⟨hp, -⟩ := Fetch.send_cases hs
    simp only [Stale, hp] at hS
    exact absurd (hq s hrun rfl) hS

end Late

/-- A request, its response, and the next request. -/
theorem fetch_fresh_answered :
    FreshRun 0 [.measure 5, .send, .answer 0, .deliver ⟨0, 5, 1⟩, .consume, .send] :=
  (fetch_fresh_iff (by decide)).1 (by
    unfold Lts.EachStep
    simp only [EachAction.cons, EachAction.nil, and_true]
    refine ⟨?_, ?_, ?_, ?_, ?_, ?_⟩ <;> intro s hs r hr <;> cases hr
    cases hs; rfl)

/-- The response to a request that timed out is taken for the answer to the next one. -/
theorem fetch_takes_old :
    ¬ FreshRun 0 [.measure 5, .send, .answer 0, .timeout, .measure 7, .send,
      .deliver ⟨0, 5, 1⟩, .consume] := by
  rintro ⟨hall, -⟩
  have hfresh := hall.last (s := ⟨7, 2, .idle, [1, 2], [1], [], [], [(1, ⟨0, 5, 1⟩)]⟩) (by decide)
  exact absurd (hfresh 1 ⟨0, 5, 1⟩ (by simp)).1 (by decide)

end Powermeter
