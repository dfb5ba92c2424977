import Powermeter.Lib.Lts
import Powermeter.Server.Request

/-!
# From the receive loop to the serving tasks

The receive loop hands an accepted request to its `serve_client` task through the
static `new_client`: it stores the request there and passes the task a pointer to it,
and the task copies the structure whenever it is scheduled for the first time. The
machine below plays datagrams and first schedulings in any order. A task serves the
request accepted last before it started (`HandoffInv.started`), so every task serves its
own request exactly in the runs that start no task after a different request was
accepted.
-/

namespace Powermeter

/-- The server between two steps. Task `i` was created for request `accepted[i]`;
`tasks[i]` is its local `client`, `none` until it starts. -/
structure Server (α : Type) where
  rxBuffer : List UInt8
  newClient : Option (ClientInfo α)
  accepted : List (ClientInfo α)
  tasks : List (Option (ClientInfo α))
  deriving DecidableEq, Repr

inductive ServerEvent (α : Type) where
  /-- The receive loop gets a datagram. -/
  | recv (d : Datagram α)
  /-- Task `i` copies `*task_param`. -/
  | start (i : Nat)
  deriving DecidableEq, Repr

variable {α : Type}

def Server.recv (availableChannels : UInt8) (s : Server α) (d : Datagram α) : Server α :=
  match handleDatagram availableChannels s.rxBuffer d with
  | (rxBuffer, none) => { s with rxBuffer := rxBuffer }
  | (rxBuffer, some client) =>
    { rxBuffer := rxBuffer
      newClient := some client
      accepted := s.accepted ++ [client]
      tasks := s.tasks ++ [none] }

def Server.start (s : Server α) (i : Nat) : Option (Server α) :=
  match s.tasks[i]? with
  | some none => some { s with tasks := s.tasks.set i s.newClient }
  | _ => none

def handoff (α : Type) (availableChannels : UInt8) : Lts (Server α) (ServerEvent α) where
  init := ⟨List.replicate receiveBufferSize 0, none, [], []⟩
  step s
    | .recv d => some (s.recv availableChannels d)
    | .start i => s.start i

/-- Every started task serves the request it was created for. -/
def Server.ServesOwn (s : Server α) : Prop :=
  ∀ (i : Nat) client, s.tasks[i]? = some (some client) → s.accepted[i]? = some client

/-- Once all tasks run, they serve the accepted requests, each as often as it was accepted. -/
def Server.ServesAll (s : Server α) : Prop :=
  (∀ t ∈ s.tasks, t ≠ none) → (s.tasks.filterMap id).Perm s.accepted

def requests (availableChannels : UInt8) (as : List (ServerEvent α)) : List (ClientInfo α) :=
  as.filterMap fun
    | .recv d => requestOf availableChannels d
    | .start _ => none

/-- A task starts while the request accepted last is the one it was created for, or an
equal one. -/
def StartsInTime (availableChannels : UInt8) (pre : List (ServerEvent α)) :
    Server α → ServerEvent α → Prop
  | _, .recv _ => True
  | _, .start i =>
    (requests availableChannels pre).getLast? = (requests availableChannels pre)[i]?

/-! ## What the slot holds -/

/-- The state as a function of the schedule, but for what the tasks have copied. -/
structure HandoffInv (availableChannels : UInt8) (as : List (ServerEvent α)) (s : Server α) :
    Prop where
  buffer : s.rxBuffer.length = receiveBufferSize
  accepted : s.accepted = requests availableChannels as
  slot : s.newClient = (requests availableChannels as).getLast?
  tasks : s.tasks.length = s.accepted.length

section Steps

variable {availableChannels : UInt8}

theorem requests_recv (as : List (ServerEvent α)) (d : Datagram α) :
    requests availableChannels (as ++ [.recv d]) =
      requests availableChannels as ++ (requestOf availableChannels d).toList := by
  unfold requests
  rw [List.filterMap_append]
  cases h : requestOf availableChannels d <;> simp [h]

theorem requests_start (as : List (ServerEvent α)) (i : Nat) :
    requests availableChannels (as ++ [.start i]) = requests availableChannels as := by
  simp [requests]

/-- What a datagram can do to the server. -/
theorem recv_cases (availableChannels : UInt8) {s : Server α}
    (h : s.rxBuffer.length = receiveBufferSize) (d : Datagram α) :
    ∃ rxBuffer, rxBuffer.length = receiveBufferSize ∧
      ((requestOf availableChannels d = none ∧
        s.recv availableChannels d = { s with rxBuffer := rxBuffer }) ∨
      ∃ client, requestOf availableChannels d = some client ∧
        s.recv availableChannels d =
          ⟨rxBuffer, some client, s.accepted ++ [client], s.tasks ++ [none]⟩) := by
  have hl := handleDatagram_length availableChannels h d
  have he := handleDatagram_eq availableChannels h d
  unfold Server.recv
  rcases hd : handleDatagram availableChannels s.rxBuffer d with ⟨rxBuffer, _ | client⟩
  · rw [hd] at hl he
    exact ⟨rxBuffer, hl, .inl ⟨he.symm, rfl⟩⟩
  · rw [hd] at hl he
    exact ⟨rxBuffer, hl, .inr ⟨client, he.symm, rfl⟩⟩

theorem start_cases {s s' : Server α} {i : Nat} (h : s.start i = some s') :
    s.tasks[i]? = some none ∧ s' = { s with tasks := s.tasks.set i s.newClient } := by
  unfold Server.start at h
  split at h
  · next ht => cases h; exact ⟨ht, rfl⟩
  · cases h

theorem handoffInv_step {as : List (ServerEvent α)} {s s' : Server α} {a : ServerEvent α}
    (hI : HandoffInv availableChannels as s)
    (hs : (handoff α availableChannels).step s a = some s') :
    HandoffInv availableChannels (as ++ [a]) s' := by
  cases a with
  | recv d =>
    simp only [handoff, Option.some.injEq] at hs
    obtain ⟨rxBuffer, hl, ⟨hr, he⟩ | ⟨client, hr, he⟩⟩ :=
      recv_cases availableChannels hI.buffer d
    · rw [he] at hs; subst hs
      refine ⟨hl, ?_, ?_, hI.tasks⟩ <;>
        rw [requests_recv, hr, Option.toList_none, List.append_nil]
      · exact hI.accepted
      · exact hI.slot
    · rw [he] at hs; subst hs
      refine ⟨hl, ?_, ?_, ?_⟩
      · rw [requests_recv, hr, Option.toList_some, hI.accepted]
      · rw [requests_recv, hr, Option.toList_some, List.getLast?_append]; rfl
      · simp [hI.tasks]
  | start i =>
    obtain ⟨-, rfl⟩ := start_cases hs
    refine ⟨hI.buffer, ?_, ?_, by simp [hI.tasks]⟩
    · rw [requests_start]; exact hI.accepted
    · rw [requests_start]; exact hI.slot

theorem servesOwn_recv {s : Server α} (h : s.rxBuffer.length = receiveBufferSize)
    (hlen : s.tasks.length = s.accepted.length) (d : Datagram α) :
    (s.recv availableChannels d).ServesOwn ↔ s.ServesOwn := by
  obtain ⟨rxBuffer, -, ⟨-, he⟩ | ⟨client, -, he⟩⟩ :=
    recv_cases availableChannels h d
  · rw [he]; rfl
  · rw [he]
    have hin : ∀ {i : Nat} {x : ClientInfo α},
        (s.tasks ++ [none])[i]? = some (some x) ↔ s.tasks[i]? = some (some x) := by
      intro i x
      rcases Nat.lt_or_ge i s.tasks.length with hi | hi
      · rw [List.getElem?_append_left hi]
      · rw [List.getElem?_append_right hi, List.getElem?_eq_none hi]
        cases hk : i - s.tasks.length <;> simp
    unfold Server.ServesOwn
    refine forall_congr' fun i => forall_congr' fun x => ?_
    simp only [hin]
    refine imp_congr_right fun ht => ?_
    have hi : i < s.accepted.length := by
      rw [← hlen]; exact (List.getElem?_eq_some_iff.mp ht).1
    rw [List.getElem?_append_left hi]

theorem servesOwn_start {s s' : Server α} {i : Nat} (h : s.start i = some s') :
    s'.ServesOwn ↔ s.ServesOwn ∧ ∀ client, s.newClient = some client →
      s.accepted[i]? = some client := by
  obtain ⟨ht, rfl⟩ := start_cases h
  have hi : i < s.tasks.length := (List.getElem?_eq_some_iff.mp ht).1
  unfold Server.ServesOwn
  constructor
  · intro hown
    refine ⟨fun k x hk => hown k x ?_, fun x hx => hown i x ?_⟩
    · have hki : i ≠ k := by rintro rfl; rw [ht] at hk; cases hk
      rw [List.getElem?_set_ne hki]; exact hk
    · rw [List.getElem?_set_self hi, hx]
  · rintro ⟨hown, hslot⟩ k x hk
    by_cases hki : i = k
    · subst hki
      rw [List.getElem?_set_self hi, Option.some.injEq] at hk
      exact hslot x hk
    · rw [List.getElem?_set_ne hki] at hk
      exact hown k x hk

end Steps

/-! ## Runs -/

section Runs

variable {availableChannels : UInt8}

theorem handoffInv {as : List (ServerEvent α)} {s : Server α}
    (h : (handoff α availableChannels).run as = some s) : HandoffInv availableChannels as s := by
  refine Lts.hist_inv (P := HandoffInv availableChannels) ?_
    (fun as a s s' _ hI hs => handoffInv_step hI hs) h
  exact ⟨by simp [handoff], rfl, rfl, rfl⟩

theorem servesOwn_step {as : List (ServerEvent α)} {a : ServerEvent α} {s s' : Server α}
    (hI : HandoffInv availableChannels as s)
    (hs : (handoff α availableChannels).step s a = some s') :
    s'.ServesOwn ↔ s.ServesOwn ∧ StartsInTime availableChannels as s a := by
  cases a with
  | recv d =>
    simp only [handoff, Option.some.injEq] at hs
    subst hs
    rw [servesOwn_recv hI.buffer hI.tasks]
    exact (and_iff_left trivial).symm
  | start i =>
    rw [servesOwn_start hs]
    refine and_congr_right fun _ => ?_
    obtain ⟨ht, -⟩ := start_cases hs
    have hi : i < (requests availableChannels as).length := by
      rw [← hI.accepted, ← hI.tasks]; exact (List.getElem?_eq_some_iff.mp ht).1
    obtain ⟨x, hx⟩ : ∃ x, (requests availableChannels as).getLast? = some x :=
      ⟨_, List.getLast?_eq_some_getLast (List.ne_nil_of_length_pos (by omega))⟩
    simp only [StartsInTime, hI.slot, hI.accepted, hx, Option.some.injEq, forall_eq']
    exact eq_comm

theorem servesOwn_run {as : List (ServerEvent α)} {s : Server α}
    (h : (handoff α availableChannels).run as = some s) :
    s.ServesOwn ↔ (handoff α availableChannels).EachStep (StartsInTime availableChannels) as := by
  refine Lts.iff_eachStep (P := Server.ServesOwn) ?_
    (fun as a s s' hrun hs => servesOwn_step (handoffInv hrun) hs) h
  intro i x hi
  simp [handoff] at hi

/-- Own requests served by all tasks are all the requests. -/
theorem servesAll_of_servesOwn {s : Server α} (hlen : s.tasks.length = s.accepted.length)
    (h : s.ServesOwn) : s.ServesAll := by
  intro hall
  have he : s.tasks = s.accepted.map some := by
    apply List.ext_getElem?
    intro i
    rw [List.getElem?_map]
    rcases Nat.lt_or_ge i s.tasks.length with hi | hi
    · obtain ⟨x, hx⟩ := Option.ne_none_iff_exists'.mp (hall _ (List.getElem_mem hi))
      have ht : s.tasks[i]? = some (some x) := by rw [List.getElem?_eq_getElem hi, hx]
      rw [ht, h i x ht]; rfl
    · rw [List.getElem?_eq_none hi, List.getElem?_eq_none (by omega)]; rfl
  rw [he, List.filterMap_map]
  simp

/-- **The hand-off is right exactly when no task starts late**: in a run of datagrams and task
starts, every state has every started task serving its own request (and, once all have
started, the accepted requests served as often as accepted) if and only if each task starts
while the last accepted request is the one it was created for or an equal one. -/
theorem handoff_iff {as : List (ServerEvent α)} {s : Server α}
    (h : (handoff α availableChannels).run as = some s) :
    (handoff α availableChannels).Throughout (fun s => s.ServesOwn ∧ s.ServesAll) as ↔
      (handoff α availableChannels).EachStep (StartsInTime availableChannels) as := by
  refine Lts.throughout_iff_eachStep (P := fun s => s.ServesOwn ∧ s.ServesAll) (fun hs => ?_) h
  rw [← servesOwn_run hs]
  exact and_iff_left_of_imp (servesAll_of_servesOwn (handoffInv hs).tasks)

end Runs

def twoRequests : Datagram Nat × Datagram Nat := (⟨[49], 10, 16⟩, ⟨[50], 20, 16⟩)

/-- Started in turn, both are served. -/
theorem handoff_in_turn :
    (handoff Nat 6).Throughout (fun s => s.ServesOwn ∧ s.ServesAll)
      [.recv twoRequests.1, .start 0, .recv twoRequests.2, .start 1] := by
  refine (handoff_iff (s := ⟨50 :: 0 :: List.replicate 14 0, some ⟨2, 20, 16⟩,
    [⟨1, 10, 16⟩, ⟨2, 20, 16⟩], [some ⟨1, 10, 16⟩, some ⟨2, 20, 16⟩]⟩) (by decide)).mpr ?_
  refine EachAction.cons.mpr ⟨fun s _ => trivial, EachAction.cons.mpr ⟨fun s _ => ?_,
    EachAction.cons.mpr ⟨fun s _ => trivial, EachAction.cons.mpr ⟨fun s _ => ?_, .nil⟩⟩⟩⟩ <;>
    show _ = _ <;> decide

/-- When both are accepted before the first task starts, both tasks serve the second client. -/
theorem handoff_mixes_up :
    ∃ s, (handoff Nat 6).run [.recv twoRequests.1, .recv twoRequests.2, .start 0, .start 1] =
        some s ∧
      (∀ t ∈ s.tasks, t ≠ none) ∧ ¬ s.ServesOwn ∧ ¬ s.ServesAll := by
  refine ⟨⟨50 :: 0 :: List.replicate 14 0, some ⟨2, 20, 16⟩, [⟨1, 10, 16⟩, ⟨2, 20, 16⟩],
    [some ⟨2, 20, 16⟩, some ⟨2, 20, 16⟩]⟩, by decide, by decide, fun h => ?_, fun h => ?_⟩
  · exact absurd (h 0 ⟨2, 20, 16⟩ rfl) (by decide)
  · exact absurd (h (by decide)) (by decide)

end Powermeter
