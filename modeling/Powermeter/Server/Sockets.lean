import Mathlib.Logic.Function.Basic
import Powermeter.Lib.Lts

/-!
# The global `server_socket`

The socket calls of the server tasks (one for each enabled IP stack) and of the
`serve_client` tasks, each with any outcome, in any order. All of them work on whatever
descriptor the global `server_socket` holds. Which socket that is follows from the calls
made (`heldBy`): the socket of the last `socket` call, bound by whoever called `bind`
since, until anybody closes it.
-/

namespace Powermeter

/-- The IP stacks, each with a server task of its own when it is enabled. -/
inductive IpStack where
  | ipv4
  | ipv6
  deriving DecidableEq, Repr

/-- A socket of the network stack: the task that created it, and whether it was bound. -/
structure Socket where
  creator : IpStack
  bound : Bool
  deriving DecidableEq, Repr

inductive ServerTask where
  | socket
  | bind
  | recvfrom
  | close
  | deleted
  deriving DecidableEq, Repr

/-- A `serve_client` task: the server task that accepted the client, and whether it still runs. -/
structure ClientTask where
  acceptedBy : IpStack
  running : Bool
  deriving DecidableEq, Repr

/-- `serverSocket` is `none` for −1; `table` are the open descriptors. -/
structure Sockets where
  serverSocket : Option Nat
  table : Nat → Option Socket
  tasks : IpStack → ServerTask
  clients : List ClientTask

inductive RecvResult where
  | error
  | rejected
  /-- A datagram that `validate_request` accepts. -/
  | accepted
  deriving DecidableEq, Repr

inductive SendResult where
  | sent
  /-- `errno` 118. -/
  | wifiAbsent
  | error
  deriving DecidableEq, Repr

inductive SocketEvent where
  /-- `socket`, with the descriptor it returns. -/
  | socket (task : IpStack) (fd : Option Nat)
  | bind (task : IpStack) (ok : Bool)
  | recvfrom (task : IpStack) (result : RecvResult)
  /-- `shutdown` and `close`, unless `server_socket` is −1. -/
  | close (task : IpStack)
  | sendto (client : Nat) (result : SendResult)
  deriving DecidableEq, Repr

namespace Sockets

/-- The socket a call on `server_socket` works on. -/
def current (s : Sockets) : Option Socket := s.serverSocket.bind s.table

def goto (s : Sockets) (task : IpStack) (next : ServerTask) : Sockets :=
  { s with tasks := Function.update s.tasks task next }

/-- `bind` marks the socket of `server_socket`, if there is one. -/
def bindCurrent (s : Sockets) : Sockets :=
  match s.serverSocket with
  | none => s
  | some fd =>
    { s with table := Function.update s.table fd ((s.table fd).map ({ · with bound := true })) }

def closeCurrent (s : Sockets) : Sockets :=
  match s.serverSocket with
  | none => s
  | some fd => { s with table := Function.update s.table fd none }

/-- What a server task does after `recvfrom`. -/
def received (s : Sockets) (task : IpStack) : RecvResult → Sockets
  | .error => s.goto task .close
  | .rejected => s
  | .accepted => { s with clients := s.clients ++ [⟨task, true⟩] }

/-- `socket` returns a descriptor that is not open. -/
def step (s : Sockets) : SocketEvent → Option Sockets
  | .socket task none =>
    if s.tasks task = .socket then some ({ s with serverSocket := none }.goto task .deleted)
    else none
  | .socket task (some fd) =>
    if s.tasks task = .socket ∧ s.table fd = none then
      some ({ s with
        serverSocket := some fd
        table := Function.update s.table fd (some ⟨task, false⟩) }.goto task .bind)
    else none
  | .bind task ok =>
    if s.tasks task = .bind then
      some (if ok then s.bindCurrent.goto task .recvfrom else s.goto task .deleted)
    else none
  | .recvfrom task result =>
    if s.tasks task = .recvfrom then some (s.received task result) else none
  | .close task =>
    if s.tasks task = .close then some (s.closeCurrent.goto task .socket) else none
  | .sendto i result =>
    match s.clients[i]? with
    | some ⟨task, true⟩ =>
      some (if result = .error then { s with clients := s.clients.set i ⟨task, false⟩ } else s)
    | _ => none

end Sockets

def sockets (enabled : IpStack → Bool) : Lts Sockets SocketEvent where
  init := ⟨some 0, fun _ => none, fun task => if enabled task then .socket else .deleted, []⟩
  step := Sockets.step

/-- `recvfrom` and `sendto` are called on an open and bound socket of the right server task. -/
def CallsLive (s : Sockets) : SocketEvent → Prop
  | .recvfrom task _ => s.current = some ⟨task, true⟩
  | .sendto i _ => ∀ c, s.clients[i]? = some c → s.current = some ⟨c.acceptedBy, true⟩
  | _ => True

/-- By the calls made so far, the last `socket` was called by `task` and succeeded, some `bind`
has succeeded since, and nobody has closed. -/
def OwnSocketBound (task : IpStack) (pre : List SocketEvent) : Prop :=
  ∃ p fd q, pre = p ++ .socket task (some fd) :: q ∧ (∃ t, .bind t true ∈ q) ∧
    (∀ t r, .socket t r ∉ q) ∧ ∀ t, .close t ∉ q

/-- The call of a server task comes while the socket is its own and bound. -/
def CallsInTime (pre : List SocketEvent) (s : Sockets) : SocketEvent → Prop
  | .recvfrom task _ => OwnSocketBound task pre
  | .sendto i _ => ∀ c, s.clients[i]? = some c → OwnSocketBound c.acceptedBy pre
  | _ => True

/-! ## The socket by the calls made -/

def hold (x : Option Socket) : SocketEvent → Option Socket
  | .socket task (some _) => some ⟨task, false⟩
  | .socket _ none => none
  | .bind _ true => x.map ({ · with bound := true })
  | .close _ => none
  | _ => x

def heldBy (as : List SocketEvent) : Option Socket := as.foldl hold none

theorem heldBy_snoc (as : List SocketEvent) (a : SocketEvent) :
    heldBy (as ++ [a]) = hold (heldBy as) a := by
  simp [heldBy]

/-- The last `socket` call was by the creator of `x` and succeeded, nobody has closed since, and
`x` says whether somebody has bound since. -/
def LastSocket (x : Socket) (as : List SocketEvent) : Prop :=
  ∃ p fd q, as = p ++ .socket x.creator (some fd) :: q ∧
    (x.bound = true ↔ ∃ t, .bind t true ∈ q) ∧ (∀ t r, .socket t r ∉ q) ∧ ∀ t, .close t ∉ q

theorem lastSocket_snoc {x : Socket} {as : List SocketEvent} {a : SocketEvent} :
    LastSocket x (as ++ [a]) ↔
      (∃ fd, a = .socket x.creator (some fd)) ∧ x.bound = false ∨
      (∀ t r, a ≠ .socket t r) ∧ (∀ t, a ≠ .close t) ∧ ∃ bound, LastSocket ⟨x.creator, bound⟩ as ∧
        (x.bound = true ↔ bound = true ∨ ∃ t, a = .bind t true) := by
  constructor
  · rintro ⟨p, fd, q, he, hbound, hsocket, hclose⟩
    rcases List.eq_nil_or_concat q with rfl | ⟨q, b, rfl⟩
    · obtain ⟨rfl, hab⟩ := List.append_inj' he rfl
      cases hab
      exact .inl ⟨⟨fd, rfl⟩, by simpa using hbound⟩
    · rw [List.concat_eq_append, ← List.cons_append, ← List.append_assoc] at he
      obtain ⟨rfl, hab⟩ := List.append_inj' he rfl
      cases hab
      simp only [List.concat_eq_append, List.mem_append, List.mem_singleton, not_or] at *
      classical
      refine .inr ⟨fun t r h => (hsocket t r).2 h.symm, fun t h => (hclose t).2 h.symm,
        decide (∃ t, .bind t true ∈ q), ⟨p, fd, q, rfl, by simp, fun t r => (hsocket t r).1,
          fun t => (hclose t).1⟩, ?_⟩
      rw [hbound, decide_eq_true_eq, ← exists_or]
      exact exists_congr fun t => or_congr_right eq_comm
  · rintro (⟨⟨fd, rfl⟩, hb⟩ | ⟨hs, hc, bound, ⟨p, fd, q, rfl, hbound, hsocket, hclose⟩, hx⟩)
    · exact ⟨as, fd, [], rfl, by simp [hb], by simp, by simp⟩
    · refine ⟨p, fd, q ++ [a], by simp, ?_, fun t r h => ?_, fun t h => ?_⟩
      · rw [hx, hbound, ← exists_or]
        simp only [List.mem_append, List.mem_singleton]
        exact exists_congr fun t => or_congr_right eq_comm
      · rcases List.mem_append.mp h with h | h
        · exact hsocket t r h
        · exact hs t r (List.mem_singleton.mp h).symm
      · rcases List.mem_append.mp h with h | h
        · exact hclose t h
        · exact hc t (List.mem_singleton.mp h).symm

theorem heldBy_eq_some {as : List SocketEvent} {x : Socket} :
    heldBy as = some x ↔ LastSocket x as := by
  induction as using List.reverseRecOn generalizing x with
  | nil => simp [heldBy, LastSocket]
  | append_singleton as a ih =>
    rw [heldBy_snoc, lastSocket_snoc]
    simp only [← ih]
    obtain ⟨creator, bound⟩ := x
    cases a with
    | socket t r => cases r <;> simp [hold]
    | bind t ok =>
      cases ok
      · simp [hold]
      · rcases heldBy as with _ | ⟨c, b⟩
        · simp [hold]
        · cases b <;> cases bound <;> simp [hold]
    | recvfrom t r => simp [hold]
    | close t => simp [hold]
    | sendto i r => simp [hold]

theorem ownSocketBound_iff {task : IpStack} {as : List SocketEvent} :
    OwnSocketBound task as ↔ heldBy as = some ⟨task, true⟩ := by
  rw [heldBy_eq_some]
  simp only [OwnSocketBound, LastSocket, true_iff]

/-! ## The calls -/

section Calls

variable {enabled : IpStack → Bool} {s s' : Sockets}

@[simp] theorem goto_self (s : Sockets) (task : IpStack) (next : ServerTask) :
    (s.goto task next).tasks task = next :=
  Function.update_self _ _ _

theorem goto_other (s : Sockets) {t task : IpStack} (ht : t ≠ task) (next : ServerTask) :
    (s.goto t next).tasks task = s.tasks task :=
  Function.update_of_ne ht.symm _ _

@[simp] theorem bindCurrent_tasks : s.bindCurrent.tasks = s.tasks := by
  unfold Sockets.bindCurrent
  split <;> rfl

@[simp] theorem closeCurrent_tasks : s.closeCurrent.tasks = s.tasks := by
  unfold Sockets.closeCurrent
  split <;> rfl

theorem current_bind : s.bindCurrent.current = s.current.map ({ · with bound := true }) := by
  unfold Sockets.bindCurrent
  split
  · next h => rw [Sockets.current, h]; rfl
  · next fd h => simp [Sockets.current, h]

theorem current_close : s.closeCurrent.current = none := by
  unfold Sockets.closeCurrent
  split
  · next h => rw [Sockets.current, h]; rfl
  · next fd h => simp [Sockets.current, h]

/-- **What a call does to the socket of `server_socket`**, whichever task makes it. -/
theorem current_step {a : SocketEvent} (hs : s.step a = some s') :
    s'.current = hold s.current a := by
  cases a with
  | socket task fd =>
    cases fd with
    | none =>
      obtain ⟨-, h⟩ := Option.ite_none_right_eq_some.mp hs
      cases h; rfl
    | some fd =>
      obtain ⟨-, h⟩ := Option.ite_none_right_eq_some.mp hs
      cases h
      simp [Sockets.current, Sockets.goto, hold]
  | bind task ok =>
    obtain ⟨-, h⟩ := Option.ite_none_right_eq_some.mp hs
    cases ok <;> cases h
    · rfl
    · exact current_bind
  | recvfrom task result =>
    obtain ⟨-, h⟩ := Option.ite_none_right_eq_some.mp hs
    cases result <;> cases h <;> rfl
  | close task =>
    obtain ⟨-, h⟩ := Option.ite_none_right_eq_some.mp hs
    cases h
    exact current_close
  | sendto i result =>
    simp only [Sockets.step] at hs
    split at hs
    · cases hs; split <;> rfl
    · cases hs

theorem current_run {as : List SocketEvent} (h : (sockets enabled).run as = some s) :
    s.current = heldBy as := by
  refine Lts.hist_inv (P := fun as s => s.current = heldBy as) rfl ?_ h
  intro as a s s' _ ih hs
  rw [heldBy_snoc, ← ih]
  exact current_step hs

/-- **When the calls are on live sockets**: in a run of the socket calls, each `recvfrom` of a
server task and each `sendto` for one of its clients is on an open and bound socket of that task
if and only if it comes while the last `socket` was called by that task and succeeded, with a
`bind` since that succeeded and no `close`. -/
theorem sockets_live_iff {as : List SocketEvent} :
    (sockets enabled).EachStep (fun _ s a => CallsLive s a) as ↔
      (sockets enabled).EachStep CallsInTime as := by
  refine Lts.eachStep_congr fun pre s a hs => ?_
  have hcur := current_run hs
  cases a with
  | recvfrom task result => simp only [CallsLive, CallsInTime, ownSocketBound_iff, hcur]
  | sendto i result => simp only [CallsLive, CallsInTime, ownSocketBound_iff, hcur]
  | _ => exact Iff.rfl

/-! ## One stack -/

/-- With one stack enabled, what the socket of its server task is at its next call. -/
structure OneStack (task : IpStack) (s : Sockets) : Prop where
  others : ∀ t, t ≠ task → s.tasks t = .deleted
  bind : s.tasks task = .bind → s.current = some ⟨task, false⟩
  recvfrom : s.tasks task = .recvfrom → s.current = some ⟨task, true⟩

theorem OneStack.goto {task : IpStack} {next : ServerTask}
    (hothers : ∀ t, t ≠ task → s.tasks t = .deleted)
    (hbind : next = .bind → s.current = some ⟨task, false⟩)
    (hrecvfrom : next = .recvfrom → s.current = some ⟨task, true⟩) :
    OneStack task (s.goto task next) := by
  refine ⟨fun t ht => ?_, fun h => hbind ?_, fun h => hrecvfrom ?_⟩
  · rw [goto_other s ht.symm]
    exact hothers t ht
  · exact (goto_self s task next).symm.trans h
  · exact (goto_self s task next).symm.trans h

theorem oneStack_step {task : IpStack} {a : SocketEvent} (hI : OneStack task s)
    (hs : s.step a = some s') : OneStack task s' := by
  have hcur := current_step hs
  -- no other task makes a call
  have own : ∀ {t next}, s.tasks t = next → next ≠ .deleted → t = task := by
    rintro t next rfl hne
    by_contra ht
    exact hne (hI.others t ht)
  cases a with
  | socket t fd =>
    cases fd with
    | none =>
      obtain ⟨ht, h⟩ := Option.ite_none_right_eq_some.mp hs
      obtain rfl := own ht nofun
      cases h
      exact .goto hI.others nofun nofun
    | some fd =>
      obtain ⟨⟨ht, -⟩, h⟩ := Option.ite_none_right_eq_some.mp hs
      obtain rfl := own ht nofun
      cases h
      exact .goto hI.others (fun _ => hcur) nofun
  | bind t ok =>
    obtain ⟨ht, h⟩ := Option.ite_none_right_eq_some.mp hs
    obtain rfl := own ht nofun
    rw [hI.bind ht] at hcur
    cases ok <;> cases h
    · exact .goto hI.others nofun nofun
    · refine .goto (fun x hx => ?_) nofun fun _ => hcur
      rw [bindCurrent_tasks]
      exact hI.others x hx
  | recvfrom t result =>
    obtain ⟨ht, h⟩ := Option.ite_none_right_eq_some.mp hs
    obtain rfl := own ht nofun
    cases result <;> cases h
    · exact .goto hI.others nofun nofun
    · exact hI
    · exact ⟨hI.others, hI.bind, hI.recvfrom⟩
  | close t =>
    obtain ⟨ht, h⟩ := Option.ite_none_right_eq_some.mp hs
    obtain rfl := own ht nofun
    cases h
    refine .goto (fun x hx => ?_) nofun nofun
    rw [closeCurrent_tasks]
    exact hI.others x hx
  | sendto i result =>
    simp only [Sockets.step] at hs
    split at hs
    · cases hs
      split
      · exact ⟨hI.others, hI.bind, hI.recvfrom⟩
      · exact hI
    · cases hs

/-- **With one stack the server task receives on its own socket**, restarts included; only the
clients are ever served on another. -/
theorem recvfrom_live_of_oneStack {task : IpStack} {as : List SocketEvent} {s s' : Sockets}
    {result : RecvResult} (h : (sockets (· = task)).run as = some s)
    (hs : s.step (.recvfrom task result) = some s') : s.current = some ⟨task, true⟩ := by
  have hI : OneStack task s := by
    refine Lts.inv (P := OneStack task) ⟨fun t ht => ?_, ?_, ?_⟩
      (fun s a s' hI hs => oneStack_step hI hs) h
    · simp [sockets, ht]
    · simp [sockets]
    · simp [sockets]
  obtain ⟨ht, -⟩ := Option.ite_none_right_eq_some.mp hs
  exact hI.recvfrom ht

end Calls

def firstClient : List SocketEvent :=
  [.socket .ipv4 (some 3), .bind .ipv4 true, .recvfrom .ipv4 .accepted, .sendto 0 .sent]

/-- IPv4 only: when `recvfrom` fails, the server closes the socket and the client is sent to on
it. -/
theorem sockets_restart :
    ((sockets (· = .ipv4)).run
      (firstClient ++ [.recvfrom .ipv4 .error, .close .ipv4, .sendto 0 .error])).isSome ∧
    ¬ (sockets (· = .ipv4)).EachStep (fun _ s a => CallsLive s a)
      (firstClient ++ [.recvfrom .ipv4 .error, .close .ipv4, .sendto 0 .error]) := by
  refine ⟨rfl, fun hall => ?_⟩
  have hlive := hall (firstClient ++ [.recvfrom .ipv4 .error, .close .ipv4]) (.sendto 0 .error) []
    rfl _ rfl
  cases hlive ⟨.ipv4, true⟩ rfl

/-- With both stacks, the IPv4 task receives on the socket of the IPv6 task. -/
theorem sockets_two_stacks :
    ¬ (sockets fun _ => true).EachStep (fun _ s a => CallsLive s a)
      [.socket .ipv4 (some 3), .bind .ipv4 true, .socket .ipv6 (some 4), .bind .ipv6 true,
        .recvfrom .ipv4 .rejected] := by
  intro hall
  have hlive := hall [.socket .ipv4 (some 3), .bind .ipv4 true, .socket .ipv6 (some 4),
    .bind .ipv6 true] (.recvfrom .ipv4 .rejected) [] rfl _ rfl
  cases hlive

end Powermeter
