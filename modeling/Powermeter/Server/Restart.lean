import Mathlib.Data.List.Nodup
import Powermeter.Server.Sockets

/-!
# The restarts of a server task

One `start_udp_server` task with any outcomes of its calls. Its sockets are numbered in
the order it creates them. The inner loop is left when `recvfrom` fails, the socket is
closed and the outer loop starts again; a failed `socket` or `bind` leaves the outer loop
and the task deletes itself, after `bind` with its socket still open. In the machine of
all tasks every server task runs as this one does (`project_run`).
-/

namespace Powermeter

/-- `closed` are the sockets in the order they were closed. -/
structure UdpServer where
  next : ServerTask
  serverSocket : Option Nat
  created : Nat
  closed : List Nat
  deriving DecidableEq, Repr

/-- A call of the task and whether it succeeds. -/
inductive UdpServerEvent where
  | socket (ok : Bool)
  | bind (ok : Bool)
  | recvfrom (ok : Bool)
  /-- `shutdown` and `close`, unless `server_socket` is −1. -/
  | close
  deriving DecidableEq, Repr

namespace UdpServer

def step (s : UdpServer) : UdpServerEvent → Option UdpServer
  | .socket ok =>
    if s.next = .socket then
      some (if ok then
          { s with next := .bind, serverSocket := some s.created, created := s.created + 1 }
        else { s with next := .deleted, serverSocket := none })
    else none
  | .bind ok =>
    if s.next = .bind then some { s with next := if ok then .recvfrom else .deleted } else none
  | .recvfrom ok =>
    if s.next = .recvfrom then some { s with next := if ok then .recvfrom else .close } else none
  | .close =>
    if s.next = .close then
      some { s with next := .socket, closed := s.closed ++ s.serverSocket.toList }
    else none

/-- Socket `i` was created and not closed. -/
def Open (s : UdpServer) (i : Nat) : Prop := i < s.created ∧ i ∉ s.closed

end UdpServer

def udpServer : Lts UdpServer UdpServerEvent where
  init := ⟨.socket, none, 0, []⟩
  step := UdpServer.step

/-- The task is not deleted, has closed every socket once when it creates another, and holds at
most one open socket. -/
structure RestartsClean (s : UdpServer) : Prop where
  running : s.next ≠ .deleted
  closedOnce : s.next = .socket → ∀ i < s.created, s.closed.count i = 1
  oneOpen : ∀ i j, s.Open i → s.Open j → i = j

/-- A call whose failure leaves the outer loop. -/
def UdpServerEvent.Fatal : UdpServerEvent → Prop
  | .socket ok => ok = false
  | .bind ok => ok = false
  | _ => False

/-! ## The sockets -/

/-- Every socket but possibly the last is closed, in the order they were created. -/
structure UdpServerInv (s : UdpServer) : Prop where
  idle : s.next = .socket → s.closed = List.range s.created
  live : s.next = .bind ∨ s.next = .recvfrom ∨ s.next = .close →
    ∃ i, s.created = i + 1 ∧ s.serverSocket = some i ∧ s.closed = List.range i
  last : ∃ k, s.closed = List.range k ∧ (s.created = k ∨ s.created = k + 1)

section Steps

variable {s s' : UdpServer} {a : UdpServerEvent}

theorem udpServerInv_step (hI : UdpServerInv s) (hs : s.step a = some s') : UdpServerInv s' := by
  cases a with
  | socket ok =>
    obtain ⟨hnext, h⟩ := Option.ite_none_right_eq_some.mp hs
    have hclosed := hI.idle hnext
    cases ok <;> cases h
    · exact ⟨nofun, by simp, _, hclosed, .inl rfl⟩
    · exact ⟨nofun, fun _ => ⟨_, rfl, rfl, hclosed⟩, _, hclosed, .inr rfl⟩
  | bind ok =>
    obtain ⟨hnext, h⟩ := Option.ite_none_right_eq_some.mp hs
    have hlive := hI.live (.inl hnext)
    cases ok <;> cases h
    · exact ⟨nofun, by simp, hI.last⟩
    · exact ⟨nofun, fun _ => hlive, hI.last⟩
  | recvfrom ok =>
    obtain ⟨hnext, h⟩ := Option.ite_none_right_eq_some.mp hs
    have hlive := hI.live (.inr (.inl hnext))
    cases ok <;> cases h
    · exact ⟨nofun, fun _ => hlive, hI.last⟩
    · exact ⟨nofun, fun _ => hlive, hI.last⟩
  | close =>
    obtain ⟨hnext, h⟩ := Option.ite_none_right_eq_some.mp hs
    obtain ⟨i, hcreated, hsocket, hclosed⟩ := hI.live (.inr (.inr hnext))
    have hall : s.closed ++ s.serverSocket.toList = List.range s.created := by
      rw [hclosed, hsocket, hcreated, List.range_succ]
      rfl
    cases h
    exact ⟨fun _ => hall, by simp, _, hall, .inl rfl⟩

theorem deleted_step (hs : s.step a = some s') : s'.next = .deleted ↔ a.Fatal := by
  cases a with
  | socket ok =>
    obtain ⟨-, h⟩ := Option.ite_none_right_eq_some.mp hs
    cases ok <;> cases h <;> simp [UdpServerEvent.Fatal]
  | bind ok =>
    obtain ⟨-, h⟩ := Option.ite_none_right_eq_some.mp hs
    cases ok <;> cases h <;> simp [UdpServerEvent.Fatal]
  | recvfrom ok =>
    obtain ⟨-, h⟩ := Option.ite_none_right_eq_some.mp hs
    cases ok <;> cases h <;> simp [UdpServerEvent.Fatal]
  | close =>
    obtain ⟨-, h⟩ := Option.ite_none_right_eq_some.mp hs
    cases h
    simp [UdpServerEvent.Fatal]

theorem not_deleted_of_step (hs : s.step a = some s') : s.next ≠ .deleted := by
  intro hd
  cases a <;> simp [UdpServer.step, hd] at hs

end Steps

/-! ## Runs -/

section Runs

variable {as : List UdpServerEvent} {s : UdpServer}

theorem udpServerInv (h : udpServer.run as = some s) : UdpServerInv s := by
  refine Lts.inv (P := UdpServerInv) ?_ (fun s a s' hI hs => udpServerInv_step hI hs) h
  exact ⟨fun _ => rfl, by simp [udpServer], 0, rfl, .inl rfl⟩

theorem running_iff (h : udpServer.run as = some s) : s.next ≠ .deleted ↔ ∀ a ∈ as, ¬ a.Fatal := by
  refine Lts.hist_inv (P := fun as s => s.next ≠ .deleted ↔ ∀ a ∈ as, ¬ a.Fatal) ?_ ?_ h
  · exact iff_of_true nofun nofun
  · intro as a s s' _ ih hs
    have hbefore := ih.mp (not_deleted_of_step hs)
    rw [ne_eq, deleted_step hs]
    simp only [List.mem_append, List.mem_singleton]
    exact ⟨fun ha b hb => hb.elim (hbefore b) fun he => he ▸ ha, fun hall => hall a (.inr rfl)⟩

/-- **No restart leaks a socket**, whatever the outcomes: before another `socket` call all sockets
are closed, once each, and there is never more than one open. -/
theorem sockets_closed (h : udpServer.run as = some s) :
    (s.next = .socket → ∀ i < s.created, s.closed.count i = 1) ∧
      ∀ i j, s.Open i → s.Open j → i = j := by
  have hI := udpServerInv h
  refine ⟨fun hnext i hi => ?_, ?_⟩
  · rw [hI.idle hnext]
    exact List.count_eq_one_of_mem List.nodup_range (List.mem_range.mpr hi)
  · obtain ⟨k, hk, hcreated⟩ := hI.last
    have hlast : ∀ i, s.Open i → i = k := by
      rintro i ⟨hi, hnot⟩
      rw [hk, List.mem_range] at hnot
      omega
    intro i j hi hj
    rw [hlast i hi, hlast j hj]

/-- **The server restarts itself exactly on `recvfrom` errors**: in a run of one server task, it is
never deleted, has closed every earlier socket once at each `socket` call and holds at most one
open socket, throughout, if and only if no `socket` and no `bind` fails. -/
theorem restarts_iff (h : udpServer.run as = some s) :
    udpServer.Throughout RestartsClean as ↔ ∀ a ∈ as, a ≠ .socket false ∧ a ≠ .bind false := by
  have hfatal : ∀ a : UdpServerEvent, ¬ a.Fatal ↔ a ≠ .socket false ∧ a ≠ .bind false := by
    intro a
    cases a <;> simp [UdpServerEvent.Fatal]
  simp only [← hfatal]
  constructor
  · intro hall
    exact (running_iff h).mp (hall.last h).running
  · rintro hno pre post s' rfl hs'
    obtain ⟨hclosed, hopen⟩ := sockets_closed hs'
    refine ⟨(running_iff hs').mpr fun a ha => ?_, hclosed, hopen⟩
    exact hno a (List.mem_append_left _ ha)

end Runs

/-- A failed `recvfrom`, then one more round: two sockets, the first of them closed. -/
theorem restarts_after_recvfrom :
    udpServer.Throughout RestartsClean
      [.socket true, .bind true, .recvfrom true, .recvfrom false, .close, .socket true] :=
  (restarts_iff (s := ⟨.bind, some 1, 2, [0]⟩) rfl).mpr (by decide)

/-- The port is in use: the task is deleted with its socket open. -/
theorem restarts_fails_bind :
    udpServer.run [.socket true, .bind false] = some ⟨.deleted, some 0, 1, []⟩ ∧
      ¬ udpServer.Throughout RestartsClean [.socket true, .bind false] :=
  ⟨rfl, fun hall => (hall.last (s := ⟨.deleted, some 0, 1, []⟩) rfl).running rfl⟩

/-! ## In the machine of all tasks -/

def project (task : IpStack) : SocketEvent → Option UdpServerEvent
  | .socket t fd => if t = task then some (.socket fd.isSome) else none
  | .bind t ok => if t = task then some (.bind ok) else none
  | .recvfrom t result => if t = task then some (.recvfrom (result ≠ .error)) else none
  | .close t => if t = task then some .close else none
  | .sendto _ _ => none

section Project

variable {enabled : IpStack → Bool} {task : IpStack} {s s' : Sockets} {a : SocketEvent}

theorem project_other (hp : project task a = none) (hs : s.step a = some s') :
    s'.tasks task = s.tasks task := by
  cases a with
  | socket t fd =>
    have ht : t ≠ task := by simpa [project] using hp
    cases fd with
    | none =>
      obtain ⟨-, h⟩ := Option.ite_none_right_eq_some.mp hs
      cases h
      exact goto_other _ ht _
    | some fd =>
      obtain ⟨-, h⟩ := Option.ite_none_right_eq_some.mp hs
      cases h
      exact goto_other _ ht _
  | bind t ok =>
    have ht : t ≠ task := by simpa [project] using hp
    obtain ⟨-, h⟩ := Option.ite_none_right_eq_some.mp hs
    cases ok <;> cases h
    · exact goto_other _ ht _
    · exact (goto_other _ ht _).trans (by rw [bindCurrent_tasks])
  | recvfrom t result =>
    have ht : t ≠ task := by simpa [project] using hp
    obtain ⟨-, h⟩ := Option.ite_none_right_eq_some.mp hs
    cases h
    cases result with
    | error => exact goto_other _ ht _
    | rejected => rfl
    | accepted => rfl
  | close t =>
    have ht : t ≠ task := by simpa [project] using hp
    obtain ⟨-, h⟩ := Option.ite_none_right_eq_some.mp hs
    cases h
    exact (goto_other _ ht _).trans (by rw [closeCurrent_tasks])
  | sendto i result =>
    simp only [Sockets.step] at hs
    split at hs
    · cases hs
      split <;> rfl
    · cases hs

theorem project_call {u : UdpServer} {b : UdpServerEvent} (hp : project task a = some b)
    (hu : u.next = s.tasks task) (hs : s.step a = some s') :
    ∃ u', u.step b = some u' ∧ u'.next = s'.tasks task := by
  cases a with
  | socket t fd =>
    obtain ⟨rfl, hb⟩ := Option.ite_none_right_eq_some.mp hp
    cases hb
    cases fd with
    | none =>
      obtain ⟨hnext, h⟩ := Option.ite_none_right_eq_some.mp hs
      cases h
      exact ⟨_, if_pos (hu.trans hnext), by simp⟩
    | some fd =>
      obtain ⟨⟨hnext, -⟩, h⟩ := Option.ite_none_right_eq_some.mp hs
      cases h
      exact ⟨_, if_pos (hu.trans hnext), by simp⟩
  | bind t ok =>
    obtain ⟨rfl, hb⟩ := Option.ite_none_right_eq_some.mp hp
    cases hb
    obtain ⟨hnext, h⟩ := Option.ite_none_right_eq_some.mp hs
    refine ⟨_, if_pos (hu.trans hnext), ?_⟩
    cases ok <;> cases h <;> simp
  | recvfrom t result =>
    obtain ⟨rfl, hb⟩ := Option.ite_none_right_eq_some.mp hp
    cases hb
    obtain ⟨hnext, h⟩ := Option.ite_none_right_eq_some.mp hs
    refine ⟨_, if_pos (hu.trans hnext), ?_⟩
    cases h
    cases result with
    | error => simp [Sockets.received]
    | rejected => exact hnext.symm
    | accepted => exact hnext.symm
  | close t =>
    obtain ⟨rfl, hb⟩ := Option.ite_none_right_eq_some.mp hp
    cases hb
    obtain ⟨hnext, h⟩ := Option.ite_none_right_eq_some.mp hs
    cases h
    exact ⟨_, if_pos (hu.trans hnext), by simp⟩
  | sendto i result => cases hp

/-- **Every server task runs as `udpServer`**, whatever the other tasks do. -/
theorem project_run {as : List SocketEvent} (htask : enabled task = true)
    (h : (sockets enabled).run as = some s) :
    ∃ u, udpServer.run (as.filterMap (project task)) = some u ∧ u.next = s.tasks task := by
  refine Lts.hist_inv (P := fun as s => ∃ u, udpServer.run (as.filterMap (project task)) = some u ∧
    u.next = s.tasks task) ?_ ?_ h
  · exact ⟨_, rfl, by simp [sockets, udpServer, htask]⟩
  · rintro as a s s' - ⟨u, hrun, hu⟩ hs
    rw [List.filterMap_append]
    cases hp : project task a with
    | none => exact ⟨u, by simpa [hp] using hrun, hu.trans (project_other hp hs).symm⟩
    | some b =>
      obtain ⟨u', hb, hu'⟩ := project_call hp hu hs
      refine ⟨u', ?_, hu'⟩
      have hlast : [a].filterMap (project task) = [b] := by simp [hp]
      rw [hlast]
      exact Lts.run_snoc.mpr ⟨u, hrun, hb⟩

/-- In the machine of all tasks, a server task still runs exactly when none of its own `socket` and
`bind` calls has failed. -/
theorem task_running_iff {as : List SocketEvent} (htask : enabled task = true)
    (h : (sockets enabled).run as = some s) :
    s.tasks task ≠ .deleted ↔ .socket task none ∉ as ∧ .bind task false ∉ as := by
  obtain ⟨u, hrun, hu⟩ := project_run htask h
  rw [← hu, running_iff hrun]
  simp only [List.mem_filterMap]
  constructor
  · intro hno
    refine ⟨fun hm => ?_, fun hm => ?_⟩
    · exact hno (.socket false) ⟨_, hm, by simp [project]⟩ rfl
    · exact hno (.bind false) ⟨_, hm, by simp [project]⟩ rfl
  · rintro ⟨hsocket, hbind⟩ b ⟨a, ha, hp⟩ hfatal
    cases a with
    | socket t fd =>
      obtain ⟨rfl, h⟩ := Option.ite_none_right_eq_some.mp hp
      cases h
      have hnone : fd = none := by simpa [UdpServerEvent.Fatal] using hfatal
      exact hsocket (hnone ▸ ha)
    | bind t ok =>
      obtain ⟨rfl, h⟩ := Option.ite_none_right_eq_some.mp hp
      cases h
      have hfalse : ok = false := hfatal
      exact hbind (hfalse ▸ ha)
    | recvfrom t result =>
      obtain ⟨rfl, h⟩ := Option.ite_none_right_eq_some.mp hp
      cases h
      exact hfatal
    | close t =>
      obtain ⟨rfl, h⟩ := Option.ite_none_right_eq_some.mp hp
      cases h
      exact hfatal
    | sendto i result => cases hp

end Project

end Powermeter
