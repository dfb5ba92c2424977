import Mathlib.Data.List.Chain
import Powermeter.Lib.Lts
import Powermeter.Message

/-!
# The receive loop of `udp_client`

`fetch_power_measurements` after its request, one step a round of the `while`, with the
calls it makes in a log. `read` returns an `ssize_t` that is kept in the `size_t`
`rx_data_len`, 64 bits wide here; SIGINT clears `listen_for_data` before or after the
test of a round. `power_measurement__unpack` is the parameter `unpack`, of the length
and the buffer: what it makes of a length beyond the buffer is undefined, and nothing is
assumed about it.
-/

namespace Powermeter

/-- `RECEIVE_BUFFER_SIZE` of the client. -/
def clientBufferSize : Nat := 1024

inductive ReadOutcome where
  | error
  | ok (bytes : List UInt8) (fits : bytes.length ≤ clientBufferSize)
  deriving DecidableEq

def ReadOutcome.result : ReadOutcome → Int
  | .error => -1
  | .ok bytes _ => bytes.length

def ReadOutcome.stored : ReadOutcome → List UInt8
  | .error => []
  | .ok bytes _ => bytes

def toSizeT (x : Int) : UInt64 := UInt64.ofNat (x % 18446744073709551616).toNat

/-- A call the loop makes, and the store to `latest_measurement`. -/
inductive ClientAction where
  | read (outcome : ReadOutcome)
  | unpack (len : UInt64)
  | store (measurement : PowerMeasurement)
  | shutdownSock
  | exitFailure
  deriving DecidableEq

inductive LoopStatus where
  | looping
  | returned
  | exited
  deriving DecidableEq, Repr

structure Receiver where
  listenForData : Bool
  rxBuffer : List UInt8
  latestMeasurement : PowerMeasurement
  status : LoopStatus
  log : List ClientAction
  deriving DecidableEq

/-- What the world does in a round: SIGINT before the test, the `read`, SIGINT after it. -/
structure Round where
  sigintBefore : Bool
  outcome : ReadOutcome
  sigintAfter : Bool
  deriving DecidableEq

section Loop

variable (unpack : UInt64 → List UInt8 → Option PowerMeasurement)

/-- The buffer after the `read` of a round. -/
def Receiver.received (s : Receiver) (r : Round) : List UInt8 :=
  r.outcome.stored ++ s.rxBuffer.drop r.outcome.stored.length

/-- One round of the `while`, with `shutdown_sock` after the last one. -/
def Receiver.round (s : Receiver) (r : Round) : Receiver :=
  if !(s.listenForData && !r.sigintBefore) then
    { s with
      listenForData := false
      status := .returned
      log := s.log ++ [.shutdownSock] }
  else
    let s := { s with listenForData := !r.sigintAfter, rxBuffer := s.received r }
    let rxDataLen := toSizeT r.outcome.result
    if rxDataLen < 0 then
      { s with
        status := .returned
        log := s.log ++ [.read r.outcome, .shutdownSock] }
    else
      match unpack rxDataLen s.rxBuffer with
      | none =>
        { s with
          status := .exited
          log := s.log ++ [.read r.outcome, .unpack rxDataLen, .exitFailure] }
      | some measurement =>
        { s with
          latestMeasurement := measurement
          log := s.log ++ [.read r.outcome, .unpack rxDataLen, .store measurement] }

/-- The loop on a buffer of any content. -/
def receiveLoop (rxBuffer : List UInt8) : Lts Receiver Round where
  init := ⟨true, rxBuffer, .zero, .looping, []⟩
  step s r := if s.status = .looping then some (s.round unpack r) else none

end Loop

def lastStored (log : List ClientAction) : PowerMeasurement :=
  (log.filterMap fun
    | .store measurement => some measurement
    | _ => none).getLast?.getD .zero

/-- The loop has been safe so far. -/
structure Receiver.Safe (s : Receiver) : Prop where
  /-- Only bytes that the `read` just before stored are decoded. -/
  decoded : ∀ pre len post, s.log = pre ++ .unpack len :: post →
    ∃ bytes fits, pre.getLast? = some (.read (.ok bytes fits)) ∧ len.toNat = bytes.length
  /-- After a failed `read` there is only the end of the loop. -/
  errorEnds : ∀ pre post, s.log = pre ++ .read .error :: post →
    post = [.shutdownSock] ∧ s.status = .returned
  latest : s.latestMeasurement = lastStored s.log
  shutsDown : s.status = .returned → s.log.getLast? = some .shutdownSock

/-- Ending the process shuts the socket down as well. -/
def Receiver.ExitShutsDown (s : Receiver) : Prop :=
  s.status = .exited → s.log.getLast? = some .shutdownSock

def Receiver.Reads (s : Receiver) (r : Round) : Prop :=
  s.listenForData = true ∧ r.sigintBefore = false

/-- The `read` of the round does not fail. -/
def NoReadError (s : Receiver) (r : Round) : Prop := s.Reads r → r.outcome ≠ .error

/-- What the round receives is a measurement. -/
def Decodes (unpack : UInt64 → List UInt8 → Option PowerMeasurement) (s : Receiver) (r : Round) :
    Prop :=
  s.Reads r → (unpack (toSizeT r.outcome.result) (s.received r)).isSome

/-! ## What a round does -/

section Rounds

variable {unpack : UInt64 → List UInt8 → Option PowerMeasurement}

theorem not_toSizeT_lt_zero (x : Int) : ¬ toSizeT x < 0 := by
  rw [UInt64.lt_iff_toNat_lt]
  exact Nat.not_lt_zero _

theorem toNat_toSizeT {n : Nat} (h : n ≤ clientBufferSize) : (toSizeT n).toNat = n := by
  unfold clientBufferSize at h
  unfold toSizeT
  have he : ((n : Int) % 18446744073709551616).toNat = n := by omega
  rw [he]
  exact UInt64.toNat_ofNat_of_lt' (by rw [UInt64.size]; omega)

/-- **What a round does**: it ends the loop before its `read`, ends the process after a failed
decode, or stores a measurement. It never takes the branch for a failed `read`. -/
theorem round_cases (unpack : UInt64 → List UInt8 → Option PowerMeasurement) (s : Receiver)
    (r : Round) :
    (¬ s.Reads r ∧ s.round unpack r =
      { s with
        listenForData := false
        status := .returned
        log := s.log ++ [.shutdownSock] }) ∨
    (s.Reads r ∧ unpack (toSizeT r.outcome.result) (s.received r) = none ∧ s.round unpack r =
      { s with
        listenForData := !r.sigintAfter
        rxBuffer := s.received r
        status := .exited
        log := s.log ++
          [.read r.outcome, .unpack (toSizeT r.outcome.result), .exitFailure] }) ∨
    ∃ m, s.Reads r ∧ unpack (toSizeT r.outcome.result) (s.received r) = some m ∧
      s.round unpack r =
      { s with
        listenForData := !r.sigintAfter
        rxBuffer := s.received r
        latestMeasurement := m
        log := s.log ++
          [.read r.outcome, .unpack (toSizeT r.outcome.result), .store m] } := by
  unfold Receiver.round
  by_cases hr : s.Reads r
  · obtain ⟨h1, h2⟩ := hr
    simp only [h1, h2, Bool.not_false, Bool.and_self, Bool.not_true, Bool.false_eq_true, if_false,
      if_neg (not_toSizeT_lt_zero _)]
    cases hu : unpack (toSizeT r.outcome.result) (s.received r) with
    | none => exact .inr (.inl ⟨⟨h1, h2⟩, rfl, rfl⟩)
    | some m => exact .inr (.inr ⟨m, ⟨h1, h2⟩, rfl, rfl⟩)
  · refine .inl ⟨hr, if_pos ?_⟩
    unfold Receiver.Reads at hr
    cases h1 : s.listenForData <;> cases h2 : r.sigintBefore <;> simp_all

end Rounds

/-! ## The log -/

/-- What the code lets follow an action: after a `read` its result is decoded, and nothing is
decoded otherwise. -/
def ClientAction.Next : ClientAction → ClientAction → Prop
  | .read outcome, b => b = .unpack (toSizeT outcome.result)
  | _, b => ∀ len, b ≠ .unpack len

structure WellLogged (log : List ClientAction) : Prop where
  chain : log.IsChain ClientAction.Next
  head : ∀ len, log.head? ≠ some (.unpack len)
  last : ∀ outcome, log.getLast? ≠ some (.read outcome)

namespace WellLogged

theorem nil : WellLogged [] := ⟨.nil, by simp, by simp⟩

theorem append {l b : List ClientAction} (hl : WellLogged l) (hb : WellLogged b) :
    WellLogged (l ++ b) := by
  refine ⟨List.isChain_append.mpr ⟨hl.chain, hb.chain, fun x hx y hy => ?_⟩,
    fun len => ?_, fun o => ?_⟩
  · have hy' : ∀ len, y ≠ .unpack len := by
      rintro len rfl; exact hb.head len hy
    cases x with
    | read o => exact absurd hx (hl.last o)
    | _ => exact hy'
  · cases l with
    | nil => exact hb.head len
    | cons a l => exact hl.head len
  · rcases List.eq_nil_or_concat b with rfl | ⟨b', z, rfl⟩
    · rw [List.append_nil]; exact hl.last o
    · have := hb.last o
      rw [List.concat_eq_append] at this ⊢
      rw [← List.append_assoc, List.getLast?_concat]
      rwa [List.getLast?_concat] at this

theorem shutdown : WellLogged [.shutdownSock] := ⟨.singleton _, by simp, by simp⟩

theorem decode (o : ReadOutcome) {z : ClientAction} (h1 : ∀ len, z ≠ .unpack len)
    (h2 : ∀ o, z ≠ .read o) : WellLogged [.read o, .unpack (toSizeT o.result), z] :=
  ⟨by simpa [ClientAction.Next] using h1, by simp, by simpa using h2⟩

/-- What is decoded is what the `read` just before returned. -/
theorem unpacked {log pre post : List ClientAction} {len : UInt64} (h : WellLogged log)
    (he : log = pre ++ .unpack len :: post) :
    ∃ o, pre.getLast? = some (.read o) ∧ len = toSizeT o.result := by
  subst he
  rcases List.eq_nil_or_concat pre with rfl | ⟨pre', a, rfl⟩
  · exact absurd rfl (h.head len)
  · rw [List.concat_eq_append, List.getLast?_concat]
    have hn : a.Next (.unpack len) := by
      have := (List.isChain_append.mp h.chain).2.2 a (by simp) (.unpack len) (by simp)
      exact this
    cases a with
    | read o => exact ⟨o, rfl, by injection hn⟩
    | _ => exact absurd rfl (hn len)

theorem read_unpacked {log pre post : List ClientAction} {o : ReadOutcome} (h : WellLogged log)
    (he : log = pre ++ .read o :: post) :
    ∃ rest, post = .unpack (toSizeT o.result) :: rest := by
  subst he
  cases post with
  | nil => exact absurd (by simp) (h.last o)
  | cons b rest =>
    have hn := (List.isChain_append.mp h.chain).2.1
    rw [List.isChain_cons_cons] at hn
    exact ⟨rest, by rw [hn.1]⟩

end WellLogged

/-! ## Runs -/

section Runs

variable {unpack : UInt64 → List UInt8 → Option PowerMeasurement} {rxBuffer : List UInt8}

theorem lastStored_append_store (log : List ClientAction) (a b : ClientAction)
    (m : PowerMeasurement) : lastStored (log ++ [a, b, .store m]) = m := by
  unfold lastStored
  rw [show log ++ [a, b, .store m] = (log ++ [a, b]) ++ [.store m] by simp, List.filterMap_append]
  simp [List.getLast?_append]

theorem lastStored_append {log b : List ClientAction} (h : ∀ m, .store m ∉ b) :
    lastStored (log ++ b) = lastStored log := by
  unfold lastStored
  have hb : (b.filterMap fun
      | .store measurement => some measurement
      | _ => none) = [] := by
    refine List.filterMap_eq_nil_iff.mpr fun a ha => ?_
    cases a with
    | store m => exact absurd ha (h m)
    | _ => rfl
  rw [List.filterMap_append, hb, List.append_nil]

/-- What holds in every state of the loop, whatever the reads return. -/
structure ReceiverInv (s : Receiver) : Prop where
  logged : WellLogged s.log
  latest : s.latestMeasurement = lastStored s.log
  returned : s.status = .returned → s.log.getLast? = some .shutdownSock
  exited : s.status = .exited → s.log.getLast? = some .exitFailure

theorem receiverInv_round {s : Receiver} (hI : ReceiverInv s) (hl : s.status = .looping)
    (r : Round) : ReceiverInv (s.round unpack r) := by
  rcases round_cases unpack s r with ⟨-, he⟩ | ⟨-, -, he⟩ | ⟨m, -, -, he⟩ <;> rw [he]
  · refine ⟨hI.logged.append .shutdown, ?_, by simp, nofun⟩
    rw [lastStored_append (by simp)]; exact hI.latest
  · refine ⟨hI.logged.append (.decode _ (by simp) (by simp)), ?_, nofun, by simp⟩
    rw [lastStored_append (by simp)]; exact hI.latest
  · refine ⟨hI.logged.append (.decode _ (by simp) (by simp)), ?_, ?_, ?_⟩
    · rw [lastStored_append_store]
    · rw [hl]; exact nofun
    · rw [hl]; exact nofun

theorem receiveLoop_step {s s' : Receiver} {r : Round} :
    (receiveLoop unpack rxBuffer).step s r = some s' ↔
      s.status = .looping ∧ s.round unpack r = s' := by
  simp only [receiveLoop, Option.ite_none_right_eq_some, Option.some.injEq]

theorem receiverInv {rounds : List Round} {s : Receiver}
    (h : (receiveLoop unpack rxBuffer).run rounds = some s) : ReceiverInv s := by
  refine Lts.inv (P := ReceiverInv) ⟨.nil, rfl, ?_, ?_⟩ (fun s r s' hI hs => ?_) h
  · simp [receiveLoop]
  · simp [receiveLoop]
  obtain ⟨hl, rfl⟩ := receiveLoop_step.mp hs
  exact receiverInv_round hI hl r

theorem safe_iff {s : Receiver} (hI : ReceiverInv s) :
    s.Safe ↔ .read .error ∉ s.log := by
  refine ⟨fun hs hin => ?_, ?_⟩
  · obtain ⟨pre, post, he⟩ := List.append_of_mem hin
    obtain ⟨rest, hp⟩ := hI.logged.read_unpacked he
    obtain ⟨hend, -⟩ := hs.errorEnds pre post he
    rw [hp] at hend
    cases hend
  · intro hno
    refine ⟨fun pre len post he => ?_, fun pre post he => ?_, hI.latest, hI.returned⟩
    · obtain ⟨o, hlast, rfl⟩ := hI.logged.unpacked he
      have hin : .read o ∈ s.log := by
        rw [he]; exact List.mem_append_left _ (List.mem_of_getLast? hlast)
      cases o with
      | error => exact absurd hin hno
      | ok bytes fits => exact ⟨bytes, fits, hlast, toNat_toSizeT fits⟩
    · exact absurd (he ▸ by simp) hno

theorem safe_exit_iff {s : Receiver} (hI : ReceiverInv s) :
    s.Safe ∧ s.ExitShutsDown ↔ .read .error ∉ s.log ∧ s.status ≠ .exited := by
  rw [safe_iff hI]
  refine and_congr_right fun _ => ⟨fun hsd he => ?_, fun hne he => absurd he hne⟩
  have hlast := hsd he
  rw [hI.exited he] at hlast
  cases hlast

theorem error_mem_round {s : Receiver} (r : Round) :
    .read .error ∈ (s.round unpack r).log ↔ .read .error ∈ s.log ∨ ¬ NoReadError s r := by
  have hno : ¬ NoReadError s r ↔ s.Reads r ∧ r.outcome = .error := by
    unfold NoReadError
    rw [Classical.not_imp, not_not]
  rw [hno]
  rcases round_cases unpack s r with ⟨hr, he⟩ | ⟨hr, -, he⟩ | ⟨m, hr, -, he⟩ <;>
    simp [he, hr, eq_comm]

theorem exited_round {s : Receiver} (hl : s.status = .looping) (r : Round) :
    (s.round unpack r).status = .exited ↔ ¬ Decodes unpack s r := by
  unfold Decodes
  rcases round_cases unpack s r with ⟨hr, he⟩ | ⟨hr, hu, he⟩ | ⟨m, hr, hu, he⟩ <;>
    simp [*]

theorem error_mem_run {rounds : List Round} {s : Receiver}
    (h : (receiveLoop unpack rxBuffer).run rounds = some s) :
    .read .error ∉ s.log ↔
      (receiveLoop unpack rxBuffer).EachStep (fun _ s r => NoReadError s r) rounds := by
  refine Lts.iff_eachStep (P := fun s => .read .error ∉ s.log) ?_ (fun _ r s s' _ hs => ?_) h
  · simp [receiveLoop]
  · obtain ⟨-, rfl⟩ := receiveLoop_step.mp hs
    rw [error_mem_round, not_or, not_not]

theorem exited_run {rounds : List Round} {s : Receiver}
    (h : (receiveLoop unpack rxBuffer).run rounds = some s) :
    s.status ≠ .exited ↔
      (receiveLoop unpack rxBuffer).EachStep (fun _ s r => Decodes unpack s r) rounds := by
  refine Lts.iff_eachStep (P := fun s => s.status ≠ .exited) ?_ (fun _ r s s' _ hs => ?_) h
  · simp [receiveLoop]
  · obtain ⟨hl, rfl⟩ := receiveLoop_step.mp hs
    rw [ne_eq, exited_round hl, not_not]
    simp [hl]

/-- **The loop is safe exactly when no `read` it makes fails**: in a run of rounds, nothing but
what was read is decoded, a failed `read` ends the loop, and the end of the loop shuts the socket
down, if and only if no `read` returns −1; and where ending the process after a failed decode
counts as an end of the loop, if and only if moreover everything received decodes. -/
theorem receive_safe_iff {rounds : List Round} {s : Receiver}
    (h : (receiveLoop unpack rxBuffer).run rounds = some s) :
    ((receiveLoop unpack rxBuffer).Throughout Receiver.Safe rounds ↔
      (receiveLoop unpack rxBuffer).EachStep (fun _ s r => NoReadError s r) rounds) ∧
    ((receiveLoop unpack rxBuffer).Throughout (fun s => s.Safe ∧ s.ExitShutsDown) rounds ↔
      (receiveLoop unpack rxBuffer).EachStep
        (fun _ s r => NoReadError s r ∧ Decodes unpack s r) rounds) := by
  constructor
  · refine Lts.throughout_iff_eachStep (fun hs => ?_) h
    rw [safe_iff (receiverInv hs), error_mem_run hs]
  · refine Lts.throughout_iff_eachStep (P := fun s => s.Safe ∧ s.ExitShutsDown) (fun hs => ?_) h
    rw [safe_exit_iff (receiverInv hs), error_mem_run hs, exited_run hs, Lts.eachStep_and]

end Runs

/-- Decodes a message that has no field but a time stamp of one byte. -/
def unpackTimestamp (len : UInt64) (buf : List UInt8) : Option PowerMeasurement :=
  if len.toNat ≤ buf.length then
    match buf.take len.toNat with
    | [] => some .init
    | [8, b] =>
      if b < 128 then some { PowerMeasurement.init with timestamp := b.toUInt64 } else none
    | _ => none
  else none

def timestamp5 : PowerMeasurement := { PowerMeasurement.init with timestamp := 5 }

/-- SIGINT while a measurement is received: it is stored, and the loop ends at the next test. -/
theorem receive_safe_sigint :
    (receiveLoop unpackTimestamp []).Throughout Receiver.Safe
        [⟨false, .ok [8, 5] (by decide), true⟩, ⟨false, .error, false⟩] ∧
      ((receiveLoop unpackTimestamp []).run
        [⟨false, .ok [8, 5] (by decide), true⟩, ⟨false, .error, false⟩]).map
        (fun s => (s.latestMeasurement, s.status)) = some (timestamp5, .returned) :=
  ⟨(receive_safe_iff (s := ⟨false, [8, 5], timestamp5, .returned,
    [.read (.ok [8, 5] (by decide)), .unpack 2, .store timestamp5, .shutdownSock]⟩)
      (by decide)).1.mpr
    (EachAction.cons.mpr ⟨fun s _ _ => nofun, EachAction.cons.mpr ⟨fun s hs hr => by
      -- SIGINT has cleared the flag, so the second round does not read
      cases hs
      exact absurd hr.1 nofun, .nil⟩⟩), by decide⟩

/-- A `read` that SIGINT interrupts is decoded as 2^64 − 1 bytes. -/
theorem receive_decodes_error :
    ¬ (receiveLoop unpackTimestamp []).Throughout Receiver.Safe [⟨false, .error, true⟩] := by
  intro hall
  have hs := hall.last (s := ⟨false, [], .zero, .exited,
    [.read .error, .unpack 18446744073709551615, .exitFailure]⟩) (by decide)
  obtain ⟨bytes, fits, hlast, -⟩ := hs.decoded [.read .error] _ [.exitFailure] rfl
  cases hlast

end Powermeter
