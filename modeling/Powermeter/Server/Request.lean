import Powermeter.Lib.CStr
import Powermeter.Server.PowerMeasurement

/-!
# Subscription requests

`validate_request` and one round of the receive loop of `start_udp_server`, from
the datagram to the `client_info` that `serve_client` is started with. The receive
buffer is reused, so a round starts from the bytes of earlier datagrams;
`handleDatagram_eq` says they do not matter.
-/

namespace Powermeter

def receiveBufferSize : Nat := 16

/-- The width of `long` on the ESP32. -/
def longBits : Nat := 32

def toUInt8 (x : Int) : UInt8 := UInt8.ofNat (x % 256).toNat

theorem toNat_toUInt8 (m : Nat) : (toUInt8 m).toNat = m % 256 := by
  have h : ((m : Int) % 256).toNat = m % 256 := by omega
  unfold toUInt8
  rw [h]
  exact UInt8.toNat_ofNat_of_lt' (Nat.mod_lt _ (by decide))

/-- What `validate_request` returns, and the warning it logs. -/
structure Verdict where
  accepted : Bool
  warning : Option String
  deriving DecidableEq, Repr

/-- `validate_request` on the string in the buffer. -/
def validateRequest (availableChannels : UInt8) (receivedData : List UInt8) : Verdict :=
  let r := CStr.strtol longBits receivedData
  let atEnd := r.endptr == receivedData.length
  let invalid := "Client subscription request for channel '" ++ toString r.value ++
    "' is invalid - "
  if r.endptr = 0 then
    ⟨false, some (invalid ++ "no channel ID is present in the request!")⟩
  else if !r.erange && !atEnd then
    ⟨false, some (invalid ++ "channel ID must be purely numeric!")⟩
  else if r.value < 1 ∨ (availableChannels.toNat : Int) < r.value then
    ⟨false, some (invalid ++ "channel ID must be inside interval of 1 <= requested channel <= " ++
      toString availableChannels)⟩
  else if r.erange && r.value == 0 then
    ⟨false, some (invalid ++ "unexpected error occurred!")⟩
  else ⟨!r.erange && atEnd, none⟩

structure ClientInfo (α : Type) where
  requestedChannel : Int
  sockaddr : α
  socklen : Nat
  deriving DecidableEq, Repr

structure Datagram (α : Type) where
  payload : List UInt8
  sockaddr : α
  socklen : Nat
  deriving DecidableEq, Repr

/-- `recvfrom` into the reused buffer, and the NUL stored after the bytes received. -/
def receive (rxBuffer payload : List UInt8) : List UInt8 :=
  let data := payload.take (receiveBufferSize - 1)
  (data ++ rxBuffer.drop data.length).set data.length 0

/-- One round of the receive loop: the buffer it leaves, and the `client_info` of the
`serve_client` task it creates, if it creates one. -/
def handleDatagram {α : Type} (availableChannels : UInt8) (rxBuffer : List UInt8)
    (d : Datagram α) : List UInt8 × Option (ClientInfo α) :=
  let rxBuffer := receive rxBuffer d.payload
  let text := CStr.cstr rxBuffer
  if (validateRequest availableChannels text).accepted then
    let requestedChannel := (CStr.strtol longBits text).value
    (rxBuffer, some ⟨requestedChannel, d.sockaddr, d.socklen⟩)
  else (rxBuffer, none)

/-! ## The verdict -/

theorem validateRequest_accepted {availableChannels : UInt8} {receivedData : List UInt8} :
    (validateRequest availableChannels receivedData).accepted = true ↔
      (CStr.strtol longBits receivedData).endptr ≠ 0 ∧
      (CStr.strtol longBits receivedData).erange = false ∧
      (CStr.strtol longBits receivedData).endptr = receivedData.length ∧
      1 ≤ (CStr.strtol longBits receivedData).value ∧
      (CStr.strtol longBits receivedData).value ≤ availableChannels.toNat := by
  unfold validateRequest
  generalize CStr.strtol longBits receivedData = r
  dsimp only
  split
  · next h => simp [h]
  · next h1 =>
    split
    · next h2 =>
      simp only [Bool.and_eq_true, Bool.not_eq_true', beq_eq_false_iff_ne] at h2
      simp [h2.2]
    · next h2 =>
      split
      · next h3 => simp; omega
      · next h3 =>
        split
        · next h4 =>
          simp only [Bool.and_eq_true, beq_iff_eq] at h4
          simp [h4.1]
        · next h4 =>
          simp only [Bool.and_eq_true, Bool.not_eq_true', beq_iff_eq]
          constructor
          · rintro ⟨he, hl⟩
            exact ⟨h1, he, hl, by omega, by omega⟩
          · rintro ⟨_, he, hl, _, _⟩
            exact ⟨he, hl⟩

/-- An accepted channel is one of the channels there are. -/
theorem validateRequest_range {availableChannels : UInt8} {receivedData : List UInt8}
    (h : (validateRequest availableChannels receivedData).accepted = true) :
    1 ≤ (CStr.strtol longBits receivedData).value ∧
      (CStr.strtol longBits receivedData).value ≤ availableChannels.toNat :=
  (validateRequest_accepted.mp h).2.2.2

/-! ## One round of the receive loop -/

theorem receive_eq {rxBuffer : List UInt8} (h : rxBuffer.length = receiveBufferSize)
    (payload : List UInt8) :
    ∃ rest, receive rxBuffer payload = payload.take (receiveBufferSize - 1) ++ 0 :: rest := by
  have hlen : (payload.take (receiveBufferSize - 1)).length < rxBuffer.length := by
    rw [h, List.length_take]; simp only [receiveBufferSize]; omega
  unfold receive
  dsimp only
  generalize payload.take (receiveBufferSize - 1) = data at hlen ⊢
  rw [List.drop_eq_getElem_cons hlen, List.set_append_right _ _ (Nat.le_refl _), Nat.sub_self]
  exact ⟨_, rfl⟩

theorem receive_length {rxBuffer payload : List UInt8} (h : rxBuffer.length = receiveBufferSize) :
    (receive rxBuffer payload).length = receiveBufferSize := by
  simp only [receive, List.length_set, List.length_append, List.length_drop, List.length_take, h]
  simp only [receiveBufferSize]
  omega

theorem handleDatagram_length {α : Type} (availableChannels : UInt8) {rxBuffer : List UInt8}
    (h : rxBuffer.length = receiveBufferSize) (d : Datagram α) :
    (handleDatagram availableChannels rxBuffer d).1.length = receiveBufferSize := by
  unfold handleDatagram
  dsimp only
  split <;> exact receive_length h

/-- The request a datagram makes, whatever the buffer held before. -/
def requestOf {α : Type} (availableChannels : UInt8) (d : Datagram α) : Option (ClientInfo α) :=
  let text := CStr.cstr (d.payload.take (receiveBufferSize - 1))
  if (validateRequest availableChannels text).accepted then
    some ⟨(CStr.strtol longBits text).value, d.sockaddr, d.socklen⟩
  else none

/-- **A round of the loop depends on its own datagram only.** -/
theorem handleDatagram_eq {α : Type} (availableChannels : UInt8) {rxBuffer : List UInt8}
    (h : rxBuffer.length = receiveBufferSize) (d : Datagram α) :
    (handleDatagram availableChannels rxBuffer d).2 = requestOf availableChannels d := by
  obtain ⟨rest, hr⟩ := receive_eq h d.payload
  unfold handleDatagram requestOf
  simp only [hr, CStr.cstr_append_nul]
  split <;> rfl

theorem requestOf_range {α : Type} {availableChannels : UInt8} {d : Datagram α} {c : ClientInfo α}
    (h : requestOf availableChannels d = some c) :
    1 ≤ c.requestedChannel ∧ c.requestedChannel ≤ availableChannels.toNat := by
  unfold requestOf at h
  dsimp only at h
  split at h
  · next ha => cases h; exact validateRequest_range ha
  · cases h

end Powermeter
