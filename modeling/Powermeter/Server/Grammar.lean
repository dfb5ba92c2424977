import Powermeter.Server.Handoff

/-!
# The language of subscription requests

Which datagrams the receive loop accepts, as a grammar: `validate_request` with its
`strtol`, its end-pointer test and its four branches accepts exactly the numerals of
`Denotes` whose integer is a channel (`validateRequest_iff`). What is accepted is safe
to use: the channel survives the narrowing to `uint8_t` in `get_measurement`, which then
reads inside the array.
-/

namespace Powermeter

/-- The bytes of a datagram that `recvfrom` delivers, cut at the first NUL, are a numeral of the
channel `v`. -/
def Requests (availableChannels : UInt8) (payload : List UInt8) (v : Int) : Prop :=
  CStr.Denotes (CStr.cstr (payload.take 15)) v ∧ 1 ≤ v ∧ v ≤ availableChannels.toNat

/-- `get_measurement(requested_channel)` reads `measurements[requested_channel - 1]`, which is
an element. -/
def IndexesChannel (n : Nat) (requestedChannel : Int) : Prop :=
  ∃ i, ∃ hi : i < amountOfChannels n, requestedChannel = i + 1 ∧
    ∀ meter : Meter n, getMeasurement meter (toUInt8 requestedChannel) = .ok meter.measurements[i]

variable {α : Type} {availableChannels : UInt8}

/-! ## The verdict as a grammar -/

/-- A numeral of a channel is converted without saturation. -/
theorem strtol_channel {text : List UInt8} {v : Int} (h : CStr.Denotes text v) (h1 : 1 ≤ v)
    (hle : v ≤ availableChannels.toNat) :
    CStr.strtol longBits text = ⟨v, text.length, false⟩ := by
  have h256 := availableChannels.toNat_lt
  have hmin : ¬ v < -2 ^ (longBits - 1) := by simp only [longBits]; omega
  have hmax : ¬ (2 : Int) ^ (longBits - 1) - 1 < v := by simp only [longBits]; omega
  rw [CStr.strtol_denotes h, if_neg hmin, if_neg hmax]

/-- **`validate_request` decides the grammar**: it accepts the numerals of a channel, with white
space and a sign as `strtol` reads them, and nothing else. -/
theorem validateRequest_iff {text : List UInt8} :
    (validateRequest availableChannels text).accepted = true ↔
      ∃ v, CStr.Denotes text v ∧ 1 ≤ v ∧ v ≤ availableChannels.toNat := by
  rw [validateRequest_accepted]
  constructor
  · rintro ⟨h0, herange, hlen, h1, hle⟩
    obtain ⟨v, hv⟩ := CStr.denotes_of_strtol h0 hlen
    -- a saturated value would have set `errno`
    have hval : (CStr.strtol longBits text).value = v := by
      rw [CStr.strtol_denotes hv] at herange ⊢
      split at herange
      · cases herange
      · next hmin =>
        split at herange
        · cases herange
        · next hmax => rw [if_neg hmin, if_neg hmax]
    rw [hval] at h1 hle
    exact ⟨v, hv, h1, hle⟩
  · rintro ⟨v, hv, h1, hle⟩
    rw [strtol_channel hv h1 hle]
    exact ⟨hv.length_pos.ne', rfl, rfl, h1, hle⟩

/-! ## Requests -/

theorem requestOf_eq (d : Datagram α) :
    requestOf availableChannels d =
      if (validateRequest availableChannels (CStr.cstr (d.payload.take 15))).accepted then
        some ⟨(CStr.strtol longBits (CStr.cstr (d.payload.take 15))).value, d.sockaddr, d.socklen⟩
      else none :=
  rfl

theorem requestOf_requests {d : Datagram α} {v : Int}
    (h : Requests availableChannels d.payload v) :
    requestOf availableChannels d = some ⟨v, d.sockaddr, d.socklen⟩ := by
  obtain ⟨hv, h1, hle⟩ := h
  rw [requestOf_eq, if_pos (validateRequest_iff.mpr ⟨v, hv, h1, hle⟩), strtol_channel hv h1 hle]

theorem requestOf_none {d : Datagram α} (h : ¬ ∃ v, Requests availableChannels d.payload v) :
    requestOf availableChannels d = none := by
  rw [requestOf_eq, if_neg fun hacc => h (validateRequest_iff.mp hacc)]

/-- **An accepted channel is safe to use.** The number of channels is a `uint8_t`, so it never
exceeds the size of the array, whatever the configuration. -/
theorem indexesChannel {n : Nat} {v : Int} (h1 : 1 ≤ v)
    (hle : v ≤ (getAmountOfChannels n).toNat) : IndexesChannel n v := by
  have h256 := (getAmountOfChannels n).toNat_lt
  have hn : (getAmountOfChannels n).toNat ≤ amountOfChannels n := by
    unfold getAmountOfChannels
    rw [UInt8.toNat_ofNat']
    exact Nat.mod_le _ _
  obtain ⟨i, rfl⟩ : ∃ i : Nat, v = i + 1 := ⟨(v - 1).toNat, by omega⟩
  have hi : i < amountOfChannels n := by omega
  refine ⟨i, hi, rfl, fun meter => ?_⟩
  have hcast : toUInt8 (i + 1 : Int) = UInt8.ofNat (i + 1) := by
    apply UInt8.toNat_inj.mp
    have := toNat_toUInt8 (i + 1)
    push_cast at this
    rw [this, UInt8.toNat_ofNat']
  have hindex : ((toUInt8 (i + 1 : Int)).toNat : Int) - 1 = (i : Int) := by
    rw [hcast, UInt8.toNat_ofNat', Nat.mod_eq_of_lt (by omega)]
    omega
  unfold getMeasurement
  rw [hindex, load_ofNat hi]

/-! ## Runs -/

/-- The channels the server holds, in `new_client` and in its tasks, are channels there are. -/
structure ChannelsInRange (availableChannels : UInt8) (s : Server α) : Prop where
  slot : ∀ client, s.newClient = some client →
    1 ≤ client.requestedChannel ∧ client.requestedChannel ≤ availableChannels.toNat
  tasks : ∀ client, some client ∈ s.tasks →
    1 ≤ client.requestedChannel ∧ client.requestedChannel ≤ availableChannels.toNat

theorem channelsInRange_step {as : List (ServerEvent α)} {s s' : Server α} {a : ServerEvent α}
    (hI : HandoffInv availableChannels as s) (hR : ChannelsInRange availableChannels s)
    (hs : (handoff α availableChannels).step s a = some s') :
    ChannelsInRange availableChannels s' := by
  cases a with
  | recv d =>
    simp only [handoff, Option.some.injEq] at hs
    obtain ⟨rxBuffer, -, ⟨-, he⟩ | ⟨client, hr, he⟩⟩ := recv_cases availableChannels hI.buffer d
    · rw [he] at hs; subst hs
      exact ⟨hR.slot, hR.tasks⟩
    · rw [he] at hs; subst hs
      refine ⟨fun c hc => ?_, fun c hc => ?_⟩
      · cases hc
        exact requestOf_range hr
      · rcases List.mem_append.mp hc with hc | hc
        · exact hR.tasks c hc
        · simp at hc
  | start i =>
    obtain ⟨-, rfl⟩ := start_cases hs
    refine ⟨hR.slot, fun c hc => ?_⟩
    rcases List.mem_or_eq_of_mem_set hc with hc | hc
    · exact hR.tasks c hc
    · exact hR.slot c hc.symm

theorem channelsInRange {as : List (ServerEvent α)} {s : Server α}
    (h : (handoff α availableChannels).run as = some s) : ChannelsInRange availableChannels s := by
  refine Lts.hist_inv (P := fun _ s => ChannelsInRange availableChannels s) ?_ ?_ h
  · constructor
    · intro client hc
      cases hc
    · intro client hc
      cases hc
  · intro as a s s' hrun hR hs
    exact channelsInRange_step (handoffInv hrun) hR hs

theorem recv_step {as : List (ServerEvent α)} {s s' : Server α} {d : Datagram α}
    (h : (handoff α availableChannels).run as = some s)
    (hs : (handoff α availableChannels).step s (.recv d) = some s') :
    (∃ v, Requests availableChannels d.payload v ∧ s'.tasks = s.tasks ++ [none] ∧
      s'.newClient = some ⟨v, d.sockaddr, d.socklen⟩) ∨
    (¬ ∃ v, Requests availableChannels d.payload v) ∧ s'.tasks = s.tasks := by
  simp only [handoff, Option.some.injEq] at hs
  subst hs
  by_cases hv : ∃ v, Requests availableChannels d.payload v
  · obtain ⟨v, hv⟩ := hv
    refine .inl ⟨v, hv, ?_⟩
    obtain ⟨rxBuffer, -, ⟨hr, -⟩ | ⟨client, hr, he⟩⟩ :=
      recv_cases availableChannels (handoffInv h).buffer d
    · rw [requestOf_requests hv] at hr
      cases hr
    · rw [requestOf_requests hv] at hr
      cases hr
      rw [he]
      exact ⟨rfl, rfl⟩
  · refine .inr ⟨hv, ?_⟩
    obtain ⟨rxBuffer, -, ⟨-, he⟩ | ⟨client, hr, -⟩⟩ :=
      recv_cases availableChannels (handoffInv h).buffer d
    · rw [he]
    · rw [requestOf_none hv] at hr
      cases hr

/-- The task of a datagram is created for a request only, whatever came before. -/
theorem creates_iff {as : List (ServerEvent α)} {s s' : Server α} {d : Datagram α}
    (h : (handoff α availableChannels).run as = some s)
    (hs : (handoff α availableChannels).step s (.recv d) = some s') :
    s'.tasks = s.tasks ++ [none] ↔ ∃ v, Requests availableChannels d.payload v := by
  rcases recv_step h hs with ⟨v, hv, ht, -⟩ | ⟨hno, ht⟩
  · exact iff_of_true ht ⟨v, hv⟩
  · refine iff_of_false ?_ hno
    rw [ht, List.self_eq_append_right]
    nofun

/-- **The server accepts exactly the channel-request grammar**, and what it accepts is safe to use.
After any datagrams and task starts, a datagram gets a `serve_client` task if and only if its
first 15 bytes, cut at the first NUL, are a numeral of a channel `v`; then `new_client` holds
`v`. Numerals outside the range of `long` get none, the datagrams before play no part, and the
channel of `new_client` and those the tasks have copied index the array. -/
theorem recv_grammar {n : Nat} {as : List (ServerEvent α)} {s s' : Server α} {d : Datagram α}
    (h : (handoff α (getAmountOfChannels n)).run as = some s)
    (hs : (handoff α (getAmountOfChannels n)).step s (.recv d) = some s') :
    (s'.tasks = s.tasks ++ [none] ↔ ∃ v, Requests (getAmountOfChannels n) d.payload v) ∧
    (s'.tasks = s.tasks ↔ ¬ ∃ v, Requests (getAmountOfChannels n) d.payload v) ∧
    (∀ v, Requests (getAmountOfChannels n) d.payload v →
      s'.newClient = some ⟨v, d.sockaddr, d.socklen⟩) ∧
    (∀ v, CStr.Denotes (CStr.cstr (d.payload.take 15)) v → v < -2147483648 ∨ 2147483647 < v →
      s'.tasks = s.tasks) ∧
    (∀ as₂ s₂ s₂', (handoff α (getAmountOfChannels n)).run as₂ = some s₂ →
      (handoff α (getAmountOfChannels n)).step s₂ (.recv d) = some s₂' →
      (s₂'.tasks = s₂.tasks ++ [none] ↔ s'.tasks = s.tasks ++ [none])) ∧
    ∀ client, s'.newClient = some client ∨ some client ∈ s'.tasks →
      IndexesChannel n client.requestedChannel := by
  refine ⟨creates_iff h hs, ?_, ?_, ?_, fun as₂ s₂ s₂' h₂ hs₂ => ?_, ?_⟩
  · rcases recv_step h hs with ⟨v, hv, ht, -⟩ | ⟨hno, ht⟩
    · refine iff_of_false ?_ (not_not_intro ⟨v, hv⟩)
      rw [ht, List.append_right_eq_self]
      nofun
    · exact iff_of_true ht hno
  · intro v hv
    rcases recv_step h hs with ⟨v', hv', -, hslot⟩ | ⟨hno, -⟩
    · rw [hslot, hv.1.unique hv'.1]
    · exact absurd ⟨v, hv⟩ hno
  · intro v hv hout
    rcases recv_step h hs with ⟨v', ⟨hv', h1, hle⟩, -, -⟩ | ⟨-, ht⟩
    · have h256 := (getAmountOfChannels n).toNat_lt
      have := hv.unique hv'
      omega
    · exact ht
  · rw [creates_iff h₂ hs₂, creates_iff h hs]
  · intro client hclient
    have hrun : (handoff α (getAmountOfChannels n)).run (as ++ [.recv d]) = some s' :=
      Lts.run_snoc.mpr ⟨s, h, hs⟩
    have hR := channelsInRange hrun
    obtain ⟨h1, hle⟩ : 1 ≤ client.requestedChannel ∧
        client.requestedChannel ≤ (getAmountOfChannels n).toNat := by
      rcases hclient with hc | hc
      · exact hR.slot client hc
      · exact hR.tasks client hc
    exact indexesChannel h1 hle

/-- `" +05\0x"` is a request for channel 5, after a rejected `"7"`. -/
theorem recv_grammar_plus :
    ∃ s s', (handoff Unit 6).run [.recv ⟨[55], (), 16⟩] = some s ∧
      (handoff Unit 6).step s (.recv ⟨[32, 43, 48, 53, 0, 120], (), 16⟩) = some s' ∧
      s'.newClient = some ⟨5, (), 16⟩ := by
  have hws : ∀ c ∈ [32], CStr.isSpace c = true := List.all_eq_true.mp rfl
  have hds : ∀ c ∈ [48, 53], CStr.isDigit c = true := List.all_eq_true.mp rfl
  have hv : Requests 6 [32, 43, 48, 53, 0, 120] 5 :=
    ⟨.plus hws (by decide) hds, by decide, by decide⟩
  obtain ⟨s, h⟩ : ∃ s, (handoff Unit (getAmountOfChannels 2)).run [.recv ⟨[55], (), 16⟩] =
      some s := ⟨_, rfl⟩
  obtain ⟨s', hs⟩ : ∃ s', (handoff Unit (getAmountOfChannels 2)).step s
      (.recv ⟨[32, 43, 48, 53, 0, 120], (), 16⟩) = some s' := ⟨_, rfl⟩
  obtain ⟨-, -, hclient, -⟩ := recv_grammar h hs
  exact ⟨s, s', h, hs, hclient 5 hv⟩

end Powermeter
