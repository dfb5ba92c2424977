import Powermeter.Server.Request

/-!
# The subscription of `udp_client`

`main` of `udp_client.c` up to the request `fetch_power_measurements` sends: the three
ways to give the server address, the port and the channel, their conversion to
`uint16_t` and `uint8_t`, and the request the server gets. `w` is the width of `long` and
`unsigned long` on the client. The configuration file is read by libconfuse, here the
parameter `lib`; `CfgSpec` is what the library documents.
-/

namespace Powermeter

open CStr

/-- Why `udp_client` ends before it subscribes. All print a message but the last, where `strcpy`
reads from `NULL`. -/
inductive ExitReason where
  | nodeNameNotSet
  | fileDoesNotExist
  | parseError
  | noConfigurationForNode
  | envNotSet
  | wrongUsage
  | sigactionFailed
  | addressInvalid
  | socketFailed
  | connectFailed
  | serverNotSet
  deriving DecidableEq, Repr

/-- A `node` section of the configuration file as written: its title, and its options with the
text assigned to each. -/
structure NodeSection where
  title : List UInt8
  options : List (String × List UInt8)
  deriving DecidableEq, Repr

/-- What `udp_client` finds outside itself: the environment variables (the configuration
path with the file it names, `none` when there is none), and whether its system calls
succeed. -/
structure Host where
  configFile : Option (Option (List NodeSection))
  nodename : Option (List UInt8)
  serverIp : Option (List UInt8)
  serverPort : Option (List UInt8)
  channel : Option (List UInt8)
  sigaction : Bool
  inetPton : Bool
  socket : Bool
  connect : Bool
  deriving DecidableEq, Repr

def toUInt16 (x : Int) : UInt16 := UInt16.ofNat (x % 65536).toNat

structure FetchArgs where
  serverIp : List UInt8
  port : UInt16
  requestedChannel : UInt8
  deriving DecidableEq, Repr

structure Subscription where
  serverIp : List UInt8
  port : UInt16
  payload : List UInt8
  deriving DecidableEq, Repr

def configFileNodeSectionId : String := "node"
def configFilePowermeterServerId : String := "powermeter_server"
def configFilePowermeterPortId : String := "powermeter_port"
def configFileChannelId : String := "channel"

inductive CfgResult where
  | success
  | fileError
  | parseError
  deriving DecidableEq, Repr

/-- The calls of libconfuse on the options declared in `load_configuration`; `Full` is the `cfg_t`
of the file, `Node` that of a section. -/
structure Libconfuse (Full Node : Type) where
  cfgParse : List NodeSection → CfgResult × Full
  cfgSize : Full → String → Nat
  cfgGetnsec : Full → String → Nat → Node
  cfgTitle : Node → List UInt8
  cfgGetstr : Node → String → Option (List UInt8)
  cfgGetint : Node → String → Int

section Main

variable {Full Node : Type} (w : Nat) (lib : Libconfuse Full Node)

/-- What the loop of `load_configuration` goes over. -/
def nodeSections (fullCfg : Full) : List Node :=
  (List.range (lib.cfgSize fullCfg configFileNodeSectionId)).map
    (lib.cfgGetnsec fullCfg configFileNodeSectionId)

def loadConfiguration (configFile : Option (List NodeSection)) (nodeId : List UInt8) :
    Except ExitReason Node :=
  match configFile with
  | none => .error .fileDoesNotExist
  | some file =>
    -- a `CFG_FILE_ERROR` is not looked at
    if (lib.cfgParse file).1 = .parseError then .error .parseError
    else
      match (nodeSections lib (lib.cfgParse file).2).find? (lib.cfgTitle · == nodeId) with
      | some nodeCfg => .ok nodeCfg
      | none => .error .noConfigurationForNode

/-- The server, port and channel of `main`. -/
def clientParams (host : Host) (argv : List (List UInt8)) : Except ExitReason FetchArgs :=
  match host.configFile with
  | some configFile =>
    match host.nodename with
    | none => .error .nodeNameNotSet
    | some nodeId =>
      match loadConfiguration lib configFile nodeId with
      | .error e => .error e
      | .ok cfg =>
        match lib.cfgGetstr cfg configFilePowermeterServerId with
        | none => .error .serverNotSet
        | some ip =>
          .ok ⟨ip, toUInt16 (lib.cfgGetint cfg configFilePowermeterPortId),
            toUInt8 (lib.cfgGetint cfg configFileChannelId)⟩
  | none =>
    match argv with
    | [_] =>
      match host.serverIp, host.serverPort, host.channel with
      | some ip, some port, some channel =>
        .ok ⟨ip, toUInt16 (strtoul w port).value, toUInt8 (strtoul w channel).value⟩
      | _, _, _ => .error .envNotSet
    | [_, ip, port, channel] =>
      .ok ⟨ip, toUInt16 (strtoul w port).value, toUInt8 (strtoul w channel).value⟩
    | _ => .error .wrongUsage

/-- `fetch_power_measurements` up to its `send`: the channel in decimal, with its NUL. -/
def fetchRequest (host : Host) (args : FetchArgs) : Except ExitReason Subscription :=
  if !host.inetPton then .error .addressInvalid
  else if !host.socket then .error .socketFailed
  else if !host.connect then .error .connectFailed
  else .ok ⟨args.serverIp, args.port, decimal args.requestedChannel.toNat ++ [0]⟩

/-- `main` up to the request. -/
def subscribe (host : Host) (argv : List (List UInt8)) : Except ExitReason Subscription :=
  match clientParams w lib host argv with
  | .error e => .error e
  | .ok args => if host.sigaction then fetchRequest host args else .error .sigactionFailed

end Main

/-- The channel the server's `get_measurement` is called with for a request, if the server
accepts it. -/
def streamedChannel (availableChannels : UInt8) (sub : Subscription) : Option UInt8 :=
  (requestOf availableChannels (⟨sub.payload, (), 16⟩ : Datagram Unit)).map fun client =>
    toUInt8 client.requestedChannel

/-! ## Starting with a channel and a port -/

/-- The section that counts for a title: of several, the last one. -/
def lastTitled (file : List NodeSection) (title : List UInt8) : Option NodeSection :=
  file.reverse.find? (·.title == title)

/-- The text of an option: of several, the last one. -/
def NodeSection.option (node : NodeSection) (name : String) : Option (List UInt8) :=
  (node.options.reverse.find? (·.1 == name)).map (·.2)

/-- What libconfuse documents of `node` sections with a title (`CFGF_TITLE | CFGF_MULTI`): a later
section takes the place of an earlier one of its title, an integer is a `long` or the file has a
parse error, and a list of strings that is not written is empty. -/
structure CfgSpec {Full Node : Type} (w : Nat) (lib : Libconfuse Full Node) : Prop where
  fileError : ∀ {file fullCfg}, lib.cfgParse file = (.fileError, fullCfg) →
    lib.cfgSize fullCfg configFileNodeSectionId = 0
  title : ∀ {file fullCfg}, lib.cfgParse file = (.success, fullCfg) → ∀ node ∈ file,
    ∃ cfg ∈ nodeSections lib fullCfg, lib.cfgTitle cfg = node.title
  getint : ∀ {file fullCfg}, lib.cfgParse file = (.success, fullCfg) →
    ∀ cfg ∈ nodeSections lib fullCfg, ∀ {node name k},
      lastTitled file (lib.cfgTitle cfg) = some node →
      name ∈ [configFilePowermeterPortId, configFileChannelId] →
      node.option name = some (decimal k) → k < 2 ^ (w - 1) ∧ lib.cfgGetint cfg name = k
  getstr : ∀ {file fullCfg}, lib.cfgParse file = (.success, fullCfg) →
    ∀ cfg ∈ nodeSections lib fullCfg, ∀ {node},
      lastTitled file (lib.cfgTitle cfg) = some node →
      lib.cfgGetstr cfg configFilePowermeterServerId = node.option configFilePowermeterServerId

/-- The three ways to start `udp_client` with channel `k` and port `p`. -/
inductive StartsWith (host : Host) (argv : List (List UInt8)) (k p : Nat) : Prop where
  | configFile {file : List NodeSection} {node : NodeSection} {nodeId : List UInt8}
      (path : host.configFile = some (some file)) (name : host.nodename = some nodeId)
      (found : lastTitled file nodeId = some node)
      (port : node.option configFilePowermeterPortId = some (decimal p))
      (channel : node.option configFileChannelId = some (decimal k))
  | environment {prog : List UInt8} (path : host.configFile = none) (args : argv = [prog])
      (port : host.serverPort = some (decimal p)) (channel : host.channel = some (decimal k))
  | arguments {prog ip : List UInt8} (path : host.configFile = none)
      (args : argv = [prog, ip, decimal p, decimal k])

/-- The rest of the configuration is there: the file is parsed without an error, and it or the
environment has the server's address. -/
def ParamsComplete {Full Node : Type} (lib : Libconfuse Full Node) (host : Host)
    (argv : List (List UInt8)) : Prop :=
  match host.configFile with
  | some (some file) =>
    (lib.cfgParse file).1 = .success ∧ ∃ nodeId node, host.nodename = some nodeId ∧
      lastTitled file nodeId = some node ∧ (node.option configFilePowermeterServerId).isSome
  | some none => False
  | none => argv.length = 1 → host.serverIp.isSome

/-- Everything else `main` needs is there, and the system calls succeed. -/
def Completes {Full Node : Type} (lib : Libconfuse Full Node) (host : Host)
    (argv : List (List UInt8)) : Prop :=
  ParamsComplete lib host argv ∧
  host.sigaction = true ∧ host.inetPton = true ∧ host.socket = true ∧ host.connect = true

/-- What the channel number becomes: `strtoul` cuts it at `ULONG_MAX`, the conversion to
`uint8_t` keeps its low byte. -/
def reducedChannel (w k : Nat) : Nat := min k (2 ^ w - 1) % 256

/-- The client exits, the server rejects the request, or the client contacts port `p` and the
server streams channel `k`, which exists. -/
def Agrees (availableChannels : UInt8) (k p : Nat) : Except ExitReason Subscription → Prop
  | .error _ => True
  | .ok sub =>
    match streamedChannel availableChannels sub with
    | none => True
    | some channel =>
      sub.port.toNat = p ∧ channel.toNat = k ∧ 1 ≤ k ∧ k ≤ availableChannels.toNat

/-! ## The request on the wire -/

theorem toNat_toUInt16 (m : Nat) : (toUInt16 m).toNat = m % 65536 := by
  have h : ((m : Int) % 65536).toNat = m % 65536 := by omega
  unfold toUInt16
  rw [h]
  exact UInt16.toNat_ofNat_of_lt' (Nat.mod_lt _ (by decide))

theorem decimal_length {c : Nat} (h : c < 256) : (decimal c).length ≤ 3 := by
  unfold decimal
  split
  · simp
  · rw [List.length_map, List.length_reverse]
    exact (Nat.digits_length_le_iff (by decide) c).mpr (by omega)

/-- **The server reads back the channel the client encoded.** -/
theorem streamedChannel_decimal {availableChannels : UInt8} {c : Nat} (h : c < 256)
    (ip : List UInt8) (port : UInt16) :
    streamedChannel availableChannels ⟨ip, port, decimal c ++ [0]⟩ =
      if 1 ≤ c ∧ c ≤ availableChannels.toNat then some (toUInt8 c) else none := by
  have hlen := decimal_length h
  have htake : (decimal c ++ [0]).take (receiveBufferSize - 1) = decimal c ++ [0] :=
    List.take_of_length_le (by simp [receiveBufferSize]; omega)
  have hr : strtol longBits (decimal c) = ⟨c, (decimal c).length, false⟩ := by
    have hmax : (2 : Int) ^ (longBits - 1) - 1 = 2147483647 := rfl
    rw [strtol_decimal, hmax, min_eq_left (by omega), decide_eq_false (by omega)]
  have hv : (validateRequest availableChannels (decimal c)).accepted = true ↔
      1 ≤ c ∧ c ≤ availableChannels.toNat := by
    rw [validateRequest_accepted, hr]
    simp [decimal_ne_nil]
  unfold streamedChannel requestOf
  simp only [htake, cstr_append_nul_self decimal_no_nul, hv, hr]
  split <;> rfl

/-! ## What the client sends -/

section Sends

variable {Full Node : Type} {w : Nat} {lib : Libconfuse Full Node}

theorem lastTitled_mem {file : List NodeSection} {title : List UInt8} {node : NodeSection}
    (h : lastTitled file title = some node) : node ∈ file ∧ node.title = title :=
  ⟨List.mem_reverse.mp (List.mem_of_find?_eq_some h), by simpa using List.find?_some h⟩

/-- **What `load_configuration` returns** for a title that is written: an error if the file could
not be parsed, else a section of that title. -/
theorem loadConfiguration_cases (hcfg : CfgSpec w lib) {file : List NodeSection}
    {nodeId : List UInt8} {node : NodeSection} (h : lastTitled file nodeId = some node) :
    ((lib.cfgParse file).1 ≠ .success ∧ ∃ e, loadConfiguration lib (some file) nodeId = .error e) ∨
    ∃ fullCfg cfg, lib.cfgParse file = (.success, fullCfg) ∧ cfg ∈ nodeSections lib fullCfg ∧
      lib.cfgTitle cfg = nodeId ∧ loadConfiguration lib (some file) nodeId = .ok cfg := by
  rcases hp : lib.cfgParse file with ⟨result, fullCfg⟩
  cases result with
  | parseError => exact .inl ⟨by simp, .parseError, by simp [loadConfiguration, hp]⟩
  | fileError =>
    -- nothing was read, so the loop finds nothing
    have hnone : nodeSections lib fullCfg = [] := by simp [nodeSections, hcfg.fileError hp]
    exact .inl ⟨by simp, .noConfigurationForNode, by simp [loadConfiguration, hp, hnone]⟩
  | success =>
    obtain ⟨hmem, htitle⟩ := lastTitled_mem h
    obtain ⟨cfg, hcfgs, hct⟩ := hcfg.title hp node hmem
    cases hfind : (nodeSections lib fullCfg).find? (lib.cfgTitle · == nodeId) with
    | none =>
      have := List.find?_eq_none.mp hfind cfg hcfgs
      simp [hct, htitle] at this
    | some cfg' =>
      exact .inr ⟨fullCfg, cfg', rfl, List.mem_of_find?_eq_some hfind,
        by simpa using List.find?_some hfind, by simp [loadConfiguration, hp, hfind]⟩

/-- The parameters of a client that was given `k` and `p`, in all three ways: none if the rest
is incomplete, else the two numbers cut and narrowed. -/
theorem clientParams_cases (hcfg : CfgSpec w lib) {host : Host} {argv : List (List UInt8)}
    {k p : Nat} (h : StartsWith host argv k p) :
    (∃ ip, clientParams w lib host argv =
      .ok ⟨ip, toUInt16 (min p (2 ^ w - 1) : Nat), toUInt8 (min k (2 ^ w - 1) : Nat)⟩ ∧
      ParamsComplete lib host argv) ∨
    (∃ e, clientParams w lib host argv = .error e) ∧ ¬ ParamsComplete lib host argv := by
  unfold ParamsComplete
  cases h with
  | @configFile file node nodeId path name found port channel =>
    simp only [clientParams, path, name]
    rcases loadConfiguration_cases hcfg found with
      ⟨hbad, e, hload⟩ | ⟨fullCfg, cfg, hp, hmem, htitle, hload⟩
    · exact .inr ⟨⟨e, by rw [hload]⟩, fun h => hbad h.1⟩
    · rw [← htitle] at found
      have hstr := hcfg.getstr hp cfg hmem found
      -- every integer of the file fits a `long`, so `ULONG_MAX` does not cut it
      have ⟨hk, hgetk⟩ := hcfg.getint hp cfg hmem found (by simp) channel
      have ⟨hp', hgetp⟩ := hcfg.getint hp cfg hmem found (by simp) port
      have hpow : 2 ^ (w - 1) ≤ 2 ^ w := Nat.pow_le_pow_right (by decide) (Nat.sub_le _ _)
      rw [Nat.min_eq_left (by omega), Nat.min_eq_left (by omega)]
      simp only [hload, hstr, hgetk, hgetp, hp, Option.some.injEq]
      rw [htitle] at found
      cases hip : node.option configFilePowermeterServerId with
      | none =>
        refine .inr ⟨⟨_, rfl⟩, ?_⟩
        rintro ⟨-, _, node', rfl, hnode, hsome⟩
        rw [found] at hnode
        cases hnode
        simp [hip] at hsome
      | some ip => exact .inl ⟨ip, rfl, trivial, nodeId, node, rfl, found, by simp [hip]⟩
  | environment path args port channel =>
    subst args
    simp only [clientParams, path, port, channel, List.length_singleton, forall_const]
    cases host.serverIp with
    | none => exact .inr ⟨⟨_, rfl⟩, by simp⟩
    | some ip => exact .inl ⟨ip, by simp only [strtoul_decimal], rfl⟩
  | @arguments prog ip path args =>
    subst args
    simp only [clientParams, path, strtoul_decimal]
    exact .inl ⟨ip, rfl, by simp⟩

theorem fetchRequest_cases (host : Host) (args : FetchArgs) :
    (fetchRequest host args =
        .ok ⟨args.serverIp, args.port, decimal args.requestedChannel.toNat ++ [0]⟩ ∧
      host.inetPton = true ∧ host.socket = true ∧ host.connect = true) ∨
    (∃ e, fetchRequest host args = .error e) ∧
      ¬ (host.inetPton = true ∧ host.socket = true ∧ host.connect = true) := by
  unfold fetchRequest
  cases host.inetPton <;> cases host.socket <;> cases host.connect <;> simp

/-- **What the client sends**: nothing if the rest is incomplete, else the reduced channel to the
reduced port. -/
theorem subscribe_cases (hcfg : CfgSpec w lib) {host : Host} {argv : List (List UInt8)}
    {k p : Nat} (h : StartsWith host argv k p) :
    (Completes lib host argv ∧ ∃ sub, subscribe w lib host argv = .ok sub ∧
      sub.port.toNat = min p (2 ^ w - 1) % 65536 ∧
      sub.payload = decimal (reducedChannel w k) ++ [0]) ∨
    ¬ Completes lib host argv ∧ ∃ e, subscribe w lib host argv = .error e := by
  unfold subscribe Completes
  rcases clientParams_cases hcfg h with ⟨ip, hp, hrest⟩ | ⟨⟨e, hp⟩, hrest⟩
  · simp only [hp]
    cases hsig : host.sigaction with
    | false => exact .inr ⟨by simp, _, rfl⟩
    | true =>
      simp only [if_true]
      rcases fetchRequest_cases host ⟨ip, toUInt16 (min p (2 ^ w - 1) : Nat),
        toUInt8 (min k (2 ^ w - 1) : Nat)⟩ with ⟨hf, hos⟩ | ⟨⟨e, hf⟩, hos⟩
      · refine .inl ⟨⟨hrest, trivial, hos⟩, _, hf, toNat_toUInt16 _, ?_⟩
        rw [toNat_toUInt8]; rfl
      · exact .inr ⟨fun hall => hos hall.2.2, e, hf⟩
  · simp only [hp]
    exact .inr ⟨fun hall => hrest hall.1, e, rfl⟩

/-- **Client and server agree exactly on the channels and ports that fit**: when the start-up is
complete and the reduced channel is one the server has, the server streams the channel written
and the client contacts the port written if and only if the channel is at most 255 and the port
at most 65535. -/
theorem agrees_iff (hw : 32 ≤ w) (hcfg : CfgSpec w lib) {availableChannels : UInt8}
    {host : Host} {argv : List (List UInt8)} {k p : Nat} (h : StartsWith host argv k p) :
    Agrees availableChannels k p (subscribe w lib host argv) ↔
      (Completes lib host argv → 1 ≤ reducedChannel w k →
        reducedChannel w k ≤ availableChannels.toNat → k ≤ 255 ∧ p ≤ 65535) := by
  have hpow : 2 ^ 32 ≤ 2 ^ w := Nat.pow_le_pow_right (by decide) hw
  rcases subscribe_cases hcfg h with ⟨hall, ⟨ip, port, payload⟩, hs, hport, hpay⟩ | ⟨hall, e, hs⟩
  · simp only at hport hpay
    subst hpay
    have hred : reducedChannel w k < 256 := Nat.mod_lt _ (by decide)
    simp only [hs, Agrees, streamedChannel_decimal hred]
    by_cases hin : 1 ≤ reducedChannel w k ∧ reducedChannel w k ≤ availableChannels.toNat
    · have hk : (toUInt8 (reducedChannel w k : Nat)).toNat = reducedChannel w k := by
        rw [toNat_toUInt8, Nat.mod_eq_of_lt hred]
      rw [if_pos hin]
      show port.toNat = p ∧ (toUInt8 (reducedChannel w k : Nat)).toNat = k ∧ 1 ≤ k ∧
        k ≤ availableChannels.toNat ↔ _
      rw [hk, hport]
      refine ⟨fun ⟨h1, h2, _⟩ _ _ _ => ?_, fun hfits => ?_⟩
      · have := Nat.mod_lt (min p (2 ^ w - 1)) (show 65536 > 0 by decide)
        omega
      · obtain ⟨hk255, hp65535⟩ := hfits hall hin.1 hin.2
        -- numbers this small are neither cut nor narrowed
        have hred' : reducedChannel w k = k := by
          rw [reducedChannel, Nat.min_eq_left (by omega), Nat.mod_eq_of_lt (by omega)]
        rw [hred'] at hin ⊢
        rw [Nat.min_eq_left (by omega), Nat.mod_eq_of_lt (by omega)]
        exact ⟨rfl, rfl, hin⟩
    · simp only [if_neg hin, true_iff]
      intro _ h1 h2
      exact absurd ⟨h1, h2⟩ hin
  · simp [hs, Agrees, hall]

end Sends

def plainHost : Host := ⟨none, none, none, none, none, true, true, true, true⟩

/-! ## A reader of configuration files -/

section Reader

/-- A section that was read; `none` is an empty list of servers. -/
structure NodeCfg where
  title : List UInt8
  powermeterServer : Option (List UInt8)
  powermeterPort : Int
  channel : Int
  deriving DecidableEq, Repr

def strtolOption (w : Nat) (text : List UInt8) : Option Int :=
  let r := strtol w text
  if r.erange || r.endptr == 0 || r.endptr != text.length then none else some r.value

def readInt (w : Nat) (node : NodeSection) (name : String) : Option Int :=
  match node.option name with
  | none => some 1
  | some text => strtolOption w text

def readNode (w : Nat) (node : NodeSection) : Option NodeCfg :=
  match readInt w node configFilePowermeterPortId, readInt w node configFileChannelId with
  | some port, some channel =>
    some ⟨node.title, node.option configFilePowermeterServerId, port, channel⟩
  | _, _ => none

/-- Puts a section in the place of the one of its title, or at the end. -/
def place (cfg : NodeCfg) (cfgs : List NodeCfg) : List NodeCfg :=
  if cfgs.any (·.title == cfg.title) then
    cfgs.map fun old => if old.title = cfg.title then cfg else old
  else cfgs ++ [cfg]

def readFile (w : Nat) (file : List NodeSection) : Option (List NodeCfg) :=
  file.foldlM (fun cfgs node => (readNode w node).map (place · cfgs)) []

def reader (w : Nat) : Libconfuse (List NodeCfg) NodeCfg where
  cfgParse file :=
    match readFile w file with
    | some cfgs => (.success, cfgs)
    | none => (.parseError, [])
  cfgSize cfgs _ := cfgs.length
  cfgGetnsec cfgs _ i := cfgs.getD i ⟨[], none, 1, 1⟩
  cfgTitle := NodeCfg.title
  cfgGetstr cfg _ := cfg.powermeterServer
  cfgGetint cfg name :=
    if name = configFilePowermeterPortId then cfg.powermeterPort else cfg.channel

variable {w : Nat}

theorem readNode_eq_some {node : NodeSection} {cfg : NodeCfg} (h : readNode w node = some cfg) :
    cfg.title = node.title ∧
    cfg.powermeterServer = node.option configFilePowermeterServerId ∧
    readInt w node configFilePowermeterPortId = some cfg.powermeterPort ∧
    readInt w node configFileChannelId = some cfg.channel := by
  unfold readNode at h
  split at h
  · next port channel hport hchannel =>
    cases h
    exact ⟨rfl, rfl, hport, hchannel⟩
  · cases h

theorem mem_place {cfg c : NodeCfg} {cfgs : List NodeCfg} (h : c ∈ place cfg cfgs) :
    c = cfg ∨ c ∈ cfgs ∧ c.title ≠ cfg.title := by
  unfold place at h
  split at h
  · obtain ⟨old, hold, rfl⟩ := List.mem_map.mp h
    by_cases ht : old.title = cfg.title
    · exact .inl (if_pos ht)
    · rw [if_neg ht]; exact .inr ⟨hold, ht⟩
  · next hnone =>
    rcases List.mem_append.mp h with hc | hc
    · refine .inr ⟨hc, fun ht => hnone (List.any_eq_true.mpr ⟨c, hc, by simp [ht]⟩)⟩
    · exact .inl (List.mem_singleton.mp hc)

theorem place_titles (cfg : NodeCfg) (cfgs : List NodeCfg) :
    cfg ∈ place cfg cfgs ∧
    ∀ c ∈ cfgs, ∃ c' ∈ place cfg cfgs, c'.title = c.title := by
  unfold place
  split
  · next hany =>
    obtain ⟨old, hold, ht⟩ := List.any_eq_true.mp hany
    refine ⟨List.mem_map.mpr ⟨old, hold, if_pos (by simpa using ht)⟩, fun c hc => ?_⟩
    refine ⟨_, List.mem_map_of_mem hc, ?_⟩
    split
    · next htc => exact htc.symm
    · rfl
  · exact ⟨by simp, fun c hc => ⟨c, List.mem_append_left _ hc, rfl⟩⟩

theorem lastTitled_snoc (file : List NodeSection) (node : NodeSection) (title : List UInt8) :
    lastTitled (file ++ [node]) title =
      if node.title = title then some node else lastTitled file title := by
  unfold lastTitled
  rw [List.reverse_append, List.reverse_singleton, List.singleton_append, List.find?_cons]
  by_cases h : node.title = title
  · simp [h]
  · simp [h, beq_eq_false_iff_ne.mpr h]

/-- **What the reader keeps**: each section it has is the last one written of its title, and there
is one for each title. -/
theorem readFile_spec {file : List NodeSection} {cfgs : List NodeCfg}
    (h : readFile w file = some cfgs) :
    (∀ c ∈ cfgs, ∃ node, lastTitled file c.title = some node ∧ readNode w node = some c) ∧
    ∀ node ∈ file, ∃ c ∈ cfgs, c.title = node.title := by
  induction file using List.reverseRecOn generalizing cfgs with
  | nil => cases h; simp
  | append_singleton file node ih =>
    unfold readFile at h
    rw [List.foldlM_append] at h
    obtain ⟨before, hb, h⟩ := Option.bind_eq_some_iff.mp h
    obtain ⟨hlast, htitles⟩ := ih hb
    simp only [List.foldlM_cons, List.foldlM_nil, Option.bind_eq_bind, Option.pure_def,
      Option.bind_fun_some] at h
    obtain ⟨c, hc, rfl⟩ := Option.map_eq_some_iff.mp h
    have htitle := (readNode_eq_some hc).1
    refine ⟨fun c' hc' => ?_, fun n hn => ?_⟩
    · rw [lastTitled_snoc]
      rcases mem_place hc' with rfl | ⟨hmem, hne⟩
      · exact ⟨node, by simp [htitle], hc⟩
      · rw [if_neg (fun h => hne (by rw [htitle, h]))]
        exact hlast c' hmem
    · rcases List.mem_append.mp hn with hn | hn
      · obtain ⟨c', hc', ht⟩ := htitles n hn
        obtain ⟨c'', hc'', ht'⟩ := (place_titles c before).2 c' hc'
        exact ⟨c'', hc'', ht'.trans ht⟩
      · cases List.mem_singleton.mp hn
        exact ⟨c, (place_titles c before).1, htitle⟩

theorem strtolOption_decimal (k : Nat) :
    strtolOption w (decimal k) = if k < 2 ^ (w - 1) then some (k : Int) else none := by
  have hne := List.length_pos_iff.mpr (decimal_ne_nil k)
  have hpos : (0 : Int) < 2 ^ (w - 1) := by positivity
  have hcast : ((2 ^ (w - 1) : Nat) : Int) = 2 ^ (w - 1) := by push_cast; rfl
  unfold strtolOption
  rw [strtol_decimal]
  by_cases hk : k < 2 ^ (w - 1)
  · rw [if_pos hk, min_eq_left (by omega)]
    have : ¬ (2 : Int) ^ (w - 1) - 1 < k := by omega
    simp [this, decimal_ne_nil]
  · rw [if_neg hk]
    have : (2 : Int) ^ (w - 1) - 1 < k := by omega
    simp [this]

theorem readInt_decimal {node : NodeSection} {name : String} {k : Nat} {x : Int}
    (ht : node.option name = some (decimal k)) (h : readInt w node name = some x) :
    k < 2 ^ (w - 1) ∧ x = k := by
  simp only [readInt, ht, strtolOption_decimal] at h
  split at h
  · next hk => cases h; exact ⟨hk, rfl⟩
  · cases h

theorem reader_sections (cfgs : List NodeCfg) : nodeSections (reader w) cfgs = cfgs := by
  refine List.ext_getElem (by simp [nodeSections, reader]) fun i h₁ h₂ => ?_
  simp [nodeSections, reader, h₂]

theorem reader_cfgParse {file : List NodeSection} {cfgs : List NodeCfg}
    (h : (reader w).cfgParse file = (.success, cfgs)) : readFile w file = some cfgs := by
  simp only [reader] at h
  split at h
  · next hr => cases h; exact hr
  · cases h

theorem reader_readNode {file : List NodeSection} {cfgs : List NodeCfg} {cfg : NodeCfg}
    {node : NodeSection} (h : (reader w).cfgParse file = (.success, cfgs))
    (hcfg : cfg ∈ nodeSections (reader w) cfgs)
    (hlast : lastTitled file cfg.title = some node) : readNode w node = some cfg := by
  rw [reader_sections] at hcfg
  obtain ⟨node', hlast', hread⟩ := (readFile_spec (reader_cfgParse h)).1 cfg hcfg
  cases hlast.symm.trans hlast'
  exact hread

/-- **The reader does what the library documents.** -/
theorem reader_spec (w : Nat) : CfgSpec w (reader w) where
  fileError {file fullCfg} h := by
    simp only [reader] at h
    split at h <;> cases h
  title h node hnode := by
    rw [reader_sections]
    exact (readFile_spec (reader_cfgParse h)).2 node hnode
  getint {file fullCfg} h cfg hcfg {node name k} hlast hname hopt := by
    obtain ⟨-, -, hport, hchannel⟩ := readNode_eq_some (reader_readNode h hcfg hlast)
    rcases List.mem_pair.mp hname with rfl | rfl
    · exact readInt_decimal hopt hport
    · exact readInt_decimal hopt hchannel
  getstr {file fullCfg} h cfg hcfg {node} hlast :=
    (readNode_eq_some (reader_readNode h hcfg hlast)).2.1

end Reader

def channelSection (title : List UInt8) (channel : Nat) : NodeSection :=
  ⟨title, [(configFilePowermeterServerId, [49, 50, 55, 46, 48, 46, 48, 46, 49]),
    (configFilePowermeterPortId, decimal 30000), (configFileChannelId, decimal channel)]⟩

/-- A host whose file has two sections for its node. -/
def twoSections : Host :=
  { plainHost with
    configFile := some (some [channelSection [110] 5, channelSection [110] 3])
    nodename := some [110] }

/-- The channel of the second section is requested and streamed. -/
theorem agrees_three :
    (subscribe 64 (reader 64) twoSections [[]]).toOption.map (·.payload) = some [51, 0] ∧
    Agrees 6 3 30000 (subscribe 64 (reader 64) twoSections [[]]) :=
  ⟨by decide, (agrees_iff (by decide) (reader_spec 64) (.configFile rfl rfl rfl rfl rfl)).mpr
    fun _ _ _ => by decide⟩

/-- `udp_client <ip> 30000 257` is served channel 1. -/
theorem agrees_fails_257 :
    ¬ Agrees 6 257 30000 (subscribe 64 (reader 64) plainHost
      [[], [], decimal 30000, decimal 257]) := by
  have h : subscribe 64 (reader 64) plainHost [[], [], decimal 30000, decimal 257] =
      .ok ⟨[], 30000, decimal 1 ++ [0]⟩ := by
    simp only [subscribe, clientParams, plainHost, strtoul_decimal]
    rfl
  rw [h]
  show ¬ match streamedChannel 6 ⟨[], 30000, decimal 1 ++ [0]⟩ with
    | none => True
    | some channel => _
  rw [streamedChannel_decimal (show 1 < 256 by decide), if_pos (by decide)]
  exact fun hagrees => absurd hagrees.2.1 (by decide)

end Powermeter
