import TrexWebui.ConfigModel

/-!
# Rendering a configuration and reading it back

What `to_trex_dict` writes is read back as the same configuration, but for the addresses,
which come back as lists of integers (`TrexConfig.validate_entries`). Nothing has checked
these before the rendering: it raises at a MAC that has not six bytes to base sixteen, and
a text such as `02:00:00:5d:82:100` gets through it with a byte of 256, which a list of
integers does not. The configuration renders as a fixed point exactly if every MAC in it
says six numbers from 0 to 255 (`renders_fixed_iff`).
-/

namespace TrexWebui.ConfigModel

open PyStr PyJson PyMethods Checks Pydantic
open IpAddressTexts (ipv4Address ipv4Address_of_quad fromOctets IsOctet IsDottedQuad)

/-! ## Addresses -/

theorem isOctet_decimal : ∀ n < 256, IsOctet (decimal n) ∧ DigitTexts.valueOf 10 (decimal n) = n := by
  decide +kernel

theorem point_not_mem_decimal (n : Nat) : IpAddressTexts.point ∉ decimal n := by
  intro hmem
  have hdigit := isDigit_decimal hmem
  cases hdigit

theorem ipv4Address_addressText (address : IPv4Address) :
    ipv4Address (addressText address) = some address.val := by
  obtain ⟨n, hn⟩ := address
  have hoctets : ∀ octet ∈ octetsOf n, octet < 256 := by
    simp only [octetsOf, List.forall_mem_cons, List.not_mem_nil, false_implies, implies_true, and_true]
    omega
  have hsplit : (addressText ⟨n, hn⟩).splitOn IpAddressTexts.point = (octetsOf n).map decimal := by
    refine List.splitOn_intercalate _ ?_ ?_
    · intro piece hpiece
      obtain ⟨octet, -, rfl⟩ := List.mem_map.mp hpiece
      exact point_not_mem_decimal octet
    · exact List.cons_ne_nil _ _
  have hquad : IsDottedQuad (addressText ⟨n, hn⟩) := by
    refine ⟨by rw [hsplit]; rfl, ?_⟩
    rw [hsplit]
    intro piece hpiece
    obtain ⟨octet, hoctet, rfl⟩ := List.mem_map.mp hpiece
    exact (isOctet_decimal octet (hoctets octet hoctet)).1
  have hvalues : ((octetsOf n).map decimal).map (DigitTexts.valueOf 10) = octetsOf n := by
    rw [List.map_map]
    conv_rhs => rw [← List.map_id (octetsOf n)]
    exact List.map_congr_left fun octet hoctet => (isOctet_decimal octet (hoctets octet hoctet)).2
  rw [ipv4Address_of_quad hquad, hsplit, hvalues]
  have hsum : fromOctets (octetsOf n) = n := by
    show ((((0 * 256 + n / 16777216) * 256 + n / 65536 % 256) * 256 + n / 256 % 256) * 256
      + n % 256) = n
    omega
  rw [hsum]

theorem readsBack_address (address : IPv4Address) :
    ReadsBack readAddress (fun address => .str (addressText address)) address := by
  refine ⟨Value.noConfusion, orRefuse_eq_ok.mpr ?_⟩
  show (ipv4Address (addressText address)).bind addressOfNat = some address
  rw [ipv4Address_addressText]
  exact dif_pos address.isLt

theorem readMac_intsValue (lax : Conversions) (ints : List Int) :
    readMac lax (intsValue ints) = .ok (.bytes ints) := by
  have hints : (ints.map Value.int).mapM (integer lax) = .ok ints :=
    mapM_readsBack fun n _ => rfl
  show ((ints.map Value.int).mapM (integer lax)).map Mac.bytes = .ok (.bytes ints)
  rw [hints]
  rfl

/-! ## What was checked -/

structure DualIf.Valid (entry : DualIf) : Prop where
  socket : 0 ≤ entry.socket
  threads : DualIf.threadsAreUnique entry.threads = .ok ()

structure PlatformConfig.Valid (platform : PlatformConfig) : Prop where
  masterThreadId : 0 ≤ platform.masterThreadId
  latencyThreadId : 0 ≤ platform.latencyThreadId
  dualIf : ∀ entry ∈ platform.dualIf, entry.Valid
  threads : platform.threadsMustNotConflict = .ok ()

/-- The checks of a configuration; none is about a MAC. -/
structure TrexConfig.Valid (lax : Conversions) (config : TrexConfig) : Prop where
  portLimit : 1 ≤ config.portLimit
  texts : ∀ interface ∈ config.interfaces, lax.text interface = true
  interfaces : interfacesMustBeUnique config.interfaces = .ok ()
  portBandwidthGb : ∀ n, config.portBandwidthGb = some n → 1 ≤ n
  c : ∀ n, config.c = some n → 1 ≤ n
  zmqPubPort : ∀ n, config.zmqPubPort = some n → 1 ≤ n ∧ n ≤ 65535
  telnetPort : ∀ n, config.telnetPort = some n → 1 ≤ n ∧ n ≤ 65535
  platform : ∀ platform, config.platform = some platform → platform.Valid
  shape : config.validateShape = .ok ()

theorem DualIf.valid_of_validate {lax : Conversions} {value : Value} {entry : DualIf}
    (h : DualIf.validate lax value = .ok entry) : entry.Valid := by
  simp only [DualIf.validate, bind_eq_ok, pure_eq_ok] at h
  obtain ⟨fields, -, socket, hsocket, threads, hthreads, -, -, rfl⟩ := h
  obtain ⟨v, hv⟩ := required_eq_ok hsocket
  refine ⟨(atLeast_eq_ok.mp hv).2, ?_⟩
  rcases withDefault_eq_ok hthreads with rfl | ⟨v, hv⟩
  · rfl
  · simp only [DualIf.readThreads, bind_eq_ok, pure_eq_ok] at hv
    obtain ⟨_, -, _, hunique, rfl⟩ := hv
    exact hunique

theorem PlatformConfig.valid_of_validate {lax : Conversions} {value : Value}
    {platform : PlatformConfig} (h : PlatformConfig.validate lax value = .ok platform) :
    platform.Valid := by
  simp only [PlatformConfig.validate, bind_eq_ok, pure_eq_ok] at h
  obtain ⟨fields, -, master, hmaster, latency, hlatency, dualIf, hdualIf, -, -, _, hthreads, rfl⟩ := h
  obtain ⟨v, hv⟩ := required_eq_ok hmaster
  obtain ⟨w, hw⟩ := required_eq_ok hlatency
  refine ⟨(atLeast_eq_ok.mp hv).2, (atLeast_eq_ok.mp hw).2, fun entry hentry => ?_, hthreads⟩
  rcases withDefault_eq_ok hdualIf with rfl | ⟨u, hu⟩
  · exact absurd hentry List.not_mem_nil
  · obtain ⟨item, hitem⟩ := list_eq_ok hu entry hentry
    exact DualIf.valid_of_validate hitem

namespace TrexConfig

variable {lax : Conversions} {config : TrexConfig}

theorem bounds_of_readPort {fields : Fields} {key : Str} {o : Option Int}
    (h : optional fields key (readPort lax) = .ok o) : ∀ n, o = some n → 1 ≤ n ∧ n ≤ 65535 := by
  rintro n rfl
  obtain ⟨v, hv⟩ := optional_eq_ok h
  obtain ⟨hlow, hhigh⟩ := atMost_eq_ok.mp hv
  exact ⟨(atLeast_eq_ok.mp hlow).2, hhigh⟩

theorem bound_of_optional {fields : Fields} {key : Str} {o : Option Int}
    (h : optional fields key (atLeast 1 (integer lax)) = .ok o) : ∀ n, o = some n → 1 ≤ n := by
  rintro n rfl
  obtain ⟨v, hv⟩ := optional_eq_ok h
  exact (atLeast_eq_ok.mp hv).2

theorem valid_of_validate {value : Value} (h : validate lax value = .ok config) :
    config.Valid lax := by
  simp only [validate, bind_eq_ok, pure_eq_ok] at h
  obtain ⟨fields, -, portLimit, hlimit, version, -, interfaces, hinterfaces, bandwidth, hbandwidth,
    portInfo, -, c, hc, pub, -, zmq, hzmq, telnet, htelnet, platform, hplatform, -, -, _, hshape,
    rfl⟩ := h
  obtain ⟨v, hv⟩ := required_eq_ok hlimit
  obtain ⟨w, hw⟩ := required_eq_ok hinterfaces
  simp only [readInterfaces, bind_eq_ok, pure_eq_ok] at hw
  obtain ⟨texts, htexts, _, hunique, rfl⟩ := hw
  exact {
    portLimit := (atLeast_eq_ok.mp hv).2
    texts := by
      intro interface hinterface
      obtain ⟨item, hitem⟩ := list_eq_ok htexts interface hinterface
      exact string_eq_ok hitem
    interfaces := hunique
    portBandwidthGb := bound_of_optional hbandwidth
    c := bound_of_optional hc
    zmqPubPort := bounds_of_readPort hzmq
    telnetPort := bounds_of_readPort htelnet
    platform := by
      rintro p rfl
      obtain ⟨item, hitem⟩ := optional_eq_ok hplatform
      exact PlatformConfig.valid_of_validate hitem
    shape := hshape }

end TrexConfig

/-! ## Reading back -/

theorem DualIf.nodup_keys (entry : DualIf) : (entry.entries.map (·.1)).Nodup := by
  show [text "socket", text "threads"].Nodup
  decide +kernel

theorem DualIf.readsBack_threads {lax : Conversions} {threads : List Int}
    (h : DualIf.threadsAreUnique threads = .ok ()) :
    ReadsBack (DualIf.readThreads lax) intsValue threads := by
  have hlist := (readsBack_list fun n (_ : n ∈ threads) => readsBack_integer lax n).2
  refine ⟨Value.noConfusion, ?_⟩
  simp only [DualIf.readThreads, bind_eq_ok, pure_eq_ok]
  exact ⟨threads, hlist, (), h, rfl⟩

theorem DualIf.readsBack {lax : Conversions} {entry : DualIf} (h : entry.Valid) :
    ReadsBack (DualIf.validate lax) DualIf.modelDump entry := by
  refine ⟨Value.noConfusion, ?_⟩
  have hsocket : required (given entry.entries) (text "socket") (atLeast 0 (integer lax))
      = .ok entry.socket :=
    required_given entry.nodup_keys (by simp [DualIf.entries])
      ((readsBack_integer lax entry.socket).atLeast h.socket)
  have hthreads : withDefault [] (given entry.entries) (text "threads") (DualIf.readThreads lax)
      = .ok entry.threads :=
    withDefault_given entry.nodup_keys (by simp [DualIf.entries]) (DualIf.readsBack_threads h.threads)
  have hextra : refuseExtra (given entry.entries) DualIf.keys = .ok () :=
    refuseExtra_given (by simp [DualIf.entries, DualIf.keys])
  simp only [DualIf.validate, DualIf.modelDump, dictionary, bind_eq_ok, pure_eq_ok]
  exact ⟨_, rfl, _, hsocket, _, hthreads, _, hextra, rfl⟩

theorem PlatformConfig.nodup_keys (platform : PlatformConfig) :
    (platform.entries.map (·.1)).Nodup := by
  show [text "master_thread_id", text "latency_thread_id", text "dual_if"].Nodup
  decide +kernel

theorem PlatformConfig.readsBack {lax : Conversions} {platform : PlatformConfig}
    (h : platform.Valid) :
    ReadsBack (PlatformConfig.validate lax) PlatformConfig.toTrexDict platform := by
  refine ⟨Value.noConfusion, ?_⟩
  have hmaster : required (given platform.entries) (text "master_thread_id")
      (atLeast 0 (integer lax)) = .ok platform.masterThreadId :=
    required_given platform.nodup_keys (by simp [PlatformConfig.entries])
      ((readsBack_integer lax platform.masterThreadId).atLeast h.masterThreadId)
  have hlatency : required (given platform.entries) (text "latency_thread_id")
      (atLeast 0 (integer lax)) = .ok platform.latencyThreadId :=
    required_given platform.nodup_keys (by simp [PlatformConfig.entries])
      ((readsBack_integer lax platform.latencyThreadId).atLeast h.latencyThreadId)
  have hdualIf : withDefault [] (given platform.entries) (text "dual_if")
      (list (DualIf.validate lax)) = .ok platform.dualIf :=
    withDefault_given platform.nodup_keys (by simp [PlatformConfig.entries])
      (readsBack_list fun entry hentry => DualIf.readsBack (h.dualIf entry hentry))
  have hextra : refuseExtra (given platform.entries) PlatformConfig.keys = .ok () :=
    refuseExtra_given (by simp [PlatformConfig.entries, PlatformConfig.keys])
  simp only [PlatformConfig.validate, PlatformConfig.toTrexDict, dictionary, bind_eq_ok, pure_eq_ok]
  exact ⟨_, rfl, _, hmaster, _, hlatency, _, hdualIf, _, hextra, _, h.threads, rfl⟩

/-! ### Ports -/

def PortInfo.withBytes (port : PortInfo) (destMac srcMac : Option (List Int)) : PortInfo :=
  { port with destMac := destMac.map .bytes, srcMac := srcMac.map .bytes }

theorem PortInfo.nodup_keys (port : PortInfo) (destMac srcMac : Option (List Int)) :
    ((port.entries destMac srcMac).map (·.1)).Nodup := by
  show [text "ip", text "default_gw", text "dest_mac", text "src_mac"].Nodup
  decide +kernel

theorem optional_mac {lax : Conversions} {entries : List (Str × Option Value)} {key : Str}
    {mac : Option (List Int)} (hkeys : (entries.map (·.1)).Nodup)
    (h : (key, mac.map intsValue) ∈ entries) :
    optional (given entries) key (readMac lax) = .ok (mac.map .bytes) := by
  rw [Pydantic.optional, withDefault, lookup_given hkeys h]
  cases mac with
  | none => rfl
  | some ints =>
      show (readMac lax (intsValue ints)).map some = .ok (some (.bytes ints))
      rw [readMac_intsValue]
      rfl

theorem PortInfo.validate_entries (lax : Conversions) (port : PortInfo)
    (destMac srcMac : Option (List Int)) :
    PortInfo.validate lax (.obj (given (port.entries destMac srcMac)))
      = .ok (port.withBytes destMac srcMac) := by
  have hkeys := port.nodup_keys destMac srcMac
  have hip : optional (given (port.entries destMac srcMac)) (text "ip") readAddress
      = .ok port.ip :=
    optional_given hkeys (by simp [PortInfo.entries]) fun address _ => readsBack_address address
  have hgateway : optional (given (port.entries destMac srcMac)) (text "default_gw") readAddress
      = .ok port.defaultGw :=
    optional_given hkeys (by simp [PortInfo.entries]) fun address _ => readsBack_address address
  have hsrc : optional (given (port.entries destMac srcMac)) (text "src_mac") (readMac lax)
      = .ok (srcMac.map .bytes) :=
    optional_mac hkeys (by simp [PortInfo.entries])
  have hdest : optional (given (port.entries destMac srcMac)) (text "dest_mac") (readMac lax)
      = .ok (destMac.map .bytes) :=
    optional_mac hkeys (by simp [PortInfo.entries])
  have hextra : refuseExtra (given (port.entries destMac srcMac)) PortInfo.keys = .ok () :=
    refuseExtra_given (by simp [PortInfo.entries, PortInfo.keys])
  simp only [PortInfo.validate, dictionary, bind_eq_ok, pure_eq_ok]
  exact ⟨_, rfl, _, hip, _, hgateway, _, hsrc, _, hdest, _, hextra, rfl⟩

/-! ### The whole configuration -/

theorem TrexConfig.nodup_keys (config : TrexConfig) (ports : List Value) :
    ((config.entries ports).map (·.1)).Nodup := by
  show [text "port_limit", text "version", text "interfaces", text "port_bandwidth_gb", text "c",
    text "enable_zmq_pub", text "zmq_pub_port", text "telnet_port", text "platform",
    text "port_info"].Nodup
  decide +kernel

theorem readsBack_interfaces {lax : Conversions} {interfaces : List Str}
    (htexts : ∀ interface ∈ interfaces, lax.text interface = true)
    (h : interfacesMustBeUnique interfaces = .ok ()) :
    ReadsBack (readInterfaces lax) (fun interfaces => .arr (interfaces.map .str)) interfaces := by
  have hlist := (readsBack_list fun i hi => readsBack_string (htexts i hi)).2
  refine ⟨Value.noConfusion, ?_⟩
  simp only [readInterfaces, bind_eq_ok, pure_eq_ok]
  exact ⟨interfaces, hlist, (), h, rfl⟩

namespace TrexConfig

variable {lax : Conversions} {config : TrexConfig}

/-- A checked configuration is read back from its entries, with the ports that are read from
theirs. -/
theorem validate_entries (h : config.Valid lax) {ports : List Value} {again : List PortInfo}
    (hports : ports.mapM (PortInfo.validate lax) = .ok again)
    (hlength : again.length = config.portInfo.length) :
    validate lax (.obj (given (config.entries ports))) = .ok { config with portInfo := again } := by
  have hkeys := config.nodup_keys ports
  have hlimit : required (given (config.entries ports)) (text "port_limit")
      (atLeast 1 (integer lax)) = .ok config.portLimit :=
    required_given hkeys (by simp [entries])
      ((readsBack_integer lax config.portLimit).atLeast h.portLimit)
  have hversion : withDefault 2 (given (config.entries ports)) (text "version") (integer lax)
      = .ok config.version :=
    withDefault_given hkeys (by simp [entries]) (readsBack_integer lax config.version)
  have hinterfaces : required (given (config.entries ports)) (text "interfaces")
      (readInterfaces lax) = .ok config.interfaces :=
    required_given hkeys (by simp [entries]) (readsBack_interfaces h.texts h.interfaces)
  have hbandwidth : Pydantic.optional (given (config.entries ports)) (text "port_bandwidth_gb")
      (atLeast 1 (integer lax)) = .ok config.portBandwidthGb :=
    optional_given hkeys (by simp [entries]) fun n hn =>
      (readsBack_integer lax n).atLeast (h.portBandwidthGb n hn)
  have hports' : withDefault [] (given (config.entries ports)) (text "port_info")
      (list (PortInfo.validate lax)) = .ok again := by
    have hmem : (text "port_info", if config.portInfo = [] then none else some (.arr ports))
        ∈ config.entries ports := by simp [entries]
    rw [withDefault, lookup_given hkeys hmem]
    by_cases hnil : config.portInfo = []
    · rw [if_pos hnil]
      rw [hnil] at hlength
      rw [List.eq_nil_of_length_eq_zero hlength]
    · rw [if_neg hnil]
      exact hports
  have hc : Pydantic.optional (given (config.entries ports)) (text "c")
      (atLeast 1 (integer lax)) = .ok config.c :=
    optional_given hkeys (by simp [entries]) fun n hn => (readsBack_integer lax n).atLeast (h.c n hn)
  have hpub : Pydantic.optional (given (config.entries ports)) (text "enable_zmq_pub")
      (boolean lax) = .ok config.enableZmqPub :=
    optional_given hkeys (by simp [entries]) fun b _ => readsBack_boolean lax b
  have hport : ∀ n : Int, 1 ≤ n ∧ n ≤ 65535 → ReadsBack (readPort lax) .int n := fun n hn =>
    ((readsBack_integer lax n).atLeast hn.1).atMost hn.2
  have hzmq : Pydantic.optional (given (config.entries ports)) (text "zmq_pub_port")
      (readPort lax) = .ok config.zmqPubPort :=
    optional_given hkeys (by simp [entries]) fun n hn => hport n (h.zmqPubPort n hn)
  have htelnet : Pydantic.optional (given (config.entries ports)) (text "telnet_port")
      (readPort lax) = .ok config.telnetPort :=
    optional_given hkeys (by simp [entries]) fun n hn => hport n (h.telnetPort n hn)
  have hplatform : Pydantic.optional (given (config.entries ports)) (text "platform")
      (PlatformConfig.validate lax) = .ok config.platform :=
    optional_given hkeys (by simp [entries]) fun p hp => PlatformConfig.readsBack (h.platform p hp)
  have hextra : refuseExtra (given (config.entries ports)) keys = .ok () :=
    refuseExtra_given (by simp [entries, keys])
  have hshape : validateShape { config with portInfo := again } = .ok () := by
    have hshape := h.shape
    simp only [validateShape, bind_eq_ok, refuseIf_eq_ok, ne_eq,
      ← List.length_eq_zero_iff] at hshape ⊢
    rw [hlength]
    exact hshape
  simp only [validate, dictionary, bind_eq_ok, pure_eq_ok]
  exact ⟨_, rfl, _, hlimit, _, hversion, _, hinterfaces, _, hbandwidth, _, hports', _, hc, _, hpub,
    _, hzmq, _, htelnet, _, hplatform, _, hextra, _, hshape, rfl⟩

end TrexConfig

/-! ## Addresses of ports -/

def IsSixBytes (ints : List Int) : Prop := ints.length = 6 ∧ ∀ n ∈ ints, 0 ≤ n ∧ n ≤ 255

instance (ints : List Int) : Decidable (IsSixBytes ints) := inferInstanceAs (Decidable (_ ∧ _))

/-- A MAC that says six bytes: as integers, or as texts that `int(part, 16)` takes for numbers from
0 to 255. -/
def Mac.SaysSixBytes : Mac → Prop
  | .bytes parts => IsSixBytes parts
  | .text address =>
      (address.splitOn colon).length = 6
        ∧ ∀ part ∈ address.splitOn colon, ∃ n, intHex part = some n ∧ 0 ≤ n ∧ n ≤ 255

theorem macToInts_bytes {ints : List Int} {r : Option (List Int)} :
    macToInts (some (.bytes ints)) = .ok r ↔ IsSixBytes ints ∧ some ints = r := by
  have hbytes : ¬(ints.length ≠ 6 ∨ ∃ part ∈ ints, part < 0 ∨ 255 < part) ↔ IsSixBytes ints := by
    rw [not_or, not_not]
    refine and_congr_right fun _ => ⟨fun h n hn => ?_, fun h => ?_⟩
    · by_contra hrange
      exact h ⟨n, hn, by omega⟩
    · rintro ⟨n, hn, hrange⟩
      have := h n hn
      omega
  simp only [macToInts, bind_eq_ok, refuseIf_eq_ok, pure_eq_ok, hbytes, exists_const]

theorem macToInts_text {address : Str} {r : Option (List Int)} :
    macToInts (some (.text address)) = .ok r ↔ (address.splitOn colon).length = 6
      ∧ ∃ ints, (address.splitOn colon).mapM intHex = some ints ∧ some ints = r := by
  simp only [macToInts, bind_eq_ok, refuseIf_eq_ok, orRefuse_eq_ok, pure_eq_ok, exists_const,
    ne_eq, not_not]

theorem bytes_of_parts {parts : List Str} :
    (∀ part ∈ parts, ∃ n, intHex part = some n ∧ 0 ≤ n ∧ n ≤ 255) ↔
      ∃ ints, parts.mapM intHex = some ints ∧ ints.length = parts.length
        ∧ ∀ n ∈ ints, 0 ≤ n ∧ n ≤ 255 := by
  induction parts with
  | nil => simp
  | cons part parts ih =>
      simp only [List.forall_mem_cons, ih, List.mapM_cons, Option.bind_eq_bind,
        Option.bind_eq_some_iff, Option.pure_def, Option.some.injEq]
      constructor
      · rintro ⟨⟨n, hn, hrange⟩, ints, hints, hlength, hall⟩
        refine ⟨n :: ints, ⟨n, hn, ints, hints, rfl⟩, congrArg (· + 1) hlength, ?_⟩
        exact List.forall_mem_cons.mpr ⟨hrange, hall⟩
      · rintro ⟨_, ⟨n, hn, ints, hints, rfl⟩, hlength, hall⟩
        obtain ⟨hrange, hrest⟩ := List.forall_mem_cons.mp hall
        exact ⟨⟨n, hn, hrange⟩, ints, hints, Nat.succ_injective hlength, hrest⟩

theorem saysSixBytes_iff (mac : Mac) :
    mac.SaysSixBytes ↔ ∃ ints, macToInts (some mac) = .ok (some ints) ∧ IsSixBytes ints := by
  cases mac with
  | bytes parts =>
      simp only [macToInts_bytes, Mac.SaysSixBytes]
      constructor
      · exact fun h => ⟨parts, ⟨h, rfl⟩, h⟩
      · rintro ⟨ints, ⟨h, -⟩, -⟩
        exact h
  | text address =>
      simp only [macToInts_text, Mac.SaysSixBytes, bytes_of_parts]
      constructor
      · rintro ⟨hsix, ints, hread, hlength, hrange⟩
        exact ⟨ints, ⟨hsix, ints, hread, rfl⟩, hlength.trans hsix, hrange⟩
      · rintro ⟨ints, ⟨hsix, _, hread, heq⟩, hlength, hrange⟩
        cases heq
        exact ⟨hsix, ints, hread, hlength.trans hsix.symm, hrange⟩

/-- What the MAC of a port is rendered as is rendered as itself again exactly if the MAC, if there is
one, says six bytes. -/
theorem macToInts_again (mac : Option Mac) :
    (∀ m, mac = some m → m.SaysSixBytes) ↔
      ∃ r, macToInts mac = .ok r ∧ macToInts (r.map .bytes) = .ok r := by
  cases mac with
  | none => exact ⟨fun _ => ⟨none, rfl, rfl⟩, fun _ m hm => by cases hm⟩
  | some m =>
      simp only [Option.some.injEq, forall_eq', saysSixBytes_iff]
      constructor
      · rintro ⟨ints, hrender, hbytes⟩
        exact ⟨some ints, hrender, macToInts_bytes.mpr ⟨hbytes, rfl⟩⟩
      · rintro ⟨r, hrender, hagain⟩
        cases r with
        | none =>
            exfalso
            cases m with
            | bytes parts => cases (macToInts_bytes.mp hrender).2
            | text address =>
                obtain ⟨-, ints, -, hnone⟩ := macToInts_text.mp hrender
                cases hnone
        | some ints => exact ⟨ints, hrender, (macToInts_bytes.mp hagain).1⟩

namespace PortInfo

def SaysSixBytes (port : PortInfo) : Prop :=
  ∀ mac, port.srcMac = some mac ∨ port.destMac = some mac → mac.SaysSixBytes

theorem toTrexDict_eq_ok {port : PortInfo} {value : Value} :
    port.toTrexDict = .ok value ↔ ∃ destMac srcMac, macToInts port.destMac = .ok destMac
      ∧ macToInts port.srcMac = .ok srcMac ∧ .obj (given (port.entries destMac srcMac)) = value := by
  simp only [toTrexDict, bind_eq_ok, pure_eq_ok]
  constructor
  · rintro ⟨destMac, hdest, srcMac, hsrc, rfl⟩
    exact ⟨destMac, srcMac, hdest, hsrc, rfl⟩
  · rintro ⟨destMac, srcMac, hdest, hsrc, rfl⟩
    exact ⟨destMac, hdest, srcMac, hsrc, rfl⟩

def RendersFixed (lax : Conversions) (port : PortInfo) : Prop :=
  ∃ value again, port.toTrexDict = .ok value ∧ validate lax value = .ok again
    ∧ again.toTrexDict = .ok value

theorem macToInts_map_bytes {r r' : Option (List Int)} (h : macToInts (r.map .bytes) = .ok r') :
    r' = r := by
  cases r with
  | none =>
      cases h
      rfl
  | some ints => exact (macToInts_bytes.mp h).2.symm

theorem saysSixBytes_iff_macs (port : PortInfo) :
    port.SaysSixBytes ↔ (∀ mac, port.destMac = some mac → mac.SaysSixBytes)
      ∧ ∀ mac, port.srcMac = some mac → mac.SaysSixBytes := by
  refine ⟨fun h => ⟨fun mac hmac => h mac (Or.inr hmac), fun mac hmac => h mac (Or.inl hmac)⟩, ?_⟩
  rintro ⟨hdest, hsrc⟩ mac (hmac | hmac)
  · exact hsrc mac hmac
  · exact hdest mac hmac

theorem saysSixBytes_of_again {lax : Conversions} {port again : PortInfo} {value value' : Value}
    (hrender : port.toTrexDict = .ok value) (hread : validate lax value = .ok again)
    (hagain : again.toTrexDict = .ok value') : port.SaysSixBytes := by
  obtain ⟨destMac, srcMac, hdest, hsrc, rfl⟩ := toTrexDict_eq_ok.mp hrender
  rw [validate_entries] at hread
  cases hread
  obtain ⟨destAgain, srcAgain, hdestAgain, hsrcAgain, -⟩ := toTrexDict_eq_ok.mp hagain
  have hdestEq := macToInts_map_bytes hdestAgain
  have hsrcEq := macToInts_map_bytes hsrcAgain
  subst hdestEq hsrcEq
  rw [saysSixBytes_iff_macs, macToInts_again, macToInts_again]
  exact ⟨⟨_, hdest, hdestAgain⟩, ⟨_, hsrc, hsrcAgain⟩⟩

theorem rendersFixed_of_saysSixBytes (lax : Conversions) {port : PortInfo}
    (h : port.SaysSixBytes) : port.RendersFixed lax := by
  rw [saysSixBytes_iff_macs, macToInts_again, macToInts_again] at h
  obtain ⟨⟨destMac, hdest, hdestAgain⟩, ⟨srcMac, hsrc, hsrcAgain⟩⟩ := h
  exact ⟨_, port.withBytes destMac srcMac, toTrexDict_eq_ok.mpr ⟨_, _, hdest, hsrc, rfl⟩,
    validate_entries lax port destMac srcMac,
    toTrexDict_eq_ok.mpr ⟨_, _, hdestAgain, hsrcAgain, rfl⟩⟩

end PortInfo

/-! ## The fixed point -/

def portMacs : Value → List Value
  | .obj fields => [fields.lookup (text "dest_mac"), fields.lookup (text "src_mac")].filterMap id
  | _ => []

def renderedMacs : Value → List Value
  | .obj fields =>
      match fields.lookup (text "port_info") with
      | some (.arr ports) => ports.flatMap portMacs
      | _ => []
  | _ => []

def IsMacValue (value : Value) : Prop := ∃ ints, value = intsValue ints ∧ IsSixBytes ints

theorem isMacValue_intsValue {ints : List Int} : IsMacValue (intsValue ints) ↔ IsSixBytes ints := by
  constructor
  · rintro ⟨ints', heq, hbytes⟩
    have hmap : ints.map Value.int = ints'.map Value.int := Value.arr.inj heq
    have hinj : Function.Injective Value.int := fun _ _ h => Value.int.inj h
    rw [List.map_injective_iff.mpr hinj hmap]
    exact hbytes
  · exact fun h => ⟨ints, rfl, h⟩

/-- The configuration is rendered without an error, the result is accepted and is rendered the same
again, and every MAC in it is six integers from 0 to 255. -/
def TrexConfig.RendersFixed (lax : Conversions) (config : TrexConfig) : Prop :=
  ∃ rendered, config.toTrexDict = .ok rendered
    ∧ (∃ again, TrexConfig.validate lax rendered = .ok again ∧ again.toTrexDict = .ok rendered)
    ∧ ∀ mac ∈ renderedMacs rendered, IsMacValue mac

namespace PortInfo

theorem isMacValue_of_rendered {lax : Conversions} {port : PortInfo} (h : port.RendersFixed lax)
    {value : Value} (hrender : port.toTrexDict = .ok value) :
    ∀ mac ∈ portMacs value, IsMacValue mac := by
  obtain ⟨value', again, hrender', hread, hagain⟩ := h
  rw [hrender] at hrender'
  cases hrender'
  obtain ⟨destMac, srcMac, hdest, hsrc, rfl⟩ := toTrexDict_eq_ok.mp hrender
  rw [validate_entries] at hread
  cases hread
  obtain ⟨destAgain, srcAgain, hdestAgain, hsrcAgain, -⟩ := toTrexDict_eq_ok.mp hagain
  have hkeys := port.nodup_keys destMac srcMac
  have hbytes : ∀ {r r' : Option (List Int)}, macToInts (r.map .bytes) = .ok r' →
      ∀ value, r.map intsValue = some value → IsMacValue value := by
    intro r r' hr value hvalue
    obtain ⟨ints, rfl, rfl⟩ := Option.map_eq_some_iff.mp hvalue
    exact ⟨ints, rfl, (macToInts_bytes.mp hr).1⟩
  intro mac hmac
  rw [portMacs, lookup_given hkeys (show (text "dest_mac", destMac.map intsValue) ∈ _ by
      simp [entries]), lookup_given hkeys (show (text "src_mac", srcMac.map intsValue) ∈ _ by
      simp [entries]), List.mem_filterMap] at hmac
  obtain ⟨value, hvalue, rfl⟩ := hmac
  rcases List.mem_cons.mp hvalue with hvalue | hvalue
  · exact hbytes hdestAgain mac hvalue.symm
  · exact hbytes hsrcAgain mac (List.mem_singleton.mp hvalue).symm

end PortInfo

/-! ### Lists of ports -/

theorem saysSixBytes_of_lists {lax : Conversions} {ports again : List PortInfo}
    {values values' : List Value} (hrender : ports.mapM PortInfo.toTrexDict = .ok values)
    (hread : values.mapM (PortInfo.validate lax) = .ok again)
    (hagain : again.mapM PortInfo.toTrexDict = .ok values') :
    ∀ port ∈ ports, port.SaysSixBytes := by
  rw [mapM_eq_ok] at hrender hread hagain
  induction hrender generalizing again values' with
  | nil => exact fun port hport => absurd hport List.not_mem_nil
  | cons hfirst _ ih =>
      cases hread with
      | cons hfirstRead hread =>
          cases hagain with
          | cons hfirstAgain hagain =>
              exact List.forall_mem_cons.mpr
                ⟨PortInfo.saysSixBytes_of_again hfirst hfirstRead hfirstAgain, ih hread hagain⟩

theorem lists_of_rendersFixed {lax : Conversions} {ports : List PortInfo}
    (h : ∀ port ∈ ports, port.RendersFixed lax) :
    ∃ values again, ports.mapM PortInfo.toTrexDict = .ok values
      ∧ values.mapM (PortInfo.validate lax) = .ok again ∧ again.length = ports.length
      ∧ again.mapM PortInfo.toTrexDict = .ok values := by
  induction ports with
  | nil => exact ⟨[], [], rfl, rfl, rfl, rfl⟩
  | cons port ports ih =>
      obtain ⟨hport, hports⟩ := List.forall_mem_cons.mp h
      obtain ⟨value, portAgain, hrender, hread, hagain⟩ := hport
      obtain ⟨values, again, hrenders, hreads, hlength, hagains⟩ := ih hports
      refine ⟨value :: values, portAgain :: again, ?_, ?_, congrArg (· + 1) hlength, ?_⟩
      · rw [List.mapM_cons, hrender, hrenders]
        rfl
      · rw [List.mapM_cons, hread, hreads]
        rfl
      · rw [List.mapM_cons, hagain, hagains]
        rfl

theorem exists_read_ports (lax : Conversions) {ports : List PortInfo} {values : List Value}
    (h : ports.mapM PortInfo.toTrexDict = .ok values) :
    ∃ again, values.mapM (PortInfo.validate lax) = .ok again ∧ again.length = ports.length := by
  have hread : ∀ value ∈ values, ∃ again, PortInfo.validate lax value = .ok again ∧ True := by
    intro value hvalue
    obtain ⟨port, -, hport⟩ := exists_of_mapM h value hvalue
    obtain ⟨destMac, srcMac, -, -, rfl⟩ := PortInfo.toTrexDict_eq_ok.mp hport
    exact ⟨_, PortInfo.validate_entries lax port destMac srcMac, trivial⟩
  obtain ⟨again, hagain, -⟩ := mapM_returns hread
  have hlength := (mapM_eq_ok.mp h).length_eq
  exact ⟨again, hagain, (mapM_eq_ok.mp hagain).length_eq.symm.trans hlength.symm⟩

namespace TrexConfig

variable {lax : Conversions} {config : TrexConfig}

theorem toTrexDict_eq_ok {value : Value} :
    config.toTrexDict = .ok value ↔ ∃ ports, config.portInfo.mapM PortInfo.toTrexDict = .ok ports
      ∧ .obj (given (config.entries ports)) = value := by
  simp only [toTrexDict, bind_eq_ok, pure_eq_ok]

theorem mem_renderedMacs {ports : List Value} {mac : Value}
    (h : mac ∈ renderedMacs (.obj (given (config.entries ports)))) :
    ∃ port ∈ ports, mac ∈ portMacs port := by
  have hmem : (text "port_info", if config.portInfo = [] then none else some (.arr ports))
      ∈ config.entries ports := by simp [entries]
  rw [renderedMacs, lookup_given (config.nodup_keys ports) hmem] at h
  by_cases hnil : config.portInfo = []
  · rw [if_pos hnil] at h
    exact absurd h List.not_mem_nil
  · rw [if_neg hnil] at h
    exact List.mem_flatMap.mp h

theorem entries_withPorts {again : List PortInfo} (ports : List Value)
    (hlength : again.length = config.portInfo.length) :
    entries { config with portInfo := again } ports = config.entries ports := by
  have hnil : again = [] ↔ config.portInfo = [] := by
    rw [← List.length_eq_zero_iff, hlength, List.length_eq_zero_iff]
  simp only [entries, hnil]

/-- Every accepted configuration whose MACs can be rendered is read back from what it is rendered as;
it is rendered the same again, with six integers from 0 to 255 for each MAC, exactly if each MAC is a
list of these or a text of six parts that Python reads to base sixteen as these. -/
theorem renders_fixed_iff (lax : Conversions) (value : Value) (config : TrexConfig)
    (haccepted : validate lax value = .ok config) :
    config.RendersFixed lax ↔ ∀ port ∈ config.portInfo, port.SaysSixBytes := by
  have hvalid := valid_of_validate haccepted
  constructor
  · rintro ⟨rendered, hrender, ⟨again, hread, hagain⟩, -⟩
    obtain ⟨ports, hports, rfl⟩ := toTrexDict_eq_ok.mp hrender
    obtain ⟨portsAgain, hportsRead, hlength⟩ := exists_read_ports lax hports
    rw [validate_entries hvalid hportsRead hlength] at hread
    cases hread
    obtain ⟨values, hvalues, -⟩ := toTrexDict_eq_ok.mp hagain
    exact saysSixBytes_of_lists hports hportsRead hvalues
  · intro h
    have hfixed : ∀ port ∈ config.portInfo, port.RendersFixed lax := fun port hport =>
      PortInfo.rendersFixed_of_saysSixBytes lax (h port hport)
    obtain ⟨values, again, hrenders, hreads, hlength, hagains⟩ := lists_of_rendersFixed hfixed
    refine ⟨_, toTrexDict_eq_ok.mpr ⟨values, hrenders, rfl⟩, ?_, ?_⟩
    · refine ⟨_, validate_entries hvalid hreads hlength, toTrexDict_eq_ok.mpr ⟨values, hagains, ?_⟩⟩
      rw [entries_withPorts values hlength]
    · intro mac hmac
      obtain ⟨rendered, hrendered, hmac⟩ := mem_renderedMacs hmac
      obtain ⟨port, hport, hrender⟩ := exists_of_mapM hrenders rendered hrendered
      exact PortInfo.isMacValue_of_rendered (hfixed port hport) hrender mac hmac

def singlePort (srcMac : String) : TrexConfig where
  portLimit := 1
  version := 2
  interfaces := [text "03:00.0"]
  portBandwidthGb := none
  portInfo := [{ ip := none, defaultGw := none, srcMac := some (.text (text srcMac)), destMac := none }]
  c := none
  enableZmqPub := none
  zmqPubPort := none
  telnetPort := none
  platform := none

def singlePortRequest (srcMac : String) : Value :=
  .obj [(text "port_limit", .int 1), (text "interfaces", .arr [.str (text "03:00.0")]),
    (text "port_info", .arr [.obj [(text "src_mac", .str (text srcMac))]])]

def singlePortRendered (srcMac : List Int) : Value :=
  .obj [(text "port_limit", .int 1), (text "version", .int 2),
    (text "interfaces", .arr [.str (text "03:00.0")]),
    (text "port_info", .arr [.obj [(text "src_mac", intsValue srcMac)]])]

theorem validate_singlePort (srcMac : String) :
    validate .strict (singlePortRequest srcMac) = .ok (singlePort srcMac) := by
  rfl

theorem toTrexDict_singlePort {srcMac : String} {ints : List Int}
    (h : macToInts (some (.text (text srcMac))) = .ok (some ints)) :
    (singlePort srcMac).toTrexDict = .ok (singlePortRendered ints) := by
  refine toTrexDict_eq_ok.mpr ⟨[.obj [(text "src_mac", intsValue ints)]], ?_, rfl⟩
  show [PortInfo.mk none none (some (.text (text srcMac))) none].mapM PortInfo.toTrexDict = _
  rw [List.mapM_cons, PortInfo.toTrexDict_eq_ok.mpr ⟨none, some ints, rfl, h, rfl⟩]
  rfl

theorem renders_fixed_singlePort :
    (singlePort "02:00:00:5d:82:d1").RendersFixed .strict :=
  (renders_fixed_iff .strict (singlePortRequest "02:00:00:5d:82:d1")
      (singlePort "02:00:00:5d:82:d1") (validate_singlePort _)).mpr fun port hport mac hmac => by
    cases List.mem_singleton.mp hport
    rcases hmac with hmac | hmac
    · cases hmac
      refine ⟨by decide +kernel, bytes_of_parts.mpr ⟨[2, 0, 0, 93, 130, 209], ?_⟩⟩
      decide +kernel
    · cases hmac

/-- A last part of 100, which is 256, is rendered; nothing then accepts it as a MAC, and it is not
rendered again. -/
theorem mac_part_overflows :
    validate .strict (singlePortRequest "02:00:00:5d:82:100")
        = .ok (singlePort "02:00:00:5d:82:100")
      ∧ ¬(singlePort "02:00:00:5d:82:100").RendersFixed .strict := by
  refine ⟨validate_singlePort _, ?_⟩
  rintro ⟨rendered, hrender, -, hmacs⟩
  have hport : macToInts (some (.text (text "02:00:00:5d:82:100")))
      = .ok (some [2, 0, 0, 93, 130, 256]) :=
    macToInts_text.mpr ⟨by decide +kernel, _, by decide +kernel, rfl⟩
  rw [toTrexDict_singlePort hport] at hrender
  cases hrender
  have hmem : intsValue [2, 0, 0, 93, 130, 256]
      ∈ renderedMacs (singlePortRendered [2, 0, 0, 93, 130, 256]) := List.mem_cons_self
  have hbytes := isMacValue_intsValue.mp (hmacs _ hmem)
  exact absurd hbytes (by decide)

end TrexConfig

end TrexWebui.ConfigModel
