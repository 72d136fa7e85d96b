import OpenHybrid.Proof.ConfigRoundTrip
import OpenHybrid.Proof.ConfigText
import OpenHybrid.Proof.EventCalls
import OpenHybrid.Proof.EventEnvironment
import OpenHybrid.Proof.InterfaceTable
import OpenHybrid.Proof.Leases

/-!
# From the configuration file to the event script

What `read_config` leaves behind is all that the main loop starts from, and the names in it end
inside their arrays. They stay so in every run, and the event script is told of them.
-/

namespace OpenHybrid

open ByteMemory Frame Transition

variable {inetPton6 : List Byte → Option In6Addr} {runtime : Runtime} {key : ConfigKey}
  {value : List Byte}

/-! ### What is configured -/

def Runtime.config (runtime : Runtime) : Config where
  anycastIp := runtime.haap.anycastIp
  activeHelloInterval := runtime.haap.activeHelloInterval
  helloRetryTimes := runtime.haap.helloRetryTimes
  bonding := runtime.bonding
  logLevel := runtime.logLevel
  tunnelInterfaceMtu := runtime.tunnelInterfaceMtu
  tunnelInterfaceName := runtime.tunnelInterfaceName
  eventScriptPath := runtime.eventScriptPath
  reorderBufferTimeout := runtime.reorderBufferTimeout
  lteInterfaceName := runtime.lte.interfaceName
  dslInterfaceName := runtime.dsl.interfaceName

def Config.configure (config : Config) (runtime : Runtime) : Runtime :=
  { runtime with
    haap.anycastIp := config.anycastIp
    haap.ip := config.anycastIp
    haap.activeHelloInterval := config.activeHelloInterval
    haap.helloRetryTimes := config.helloRetryTimes
    bonding := config.bonding
    logLevel := config.logLevel
    tunnelInterfaceMtu := config.tunnelInterfaceMtu
    tunnelInterfaceName := config.tunnelInterfaceName
    eventScriptPath := config.eventScriptPath
    reorderBufferTimeout := config.reorderBufferTimeout
    lte.interfaceName := config.lteInterfaceName
    dsl.interfaceName := config.dslInterfaceName }

def Runtime.unconfigured (runtime : Runtime) : Runtime :=
  Runtime.zero.config.configure runtime

structure Configuring (runtime : Runtime) : Prop where
  unconfigured : runtime.unconfigured = Runtime.zero
  lteName : runtime.lte.interfaceName 15 = 0
  dslName : runtime.dsl.interfaceName 15 = 0
  tunnelName : runtime.tunnelInterfaceName 15 = 0

theorem unconfigured_erase (key : ConfigKey) (runtime : Runtime) :
    (key.erase runtime).unconfigured = runtime.unconfigured := by
  cases key <;> rfl

/-- The loop begins with what the file has configured. -/
theorem Configuring.config_runtime (hconfiguring : Configuring runtime)
    (hip : runtime.haap.ip = runtime.haap.anycastIp) : runtime.config.runtime = runtime := by
  calc runtime.config.runtime
      _ = runtime.config.configure runtime.unconfigured := by
          rw [hconfiguring.unconfigured]
          rfl
      _ = { runtime with haap.ip := runtime.haap.anycastIp } := rfl
      _ = runtime := by rw [← hip]

theorem textBytes_last (hshort : value.length < 16) : (textBytes value : Bytes 16) 15 = 0 :=
  List.getD_eq_default _ _ (Nat.le_of_lt_succ hshort)

/-- **One setting.** -/
theorem Configuring.stored (hconfiguring : Configuring runtime) (haccepted : ¬ key.Rejects value)
    (hshort : key = .eventScriptPath → value.length < eventScriptPathSize) :
    Configuring (key.stored inetPton6 value runtime) := by
  have herase := (key.stored_contained inetPton6 runtime haccepted hshort).1
  have hrest : (key.stored inetPton6 value runtime).unconfigured = Runtime.zero := by
    rw [← unconfigured_erase key, herase, unconfigured_erase, hconfiguring.unconfigured]
  have hother : ∀ {name : Runtime → Bytes 16},
      (∀ runtime, name (key.erase runtime) = name runtime) → name runtime 15 = 0 →
        name (key.stored inetPton6 value runtime) 15 = 0 := by
    intro name hname hends
    rw [← hname, herase, hname, hends]
  cases key with
  | lteInterface =>
      exact ⟨hrest, textBytes_last (length_lt_of_name haccepted), hconfiguring.dslName,
        hconfiguring.tunnelName⟩
  | dslInterface =>
      exact ⟨hrest, hconfiguring.lteName, textBytes_last (length_lt_of_name haccepted),
        hconfiguring.tunnelName⟩
  | tunnelInterface =>
      exact ⟨hrest, hconfiguring.lteName, hconfiguring.dslName,
        textBytes_last (length_lt_of_name haccepted)⟩
  | _ =>
      exact ⟨hrest, @hother (fun runtime => runtime.lte.interfaceName) (fun _ => rfl)
        hconfiguring.lteName, @hother (fun runtime => runtime.dsl.interfaceName) (fun _ => rfl)
        hconfiguring.dslName, @hother Runtime.tunnelInterfaceName (fun _ => rfl)
        hconfiguring.tunnelName⟩

theorem configuring_defaultsBefore : Configuring (defaultsBefore Runtime.zero) := by
  have hwwan : (ascii "wwan0").length < 16 := by decide
  have hppp : (ascii "ppp0").length < 16 := by decide
  rw [defaultsBefore_zero]
  exact ⟨rfl, textBytes_last hwwan, textBytes_last hppp, rfl⟩

theorem Configuring.defaultTunnelInterfaceName (hconfiguring : Configuring runtime) :
    Configuring (OpenHybrid.defaultTunnelInterfaceName runtime) := by
  have hwords : (ascii "tun0").length < 15 ∧ (ascii "gre1").length < 15 := by decide
  unfold OpenHybrid.defaultTunnelInterfaceName
  split
  · have hlength : (if runtime.bonding then ascii "tun0" else ascii "gre1").length < 15 := by
      split
      · exact hwords.1
      · exact hwords.2
    generalize (if runtime.bonding then ascii "tun0" else ascii "gre1") = text at hlength
    have hcopied : copyText tunnelInterfaceNameOffset text runtime = _ :=
      tunnelInterfaceNameField.memcpy runtime (textMemory text) (by omega : text.length ≤ 16)
    rw [hcopied]
    exact ⟨hconfiguring.unconfigured, hconfiguring.lteName, hconfiguring.dslName,
      (if_neg (Nat.not_lt_of_lt hlength)).trans hconfiguring.tunnelName⟩
  · exact hconfiguring

variable (inetPton6) in
theorem Configuring.defaultsBehind (hconfiguring : Configuring runtime) :
    Configuring (OpenHybrid.defaultsBehind inetPton6 runtime) ∧
      (OpenHybrid.defaultsBehind inetPton6 runtime).haap.ip =
        (OpenHybrid.defaultsBehind inetPton6 runtime).haap.anycastIp := by
  have haddress : Configuring (defaultAnycastIp inetPton6 runtime) := by
    unfold defaultAnycastIp
    split
    · exact ⟨hconfiguring.unconfigured, hconfiguring.lteName, hconfiguring.dslName,
        hconfiguring.tunnelName⟩
    · exact hconfiguring
  have hname := haddress.defaultTunnelInterfaceName
  unfold OpenHybrid.defaultsBehind defaultTunnelInterfaceMtu
  dsimp only
  split
  · exact ⟨⟨hname.unconfigured, hname.lteName, hname.dslName, hname.tunnelName⟩, rfl⟩
  · exact ⟨⟨hname.unconfigured, hname.lteName, hname.dslName, hname.tunnelName⟩, rfl⟩

/-- Every path leaves room for its NUL. -/
def PathsFit (file : List Byte) : Prop :=
  ∀ value, (.eventScriptPath, value) ∈ configSettings file → value.length < eventScriptPathSize

instance : DecidablePred PathsFit := fun file =>
  decidable_of_iff (∀ setting ∈ configSettings file,
    setting.1 = .eventScriptPath → setting.2.length < eventScriptPathSize)
    ⟨fun hall _ hmem => hall _ hmem rfl, fun hfit setting hmem hkey =>
      hfit setting.2 (hkey ▸ hmem)⟩

/-- **The file is all the main loop starts from**, and the names in it end. -/
theorem configuring_of_readConfig {file : List Byte}
    (haccepted : readConfig inetPton6 (some file) Runtime.zero = .ok runtime)
    (hfit : PathsFit file) : Configuring runtime ∧ runtime.config.runtime = runtime := by
  obtain ⟨hlines, rfl⟩ := (readConfig_iff inetPton6).mp haccepted
  have hsettings := not_fatal_iff.mp hlines
  have hread : ∀ settings ⊆ configSettings file,
      Configuring (settings.foldl
        (fun runtime setting => setting.1.stored inetPton6 setting.2 runtime)
        (defaultsBefore Runtime.zero)) := by
    intro settings hsubset
    induction settings using List.reverseRecOn with
    | nil => exact configuring_defaultsBefore
    | append_singleton settings setting ih =>
        have hmem : setting ∈ configSettings file :=
          hsubset (List.mem_append_right _ (List.mem_singleton_self setting))
        rw [List.foldl_append]
        refine (ih fun other hother => hsubset (List.mem_append_left _ hother)).stored
          (hsettings setting hmem) fun hkey => ?_
        exact hfit setting.2 (hkey ▸ hmem)
  obtain ⟨hconfiguring, hip⟩ :=
    (hread _ (List.Subset.refl _)).defaultsBehind inetPton6
  exact ⟨hconfiguring, hconfiguring.config_runtime hip⟩

/-! ### What the script reads -/

theorem Configuring.namesEnd (hconfiguring : Configuring runtime) : NamesEnd runtime.settings where
  lte := List.mem_ofFn.mpr ⟨15, hconfiguring.lteName⟩
  dsl := List.mem_ofFn.mpr ⟨15, hconfiguring.dslName⟩
  tunnel := List.mem_ofFn.mpr ⟨15, hconfiguring.tunnelName⟩

structure Tells (env : List (List Byte)) (runtime : Runtime) : Prop where
  lteName : getenv "lte_interface_name" env = some (cString (List.ofFn runtime.lte.interfaceName))
  dslName : getenv "dsl_interface_name" env =
    if runtime.bonding then some (cString (List.ofFn runtime.dsl.interfaceName)) else none
  tunnelName : getenv "tunnel_interface_name" env =
    some (cString (List.ofFn runtime.tunnelInterfaceName))
  mtu : getenv "tunnel_interface_mtu" env = some (decimal runtime.tunnelInterfaceMtu.toNat)
  ip : getenv "dhcp_ip" env = some (inetNtop runtime.dhcp.ip)
  leaseTime : getenv "dhcp_lease_time" env = some (decimal runtime.dhcp.leaseTime.toNat)
  prefixAddress : getenv "dhcp6_prefix_address" env =
    some (inetNtop6 runtime.dhcp6.prefixAddress)
  prefixLength : getenv "dhcp6_prefix_length" env =
    some (decimal runtime.dhcp6.prefixLength.toNat)
  leaseTime6 : getenv "dhcp6_lease_time" env = some (decimal runtime.dhcp6.leaseTime.toNat)

/-- All variables, under their names. -/
theorem described_eq (hnames : NamesEnd runtime.settings) :
    described runtime =
      [(ascii "lte_interface_name", cString (List.ofFn runtime.lte.interfaceName))] ++
        (if runtime.bonding then
          [(ascii "dsl_interface_name", cString (List.ofFn runtime.dsl.interfaceName))] else []) ++
        [(ascii "tunnel_interface_name", cString (List.ofFn runtime.tunnelInterfaceName)),
          (ascii "tunnel_interface_mtu", decimal runtime.tunnelInterfaceMtu.toNat),
          (ascii "dhcp_ip", inetNtop runtime.dhcp.ip),
          (ascii "dhcp_lease_time", decimal runtime.dhcp.leaseTime.toNat),
          (ascii "dhcp6_prefix_address", inetNtop6 runtime.dhcp6.prefixAddress),
          (ascii "dhcp6_prefix_length", decimal runtime.dhcp6.prefixLength.toNat),
          (ascii "dhcp6_lease_time", decimal runtime.dhcp6.leaseTime.toNat)] := by
  have hlte : printArray runtime.lte.interfaceName = _ := printArray_of_mem hnames.lte
  have hdsl : printArray runtime.dsl.interfaceName = _ := printArray_of_mem hnames.dsl
  have htunnel : printArray runtime.tunnelInterfaceName = _ := printArray_of_mem hnames.tunnel
  have hip : straddr inetAddrstrlen (inetNtop runtime.dhcp.ip) = inetNtop runtime.dhcp.ip :=
    if_pos (Nat.lt_of_le_of_lt (length_inetNtop_le _) (by decide))
  have haddress : straddr inet6Addrstrlen (inetNtop6 runtime.dhcp6.prefixAddress) =
      inetNtop6 runtime.dhcp6.prefixAddress :=
    if_pos (Nat.lt_of_le_of_lt (length_inetNtop6_le _) (by decide))
  unfold described envVariables
  rw [hlte, hdsl, htunnel, hip, haddress]
  simp only [printUnsigned_eq]
  split <;> rfl

/-- The environment is printed, and says what the struct holds. -/
theorem tells_environment (hnames : NamesEnd runtime.settings) :
    ∃ env, environment runtime = some env ∧ Tells env runtime := by
  have hread : ∀ name, equalsSign ∉ ascii name →
      getenv name ((described runtime).map (Environ.entry equalsSign)) =
        (described runtime).lookup (ascii name) := fun name hname =>
    getenv_environment hnames (environment_eq hnames) hname
  refine ⟨_, environment_eq hnames, ?_⟩
  rw [described_eq hnames] at hread ⊢
  constructor <;> rw [hread _ (by decide)] <;> cases runtime.bonding <;> rfl

namespace Main

variable {configured : Runtime} {file : List Byte} {buffer : Memory}
  {history : History Input Output} {state next : State} {input : Input} {output : Output}

/-- What is configured stays so, up to every timer. -/
theorem settings_before
    (haccepted : readConfig inetPton6 (some file) Runtime.zero = .ok configured)
    (hfit : PathsFit file)
    (hrun : RunWhere Step (fun _ => ReceiveContained) (State.initial configured.config buffer)
      history state)
    (hcontained : ReceiveContained state input) (timer : Timer) :
    Configuring configured ∧
      (Timer.before input.answers timer (receive state input).process.quiet).runtime.settings =
        configured.settings := by
  obtain ⟨hconfiguring, hconfig⟩ := configuring_of_readConfig haccepted hfit
  refine ⟨hconfiguring, ?_⟩
  calc (Timer.before input.answers timer (receive state input).process.quiet).runtime.settings
      _ = (receive state input).process.runtime.settings := Timer.settings_before ..
      _ = state.process.runtime.settings := settings_receive hcontained
      _ = configured.config.runtime.settings := (unbonded_of_run hrun).1
      _ = configured.settings := by rw [hconfig]

/-- **The event script is told the truth**, and nothing is overrun on the way. The events of an
iteration are those of its calls, and at each call everything configured is still as `read_config`
left it. -/
theorem environment_printed
    (haccepted : readConfig inetPton6 (some file) Runtime.zero = .ok configured)
    (hfit : PathsFit file)
    (hrun : RunWhere Step (fun _ => ReceiveContained) (State.initial configured.config buffer)
      history state)
    (hcontained : ReceiveContained state input) (hstep : Step state input output next) :
    configured.config.runtime = configured ∧
      (∀ other : Runtime, other.settings = configured.settings →
        ∃ env, environment other = some env ∧ Tells env other) ∧
      triggered output.effects =
        (executionCalls input.answers (receive state input).process.quiet).flatMap
          EventCall.effects ∧
      ∀ call ∈ executionCalls input.answers (receive state input).process.quiet,
        call.runtime.settings = configured.settings ∧
          ∃ env, environment call.runtime = some env ∧ Tells env call.runtime := by
  obtain ⟨hconfiguring, hconfig⟩ := configuring_of_readConfig haccepted hfit
  have htold : ∀ other : Runtime, other.settings = configured.settings →
      ∃ env, environment other = some env ∧ Tells env other := fun other hother =>
    tells_environment (hother ▸ hconfiguring.namesEnd)
  refine ⟨hconfig, htold, ?_, fun call hmem => ?_⟩
  · rw [(output_of_step hstep).2.2, next_of_step hstep]
    exact shows_executeTimers input.answers (receive state input).process.quiet
  · have hsettings : call.runtime.settings = configured.settings :=
      (settings_executionCalls input.answers _ hmem).trans
        (settings_before haccepted hfit hrun hcontained .updateInterfaceIps).2
    exact ⟨hsettings, htold call.runtime hsettings⟩

def namedFile : List Byte :=
  ascii "lte interface = wwan1\ntunnel interface = hybrid0\nhello retry times = 3\n" ++
    ascii "event script path = /bin/event\n"

def namedRuntime : Runtime :=
  defaultsBehind parseDocumentedIp ((configSettings namedFile).foldl
    (fun runtime setting => setting.1.stored parseDocumentedIp setting.2 runtime)
    (defaultsBefore Runtime.zero))

def namedStart : State := State.initial namedRuntime.config fun _ => 0

def namedAccept : Input :=
  { silence ⟨20, 0⟩ with
    recvfrom := .datagram documentedIp (bareAccept 0x20)
    answers.udhcpc := ClientAnswers.busy 99 1 }

def namedLease : Input :=
  { silence ⟨25, 0⟩ with
    answers.udhcpc := ⟨true, 99, 1, some 0, some (ascii "ip=192.0.2.1\nlease=3600\n")⟩
    answers.inetPton := fun text =>
      if text = ascii "192.0.2.1" then some fun i => [192#8, 0, 2, 1].getD i 0 else none }

theorem names_of_settings {first second : Runtime} (hsettings : first.settings = second.settings) :
    first.lte.interfaceName = second.lte.interfaceName ∧
      first.tunnelInterfaceName = second.tunnelInterfaceName ∧
      first.tunnelInterfaceMtu = second.tunnelInterfaceMtu :=
  ⟨congrArg Settings.lteInterfaceName hsettings, congrArg Settings.tunnelInterfaceName hsettings,
    congrArg Settings.tunnelInterfaceMtu hsettings⟩

def namedCalls : List EventCall :=
  executionCalls namedLease.answers
    (receive (iteration namedStart namedAccept) namedLease).process.quiet

theorem namedCalls_lease :
    namedCalls.map (fun call => (call.name, call.runtime.scripted, inetNtop call.runtime.dhcp.ip,
      call.runtime.dhcp.leaseTime)) = [(.dhcpupIp, true, ascii "192.0.2.1", 3600)] := by
  decide +kernel

/-- The script hears of the lease, and of the names in the file. -/
theorem namedLease_printed :
    triggered (outputOf (iteration namedStart namedAccept) namedLease).effects =
        [.event .dhcpupIp] ∧
      ∃ call ∈ namedCalls, ∃ env, environment call.runtime = some env ∧
        getenv "lte_interface_name" env = some (ascii "wwan1") ∧
        getenv "tunnel_interface_name" env = some (ascii "hybrid0") ∧
        getenv "tunnel_interface_mtu" env = some (ascii "1448") ∧
        getenv "dhcp_ip" env = some (ascii "192.0.2.1") ∧
        getenv "dhcp_lease_time" env = some (ascii "3600") := by
  have haccepted : readConfig parseDocumentedIp (some namedFile) Runtime.zero = .ok namedRuntime :=
    (readConfig_iff _).mpr ⟨by decide, rfl⟩
  have hrun : RunWhere Step (fun _ => ReceiveContained)
      (State.initial namedRuntime.config fun _ => 0) _ (iteration namedStart namedAccept) :=
    .snoc .nil (contained_of_bareAccept namedStart rfl) (step_outputOf rfl namedAccept)
  have hcontained : ReceiveContained (iteration namedStart namedAccept) namedLease :=
    contained_of_failed _ rfl
  obtain ⟨-, -, hevents, htold⟩ := environment_printed haccepted (by decide) hrun hcontained
    (step_outputOf (by decide +kernel) namedLease)
  rw [← namedCalls] at hevents htold
  obtain ⟨call, hcall, hvalue⟩ := List.map_eq_singleton_iff.mp namedCalls_lease
  simp only [Prod.mk.injEq] at hvalue
  obtain ⟨hname, hscripted, hip, hlease⟩ := hvalue
  have hsingle := List.mem_singleton_self call
  rw [← hcall] at hsingle
  obtain ⟨hsettings, env, henv, htells⟩ := htold call hsingle
  obtain ⟨hlte, htunnel, hmtu⟩ := names_of_settings hsettings
  refine ⟨?_, call, hsingle, env, henv, ?_, ?_, ?_, ?_, ?_⟩
  · rw [hevents, hcall, List.flatMap_singleton, EventCall.effects, hscripted, if_pos rfl, hname]
  · rw [htells.lteName, hlte]
    decide
  · rw [htells.tunnelName, htunnel]
    decide
  · rw [htells.mtu, hmtu]
    decide
  · rw [htells.ip, hip]
  · rw [htells.leaseTime, hlease]
    decide

end Main

end OpenHybrid
