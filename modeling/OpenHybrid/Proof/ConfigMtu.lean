import OpenHybrid.Proof.Config
import OpenHybrid.Proof.Events
import OpenHybrid.Proof.Upstream

/-!
# The MTU of the tunnel interface

The MTU is checked line by line, whatever the mode. The default knows the mode, and the tun device
only has the configured MTU when setting it does not fail.
-/

namespace OpenHybrid

open ByteMemory

variable {inetPton6 : List Byte → Option In6Addr} {file : List Byte} {runtime : Runtime}

/-! ### What an accepted file leaves -/

def Bonds (file : List Byte) : Prop := (.bonding, ascii "true") ∈ configSettings file

instance (file : List Byte) : Decidable (Bonds file) := inferInstanceAs (Decidable (_ ∈ _))

def explicitMtu (settings : List (ConfigKey × List Byte)) : Option Int :=
  ((settings.filter fun setting => setting.1 = .tunnelInterfaceMtu).getLast?).map fun setting =>
    atoi setting.2

theorem copyText_behind {offset : Nat} (hoffset : 62 ≤ offset) (text : List Byte)
    (runtime : Runtime) :
    (copyText offset text runtime).tunnelInterfaceMtu = runtime.tunnelInterfaceMtu ∧
      (copyText offset text runtime).bonding = runtime.bonding := by
  unfold copyText
  induction text.length with
  | zero => exact ⟨rfl, rfl⟩
  | succ length ih =>
      rw [Runtime.memcpy]
      constructor
      · rw [← ih.1]
        simp only [Runtime.poke, apply_ite Runtime.tunnelInterfaceMtu, ite_self]
        repeat rw [if_neg (by omega)]
      · rw [← ih.2]
        simp only [Runtime.poke, apply_ite Runtime.bonding, ite_self]
        repeat rw [if_neg (by omega)]

theorem stored_bonding (key : ConfigKey) (value : List Byte) (runtime : Runtime) :
    (key.stored inetPton6 value runtime).bonding = true ↔
      runtime.bonding = true ∨ (key, value) = (.bonding, ascii "true") := by
  cases key with
  | bonding =>
      unfold ConfigKey.stored
      dsimp only
      by_cases hvalue : value = ascii "true" <;> simp [hvalue]
  | logLevel =>
      obtain ⟨level, hlevel⟩ := storeLogLevel_eq value runtime
      have hstored : ConfigKey.stored inetPton6 value runtime .logLevel =
        { runtime with logLevel := level } := hlevel
      simp [hstored]
  | eventScriptPath =>
      have hcopy := (copyText_behind (show 62 ≤ eventScriptPathOffset by decide) value
        { runtime with eventScriptPath := fun _ => 0 }).2
      have hstored : (ConfigKey.stored inetPton6 value runtime .eventScriptPath).bonding =
        runtime.bonding := hcopy
      simp [hstored]
  | _ => simp [ConfigKey.stored]

theorem stored_mtu (key : ConfigKey) (value : List Byte) (runtime : Runtime) :
    (key.stored inetPton6 value runtime).tunnelInterfaceMtu =
      if key = .tunnelInterfaceMtu then BitVec.ofInt 16 (atoi value)
      else runtime.tunnelInterfaceMtu := by
  cases key with
  | bonding =>
      unfold ConfigKey.stored
      dsimp only
      split <;> rfl
  | logLevel =>
      obtain ⟨level, hlevel⟩ := storeLogLevel_eq value runtime
      have hstored : ConfigKey.stored inetPton6 value runtime .logLevel =
        { runtime with logLevel := level } := hlevel
      rw [hstored]
      rfl
  | eventScriptPath =>
      exact (copyText_behind (show 62 ≤ eventScriptPathOffset by decide) value _).1
  | _ => rfl

/-- Nothing switches bonding off again. -/
theorem foldl_bonding (settings : List (ConfigKey × List Byte)) (start : Runtime) :
    (settings.foldl (fun runtime setting => setting.1.stored inetPton6 setting.2 runtime)
        start).bonding = true ↔
      start.bonding = true ∨ (.bonding, ascii "true") ∈ settings := by
  induction settings generalizing start with
  | nil => simp
  | cons setting rest ih =>
      rw [List.foldl_cons, ih, stored_bonding, List.mem_cons, or_assoc]
      exact or_congr_right (or_congr_left eq_comm)

/-- The last line wins. -/
theorem foldl_mtu (settings : List (ConfigKey × List Byte)) (start : Runtime) :
    (settings.foldl (fun runtime setting => setting.1.stored inetPton6 setting.2 runtime)
        start).tunnelInterfaceMtu =
      ((explicitMtu settings).map (BitVec.ofInt 16)).getD start.tunnelInterfaceMtu := by
  induction settings using List.reverseRecOn with
  | nil => rfl
  | append_singleton settings setting ih =>
      rw [List.foldl_append, List.foldl_cons, List.foldl_nil, stored_mtu, ih]
      unfold explicitMtu
      rw [List.filter_append, List.filter_singleton]
      by_cases hkey : setting.1 = .tunnelInterfaceMtu
      · simp [hkey]
      · simp [hkey]

/-- An MTU that is accepted lies between 1280 and 1448. -/
theorem explicitMtu_range {lines : List (List Byte)} (haccepted : ∀ line ∈ lines, ¬ Fatal line)
    {mtu : Int} (hmtu : mtu ∈ explicitMtu (lines.filterMap lineSetting)) :
    1280 ≤ mtu ∧ mtu ≤ 1448 := by
  obtain ⟨⟨key, value⟩, hlast, rfl⟩ := Option.map_eq_some_iff.mp hmtu
  obtain ⟨hmem, hkey⟩ := List.mem_filter.mp (List.mem_of_getLast? hlast)
  obtain ⟨line, hline, hsetting⟩ := List.mem_filterMap.mp hmem
  obtain rfl : key = .tunnelInterfaceMtu := of_decide_eq_true hkey
  have hnot : ¬ (atoi value < 1280 ∨ 1448 < atoi value) := fun hrejects =>
    haccepted line hline ⟨_, hsetting, hrejects⟩
  dsimp only
  omega

variable (inetPton6) in
theorem defaultsBehind_mode (runtime : Runtime) :
    (defaultsBehind inetPton6 runtime).bonding = runtime.bonding ∧
      (defaultsBehind inetPton6 runtime).tunnelInterfaceMtu =
        if runtime.tunnelInterfaceMtu = 0 then (if runtime.bonding then 1440 else 1448)
        else runtime.tunnelInterfaceMtu := by
  set addressed := defaultAnycastIp inetPton6 runtime with haddressed
  set named := defaultTunnelInterfaceName addressed with hnamed
  have haddress : addressed.bonding = runtime.bonding ∧
      addressed.tunnelInterfaceMtu = runtime.tunnelInterfaceMtu := by
    rw [haddressed, defaultAnycastIp]
    split <;> exact ⟨rfl, rfl⟩
  have hname : named.bonding = addressed.bonding ∧
      named.tunnelInterfaceMtu = addressed.tunnelInterfaceMtu := by
    rw [hnamed, defaultTunnelInterfaceName]
    split
    · exact (copyText_behind (by decide) _ _).symm
    · exact ⟨rfl, rfl⟩
  have hmode := And.intro (hname.1.trans haddress.1) (hname.2.trans haddress.2)
  have hdefaults : defaultsBehind inetPton6 runtime =
      defaultTunnelInterfaceMtu { named with haap.ip := named.haap.anycastIp } := rfl
  rw [hdefaults, defaultTunnelInterfaceMtu, ← hmode.1, ← hmode.2]
  split <;> exact ⟨rfl, rfl⟩

theorem readConfig_mode (haccepted : readConfig inetPton6 (some file) Runtime.zero = .ok runtime) :
    (runtime.bonding = true ↔ Bonds file) ∧
      (runtime.tunnelInterfaceMtu.toNat : Int) =
        (explicitMtu (configSettings file)).getD (if Bonds file then 1440 else 1448) := by
  obtain ⟨hlines, rfl⟩ := (readConfig_iff inetPton6).mp haccepted
  set stored := (configSettings file).foldl
    (fun runtime setting => setting.1.stored inetPton6 setting.2 runtime)
    (defaultsBefore Runtime.zero) with hstored
  have hzero : (defaultsBefore Runtime.zero).bonding = false ∧
      (defaultsBefore Runtime.zero).tunnelInterfaceMtu = 0 := ⟨rfl, rfl⟩
  have hbonds : stored.bonding = true ↔ Bonds file := by
    rw [hstored, foldl_bonding, hzero.1]
    exact or_iff_right Bool.false_ne_true
  have hexplicit : stored.tunnelInterfaceMtu = _ := foldl_mtu (configSettings file) _
  rw [hzero.2] at hexplicit
  obtain ⟨hbonding, hmtu⟩ := defaultsBehind_mode inetPton6 stored
  rw [hbonding, hmtu, hexplicit]
  refine ⟨hbonds, ?_⟩
  cases hlast : explicitMtu (configSettings file) with
  | none =>
      simp only [Option.map_none, Option.getD_none, if_true, hbonds]
      split <;> rfl
  | some mtu =>
      obtain ⟨hsmall, hlarge⟩ := explicitMtu_range hlines hlast
      have hnat : (BitVec.ofInt 16 mtu).toNat = mtu.toNat := by
        rw [BitVec.toNat_ofInt]
        omega
      have hne : BitVec.ofInt 16 mtu ≠ 0 := by
        intro hzero
        rw [hzero] at hnat
        simp only [BitVec.ofNat_eq_ofNat, BitVec.toNat_ofNat] at hnat
        omega
      simp only [Option.map_some, Option.getD_some, if_neg hne, hnat]
      omega

/-! ### Outside the tunnel -/

/-- A packet as large as the MTU still fits into 1500 bytes behind its IPv6 and GRE headers, and
behind the PPPoE header of a bonded line. -/
def Unfragmented (runtime : Runtime) : Prop :=
  runtime.tunnelInterfaceMtu.toNat + 40 + 12 + (if runtime.bonding then 8 else 0) ≤ 1500

/-- The default MTU is right for its mode; an explicit one need not be. -/
theorem unfragmented_iff
    (haccepted : readConfig inetPton6 (some file) Runtime.zero = .ok runtime) :
    Unfragmented runtime ↔
      ¬ Bonds file ∨ ∀ mtu ∈ explicitMtu (configSettings file), mtu ≤ 1440 := by
  obtain ⟨hbonding, hmtu⟩ := readConfig_mode haccepted
  have hlines := ((readConfig_iff inetPton6).mp haccepted).1
  unfold Unfragmented
  cases hexplicit : explicitMtu (configSettings file) with
  | none =>
      rw [hexplicit, Option.getD_none] at hmtu
      by_cases hbonds : Bonds file
      · rw [if_pos hbonds] at hmtu
        rw [if_pos (hbonding.mpr hbonds)]
        exact iff_of_true (by omega) (Or.inr (by simp))
      · rw [if_neg hbonds] at hmtu
        rw [if_neg (mt hbonding.mp hbonds)]
        exact iff_of_true (by omega) (Or.inl hbonds)
  | some mtu =>
      obtain ⟨-, hlarge⟩ := explicitMtu_range hlines hexplicit
      rw [hexplicit, Option.getD_some] at hmtu
      by_cases hbonds : Bonds file
      · rw [if_pos (hbonding.mpr hbonds)]
        simp only [hbonds, not_true_eq_false, false_or, Option.mem_some_iff, forall_eq']
        omega
      · rw [if_neg (mt hbonding.mp hbonds)]
        exact iff_of_true (by omega) (Or.inl hbonds)

def bondingFile : List Byte := ascii "bonding = true\n"

theorem bondingFile_accepted :
    ∃ runtime, readConfig parseDocumentedIp (some bondingFile) Runtime.zero = .ok runtime :=
  ⟨_, (readConfig_iff _).mpr ⟨by decide, rfl⟩⟩

/-- The default leaves room for the PPPoE header. -/
theorem bondingFile_unfragmented : ∃ runtime,
    readConfig parseDocumentedIp (some bondingFile) Runtime.zero = .ok runtime ∧
      Unfragmented runtime := by
  obtain ⟨runtime, haccepted⟩ := bondingFile_accepted
  exact ⟨runtime, haccepted, (unfragmented_iff haccepted).mpr (Or.inr (by decide))⟩

def largeMtuFile : List Byte := ascii "bonding = true\ntunnel interface mtu = 1448\n"

/-- An MTU of 1448 does not. -/
theorem largeMtuFile_fragments : ∃ runtime,
    readConfig parseDocumentedIp (some largeMtuFile) Runtime.zero = .ok runtime ∧
      ¬ Unfragmented runtime := by
  have haccepted : readConfig parseDocumentedIp (some largeMtuFile) Runtime.zero = .ok _ :=
    (readConfig_iff _).mpr ⟨by decide, rfl⟩
  obtain ⟨hbonding, hmtu⟩ := readConfig_mode haccepted
  have hexplicit : explicitMtu (configSettings largeMtuFile) = some 1448 := by decide
  rw [hexplicit, Option.getD_some] at hmtu
  refine ⟨_, haccepted, ?_⟩
  unfold Unfragmented
  rw [if_pos (hbonding.mpr (by decide))]
  omega

/-! ### Inside the send buffer -/

/-- The MTU the device works with: the kernel gives a new tun device 1500. -/
def TunDevice.mtuInUse (device : TunDevice) : Nat := (device.mtu.map BitVec.toNat).getD 1500

/-- Everything that can be read from the device fits into the buffer of `send_gre` behind the GRE
header and the sequence number. -/
def Encapsulates (answers : Answers) (process : Process) : Prop :=
  ∀ device, .tunDeviceCreated device ∈
      (createTunTunnelDev answers { process with effects := [] }).2.effects →
    ∀ (state : Tun2gre.State) (input : Tun2gre.Input), input.read.length ≤ device.mtuInUse →
      ∀ call ∈ Tun2gre.calls state input,
        (call.message input.runtime).bytes.length ≤ maxPktSize

theorem mem_createTunTunnelDev (answers : Answers) (process : Process) {device : TunDevice} :
    .tunDeviceCreated device ∈
        (createTunTunnelDev answers { process with effects := [] }).2.effects ↔
      0 ≤ answers.tun.fd ∧ answers.tun.tunSetIff = true ∧ device = {
        name := process.runtime.tunnelInterfaceName
        mtu := if answers.tun.siocSifMtu then some process.runtime.tunnelInterfaceMtu else none
        up := answers.tun.siocSifFlags } := by
  unfold createTunTunnelDev
  dsimp only
  by_cases hfd : answers.tun.fd < 0
  · rw [if_pos hfd]
    simp [hfd]
  · rw [if_neg hfd]
    cases answers.tun.tunSetIff with
    | false => simp [Process.emit]
    | true =>
        have hevent : ∀ name, .tunDeviceCreated device ∉
            if process.runtime.scripted then [Effect.event name] else [] := by
          intro name
          split <;> simp
        simp only [Bool.not_true, Bool.false_eq_true, if_false, effects_triggerEvent, Process.emit,
          List.nil_append, List.mem_append, List.mem_singleton, hevent, or_false, not_lt.mp hfd,
          true_and, Effect.tunDeviceCreated.injEq]

def longPacket : Tun2gre.Input := ⟨0x45#8 :: List.replicate 1488 0, Tun2gre.bondedRuntime⟩

theorem longPacket_read : longPacket.read.length = 1489 := by
  rw [longPacket, List.length_cons, List.length_replicate]

/-- It is sent, and its message is one byte longer than the buffer. -/
theorem exists_call_longPacket (state : Tun2gre.State) : ∃ call ∈ Tun2gre.calls state longPacket,
    (call.message longPacket.runtime).bytes.length = 1501 := by
  have hcalls : Tun2gre.calls state longPacket =
      [⟨grecpTuntypeLte, Tun2gre.etherproto longPacket.packet, state.sequence, true,
        longPacket.packet⟩] := Tun2gre.calls_eq state (Or.inl rfl)
  have hlength : longPacket.packet.length = 1489 := by
    rw [Tun2gre.Input.packet, List.length_take, longPacket_read, maxPktSize]
    rfl
  rw [hcalls]
  refine ⟨_, List.mem_singleton_self _, ?_⟩
  rw [Tun2gre.Call.message_length _ rfl, hlength]

/-- A device that hands out more than 1488 bytes overruns the buffer. -/
theorem not_encapsulates {answers : Answers} {process : Process} {device : TunDevice}
    (hdevice : .tunDeviceCreated device ∈
      (createTunTunnelDev answers { process with effects := [] }).2.effects)
    (hlarge : 1488 < device.mtuInUse) : ¬ Encapsulates answers process := by
  intro hencapsulates
  obtain ⟨call, hcall, hlength⟩ := exists_call_longPacket (Tun2gre.State.initial fun _ => 0)
  have hread : longPacket.read.length ≤ device.mtuInUse := by
    rw [longPacket_read]
    omega
  have hfits := hencapsulates device hdevice _ longPacket hread call hcall
  rw [hlength, maxPktSize] at hfits
  omega

theorem mtu_le (haccepted : readConfig inetPton6 (some file) Runtime.zero = .ok runtime) :
    runtime.tunnelInterfaceMtu.toNat ≤ 1448 := by
  have hlines := ((readConfig_iff inetPton6).mp haccepted).1
  have hmtu := (readConfig_mode haccepted).2
  cases hexplicit : explicitMtu (configSettings file) with
  | none =>
      rw [hexplicit, Option.getD_none] at hmtu
      split at hmtu <;> omega
  | some mtu =>
      have hrange := explicitMtu_range hlines hexplicit
      rw [hexplicit, Option.getD_some] at hmtu
      omega

/-- **Encapsulation fits** exactly as long as the device has an MTU of at most 1488, and what a file
sets is at most that. -/
theorem encapsulates_iff (answers : Answers)
    (haccepted : readConfig inetPton6 (some file) Runtime.zero = .ok runtime) :
    (∀ process, Encapsulates answers process ↔
      answers.tun.fd < 0 ∨ answers.tun.tunSetIff = false ∨
        (answers.tun.siocSifMtu = true ∧ process.runtime.tunnelInterfaceMtu.toNat ≤ 1488)) ∧
      runtime.tunnelInterfaceMtu.toNat ≤ 1488 := by
  refine ⟨fun process => ⟨fun hencapsulates => ?_, fun hmode device hmem state input hread call hcall =>
    ?_⟩, (mtu_le haccepted).trans (by decide)⟩
  · by_contra hnot
    obtain ⟨hfd, hnot⟩ := not_or.mp hnot
    obtain ⟨hset, hnot⟩ := not_or.mp hnot
    have hdevice := (mem_createTunTunnelDev answers process).mpr
      ⟨not_lt.mp hfd, Bool.eq_true_of_not_eq_false hset, rfl⟩
    refine not_encapsulates hdevice ?_ hencapsulates
    cases hconfigured : answers.tun.siocSifMtu with
    | false => simp [TunDevice.mtuInUse]
    | true =>
        rw [hconfigured, not_and] at hnot
        simpa [TunDevice.mtuInUse] using hnot rfl
  · obtain ⟨hfd, hset, rfl⟩ := (mem_createTunTunnelDev answers process).mp hmem
    have hconfigured : answers.tun.siocSifMtu = true ∧
        process.runtime.tunnelInterfaceMtu.toNat ≤ 1488 := by
      rcases hmode with hnone | hnone | hconfigured
      · exact absurd hnone (not_lt.mpr hfd)
      · exact absurd hset (by rw [hnone]; decide)
      · exact hconfigured
    obtain ⟨hsequence, hpayload⟩ := Tun2gre.mem_calls hcall
    rw [Tun2gre.Call.message_length _ hsequence, hpayload, Tun2gre.Input.packet, List.length_take]
    simp only [TunDevice.mtuInUse, hconfigured.1, if_true, Option.map_some, Option.getD_some] at hread
    have hsmall := hconfigured.2
    rw [maxPktSize]
    omega

theorem bondingFile_encapsulates : ∃ runtime,
    readConfig parseDocumentedIp (some bondingFile) Runtime.zero = .ok runtime ∧
      Encapsulates (Answers.plain ⟨20, 0⟩) ⟨runtime, 0, 0, false, []⟩ := by
  obtain ⟨runtime, haccepted⟩ := bondingFile_accepted
  obtain ⟨hiff, hmtu⟩ := encapsulates_iff (Answers.plain ⟨20, 0⟩) haccepted
  exact ⟨runtime, haccepted, (hiff _).mpr (Or.inr (Or.inr ⟨rfl, hmtu⟩))⟩

def Answers.unsetMtu : Answers :=
  { Answers.plain ⟨20, 0⟩ with tun := ⟨3, true, false, true⟩ }

/-- With its own MTU of 1500 the device hands over packets that are too long. -/
theorem unsetMtu_overflows : ∃ runtime,
    readConfig parseDocumentedIp (some bondingFile) Runtime.zero = .ok runtime ∧
      ¬ Encapsulates Answers.unsetMtu ⟨runtime, 0, 0, false, []⟩ := by
  obtain ⟨runtime, haccepted⟩ := bondingFile_accepted
  have hdevice := (mem_createTunTunnelDev Answers.unsetMtu ⟨runtime, 0, 0, false, []⟩).mpr
    ⟨show (0 : Int) ≤ 3 by decide, rfl, rfl⟩
  exact ⟨runtime, haccepted, not_encapsulates hdevice (show 1488 < 1500 by decide)⟩

end OpenHybrid
