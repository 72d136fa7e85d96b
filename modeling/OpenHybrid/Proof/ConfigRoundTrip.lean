import OpenHybrid.Proof.ConfigLines

/-!
# Settings as documented

Since no two keys share a field, the order of the lines does not matter, and a documented file comes
to the chosen settings unless one of them is not taken as documented.
-/

namespace OpenHybrid

open ByteMemory

variable {inetPton6 : List Byte → Option In6Addr} {choices : Choices}

/-! ### Stored settings -/

def Choices.fill (choices : Choices) (runtime : Runtime) : ConfigKey → Runtime
  | .haapAnycastIp =>
      { runtime with
        haap.anycastIp := (choices.haapAnycastIp.map Prod.snd).getD runtime.haap.anycastIp }
  | .lteInterface =>
      { runtime with
        lte.interfaceName :=
          ((choices.lteInterface.filter (· ≠ [])).map textBytes).getD runtime.lte.interfaceName }
  | .dslInterface =>
      { runtime with
        dsl.interfaceName :=
          ((choices.dslInterface.filter (· ≠ [])).map textBytes).getD runtime.dsl.interfaceName }
  | .tunnelInterface =>
      { runtime with
        tunnelInterfaceName :=
          ((choices.tunnelInterface.filter (· ≠ [])).map textBytes).getD
            runtime.tunnelInterfaceName }
  | .bonding => { runtime with bonding := choices.bonding.getD false || runtime.bonding }
  | .logLevel =>
      { runtime with
        logLevel := ((choices.logLevel.filter (· ≠ .fatal)).map DocumentedLevel.level).getD
          runtime.logLevel }
  | .tunnelInterfaceMtu =>
      { runtime with
        tunnelInterfaceMtu :=
          (choices.tunnelInterfaceMtu.map (BitVec.ofNat 16)).getD runtime.tunnelInterfaceMtu }
  | .activeHelloInterval =>
      { runtime with
        haap.activeHelloInterval :=
          (choices.activeHelloInterval.map (BitVec.ofNat 32)).getD
            runtime.haap.activeHelloInterval }
  | .helloRetryTimes =>
      { runtime with
        haap.helloRetryTimes :=
          (choices.helloRetryTimes.map (BitVec.ofNat 32)).getD runtime.haap.helloRetryTimes }
  | .eventScriptPath =>
      { runtime with
        eventScriptPath :=
          ((choices.eventScriptPath.filter (· ≠ [])).map textBytes).getD runtime.eventScriptPath }
  | .reorderBufferTimeout =>
      { runtime with
        reorderBufferTimeout :=
          (choices.reorderBufferTimeout.map fun (timeout : Nat) =>
            Timeval.mk (timeout / 1000) (timeout % 1000 * 1000)).getD
            runtime.reorderBufferTimeout }

/-- No two keys share a field. -/
theorem Choices.fill_comm (choices : Choices) (runtime : Runtime) (first second : ConfigKey) :
    choices.fill (choices.fill runtime first) second =
      choices.fill (choices.fill runtime second) first := by
  cases first <;> cases second <;> rfl

theorem storeLogLevel_text (level : DocumentedLevel) (runtime : Runtime) :
    storeLogLevel level.text runtime =
      if level = .fatal then runtime else { runtime with logLevel := level.level } := by
  cases level <;> rfl

theorem Choices.given_eq_none {key : ConfigKey} (hnone : choices.given key = none) :
    choices.value key = none ∨ choices.value key = some [] := by
  unfold given at hnone
  cases hvalue : choices.value key with
  | none => exact Or.inl rfl
  | some value =>
      refine Or.inr ?_
      rw [hvalue] at hnone
      simpa using hnone

theorem Choices.given_eq_some {key : ConfigKey} {setting : ConfigKey × List Byte}
    (hsome : choices.given key = some setting) :
    setting.1 = key ∧ choices.value key = some setting.2 ∧ setting.2 ≠ [] := by
  unfold given at hsome
  rw [Option.filter_eq_some_iff, Option.map_eq_some_iff] at hsome
  obtain ⟨⟨value, hvalue, rfl⟩, hne⟩ := hsome
  exact ⟨rfl, hvalue, of_decide_eq_true hne⟩

theorem Choices.fill_of_given_none (hin : choices.Within inetPton6) {key : ConfigKey}
    (runtime : Runtime) (hnone : choices.given key = none) : choices.fill runtime key = runtime := by
  have hnumber : ∀ {number : Option Nat},
      number.map decimal = none ∨ number.map decimal = some [] → number = none := by
    intro number hnumber
    cases number with
    | none => rfl
    | some n => exact absurd hnumber (by simp [decimal_ne_nil])
  have htext : ∀ {text : Option (List Byte)}, text = none ∨ text = some [] →
      text.filter (· ≠ []) = none := by
    rintro text (rfl | rfl) <;> rfl
  have hvalue := given_eq_none hnone
  cases key with
  | haapAnycastIp =>
      have hlisted : choices.haapAnycastIp = none := by
        cases hentry : choices.haapAnycastIp with
        | none => rfl
        | some entry =>
            have hne := (hin.address entry hentry).2.1
            exact absurd hvalue (by simp [value, hentry, hne])
      rw [fill, hlisted]
      rfl
  | lteInterface =>
      have hlisted : choices.lteInterface.filter (· ≠ []) = none := htext hvalue
      rw [fill, hlisted]
      rfl
  | dslInterface =>
      have hlisted : choices.dslInterface.filter (· ≠ []) = none := htext hvalue
      rw [fill, hlisted]
      rfl
  | tunnelInterface =>
      have hlisted : choices.tunnelInterface.filter (· ≠ []) = none := htext hvalue
      rw [fill, hlisted]
      rfl
  | bonding =>
      have hlisted : choices.bonding = none := by
        cases hbonding : choices.bonding with
        | none => rfl
        | some bonding =>
            cases bonding <;> exact absurd hvalue (by simp [value, hbonding]; decide)
      rw [fill, hlisted]
      rfl
  | logLevel =>
      have hlisted : choices.logLevel = none := by
        cases hlevel : choices.logLevel with
        | none => rfl
        | some level =>
            cases level <;> exact absurd hvalue (by simp [value, hlevel]; decide)
      rw [fill, hlisted]
      rfl
  | tunnelInterfaceMtu =>
      have hlisted : choices.tunnelInterfaceMtu = none := hnumber hvalue
      rw [fill, hlisted]
      rfl
  | activeHelloInterval =>
      have hlisted : choices.activeHelloInterval = none := hnumber hvalue
      rw [fill, hlisted]
      rfl
  | helloRetryTimes =>
      have hlisted : choices.helloRetryTimes = none := hnumber hvalue
      rw [fill, hlisted]
      rfl
  | eventScriptPath =>
      have hlisted : choices.eventScriptPath.filter (· ≠ []) = none := htext hvalue
      rw [fill, hlisted]
      rfl
  | reorderBufferTimeout =>
      have hlisted : choices.reorderBufferTimeout = none := hnumber hvalue
      rw [fill, hlisted]
      rfl

/-- What is read of a setting is stored as chosen. -/
theorem Choices.stored_of_given (hin : choices.Within inetPton6) {key : ConfigKey}
    {setting : ConfigKey × List Byte} (runtime : Runtime)
    (hsome : choices.given key = some setting) :
    setting.1.stored inetPton6 setting.2 runtime = choices.fill runtime key := by
  obtain ⟨stored, text⟩ := setting
  obtain ⟨rfl, hvalue, hne⟩ := given_eq_some hsome
  have hkept : (some text).filter (· ≠ []) = some text := by
    rw [Option.filter_some, if_pos (decide_eq_true hne)]
  dsimp only at hvalue ⊢
  cases stored with
  | haapAnycastIp =>
      obtain ⟨entry, hentry, rfl⟩ := Option.map_eq_some_iff.mp hvalue
      rw [ConfigKey.stored, fill, hentry, (hin.address entry hentry).1]
      rfl
  | lteInterface =>
      rw [ConfigKey.stored, fill, show choices.lteInterface = some text from hvalue, hkept]
      rfl
  | dslInterface =>
      rw [ConfigKey.stored, fill, show choices.dslInterface = some text from hvalue, hkept]
      rfl
  | tunnelInterface =>
      rw [ConfigKey.stored, fill, show choices.tunnelInterface = some text from hvalue, hkept]
      rfl
  | bonding =>
      have hwords : ascii "false" ≠ ascii "true" := by decide
      obtain ⟨bonding, hbonding, rfl⟩ := Option.map_eq_some_iff.mp hvalue
      rw [ConfigKey.stored, fill, hbonding]
      cases bonding
      · exact if_neg hwords
      · exact if_pos rfl
  | logLevel =>
      obtain ⟨level, hlevel, rfl⟩ := Option.map_eq_some_iff.mp hvalue
      rw [ConfigKey.stored, fill, hlevel, storeLogLevel_text, Option.filter_some]
      by_cases hfatal : level = .fatal
      · rw [if_pos hfatal, if_neg (by simpa using hfatal)]
        rfl
      · rw [if_neg hfatal, if_pos (decide_eq_true hfatal)]
        rfl
  | tunnelInterfaceMtu =>
      obtain ⟨mtu, hmtu, rfl⟩ := Option.map_eq_some_iff.mp hvalue
      have hsmall := (hin.mtu mtu hmtu).2
      rw [ConfigKey.stored, fill, hmtu, atoi_decimal (by omega), BitVec.ofInt_natCast]
      rfl
  | activeHelloInterval =>
      obtain ⟨interval, hinterval, rfl⟩ := Option.map_eq_some_iff.mp hvalue
      rw [ConfigKey.stored, fill, hinterval, atoi_decimal (hin.interval interval hinterval), BitVec.ofInt_natCast]
      rfl
  | helloRetryTimes =>
      obtain ⟨retryTimes, hretryTimes, rfl⟩ := Option.map_eq_some_iff.mp hvalue
      rw [ConfigKey.stored, fill, hretryTimes, atoi_decimal (hin.retryTimes retryTimes hretryTimes),
        BitVec.ofInt_natCast]
      rfl
  | eventScriptPath =>
      have hfits := (hin.path text hvalue).1
      have hcopy : copyText eventScriptPathOffset text _ = _ :=
        eventScriptPathField.copyText runtime (show text.length ≤ 128 by omega)
      rw [ConfigKey.stored, fill, show choices.eventScriptPath = some text from hvalue, hkept]
      exact hcopy
  | reorderBufferTimeout =>
      obtain ⟨timeout, htimeout, rfl⟩ := Option.map_eq_some_iff.mp hvalue
      rw [ConfigKey.stored, fill, htimeout, atoi_decimal (hin.timeout timeout htimeout),
        Int.tdiv_eq_ediv_of_nonneg (Int.natCast_nonneg _),
        Int.tmod_eq_emod_of_nonneg (Int.natCast_nonneg _)]
      rfl

/-- The order of the lines does not matter. -/
theorem foldl_configSettings (hin : choices.Within inetPton6) {lines : List ConfigText}
    (hlists : Lists lines choices) (finalNewline : Bool) (start : Runtime) :
    (configSettings (fileBytes lines finalNewline)).foldl
        (fun runtime setting => setting.1.stored inetPton6 setting.2 runtime) start =
      ConfigKey.all.foldl choices.fill start := by
  have hperm := configSettings_perm hin hlists finalNewline
  have hstored : ∀ setting ∈ configSettings (fileBytes lines finalNewline), ∀ runtime,
      setting.1.stored inetPton6 setting.2 runtime = choices.fill runtime setting.1 := by
    intro setting hmem runtime
    obtain ⟨key, -, hgiven⟩ := List.mem_filterMap.mp (hperm.mem_iff.mp hmem)
    rw [choices.stored_of_given hin runtime hgiven, (Choices.given_eq_some hgiven).1]
  calc _ = (ConfigKey.all.filterMap choices.given).foldl
          (fun runtime setting => setting.1.stored inetPton6 setting.2 runtime) start := by
        refine hperm.foldl_eq' ?_ start
        intro first hfirst second hsecond runtime
        rw [hstored first hfirst, hstored second hsecond, hstored first hfirst,
          hstored second hsecond, choices.fill_comm]
    _ = ConfigKey.all.foldl choices.fill start := by
        rw [List.foldl_filterMap]
        congr 1
        funext runtime key
        cases hgiven : choices.given key with
        | none => exact (choices.fill_of_given_none hin runtime hgiven).symm
        | some setting => exact choices.stored_of_given hin runtime hgiven

/-! ### Defaults -/

/-- What is taken of the choices: no empty name, no unspecified address, and `fatal` goes by
another name. -/
def Choices.taken (choices : Choices) : Choices :=
  { choices with
    haapAnycastIp := choices.haapAnycastIp.filter fun entry => entry.2 ≠ in6addrAny
    lteInterface := choices.lteInterface.filter (· ≠ [])
    dslInterface := choices.dslInterface.filter (· ≠ [])
    tunnelInterface := choices.tunnelInterface.filter (· ≠ [])
    logLevel := choices.logLevel.filter (· ≠ .fatal) }

theorem textBytes_nil {size : Nat} : (textBytes [] : Bytes size) = fun _ => 0 := rfl

theorem defaultsBefore_zero :
    defaultsBefore Runtime.zero =
      { Runtime.zero with
        logLevel := logInfo
        lte.interfaceName := textBytes (ascii "wwan0")
        dsl.interfaceName := textBytes (ascii "ppp0")
        reorderBufferTimeout := ⟨0, 250 * 1000⟩ } := by
  have hwwan : (ascii "wwan0").length ≤ 16 := by decide
  have hppp : (ascii "ppp0").length ≤ 16 := by decide
  have hlte : copyText lteInterfaceNameOffset (ascii "wwan0")
      { Runtime.zero with logLevel := logInfo } =
        { Runtime.zero with
          logLevel := logInfo
          lte.interfaceName := textBytes (ascii "wwan0") } :=
    lteInterfaceNameField.copyText { Runtime.zero with logLevel := logInfo } hwwan
  have hdsl : copyText dslInterfaceNameOffset (ascii "ppp0")
      { Runtime.zero with
        logLevel := logInfo
        lte.interfaceName := textBytes (ascii "wwan0") } =
        { Runtime.zero with
          logLevel := logInfo
          lte.interfaceName := textBytes (ascii "wwan0")
          dsl.interfaceName := textBytes (ascii "ppp0") } :=
    dslInterfaceNameField.copyText
      { Runtime.zero with logLevel := logInfo, lte.interfaceName := textBytes (ascii "wwan0") } hppp
  unfold defaultsBefore
  dsimp only
  rw [hlte, hdsl]
  rfl

theorem defaultTunnelInterfaceName_eq {runtime : Runtime} {name : List Byte} (hplain : Plain name)
    (hname : runtime.tunnelInterfaceName = textBytes name) :
    defaultTunnelInterfaceName runtime =
      { runtime with
        tunnelInterfaceName := textBytes (if name = [] then
          (if runtime.bonding then ascii "tun0" else ascii "gre1") else name) } := by
  have hwords : (ascii "tun0").length ≤ 16 ∧ (ascii "gre1").length ≤ 16 := by decide
  unfold defaultTunnelInterfaceName
  rw [hname]
  cases name with
  | nil =>
      have hcleared : tunnelInterfaceNameField.set runtime (fun _ => 0) = runtime := by
        rw [← textBytes_nil, ← hname]
        exact tunnelInterfaceNameField.set_get runtime
      have hfits : (if runtime.bonding then ascii "tun0" else ascii "gre1").length ≤ 16 := by
        split
        · exact hwords.1
        · exact hwords.2
      have hcopy := tunnelInterfaceNameField.copyText runtime hfits
      rw [hcleared] at hcopy
      have hzero : (textBytes [] : Bytes 16) 0 = 0 := rfl
      rw [if_pos hzero, if_pos rfl]
      exact hcopy
  | cons first rest =>
      have hfirst : (textBytes (first :: rest) : Bytes 16) 0 ≠ 0 :=
        (hplain first List.mem_cons_self).1
      rw [if_neg hfirst, if_neg (List.cons_ne_nil _ _), ← hname]

def Choices.filled (choices : Choices) : Runtime :=
  let timeout := choices.reorderBufferTimeout.getD 250
  { Runtime.zero with
    haap.anycastIp := (choices.haapAnycastIp.map Prod.snd).getD in6addrAny
    haap.activeHelloInterval := BitVec.ofNat 32 (choices.activeHelloInterval.getD 0)
    haap.helloRetryTimes := BitVec.ofNat 32 (choices.helloRetryTimes.getD 0)
    bonding := choices.bonding.getD false
    logLevel := (choices.taken.logLevel.map DocumentedLevel.level).getD logInfo
    tunnelInterfaceMtu := (choices.tunnelInterfaceMtu.map (BitVec.ofNat 16)).getD 0
    tunnelInterfaceName := textBytes (choices.taken.tunnelInterface.getD [])
    eventScriptPath := textBytes (choices.eventScriptPath.getD [])
    reorderBufferTimeout := ⟨timeout / 1000, timeout % 1000 * 1000⟩
    lte.interfaceName := textBytes (choices.taken.lteInterface.getD (ascii "wwan0"))
    dsl.interfaceName := textBytes (choices.taken.dslInterface.getD (ascii "ppp0")) }

/-- The settings in the order of the source fill the struct as chosen. -/
theorem Choices.foldl_fill (choices : Choices) :
    ConfigKey.all.foldl choices.fill (defaultsBefore Runtime.zero) = choices.filled := by
  have hpath : ((choices.eventScriptPath.filter (· ≠ [])).map textBytes).getD (fun _ => 0) =
      (textBytes (choices.eventScriptPath.getD []) : Bytes 128) := by
    rcases choices.eventScriptPath with _ | _ | _ <;> rfl
  have htimeout : (choices.reorderBufferTimeout.map fun (timeout : Nat) =>
      Timeval.mk (timeout / 1000) (timeout % 1000 * 1000)).getD ⟨0, 250 * 1000⟩ =
        Timeval.mk ((choices.reorderBufferTimeout.getD 250 : Nat) / 1000)
          ((choices.reorderBufferTimeout.getD 250 : Nat) % 1000 * 1000) := by
    rcases choices.reorderBufferTimeout with _ | _ <;> rfl
  rw [defaultsBefore_zero]
  unfold filled taken
  dsimp only
  rw [← hpath, ← htimeout]
  have hbonding : (choices.bonding.getD false || Runtime.zero.bonding) =
      choices.bonding.getD false := Bool.or_false _
  simp only [← Option.getD_map textBytes, ← Option.getD_map (BitVec.ofNat 32)]
  rw [← hbonding]
  rfl

theorem defaultAnycastIp_eq (hdefault : inetPton6 (ascii "2003:6::1") = some documentedIp)
    (runtime : Runtime) :
    defaultAnycastIp inetPton6 runtime =
      { runtime with
        haap.anycastIp :=
          if runtime.haap.anycastIp = in6addrAny then documentedIp
          else runtime.haap.anycastIp } := by
  unfold defaultAnycastIp
  rw [hdefault]
  split <;> rfl

theorem defaultTunnelInterfaceMtu_eq (runtime : Runtime) :
    defaultTunnelInterfaceMtu runtime =
      { runtime with
        tunnelInterfaceMtu :=
          if runtime.tunnelInterfaceMtu = 0 then (if runtime.bonding then 1440 else 1448)
          else runtime.tunnelInterfaceMtu } := by
  unfold defaultTunnelInterfaceMtu
  split <;> rfl

/-- The second part of the defaults completes what was read. -/
theorem defaultsBehind_filled (hin : choices.Within inetPton6)
    (hdefault : inetPton6 (ascii "2003:6::1") = some documentedIp) :
    defaultsBehind inetPton6 choices.filled = choices.taken.intended := by
  have hanycast : (if (choices.haapAnycastIp.map Prod.snd).getD in6addrAny = in6addrAny then
      documentedIp else (choices.haapAnycastIp.map Prod.snd).getD in6addrAny) =
        (choices.taken.haapAnycastIp.map Prod.snd).getD documentedIp := by
    unfold Choices.taken
    cases choices.haapAnycastIp with
    | none => rfl
    | some entry =>
        dsimp only
        rw [Option.filter_some, Option.map_some, Option.getD_some]
        by_cases hany : entry.2 = in6addrAny
        · rw [if_pos hany, if_neg (by simpa using hany)]
          rfl
        · rw [if_neg hany, if_pos (decide_eq_true hany)]
          rfl
  have hplain : Plain (choices.taken.tunnelInterface.getD []) := by
    unfold Choices.taken
    cases hname : choices.tunnelInterface with
    | none => exact fun char hmem => absurd hmem List.not_mem_nil
    | some name =>
        have hkept : ((some name).filter (· ≠ [])).getD [] = name := by cases name <;> rfl
        rw [hkept]
        exact (hin.tunnelName name hname).2
  have hmtu : (if (choices.tunnelInterfaceMtu.map (BitVec.ofNat 16)).getD 0 = 0 then
      (if choices.bonding.getD false then 1440 else 1448)
        else (choices.tunnelInterfaceMtu.map (BitVec.ofNat 16)).getD 0) =
          BitVec.ofNat 16 (choices.tunnelInterfaceMtu.getD
            (if choices.bonding.getD false then 1440 else 1448)) := by
    cases hvalue : choices.tunnelInterfaceMtu with
    | none => cases choices.bonding.getD false <;> rfl
    | some mtu =>
        have hrange := hin.mtu mtu hvalue
        have hne : BitVec.ofNat 16 mtu ≠ 0 := by
          intro heq
          have hnat := congrArg BitVec.toNat heq
          rw [BitVec.toNat_ofNat, Nat.mod_eq_of_lt (by omega)] at hnat
          exact absurd hnat (by change mtu ≠ 0; omega)
        exact if_neg hne
  have hname : (if choices.taken.tunnelInterface.getD [] = [] then
      (if choices.bonding.getD false then ascii "tun0" else ascii "gre1")
        else choices.taken.tunnelInterface.getD []) =
          choices.taken.tunnelInterface.getD
            (if choices.bonding.getD false then ascii "tun0" else ascii "gre1") := by
    unfold Choices.taken
    rcases choices.tunnelInterface with _ | _ | _ <;> rfl
  unfold defaultsBehind
  dsimp only
  rw [defaultAnycastIp_eq hdefault, defaultTunnelInterfaceName_eq hplain rfl,
    defaultTunnelInterfaceMtu_eq]
  unfold Choices.intended Choices.filled
  dsimp only
  rw [hanycast, hmtu, hname]
  rfl

/-! ### The round trip -/

theorem not_fatal_iff {file : List Byte} :
    (∀ line ∈ getlines file, ¬ Fatal line) ↔
      ∀ setting ∈ configSettings file, ¬ setting.1.Rejects setting.2 := by
  unfold configSettings Fatal
  constructor
  · intro hlines setting hmem hrejects
    obtain ⟨line, hline, hsetting⟩ := List.mem_filterMap.mp hmem
    exact hlines line hline ⟨setting, hsetting, hrejects⟩
  · rintro hsettings line hline ⟨setting, hsetting, hrejects⟩
    exact hsettings setting (List.mem_filterMap.mpr ⟨line, hline, hsetting⟩) hrejects

/-- No interface name is as long as the program says it may be. -/
structure Choices.Short (choices : Choices) : Prop where
  lteName : ∀ name ∈ choices.lteInterface, name.length ≤ 14
  dslName : ∀ name ∈ choices.dslInterface, name.length ≤ 14
  tunnelName : ∀ name ∈ choices.tunnelInterface, name.length ≤ 14

theorem Choices.given_rejects_iff (hin : choices.Within inetPton6) :
    (∀ setting ∈ ConfigKey.all.filterMap choices.given, ¬ setting.1.Rejects setting.2) ↔
      choices.Short := by
  constructor
  · intro haccepts
    have hshort : ∀ (key : ConfigKey) {name : List Byte}, choices.value key = some name →
        (key.Rejects name ↔ 15 ≤ name.length) → name.length ≤ 14 := by
      intro key name hvalue hrejects
      by_contra hlong
      have hne : name ≠ [] := by
        rintro rfl
        exact hlong (Nat.zero_le _)
      have hgiven : choices.given key = some (key, name) := by
        unfold given
        rw [hvalue, Option.map_some, Option.filter_some, if_pos (decide_eq_true hne)]
      exact haccepts (key, name) (List.mem_filterMap.mpr ⟨key, mem_all key, hgiven⟩)
        (hrejects.mpr (by omega))
    exact {
      lteName := fun name hname => hshort .lteInterface hname Iff.rfl
      dslName := fun name hname => hshort .dslInterface hname Iff.rfl
      tunnelName := fun name hname => hshort .tunnelInterface hname Iff.rfl }
  · rintro hshort ⟨stored, text⟩ hmem hrejects
    obtain ⟨key, -, hgiven⟩ := List.mem_filterMap.mp hmem
    obtain ⟨rfl, hvalue, -⟩ := given_eq_some hgiven
    dsimp only at hvalue hrejects
    cases stored with
    | lteInterface =>
        exact Nat.not_le.mpr (Nat.lt_succ_of_le (hshort.lteName text hvalue)) hrejects
    | dslInterface =>
        exact Nat.not_le.mpr (Nat.lt_succ_of_le (hshort.dslName text hvalue)) hrejects
    | tunnelInterface =>
        exact Nat.not_le.mpr (Nat.lt_succ_of_le (hshort.tunnelName text hvalue)) hrejects
    | tunnelInterfaceMtu =>
        obtain ⟨mtu, hmtu, rfl⟩ := Option.map_eq_some_iff.mp hvalue
        have hrange := hin.mtu mtu hmtu
        have hrejects : atoi (decimal mtu) < 1280 ∨ 1448 < atoi (decimal mtu) := hrejects
        rw [atoi_decimal (by omega)] at hrejects
        omega
    | _ => exact hrejects

/-- A file that lists the choices is read as what is taken of them, whatever the order, unless a
name is too long. -/
theorem readConfig_fileBytes_iff (hin : choices.Within inetPton6)
    (hdefault : inetPton6 (ascii "2003:6::1") = some documentedIp) {lines : List ConfigText}
    (hlists : Lists lines choices) (finalNewline : Bool) {runtime : Runtime} :
    readConfig inetPton6 (some (fileBytes lines finalNewline)) Runtime.zero = .ok runtime ↔
      choices.Short ∧ choices.taken.intended = runtime := by
  have hfatal : (∀ line ∈ getlines (fileBytes lines finalNewline), ¬ Fatal line) ↔
      choices.Short := by
    rw [not_fatal_iff, ← Choices.given_rejects_iff hin]
    exact forall_congr' fun setting =>
      imp_congr_left (configSettings_perm hin hlists finalNewline).mem_iff
  rw [readConfig_iff, hfatal, foldl_configSettings hin hlists, Choices.foldl_fill,
    defaultsBehind_filled hin hdefault]

/-- The choices come to what they mean: names of 1 to 14 characters, an address that is not the
unspecified one, and any log level but `fatal`. -/
structure Choices.Honoured (choices : Choices) : Prop where
  address : ∀ entry ∈ choices.haapAnycastIp, entry.2 ≠ in6addrAny
  lteName : ∀ name ∈ choices.lteInterface, 1 ≤ name.length ∧ name.length ≤ 14
  dslName : ∀ name ∈ choices.dslInterface, 1 ≤ name.length ∧ name.length ≤ 14
  tunnelName : ∀ name ∈ choices.tunnelInterface, 1 ≤ name.length ∧ name.length ≤ 14
  level : choices.logLevel ≠ some .fatal

theorem filter_of_forall {α : Type} {keeps : α → Bool} {value : Option α}
    (hkeeps : ∀ x ∈ value, keeps x) : value.filter keeps = value := by
  cases value with
  | none => rfl
  | some x => rw [Option.filter_some, if_pos (hkeeps x rfl)]

/-- A name that is not read leaves the default. -/
theorem name_ne_nil {name : Option (List Byte)} {word : List Byte} {first : Byte}
    (hword : word.head? = some first) (hfirst : first ≠ 0)
    (heq : (textBytes ((name.filter (· ≠ [])).getD word) : Bytes 16) =
      textBytes (name.getD word)) : ∀ text ∈ name, text ≠ [] := by
  rintro text hname rfl
  obtain ⟨rest, rfl⟩ := List.head?_eq_some_iff.mp hword
  rw [Option.mem_def.mp hname] at heq
  exact hfirst (congrFun heq 0)

/-- The choices come to what they mean exactly within the limits of the code. -/
theorem Choices.honoured_iff :
    choices.Short ∧ choices.taken.intended = choices.intended ↔ choices.Honoured := by
  constructor
  · rintro ⟨hshort, heq⟩
    have hwords : (ascii "wwan0").head? = some 119#8 ∧ (ascii "ppp0").head? = some 112#8 ∧
        (ascii "tun0").head? = some 116#8 ∧ (ascii "gre1").head? = some 103#8 := by
      decide
    have hlte := name_ne_nil hwords.1 (by decide)
      (congrArg (fun runtime => runtime.lte.interfaceName) heq)
    have hdsl := name_ne_nil hwords.2.1 (by decide)
      (congrArg (fun runtime => runtime.dsl.interfaceName) heq)
    have htunnel : ∀ text ∈ choices.tunnelInterface, text ≠ [] := by
      have hname := congrArg Runtime.tunnelInterfaceName heq
      unfold intended taken at hname
      dsimp only at hname
      cases hbonding : choices.bonding.getD false with
      | false =>
          rw [hbonding] at hname
          exact name_ne_nil hwords.2.2.2 (by decide) hname
      | true =>
          rw [hbonding] at hname
          exact name_ne_nil hwords.2.2.1 (by decide) hname
    exact {
      address := by
        intro entry hentry hany
        have hip := congrArg (fun runtime => runtime.haap.anycastIp) heq
        unfold intended taken at hip
        dsimp only at hip
        rw [Option.mem_def.mp hentry, Option.filter_some, if_neg (by simpa using hany)] at hip
        have hfirst : documentedIp 0 = entry.2 0 := congrFun hip 0
        rw [hany] at hfirst
        exact absurd hfirst (by decide)
      lteName := fun name hname =>
        ⟨List.length_pos_of_ne_nil (hlte name hname), hshort.lteName name hname⟩
      dslName := fun name hname =>
        ⟨List.length_pos_of_ne_nil (hdsl name hname), hshort.dslName name hname⟩
      tunnelName := fun name hname =>
        ⟨List.length_pos_of_ne_nil (htunnel name hname), hshort.tunnelName name hname⟩
      level := by
        intro hlevel
        have hlevels := congrArg Runtime.logLevel heq
        unfold intended taken at hlevels
        dsimp only at hlevels
        rw [hlevel] at hlevels
        exact absurd hlevels (by decide) }
  · intro hhonoured
    have hnonempty : ∀ {name : Option (List Byte)},
        (∀ text ∈ name, 1 ≤ text.length ∧ text.length ≤ 14) → name.filter (· ≠ []) = name :=
      fun hname => filter_of_forall fun text hmem =>
        decide_eq_true (List.ne_nil_of_length_pos (hname text hmem).1)
    have htaken : choices.taken = choices := by
      unfold taken
      rw [hnonempty hhonoured.lteName, hnonempty hhonoured.dslName,
        hnonempty hhonoured.tunnelName,
        filter_of_forall fun entry hentry => decide_eq_true (hhonoured.address entry hentry),
        filter_of_forall fun level hmem => decide_eq_true ?_]
      rintro rfl
      exact hhonoured.level hmem
    exact ⟨⟨fun name hname => (hhonoured.lteName name hname).2,
      fun name hname => (hhonoured.dslName name hname).2,
      fun name hname => (hhonoured.tunnelName name hname).2⟩, by rw [htaken]⟩

/-! ### Examples -/

def sampleChoices (name : List Byte) : Choices where
  haapAnycastIp := none
  lteInterface := some name
  dslInterface := none
  tunnelInterface := none
  bonding := some true
  logLevel := none
  tunnelInterfaceMtu := none
  activeHelloInterval := none
  helloRetryTimes := none
  eventScriptPath := none
  reorderBufferTimeout := some 300

def sampleLines (name : List Byte) : List ConfigText :=
  [.comment (ascii " in milli seconds"), .setting .reorderBufferTimeout (decimal 300), .blank 0,
    .setting .bonding (ascii "true"), .setting .lteInterface name]

theorem sampleChoices_within {name : List Byte} (hlength : name.length ≤ 15)
    (hplain : Plain name) : (sampleChoices name).Within parseDocumentedIp where
  address := by rintro _ ⟨⟩
  lteName := by
    rintro _ ⟨⟩
    exact ⟨hlength, hplain⟩
  dslName := by rintro _ ⟨⟩
  tunnelName := by rintro _ ⟨⟩
  mtu := by rintro _ ⟨⟩
  interval := by rintro _ ⟨⟩
  retryTimes := by rintro _ ⟨⟩
  path := by rintro _ ⟨⟩
  timeout := by
    rintro _ ⟨⟩
    decide

theorem sampleLines_lists (name : List Byte) : Lists (sampleLines name) (sampleChoices name) where
  settings := List.reverse_perm ([(.lteInterface, name), (.bonding, ascii "true"),
    (.reorderBufferTimeout, decimal 300)] : List (ConfigKey × List Byte))
  comments := by
    have hclean : (ascii " in milli seconds").all (· != newline) = true := by decide
    intro text hmem
    simp only [sampleLines, List.mem_cons, ConfigText.comment.injEq, reduceCtorEq, or_false,
      List.not_mem_nil] at hmem
    rw [hmem]
    intro hnewline
    exact absurd (List.all_eq_true.mp hclean newline hnewline) (by decide)

def longName : List Byte := ascii "enx0123456789ab"

theorem longName_length : longName.length = 15 := by decide

theorem longName_within : (sampleChoices longName).Within parseDocumentedIp :=
  sampleChoices_within longName_length.le (by decide)

/-- The settings are within the limits and listed as documented, and the program stops. -/
theorem longName_rejected :
    (sampleChoices longName).Within parseDocumentedIp ∧
      Lists (sampleLines longName) (sampleChoices longName) ∧
      ∀ runtime, readConfig parseDocumentedIp (some (fileBytes (sampleLines longName) true))
        Runtime.zero ≠ .ok runtime := by
  refine ⟨longName_within, sampleLines_lists longName, fun runtime haccepted => ?_⟩
  have hread := (readConfig_fileBytes_iff longName_within (if_pos rfl)
    (sampleLines_lists longName) true).mp haccepted
  exact absurd (hread.1.lteName longName rfl) (by rw [longName_length]; decide)

/-! ### The round trip as documented -/

/-- A file that lists settings within the limits once each, in any order and between comments and
blank lines, is accepted and comes to exactly these settings and the documented defaults if and only
if the settings are honoured. -/
theorem roundTrip_iff (hin : choices.Within inetPton6)
    (hdefault : inetPton6 (ascii "2003:6::1") = some documentedIp) {lines : List ConfigText}
    (hlists : Lists lines choices) (finalNewline : Bool) :
    readConfig inetPton6 (some (fileBytes lines finalNewline)) Runtime.zero =
        .ok choices.intended ↔ choices.Honoured :=
  (readConfig_fileBytes_iff hin hdefault hlists finalNewline).trans Choices.honoured_iff

/-- Three settings are read back. -/
theorem sampleChoices_roundTrip :
    readConfig parseDocumentedIp (some (fileBytes (sampleLines (ascii "eth1")) false))
      Runtime.zero = .ok (sampleChoices (ascii "eth1")).intended := by
  have hlength : (ascii "eth1").length = 4 := by decide
  have hin : (sampleChoices (ascii "eth1")).Within parseDocumentedIp :=
    sampleChoices_within (by omega) (by decide)
  refine (roundTrip_iff hin (if_pos rfl) (sampleLines_lists _) false).mpr ?_
  exact {
    address := by rintro _ ⟨⟩
    lteName := by
      rintro _ ⟨⟩
      omega
    dslName := by rintro _ ⟨⟩
    tunnelName := by rintro _ ⟨⟩
    level := by rintro ⟨⟩ }

end OpenHybrid
