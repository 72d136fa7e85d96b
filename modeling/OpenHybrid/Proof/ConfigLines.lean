import OpenHybrid.Proof.Config
import OpenHybrid.Proof.Text

/-!
# The configuration file as it is documented

A file lists the settings once each as `key = value`, in any order, between comments and blank
lines. It comes apart into its lines, and what is read of them are the settings in that order.
-/

namespace OpenHybrid

open ByteMemory

/-! ### Documented settings -/

inductive DocumentedLevel where
  | none
  | fatal
  | error
  | warning
  | info
  | debug
  | crazydebug
  deriving DecidableEq, Repr

def DocumentedLevel.text : DocumentedLevel → List Byte
  | .none => ascii "none"
  | .fatal => ascii "fatal"
  | .error => ascii "error"
  | .warning => ascii "warning"
  | .info => ascii "info"
  | .debug => ascii "debug"
  | .crazydebug => ascii "crazydebug"

def DocumentedLevel.level : DocumentedLevel → BitVec 8
  | .none => logNone
  | .fatal => logFatal
  | .error => logError
  | .warning => logWarning
  | .info => logInfo
  | .debug => logDebug
  | .crazydebug => logCrazydebug

structure Choices where
  haapAnycastIp : Option (List Byte × In6Addr)
  lteInterface : Option (List Byte)
  dslInterface : Option (List Byte)
  tunnelInterface : Option (List Byte)
  bonding : Option Bool
  logLevel : Option DocumentedLevel
  tunnelInterfaceMtu : Option Nat
  activeHelloInterval : Option Nat
  helloRetryTimes : Option Nat
  eventScriptPath : Option (List Byte)
  /-- in milliseconds -/
  reorderBufferTimeout : Option Nat

def Choices.value (choices : Choices) : ConfigKey → Option (List Byte)
  | .haapAnycastIp => choices.haapAnycastIp.map Prod.fst
  | .lteInterface => choices.lteInterface
  | .dslInterface => choices.dslInterface
  | .tunnelInterface => choices.tunnelInterface
  | .bonding => choices.bonding.map fun bonding => if bonding then ascii "true" else ascii "false"
  | .logLevel => choices.logLevel.map DocumentedLevel.text
  | .tunnelInterfaceMtu => choices.tunnelInterfaceMtu.map decimal
  | .activeHelloInterval => choices.activeHelloInterval.map decimal
  | .helloRetryTimes => choices.helloRetryTimes.map decimal
  | .eventScriptPath => choices.eventScriptPath
  | .reorderBufferTimeout => choices.reorderBufferTimeout.map decimal

def Plain (text : List Byte) : Prop := ∀ char ∈ text, char ≠ 0 ∧ char ≠ newline

theorem plain_iff {text : List Byte} :
    Plain text ↔ text.all (fun char => decide (char ≠ 0 ∧ char ≠ newline)) = true := by
  rw [List.all_eq_true]
  exact forall₂_congr fun char _ => decide_eq_true_iff.symm

instance : DecidablePred Plain := fun _ => decidable_of_iff _ plain_iff.symm

/-- The limits the program states. -/
structure Choices.Within (inetPton6 : List Byte → Option In6Addr) (choices : Choices) : Prop where
  address : ∀ entry ∈ choices.haapAnycastIp,
    inetPton6 entry.1 = some entry.2 ∧ entry.1 ≠ [] ∧ Plain entry.1
  lteName : ∀ name ∈ choices.lteInterface, name.length ≤ 15 ∧ Plain name
  dslName : ∀ name ∈ choices.dslInterface, name.length ≤ 15 ∧ Plain name
  tunnelName : ∀ name ∈ choices.tunnelInterface, name.length ≤ 15 ∧ Plain name
  mtu : ∀ mtu ∈ choices.tunnelInterfaceMtu, 1280 ≤ mtu ∧ mtu ≤ 1448
  interval : ∀ interval ∈ choices.activeHelloInterval, interval < 2 ^ 31
  retryTimes : ∀ retryTimes ∈ choices.helloRetryTimes, retryTimes < 2 ^ 31
  path : ∀ path ∈ choices.eventScriptPath, path.length ≤ 127 ∧ Plain path
  timeout : ∀ timeout ∈ choices.reorderBufferTimeout, timeout < 2 ^ 31

/-- What the choices mean: the documented defaults stand in for what is not listed, and hello
settings that are not listed are left to the HAAP. -/
def Choices.intended (choices : Choices) : Runtime :=
  let bonding := choices.bonding.getD false
  let anycastIp := (choices.haapAnycastIp.map Prod.snd).getD documentedIp
  let timeout := choices.reorderBufferTimeout.getD 250
  { Runtime.zero with
    haap.anycastIp := anycastIp
    haap.ip := anycastIp
    haap.activeHelloInterval := BitVec.ofNat 32 (choices.activeHelloInterval.getD 0)
    haap.helloRetryTimes := BitVec.ofNat 32 (choices.helloRetryTimes.getD 0)
    bonding := bonding
    logLevel := (choices.logLevel.map DocumentedLevel.level).getD logInfo
    tunnelInterfaceMtu :=
      BitVec.ofNat 16 (choices.tunnelInterfaceMtu.getD (if bonding then 1440 else 1448))
    tunnelInterfaceName :=
      textBytes (choices.tunnelInterface.getD (if bonding then ascii "tun0" else ascii "gre1"))
    eventScriptPath := textBytes (choices.eventScriptPath.getD [])
    reorderBufferTimeout := ⟨timeout / 1000, timeout % 1000 * 1000⟩
    lte.interfaceName := textBytes (choices.lteInterface.getD (ascii "wwan0"))
    dsl.interfaceName := textBytes (choices.dslInterface.getD (ascii "ppp0")) }

/-! ### Documented files -/

def ConfigKey.name : ConfigKey → List Byte
  | .haapAnycastIp => ascii "haap anycast ip"
  | .lteInterface => ascii "lte interface"
  | .dslInterface => ascii "dsl interface"
  | .tunnelInterface => ascii "tunnel interface"
  | .bonding => ascii "bonding"
  | .logLevel => ascii "log level"
  | .tunnelInterfaceMtu => ascii "tunnel interface mtu"
  | .activeHelloInterval => ascii "active hello interval"
  | .helloRetryTimes => ascii "hello retry times"
  | .eventScriptPath => ascii "event script path"
  | .reorderBufferTimeout => ascii "reorder buffer timeout"

inductive ConfigText where
  | setting (key : ConfigKey) (value : List Byte)
  | comment (text : List Byte)
  | blank (spaces : Nat)

def ConfigText.bytes : ConfigText → List Byte
  | .setting key value => key.name ++ ascii " = " ++ value
  | .comment text => commentSign :: text
  | .blank spaces => List.replicate spaces 32#8

def ConfigText.setting? : ConfigText → Option (ConfigKey × List Byte)
  | .setting key value => some (key, value)
  | _ => none

def fileBytes (lines : List ConfigText) (finalNewline : Bool) : List Byte :=
  [newline].intercalate (lines.map ConfigText.bytes ++ if finalNewline then [[]] else [])

/-- The lines list the choices once each, in some order, and comments have no newlines. -/
structure Lists (lines : List ConfigText) (choices : Choices) : Prop where
  settings : (lines.filterMap ConfigText.setting?).Perm (ConfigKey.all.filterMap fun key =>
    (choices.value key).map fun value => (key, value))
  comments : ∀ text, .comment text ∈ lines → newline ∉ text

variable {inetPton6 : List Byte → Option In6Addr} {choices : Choices}

/-! ### Lines -/

theorem mem_all (key : ConfigKey) : key ∈ ConfigKey.all := by cases key <;> decide

/-- The first two characters tell all keys apart but the two of the tunnel interface. -/
def ConfigKey.lead : ConfigKey → List Byte
  | .haapAnycastIp => [0x68#8, 0x61#8]
  | .lteInterface => [0x6c#8, 0x74#8]
  | .dslInterface => [0x64#8, 0x73#8]
  | .tunnelInterface => [0x74#8, 0x75#8]
  | .bonding => [0x62#8, 0x6f#8]
  | .logLevel => [0x6c#8, 0x6f#8]
  | .tunnelInterfaceMtu => [0x74#8, 0x75#8]
  | .activeHelloInterval => [0x61#8, 0x63#8]
  | .helloRetryTimes => [0x68#8, 0x65#8]
  | .eventScriptPath => [0x65#8, 0x76#8]
  | .reorderBufferTimeout => [0x72#8, 0x65#8]

/-- No key is the beginning of another one. -/
theorem eq_of_compared_begins {first second : ConfigKey}
    (hbegins : first.compared <+: second.compared) : first = second := by
  have hleads : ∀ key ∈ ConfigKey.all, key.compared.take 2 = key.lead := by decide
  have htunnels : ¬ ConfigKey.tunnelInterface.compared <+: ConfigKey.tunnelInterfaceMtu.compared ∧
      ¬ ConfigKey.tunnelInterfaceMtu.compared <+: ConfigKey.tunnelInterface.compared := by
    decide
  have hlead : first.lead = second.lead := by
    rw [← hleads first (mem_all first), ← hleads second (mem_all second)]
    refine (hbegins.take 2).eq_of_length ?_
    rw [hleads first (mem_all first), hleads second (mem_all second)]
    cases first <;> cases second <;> rfl
  by_cases htunnel : first = .tunnelInterface ∧ second = .tunnelInterfaceMtu ∨
      first = .tunnelInterfaceMtu ∧ second = .tunnelInterface
  · rcases htunnel with ⟨rfl, rfl⟩ | ⟨rfl, rfl⟩
    · exact absurd hbegins htunnels.1
    · exact absurd hbegins htunnels.2
  · clear hleads htunnels hbegins
    revert hlead htunnel
    cases first <;> cases second <;> decide

theorem compared_prefix_bytes (key : ConfigKey) (value : List Byte) :
    key.compared <+: key.name ++ ascii " = " ++ value := by
  have hall : (ConfigKey.all.all fun key =>
      key.compared.isPrefixOf (key.name ++ ascii " = ")) = true := by decide
  have hkey := List.isPrefixOf_iff_prefix.mp (List.all_eq_true.mp hall key (mem_all key))
  exact hkey.trans (List.prefix_append _ _)

theorem find_compared (key : ConfigKey) (value : List Byte) :
    (ConfigKey.all.find? fun other =>
      other.compared.isPrefixOf (key.name ++ ascii " = " ++ value)) = some key := by
  have hiff : ∀ other : ConfigKey,
      other.compared.isPrefixOf (key.name ++ ascii " = " ++ value) = decide (other = key) := by
    intro other
    rw [Bool.eq_iff_iff, List.isPrefixOf_iff_prefix, decide_eq_true_eq]
    constructor
    · intro hbegins
      rcases List.prefix_or_prefix_of_prefix hbegins (compared_prefix_bytes key value) with h | h
      · exact eq_of_compared_begins h
      · exact (eq_of_compared_begins h).symm
    · rintro rfl
      exact compared_prefix_bytes other value
  simp only [hiff]
  cases key <;> rfl

theorem cString_of_plain {text : List Byte} (hplain : ∀ char ∈ text, char ≠ 0) :
    cString text = text := by
  unfold cString
  rw [List.takeWhile_eq_self_iff]
  exact fun char hmem => decide_eq_true (hplain char hmem)

theorem name_chars (key : ConfigKey) : key.name ≠ [] ∧ ∀ char ∈ key.name,
    char ≠ 0 ∧ char ≠ newline ∧ char ≠ equalsSign ∧ char ≠ commentSign := by
  have hall : (ConfigKey.all.all fun key => key.name != [] && key.name.all fun char =>
      decide (char ≠ 0 ∧ char ≠ newline ∧ char ≠ equalsSign ∧ char ≠ commentSign)) = true := by
    decide
  have hkey := List.all_eq_true.mp hall key (mem_all key)
  rw [Bool.and_eq_true, bne_iff_ne, List.all_eq_true] at hkey
  exact ⟨hkey.1, fun char hmem => of_decide_eq_true (hkey.2 char hmem)⟩

theorem separator_eq : ascii " = " = [32#8, equalsSign, 32#8] := by decide

theorem lineValue_setting (key : ConfigKey) (value : List Byte) :
    lineValue (key.name ++ ascii " = " ++ value) = if value = [] then none else some value := by
  have hbehind : (key.name ++ ascii " = " ++ value).dropWhile (· ≠ equalsSign) =
      equalsSign :: 32#8 :: value := by
    rw [separator_eq, List.append_assoc, List.dropWhile_append_of_pos fun char hmem =>
      decide_eq_true ((name_chars key).2 char hmem).2.2.1]
    rfl
  unfold lineValue
  rw [hbehind]
  cases value <;> simp

/-- A line that sets a key is read back, unless the value is empty. -/
theorem lineSetting_setting (key : ConfigKey) {value : List Byte} (hplain : Plain value) :
    lineSetting (key.name ++ ascii " = " ++ value) =
      if value = [] then none else some (key, value) := by
  obtain ⟨hne, hchars⟩ := name_chars key
  have hbetween : ∀ char ∈ [32#8, equalsSign, 32#8], char ≠ 0 := by decide
  have htext : cString (key.name ++ ascii " = " ++ value) = key.name ++ ascii " = " ++ value := by
    refine cString_of_plain fun char hmem => ?_
    rcases List.mem_append.mp hmem with hmem | hmem
    · rcases List.mem_append.mp hmem with hmem | hmem
      · exact (hchars char hmem).1
      · exact hbetween char (separator_eq ▸ hmem)
    · exact (hplain char hmem).1
  have hcomment : (key.name ++ ascii " = " ++ value).head? ≠ some commentSign := by
    obtain ⟨first, rest, hname⟩ := List.exists_cons_of_ne_nil hne
    have hfirst := (hchars first (hname ▸ List.mem_cons_self)).2.2.2
    rw [hname]
    exact fun heq => hfirst (Option.some.inj heq)
  unfold lineSetting
  rw [htext, if_neg hcomment, lineValue_setting, find_compared]
  split <;> rfl

theorem lineSetting_comment (text : List Byte) : lineSetting (commentSign :: text) = none := by
  unfold lineSetting cString
  rw [List.takeWhile_cons]
  rfl

theorem lineSetting_blank (spaces : Nat) : lineSetting (List.replicate spaces 32#8) = none := by
  have hchars : ∀ char ∈ List.replicate spaces 32#8, char = 32#8 := fun char hmem =>
    List.eq_of_mem_replicate hmem
  have htext : cString (List.replicate spaces 32#8) = List.replicate spaces 32#8 :=
    cString_of_plain fun char hmem => by rw [hchars char hmem]; decide
  have hvalue : lineValue (List.replicate spaces 32#8) = none := by
    have hnone : (List.replicate spaces 32#8).dropWhile (· ≠ equalsSign) = [] := by
      rw [List.dropWhile_eq_nil_iff]
      intro char hmem
      rw [hchars char hmem]
      decide
    unfold lineValue
    rw [hnone]
    rfl
  unfold lineSetting
  dsimp only
  rw [htext, hvalue]
  split <;> rfl

/-! ### Files -/

/-- An empty line at the end says nothing, whether or not it is read. -/
theorem configSettings_eq (file : List Byte) :
    configSettings file = (file.splitOn newline).filterMap lineSetting := by
  unfold configSettings getlines
  dsimp only
  split
  · rename_i hlast
    have hne : file.splitOn newline ≠ [] := by
      intro hnil
      rw [hnil] at hlast
      exact nomatch hlast
    have hempty : (file.splitOn newline).getLast hne = [] := by
      rw [List.getLast?_eq_some_getLast hne] at hlast
      exact Option.some.inj hlast
    conv_rhs => rw [← List.dropLast_append_getLast hne, hempty, List.filterMap_append]
    have hnone : [([] : List Byte)].filterMap lineSetting = [] := rfl
    rw [hnone, List.append_nil]
  · rfl

def ConfigText.read : ConfigText → Option (ConfigKey × List Byte)
  | .setting key value => if value = [] then none else some (key, value)
  | _ => none

/-- The file comes apart into its lines. -/
theorem configSettings_fileBytes {lines : List ConfigText} (finalNewline : Bool)
    (hclean : ∀ line ∈ lines, newline ∉ line.bytes)
    (hplain : ∀ key value, .setting key value ∈ lines → Plain value) :
    configSettings (fileBytes lines finalNewline) = lines.filterMap ConfigText.read := by
  have hread : ∀ line ∈ lines, lineSetting line.bytes = line.read := by
    intro line hmem
    cases line with
    | setting key value => exact lineSetting_setting key (hplain key value hmem)
    | comment text => exact lineSetting_comment text
    | blank spaces => exact lineSetting_blank spaces
  set rest : List (List Byte) := if finalNewline then [[]] else [] with hrest
  have hquiet : rest.filterMap lineSetting = [] := by
    rw [hrest]
    split <;> rfl
  have hpieces : ∀ piece ∈ lines.map ConfigText.bytes ++ rest, newline ∉ piece := by
    intro piece hmem
    rcases List.mem_append.mp hmem with hmem | hmem
    · obtain ⟨line, hline, rfl⟩ := List.mem_map.mp hmem
      exact hclean line hline
    · rw [hrest] at hmem
      split at hmem
      · rw [List.mem_singleton.mp hmem]
        exact List.not_mem_nil
      · exact absurd hmem List.not_mem_nil
  have hsettings : (lines.map ConfigText.bytes ++ rest).filterMap lineSetting =
      lines.filterMap ConfigText.read := by
    rw [List.filterMap_append, hquiet, List.append_nil, List.filterMap_map]
    exact List.filterMap_congr hread
  rw [configSettings_eq, fileBytes, ← hsettings]
  by_cases hnone : lines.map ConfigText.bytes ++ rest = []
  · rw [hnone]
    rfl
  · rw [List.splitOn_intercalate newline hpieces hnone]

def Choices.given (choices : Choices) (key : ConfigKey) : Option (ConfigKey × List Byte) :=
  ((choices.value key).map fun value => (key, value)).filter (·.2 ≠ [])

theorem Choices.Within.plain (hin : choices.Within inetPton6) {key : ConfigKey}
    {value : List Byte} (hvalue : choices.value key = some value) : Plain value := by
  have hdecimal : ∀ n, Plain (decimal n) := by
    intro n char hmem
    obtain ⟨digit, hdigit, rfl⟩ := mem_decimal hmem
    have hcheck : ∀ digit < 10, digitChar digit ≠ 0 ∧ digitChar digit ≠ newline := by decide
    exact hcheck digit hdigit
  have hnumber : ∀ {number : Option Nat}, number.map decimal = some value → Plain value := by
    intro number hnumber
    obtain ⟨n, -, rfl⟩ := Option.map_eq_some_iff.mp hnumber
    exact hdecimal n
  cases key with
  | haapAnycastIp =>
      obtain ⟨entry, hentry, rfl⟩ := Option.map_eq_some_iff.mp hvalue
      exact (hin.address entry hentry).2.2
  | lteInterface => exact (hin.lteName value hvalue).2
  | dslInterface => exact (hin.dslName value hvalue).2
  | tunnelInterface => exact (hin.tunnelName value hvalue).2
  | bonding =>
      have hwords : Plain (ascii "true") ∧ Plain (ascii "false") := by decide
      obtain ⟨bonding, -, rfl⟩ := Option.map_eq_some_iff.mp hvalue
      cases bonding
      · exact hwords.2
      · exact hwords.1
  | logLevel =>
      obtain ⟨level, -, rfl⟩ := Option.map_eq_some_iff.mp hvalue
      cases level <;> decide
  | tunnelInterfaceMtu => exact hnumber hvalue
  | activeHelloInterval => exact hnumber hvalue
  | helloRetryTimes => exact hnumber hvalue
  | eventScriptPath => exact (hin.path value hvalue).2
  | reorderBufferTimeout => exact hnumber hvalue

theorem Lists.value {lines : List ConfigText} (hlists : Lists lines choices) {key : ConfigKey}
    {value : List Byte} (hmem : .setting key value ∈ lines) : choices.value key = some value := by
  have hlisted : (key, value) ∈ lines.filterMap ConfigText.setting? :=
    List.mem_filterMap.mpr ⟨_, hmem, rfl⟩
  obtain ⟨other, -, hother⟩ := List.mem_filterMap.mp (hlists.settings.mem_iff.mp hlisted)
  obtain ⟨text, htext, heq⟩ := Option.map_eq_some_iff.mp hother
  obtain ⟨rfl, rfl⟩ := Prod.mk.inj heq
  exact htext

/-- The settings of the file are the choices, in some order. -/
theorem configSettings_perm (hin : choices.Within inetPton6) {lines : List ConfigText}
    (hlists : Lists lines choices) (finalNewline : Bool) :
    (configSettings (fileBytes lines finalNewline)).Perm
      (ConfigKey.all.filterMap choices.given) := by
  have hplain : ∀ key value, .setting key value ∈ lines → Plain value := fun key value hmem =>
    hin.plain (hlists.value hmem)
  have hclean : ∀ line ∈ lines, newline ∉ line.bytes := by
    intro line hline hmem
    cases line with
    | setting key value =>
        rcases List.mem_append.mp hmem with hmem | hmem
        · rcases List.mem_append.mp hmem with hmem | hmem
          · exact ((name_chars key).2 newline hmem).2.1 rfl
          · rw [separator_eq] at hmem
            exact absurd hmem (by decide)
        · exact (hplain key value hline newline hmem).2 rfl
    | comment text =>
        rcases List.mem_cons.mp hmem with heq | hmem
        · exact absurd heq (by decide)
        · exact hlists.comments text hline hmem
    | blank spaces => exact absurd (List.eq_of_mem_replicate hmem) (by decide)
  have hread : lines.filterMap ConfigText.read =
      (lines.filterMap ConfigText.setting?).filter (·.2 ≠ []) := by
    rw [List.filter_filterMap]
    refine List.filterMap_congr fun line _ => ?_
    cases line with
    | setting key value => cases value <;> rfl
    | _ => rfl
  calc configSettings (fileBytes lines finalNewline)
      = (lines.filterMap ConfigText.setting?).filter (·.2 ≠ []) := by
        rw [configSettings_fileBytes finalNewline hclean hplain, hread]
    List.Perm _ _ := hlists.settings.filter _
    _ = ConfigKey.all.filterMap choices.given := by
        rw [List.filter_filterMap]
        rfl

end OpenHybrid
