import OpenHybrid.Proof.ConfigLines
import OpenHybrid.Proof.ConfigMtu

/-!
# Text of the configuration file

The three interface names are checked before they are copied. The event script path is not: a path
that leaves no room for its NUL runs on into whatever follows it in `runtime`. And the key of the
MTU is compared without its last three characters, so it is not the only one that sets the MTU.
-/

namespace OpenHybrid

open ByteMemory

variable (inetPton6 : List Byte → Option In6Addr)

def ConfigKey.erase (runtime : Runtime) : ConfigKey → Runtime
  | .haapAnycastIp => { runtime with haap.anycastIp := fun _ => 0 }
  | .lteInterface => { runtime with lte.interfaceName := fun _ => 0 }
  | .dslInterface => { runtime with dsl.interfaceName := fun _ => 0 }
  | .tunnelInterface => { runtime with tunnelInterfaceName := fun _ => 0 }
  | .bonding => { runtime with bonding := false }
  | .logLevel => { runtime with logLevel := 0 }
  | .tunnelInterfaceMtu => { runtime with tunnelInterfaceMtu := 0 }
  | .activeHelloInterval => { runtime with haap.activeHelloInterval := 0 }
  | .helloRetryTimes => { runtime with haap.helloRetryTimes := 0 }
  | .eventScriptPath => { runtime with eventScriptPath := fun _ => 0 }
  | .reorderBufferTimeout => { runtime with reorderBufferTimeout := ⟨0, 0⟩ }

def ConfigKey.array (runtime : Runtime) : ConfigKey → Option (List Byte)
  | .lteInterface => some (List.ofFn runtime.lte.interfaceName)
  | .dslInterface => some (List.ofFn runtime.dsl.interfaceName)
  | .tunnelInterface => some (List.ofFn runtime.tunnelInterfaceName)
  | .eventScriptPath => some (List.ofFn runtime.eventScriptPath)
  | _ => none

def ConfigKey.NamedBy (line : List Byte) (key : ConfigKey) : Prop :=
  key.name ++ ascii " =" <+: cString line

instance (line : List Byte) : DecidablePred (ConfigKey.NamedBy line) := fun key =>
  inferInstanceAs (Decidable (key.name ++ ascii " =" <+: cString line))

/-- Unless it stops the program, the line changes the setting it names and nothing else, and a
string lies in its own array with a NUL behind it. -/
def LineContained (runtime : Runtime) (line : List Byte) : Prop :=
  ∀ after, configLine inetPton6 runtime line = .ok after →
    match lineSetting line with
    | none => after = runtime
    | some (key, value) => key.erase after = key.erase runtime ∧
        (¬ key.NamedBy line → after = runtime) ∧
        ∀ array ∈ key.array after, ∃ rest, array = value ++ 0 :: rest

def Reached (file : List Byte) (before : List (List Byte)) (line : List Byte) : Prop :=
  (∃ after, getlines file = before ++ line :: after) ∧ ∀ earlier ∈ before, ¬ Fatal earlier

/-- All lines are contained that are read, behind the first defaults and the lines before them. -/
def ConfigContained (file : List Byte) : Prop :=
  ∀ before line, Reached file before line → ∀ runtime,
    before.foldlM (configLine inetPton6) (defaultsBefore Runtime.zero) = .ok runtime →
      LineContained inetPton6 runtime line

/-! ### One line -/

theorem ofFn_textBytes {size : Nat} {value : List Byte} (hshort : value.length < size) :
    ∃ rest, List.ofFn (textBytes value : Bytes size) = value ++ 0 :: rest := by
  refine ⟨List.replicate (size - value.length - 1) 0, ?_⟩
  rw [← List.replicate_succ]
  refine List.ext_getElem (by simp; omega) fun i hleft hright => ?_
  rw [List.getElem_ofFn, textBytes]
  dsimp only
  by_cases hi : i < value.length
  · rw [List.getElem_append_left hi, List.getD_eq_getElem _ _ hi]
  · rw [List.getElem_append_right (by omega), List.getElem_replicate,
      List.getD_eq_default _ _ (by omega)]

theorem length_lt_of_name {value : List Byte} (haccepted : ¬ ifNamesize - 1 ≤ value.length) :
    value.length < 16 := by
  rw [ifNamesize] at haccepted
  omega

/-- A setting that is accepted stays in its own field, a path that fits included. -/
theorem ConfigKey.stored_contained {key : ConfigKey} {value : List Byte} (runtime : Runtime)
    (haccepted : ¬ key.Rejects value)
    (hshort : key = .eventScriptPath → value.length < eventScriptPathSize) :
    key.erase (key.stored inetPton6 value runtime) = key.erase runtime ∧
      ∀ array ∈ key.array (key.stored inetPton6 value runtime),
        ∃ rest, array = value ++ 0 :: rest := by
  cases key with
  | lteInterface =>
      refine ⟨rfl, fun array harray => ?_⟩
      obtain rfl := Option.mem_some.mp harray
      exact ofFn_textBytes (length_lt_of_name haccepted)
  | dslInterface =>
      refine ⟨rfl, fun array harray => ?_⟩
      obtain rfl := Option.mem_some.mp harray
      exact ofFn_textBytes (length_lt_of_name haccepted)
  | tunnelInterface =>
      refine ⟨rfl, fun array harray => ?_⟩
      obtain rfl := Option.mem_some.mp harray
      exact ofFn_textBytes (length_lt_of_name haccepted)
  | eventScriptPath =>
      have hlength : value.length < 128 := hshort rfl
      have hstored : stored inetPton6 value runtime .eventScriptPath =
          { runtime with eventScriptPath := textBytes value } :=
        eventScriptPathField.copyText runtime hlength.le
      rw [hstored]
      refine ⟨rfl, fun array harray => ?_⟩
      obtain rfl := Option.mem_some.mp harray
      exact ofFn_textBytes hlength
  | logLevel =>
      obtain ⟨level, hlevel⟩ := storeLogLevel_eq value runtime
      have hstored : stored inetPton6 value runtime .logLevel =
        { runtime with logLevel := level } := hlevel
      rw [hstored]
      exact ⟨rfl, fun array harray => absurd harray (Option.not_mem_none _)⟩
  | bonding =>
      refine ⟨?_, fun array harray => absurd harray (Option.not_mem_none _)⟩
      unfold stored erase
      dsimp only
      split <;> rfl
  | _ => exact ⟨rfl, fun array harray => absurd harray (Option.not_mem_none _)⟩

/-- Only the key of the MTU goes by other names. -/
theorem named_of_setting {line value : List Byte} {key : ConfigKey}
    (hsetting : lineSetting line = some (key, value)) (hkey : key ≠ .tunnelInterfaceMtu) :
    key.NamedBy line := by
  have hlabels : (ConfigKey.all.all fun key =>
      key = .tunnelInterfaceMtu || key.compared = key.name ++ ascii " =") = true := by
    decide
  have hlabel := List.all_eq_true.mp hlabels key (mem_all key)
  rw [Bool.or_eq_true, decide_eq_true_eq, decide_eq_true_eq] at hlabel
  unfold lineSetting at hsetting
  dsimp only at hsetting
  split at hsetting
  · exact nomatch hsetting
  · obtain ⟨found, -, hfound⟩ := Option.bind_eq_some_iff.mp hsetting
    obtain ⟨other, hother, heq⟩ := Option.map_eq_some_iff.mp hfound
    obtain ⟨rfl, -⟩ := Prod.mk.inj heq
    rw [ConfigKey.NamedBy, ← hlabel.resolve_left hkey]
    have hbegins := List.find?_some hother
    exact List.isPrefixOf_iff_prefix.mp hbegins

/-- A line is contained unless its event script path is too long or it sets the MTU without
naming it. -/
theorem lineContained_iff (runtime : Runtime) (line : List Byte) :
    LineContained inetPton6 runtime line ↔
      (∀ value, lineSetting line = some (.eventScriptPath, value) →
        value.length < eventScriptPathSize) ∧
      ∀ value, lineSetting line = some (.tunnelInterfaceMtu, value) →
        ConfigKey.NamedBy line .tunnelInterfaceMtu ∨ Fatal line ∨
          runtime.tunnelInterfaceMtu = BitVec.ofInt 16 (atoi value) := by
  constructor
  · intro hcontained
    have happlied : ¬ Fatal line → _ := fun haccepted =>
      hcontained _ (configLine_of_not_fatal inetPton6 runtime haccepted)
    constructor
    · intro value hsetting
      have haccepted : ¬ Fatal line := by
        rintro ⟨⟨key, other⟩, hother, hrejects⟩
        obtain ⟨rfl, rfl⟩ := Prod.mk.inj (Option.some.inj (hsetting.symm.trans hother))
        exact hrejects
      have hline := happlied haccepted
      rw [hsetting] at hline
      obtain ⟨rest, harray⟩ := hline.2.2 _ rfl
      have hlength := congrArg List.length harray
      rw [List.length_ofFn, List.length_append, List.length_cons] at hlength
      rw [eventScriptPathSize]
      omega
    · intro value hsetting
      by_cases hfatal : Fatal line
      · exact Or.inr (Or.inl hfatal)
      · by_cases hnamed : ConfigKey.NamedBy line .tunnelInterfaceMtu
        · exact Or.inl hnamed
        · have hline := happlied hfatal
          rw [hsetting] at hline
          have hsame := congrArg Runtime.tunnelInterfaceMtu (hline.2.1 hnamed)
          unfold appliedLine at hsame
          rw [hsetting] at hsame
          exact Or.inr (Or.inr hsame.symm)
  · rintro ⟨hshort, hnamed⟩ after hok
    by_cases hfatal : Fatal line
    · obtain ⟨message, herror⟩ := configLine_of_fatal inetPton6 runtime hfatal
      rw [herror] at hok
      exact nomatch hok
    · rw [configLine_of_not_fatal inetPton6 runtime hfatal] at hok
      obtain rfl := Except.ok.inj hok
      unfold appliedLine
      cases hsetting : lineSetting line with
      | none => rfl
      | some setting =>
          obtain ⟨key, value⟩ := setting
          obtain ⟨herase, harray⟩ := key.stored_contained inetPton6 runtime
            (fun hrejects => hfatal ⟨_, hsetting, hrejects⟩) (by
              rintro rfl
              exact hshort value hsetting)
          refine ⟨herase, fun hunnamed => ?_, harray⟩
          by_cases hkey : key = .tunnelInterfaceMtu
          · subst hkey
            have hsame := ((hnamed value hsetting).resolve_left hunnamed).resolve_left hfatal
            unfold ConfigKey.stored
            dsimp only
            rw [← hsame]
          · exact absurd (named_of_setting hsetting hkey) hunnamed

/-! ### The file -/

theorem mtu_of_reached {before : List (List Byte)} {runtime : Runtime}
    (hreached : before.foldlM (configLine inetPton6) (defaultsBefore Runtime.zero) = .ok runtime) :
    runtime.tunnelInterfaceMtu =
      ((explicitMtu (before.filterMap lineSetting)).map (BitVec.ofInt 16)).getD 0 := by
  obtain ⟨-, rfl⟩ := (foldlM_configLine_iff inetPton6).mp hreached
  rw [foldl_appliedLine, foldl_mtu]
  rfl

/-- Accepted values tell MTUs apart. -/
theorem mtu_eq_iff {before : List (List Byte)} {runtime : Runtime}
    (hreached : before.foldlM (configLine inetPton6) (defaultsBefore Runtime.zero) = .ok runtime)
    {mtu : Int} (hsmall : 1280 ≤ mtu) (hlarge : mtu ≤ 1448) :
    runtime.tunnelInterfaceMtu = BitVec.ofInt 16 mtu ↔
      explicitMtu (before.filterMap lineSetting) = some mtu := by
  have hnat : ∀ {other : Int}, 1280 ≤ other → other ≤ 1448 →
      ((BitVec.ofInt 16 other).toNat : Int) = other := by
    intro other hother hbound
    rw [BitVec.toNat_ofInt]
    omega
  have haccepted := ((foldlM_configLine_iff inetPton6).mp hreached).1
  rw [mtu_of_reached inetPton6 hreached]
  cases hlast : explicitMtu (before.filterMap lineSetting) with
  | none =>
      refine iff_of_false (fun heq => ?_) (fun heq => nomatch heq)
      have hzero := congrArg (fun mtu => (BitVec.toNat mtu : Int)) heq
      dsimp only [Option.map_none, Option.getD_none] at hzero
      rw [hnat hsmall hlarge] at hzero
      exact absurd hzero (by change (0 : Int) ≠ mtu; omega)
  | some other =>
      have hrange := explicitMtu_range haccepted hlast
      constructor
      · intro heq
        have hsame := congrArg (fun mtu => (BitVec.toNat mtu : Int)) heq
        dsimp only [Option.map_some, Option.getD_some] at hsame
        rw [hnat hsmall hlarge, hnat hrange.1 hrange.2] at hsame
        rw [hsame]
      · intro heq
        rw [Option.some.inj heq]
        rfl

/-- A file is contained exactly when every line that is read leaves room for the NUL of its event
script path, and names the MTU, stops the program or repeats the MTU in force if it is read as
one. -/
theorem contained_iff (file : List Byte) :
    ConfigContained inetPton6 file ↔ ∀ before line, Reached file before line →
      (∀ value, lineSetting line = some (.eventScriptPath, value) →
        value.length < eventScriptPathSize) ∧
      ∀ value, lineSetting line = some (.tunnelInterfaceMtu, value) →
        ConfigKey.NamedBy line .tunnelInterfaceMtu ∨ Fatal line ∨
          explicitMtu (before.filterMap lineSetting) = some (atoi value) := by
  unfold ConfigContained
  refine forall_congr' fun before => forall_congr' fun line => forall_congr' fun hread => ?_
  have hreached : before.foldlM (configLine inetPton6) (defaultsBefore Runtime.zero) = .ok _ :=
    (foldlM_configLine_iff inetPton6).mpr ⟨hread.2, rfl⟩
  have hmtu : ∀ value, lineSetting line = some (.tunnelInterfaceMtu, value) →
      ∀ runtime, before.foldlM (configLine inetPton6) (defaultsBefore Runtime.zero) = .ok runtime →
        (Fatal line ∨ runtime.tunnelInterfaceMtu = BitVec.ofInt 16 (atoi value) ↔
          Fatal line ∨ explicitMtu (before.filterMap lineSetting) = some (atoi value)) := by
    intro value hsetting runtime hruntime
    by_cases hfatal : Fatal line
    · exact iff_of_true (Or.inl hfatal) (Or.inl hfatal)
    · have haccepted : ¬ (atoi value < 1280 ∨ 1448 < atoi value) := fun hrejects =>
        hfatal ⟨_, hsetting, hrejects⟩
      rw [mtu_eq_iff inetPton6 hruntime (by omega) (by omega)]
  constructor
  · intro hcontained
    obtain ⟨hshort, hnamed⟩ :=
      (lineContained_iff inetPton6 _ line).mp (hcontained _ hreached)
    exact ⟨hshort, fun value hsetting =>
      (hnamed value hsetting).imp_right (hmtu value hsetting _ hreached).mp⟩
  · rintro ⟨hshort, hnamed⟩ runtime hruntime
    exact (lineContained_iff inetPton6 runtime line).mpr ⟨hshort, fun value hsetting =>
      (hnamed value hsetting).imp_right (hmtu value hsetting _ hruntime).mpr⟩

theorem not_contained_of_line {line value : List Byte} (hlines : getlines line = [line])
    (hsetting : lineSetting line = some (.eventScriptPath, value))
    (hlong : eventScriptPathSize ≤ value.length) : ¬ ConfigContained inetPton6 line := by
  intro hcontained
  have hread : Reached line [] line := ⟨⟨[], hlines⟩, List.forall_mem_nil _⟩
  have hline := hcontained [] line hread _ List.foldlM_nil
  have hshort := ((lineContained_iff inetPton6 _ line).mp hline).1 value hsetting
  omega

def longPath : List Byte := ascii "event script path = " ++ List.replicate 300 0x61#8

/-- A path of 300 characters runs over other fields. -/
theorem longPath_notContained : ¬ ConfigContained parseDocumentedIp longPath := by
  have hlines : getlines longPath = [longPath] := by decide +kernel
  have hsetting : lineSetting longPath = some (.eventScriptPath, List.replicate 300 0x61#8) := by
    decide +kernel
  refine not_contained_of_line _ hlines hsetting ?_
  rw [List.length_replicate]
  decide

end OpenHybrid
