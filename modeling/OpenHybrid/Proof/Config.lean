import OpenHybrid.Proof.Memcpy
import OpenHybrid.ReadConfig

/-!
# What a configuration file comes to

A line is fatal whatever has been read before it, or it stores its value. A file is accepted exactly
when none of its lines is fatal, and the result is then a fold over its settings.
-/

namespace OpenHybrid

open ByteMemory

/-! ### Text fields -/

def tunnelInterfaceNameField : BytesField 16 where
  offset := tunnelInterfaceNameOffset
  get := Runtime.tunnelInterfaceName
  set runtime name := { runtime with tunnelInterfaceName := name }
  get_set _ _ := rfl
  set_set _ _ _ := rfl
  set_get _ := rfl
  poke_inside runtime i byte hi := by
    rw [tunnelInterfaceNameOffset]
    unfold Runtime.poke
    repeat rw [if_neg (by omega)]
    rw [if_pos (by omega), Nat.add_sub_cancel_left]

def eventScriptPathField : BytesField 128 where
  offset := eventScriptPathOffset
  get := Runtime.eventScriptPath
  set runtime path := { runtime with eventScriptPath := path }
  get_set _ _ := rfl
  set_set _ _ _ := rfl
  set_get _ := rfl
  poke_inside runtime i byte hi := by
    rw [eventScriptPathOffset]
    unfold Runtime.poke
    repeat rw [if_neg (by omega)]
    rw [if_pos (by omega), Nat.add_sub_cancel_left]

def lteInterfaceNameField : BytesField 16 where
  offset := lteInterfaceNameOffset
  get runtime := runtime.lte.interfaceName
  set runtime name := { runtime with lte.interfaceName := name }
  get_set _ _ := rfl
  set_set _ _ _ := rfl
  set_get _ := rfl
  poke_inside runtime i byte hi := by
    rw [lteInterfaceNameOffset]
    unfold Runtime.poke
    repeat rw [if_neg (by omega)]
    rw [if_pos (by omega), Nat.add_sub_cancel_left, Lte.poke, if_pos hi]

def dslInterfaceNameField : BytesField 16 where
  offset := dslInterfaceNameOffset
  get runtime := runtime.dsl.interfaceName
  set runtime name := { runtime with dsl.interfaceName := name }
  get_set _ _ := rfl
  set_set _ _ _ := rfl
  set_get _ := rfl
  poke_inside runtime i byte hi := by
    rw [dslInterfaceNameOffset]
    unfold Runtime.poke
    repeat rw [if_neg (by omega)]
    rw [if_pos (by omega), Nat.add_sub_cancel_left, Dsl.poke, if_pos hi]

def textBytes (text : List Byte) : Bytes size := fun i => text.getD i 0

/-- A text that fits into its cleared field. -/
theorem BytesField.copyText {size : Nat} (field : BytesField size) (runtime : Runtime) {text : List Byte}
    (hfits : text.length ≤ size) :
    copyText field.offset text (field.set runtime fun _ => 0) =
      field.set runtime (textBytes text) := by
  have htext : overlayBytes (fun _ => 0) (textMemory text) text.length =
      (textBytes text : Bytes size) := by
    funext i
    unfold overlayBytes textMemory textBytes
    split
    · rfl
    · rw [List.getD_eq_default _ _ (by omega)]
  rw [OpenHybrid.copyText, field.memcpy _ _ hfits, field.get_set, field.set_set, htext]

/-! ### Lines -/

theorem storeLogLevel_eq (value : List Byte) (runtime : Runtime) :
    ∃ level, storeLogLevel value runtime = { runtime with logLevel := level } := by
  unfold storeLogLevel
  dsimp only
  split_ifs <;> exact ⟨_, rfl⟩

def ConfigKey.Rejects (value : List Byte) : ConfigKey → Prop
  | .lteInterface | .dslInterface | .tunnelInterface => ifNamesize - 1 ≤ value.length
  | .tunnelInterfaceMtu => atoi value < 1280 ∨ 1448 < atoi value
  | _ => False

instance (value : List Byte) : DecidablePred (ConfigKey.Rejects value)
  | .lteInterface | .dslInterface | .tunnelInterface => inferInstanceAs (Decidable (_ ≤ _))
  | .tunnelInterfaceMtu => inferInstanceAs (Decidable (_ ∨ _))
  | .haapAnycastIp | .bonding | .logLevel | .activeHelloInterval | .helloRetryTimes
  | .eventScriptPath | .reorderBufferTimeout => inferInstanceAs (Decidable False)

def Fatal (line : List Byte) : Prop :=
  ∃ setting ∈ lineSetting line, setting.1.Rejects setting.2

instance : DecidablePred Fatal := fun line =>
  inferInstanceAs (Decidable (∃ setting ∈ lineSetting line, setting.1.Rejects setting.2))

variable (inetPton6 : List Byte → Option In6Addr)

def ConfigKey.stored (value : List Byte) (runtime : Runtime) : ConfigKey → Runtime
  | .haapAnycastIp =>
      { runtime with haap.anycastIp := (inetPton6 value).getD runtime.haap.anycastIp }
  | .lteInterface => { runtime with lte.interfaceName := textBytes value }
  | .dslInterface => { runtime with dsl.interfaceName := textBytes value }
  | .tunnelInterface => { runtime with tunnelInterfaceName := textBytes value }
  | .bonding => if value = ascii "true" then { runtime with bonding := true } else runtime
  | .logLevel => storeLogLevel value runtime
  | .tunnelInterfaceMtu => { runtime with tunnelInterfaceMtu := BitVec.ofInt 16 (atoi value) }
  | .activeHelloInterval =>
      { runtime with haap.activeHelloInterval := BitVec.ofInt 32 (atoi value) }
  | .helloRetryTimes => { runtime with haap.helloRetryTimes := BitVec.ofInt 32 (atoi value) }
  | .eventScriptPath =>
      copyText eventScriptPathOffset value { runtime with eventScriptPath := fun _ => 0 }
  | .reorderBufferTimeout =>
      { runtime with
        reorderBufferTimeout := ⟨(atoi value).tdiv 1000, (atoi value).tmod 1000 * 1000⟩ }

theorem storeName_rejects {fatal : String} {offset : Nat} {cleared : Runtime} {value : List Byte}
    (hlong : ifNamesize - 1 ≤ value.length) :
    storeName fatal offset cleared value = .error fatal := if_pos hlong

theorem storeName_stored (field : BytesField 16) (fatal : String) (runtime : Runtime)
    {value : List Byte} (hshort : ¬ ifNamesize - 1 ≤ value.length) :
    storeName fatal field.offset (field.set runtime fun _ => 0) value =
      .ok (field.set runtime (textBytes value)) := by
  have hfits : value.length ≤ 16 := by
    rw [ifNamesize] at hshort
    omega
  rw [storeName, if_neg hshort, field.copyText runtime hfits]

theorem ConfigKey.store_of_rejects {key : ConfigKey} {value : List Byte} (runtime : Runtime)
    (hrejects : key.Rejects value) :
    ∃ message, key.store inetPton6 value runtime = .error message := by
  cases key with
  | lteInterface => exact ⟨_, storeName_rejects hrejects⟩
  | dslInterface => exact ⟨_, storeName_rejects hrejects⟩
  | tunnelInterface => exact ⟨_, storeName_rejects hrejects⟩
  | tunnelInterfaceMtu =>
      unfold store
      dsimp only
      rcases hrejects with hsmall | hlarge
      · exact ⟨_, if_pos hsmall⟩
      · exact ⟨_, by rw [if_neg (by omega), if_pos hlarge]⟩
  | _ => exact absurd hrejects id

theorem ConfigKey.store_of_not_rejects {key : ConfigKey} {value : List Byte} (runtime : Runtime)
    (haccepts : ¬ key.Rejects value) :
    key.store inetPton6 value runtime = .ok (key.stored inetPton6 value runtime) := by
  cases key with
  | lteInterface => exact storeName_stored lteInterfaceNameField _ runtime haccepts
  | dslInterface => exact storeName_stored dslInterfaceNameField _ runtime haccepts
  | tunnelInterface => exact storeName_stored tunnelInterfaceNameField _ runtime haccepts
  | tunnelInterfaceMtu =>
      obtain ⟨hsmall, hlarge⟩ := not_or.mp haccepts
      unfold store stored
      dsimp only
      rw [if_neg hsmall, if_neg hlarge]
  | _ => rfl

def appliedLine (runtime : Runtime) (line : List Byte) : Runtime :=
  match lineSetting line with
  | none => runtime
  | some (key, value) => key.stored inetPton6 value runtime

/-- A fatal line stops the program, whatever was read before. -/
theorem configLine_of_fatal {line : List Byte} (runtime : Runtime) (hfatal : Fatal line) :
    ∃ message, configLine inetPton6 runtime line = .error message := by
  obtain ⟨⟨key, value⟩, hsetting, hrejects⟩ := hfatal
  rw [configLine, hsetting]
  exact key.store_of_rejects inetPton6 runtime hrejects

theorem configLine_of_not_fatal {line : List Byte} (runtime : Runtime) (haccepted : ¬ Fatal line) :
    configLine inetPton6 runtime line = .ok (appliedLine inetPton6 runtime line) := by
  unfold configLine appliedLine
  cases hsetting : lineSetting line with
  | none => rfl
  | some setting =>
      obtain ⟨key, value⟩ := setting
      exact key.store_of_not_rejects inetPton6 runtime fun hrejects =>
        haccepted ⟨(key, value), hsetting, hrejects⟩

/-! ### Files -/

def configSettings (file : List Byte) : List (ConfigKey × List Byte) :=
  (getlines file).filterMap lineSetting

theorem foldl_appliedLine (lines : List (List Byte)) (start : Runtime) :
    lines.foldl (appliedLine inetPton6) start =
      (lines.filterMap lineSetting).foldl
        (fun runtime setting => setting.1.stored inetPton6 setting.2 runtime) start := by
  rw [List.foldl_filterMap]
  congr 1
  funext runtime line
  unfold appliedLine
  cases lineSetting line <;> rfl

/-- The lines are read to the end exactly when none of them is fatal. -/
theorem foldlM_configLine_iff {lines : List (List Byte)} {start runtime : Runtime} :
    lines.foldlM (configLine inetPton6) start = .ok runtime ↔
      (∀ line ∈ lines, ¬ Fatal line) ∧ lines.foldl (appliedLine inetPton6) start = runtime := by
  induction lines generalizing start with
  | nil => simp [pure, Except.pure]
  | cons line rest ih =>
      rw [List.foldlM_cons, List.foldl_cons, List.forall_mem_cons]
      by_cases hfatal : Fatal line
      · obtain ⟨message, herror⟩ := configLine_of_fatal inetPton6 start hfatal
        rw [herror]
        exact iff_of_false (fun hok => nomatch hok) (fun hall => hall.1.1 hfatal)
      · rw [configLine_of_not_fatal inetPton6 start hfatal]
        exact ih.trans (and_congr_left' (and_iff_right hfatal).symm)

/-- A file is accepted exactly when no line is fatal, and then its settings are stored in order,
between the two parts of the defaults. -/
theorem readConfig_iff {file : List Byte} {start runtime : Runtime} :
    readConfig inetPton6 (some file) start = .ok runtime ↔
      (∀ line ∈ getlines file, ¬ Fatal line) ∧
        defaultsBehind inetPton6 ((configSettings file).foldl
          (fun runtime setting => setting.1.stored inetPton6 setting.2 runtime)
            (defaultsBefore start)) = runtime := by
  rw [configSettings, ← foldl_appliedLine]
  unfold readConfig
  dsimp only
  cases hlines : (getlines file).foldlM (configLine inetPton6) (defaultsBefore start) with
  | error message =>
      refine iff_of_false (fun hok => nomatch hok) fun hall => ?_
      have hok : (getlines file).foldlM (configLine inetPton6) (defaultsBefore start) = .ok _ :=
        (foldlM_configLine_iff inetPton6).mpr ⟨hall.1, rfl⟩
      rw [hlines] at hok
      exact nomatch hok
  | ok middle =>
      obtain ⟨hall, rfl⟩ := (foldlM_configLine_iff inetPton6).mp hlines
      constructor
      · intro hok
        exact ⟨hall, Except.ok.inj hok⟩
      · rintro ⟨-, rfl⟩
        rfl

/-! ### The address in the examples -/

def documentedIp : In6Addr := fun i =>
  [0x20#8, 0x03#8, 0x00#8, 0x06#8, 0, 0, 0, 0, 0, 0, 0, 0, 0, 0, 0, 0x01#8].getD i 0

/-- `inet_pton`, as far as the examples need it. -/
def parseDocumentedIp (text : List Byte) : Option In6Addr :=
  if text = ascii "2003:6::1" then some documentedIp else none

end OpenHybrid
