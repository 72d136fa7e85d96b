import OpenHybrid.Proof.Reconnect

/-!
# Filter list acknowledgements

What has been on the wire about filter lists: the packages that were received and the
acknowledgements that went out. When a list is regarded as acknowledged, the last of these is an
acknowledgement of it.
-/

namespace OpenHybrid

open ByteMemory Frame Transition

variable {answers : Answers} {memory : Memory} {runtime : Runtime} {process other : Process}

inductive FilterListEvent where
  | received (commitCount : BitVec 32)
  | acknowledged (commitCount : BitVec 32)
  deriving DecidableEq

variable {wire : List FilterListEvent}

def ackedCount : Effect → Option (BitVec 32)
  | .sendmsg .notify _ message true =>
      if message.bytes.getD attributesOffset 0 = msgattrFilterListPackageAck then
        some (wordOf ((message.bytes.drop (attributesOffset + 3)).take 4))
      else none
  | _ => none

def acksIn (effects : List Effect) : List FilterListEvent :=
  (effects.filterMap ackedCount).map .acknowledged

def packagesIn (memory : Memory) (attrs : List Grecpattr) : List FilterListEvent :=
  (attrs.filter fun attr => attr.id = msgattrFilterListPackage).map fun attr =>
    .received (ntohl (load 32 (memory.shift attr.value)))

def lastReceived (wire : List FilterListEvent) : Option (BitVec 32) :=
  (wire.filterMap fun
    | .received commitCount => some commitCount
    | .acknowledged _ => none).getLast?

structure Truthful (wire : List FilterListEvent) (runtime : Runtime) : Prop where
  latest : runtime.haap.commitCount ≠ 0 → lastReceived wire = some runtime.haap.commitCount
  acked : runtime.filterListAcked = true →
    0 < runtime.haap.commitCount.toNat ∧
      wire.getLast? = some (.acknowledged runtime.haap.commitCount)

theorem lastReceived_acknowledged (wire : List FilterListEvent) (commitCount : BitVec 32) :
    lastReceived (wire ++ [.acknowledged commitCount]) = lastReceived wire := by
  unfold lastReceived
  rw [List.filterMap_append]
  exact congrArg List.getLast? (List.append_nil _)

theorem lastReceived_received (wire : List FilterListEvent) (commitCount : BitVec 32) :
    lastReceived (wire ++ [.received commitCount]) = some commitCount := by
  unfold lastReceived
  rw [List.filterMap_append]
  exact List.getLast?_concat

/-! ### Messages -/

theorem wordOf_storeList (word : BitVec 32) : wordOf (storeList (htonl word)) = word := by
  have hbytes := Memory.read_write (fun _ => 0) (storeList (htonl word))
  have hload := load_write_storeList (by decide) (fun _ => 0) (htonl word) []
  rw [storeList_length] at hbytes
  rw [List.append_nil] at hload
  rw [← hbytes, wordOf_read, hload, ntohl_htonl]

/-- The value of the first attribute of a notification lies behind its header. -/
theorem value_notify (runtime : Runtime) (tuntype id : Byte) (value : List Byte)
    (hvalue : value.length < 2 ^ 16) :
    (((grecpmessage runtime .notify tuntype (notifyAttributes id value)).bytes).drop
      (attributesOffset + 3)).take value.length = value := by
  have hlength : (BitVec.ofNat 16 value.length).toNat = value.length := by
    rw [BitVec.toNat_ofNat, Nat.mod_eq_of_lt hvalue]
  simp only [grecpmessage, notifyAttributes, appendGrecpattribute, hlength, attributesOffset]
  simp [List.drop_append, List.take_append]

theorem ackedCount_ack (runtime : Runtime) (tuntype ackcode : Byte) (commitCount : BitVec 32)
    (sent : Bool) :
    ackedCount (.sendmsg .notify tuntype (grecpmessage runtime .notify tuntype
      (notifyAttributes msgattrFilterListPackageAck (storeList (htonl commitCount) ++ [ackcode])))
        sent) = if sent then some commitCount else none := by
  cases sent with
  | false => rfl
  | true =>
      let value := storeList (htonl commitCount) ++ [ackcode]
      have hid : ((grecpmessage runtime .notify tuntype
          (notifyAttributes msgattrFilterListPackageAck value)).bytes).getD attributesOffset 0 =
            msgattrFilterListPackageAck := by
        rw [notifyAttributes_cons]
        exact Kind.notify.inj (kind_grecpmessage_notify runtime tuntype _ _ true)
      have hvalue := value_notify runtime tuntype msgattrFilterListPackageAck value
        (by simp [value])
      have hlength : value.length = 5 := by simp [value]
      have hcount : ((grecpmessage runtime .notify tuntype
          (notifyAttributes msgattrFilterListPackageAck value)).bytes.drop
            (attributesOffset + 3)).take 4 = storeList (htonl commitCount) := by
        rw [hlength] at hvalue
        have hshort := congrArg (List.take 4) hvalue
        rw [List.take_take] at hshort
        exact hshort.trans (List.take_left' (storeList_length _))
      unfold ackedCount
      dsimp only [value] at hid hcount ⊢
      rw [if_pos hid, hcount, wordOf_storeList, if_pos rfl]

theorem ackedCount_of_kind {effect : Effect}
    (hkind : effect.kind ≠ .notify msgattrFilterListPackageAck) : ackedCount effect = none := by
  unfold ackedCount
  split
  · rename_i message
    exact if_neg fun hid => hkind (congrArg Kind.notify hid)
  · rfl

theorem acksIn_ofKind (effects : List Effect) :
    acksIn (ofKind (.notify msgattrFilterListPackageAck) effects) = acksIn effects := by
  unfold acksIn ofKind
  rw [List.filterMap_filter]
  congr 2
  funext effect
  by_cases hkind : effect.kind = .notify msgattrFilterListPackageAck
  · rw [if_pos (decide_eq_true hkind)]
  · rw [ackedCount_of_kind hkind, ite_self]

/-! ### The timers -/

theorem acksIn_append (before after : List Effect) :
    acksIn (before ++ after) = acksIn before ++ acksIn after := by
  unfold acksIn
  rw [List.filterMap_append, List.map_append]

def TruthfulBehind (wire : List FilterListEvent) (process : Process) : Prop :=
  Truthful (wire ++ acksIn process.effects) process.runtime

theorem TruthfulBehind.of_agree (htruthful : TruthfulBehind wire process)
    (hagree : Agree Aspect.get
      [.commitCount, .filterListAcked, .effects (.notify msgattrFilterListPackageAck)] process
      other) : TruthfulBehind wire other := by
  have hcount : other.runtime.haap.commitCount = process.runtime.haap.commitCount :=
    hagree .commitCount (by simp)
  have hacked : other.runtime.filterListAcked = process.runtime.filterListAcked :=
    hagree .filterListAcked (by simp)
  have heffects : ofKind (.notify msgattrFilterListPackageAck) other.effects =
      ofKind (.notify msgattrFilterListPackageAck) process.effects :=
    hagree (.effects (.notify msgattrFilterListPackageAck)) (by simp)
  have hacks : acksIn other.effects = acksIn process.effects := by
    rw [← acksIn_ofKind, heffects, acksIn_ofKind]
  obtain ⟨hlatest, hlast⟩ := htruthful
  refine ⟨?_, ?_⟩
  · rw [hcount, hacks]
    exact hlatest
  · rw [hcount, hacked, hacks]
    exact hlast

theorem truthful_ackFilterList (htruthful : TruthfulBehind wire process) :
    TruthfulBehind wire (ackFilterList answers process) := by
  unfold ackFilterList
  split
  · rename_i hneeded
    simp only [Bool.and_eq_true, decide_eq_true_eq] at hneeded
    unfold sendGrecpnotifyFilterlistpackageack sendGrecpmessage
    dsimp only
    split
    · generalize hsent : answers.sendmsg _ = sent
      have hacks : acksIn (process.effects ++ [.sendmsg .notify grecpTuntypeLte
          (grecpmessage process.runtime .notify grecpTuntypeLte
            (notifyAttributes msgattrFilterListPackageAck
              (storeList (htonl process.runtime.haap.commitCount) ++ [2]))) sent]) =
          acksIn process.effects ++
            if sent then [.acknowledged process.runtime.haap.commitCount] else [] := by
        rw [acksIn_append]
        congr 1
        unfold acksIn
        rw [List.filterMap_cons, ackedCount_ack]
        cases sent <;> rfl
      unfold TruthfulBehind Process.emit
      dsimp only
      rw [hacks]
      cases sent with
      | false =>
          refine ⟨?_, nofun⟩
          rw [if_neg Bool.false_ne_true, List.append_nil]
          exact htruthful.latest
      | true =>
          rw [if_pos rfl, ← List.append_assoc]
          refine ⟨?_, fun _ => ⟨hneeded.1.2, List.getLast?_concat⟩⟩
          rw [lastReceived_acknowledged]
          exact htruthful.latest
    · exact ⟨htruthful.latest, nofun⟩
  · exact htruthful

theorem truthful_resetSession (htruthful : TruthfulBehind wire process) :
    TruthfulBehind wire (resetSession answers process) := by
  cases hup : (process.runtime.established grecpTuntypeLte ||
      process.runtime.established grecpTuntypeDsl) with
  | true =>
      rw [resetSession_of_up answers hup]
      exact htruthful
  | false =>
      rw [resetSession_of_down answers hup]
      have hforgot : TruthfulBehind wire (forgetSession process) :=
        ⟨fun hcount => absurd rfl hcount, nofun⟩
      have hreset : TruthfulBehind wire (resetDhcp answers (forgetSession process)) :=
        hforgot.of_agree ((within_resetDhcp answers _).agree (by decide))
      exact hreset.of_agree ((within_resetDhcp6 answers _).agree (by decide))

/-- **One execution.** -/
theorem truthful_executeTimers (htruthful : TruthfulBehind wire process) :
    TruthfulBehind wire (executeTimers answers process) := by
  rw [executeTimers_eq]
  refine runUntil_preserves (TruthfulBehind wire) htruthful fun timer process htruthful => ?_
  have hother : (∀ aspect ∈ [.commitCount, .filterListAcked,
      .effects (.notify msgattrFilterListPackageAck)], aspect ∉ timer.footprint) →
        TruthfulBehind wire (timer.run answers process) := fun hdisjoint =>
    htruthful.of_agree ((timer.within_run answers process).agree hdisjoint)
  cases timer with
  | ackFilterList => exact truthful_ackFilterList htruthful
  | resetSession => exact truthful_resetSession htruthful
  | _ => exact hother (by decide)

/-! ### Messages that are received -/

theorem truthful_notifyAttribute (htruthful : Truthful wire runtime) (attr : Grecpattr) :
    Truthful (wire ++ packagesIn memory [attr]) (notifyAttribute memory runtime attr) := by
  unfold notifyAttribute
  by_cases hid : attr.id = msgattrFilterListPackage
  · have hpackage : packagesIn memory [attr] =
        [.received (ntohl (load 32 (memory.shift attr.value)))] := by
      simp [packagesIn, hid]
    rw [if_pos hid, hpackage]
    exact ⟨fun _ => lastReceived_received _ _, nofun⟩
  · have hnone : packagesIn memory [attr] = [] := by
      simp [packagesIn, hid]
    rw [if_neg hid, hnone, List.append_nil]
    split
    · exact ⟨htruthful.latest, htruthful.acked⟩
    · exact htruthful

theorem truthful_notifyAttributes (htruthful : Truthful wire runtime) (attrs : List Grecpattr) :
    Truthful (wire ++ packagesIn memory attrs)
      (attrs.foldl (notifyAttribute memory) runtime) := by
  induction attrs generalizing wire runtime with
  | nil => exact (List.append_nil wire).symm ▸ htruthful
  | cons attr attrs ih =>
      have hsplit : packagesIn memory (attr :: attrs) =
          packagesIn memory [attr] ++ packagesIn memory attrs := by
        unfold packagesIn
        rw [← List.map_append, ← List.filter_append]
        rfl
      rw [List.foldl_cons, hsplit, ← List.append_assoc]
      exact ih (truthful_notifyAttribute htruthful attr)

def Exact (attr : Grecpattr) : Prop :=
  ∀ offset, fieldOffset attr.id = some offset →
    attr.length.toNat = if attr.id = msgattrHIpv6Address then 16 else 4

theorem Exact.contained {attr : Grecpattr} (hexact : Exact attr) : Contained attr := by
  intro offset hoffset
  have hlength := hexact offset hoffset
  unfold fieldOffset at hoffset
  unfold haapEnd
  split_ifs at hoffset hlength <;> cases hoffset <;> rw [hlength] <;> decide

theorem commitCount_acceptAttribute {attr : Grecpattr} (hexact : Exact attr) (runtime : Runtime) :
    (acceptAttribute memory runtime attr).haap.commitCount = runtime.haap.commitCount := by
  have hcopy : ∀ offset, fieldOffset attr.id = some offset →
      (copyAttribute memory offset attr runtime).haap.commitCount = runtime.haap.commitCount := by
    intro offset hoffset
    have hlength := hexact offset hoffset
    refine commitCountField.memcpy_outside _ _ ?_
    unfold fieldOffset at hoffset
    split_ifs at hoffset hlength <;> cases hoffset <;> rw [hlength] <;> decide
  unfold fieldOffset at hcopy
  unfold acceptAttribute
  split_ifs at hcopy ⊢ <;> first | rfl | exact hcopy _ rfl

/-! ### Runs -/

namespace Main

variable {config : Config} {buffer : Memory} {state next : State} {input : Input}
  {output : Output} {history : History Input Output}

def packagesReceived (message : Option (Msgtype × Byte)) (buffer : Memory) (size : Nat) :
    List FilterListEvent :=
  match message with
  | some (.notify, _) => packagesIn buffer (messageAttributes buffer size)
  | _ => []

def wireOf (history : History Input Output) : List FilterListEvent :=
  history.flatMap fun step =>
    packagesReceived step.2.handled step.2.received.buffer step.1.receivedSize ++
      acksIn step.2.effects

/-- The attributes of every Accept have the sizes of their fields. -/
def ReceiveExact (state : State) (input : Input) : Prop :=
  ∀ tuntype, handled state input = some (.accept, tuntype) →
    ∀ attr ∈ messageAttributes (receive state input).buffer input.receivedSize, Exact attr

theorem ReceiveExact.contained (hexact : ReceiveExact state input) :
    ReceiveContained state input :=
  fun tuntype hhandled attr hattr => (hexact tuntype hhandled attr hattr).contained

theorem commitCount_establish (tuntype : Byte) (now : Timeval) (runtime : Runtime) :
    (establish tuntype now runtime).haap.commitCount = runtime.haap.commitCount := by
  unfold establish
  split <;> rfl

theorem filterList_receive (hexact : ReceiveExact state input)
    (hother : ∀ tuntype, handled state input ≠ some (.notify, tuntype)) :
    (receive state input).process.runtime.haap.commitCount =
        state.process.runtime.haap.commitCount ∧
      (receive state input).process.runtime.filterListAcked =
        state.process.runtime.filterListAcked := by
  constructor
  · by_cases haccept : ∃ tuntype, handled state input = some (.accept, tuntype)
    · obtain ⟨tuntype, hhandled⟩ := haccept
      rw [receive_of_some hhandled]
      refine (commitCount_establish tuntype _ _).trans ?_
      exact view_foldl (fun runtime : Runtime => runtime.haap.commitCount)
        (fun attr hattr runtime =>
          commitCount_acceptAttribute (hexact tuntype hhandled attr hattr) runtime)
        state.process.runtime
    · have hagree : Agree Aspect.get [.commitCount] state.process
          (receive state input).process := by
        refine agree_receive hexact.contained fun msgtype tuntype hhandled htuntype => ?_
        cases msgtype with
        | accept => exact absurd ⟨tuntype, hhandled⟩ haccept
        | notify => exact absurd hhandled (hother tuntype)
        | _ => rcases htuntype with rfl | rfl <;> decide
      exact hagree .commitCount (by simp)
  · have hagree : Agree Aspect.get [.filterListAcked] state.process
        (receive state input).process := by
      refine agree_receive hexact.contained fun msgtype tuntype hhandled htuntype => ?_
      cases msgtype with
      | notify => exact absurd hhandled (hother tuntype)
      | _ => rcases htuntype with rfl | rfl <;> decide
    exact hagree .filterListAcked (by simp)

/-- A package that is received is what is regarded as the latest one. -/
theorem truthful_receive (htruthful : Truthful wire state.process.runtime)
    (hexact : ReceiveExact state input) :
    Truthful (wire ++ packagesReceived (handled state input) (receive state input).buffer
      input.receivedSize) (receive state input).process.runtime := by
  by_cases hnotify : ∃ tuntype, handled state input = some (.notify, tuntype)
  · obtain ⟨tuntype, hhandled⟩ := hnotify
    rw [hhandled, receive_of_some hhandled]
    exact truthful_notifyAttributes htruthful _
  · have hother : ∀ tuntype, handled state input ≠ some (.notify, tuntype) :=
      fun tuntype hhandled => hnotify ⟨tuntype, hhandled⟩
    have hnothing : packagesReceived (handled state input) (receive state input).buffer
        input.receivedSize = [] := by
      unfold packagesReceived
      split
      · rename_i tuntype hhandled
        exact absurd hhandled (hother tuntype)
      · rfl
    obtain ⟨hcount, hacked⟩ := filterList_receive hexact hother
    rw [hnothing, List.append_nil]
    refine ⟨?_, ?_⟩
    · rw [hcount]
      exact htruthful.latest
    · rw [hcount, hacked]
      exact htruthful.acked

/-- What `runtime` says about filter lists is true along every such run. -/
theorem truthful_of_run
    (hrun : RunWhere Step (fun _ => ReceiveExact) (State.initial config buffer) history state) :
    Truthful (wireOf history) state.process.runtime := by
  refine hrun.invariant (fun history state => Truthful (wireOf history) state.process.runtime) ?_ ?_
  · exact ⟨fun hcount => absurd rfl hcount, nofun⟩
  · intro history state input output next htruthful hexact hstep
    obtain ⟨hhandled, hreceived, heffects⟩ := output_of_step hstep
    have hreceive : TruthfulBehind (wireOf history ++ packagesReceived (handled state input)
        (receive state input).buffer input.receivedSize)
        (receive state input).process.quiet := by
      unfold TruthfulBehind
      exact (List.append_nil _).symm ▸ truthful_receive htruthful hexact
    have hnext : TruthfulBehind (wireOf history ++ packagesReceived (handled state input)
        (receive state input).buffer input.receivedSize) next.process := by
      rw [next_of_step hstep]
      exact truthful_executeTimers hreceive
    have hwire : wireOf (history ++ [(input, output)]) = wireOf history ++
        packagesReceived (handled state input) (receive state input).buffer input.receivedSize ++
          acksIn next.process.effects := by
      unfold wireOf
      rw [List.flatMap_append, List.flatMap_singleton, hhandled, hreceived, heffects,
        List.append_assoc]
    rw [hwire]
    exact hnext

/-- If the list is regarded as acknowledged, the last thing on the wire about filter lists is an
acknowledgement of the latest one. -/
def AckedLast (wire : List FilterListEvent) (runtime : Runtime) : Prop :=
  runtime.filterListAcked = true →
    0 < runtime.haap.commitCount.toNat ∧
      wire.getLast? = some (.acknowledged runtime.haap.commitCount) ∧
      lastReceived wire = some runtime.haap.commitCount

/-- What is true of the wire tells that the acknowledgement came last. -/
theorem ackedLast_of_truthful (htruthful : Truthful wire runtime) : AckedLast wire runtime := by
  intro hacked
  obtain ⟨hpositive, hlast⟩ := htruthful.acked hacked
  refine ⟨hpositive, hlast, htruthful.latest fun hzero => ?_⟩
  rw [hzero] at hpositive
  exact absurd hpositive (by decide)

/-- **Filter lists.** In every run whose Accepts are well sized, in every state between two
iterations and between a handler and the timers. -/
theorem ackedLast_of_run
    (hrun : RunWhere Step (fun _ => ReceiveExact) (State.initial config buffer) history state) :
    AckedLast (wireOf history) state.process.runtime ∧
      ∀ input, ReceiveExact state input →
        AckedLast (wireOf history ++ packagesReceived (handled state input)
          (receive state input).buffer input.receivedSize)
          (receive state input).process.runtime := by
  have htruthful := truthful_of_run hrun
  exact ⟨ackedLast_of_truthful htruthful,
    fun input hexact => ackedLast_of_truthful (truthful_receive htruthful hexact)⟩

def filterListNotify (commitCount : Byte) : List Byte :=
  bareAccept 0x60 ++ [msgattrFilterListPackage, 0, 4, 0, 0, 0, commitCount]

def acknowledging : State :=
  iteration (iteration (plainStart false) (datagram (bareAccept 0x20) ⟨20, 0⟩))
    (datagram (filterListNotify 7) ⟨21, 0⟩)

/-- It is acknowledged at once. -/
theorem acknowledging_ackedLast :
    acknowledging.process.runtime.filterListAcked = true ∧
      ∃ history, Run Step (plainStart false) history acknowledging ∧
        AckedLast (wireOf history) acknowledging.process.runtime := by
  have hfirst : ReceiveExact (plainStart false) (datagram (bareAccept 0x20) ⟨20, 0⟩) := by
    intro tuntype _ attr hattr
    have hnone : messageAttributes
        (receive (plainStart false) (datagram (bareAccept 0x20) ⟨20, 0⟩)).buffer
        (datagram (bareAccept 0x20) ⟨20, 0⟩).receivedSize = [] :=
      messageAttributes_bareAccept _ 0x20
    rw [hnone] at hattr
    exact absurd hattr List.not_mem_nil
  have hsecond : ReceiveExact
      (iteration (plainStart false) (datagram (bareAccept 0x20) ⟨20, 0⟩))
      (datagram (filterListNotify 7) ⟨21, 0⟩) := by
    intro tuntype hhandled
    have hother : handled (iteration (plainStart false) (datagram (bareAccept 0x20) ⟨20, 0⟩))
        (datagram (filterListNotify 7) ⟨21, 0⟩) = some (.notify, grecpTuntypeLte) := by
      decide +kernel
    rw [hother] at hhandled
    exact absurd hhandled (by simp)
  have hrunning : (iteration (plainStart false)
      (datagram (bareAccept 0x20) ⟨20, 0⟩)).process.exited = false := by decide +kernel
  have haccepted : RunWhere Step (fun _ => ReceiveExact) (plainStart false) _ _ :=
    .snoc .nil hfirst (step_outputOf rfl (datagram (bareAccept 0x20) ⟨20, 0⟩))
  have hrun : RunWhere Step (fun _ => ReceiveExact) (plainStart false) _ acknowledging :=
    .snoc haccepted hsecond (step_outputOf hrunning (datagram (filterListNotify 7) ⟨21, 0⟩))
  exact ⟨by decide +kernel, _, hrun.run, (ackedLast_of_run hrun).1⟩

end Main

end OpenHybrid
