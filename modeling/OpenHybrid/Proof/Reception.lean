import OpenHybrid.Proof.AttributeValues
import OpenHybrid.Proof.Execution

/-!
# What each message may change

The footprints of the message handlers. An Accept is the one message that stores as many bytes as it
says: it has a footprint as long as its copies end within `runtime.haap`.
-/

namespace OpenHybrid

open ByteMemory Frame

variable {memory : Memory} {attr : Grecpattr} {size : Nat} {uptime : Nat → Timeval}
  {runtime : Runtime} {tuntype : Byte} {msgtype : Msgtype}

def fieldOffset (id : Byte) : Option Nat :=
  if id = msgattrHIpv6Address then some haapIpOffset
  else if id = msgattrSessionId then some sessionIdOffset
  else if id = msgattrActiveHelloInterval then some activeHelloIntervalOffset
  else if id = msgattrHelloRetryTimes then some helloRetryTimesOffset
  else if id = msgattrBondingKeyValue then some bondingKeyOffset
  else if id = msgattrBypassBandwidthCheckInterval then some bypassBandwidthCheckIntervalOffset
  else none

def haapEnd : Nat := 56

/-- The attribute is copied into `runtime.haap` and not behind it. -/
def Contained (attr : Grecpattr) : Prop :=
  ∀ offset, fieldOffset attr.id = some offset → offset + attr.length.toNat ≤ haapEnd

instance : DecidablePred Contained := fun attr =>
  inferInstanceAs (Decidable (∀ offset ∈ fieldOffset attr.id, offset + attr.length.toNat ≤ haapEnd))

def AcceptContained (memory : Memory) (size : Nat) : Prop :=
  ∀ attr ∈ messageAttributes memory size, Contained attr

instance (memory : Memory) (size : Nat) : Decidable (AcceptContained memory size) :=
  inferInstanceAs (Decidable (∀ attr ∈ messageAttributes memory size, Contained attr))

def HaapOnly (before after : Runtime) : Prop :=
  ∃ haap : Haap, after = { before with haap := haap } ∧ haap.anycastIp = before.haap.anycastIp

theorem HaapOnly.refl (runtime : Runtime) : HaapOnly runtime runtime := ⟨runtime.haap, rfl, rfl⟩

theorem HaapOnly.trans {before middle after : Runtime} (hfirst : HaapOnly before middle)
    (hsecond : HaapOnly middle after) : HaapOnly before after := by
  obtain ⟨first, rfl, hanycast⟩ := hfirst
  obtain ⟨second, rfl, hsame⟩ := hsecond
  exact ⟨second, rfl, hsame.trans hanycast⟩

theorem haapOnly_poke {offset : Nat} (hlow : 16 ≤ offset) (hhigh : offset < haapEnd) (byte : Byte) :
    HaapOnly runtime (runtime.poke offset byte) := by
  rw [poke_of_lt hhigh]
  refine ⟨_, rfl, ?_⟩
  simp only [Haap.poke, apply_ite Haap.anycastIp, ite_self]
  rw [if_neg (by omega)]

theorem haapOnly_memcpy (runtime : Runtime) {offset : Nat} (source : Memory) (hlow : 16 ≤ offset) :
    ∀ {length : Nat}, offset + length ≤ haapEnd →
      HaapOnly runtime (runtime.memcpy offset source length) := by
  intro length
  induction length with
  | zero => intro _; exact HaapOnly.refl runtime
  | succ length ih =>
      intro hhigh
      rw [Runtime.memcpy]
      exact (ih (by omega)).trans (haapOnly_poke (by omega) (by omega) _)

theorem haapOnly_acceptAttribute (hcontained : Contained attr) (runtime : Runtime) :
    HaapOnly runtime (acceptAttribute memory runtime attr) := by
  have hcopy : ∀ offset, fieldOffset attr.id = some offset → 16 ≤ offset →
      HaapOnly runtime (copyAttribute memory offset attr runtime) := fun offset hoffset hlow =>
    haapOnly_memcpy runtime _ hlow (hcontained offset hoffset)
  unfold fieldOffset at hcopy
  unfold acceptAttribute
  split_ifs at hcopy ⊢
  · exact hcopy _ rfl (by decide)
  · exact (hcopy _ rfl (by decide)).trans ⟨_, rfl, rfl⟩
  · exact (hcopy _ rfl (by decide)).trans ⟨_, rfl, rfl⟩
  · exact HaapOnly.refl runtime
  · exact (hcopy _ rfl (by decide)).trans ⟨_, rfl, rfl⟩
  · exact HaapOnly.refl runtime
  · exact (hcopy _ rfl (by decide)).trans ⟨_, rfl, rfl⟩
  · exact (hcopy _ rfl (by decide)).trans ⟨_, rfl, rfl⟩
  · exact HaapOnly.refl runtime

/-- Attributes that are contained change `runtime.haap` only. -/
theorem haapOnly_acceptAttributes (hcontained : AcceptContained memory size) (runtime : Runtime) :
    HaapOnly runtime ((messageAttributes memory size).foldl (acceptAttribute memory) runtime) := by
  unfold AcceptContained at hcontained
  generalize messageAttributes memory size = attrs at hcontained ⊢
  induction attrs generalizing runtime with
  | nil => exact HaapOnly.refl runtime
  | cons attr attrs ih =>
      have hattr := hcontained attr List.mem_cons_self
      have hattrs : ∀ other ∈ attrs, Contained other :=
        fun other hother => hcontained other (List.mem_cons_of_mem attr hother)
      rw [List.foldl_cons]
      exact (haapOnly_acceptAttribute hattr runtime).trans (ih _ hattrs)

theorem haapIp_memcpy {offset : Nat} (runtime : Runtime) (source : Memory)
    (hbehind : sessionIdOffset ≤ offset) (length : Nat) :
    (runtime.memcpy offset source length).haap.ip = runtime.haap.ip := by
  induction length with
  | zero => rfl
  | succ length ih =>
      rw [Runtime.memcpy, haap_poke, apply_ite Haap.ip, ih]
      have hkept : ∀ haap : Haap, (haap.poke (offset + length) (source length)).ip = haap.ip := by
        intro haap
        rw [sessionIdOffset] at hbehind
        simp only [Haap.poke, apply_ite Haap.ip, ite_self]
        split_ifs <;> first | rfl | omega
      rw [hkept, ih, ite_self]

theorem haapIp_acceptAttribute (hid : attr.id ≠ msgattrHIpv6Address) (runtime : Runtime) :
    (acceptAttribute memory runtime attr).haap.ip = runtime.haap.ip := by
  have hcopy : ∀ offset, sessionIdOffset ≤ offset →
      (copyAttribute memory offset attr runtime).haap.ip = runtime.haap.ip :=
    fun offset hbehind => haapIp_memcpy runtime _ hbehind _
  unfold acceptAttribute
  rw [if_neg hid]
  split_ifs
  · exact hcopy _ (by decide)
  · exact hcopy _ (by decide)
  · rfl
  · exact hcopy _ (by decide)
  · rfl
  · exact hcopy _ (by decide)
  · exact hcopy _ (by decide)
  · rfl

/-! ### Attributes that fit -/

/-- Every attribute of an Accept has the length of its field, or changes nothing. -/
def AcceptFits (memory : Memory) (size : Nat) : Prop :=
  ∀ attr ∈ messageAttributes memory size, Fits memory .accept attr

theorem Fits.length_le (hfits : Fits memory .accept attr) (hword : attr.id ≠ msgattrHIpv6Address)
    {offset : Nat} (hoffset : fieldOffset attr.id = some offset) : attr.length.toNat ≤ 4 := by
  rw [Fits, if_neg hword] at hfits
  split_ifs at hfits with hstored hunset
  · exact hfits.le
  · rcases hfits with hlength | ⟨hshort, -⟩
    · exact hlength.le
    · exact hshort.le
  · obtain ⟨hsession, hkey, hbypass⟩ :
        attr.id ≠ msgattrSessionId ∧ attr.id ≠ msgattrBondingKeyValue ∧
          attr.id ≠ msgattrBypassBandwidthCheckInterval := by tauto
    obtain ⟨hinterval, hretries⟩ := not_or.mp hunset
    rw [fieldOffset, if_neg hword, if_neg hsession, if_neg hinterval, if_neg hretries, if_neg hkey,
      if_neg hbypass] at hoffset
    exact absurd hoffset (by simp)

theorem Fits.contained (hfits : Fits memory .accept attr) : Contained attr := by
  intro offset hoffset
  by_cases haddress : attr.id = msgattrHIpv6Address
  · rw [fieldOffset, if_pos haddress] at hoffset
    rw [Fits, if_pos haddress] at hfits
    obtain rfl := Option.some.inj hoffset
    unfold haapIpOffset haapEnd
    omega
  · have hlength := hfits.length_le haddress hoffset
    have hlast : offset ≤ bypassBandwidthCheckIntervalOffset := by
      unfold fieldOffset at hoffset
      split_ifs at hoffset <;> cases hoffset <;> decide
    unfold bypassBandwidthCheckIntervalOffset at hlast
    unfold haapEnd
    omega

theorem AcceptFits.contained (hfits : AcceptFits memory size) : AcceptContained memory size :=
  fun attr hattr => (hfits attr hattr).contained

theorem assigned_field {α : Type*} (view : Runtime → α) {target : Option Target}
    (htarget : ∀ aim, target = some aim → ∀ bytes, view (aim.assign bytes runtime) = view runtime) :
    view (assigned target memory attr runtime) = view runtime := by
  cases target with
  | none => rfl
  | some aim =>
      rw [assigned, apply_ite view, htarget aim rfl, ite_self]

theorem retryTimes_acceptAttribute (hfits : Fits memory .accept attr)
    (hset : runtime.haap.helloRetryTimes ≠ 0) :
    (acceptAttribute memory runtime attr).haap.helloRetryTimes = runtime.haap.helloRetryTimes := by
  rw [acceptAttribute_lands_iff.mpr hfits runtime]
  refine assigned_field (fun runtime => runtime.haap.helloRetryTimes) fun aim haim bytes => ?_
  unfold acceptTarget at haim
  split_ifs at haim <;> cases haim
  · rfl
  · rfl
  · show (if runtime.haap.activeHelloInterval = 0 then _ else runtime).haap.helloRetryTimes = _
    split <;> rfl
  · exact congrArg (fun runtime : Runtime => runtime.haap.helloRetryTimes) (if_neg hset)
  · rfl
  · rfl

theorem retryTimes_acceptAttributes (hfits : AcceptFits memory size)
    (hset : runtime.haap.helloRetryTimes ≠ 0) :
    ((messageAttributes memory size).foldl (acceptAttribute memory)
      runtime).haap.helloRetryTimes = runtime.haap.helloRetryTimes := by
  unfold AcceptFits at hfits
  generalize messageAttributes memory size = attrs at hfits ⊢
  induction attrs generalizing runtime with
  | nil => rfl
  | cons attr attrs ih =>
      have hattr := retryTimes_acceptAttribute (hfits attr List.mem_cons_self) hset
      rw [List.foldl_cons, ih (hattr.symm ▸ hset) fun other hother =>
        hfits other (List.mem_cons_of_mem attr hother), hattr]

/-! ### Footprints -/

def Msgtype.footprint (tuntype : Byte) : Msgtype → List Aspect
  | .request | .deny => []
  | .accept =>
      [.parameters, .session, .commitCount, establishedAspect tuntype, hellosAspect tuntype]
  | .hello => [hellosAspect tuntype]
  | .teardown => [.lteEstablished, .dslEstablished]
  | .notify => [.commitCount, .filterListAcked, .verification]

abbrev Process.withRuntime (process : Process) (runtime : Runtime) : Process :=
  { process with runtime := runtime }

variable (process : Process)

theorem within_haapOnly {after : Runtime} (hhaap : HaapOnly process.runtime after) :
    Within [.parameters, .session, .commitCount] process (process.withRuntime after) := by
  obtain ⟨haap, rfl, hanycast⟩ := hhaap
  intro aspect haspect
  cases aspect with
  | settings =>
      show Runtime.settings _ = Runtime.settings _
      simp only [Runtime.settings, hanycast]
  | parameters => exact absurd (by decide) haspect
  | session => exact absurd (by decide) haspect
  | commitCount => exact absurd (by decide) haspect
  | _ => rfl

theorem within_establish (now : Timeval) :
    Within [establishedAspect tuntype, hellosAspect tuntype] process
      (process.withRuntime (establish tuntype now process.runtime)) := by
  by_cases htuntype : tuntype = grecpTuntypeLte
  · simp only [establishedAspect, hellosAspect, establish, if_pos htuntype]
    intro aspect haspect
    cases aspect with
    | lteEstablished => exact absurd (by decide) haspect
    | lteHellos => exact absurd (by decide) haspect
    | _ => rfl
  · simp only [establishedAspect, hellosAspect, establish, if_neg htuntype]
    intro aspect haspect
    cases aspect with
    | dslEstablished => exact absurd (by decide) haspect
    | dslHellos => exact absurd (by decide) haspect
    | _ => rfl

theorem within_helloAttribute (readings : Nat) :
    Within [hellosAspect tuntype] process (process.withRuntime
      (helloAttribute memory tuntype uptime (process.runtime, readings) attr).1) := by
  unfold helloAttribute
  by_cases hid : attr.id = msgattrTimestamp
  · by_cases htuntype : tuntype = grecpTuntypeLte
    · simp only [hellosAspect, if_pos hid, if_pos htuntype]
      intro aspect haspect
      cases aspect with
      | lteHellos => exact absurd (by decide) haspect
      | _ => rfl
    · simp only [hellosAspect, if_pos hid, if_neg htuntype]
      intro aspect haspect
      cases aspect with
      | dslHellos => exact absurd (by decide) haspect
      | _ => rfl
  · simp only [if_neg hid]
    exact Within.refl _ _

theorem within_helloAttributes (attrs : List Grecpattr) (readings : Nat) :
    Within [hellosAspect tuntype] process (process.withRuntime
      (attrs.foldl (helloAttribute memory tuntype uptime) (process.runtime, readings)).1) := by
  induction attrs generalizing process readings with
  | nil => exact Within.refl _ _
  | cons attr attrs ih =>
      rw [List.foldl_cons]
      exact (within_helloAttribute process readings).trans (ih (process.withRuntime _) _)

theorem within_notifyAttribute :
    Within [.commitCount, .filterListAcked, .verification] process
      (process.withRuntime (notifyAttribute memory process.runtime attr)) := by
  unfold notifyAttribute
  split_ifs
  · intro aspect haspect
    cases aspect with
    | commitCount => exact absurd (by decide) haspect
    | filterListAcked => exact absurd (by decide) haspect
    | _ => rfl
  · intro aspect haspect
    cases aspect with
    | verification => exact absurd (by decide) haspect
    | _ => rfl
  · exact Within.refl _ _

theorem within_notifyAttributes (attrs : List Grecpattr) :
    Within [.commitCount, .filterListAcked, .verification] process
      (process.withRuntime (attrs.foldl (notifyAttribute memory) process.runtime)) := by
  induction attrs generalizing process with
  | nil => exact Within.refl _ _
  | cons attr attrs ih =>
      rw [List.foldl_cons]
      exact (within_notifyAttribute process).trans (ih (process.withRuntime _))

theorem within_teardown :
    Within [.lteEstablished, .dslEstablished] process (process.withRuntime
      { process.runtime with lte.tunnelEstablished := false, dsl.tunnelEstablished := false }) := by
  intro aspect haspect
  cases aspect with
  | lteEstablished => exact absurd (by decide) haspect
  | dslEstablished => exact absurd (by decide) haspect
  | _ => rfl

/-- What a message may change, if it is no Accept that copies across the end of `runtime.haap`. -/
theorem within_handleGrecpmessage (hcontained : msgtype = .accept → AcceptContained memory size) :
    Within (msgtype.footprint tuntype) process (process.withRuntime
      (handleGrecpmessage memory msgtype tuntype attributesOffset (size - attributesOffset) uptime
        process.runtime)) := by
  cases msgtype with
  | request => exact Within.refl _ _
  | deny => exact Within.refl _ _
  | accept =>
      have hattributes := within_haapOnly process
        (haapOnly_acceptAttributes (hcontained rfl) process.runtime)
      refine Within.trans (hattributes.mono (by simp [Msgtype.footprint])) ?_
      exact (within_establish (process.withRuntime _) (uptime 0)).mono (by simp [Msgtype.footprint])
  | hello => exact within_helloAttributes process _ 0
  | teardown => exact within_teardown process
  | notify => exact within_notifyAttributes process _

/-! ### One reception -/

namespace Main

variable {state : State} {input : Input}

def Input.receivedSize (input : Input) : Nat :=
  match input.recvfrom with
  | .failed => 0
  | .datagram _ bytes => min bytes.length maxPktSize

/-- No Accept copies across the end of `runtime.haap`. -/
def ReceiveContained (state : State) (input : Input) : Prop :=
  ∀ tuntype, handled state input = some (.accept, tuntype) →
    AcceptContained (receive state input).buffer input.receivedSize

instance : Decidable (ReceiveContained state input) :=
  decidable_of_iff ((handled state input).map Prod.fst = some .accept →
      AcceptContained (receive state input).buffer input.receivedSize) <| by
    refine ⟨fun hcontained tuntype hhandled => hcontained (by rw [hhandled]; rfl), ?_⟩
    intro hcontained hkind
    obtain ⟨⟨msgtype, tuntype⟩, hhandled, rfl⟩ := Option.map_eq_some_iff.mp hkind
    exact hcontained tuntype hhandled

theorem receive_of_none (hhandled : handled state input = none) :
    (receive state input).process = state.process := by
  unfold handled at hhandled
  unfold receive
  split at hhandled
  · rfl
  · split at hhandled
    · rename_i hforeign
      simp only [hforeign, ne_eq, not_false_eq_true, if_true]
    · rename_i hours
      simp only [hours, if_false, processGrecpmessage, hhandled]

theorem receive_of_some (hhandled : handled state input = some (msgtype, tuntype)) :
    (receive state input).process = state.process.withRuntime
      (handleGrecpmessage (receive state input).buffer msgtype tuntype attributesOffset
        (input.receivedSize - attributesOffset) input.uptime state.process.runtime) := by
  unfold handled at hhandled
  unfold receive Input.receivedSize
  cases hrecvfrom : input.recvfrom with
  | failed => simp [hrecvfrom] at hhandled
  | datagram saddr bytes =>
      by_cases hours : saddr = state.process.runtime.haap.ip
      · simp only [hrecvfrom, hours, ne_eq, not_true_eq_false, if_false] at hhandled ⊢
        rw [processGrecpmessage, hhandled]
      · simp [hrecvfrom, hours] at hhandled

theorem exited_receive (state : State) (input : Input) :
    (receive state input).process.exited = state.process.exited := by
  cases hhandled : handled state input with
  | none => rw [receive_of_none hhandled]
  | some message =>
      obtain ⟨msgtype, tuntype⟩ := message
      rw [receive_of_some hhandled]

/-- **One message.** It keeps to the footprint of its handler. -/
theorem within_receive_of_some (hhandled : handled state input = some (msgtype, tuntype))
    (hcontained : ReceiveContained state input) :
    Within (msgtype.footprint tuntype) state.process (receive state input).process := by
  rw [receive_of_some hhandled]
  refine within_handleGrecpmessage state.process ?_
  rintro rfl
  exact hcontained tuntype hhandled

/-- Only the two tunnels have messages. -/
theorem isTuntype_of_handled (hhandled : handled state input = some (msgtype, tuntype)) :
    IsTuntype tuntype := by
  unfold handled at hhandled
  split at hhandled
  · exact absurd hhandled (by simp)
  · split at hhandled
    · exact absurd hhandled (by simp)
    · exact (of_dispatch_eq_some hhandled).2.2.2

/-- What no handler touches is as it was. -/
theorem agree_receive {support : List Aspect} (hcontained : ReceiveContained state input)
    (hdisjoint : ∀ msgtype tuntype, handled state input = some (msgtype, tuntype) →
      IsTuntype tuntype → ∀ aspect ∈ support, aspect ∉ msgtype.footprint tuntype) :
    Agree Aspect.get support state.process (receive state input).process := by
  cases hhandled : handled state input with
  | none =>
      rw [receive_of_none hhandled]
      exact Agree.refl support _
  | some message =>
      obtain ⟨msgtype, tuntype⟩ := message
      exact (within_receive_of_some hhandled hcontained).agree
        (hdisjoint msgtype tuntype hhandled (isTuntype_of_handled hhandled))

/-! ### Tunnels -/

def establishedBy (message : Option (Msgtype × Byte)) (tuntype : Byte) (before : Bool) : Bool :=
  match message with
  | some (.accept, accepted) => if accepted = tuntype then true else before
  | some (.teardown, _) => false
  | _ => before

theorem established_establish (tuntype : Byte) (now : Timeval) (runtime : Runtime) :
    (establish tuntype now runtime).established tuntype = true := by
  unfold establish Runtime.established Runtime.tunnel
  split <;> rfl

theorem established_teardown (tuntype : Byte) (runtime : Runtime) :
    ({ runtime with lte.tunnelEstablished := false, dsl.tunnelEstablished := false } :
      Runtime).established tuntype = false := by
  unfold Runtime.established Runtime.tunnel
  split <;> rfl

theorem notMem_footprint_of_ne {aspect : Byte → Aspect}
    (haspect : aspect = establishedAspect ∨ aspect = hellosAspect) {other : Byte}
    (htuntype : IsTuntype tuntype) (hother : IsTuntype other) (hne : other ≠ tuntype)
    (hteardown : msgtype ≠ .teardown) : aspect tuntype ∉ msgtype.footprint other := by
  rcases haspect with rfl | rfl <;> rcases htuntype with rfl | rfl <;>
    rcases hother with rfl | rfl <;> cases msgtype <;>
    first | exact absurd rfl hne | exact absurd rfl hteardown | decide

/-- Accepts and Tear Downs alone decide whether a tunnel is up. -/
theorem established_receive (htuntype : IsTuntype tuntype)
    (hcontained : ReceiveContained state input) :
    (receive state input).process.runtime.established tuntype =
      establishedBy (handled state input) tuntype
        (state.process.runtime.established tuntype) := by
  cases hhandled : handled state input with
  | none =>
      rw [receive_of_none hhandled]
      rfl
  | some message =>
      obtain ⟨msgtype, other⟩ := message
      have hkept : (establishedAspect tuntype ∉ msgtype.footprint other) →
          (receive state input).process.runtime.established tuntype =
            state.process.runtime.established tuntype := fun hfootprint =>
        established_eq_of_get htuntype
          (within_receive_of_some hhandled hcontained _ hfootprint)
      have htunnel : establishedAspect tuntype ∉ [.commitCount, .filterListAcked, .verification] ∧
          establishedAspect tuntype ∉ [hellosAspect other] := by
        unfold establishedAspect hellosAspect
        constructor
        · split <;> decide
        · split <;> split <;> decide
      cases msgtype with
      | request => exact hkept List.not_mem_nil
      | deny => exact hkept List.not_mem_nil
      | hello => exact hkept htunnel.2
      | notify => exact hkept htunnel.1
      | teardown =>
          rw [receive_of_some hhandled]
          exact established_teardown tuntype _
      | accept =>
          rw [establishedBy]
          split
          · rename_i hsame
            subst hsame
            rw [receive_of_some hhandled]
            exact established_establish other _ _
          · rename_i hne
            exact hkept (notMem_footprint_of_ne (.inl rfl) htuntype (isTuntype_of_handled hhandled)
              hne (by decide))

theorem settings_receive (hcontained : ReceiveContained state input) :
    (receive state input).process.runtime.settings = state.process.runtime.settings := by
  have hagree : Agree Aspect.get [.settings] state.process (receive state input).process := by
    refine agree_receive hcontained fun msgtype tuntype _ htuntype => ?_
    rcases htuntype with rfl | rfl <;> cases msgtype <;> decide
  exact hagree .settings (by simp)

/-! ### The session -/

/-- Only an Accept changes the session. -/
theorem session_receive (hcontained : ReceiveContained state input)
    (hother : ∀ tuntype, handled state input ≠ some (.accept, tuntype)) :
    (receive state input).process.runtime.session = state.process.runtime.session := by
  have hagree : Agree Aspect.get [.session] state.process (receive state input).process := by
    refine agree_receive hcontained fun msgtype tuntype hhandled htuntype => ?_
    cases msgtype with
    | accept => exact absurd hhandled (hother tuntype)
    | _ => rcases htuntype with rfl | rfl <;> decide
  exact hagree .session (by simp)

def NamesNoAddress (state : State) (input : Input) : Prop :=
  ∀ tuntype, handled state input = some (.accept, tuntype) →
    ∀ attr ∈ messageAttributes (receive state input).buffer input.receivedSize,
      attr.id ≠ msgattrHIpv6Address

theorem haapIp_establish (tuntype : Byte) (now : Timeval) (runtime : Runtime) :
    (establish tuntype now runtime).haap.ip = runtime.haap.ip := by
  unfold establish
  split <;> rfl

theorem haapIp_receive (hcontained : ReceiveContained state input)
    (hnames : NamesNoAddress state input) :
    (receive state input).process.runtime.haap.ip = state.process.runtime.haap.ip := by
  by_cases haccept : ∃ tuntype, handled state input = some (.accept, tuntype)
  · obtain ⟨tuntype, hhandled⟩ := haccept
    rw [receive_of_some hhandled]
    refine (haapIp_establish tuntype _ _).trans ?_
    exact view_foldl (fun runtime : Runtime => runtime.haap.ip)
      (fun attr hattr runtime => haapIp_acceptAttribute (hnames tuntype hhandled attr hattr) runtime)
      state.process.runtime
  · have hsession := session_receive hcontained fun tuntype hhandled =>
      haccept ⟨tuntype, hhandled⟩
    exact congrArg Session.ip hsession

/-! ### Hellos -/

def ReceiveFits (state : State) (input : Input) : Prop :=
  ∀ tuntype, handled state input = some (.accept, tuntype) →
    AcceptFits (receive state input).buffer input.receivedSize

theorem ReceiveFits.contained (hfits : ReceiveFits state input) : ReceiveContained state input :=
  fun tuntype hhandled => (hfits tuntype hhandled).contained

/-- Only a Hello and an Accept for the tunnel change its hellos. -/
theorem hellos_receive (htuntype : IsTuntype tuntype) (hcontained : ReceiveContained state input)
    (haccept : handled state input ≠ some (.accept, tuntype))
    (hhello : handled state input ≠ some (.hello, tuntype)) :
    (receive state input).process.runtime.hellos tuntype =
      state.process.runtime.hellos tuntype := by
  have hagree : Agree Aspect.get [hellosAspect tuntype] state.process
      (receive state input).process := by
    refine agree_receive hcontained fun msgtype other hhandled hother aspect haspect => ?_
    obtain rfl := List.mem_singleton.mp haspect
    by_cases hsame : other = tuntype
    · subst hsame
      cases msgtype with
      | accept => exact absurd hhandled haccept
      | hello => exact absurd hhandled hhello
      | _ => rcases htuntype with rfl | rfl <;> decide
    · by_cases hteardown : msgtype = .teardown
      · subst hteardown
        show hellosAspect tuntype ∉ [Aspect.lteEstablished, .dslEstablished]
        rcases htuntype with rfl | rfl <;> decide
      · exact notMem_footprint_of_ne (.inr rfl) htuntype hother hsame hteardown
  exact hellos_eq_of_get htuntype (hagree _ (List.mem_singleton_self _))

theorem retryTimes_establish (tuntype : Byte) (now : Timeval) (runtime : Runtime) :
    (establish tuntype now runtime).haap.helloRetryTimes = runtime.haap.helloRetryTimes := by
  unfold establish
  split <;> rfl

theorem retryTimes_receive (hfits : ReceiveFits state input)
    (hset : state.process.runtime.parameters.helloRetryTimes ≠ 0) :
    (receive state input).process.runtime.parameters.helloRetryTimes =
      state.process.runtime.parameters.helloRetryTimes := by
  by_cases haccept : ∃ tuntype, handled state input = some (.accept, tuntype)
  · obtain ⟨tuntype, hhandled⟩ := haccept
    rw [receive_of_some hhandled]
    exact (retryTimes_establish tuntype _ _).trans
      (retryTimes_acceptAttributes (hfits tuntype hhandled) hset)
  · have hagree : Agree Aspect.get [.parameters] state.process (receive state input).process := by
      refine agree_receive hfits.contained fun msgtype tuntype hhandled htuntype => ?_
      cases msgtype with
      | accept => exact absurd ⟨tuntype, hhandled⟩ haccept
      | _ => rcases htuntype with rfl | rfl <;> decide
    exact congrArg Parameters.helloRetryTimes (hagree .parameters (by simp))

end Main

end OpenHybrid
