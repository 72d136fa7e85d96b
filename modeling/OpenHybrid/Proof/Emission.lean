import OpenHybrid.Proof.Attributes
import OpenHybrid.Proof.Growth
import OpenHybrid.Proof.GrecpRoundTrip
import OpenHybrid.Proof.Source

/-!
# What the client says

The client has six things to say to the HAAP. Which of them are due in an iteration is read off the
state the message handler left; what goes out are exactly the datagrams that say them, in the order
of the source, and a receiver that takes them apart as this program does finds what was said.
-/

namespace OpenHybrid

open ByteMemory Frame Transition

variable {answers : Answers} {process other : Process}

/-! ### Contents -/

inductive Content where
  | request (tuntype : Byte)
  | hello (tuntype : Byte) (timestamp : BitVec 32 × BitVec 32)
  | filterListAck (commitCount : BitVec 32) (ackcode : Byte)
  | tunnelVerification
  /-- Goes over the tunnel `tuntype` and is about the other one. -/
  | linkFailure (tuntype : Byte)
  | bypassTraffic (kbit : BitVec 32)
  deriving DecidableEq

namespace Content

def msgtype : Content → Msgtype
  | .request _ => .request
  | .hello _ _ => .hello
  | .filterListAck _ _ | .tunnelVerification | .linkFailure _ | .bypassTraffic _ => .notify

def tuntype : Content → Byte
  | .request tuntype | .hello tuntype _ | .linkFailure tuntype => tuntype
  | .filterListAck _ _ | .tunnelVerification => grecpTuntypeLte
  | .bypassTraffic _ => grecpTuntypeDsl

def items (session : Session) : Content → List Item
  | .request tuntype =>
      (if tuntype = grecpTuntypeLte then
        [(msgattrClientIdentificationName, clientIdentificationName)] else []) ++
      (if session.sessionId ≠ 0 then
        [(msgattrSessionId, storeList (htonl session.sessionId))] else []) ++
      [(msgattrPadding, [])]
  | .hello _ timestamp =>
      [(msgattrTimestamp, storeList (htonl timestamp.1) ++ storeList (htonl timestamp.2)),
        (msgattrPadding, [])]
  | .filterListAck commitCount ackcode =>
      [(msgattrFilterListPackageAck, storeList (htonl commitCount) ++ [ackcode]),
        (msgattrPadding, [])]
  | .tunnelVerification => [(msgattrTunnelVerification, []), (msgattrPadding, [])]
  | .linkFailure tuntype =>
      [(if tuntype = grecpTuntypeLte then msgattrDslLinkFailure else msgattrLteLinkFailure, []),
        (msgattrPadding, [])]
  | .bypassTraffic kbit =>
      [(msgattrBypassTrafficRate, storeList (htonl kbit)), (msgattrPadding, [])]

def message (runtime : Runtime) (content : Content) : Message :=
  grecpmessage runtime content.msgtype content.tuntype
    (attributeArea (content.items runtime.session))

def send (answers : Answers) (runtime : Runtime) (content : Content) : List Effect :=
  if (content.message runtime).source ≠ in6addrAny then
    [.sendmsg content.msgtype content.tuntype (content.message runtime)
      (answers.sendmsg (content.message runtime))]
  else []

end Content

/-! ### Taking a message apart -/

structure Parsed where
  flagsAndVersion : BitVec 16
  proto : BitVec 16
  key : BitVec 32
  msgtype : Byte
  tuntype : Byte
  items : List Item
  /-- what is left of the area behind the last attribute -/
  rest : Int
  deriving DecidableEq

/-- The header, the type byte and the attributes, read as `process_grecpmessage` and the loop of its
handlers read them. -/
def parse (memory : Memory) (size : Nat) : Parsed where
  flagsAndVersion := ntohs (Grehdr.at memory).flagsAndVersion
  proto := ntohs (Grehdr.at memory).proto
  key := ntohl (Grehdr.at memory).key
  msgtype := memory 8 >>> 4
  tuntype := memory 8 &&& 0x0f#8
  items := (messageAttributes memory size).map fun attr =>
    (attr.id, (memory.shift attr.value).read attr.length.toNat)
  rest := (attributeLoop memory ((size : Int) - attributesOffset).toNat attributesOffset
    ((size : Int) - attributesOffset)).2

def Content.parsed (session : Session) (content : Content) : Parsed where
  flagsAndVersion := grecpFlagsandversion
  proto := grecpProto
  key := session.bondingKey
  msgtype := content.msgtype.code
  tuntype := content.tuntype
  items := content.items session
  rest := 0

theorem Content.items_short {session : Session} {content : Content} {item : Item}
    (hmem : item ∈ content.items session) : item.2.length ≤ 40 := by
  cases content with
  | request tuntype =>
      simp only [Content.items, List.mem_append, List.mem_singleton] at hmem
      rcases hmem with (hmem | hmem) | rfl
      · split at hmem
        · obtain rfl := List.mem_singleton.mp hmem
          decide
        · exact absurd hmem List.not_mem_nil
      · split at hmem
        · obtain rfl := List.mem_singleton.mp hmem
          simp
        · exact absurd hmem List.not_mem_nil
      · simp
  | _ =>
      simp only [Content.items, List.mem_cons, List.not_mem_nil, or_false] at hmem
      rcases hmem with rfl | rfl <;> simp

theorem Content.items_count (session : Session) (content : Content) :
    (content.items session).length ≤ 3 := by
  cases content with
  | request tuntype =>
      simp only [Content.items, List.length_append, List.length_singleton]
      have hname : (if tuntype = grecpTuntypeLte then
          [(msgattrClientIdentificationName, clientIdentificationName)] else []).length ≤ 1 := by
        split <;> simp
      have hid : (if session.sessionId ≠ 0 then
          [(msgattrSessionId, storeList (htonl session.sessionId))] else []).length ≤ 1 := by
        split <;> simp
      omega
  | _ => simp [Content.items]

theorem flatMap_bytes_le {items : List Item} {bound : Nat}
    (hitems : ∀ item ∈ items, item.2.length ≤ bound) :
    (items.flatMap Item.bytes).length ≤ items.length * (3 + bound) := by
  induction items with
  | nil => simp
  | cons item rest ih =>
      have hfirst := hitems item List.mem_cons_self
      have hrest := ih fun other hmem => hitems other (List.mem_cons_of_mem item hmem)
      rw [List.flatMap_cons, List.length_append, Item.bytes_length, List.length_cons,
        Nat.succ_mul]
      omega

/-- Every message fits the packet it is received into. -/
theorem Content.fits (session : Session) (content : Content) :
    9 + ((content.items session).flatMap Item.bytes).length ≤ maxPktSize := by
  have hbytes := flatMap_bytes_le fun item (hmem : item ∈ content.items session) =>
    Content.items_short hmem
  have hcount := content.items_count session
  unfold maxPktSize
  omega

/-- Whatever is said is what its receiver finds, over whatever its buffer held before. -/
theorem Content.parse_message (runtime : Runtime) {content : Content}
    (htuntype : IsTuntype content.tuntype) (buffer : Memory) :
    parse (received buffer (content.message runtime).bytes)
        (content.message runtime).bytes.length = content.parsed runtime.session := by
  have hvalues : ∀ item ∈ content.items runtime.session, item.2.length < 2 ^ 16 :=
    fun item hmem => lt_of_le_of_lt (Content.items_short hmem) (by decide)
  have harea := attributeArea_eq hvalues
  have hfits := content.fits runtime.session
  have harea_fits : 9 + (attributeArea (content.items runtime.session)).length ≤ maxPktSize := by
    rwa [harea]
  obtain ⟨hheader, htype, hrest⟩ := received_grecpmessage runtime content.msgtype content.tuntype
    buffer harea_fits
  have hsize : ((content.message runtime).bytes.length : Int) - attributesOffset =
      (((content.items runtime.session).flatMap Item.bytes).length : Nat) := by
    rw [Content.message, grecpmessage_length, harea, attributesOffset]
    omega
  obtain ⟨attrs, hloop, hitems⟩ := attributeLoop_flatMap _ hvalues _ _ _
    (length_le_flatMap_bytes _) (hrest.trans (by rw [harea]))
  have hread := congrArg (List.map fun item => (item.1, item.2.2)) hitems
  rw [List.map_map, List.map_map] at hread
  obtain ⟨hcode, htunnel⟩ := msgtypeAndTuntype_split content.msgtype htuntype
  unfold parse Content.parsed messageAttributes attributes
  rw [hsize, Int.toNat_natCast, attributesOffset]
  unfold Content.message at *
  rw [hheader, htype, hloop, hcode, htunnel]
  simp only [Parsed.mk.injEq]
  refine ⟨ntohs_htons _, ntohs_htons _, ntohl_htonl _, trivial, trivial, ?_, trivial⟩
  exact hread.trans (List.map_id _)

theorem Content.send_congr {runtime other : Runtime} (hsession : runtime.session = other.session)
    (hinterfaces : (runtime.lte.interfaceIp, runtime.dsl.interfaceIp) =
      (other.lte.interfaceIp, other.dsl.interfaceIp)) (content : Content) :
    content.send answers runtime = content.send answers other := by
  obtain ⟨hlte, hdsl⟩ := Prod.mk.inj hinterfaces
  have hmessage : content.message runtime = content.message other := by
    unfold Content.message
    rw [hsession, grecpmessage_congr hsession hlte hdsl]
  unfold Content.send
  rw [hmessage]

/-! ### What is due -/

def filterListDue (runtime : Runtime) : Bool :=
  runtime.established grecpTuntypeLte && decide (0 < runtime.haap.commitCount.toNat) &&
    !runtime.filterListAcked

def verificationDue (runtime : Runtime) : Bool :=
  runtime.established grecpTuntypeLte && runtime.lte.tunnelVerificationRequired

def bypassTrafficDue (answers : Answers) (runtime : Runtime) : Bool :=
  runtime.established grecpTuntypeDsl && decide (runtime.dsl.lastBypassTrafficSent <
    (answers.uptime .bypassTrafficDue).tvSec -
      runtime.parameters.bypassBandwidthCheckInterval.toNat)

def terminating (answers : Answers) (runtime : Runtime) : Bool :=
  decide (answers.signal.getD runtime.signal = sigint ∨
    answers.signal.getD runtime.signal = sigterm)

def timestampNow (answers : Answers) (tuntype : Byte) : BitVec 32 × BitVec 32 :=
  helloTimestamp (answers.uptime (helloReadings tuntype).seconds)
    (answers.uptime (helloReadings tuntype).milliseconds)

def helloSaid (answers : Answers) (tuntype : Byte) (runtime : Runtime) : List Content :=
  if helloDue answers tuntype runtime then [.hello tuntype (timestampNow answers tuntype)] else []

def Timer.tells (answers : Answers) (runtime : Runtime) : Timer → List Content
  | .connect => (requested runtime).toList.map .request
  | .ackFilterList =>
      if filterListDue runtime then [.filterListAck runtime.haap.commitCount 2] else []
  | .verifyTunnel => if verificationDue runtime then [.tunnelVerification] else []
  | .sendLteHello => helloSaid answers grecpTuntypeLte runtime
  | .sendDslHello => helloSaid answers grecpTuntypeDsl runtime
  | .bypassBandwidth => if bypassTrafficDue answers runtime then [.bypassTraffic 1000] else []
  | .handleSignals =>
      if terminating answers runtime ∧ runtime.established grecpTuntypeLte ∧
          runtime.established grecpTuntypeDsl then
        [.linkFailure grecpTuntypeLte, .linkFailure grecpTuntypeDsl]
      else []
  | _ => []

/-! ### What goes out -/

def said (effects : List Effect) : List Effect :=
  effects.filter fun effect => effect.kind.isMessage

theorem said_append (before after : List Effect) : said (before ++ after) = said before ++ said after :=
  List.filter_append ..

/-- What may change nothing about messages says nothing. -/
theorem said_of_silent {footprint : List Aspect} (hgrows : Grows process other)
    (hwithin : Within footprint process other)
    (hsilent : ∀ aspect ∈ footprint, ∀ kind, aspect = .effects kind → kind.isMessage = false) :
    said other.effects = said process.effects := by
  refine filter_of_silent hgrows hwithin fun effect hmessage hinside => ?_
  exact absurd (hmessage.symm.trans (hsilent _ hinside _ rfl)) (by decide)

theorem said_sendGrecpmessage (content : Content) {msgtype : Msgtype} {tuntype : Byte}
    {attributes : List Byte} (hmsgtype : content.msgtype = msgtype)
    (htuntype : content.tuntype = tuntype)
    (hattributes : attributes = attributeArea (content.items process.runtime.session)) :
    said (sendGrecpmessage answers msgtype tuntype attributes process).2.effects =
      said process.effects ++ content.send answers process.runtime := by
  subst hmsgtype htuntype hattributes
  unfold sendGrecpmessage Content.send Content.message
  dsimp only
  split
  · refine (said_append _ _).trans ?_
    have hsaid : ∀ message sent, said [.sendmsg content.msgtype content.tuntype message sent] =
        [.sendmsg content.msgtype content.tuntype message sent] := by
      intro message sent
      cases content <;> rfl
    rw [hsaid]
  · exact (List.append_nil _).symm

theorem requestAttributes_eq (runtime : Runtime) (tuntype : Byte) :
    requestAttributes runtime tuntype =
      attributeArea ((Content.request tuntype).items runtime.session) := by
  have hsession : runtime.session.sessionId = runtime.haap.sessionId := rfl
  unfold requestAttributes Content.items
  rw [hsession]
  dsimp only
  by_cases hlte : tuntype = grecpTuntypeLte
  · rw [if_pos hlte, if_pos hlte]
    split <;> rfl
  · rw [if_neg hlte, if_neg hlte]
    split <;> rfl

/-- The request that is due goes out, if it has a source. -/
theorem said_connect (process : Process) :
    said (connect answers process).effects = said process.effects ++
      (Timer.connect.tells answers process.runtime).flatMap (Content.send answers process.runtime) := by
  rw [effects_connect, said_append]
  unfold requestEffects Timer.tells
  cases requested process.runtime with
  | none => rfl
  | some tuntype =>
      have hmessage : requestMessage process.runtime tuntype =
          (Content.request tuntype).message process.runtime := by
        rw [requestMessage, requestAttributes_eq]
        rfl
      dsimp only
      rw [hmessage, Option.toList_some, List.map_singleton, List.flatMap_singleton]
      unfold Content.send
      congr 1
      split <;> rfl

/-- So does the hello. -/
theorem said_sendHello (process : Process) {tuntype : Byte} {due seconds milliseconds : Reading}
    (hreadings : helloReadings tuntype = ⟨due, seconds, milliseconds⟩) :
    said (sendHello answers tuntype due seconds milliseconds process).effects =
      said process.effects ++ (helloSaid answers tuntype process.runtime).flatMap
        (Content.send answers process.runtime) := by
  rw [effects_sendHello answers process hreadings, said_append]
  have hmessage : helloMessage answers tuntype process.runtime =
    (Content.hello tuntype (timestampNow answers tuntype)).message process.runtime := rfl
  unfold helloEffects helloSaid
  rw [hmessage]
  cases helloDue answers tuntype process.runtime with
  | false => rfl
  | true =>
      simp only [true_and, if_true, List.flatMap_singleton, Content.send]
      congr 1
      split <;> rfl

theorem said_linkfailure (tuntype : Byte) (process : Process) :
    said (sendGrecpnotifyLinkfailure answers tuntype process).2.effects =
      said process.effects ++ (Content.linkFailure tuntype).send answers process.runtime :=
  said_sendGrecpmessage (.linkFailure tuntype) rfl rfl rfl

theorem said_sayGoodbye (process : Process) :
    said (sayGoodbye answers process).effects = said process.effects ++
      (if process.runtime.established grecpTuntypeLte ∧
          process.runtime.established grecpTuntypeDsl then
        [Content.linkFailure grecpTuntypeLte, .linkFailure grecpTuntypeDsl]
      else []).flatMap (Content.send answers process.runtime) := by
  have hgoodbye : ∀ process : Process,
      said ((triggerEvent .shutdown process).exit true).effects = said process.effects := by
    intro process
    have hwithin : Within [.exited, .effects .lifecycle] process
        ((triggerEvent .shutdown process).exit true) :=
      (within_triggerEvent process (by decide)).trans (within_exit _ (by decide) (by decide) true)
    exact said_of_silent ((Grows.triggerEvent _ process).trans (Grows.exit true _)) hwithin
      (by simp [Kind.isMessage])
  have hboth : (process.runtime.lte.tunnelEstablished &&
      process.runtime.dsl.tunnelEstablished) = true ↔
      process.runtime.established grecpTuntypeLte ∧ process.runtime.established grecpTuntypeDsl :=
    Bool.and_eq_true_iff
  unfold sayGoodbye
  dsimp only
  rw [hgoodbye]
  by_cases hup : (process.runtime.lte.tunnelEstablished &&
      process.runtime.dsl.tunnelEstablished) = true
  · rw [if_pos hup, if_pos (hboth.mp hup)]
    have hkept : (sendGrecpnotifyLinkfailure answers grecpTuntypeLte process).2.runtime =
      process.runtime := runtime_sendGrecpmessage ..
    rw [said_linkfailure, said_linkfailure, hkept, List.append_assoc]
    simp only [List.flatMap_cons, List.flatMap_nil, List.append_nil]
  · rw [if_neg hup, if_neg (hboth.not.mp hup)]
    exact (List.append_nil _).symm

theorem said_handleSignals (process : Process) :
    said (handleSignals answers process).effects = said process.effects ++
      (Timer.handleSignals.tells answers process.runtime).flatMap
        (Content.send answers process.runtime) := by
  unfold handleSignals Timer.tells terminating
  dsimp only
  by_cases hends : answers.signal.getD process.runtime.signal = sigint ∨
      answers.signal.getD process.runtime.signal = sigterm
  · have hsome : answers.signal.getD process.runtime.signal ≠ 0 := by
      rcases hends with hends | hends <;> rw [hends] <;> decide
    rw [if_pos hsome, if_pos hends, shutdown_eq, said_sayGoodbye]
    simp only [decide_eq_true hends, true_and]
    set signalled : Process :=
      { process with runtime.signal := answers.signal.getD process.runtime.signal } with hsignalled
    have hwithin : Within [.effects .client, .effects .dhcpEvent, .effects .dhcp6Event,
        .effects .greSocket, .effects .thread, .effects .device] signalled
        (removeDevice answers (endLeases (killClients answers signalled))) :=
      (((within_killClients answers signalled).mono (by simp)).trans
        ((within_endLeases _).mono (by simp))).trans ((within_removeDevice answers _).mono (by simp))
    have hsaid : said (removeDevice answers (endLeases (killClients answers signalled))).effects =
        said signalled.effects :=
      said_of_silent (((Grows.killClients signalled).trans (Grows.endLeases _)).trans
        (Grows.removeDevice _)) hwithin (by simp [Kind.isMessage])
    have hstart : said signalled.effects = said process.effects := rfl
    have hlte : (removeDevice answers (endLeases (killClients answers signalled))).runtime.established
        grecpTuntypeLte = process.runtime.established grecpTuntypeLte :=
      hwithin .lteEstablished (by decide)
    have hdsl : (removeDevice answers (endLeases (killClients answers signalled))).runtime.established
        grecpTuntypeDsl = process.runtime.established grecpTuntypeDsl :=
      hwithin .dslEstablished (by decide)
    have hsend : Content.send answers
        (removeDevice answers (endLeases (killClients answers signalled))).runtime =
        Content.send answers process.runtime :=
      funext fun content => Content.send_congr (hwithin .session (by decide))
        (hwithin .interfaceIps (by decide)) content
    rw [hsaid, hstart, hlte, hdsl, hsend]
  · have hnothing : ¬ (decide (answers.signal.getD process.runtime.signal = sigint ∨
        answers.signal.getD process.runtime.signal = sigterm) = true ∧
        process.runtime.established grecpTuntypeLte ∧
        process.runtime.established grecpTuntypeDsl) := fun hboth =>
      hends (of_decide_eq_true hboth.1)
    rw [if_neg hends, if_neg hnothing, List.flatMap_nil, List.append_nil]
    split <;> rfl

/-- **One block.** What it tells is all that goes out. -/
theorem said_run (timer : Timer) (process : Process) :
    said (timer.run answers process).effects = said process.effects ++
      (timer.tells answers process.runtime).flatMap (Content.send answers process.runtime) := by
  cases timer with
  | connect => exact said_connect process
  | ackFilterList =>
      have hdue : (process.runtime.lte.tunnelEstablished &&
          decide (0 < process.runtime.haap.commitCount.toNat) &&
          !process.runtime.filterListAcked) = filterListDue process.runtime := rfl
      unfold Timer.run ackFilterList Timer.tells
      dsimp only
      rw [hdue]
      cases filterListDue process.runtime with
      | false => exact (List.append_nil _).symm
      | true =>
          rw [if_pos rfl, if_pos rfl, List.flatMap_singleton]
          exact said_sendGrecpmessage (.filterListAck _ 2) rfl rfl rfl
  | verifyTunnel =>
      have hdue : (process.runtime.lte.tunnelEstablished &&
          process.runtime.lte.tunnelVerificationRequired) = verificationDue process.runtime := rfl
      unfold Timer.run verifyTunnel Timer.tells
      dsimp only
      rw [hdue]
      cases verificationDue process.runtime with
      | false => exact (List.append_nil _).symm
      | true =>
          rw [if_pos rfl, if_pos rfl, List.flatMap_singleton]
          exact said_sendGrecpmessage .tunnelVerification rfl rfl rfl
  | sendLteHello => exact said_sendHello process rfl
  | sendDslHello => exact said_sendHello process rfl
  | bypassBandwidth =>
      have hdue : (process.runtime.dsl.tunnelEstablished &&
          decide (process.runtime.dsl.lastBypassTrafficSent <
            (answers.uptime .bypassTrafficDue).tvSec -
              process.runtime.haap.bypassBandwidthCheckInterval.toNat)) =
            bypassTrafficDue answers process.runtime := rfl
      have hsaid : said (sendGrecpnotifyBypasstraffic answers 1000 process).2.effects =
          said process.effects ++ (Content.bypassTraffic 1000).send answers process.runtime := by
        refine Eq.trans ?_ (said_sendGrecpmessage (.bypassTraffic 1000) rfl rfl rfl)
        unfold sendGrecpnotifyBypasstraffic
        dsimp only
        split <;> rfl
      unfold Timer.run bypassBandwidth Timer.tells
      dsimp only
      rw [hdue]
      cases bypassTrafficDue answers process.runtime with
      | false => exact (List.append_nil _).symm
      | true =>
          rw [if_pos rfl, if_pos rfl, List.flatMap_singleton]
          exact hsaid
  | handleSignals => exact said_handleSignals process
  | _ =>
      refine (said_of_silent (Grows.run _ process) (Timer.within_run answers _ process) ?_).trans
        (List.append_nil _).symm
      simp [Timer.footprint, threadsFootprint, Kind.isMessage]

/-! ### A whole execution -/

def stopsEarly (answers : Answers) (process : Process) : Bool :=
  (Timer.before answers .handleSignals process).exited

/-- What is due in an iteration whose message handler has left `process`. -/
def announced (answers : Answers) (process : Process) : List Content :=
  List.flatten
    [(requested process.runtime).toList.map .request,
      if filterListDue process.runtime then [.filterListAck process.runtime.haap.commitCount 2]
      else [],
      if verificationDue process.runtime then [.tunnelVerification] else [],
      helloSaid answers grecpTuntypeLte process.runtime,
      helloSaid answers grecpTuntypeDsl process.runtime,
      if survives answers grecpTuntypeDsl process.runtime ∧
          bypassTrafficDue answers process.runtime then [.bypassTraffic 1000] else [],
      if stopsEarly answers process = false ∧ terminating answers process.runtime ∧
          survives answers grecpTuntypeLte process.runtime ∧
          survives answers grecpTuntypeDsl process.runtime then
        [.linkFailure grecpTuntypeLte, .linkFailure grecpTuntypeDsl] else []]

def emitted (answers : Answers) (process : Process) (timer : Timer) : List Effect :=
  (timer.tells answers (Timer.before answers timer process).runtime).flatMap
    (Content.send answers (Timer.before answers timer process).runtime)

theorem tells_of_exited {timer : Timer} (hrunning : process.exited = false)
    (hother : timer ≠ .handleSignals)
    (hexited : (Timer.before answers timer process).exited = true) (runtime : Runtime) :
    timer.tells answers runtime = [] := by
  have hearly : (∀ other ∈ Timer.all.takeWhile (· ≠ timer), ∀ aspect ∈ [Aspect.exited],
      aspect ∉ other.footprint) → timer.tells answers runtime = [] := by
    intro hnone
    have hsame := Timer.agree_before answers process [.exited] timer hnone .exited (by simp)
    exact absurd (hexited.symm.trans (hsame.trans hrunning)) Bool.false_ne_true.symm
  cases timer with
  | connect => exact hearly (by decide)
  | ackFilterList => exact hearly (by decide)
  | verifyTunnel => exact hearly (by decide)
  | sendLteHello => exact hearly (by decide)
  | sendDslHello => exact hearly (by decide)
  | bypassBandwidth => exact hearly (by decide)
  | handleSignals => exact absurd rfl hother
  | _ => rfl

theorem said_after {timer : Timer} (hrunning : process.exited = false)
    (hother : timer ≠ .handleSignals) :
    said (Timer.after answers timer process).effects =
      said (Timer.before answers timer process).effects ++ emitted answers process timer := by
  cases hexited : (Timer.before answers timer process).exited with
  | true =>
      have hsame : Timer.after answers timer process = Timer.before answers timer process :=
        leaving_of_done hexited
      rw [hsame, emitted, tells_of_exited hrunning hother hexited, List.flatMap_nil, List.append_nil]
  | false =>
      have hrun : Timer.after answers timer process =
          timer.run answers (Timer.before answers timer process) := leaving_of_not_done hexited
      rw [hrun, said_run, emitted]

def speaking : List Timer :=
  [.connect, .ackFilterList, .verifyTunnel, .sendLteHello, .sendDslHello, .bypassBandwidth]

theorem emitted_of_silent {timer : Timer} (hsilent : timer ∉ .handleSignals :: speaking) :
    emitted answers process timer = [] := by
  have hnothing : ∀ runtime, timer.tells answers runtime = [] := by
    intro runtime
    cases timer <;> first | rfl | exact absurd (by decide) hsilent
  rw [emitted, hnothing, List.flatMap_nil]

/-- In front of the signals, what has gone out is what the blocks told, in order. -/
theorem said_before_signals (answers : Answers) (hrunning : process.exited = false) :
    said (Timer.before answers .handleSignals process).effects =
      said process.effects ++ speaking.flatMap (emitted answers process) := by
  have hemits : ∀ timer ∈ Timer.all.takeWhile (· ≠ .handleSignals),
      said (Timer.after answers timer process).effects =
        said (Timer.before answers timer process).effects ++ emitted answers process timer :=
    fun timer hfront => said_after hrunning (ne_handleSignals_of_front hfront)
  have hsilent : ∀ timers : List Timer, .handleSignals ∉ timers →
      timers.flatMap (emitted answers process) =
        (timers.filter (· ∈ speaking)).flatMap (emitted answers process) := by
    intro timers hother
    induction timers with
    | nil => rfl
    | cons timer rest ih =>
        have hfirst : Timer.handleSignals ≠ timer := List.ne_of_not_mem_cons hother
        have hrest := List.not_mem_of_not_mem_cons hother
        by_cases hspeaks : timer ∈ speaking
        · rw [List.filter_cons, if_pos (decide_eq_true hspeaks), List.flatMap_cons,
            List.flatMap_cons, ih hrest]
        · rw [List.filter_cons, if_neg (by simpa using hspeaks), List.flatMap_cons,
            emitted_of_silent (List.not_mem_cons_of_ne_of_not_mem hfirst.symm hspeaks),
            List.nil_append, ih hrest]
  have hspeaking : (Timer.all.takeWhile (· ≠ .handleSignals)).filter (· ∈ speaking) = speaking := by
    decide
  refine (collected_reaching (fun process : Process => said process.effects)
    (emitted answers process) (by decide : Timer.all.Nodup) hemits).trans (congrArg _ ?_)
  rw [hsilent _ (by decide), hspeaking]

theorem send_before (timer : Timer) (hrunning : process.exited = false)
    (hplaces : Timer.all.takeWhile (· ≠ timer) = Timer.all.takeWhile (· ≠ .updateInterfaceIps) ++
      .updateInterfaceIps :: between Timer.all .updateInterfaceIps timer)
    (hdisjoint : ∀ other ∈ between Timer.all .updateInterfaceIps timer,
      ∀ aspect ∈ [Aspect.session, .interfaceIps], aspect ∉ other.footprint) :
    Content.send answers (Timer.before answers timer process).runtime =
      Content.send answers (updateInterfaceIps answers process).runtime := by
  have hagree := Timer.agree_between answers process [.session, .interfaceIps] .updateInterfaceIps
    timer hplaces hdisjoint
  rw [after_updateInterfaceIps answers process hrunning] at hagree
  exact funext fun content =>
    Content.send_congr (hagree .session (by simp)) (hagree .interfaceIps (by simp)) content

theorem helloSaid_congr {tuntype : Byte} {runtime other : Runtime}
    (hestablished : runtime.established tuntype = other.established tuntype)
    (hhellos : runtime.hellos tuntype = other.hellos tuntype)
    (hparameters : runtime.parameters = other.parameters) :
    helloSaid answers tuntype runtime = helloSaid answers tuntype other := by
  unfold helloSaid helloDue
  rw [hestablished, hhellos, hparameters]

/-- What the timers in front of the resets say is due when the iteration starts. -/
theorem tells_before (answers : Answers) (process : Process) (hrunning : process.exited = false) :
    Timer.connect.tells answers (Timer.before answers .connect process).runtime =
        (requested process.runtime).toList.map .request ∧
      Timer.ackFilterList.tells answers (Timer.before answers .ackFilterList process).runtime =
        (if filterListDue process.runtime then [.filterListAck process.runtime.haap.commitCount 2]
          else []) ∧
      Timer.verifyTunnel.tells answers (Timer.before answers .verifyTunnel process).runtime =
        (if verificationDue process.runtime then [.tunnelVerification] else []) ∧
      Timer.sendLteHello.tells answers (Timer.before answers .sendLteHello process).runtime =
        helloSaid answers grecpTuntypeLte process.runtime ∧
      Timer.sendDslHello.tells answers (Timer.before answers .sendDslHello process).runtime =
        helloSaid answers grecpTuntypeDsl process.runtime ∧
      Timer.bypassBandwidth.tells answers (Timer.before answers .bypassBandwidth process).runtime =
        (if survives answers grecpTuntypeDsl process.runtime ∧
          bypassTrafficDue answers process.runtime then [.bypassTraffic 1000] else []) := by
  have hconnect := Timer.agree_before answers process [.settings, .lteEstablished, .dslEstablished]
    .connect (by decide)
  have hack := Timer.agree_before answers process [.commitCount, .filterListAcked, .lteEstablished]
    .ackFilterList (by decide)
  have hverify := Timer.agree_before answers process [.verification, .lteEstablished]
    .verifyTunnel (by decide)
  have hlte := Timer.agree_before answers process [.parameters, .lteHellos, .lteEstablished]
    .sendLteHello (by decide)
  have hdsl := Timer.agree_before answers process [.parameters, .dslHellos, .dslEstablished]
    .sendDslHello (by decide)
  have hbypass := Timer.agree_before answers process [.parameters, .bypassSent]
    .bypassBandwidth (by decide)
  refine ⟨?_, ?_, ?_, ?_, ?_, ?_⟩
  · have hlteUp : (Timer.before answers .connect process).runtime.established grecpTuntypeLte =
        process.runtime.established grecpTuntypeLte := hconnect .lteEstablished (by simp)
    have hdslUp : (Timer.before answers .connect process).runtime.established grecpTuntypeDsl =
        process.runtime.established grecpTuntypeDsl := hconnect .dslEstablished (by simp)
    have hbonding : (Timer.before answers .connect process).runtime.bonding =
        process.runtime.bonding := congrArg Settings.bonding (hconnect .settings (by simp))
    unfold Timer.tells requested
    rw [hlteUp, hdslUp, hbonding]
  · have hup : (Timer.before answers .ackFilterList process).runtime.established grecpTuntypeLte =
        process.runtime.established grecpTuntypeLte := hack .lteEstablished (by simp)
    have hcount : (Timer.before answers .ackFilterList process).runtime.haap.commitCount =
        process.runtime.haap.commitCount := hack .commitCount (by simp)
    have hacked : (Timer.before answers .ackFilterList process).runtime.filterListAcked =
        process.runtime.filterListAcked := hack .filterListAcked (by simp)
    unfold Timer.tells filterListDue
    rw [hup, hcount, hacked]
  · have hup : (Timer.before answers .verifyTunnel process).runtime.established grecpTuntypeLte =
        process.runtime.established grecpTuntypeLte := hverify .lteEstablished (by simp)
    have hrequired :
        (Timer.before answers .verifyTunnel process).runtime.lte.tunnelVerificationRequired =
          process.runtime.lte.tunnelVerificationRequired := hverify .verification (by simp)
    unfold Timer.tells verificationDue
    rw [hup, hrequired]
  · exact helloSaid_congr (hlte .lteEstablished (by simp)) (hlte .lteHellos (by simp))
      (hlte .parameters (by simp))
  · exact helloSaid_congr (hdsl .dslEstablished (by simp)) (hdsl .dslHellos (by simp))
      (hdsl .parameters (by simp))
  · have hup : (Timer.before answers .bypassBandwidth process).runtime.established
        grecpTuntypeDsl = survives answers grecpTuntypeDsl process.runtime :=
      (established_before answers .bypassBandwidth hrunning (by decide)).2
    have hsent : (Timer.before answers .bypassBandwidth process).runtime.dsl.lastBypassTrafficSent =
        process.runtime.dsl.lastBypassTrafficSent := hbypass .bypassSent (by simp)
    have hparameters : (Timer.before answers .bypassBandwidth process).runtime.parameters =
        process.runtime.parameters := hbypass .parameters (by simp)
    unfold Timer.tells bypassTrafficDue
    rw [hup, hsent, hparameters]
    -- a tunnel that survives was established
    unfold survives
    cases process.runtime.established grecpTuntypeDsl <;> simp

theorem emitted_handleSignals (hrunning : process.exited = false) :
    emitted answers process .handleSignals =
      (if terminating answers process.runtime ∧ survives answers grecpTuntypeLte process.runtime ∧
          survives answers grecpTuntypeDsl process.runtime then
        [Content.linkFailure grecpTuntypeLte, .linkFailure grecpTuntypeDsl] else []).flatMap
          (Content.send answers (updateInterfaceIps answers process).runtime) := by
  obtain ⟨hlte, hdsl⟩ := established_before answers .handleSignals hrunning (by decide)
  have hsignal : (Timer.before answers .handleSignals process).runtime.signal =
      process.runtime.signal :=
    Timer.agree_before answers process [.signal] .handleSignals (by decide) .signal (by simp)
  unfold emitted Timer.tells terminating
  dsimp only
  rw [hlte, hdsl, hsignal]
  split
  · rename_i hends
    have hup : staysUp answers process.runtime = true := by
      rw [staysUp, hends.2.1, Bool.true_or]
    have hkept : (Timer.before answers .handleSignals process).runtime.session =
        (updateInterfaceIps answers process).runtime.session := by
      have hend := session_executeTimers answers hrunning
      rw [hup, if_pos rfl] at hend
      have hsame : (executeTimers answers process).runtime.session =
          (Timer.before answers .handleSignals process).runtime.session :=
        Timer.agree_from answers process [.session] .handleSignals (by decide) .session (by simp)
      have hinterfaces : (updateInterfaceIps answers process).runtime.session =
        process.runtime.session := within_updateInterfaceIps answers process .session (by decide)
      rw [← hsame, hend, hinterfaces]
    have hips := Timer.agree_between answers process [.interfaceIps] .updateInterfaceIps
      .handleSignals (by decide) (by decide) .interfaceIps (by simp)
    rw [after_updateInterfaceIps answers process hrunning] at hips
    have hsend : Content.send answers (Timer.before answers .handleSignals process).runtime =
        Content.send answers (updateInterfaceIps answers process).runtime :=
      funext fun content => Content.send_congr hkept hips content
    rw [hsend]
  · rw [List.flatMap_nil, List.flatMap_nil]

/-- **What is said is what is due**, in the order of the source. -/
theorem said_executeTimers (process : Process) (hrunning : process.exited = false) :
    said (executeTimers answers process).effects = said process.effects ++
      (announced answers process).flatMap
        (Content.send answers (updateInterfaceIps answers process).runtime) := by
  obtain ⟨hconnect, hack, hverify, hlte, hdsl, hbypass⟩ :=
    tells_before answers process hrunning
  have hfront := said_before_signals answers hrunning
  simp only [speaking, List.flatMap_cons, List.flatMap_nil, List.append_nil] at hfront
  unfold emitted at hfront
  rw [hconnect, hack, hverify, hlte, hdsl, hbypass,
    send_before .connect hrunning (by decide) (by decide),
    send_before .ackFilterList hrunning (by decide) (by decide),
    send_before .verifyTunnel hrunning (by decide) (by decide),
    send_before .sendLteHello hrunning (by decide) (by decide),
    send_before .sendDslHello hrunning (by decide) (by decide),
    send_before .bypassBandwidth hrunning (by decide) (by decide)] at hfront
  have hlast : said (executeTimers answers process).effects =
      said (Timer.before answers .handleSignals process).effects ++
        if stopsEarly answers process = false then emitted answers process .handleSignals
        else [] := by
    rw [← after_handleSignals, stopsEarly]
    cases hexited : (Timer.before answers .handleSignals process).exited with
    | true =>
        have hsame : Timer.after answers .handleSignals process =
          Timer.before answers .handleSignals process := leaving_of_done hexited
        rw [hsame, if_neg Bool.false_ne_true.symm, List.append_nil]
    | false =>
        have hrun : Timer.after answers .handleSignals process =
            Timer.handleSignals.run answers (Timer.before answers .handleSignals process) :=
          leaving_of_not_done hexited
        rw [hrun, said_run, if_pos rfl, emitted]
  rw [hlast, hfront, emitted_handleSignals hrunning, announced]
  simp only [List.flatten_cons, List.flatten_nil, List.append_nil, List.flatMap_append,
    List.append_assoc]
  congr 8
  cases stopsEarly answers process <;> simp

theorem isTuntype_of_announced {content : Content}
    (hmem : content ∈ announced answers process) : IsTuntype content.tuntype := by
  simp only [announced, List.mem_flatten, List.mem_cons, List.not_mem_nil, or_false] at hmem
  obtain ⟨contents, hcontents, hmem⟩ := hmem
  rcases hcontents with rfl | rfl | rfl | rfl | rfl | rfl | rfl
  · obtain ⟨tuntype, hrequested, rfl⟩ := List.mem_map.mp hmem
    rw [Option.mem_toList, requested] at hrequested
    split_ifs at hrequested
    · exact Or.inl (Option.mem_some.mp hrequested).symm
    · exact Or.inr (Option.mem_some.mp hrequested).symm
  all_goals try unfold helloSaid at hmem
  all_goals split at hmem
  all_goals simp only [List.mem_cons, List.not_mem_nil, or_false] at hmem
  · rw [hmem]
    exact Or.inl rfl
  · rw [hmem]
    exact Or.inl rfl
  · rw [hmem]
    exact Or.inl rfl
  · rw [hmem]
    exact Or.inr rfl
  · rw [hmem]
    exact Or.inr rfl
  · rcases hmem with rfl | rfl
    · exact Or.inl rfl
    · exact Or.inr rfl

namespace Main

/-- **What the HAAP hears.** An iteration hands over one datagram for each thing that is due, in
order, leaving out those whose interface has no address; each goes to the HAAP of the session, and
taken apart in whatever buffer it is received into it says, under the bonding key of the session, just
what was due. -/
theorem announced_heard {state next : State} {input : Input} {output : Output}
    (hstep : Step state input output next) :
    let process := output.received.process.quiet
    let sender := (updateInterfaceIps input.answers process).runtime
    said output.effects =
        (announced input.answers process).flatMap (Content.send input.answers sender) ∧
      ∀ content ∈ announced input.answers process,
        (content.message sender).source = sender.interfaceIp content.tuntype ∧
        (content.message sender).destination = process.runtime.session.ip ∧
        ∀ buffer, parse (received buffer (content.message sender).bytes)
          (content.message sender).bytes.length = content.parsed process.runtime.session := by
  intro process sender
  have hrunning := running_of_step hstep
  obtain ⟨-, rfl, rfl⟩ := hstep
  have hsession : sender.session = process.runtime.session :=
    within_updateInterfaceIps input.answers process .session (by decide)
  refine ⟨said_executeTimers process hrunning, fun content hmem => ⟨rfl, ?_, fun buffer => ?_⟩⟩
  · exact congrArg Session.ip hsession
  · rw [← hsession]
    exact Content.parse_message sender (isTuntype_of_announced hmem) buffer

/-- A client that has just started asks for the LTE tunnel. -/
theorem announced_started :
    announced (silence ⟨20, 0⟩).answers
      (receive (plainStart true) (silence ⟨20, 0⟩)).process.quiet =
        [.request grecpTuntypeLte] := by
  decide

theorem firstRequest_heard :
    said (outputOf (plainStart true) (silence ⟨20, 0⟩)).effects =
      Content.send (silence ⟨20, 0⟩).answers
        (updateInterfaceIps (silence ⟨20, 0⟩).answers
          (receive (plainStart true) (silence ⟨20, 0⟩)).process.quiet).runtime
        (.request grecpTuntypeLte) := by
  obtain ⟨hheard, -⟩ := announced_heard (step_outputOf (rfl : (plainStart true).process.exited = false)
    (silence ⟨20, 0⟩))
  refine hheard.trans ?_
  rw [outputOf, announced_started, List.flatMap_singleton]

end Main

end OpenHybrid
