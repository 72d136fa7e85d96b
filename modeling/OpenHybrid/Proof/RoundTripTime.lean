import OpenHybrid.Proof.FalseDeath
import OpenHybrid.Proof.GrecpRoundTrip
import OpenHybrid.Proof.StaleBytes

/-!
# Round trip time

The HAAP sends the Timestamp of a hello back, and what has passed since is the round trip time. Its
seconds and its milliseconds come from two readings of the clock. When a second begins between the
two, the Timestamp is up to a second older than the hello that carries it.
-/

namespace OpenHybrid

open ByteMemory

/-! ### The clock -/

def Timespec.nanos (reading : Timespec) : Nat := 10 ^ 9 * reading.tvSec + reading.tvNsec

instance : Preorder Timespec := Preorder.lift Timespec.nanos

def Timeval.micros (time : Timeval) : Int := 1000000 * time.tvSec + time.tvUsec

theorem tvUsec_getUptime (reading : Timespec) :
    0 ≤ (getUptime reading).tvUsec ∧ (getUptime reading).tvUsec < 1000000 := by
  have hlt := reading.tvNsec_lt
  simp only [getUptime]
  omega

theorem micros_getUptime (reading : Timespec) :
    (getUptime reading).micros = (reading.nanos / 1000 : Nat) := by
  simp only [Timeval.micros, getUptime, Timespec.nanos]
  omega

theorem micros_getUptime_mono {first second : Timespec} (hle : first ≤ second) :
    (getUptime first).micros ≤ (getUptime second).micros := by
  rw [micros_getUptime, micros_getUptime]
  exact Int.ofNat_le.mpr (Nat.div_le_div_right hle)

theorem tvSec_le_of_le {first second : Timespec} (hle : first ≤ second) :
    first.tvSec ≤ second.tvSec := by
  have hnanos : 10 ^ 9 * first.tvSec + first.tvNsec ≤ 10 ^ 9 * second.tvSec + second.tvNsec := hle
  have hlt := second.tvNsec_lt
  omega

theorem micros_timersub (now sent : Timeval) :
    (timersub now sent).micros = now.micros - sent.micros := by
  simp only [timersub, Timeval.micros]
  split_ifs <;> dsimp only <;> omega

/-- The parts of a difference of normalised times are not negative when the whole is not. -/
theorem timersub_nonneg {now sent : Timeval} (hnow : 0 ≤ now.tvUsec ∧ now.tvUsec < 1000000)
    (hsent : 0 ≤ sent.tvUsec ∧ sent.tvUsec < 1000000) (hle : sent.micros ≤ now.micros) :
    0 ≤ (timersub now sent).tvSec ∧ 0 ≤ (timersub now sent).tvUsec := by
  obtain ⟨hnowNonneg, hnowLt⟩ := hnow
  obtain ⟨hsentNonneg, hsentLt⟩ := hsent
  simp only [Timeval.micros] at hle
  simp only [timersub]
  split_ifs <;> dsimp only <;> omega

/-! ### The Timestamp -/

def helloStamp (timestamp : BitVec 32 × BitVec 32) : List Byte :=
  storeList (htonl timestamp.1) ++ storeList (htonl timestamp.2)

theorem helloAttributes_eq (timestamp : BitVec 32 × BitVec 32) :
    helloAttributes timestamp =
      attributeArea [(msgattrTimestamp, helloStamp timestamp), (msgattrPadding, [])] := by
  have hlength : (helloStamp timestamp).length = 8 := by simp [helloStamp]
  simp only [attributeArea, List.foldl_cons, List.foldl_nil, hlength]
  rfl

theorem timestampSent_of_bytes {memory : Memory} {attr : Grecpattr}
    {timestamp : BitVec 32 × BitVec 32} (hbytes : attr.bytes memory = helloStamp timestamp) :
    timestampSent memory attr = ⟨timestamp.1.toNat, (timestamp.2 * 1000).toNat⟩ := by
  set value := memory.shift attr.value with hvalue
  have hread : value.read (helloStamp timestamp).length = helloStamp timestamp := by
    rw [← hbytes, Grecpattr.bytes, Memory.read_length]
  have hagree : Memory.AgreeBelow (4 + 4) value (value.write 0 (helloStamp timestamp)) :=
    Memory.agreeBelow_of_read_eq (hread.trans (value.read_write _).symm)
  have hbehind : (value.write 0 (helloStamp timestamp)).shift 4 =
      (value.shift 4).write 0 (storeList (htonl timestamp.2)) :=
    value.shift_write_append (storeList (htonl timestamp.1)) _
  have hseconds : load 32 value = htonl timestamp.1 := by
    rw [load_congr fun i hi => hagree i (by omega)]
    exact load_write_storeList (by decide) value _ _
  have hmilliseconds : load 32 (memory.shift (attr.value + 4)) = htonl timestamp.2 := by
    rw [← Memory.shift_shift, ← hvalue, load_congr fun i hi => hagree.shift i (by omega), hbehind]
    simpa using load_write_storeList (by decide) (value.shift 4) (htonl timestamp.2) []
  rw [timestampSent, ← hvalue, hseconds, hmilliseconds, ntohl_htonl, ntohl_htonl]

/-- The time in the Timestamp: the second of one reading and the millisecond of the other. -/
theorem timestampSent_of_stamp {memory : Memory} {attr : Grecpattr} (first second : Timespec)
    (hbytes : attr.bytes memory =
      helloStamp (helloTimestamp (getUptime first) (getUptime second))) :
    timestampSent memory attr = ⟨first.tvSec, (second.tvNsec / 1000000 * 1000 : Nat)⟩ := by
  have hsec := first.tvSec_lt
  have hnsec := second.tvNsec_lt
  have hseconds : (BitVec.ofInt 32 (first.tvSec : Int)).toNat = first.tvSec := by
    simp only [BitVec.ofInt_natCast, BitVec.toNat_ofNat]
    omega
  have hmilliseconds : (BitVec.ofInt 32 (((second.tvNsec / 1000 : Nat) : Int).tdiv 1000) *
      1000).toNat = second.tvNsec / 1000000 * 1000 := by
    have hdiv : ((second.tvNsec / 1000 : Nat) : Int).tdiv 1000 =
        (second.tvNsec / 1000000 : Nat) := by
      rw [Int.tdiv_eq_ediv_of_nonneg (by omega)]
      omega
    rw [hdiv, BitVec.ofInt_natCast, BitVec.toNat_mul, BitVec.toNat_ofNat]
    simp only [BitVec.ofNat_eq_ofNat, BitVec.toNat_ofNat]
    omega
  rw [timestampSent_of_bytes hbytes]
  simp only [helloTimestamp, getUptime, hseconds, hmilliseconds]

/-- The last Timestamp of a message is `stamp`, unchanged, and `earlier` others precede it. -/
def Echoes (memory : Memory) (attrs : List Grecpattr) (stamp : List Byte) (earlier : Nat) : Prop :=
  ∃ before attr after, attrs = before ++ attr :: after ∧ attr.id = msgattrTimestamp ∧
    attr.bytes memory = stamp ∧ (∀ later ∈ after, later.id ≠ msgattrTimestamp) ∧
    (before.countP fun attr => attr.id = msgattrTimestamp) = earlier

/-- A Hello that the HAAP builds around the Timestamp echoes it. -/
theorem echoes_received {sender : Runtime} {tuntype : Byte} {stamp : List Byte}
    (before after : List Item) (buffer : Memory)
    (htuntype : tuntype = grecpTuntypeLte ∨ tuntype = grecpTuntypeDsl)
    (hvalues : ∀ item ∈ before ++ (msgattrTimestamp, stamp) :: after, item.2.length < 2 ^ 16)
    (hfits : 9 + (attributeArea (before ++ (msgattrTimestamp, stamp) :: after)).length ≤ maxPktSize)
    (hlast : ∀ item ∈ after, item.1 ≠ msgattrTimestamp) :
    let datagram := (grecpmessage sender .hello tuntype
      (attributeArea (before ++ (msgattrTimestamp, stamp) :: after))).bytes
    Echoes (received buffer datagram) (attributes (received buffer datagram) attributesOffset
        (datagram.length - attributesOffset)) stamp
      (before.countP fun item => item.1 = msgattrTimestamp) := by
  intro datagram
  obtain ⟨-, -, hitems, -⟩ := control_plane_round_trip sender sender .hello tuntype _ buffer
    (by decide) htuntype rfl hvalues hfits
  rw [List.map_append, List.map_cons, List.map_eq_append_iff] at hitems
  obtain ⟨attrsBefore, attrsRest, hattrs, hbefore, hrest⟩ := hitems
  obtain ⟨attr, attrsAfter, rfl, hattr, hafter⟩ := List.map_eq_cons_iff.mp hrest
  simp only [Prod.mk.injEq] at hattr
  have hbeforeIds := congrArg (List.map Prod.fst) hbefore
  have hafterIds := congrArg (List.map Prod.fst) hafter
  rw [List.map_map, List.map_map] at hbeforeIds hafterIds
  refine ⟨attrsBefore, attr, attrsAfter, hattrs, hattr.1, hattr.2.2, ?_, ?_⟩
  · intro later hlater
    obtain ⟨item, hitem, hid⟩ := List.mem_map.mp (hafterIds ▸ List.mem_map_of_mem hlater)
    exact (congrArg (· ≠ msgattrTimestamp) hid).mp (hlast item hitem)
  · have hcounts := congrArg (List.countP fun id => id = msgattrTimestamp) hbeforeIds
    rwa [List.countP_map, List.countP_map] at hcounts

/-! ### The round trip -/

/-- What the answer to a hello that was sent between `start` and `finish` leaves when it is handled
at `now`. -/
structure RightRoundTrip (tuntype : Byte) (sent answered : Runtime) (start finish now : Timeval) :
    Prop where
  received : (answered.hellos tuntype).lastHelloReceived = (sent.hellos tuntype).lastHelloSent
  nonneg : 0 ≤ (answered.roundTripTime tuntype).tvSec ∧ 0 ≤ (answered.roundTripTime tuntype).tvUsec
  atLeast : now.micros - finish.micros ≤ (answered.roundTripTime tuntype).micros
  atMost : (answered.roundTripTime tuntype).micros ≤ now.micros - start.micros + 1000

theorem lastHelloSent_sendGrecphello (answers : Answers) (tuntype : Byte)
    (seconds milliseconds : Timeval) (process : Process) :
    ((sendGrecphello answers tuntype seconds milliseconds process).2.runtime.hellos
      tuntype).lastHelloSent = (helloTimestamp seconds milliseconds).1.toNat := by
  unfold sendGrecphello Runtime.hellos
  dsimp only
  rw [setLastHelloSent_tunnel]

section Answer

variable {memory : Memory} {buffer earlier : Nat} {size : Int} {uptime : Nat → Timeval}
  {stamp : List Byte} (tuntype : Byte) (runtime : Runtime)

/-- What a Hello stores is told by its last Timestamp. -/
theorem handleGrecphello_of_echoes
    (hechoes : Echoes memory (attributes memory buffer size) stamp earlier) :
    ∃ attr, attr.bytes memory = stamp ∧
      ((handleGrecphello memory tuntype buffer size uptime runtime).hellos
        tuntype).lastHelloReceived = (timestampSent memory attr).tvSec ∧
      (handleGrecphello memory tuntype buffer size uptime runtime).roundTripTime tuntype =
        timersub (uptime earlier) (timestampSent memory attr) := by
  obtain ⟨before, attr, after, hattrs, hid, hbytes, hafter, rfl⟩ := hechoes
  refine ⟨attr, hbytes, ?_, ?_⟩
  · have hlast : lastTimestamp (attributes memory buffer size) = some attr := by
      have hnone : after.filter (fun attr => attr.id = msgattrTimestamp) = [] := by
        rw [List.filter_eq_nil_iff]
        simpa using hafter
      rw [lastTimestamp, hattrs, List.filter_append, List.filter_cons_of_pos (by simpa using hid),
        hnone, List.getLast?_concat]
    rw [handleGrecphello, hellos_helloAttributes, answeredBy, hlast]
  · unfold handleGrecphello
    rw [hattrs]
    exact hello_roundTripTime hid hafter

variable {first second now : Timespec}

/-- **The error of the round trip time.** It is what has passed since the second of the first reading
and the millisecond of the second one. -/
theorem micros_roundTripTime (htime : uptime earlier = getUptime now)
    (hechoes : Echoes memory (attributes memory buffer size)
      (helloStamp (helloTimestamp (getUptime first) (getUptime second))) earlier) :
    ((handleGrecphello memory tuntype buffer size uptime runtime).roundTripTime tuntype).micros =
      (getUptime now).micros -
        (1000000 * first.tvSec + (getUptime second).tvUsec / 1000 * 1000) := by
  obtain ⟨attr, hbytes, -, hroundTrip⟩ := handleGrecphello_of_echoes tuntype runtime hechoes
  rw [hroundTrip, htime, micros_timersub, timestampSent_of_stamp first second hbytes]
  simp only [Timeval.micros, getUptime]
  omega

/-- What holds for every two readings: the answer is told apart by its second, and the round trip
time is neither negative nor too short. -/
theorem roundTrip_of_echoes (answers : Answers) (process : Process) (hfirst : first ≤ second)
    (hsecond : second ≤ now) (htime : uptime earlier = getUptime now)
    (hechoes : Echoes memory (attributes memory buffer size)
      (helloStamp (helloTimestamp (getUptime first) (getUptime second))) earlier) :
    let sent := (sendGrecphello answers tuntype (getUptime first) (getUptime second)
      process).2.runtime
    let answered := handleGrecphello memory tuntype buffer size uptime runtime
    (answered.hellos tuntype).lastHelloReceived = (sent.hellos tuntype).lastHelloSent ∧
      (0 ≤ (answered.roundTripTime tuntype).tvSec ∧ 0 ≤ (answered.roundTripTime tuntype).tvUsec) ∧
      (getUptime now).micros - (getUptime second).micros ≤
        (answered.roundTripTime tuntype).micros := by
  intro sent answered
  obtain ⟨attr, hbytes, hreceived, hroundTrip⟩ :=
    handleGrecphello_of_echoes tuntype runtime hechoes
  have hstamp := timestampSent_of_stamp first second hbytes
  have hsent : (timestampSent memory attr).micros ≤ (getUptime second).micros := by
    have hsec := tvSec_le_of_le hfirst
    rw [hstamp]
    simp only [Timeval.micros, getUptime]
    omega
  have hnow := micros_getUptime_mono hsecond
  have hnsec := second.tvNsec_lt
  refine ⟨?_, ?_, ?_⟩
  · have hseconds : (helloTimestamp (getUptime first) (getUptime second)).1.toNat =
        first.tvSec := by
      have hsec := first.tvSec_lt
      simp only [helloTimestamp, getUptime, BitVec.ofInt_natCast, BitVec.toNat_ofNat]
      omega
    calc (answered.hellos tuntype).lastHelloReceived
        _ = (first.tvSec : Int) := by rw [hreceived, hstamp]
        _ = (sent.hellos tuntype).lastHelloSent := by
          rw [lastHelloSent_sendGrecphello, hseconds]
  · show 0 ≤ (answered.roundTripTime tuntype).tvSec ∧ 0 ≤ (answered.roundTripTime tuntype).tvUsec
    rw [hroundTrip, htime]
    refine timersub_nonneg (tvUsec_getUptime now) ?_ (hsent.trans hnow)
    rw [hstamp]
    dsimp only
    omega
  · show _ ≤ (answered.roundTripTime tuntype).micros
    rw [hroundTrip, htime, micros_timersub]
    omega

/-- **When the round trip time is right.** A hello that is sent with two readings of the clock and
echoed later gets a round trip time that is right for every time it can have been sent at exactly
when the first reading is not further into its second than the second one, up to a millisecond. -/
theorem rightRoundTrip_iff (answers : Answers) (process : Process) (hfirst : first ≤ second)
    (hsecond : second ≤ now) (htime : uptime earlier = getUptime now)
    (hechoes : Echoes memory (attributes memory buffer size)
      (helloStamp (helloTimestamp (getUptime first) (getUptime second))) earlier) :
    (∀ start finish, start ≤ first → second ≤ finish →
      RightRoundTrip tuntype
        (sendGrecphello answers tuntype (getUptime first) (getUptime second) process).2.runtime
        (handleGrecphello memory tuntype buffer size uptime runtime)
        (getUptime start) (getUptime finish) (getUptime now)) ↔
      (getUptime first).tvUsec ≤ (getUptime second).tvUsec / 1000 * 1000 + 1000 := by
  have hmicros := micros_roundTripTime tuntype runtime htime hechoes
  have hstart : (getUptime first).micros = 1000000 * first.tvSec + (getUptime first).tvUsec := rfl
  constructor
  · intro hright
    have hmost := (hright first second (le_refl _) (le_refl _)).atMost
    rw [hmicros, hstart] at hmost
    omega
  · intro hclose start finish hbefore hbehind
    obtain ⟨hreceived, hnonneg, hleast⟩ :=
      roundTrip_of_echoes tuntype runtime answers process hfirst hsecond htime hechoes
    have hfinish := micros_getUptime_mono hbehind
    have hbegin := micros_getUptime_mono hbefore
    refine ⟨hreceived, hnonneg, by omega, ?_⟩
    rw [hmicros]
    omega

end Answer

/-- Two readings in one second are close enough. -/
theorem tvUsec_le_of_tvSec_eq {first second : Timespec} (hle : first ≤ second)
    (hsame : first.tvSec = second.tvSec) :
    (getUptime first).tvUsec ≤ (getUptime second).tvUsec / 1000 * 1000 + 1000 := by
  have hmicros := micros_getUptime_mono hle
  simp only [Timeval.micros, getUptime, hsame] at hmicros ⊢
  omega

theorem echoes_echo (timestamp : BitVec 32 × BitVec 32) :
    Echoes (received (fun _ => 0) (echo timestamp))
      (attributes (received (fun _ => 0) (echo timestamp)) attributesOffset
        ((echo timestamp).length - attributesOffset)) (helloStamp timestamp) 0 := by
  have hlength : (helloStamp timestamp).length = 8 := by simp [helloStamp]
  have hvalues : ∀ item ∈ [(msgattrTimestamp, helloStamp timestamp), (msgattrPadding, [])],
      item.2.length < 2 ^ 16 := by
    simp [hlength]
  have harea : (attributeArea [(msgattrTimestamp, helloStamp timestamp),
      (msgattrPadding, [])]).length = 14 := by
    rw [attributeArea_eq hvalues]
    simp [hlength]
  unfold echo
  rw [helloAttributes_eq]
  exact echoes_received [] _ (fun _ => 0) (.inl rfl) hvalues
    (by rw [List.nil_append, harea]; decide) (by decide)

/-- A hello of second 9 that is echoed 20 ms later. -/
theorem rightRoundTrip_within_second :
    let sending : Timespec := ⟨9, 250000000, by decide, by decide⟩
    let now : Timespec := ⟨9, 270000000, by decide, by decide⟩
    let datagram := echo (helloTimestamp (getUptime sending) (getUptime sending))
    RightRoundTrip grecpTuntypeLte
      (sendGrecphello (.plain (getUptime sending)) grecpTuntypeLte (getUptime sending)
        (getUptime sending) (Main.plainStart false).process).2.runtime
      (handleGrecphello (received (fun _ => 0) datagram) grecpTuntypeLte attributesOffset
        (datagram.length - attributesOffset) (fun _ => getUptime now)
        (Main.plainStart false).process.runtime)
      (getUptime sending) (getUptime sending) (getUptime now) := by
  intro sending now datagram
  have hnow : sending ≤ now := by
    show sending.nanos ≤ now.nanos
    decide
  exact (rightRoundTrip_iff grecpTuntypeLte _ _ _ (le_refl sending) hnow rfl
    (echoes_echo _)).mpr (tvUsec_le_of_tvSec_eq (le_refl _) rfl) sending sending (le_refl _)
      (le_refl _)

/-- Second 10 begins between the two readings: the echo is back within 21 ms and is taken for one
second and 20 ms. -/
theorem roundTrip_across_seconds :
    let first : Timespec := ⟨9, 999900000, by decide, by decide⟩
    let second : Timespec := ⟨10, 100000, by decide, by decide⟩
    let now : Timespec := ⟨10, 20000000, by decide, by decide⟩
    let datagram := echo (helloTimestamp (getUptime first) (getUptime second))
    let sent := (sendGrecphello (.plain (getUptime first)) grecpTuntypeLte (getUptime first)
      (getUptime second) (Main.plainStart false).process).2.runtime
    let answered := handleGrecphello (received (fun _ => 0) datagram) grecpTuntypeLte
      attributesOffset (datagram.length - attributesOffset) (fun _ => getUptime now) sent
    first ≤ second ∧ second ≤ now ∧
      Echoes (received (fun _ => 0) datagram) (attributes (received (fun _ => 0) datagram)
        attributesOffset (datagram.length - attributesOffset))
        (helloStamp (helloTimestamp (getUptime first) (getUptime second))) 0 ∧
      (getUptime now).micros - (getUptime first).micros = 20100 ∧
      (answered.roundTripTime grecpTuntypeLte).micros = 1020000 ∧
      ¬ RightRoundTrip grecpTuntypeLte sent answered (getUptime first) (getUptime second)
        (getUptime now) := by
  intro first second now datagram sent answered
  have hechoes := echoes_echo (helloTimestamp (getUptime first) (getUptime second))
  have htime : (fun _ : Nat => getUptime now) 0 = getUptime now := rfl
  have hmicros : (answered.roundTripTime grecpTuntypeLte).micros = 1020000 :=
    (micros_roundTripTime grecpTuntypeLte sent htime hechoes).trans (by decide)
  have helapsed : (getUptime now).micros - (getUptime first).micros = 20100 := by decide
  refine ⟨?_, ?_, hechoes, helapsed, hmicros, fun hright => ?_⟩
  · show first.nanos ≤ second.nanos
    decide
  · show second.nanos ≤ now.nanos
    decide
  · have hmost := hright.atMost
    omega

end OpenHybrid
