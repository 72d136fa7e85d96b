import OpenHybrid.Proof.Attributes
import OpenHybrid.Tundev

/-!
# Bytes behind the received ones

The receive buffer still holds older packets behind the last byte of the current one. Which
messages take something from there into `runtime`: those cut off within the header, a Hello whose
Timestamp ends behind the message and a Notify whose Filter List Package does.
-/

namespace OpenHybrid

open ByteMemory

variable {memory other : Memory} {size : Nat} {uptime : Nat → Timeval} {runtime : Runtime}
  {tuntype : Byte} {msgtype : Msgtype}

/-- Whatever lies behind the received bytes, the outcome is the same. -/
def Independent (memory : Memory) (size : Nat) (uptime : Nat → Timeval) (runtime : Runtime) :
    Prop :=
  ∀ other, Memory.AgreeBelow size memory other →
    processGrecpmessage other size uptime runtime = processGrecpmessage memory size uptime runtime

def ReadsWithin (memory : Memory) (size : Nat) (id : Byte) (width : Nat) : Prop :=
  ∀ attr ∈ messageAttributes memory size, attr.id = id → attr.value + width ≤ size

/-- The reads of fixed width that end up in `runtime` stay within the message. -/
def Covered (memory : Memory) (size : Nat) : Msgtype → Prop
  | .hello => ReadsWithin memory size msgattrTimestamp 8
  | .notify => ReadsWithin memory size msgattrFilterListPackage 4
  | _ => True

structure JustEstablished (now : Timeval) (runtime : Runtime) : Prop where
  lteEstablished : runtime.lte.tunnelEstablished = true
  lteSent : runtime.lte.lastHelloSent = now.tvSec
  lteReceived : runtime.lte.lastHelloReceived = now.tvSec
  dslEstablished : runtime.dsl.tunnelEstablished = true
  dslSent : runtime.dsl.lastHelloSent = now.tvSec
  dslReceived : runtime.dsl.lastHelloReceived = now.tvSec

def ForeignKey (memory : Memory) (size : Nat) (bondingKey : BitVec 32) : Prop :=
  ∃ i < 4, 4 + i < size ∧ memory (4 + i) ≠ byteOf (htonl bondingKey) i

/-- The message holds everything it decides. -/
def SelfContained (memory : Memory) (size : Nat) (uptime : Nat → Timeval) (runtime : Runtime) :
    Prop :=
  ntohs (Grehdr.at memory).flagsAndVersion ≠ grecpFlagsandversion ∨
  (attributesOffset ≤ size ∧ ∀ msgtype tuntype,
    dispatch runtime.haap.bondingKey memory = some (msgtype, tuntype) →
      Covered memory size msgtype) ∨
  (size < attributesOffset ∧ ForeignKey memory size runtime.haap.bondingKey ∧
    JustEstablished (uptime 0) runtime)

/-! ### What the header and the handlers look at -/

theorem flagsAndVersion_congr (hagree : Memory.AgreeBelow 2 memory other) :
    (Grehdr.at memory).flagsAndVersion = (Grehdr.at other).flagsAndVersion :=
  load_congr fun i hi => hagree i (by omega)

theorem dispatch_congr (bondingKey : BitVec 32)
    (hagree : Memory.AgreeBelow attributesOffset memory other) :
    dispatch bondingKey memory = dispatch bondingKey other := by
  have hflags := flagsAndVersion_congr (hagree.mono (show 2 ≤ attributesOffset by decide))
  have hkey : (Grehdr.at memory).key = (Grehdr.at other).key := by
    refine load_congr fun i hi => hagree (4 + i) ?_
    rw [attributesOffset]
    omega
  have htype : memory 8 = other 8 := hagree 8 (by decide)
  simp only [dispatch, hflags, hkey, htype]

theorem acceptAttribute_congr {attr : Grecpattr} (hagree : Memory.AgreeBelow size memory other)
    (hinside : attr.value + attr.length.toNat ≤ size) (runtime : Runtime) :
    acceptAttribute memory runtime attr = acceptAttribute other runtime attr := by
  have hcopy : ∀ offset, copyAttribute memory offset attr runtime =
      copyAttribute other offset attr runtime := by
    intro offset
    exact Runtime.memcpy_congr (hagree.mono hinside).shift
  simp only [acceptAttribute, hcopy]

theorem timestampSent_congr {attr : Grecpattr} (hagree : Memory.AgreeBelow size memory other)
    (hinside : attr.value + 8 ≤ size) : timestampSent memory attr = timestampSent other attr := by
  have hseconds : load 32 (memory.shift attr.value) = load 32 (other.shift attr.value) :=
    load_congr fun i hi => hagree (attr.value + i) (by omega)
  have hmilliseconds :
      load 32 (memory.shift (attr.value + 4)) = load 32 (other.shift (attr.value + 4)) :=
    load_congr fun i hi => hagree (attr.value + 4 + i) (by omega)
  rw [timestampSent, timestampSent, hseconds, hmilliseconds]

/-- A handler that is covered does not notice what lies behind the message. -/
theorem handleGrecpmessage_congr (hagree : Memory.AgreeBelow size memory other)
    (hcovered : Covered memory size msgtype) :
    handleGrecpmessage other msgtype tuntype attributesOffset (size - attributesOffset) uptime
        runtime =
      handleGrecpmessage memory msgtype tuntype attributesOffset (size - attributesOffset) uptime
        runtime := by
  have hattrs : attributes memory attributesOffset (size - attributesOffset) =
      attributes other attributesOffset (size - attributesOffset) := attributes_congr hagree
  cases msgtype with
  | request => rfl
  | deny => rfl
  | teardown => rfl
  | accept =>
      rw [handleGrecpmessage, handleGrecpmessage, handleGrecpaccept, handleGrecpaccept, ← hattrs]
      congr 1
      refine List.foldl_ext _ _ _ fun runtime attr hattr => ?_
      have hbelow := (attributes_inOrder memory attributesOffset _).below attr hattr
      exact (acceptAttribute_congr hagree (by omega) runtime).symm
  | hello =>
      rw [handleGrecpmessage, handleGrecpmessage, handleGrecphello, handleGrecphello, ← hattrs]
      congr 1
      refine List.foldl_ext _ _ _ fun state attr hattr => ?_
      by_cases hid : attr.id = msgattrTimestamp
      · rw [helloAttribute, helloAttribute,
          timestampSent_congr hagree (hcovered attr hattr hid)]
      · rw [helloAttribute, helloAttribute, if_neg hid, if_neg hid]
  | notify =>
      rw [handleGrecpmessage, handleGrecpmessage, handleGrecpnotify, handleGrecpnotify, ← hattrs]
      refine List.foldl_ext _ _ _ fun runtime attr hattr => ?_
      by_cases hid : attr.id = msgattrFilterListPackage
      · have hinside := hcovered attr hattr hid
        have hload : load 32 (memory.shift attr.value) = load 32 (other.shift attr.value) :=
          load_congr fun i hi => hagree (attr.value + i) (by omega)
        rw [notifyAttribute, notifyAttribute, hload]
      · rw [notifyAttribute, notifyAttribute, if_neg hid, if_neg hid]

/-! ### Messages cut off within the header -/

theorem establish_lte_eq_self_iff {now : Timeval} :
    establish grecpTuntypeLte now runtime = runtime ↔
      runtime.lte.tunnelEstablished = true ∧ runtime.lte.lastHelloSent = now.tvSec ∧
        runtime.lte.lastHelloReceived = now.tvSec := by
  cases runtime with
  | mk =>
      rename Lte => lte
      cases lte
      simp [establish, eq_comm]

theorem establish_dsl_eq_self_iff {now : Timeval} :
    establish grecpTuntypeDsl now runtime = runtime ↔
      runtime.dsl.tunnelEstablished = true ∧ runtime.dsl.lastHelloSent = now.tvSec ∧
        runtime.dsl.lastHelloReceived = now.tvSec := by
  cases runtime with
  | mk =>
      rename Dsl => dsl
      cases dsl
      simp [establish, show grecpTuntypeDsl ≠ grecpTuntypeLte by decide, eq_comm]

theorem processGrecpmessage_of_some
    (hdispatch : dispatch runtime.haap.bondingKey memory = some (msgtype, tuntype)) :
    processGrecpmessage memory size uptime runtime =
      handleGrecpmessage memory msgtype tuntype attributesOffset (size - attributesOffset) uptime
        runtime := by
  simp only [processGrecpmessage, hdispatch]

theorem processGrecpmessage_of_none (hdispatch : dispatch runtime.haap.bondingKey memory = none) :
    processGrecpmessage memory size uptime runtime = runtime := by
  simp only [processGrecpmessage, hdispatch]

/-- A message without room for an attribute has none. -/
theorem processGrecpmessage_truncated (hsize : size < attributesOffset)
    (hdispatch : dispatch runtime.haap.bondingKey memory = some (msgtype, tuntype)) :
    processGrecpmessage memory size uptime runtime =
      handleEmpty msgtype tuntype (uptime 0) runtime := by
  have hroom : (size : Int) - attributesOffset ≤ 0 := by omega
  have hnone : attributes memory attributesOffset (size - attributesOffset) = [] :=
    attributes_of_nonpos hroom
  rw [processGrecpmessage_of_some hdispatch]
  cases msgtype with
  | request => rfl
  | deny => rfl
  | teardown => rfl
  | accept => rw [handleGrecpmessage, handleGrecpaccept, hnone, List.foldl_nil, handleEmpty]
  | hello => rw [handleGrecpmessage, handleGrecphello, hnone, List.foldl_nil, handleEmpty]
  | notify => rw [handleGrecpmessage, handleGrecpnotify, hnone, List.foldl_nil, handleEmpty]

def withType (memory : Memory) (msgtypeAndTuntype : Byte) : Memory :=
  Function.update memory 8 msgtypeAndTuntype

theorem agreeBelow_withType (memory : Memory) (hsize : size < attributesOffset)
    (msgtypeAndTuntype : Byte) :
    Memory.AgreeBelow size memory (withType memory msgtypeAndTuntype) := by
  intro i hi
  rw [withType, Function.update_of_ne]
  rw [attributesOffset] at hsize
  omega

def withTeardown (memory : Memory) (size : Nat) (bondingKey : BitVec 32) : Memory := fun i =>
  if i < size then memory i
  else if i < 8 then byteOf (htonl bondingKey) (i - 4)
  else Msgtype.teardown.code <<< 4 ||| grecpTuntypeLte

/-- Stale bytes can make a Tear Down of the first bytes of a message. -/
theorem dispatch_withTeardown {bondingKey : BitVec 32} (hlow : 4 ≤ size)
    (hsize : size < attributesOffset)
    (hflags : ntohs (Grehdr.at memory).flagsAndVersion = grecpFlagsandversion)
    (hkey : ¬ ForeignKey memory size bondingKey) :
    dispatch bondingKey (withTeardown memory size bondingKey) =
      some (.teardown, grecpTuntypeLte) := by
  have hagree : Memory.AgreeBelow 2 memory (withTeardown memory size bondingKey) :=
    fun i hi => (if_pos (show i < size by omega)).symm
  have hword : load 32 ((withTeardown memory size bondingKey).shift 4) = htonl bondingKey := by
    rw [← load_byteOf (htonl bondingKey)]
    refine load_congr fun i hi => ?_
    rw [Memory.shift_apply, withTeardown]
    split_ifs with hreceived hheader
    · by_contra hforeign
      exact hkey ⟨i, by omega, hreceived, hforeign⟩
    · rw [Nat.add_sub_cancel_left]
    · omega
  refine dispatch_eq_some ?_ (Or.inl ?_) ?_ (by decide) (Or.inl rfl)
  · rw [← flagsAndVersion_congr hagree]
    exact hflags
  · rw [Grehdr.at, hword, ntohl_htonl]
  · rw [attributesOffset] at hsize
    rw [withTeardown, if_neg (by omega), if_neg (by omega)]

/-- A message cut off within its header is read as whatever the older packet makes of it. -/
theorem independent_truncated_iff (hlow : 4 ≤ size) (hsize : size < attributesOffset)
    (hflags : ntohs (Grehdr.at memory).flagsAndVersion = grecpFlagsandversion) :
    Independent memory size uptime runtime ↔
      ForeignKey memory size runtime.haap.bondingKey ∧ JustEstablished (uptime 0) runtime := by
  have hheader : ∀ byte, ntohs (Grehdr.at (withType memory byte)).flagsAndVersion =
      grecpFlagsandversion := by
    intro byte
    have hagree := agreeBelow_withType memory hsize byte
    rwa [← flagsAndVersion_congr (hagree.mono (by omega))]
  constructor
  · intro hindependent
    have hquiet : processGrecpmessage memory size uptime runtime = runtime := by
      rw [← hindependent _ (agreeBelow_withType memory hsize 0xff#8)]
      refine processGrecpmessage_of_none ?_
      simp [dispatch, withType, Msgtype.code, grecpTuntypeLte, grecpTuntypeDsl]
    have haccept : ∀ tuntype, tuntype = grecpTuntypeLte ∨ tuntype = grecpTuntypeDsl →
        establish tuntype (uptime 0) runtime = runtime := by
      intro tuntype htuntype
      have hdispatch : dispatch runtime.haap.bondingKey
          (withType memory (Msgtype.accept.code <<< 4 ||| tuntype)) = some (.accept, tuntype) :=
        dispatch_eq_some (hheader _) (Or.inr rfl) (Function.update_self _ _ _) (by decide) htuntype
      have houtcome := hindependent _ (agreeBelow_withType memory hsize
        (Msgtype.accept.code <<< 4 ||| tuntype))
      rwa [hquiet, processGrecpmessage_truncated hsize hdispatch] at houtcome
    obtain ⟨hlte, hlteSent, hlteReceived⟩ := establish_lte_eq_self_iff.mp (haccept _ (Or.inl rfl))
    obtain ⟨hdsl, hdslSent, hdslReceived⟩ := establish_dsl_eq_self_iff.mp (haccept _ (Or.inr rfl))
    refine ⟨?_, hlte, hlteSent, hlteReceived, hdsl, hdslSent, hdslReceived⟩
    by_contra hkey
    have hagree : Memory.AgreeBelow size memory
        (withTeardown memory size runtime.haap.bondingKey) := fun i hi => (if_pos hi).symm
    have houtcome := hindependent _ hagree
    rw [hquiet, processGrecpmessage_truncated hsize
      (dispatch_withTeardown hlow hsize hflags hkey)] at houtcome
    have hdown : false = runtime.lte.tunnelEstablished :=
      congrArg (fun runtime : Runtime => runtime.lte.tunnelEstablished) houtcome
    rw [hlte] at hdown
    exact Bool.false_ne_true hdown
  · rintro ⟨⟨i, hi, hreceived, hforeign⟩, hjust⟩
    -- no handler but that of an Accept is called, and it changes nothing
    have hquiet : ∀ other, Memory.AgreeBelow size memory other →
        processGrecpmessage other size uptime runtime = runtime := by
      intro other hagree
      cases hdispatch : dispatch runtime.haap.bondingKey other with
      | none => exact processGrecpmessage_of_none hdispatch
      | some handled =>
          obtain ⟨msgtype, tuntype⟩ := handled
          obtain ⟨_, hkey, _, htuntype⟩ := of_dispatch_eq_some hdispatch
          rw [processGrecpmessage_truncated hsize hdispatch]
          rcases hkey with hours | rfl
          · refine absurd ?_ hforeign
            rw [hagree _ hreceived, ← hours, htonl, ntohl, swapBytes_swapBytes (by decide)]
            exact (byteOf_load (other.shift 4) (show 8 * i + 8 ≤ 32 by omega)).symm
          · rcases htuntype with rfl | rfl
            · exact establish_lte_eq_self_iff.mpr
                ⟨hjust.lteEstablished, hjust.lteSent, hjust.lteReceived⟩
            · exact establish_dsl_eq_self_iff.mpr
                ⟨hjust.dslEstablished, hjust.dslSent, hjust.dslReceived⟩
    intro other hagree
    rw [hquiet other hagree, hquiet memory fun i _ => rfl]

/-! ### Attributes that end behind the message -/

/-- When a read of some attribute leaves the message, that of the last one of its kind does. -/
theorem exists_last_outside {id : Byte} {width : Nat}
    (houtside : ¬ ReadsWithin memory size id width) :
    ∃ before attr after, messageAttributes memory size = before ++ attr :: after ∧ attr.id = id ∧
      size < attr.value + width ∧ ∀ later ∈ after, later.id ≠ id := by
  rw [ReadsWithin] at houtside
  push Not at houtside
  obtain ⟨first, hfirst, hid, hfirstOutside⟩ := houtside
  obtain ⟨before, attr, after, hsplit, hattr, hafter⟩ :=
    exists_last (fun attr => attr.id = id) ⟨first, hfirst, hid⟩
  refine ⟨before, attr, after, hsplit, hattr, ?_, hafter⟩
  have hsorted := (attributes_inOrder memory attributesOffset (size - attributesOffset)).sorted
  rw [messageAttributes] at hsplit hfirst
  rw [hsplit] at hsorted hfirst
  rcases List.mem_append.mp hfirst with hbefore | hrest
  · have hlow := (List.pairwise_append.mp hsorted).2.2 first hbefore attr List.mem_cons_self
    omega
  · rcases List.mem_cons.mp hrest with rfl | hlater
    · exact hfirstOutside
    · exact absurd hid (hafter first hlater)

def flipped (memory : Memory) (position : Nat) : Memory :=
  Function.update memory position (memory position + 1)

theorem agreeBelow_flipped {position : Nat} (hsize : size ≤ position) :
    Memory.AgreeBelow size memory (flipped memory position) := by
  intro i hi
  rw [flipped, Function.update_of_ne (by omega)]

theorem flipped_self_ne (memory : Memory) (position : Nat) :
    flipped memory position position ≠ memory position := by
  rw [flipped, Function.update_self]
  simp

theorem load_flipped_of_lt {start position : Nat} (hbefore : start + 4 ≤ position) :
    load 32 ((flipped memory position).shift start) = load 32 (memory.shift start) := by
  refine load_congr fun i hi => ?_
  rw [Memory.shift_apply, flipped, Function.update_of_ne (by omega), Memory.shift_apply]

/-! A Notify takes the commit count of its last Filter List Package. -/

/-- The commit count is read from wherever the last package points. -/
theorem notify_commitCount {before after : List Grecpattr} {attr : Grecpattr}
    (hid : attr.id = msgattrFilterListPackage)
    (hafter : ∀ later ∈ after, later.id ≠ msgattrFilterListPackage) :
    ((before ++ attr :: after).foldl (notifyAttribute memory) runtime).haap.commitCount =
      ntohl (load 32 (memory.shift attr.value)) := by
  have hrest : ∀ runtime : Runtime,
      (after.foldl (notifyAttribute memory) runtime).haap.commitCount =
        runtime.haap.commitCount := by
    induction after with
    | nil => intro runtime; rfl
    | cons later after ih =>
        intro runtime
        rw [List.foldl_cons, ih fun other hother => hafter other (List.mem_cons_of_mem later hother),
          notifyAttribute, if_neg (hafter later List.mem_cons_self)]
        split_ifs <;> rfl
  rw [List.foldl_append, List.foldl_cons, hrest, notifyAttribute, if_pos hid]

/-! A Hello takes the round trip time of its last Timestamp. -/

def Runtime.roundTripTime (runtime : Runtime) (tuntype : Byte) : Timeval :=
  if tuntype = grecpTuntypeLte then runtime.lte.roundTripTime else runtime.dsl.roundTripTime

theorem hello_readings (attrs : List Grecpattr) : ∀ state : Runtime × Nat,
    (attrs.foldl (helloAttribute memory tuntype uptime) state).2 =
      state.2 + attrs.countP fun attr => attr.id = msgattrTimestamp := by
  induction attrs with
  | nil => intro state; rfl
  | cons attr attrs ih =>
      rintro ⟨runtime, readings⟩
      rw [List.foldl_cons, ih, List.countP_cons, helloAttribute]
      by_cases hid : attr.id = msgattrTimestamp
      · simp only [if_pos hid, decide_eq_true hid, if_true]
        split_ifs <;> omega
      · simp [hid]

theorem hello_roundTripTime {before after : List Grecpattr} {attr : Grecpattr}
    (hid : attr.id = msgattrTimestamp) (hafter : ∀ later ∈ after, later.id ≠ msgattrTimestamp) :
    ((before ++ attr :: after).foldl (helloAttribute memory tuntype uptime)
        (runtime, 0)).1.roundTripTime tuntype =
      timersub (uptime (before.countP fun attr => attr.id = msgattrTimestamp))
        (timestampSent memory attr) := by
  have hrest : ∀ state : Runtime × Nat,
      after.foldl (helloAttribute memory tuntype uptime) state = state := by
    induction after with
    | nil => intro state; rfl
    | cons later after ih =>
        rintro ⟨runtime, readings⟩
        rw [List.foldl_cons, helloAttribute, if_neg (hafter later List.mem_cons_self)]
        exact ih (fun other hother => hafter other (List.mem_cons_of_mem later hother)) _
  have hreadings : (before.foldl (helloAttribute memory tuntype uptime) (runtime, 0)).2 =
      before.countP fun attr => attr.id = msgattrTimestamp := by
    rw [hello_readings, Nat.zero_add]
  rw [List.foldl_append, List.foldl_cons, hrest, ← hreadings, helloAttribute, if_pos hid,
    Runtime.roundTripTime]
  by_cases htuntype : tuntype = grecpTuntypeLte
  · simp only [if_pos htuntype]
  · simp only [if_neg htuntype]

theorem tvUsec_eq_of_timersub {now first second : Timeval}
    (hsub : timersub now first = timersub now second) (hsec : first.tvSec = second.tvSec) :
    first.tvUsec = second.tvUsec := by
  simp only [timersub, hsec] at hsub
  split_ifs at hsub <;> simp only [Timeval.mk.injEq] at hsub <;> omega

theorem eq_of_mul_1000_mod {high low otherLow : Nat} (hlow : low < 256) (hother : otherLow < 256)
    (hsame : (256 * high + low) * 1000 % 2 ^ 32 = (256 * high + otherLow) * 1000 % 2 ^ 32) :
    low = otherLow := by
  have hbound : ∀ {byte : Nat}, byte < 256 → byte * 1000 < 2 ^ 32 := fun hbyte =>
    Nat.lt_trans (Nat.mul_lt_mul_of_pos_right hbyte (by decide)) (by decide)
  have hmod : 256 * high * 1000 + low * 1000 ≡ 256 * high * 1000 + otherLow * 1000
      [MOD 2 ^ 32] := by
    rw [← Nat.add_mul, ← Nat.add_mul]
    exact hsame
  have hlows := (Nat.ModEq.add_left_cancel' _ hmod).eq_of_lt_of_lt (hbound hlow) (hbound hother)
  exact Nat.eq_of_mul_eq_mul_right (by decide) hlows

/-- The last byte of a Timestamp counts. -/
theorem timestampSent_flipped_ne (attr : Grecpattr) (now : Timeval) :
    timersub now (timestampSent (flipped memory (attr.value + 7)) attr) ≠
      timersub now (timestampSent memory attr) := by
  intro hsame
  have hseconds : load 32 ((flipped memory (attr.value + 7)).shift attr.value) =
      load 32 (memory.shift attr.value) := load_flipped_of_lt (by omega)
  have hsec : (timestampSent (flipped memory (attr.value + 7)) attr).tvSec =
      (timestampSent memory attr).tvSec := by
    simp only [timestampSent, hseconds]
  have husec := tvUsec_eq_of_timersub hsame hsec
  have hvalue : ∀ memory : Memory, (ntohl (load 32 (memory.shift (attr.value + 4)))).toNat =
      256 * bigEndian ((memory.shift (attr.value + 4)).read 3) +
        (memory (attr.value + 7)).toNat := by
    intro memory
    rw [ntohl, toNat_swapBytes_load (by decide)]
    exact bigEndian_read_succ _ 3
  have hprefix : ((flipped memory (attr.value + 7)).shift (attr.value + 4)).read 3 =
      (memory.shift (attr.value + 4)).read 3 := by
    refine Memory.read_congr fun i hi => ?_
    rw [Memory.shift_apply, flipped, Function.update_of_ne (by omega), Memory.shift_apply]
  have hne : (flipped memory (attr.value + 7) (attr.value + 7)).toNat ≠
      (memory (attr.value + 7)).toNat := by
    intro htoNat
    exact flipped_self_ne memory _ (BitVec.eq_of_toNat_eq htoNat)
  simp only [timestampSent, BitVec.toNat_mul, hvalue, hprefix] at husec
  exact hne (eq_of_mul_1000_mod (BitVec.isLt _) (BitVec.isLt _) (Int.ofNat_inj.mp husec))

/-! ### Every message -/

/-- A message with a whole header is independent exactly when what it reads is covered. -/
theorem independent_whole_iff (hsize : attributesOffset ≤ size) :
    Independent memory size uptime runtime ↔ ∀ msgtype tuntype,
      dispatch runtime.haap.bondingKey memory = some (msgtype, tuntype) →
        Covered memory size msgtype := by
  constructor
  · intro hindependent msgtype tuntype hdispatch
    have hhandled : ∀ other, Memory.AgreeBelow size memory other →
        handleGrecpmessage other msgtype tuntype attributesOffset (size - attributesOffset) uptime
            runtime =
          handleGrecpmessage memory msgtype tuntype attributesOffset (size - attributesOffset)
            uptime runtime := by
      intro other hagree
      have hother := dispatch_congr runtime.haap.bondingKey (hagree.mono hsize)
      rw [← processGrecpmessage_of_some hdispatch,
        ← processGrecpmessage_of_some (hother ▸ hdispatch)]
      exact hindependent other hagree
    cases msgtype with
    | request => trivial
    | accept => trivial
    | deny => trivial
    | teardown => trivial
    | hello =>
        by_contra houtside
        obtain ⟨before, attr, after, hsplit, hid, hend, hafter⟩ := exists_last_outside houtside
        have hagree : Memory.AgreeBelow size memory (flipped memory (attr.value + 7)) :=
          agreeBelow_flipped (by omega)
        have hattrs : attributes memory attributesOffset (size - attributesOffset) = _ :=
          attributes_congr hagree
        have houtcome := congrArg (fun runtime => runtime.roundTripTime tuntype)
          (hhandled _ hagree)
        rw [messageAttributes] at hsplit
        simp only [handleGrecpmessage, handleGrecphello, ← hattrs, hsplit,
          hello_roundTripTime hid hafter] at houtcome
        exact timestampSent_flipped_ne attr _ houtcome
    | notify =>
        by_contra houtside
        obtain ⟨before, attr, after, hsplit, hid, hend, hafter⟩ := exists_last_outside houtside
        have hagree : Memory.AgreeBelow size memory (flipped memory (attr.value + 3)) :=
          agreeBelow_flipped (by omega)
        have hattrs : attributes memory attributesOffset (size - attributesOffset) = _ :=
          attributes_congr hagree
        have houtcome := congrArg (fun runtime => runtime.haap.commitCount) (hhandled _ hagree)
        rw [messageAttributes] at hsplit
        simp only [handleGrecpmessage, handleGrecpnotify, ← hattrs, hsplit,
          notify_commitCount hid hafter] at houtcome
        have hload := congrArg htonl houtcome
        simp only [htonl, ntohl, swapBytes_swapBytes (show 8 ∣ 32 by decide)] at hload
        exact flipped_self_ne memory _ (eq_of_load_eq hload (show 8 * 3 + 8 ≤ 32 by decide))
  · intro hcovered other hagree
    have hdispatch := dispatch_congr runtime.haap.bondingKey (hagree.mono hsize)
    cases hmemory : dispatch runtime.haap.bondingKey memory with
    | none =>
        rw [processGrecpmessage_of_none hmemory,
          processGrecpmessage_of_none (hdispatch ▸ hmemory)]
    | some handled =>
        obtain ⟨msgtype, tuntype⟩ := handled
        rw [processGrecpmessage_of_some hmemory,
          processGrecpmessage_of_some (hdispatch ▸ hmemory)]
        exact handleGrecpmessage_congr hagree (hcovered msgtype tuntype hmemory)

/-- **Bytes behind the message.** What a control message that passes the socket filter leaves in
`runtime` depends on the received bytes alone exactly when its flags are wrong, or its header is
complete and the attributes its handler reads a fixed width of end within it, or, for a header cut
off, when a received byte of the key is foreign and the Accept it may be taken for changes nothing. -/
theorem independent_iff_selfContained (memory : Memory) (size : Nat) (uptime : Nat → Timeval)
    (runtime : Runtime) (hfilter : Bpf.Accepts grecpSocketFilter (memory.read size)) :
    Independent memory size uptime runtime ↔ SelfContained memory size uptime runtime := by
  have hlow : 4 ≤ size := by
    have hlength := (accepts_grecpSocketFilter_iff.mp hfilter).1
    rwa [Memory.read_length] at hlength
  rw [SelfContained]
  by_cases hflags : ntohs (Grehdr.at memory).flagsAndVersion = grecpFlagsandversion
  · rw [ne_eq, iff_false_intro (not_not.mpr hflags), false_or]
    rcases Nat.lt_or_ge size attributesOffset with hshort | hwhole
    · rw [independent_truncated_iff hlow hshort hflags]
      constructor
      · intro hforeign
        exact Or.inr ⟨hshort, hforeign⟩
      · rintro (⟨hwhole, _⟩ | ⟨_, hforeign⟩)
        · omega
        · exact hforeign
    · rw [independent_whole_iff hwhole]
      constructor
      · intro hcovered
        exact Or.inl ⟨hwhole, hcovered⟩
      · rintro (⟨_, hcovered⟩ | ⟨hshort, _⟩)
        · exact hcovered
        · omega
  · have hnone : ∀ other, Memory.AgreeBelow size memory other →
        dispatch runtime.haap.bondingKey other = none := by
      intro other hagree
      rw [flagsAndVersion_congr (hagree.mono (by omega))] at hflags
      simp only [dispatch, ne_eq, hflags, not_false_eq_true, if_true]
    have hindependent : Independent memory size uptime runtime := by
      intro other hagree
      rw [processGrecpmessage_of_none (hnone other hagree),
        processGrecpmessage_of_none (hnone memory fun i _ => rfl)]
    exact iff_of_true hindependent (Or.inl hflags)

def timestampHello : List Byte :=
  [0x20, 0, 1, 1, 0, 0, 0, 0, 0x40, 5, 0, 8, 0, 0, 0, 9, 0, 0, 0, 250]

/-- It is independent of what the buffer held before. -/
theorem timestampHello_independent :
    Independent (received (fun _ => 0xff) timestampHello) 20 (fun _ => ⟨10, 0⟩) Runtime.zero := by
  refine (independent_iff_selfContained _ _ _ _ (by decide +kernel)).mpr (Or.inr (Or.inl ⟨by decide +kernel, ?_⟩))
  intro msgtype tuntype hdispatch
  have hhello : dispatch Runtime.zero.haap.bondingKey (received (fun _ => 0xff) timestampHello) =
      some (.hello, grecpTuntypeLte) := by decide +kernel
  obtain ⟨rfl, rfl⟩ := Prod.mk.inj (Option.some.inj (hhello.symm.trans hdispatch))
  show ∀ attr ∈ messageAttributes (received (fun _ => 0xff) timestampHello) 20, _
  decide +kernel

def emptyFilterList : List Byte := [0x20, 0, 1, 1, 0, 0, 0, 0, 0x60, 8, 0, 0]

/-- The commit count is what lies behind it. -/
theorem emptyFilterList_stale :
    Bpf.Accepts grecpSocketFilter ((received (fun _ => 0) emptyFilterList).read 12) ∧
    Memory.AgreeBelow 12 (received (fun _ => 0) emptyFilterList)
      (received (fun _ => 0xff) emptyFilterList) ∧
    (processGrecpmessage (received (fun _ => 0) emptyFilterList) 12 (fun _ => ⟨10, 0⟩)
      Runtime.zero).haap.commitCount = 0 ∧
    (processGrecpmessage (received (fun _ => 0xff) emptyFilterList) 12 (fun _ => ⟨10, 0⟩)
      Runtime.zero).haap.commitCount = 0xffffffff#32 := by
  refine ⟨by decide +kernel, ?_, by decide +kernel, by decide +kernel⟩
  unfold Memory.AgreeBelow
  decide

end OpenHybrid
