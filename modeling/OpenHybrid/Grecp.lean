import OpenHybrid.Gre

/-!
# Control messages

`grecp.c` and the constants of `grecp.h`: the attribute area, the checks `process_grecpmessage`
makes before it calls a handler, and the datagram `send_grecpmessage` builds.
-/

namespace OpenHybrid

open ByteMemory

inductive Msgtype where
  | request
  | accept
  | deny
  | hello
  | teardown
  | notify
  deriving DecidableEq, Repr

def Msgtype.code : Msgtype → Byte
  | .request => 1#8
  | .accept => 2#8
  | .deny => 3#8
  | .hello => 4#8
  | .teardown => 5#8
  | .notify => 6#8

/-! ### Attributes -/

/-- `GRECP_MSGATTR_*`, those the program reads or writes. -/
def msgattrHIpv6Address : Byte := 2#8

def msgattrClientIdentificationName : Byte := 3#8

def msgattrSessionId : Byte := 4#8

def msgattrTimestamp : Byte := 5#8

def msgattrBypassTrafficRate : Byte := 6#8

def msgattrFilterListPackage : Byte := 8#8

def msgattrBypassBandwidthCheckInterval : Byte := 10#8

def msgattrActiveHelloInterval : Byte := 14#8

def msgattrHelloRetryTimes : Byte := 15#8

def msgattrErrorCode : Byte := 17#8

def msgattrDslLinkFailure : Byte := 18#8

def msgattrLteLinkFailure : Byte := 19#8

def msgattrBondingKeyValue : Byte := 20#8

def msgattrFilterListPackageAck : Byte := 30#8

def msgattrTunnelVerification : Byte := 35#8

def msgattrPadding : Byte := 255#8

/-- `struct grecpattr`. The value is a pointer: an address in the memory of the message. -/
structure Grecpattr where
  id : Byte
  length : BitVec 16
  value : Nat
  deriving DecidableEq, Repr

/-- `read_grecpattribute`: the number of bytes read and the attribute; `none` where it returns 0.
Pointers are addresses in `memory`. -/
def readGrecpattribute (memory : Memory) (buffer : Nat) (size : Int) :
    Option (Nat × Grecpattr) :=
  if size ≤ 0 then none
  else if size < 3 then none
  else
    let length := ntohs (load 16 (memory.shift (buffer + 1)))
    if size - 3 < length.toNat then none
    else some (3 + length.toNat, ⟨memory buffer, length, buffer + 3⟩)

/-- The loop all handlers run,
`while ((bytes_read = read_grecpattribute(buffer += bytes_read, size -= bytes_read, &attr)) > 0)`:
the attributes it yields and the `size` it stops at. -/
def attributeLoop (memory : Memory) : Nat → Nat → Int → List Grecpattr × Int
  | 0, _, size => ([], size)
  | fuel + 1, buffer, size =>
      match readGrecpattribute memory buffer size with
      | none => ([], size)
      | some (bytesRead, attr) =>
          let (attrs, rest) := attributeLoop memory fuel (buffer + bytesRead) (size - bytesRead)
          (attr :: attrs, rest)

/-- The attributes of an area. Each takes at least three bytes, so `size` rounds are enough. -/
def attributes (memory : Memory) (buffer : Nat) (size : Int) : List Grecpattr :=
  (attributeLoop memory size.toNat buffer size).1

/-- `append_grecpattribute`, on the bytes the buffer holds so far. -/
def appendGrecpattribute (buffer : List Byte) (id : Byte) (length : BitVec 16)
    (value : List Byte) : List Byte :=
  buffer ++ id :: storeList (htons length) ++ value.take length.toNat

/-! ### Messages -/

def attributesOffset : Nat := 9

/-- The checks of `process_grecpmessage`, up to the `switch`: which handler is called, and for
which tunnel. -/
def dispatch (bondingKey : BitVec 32) (memory : Memory) : Option (Msgtype × Byte) :=
  let greh := Grehdr.at memory
  let msgtypeAndTuntype := memory 8
  let msgtype := msgtypeAndTuntype >>> 4
  let tuntype := msgtypeAndTuntype &&& 0x0f#8
  if ntohs greh.flagsAndVersion ≠ grecpFlagsandversion then none
  else if ntohl greh.key ≠ bondingKey ∧ msgtype ≠ Msgtype.accept.code then none
  else if tuntype ≠ grecpTuntypeLte ∧ tuntype ≠ grecpTuntypeDsl then none
  else
    -- a request is not for us: it falls into the default branch
    ([.accept, .deny, .hello, .teardown, .notify].find? fun (handled : Msgtype) =>
      handled.code = msgtype).map fun handled => (handled, tuntype)

def grecpmessage (runtime : Runtime) (msgtype : Msgtype) (tuntype : Byte)
    (attributes : List Byte) : Message where
  source := if tuntype = grecpTuntypeLte then runtime.lte.interfaceIp else runtime.dsl.interfaceIp
  destination := runtime.haap.ip
  bytes :=
    Grehdr.bytes ⟨htons grecpFlagsandversion, htons grecpProto, htonl runtime.haap.bondingKey⟩ ++
      (msgtype.code <<< 4 ||| tuntype) :: attributes

/-- The type byte of the header comes apart again. -/
theorem msgtypeAndTuntype_split (msgtype : Msgtype) {tuntype : Byte}
    (htuntype : tuntype = grecpTuntypeLte ∨ tuntype = grecpTuntypeDsl) :
    (msgtype.code <<< 4 ||| tuntype) >>> 4 = msgtype.code ∧
      (msgtype.code <<< 4 ||| tuntype) &&& 0x0f#8 = tuntype := by
  rcases htuntype with rfl | rfl <;> cases msgtype <;> decide

theorem Msgtype.code_injective {msgtype other : Msgtype} (hcode : msgtype.code = other.code) :
    msgtype = other := by
  cases msgtype <;> cases other <;> first | rfl | exact absurd hcode (by decide)

/-- A message under the right key and with a known type reaches its handler. -/
theorem dispatch_eq_some {bondingKey : BitVec 32} {memory : Memory} {msgtype : Msgtype}
    {tuntype : Byte} (hflags : ntohs (Grehdr.at memory).flagsAndVersion = grecpFlagsandversion)
    (hkey : ntohl (Grehdr.at memory).key = bondingKey ∨ msgtype = .accept)
    (htype : memory 8 = msgtype.code <<< 4 ||| tuntype) (hmsgtype : msgtype ≠ .request)
    (htuntype : tuntype = grecpTuntypeLte ∨ tuntype = grecpTuntypeDsl) :
    dispatch bondingKey memory = some (msgtype, tuntype) := by
  obtain ⟨hcode, htunnel⟩ := msgtypeAndTuntype_split msgtype htuntype
  have hpasses : ¬ (ntohl (Grehdr.at memory).key ≠ bondingKey ∧
      msgtype.code ≠ Msgtype.accept.code) := by
    rintro ⟨hforeign, hother⟩
    rcases hkey with hours | rfl
    · exact hforeign hours
    · exact hother rfl
  have hknown : ¬ (tuntype ≠ grecpTuntypeLte ∧ tuntype ≠ grecpTuntypeDsl) := by
    rintro ⟨hlte, hdsl⟩
    exact htuntype.elim hlte hdsl
  simp only [dispatch, hflags, htype, hcode, htunnel, ne_eq, not_true_eq_false, if_false] at *
  rw [if_neg hpasses, if_neg hknown]
  cases msgtype with
  | request => exact absurd rfl hmsgtype
  | accept => rfl
  | deny => rfl
  | hello => rfl
  | teardown => rfl
  | notify => rfl

theorem of_dispatch_eq_some {bondingKey : BitVec 32} {memory : Memory} {msgtype : Msgtype}
    {tuntype : Byte} (hdispatch : dispatch bondingKey memory = some (msgtype, tuntype)) :
    ntohs (Grehdr.at memory).flagsAndVersion = grecpFlagsandversion ∧
      (ntohl (Grehdr.at memory).key = bondingKey ∨ msgtype = .accept) ∧
      msgtype ≠ .request ∧ (tuntype = grecpTuntypeLte ∨ tuntype = grecpTuntypeDsl) := by
  simp only [dispatch] at hdispatch
  split_ifs at hdispatch with hflags hkey htuntype
  rw [Option.map_eq_some_iff] at hdispatch
  obtain ⟨handled, hfind, hpair⟩ := hdispatch
  obtain ⟨rfl, rfl⟩ := Prod.mk.inj hpair
  have hmem := List.mem_of_find?_eq_some hfind
  have hcode : handled.code = memory 8 >>> 4 := by
    simpa using List.find?_some hfind
  refine ⟨not_not.mp hflags, ?_, ?_, ?_⟩
  · by_cases hours : ntohl (Grehdr.at memory).key = bondingKey
    · exact Or.inl hours
    · refine Or.inr (Msgtype.code_injective ?_)
      rw [hcode]
      by_contra hother
      exact hkey ⟨hours, hother⟩
  · rintro rfl
    simp at hmem
  · by_cases hlte : memory 8 &&& 0x0f#8 = grecpTuntypeLte
    · exact Or.inl hlte
    · refine Or.inr ?_
      by_contra hdsl
      exact htuntype ⟨hlte, hdsl⟩

end OpenHybrid
