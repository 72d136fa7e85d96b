import OpenHybrid.Runtime

/-!
# GRE headers

The constants of `grecp.h` and the header fields that both planes read out of a receive buffer.
-/

namespace OpenHybrid

open ByteMemory

def maxPktSize : Nat := 1500

def grecpProto : BitVec 16 := 0x0101#16

/-- `GRECP_FLAGSANDVERSION`: the key bit alone. -/
def grecpFlagsandversion : BitVec 16 := 0x2000#16

/-- `GRECP_FLAGSANDVERSION_WITH_SEQ`: the key bit and the sequence bit. -/
def grecpFlagsandversionWithSeq : BitVec 16 := 0x3000#16

def ethertypeIp : BitVec 16 := 0x0800#16

def ethertypeIpv6 : BitVec 16 := 0x86dd#16

def grecpTuntypeLte : Byte := 0#8

def grecpTuntypeDsl : Byte := 8#8

def htons (word : BitVec 16) : BitVec 16 := swapBytes word

def ntohs (word : BitVec 16) : BitVec 16 := swapBytes word

def htonl (word : BitVec 32) : BitVec 32 := swapBytes word

def ntohl (word : BitVec 32) : BitVec 32 := swapBytes word

/-- `struct grehdr`, as it lies in memory: every field in network order. -/
structure Grehdr where
  flagsAndVersion : BitVec 16
  proto : BitVec 16
  key : BitVec 32
  deriving DecidableEq

def Grehdr.at (buffer : Memory) : Grehdr where
  flagsAndVersion := load 16 buffer
  proto := load 16 (buffer.shift 2)
  key := load 32 (buffer.shift 4)

def Grehdr.bytes (greh : Grehdr) : List Byte :=
  storeList greh.flagsAndVersion ++ storeList greh.proto ++ storeList greh.key

/-- A receive buffer after a datagram came in: whatever lay behind its last byte is still there. -/
def received (buffer : Memory) (datagram : List Byte) : Memory :=
  buffer.write 0 (datagram.take maxPktSize)

/-- What `sendmsg` is given: source address, destination and bytes. -/
structure Message where
  source : In6Addr
  destination : In6Addr
  bytes : List Byte
  deriving DecidableEq

@[simp]
theorem ntohs_htons (word : BitVec 16) : ntohs (htons word) = word :=
  swapBytes_swapBytes (by decide) word

@[simp]
theorem ntohl_htonl (word : BitVec 32) : ntohl (htonl word) = word :=
  swapBytes_swapBytes (by decide) word

@[simp]
theorem Grehdr.bytes_length (greh : Grehdr) : greh.bytes.length = 8 := by
  simp [Grehdr.bytes]

/-- What is written as a header is read back as that header. -/
theorem Grehdr.at_write (greh : Grehdr) (memory : Memory) (rest : List Byte) :
    Grehdr.at (memory.write 0 (greh.bytes ++ rest)) = greh := by
  have hproto := memory.shift_write_append (storeList greh.flagsAndVersion)
    (storeList greh.proto ++ (storeList greh.key ++ rest))
  have hkey := (memory.shift 2).shift_write_append (storeList greh.proto)
    (storeList greh.key ++ rest)
  simp only [storeList_length, Nat.reduceDiv] at hproto hkey
  have hsplit : greh.bytes ++ rest = storeList greh.flagsAndVersion ++
      (storeList greh.proto ++ (storeList greh.key ++ rest)) := by
    simp [Grehdr.bytes]
  have hshift : (memory.write 0 (greh.bytes ++ rest)).shift 4 =
      ((memory.shift 2).shift 2).write 0 (storeList greh.key ++ rest) := by
    rw [← hkey, ← hproto, hsplit, Memory.shift_shift]
  rw [Grehdr.at, hshift, hsplit, hproto]
  simp only [load_write_storeList (show 8 ∣ 16 by decide),
    load_write_storeList (show 8 ∣ 32 by decide)]

theorem Grehdr.shift_write (greh : Grehdr) (memory : Memory) (rest : List Byte) :
    (memory.write 0 (greh.bytes ++ rest)).shift 8 = (memory.shift 8).write 0 rest := by
  simpa using memory.shift_write_append greh.bytes rest

end OpenHybrid
