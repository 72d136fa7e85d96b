import OpenHybrid.Lib.Bytes

/-!
# Classic BPF

The part of the classic socket filter machine that needs no scratch memory: absolute loads into the
accumulator, equality jumps and returns. Loads are in network order, and a load that reaches past
the end of the packet ends the program with 0, which discards the packet.
-/

namespace Bpf

open ByteMemory

inductive Insn where
  /-- `BPF_LD | BPF_W | BPF_ABS` -/
  | ldWord (offset : Nat)
  /-- `BPF_LD | BPF_H | BPF_ABS` -/
  | ldHalf (offset : Nat)
  /-- `BPF_JMP | BPF_JEQ | BPF_K`: skips `jt` or `jf` instructions -/
  | jeq (k : BitVec 32) (jt jf : Nat)
  /-- `BPF_RET | BPF_K` -/
  | ret (k : BitVec 32)
  deriving DecidableEq, Repr

/-- The packet as memory; no load that succeeds reads the default. -/
def memory (packet : List Byte) : Memory := Memory.write (fun _ => 0) 0 packet

def wordAt (packet : List Byte) (offset : Nat) : BitVec 32 :=
  swapBytes (load 32 ((memory packet).shift offset))

def halfAt (packet : List Byte) (offset : Nat) : BitVec 16 :=
  swapBytes (load 16 ((memory packet).shift offset))

/-- Jumps only go forward, so a program runs at most once over its own length. -/
def exec (packet : List Byte) : Nat → List Insn → BitVec 32 → BitVec 32
  | 0, _, _ => 0
  | _ + 1, [], _ => 0
  | steps + 1, insn :: rest, accumulator =>
      match insn with
      | .ldWord offset =>
          if offset + 4 ≤ packet.length then exec packet steps rest (wordAt packet offset) else 0
      | .ldHalf offset =>
          if offset + 2 ≤ packet.length then
            exec packet steps rest ((halfAt packet offset).setWidth 32)
          else 0
      | .jeq k jt jf =>
          exec packet steps (rest.drop (if accumulator = k then jt else jf)) accumulator
      | .ret k => k

def Accepts (program : List Insn) (packet : List Byte) : Prop :=
  exec packet program.length program 0 ≠ 0

instance (program : List Insn) (packet : List Byte) : Decidable (Accepts program packet) :=
  inferInstanceAs (Decidable (_ ≠ _))

end Bpf
