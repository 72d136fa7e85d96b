import OpenHybrid.Lib.Loop
import OpenHybrid.Lib.Numeral
import OpenHybrid.ReadConfig

/-!
# The address of an interface

`get_primary_ip6` of `helpers.c`, which goes through `/proc/net/if_inet6` with `fscanf`. The messages
it logs are left out, and with them the flag `found`.
-/

namespace OpenHybrid

open ByteMemory

/-! ### Conversions of `fscanf` -/

def isXdigit (char : Byte) : Bool :=
  isDigit char || (65 ≤ char.toNat && char.toNat ≤ 70) || (97 ≤ char.toNat && char.toNat ≤ 102)

def xdigitValue (char : Byte) : Nat :=
  if char.toNat ≤ 57 then char.toNat - 48
  else if char.toNat ≤ 70 then char.toNat - 55
  else char.toNat - 87

/-- `strtoul` clamps before it negates. -/
def strtoul (negative : Bool) (magnitude : Nat) : BitVec 64 :=
  if 2 ^ 64 ≤ magnitude then BitVec.allOnes 64
  else if negative then -BitVec.ofNat 64 magnitude
  else BitVec.ofNat 64 magnitude

/-- How many characters stand in front of the digits: a sign, if there is one, and `0x`. -/
def leadLength (field : List Byte) : Nat :=
  let signs := if field.head? = some 45#8 ∨ field.head? = some 43#8 then 1 else 0
  if (field.drop signs).take 2 ∈ [ascii "0x", ascii "0X"] then signs + 2 else signs

/-- `%x`, with or without a width, behind white space. The number and the rest of the input, unless
it is a failure. -/
def scanHex (width : Option Nat) (input : List Byte) : Option (BitVec 64 × List Byte) :=
  let input := input.dropWhile isSpace
  let field := (width.map input.take).getD input
  let digits := (field.drop (leadLength field)).takeWhile isXdigit
  if digits = [] then none
  else
    some (strtoul (field.head? = some 45#8) (Numeral.value 16 xdigitValue digits),
      input.drop (leadLength field + digits.length))

def scanString (input : List Byte) : Option (List Byte × List Byte) :=
  let input := input.dropWhile isSpace
  let item := input.takeWhile (!isSpace ·)
  if item = [] then none else some (item, input.drop item.length)

def scanOctets : Nat → List Byte → Option (List Byte × List Byte)
  | 0, input => some ([], input)
  | count + 1, input => do
      let (octet, input) ← scanHex (some 2) input
      let (octets, input) ← scanOctets count input
      pure (octet.setWidth 8 :: octets, input)

/-! ### The table -/

structure IfInet6 where
  thisIp : In6Addr
  thisScope : BitVec 32
  thisIfname : List Byte

/-- A call of `fscanf` that assigns all 19 items. The index and the flags of the interface are read
but not assigned, and the length of the network prefix is not used. -/
def scanIfInet6 (input : List Byte) : Option (IfInet6 × List Byte) := do
  let (octets, input) ← scanOctets 16 (input.dropWhile isSpace)
  let (_, input) ← scanHex none input
  let (_, input) ← scanHex none input
  let (scope, input) ← scanHex none input
  let (_, input) ← scanHex none input
  let (ifname, input) ← scanString input
  pure (⟨fun i => octets.getD i 0, scope.setWidth 32, ifname⟩, input)

/-- A turn of the loop: on to the rest of the input, or out of the loop with the address found so
far. There is none if a name overruns `this_ifname`. -/
def scanEntry (interface : List Byte) (scan : In6Addr × List Byte) :
    (In6Addr × List Byte) ⊕ Option In6Addr :=
  match scanIfInet6 scan.2 with
  | none => .inr (some scan.1)
  | some (entry, rest) =>
      if ifNamesize ≤ entry.thisIfname.length then .inr none
      else
        .inl (if interface = cString entry.thisIfname ∧ entry.thisScope = 0 then entry.thisIp
          else scan.1, rest)

/-- `get_primary_ip6`, when the table has these bytes or cannot be opened. Every call of `fscanf` but
the last takes at least one character. -/
def getPrimaryIp6 (ifInet6 : Option (List Byte)) (interface : Bytes 16) : Option In6Addr :=
  match ifInet6 with
  | none => some in6addrAny
  | some input =>
      (Loop.run (scanEntry (cString (List.ofFn interface))) (input.length + 1)
        (in6addrAny, input)).join

end OpenHybrid
