import OpenHybrid.Dhcp
import OpenHybrid.Lib.Numeral

/-!
# The environment of the event script

The child of `trigger_event` in `event.c`: the strings it prints into `env` and hands to `execle`.
There is no result where `sprintf` or the terminating NULL overruns what was set aside for them.
-/

namespace OpenHybrid

open ByteMemory

/-! ### Conversions of `printf` -/

def hexChar (digit : Nat) : Byte := BitVec.ofNat 8 (if digit < 10 then 48 + digit else 87 + digit)

def printUnsigned (n : Nat) : List Byte := Numeral.spell 10 hexChar 1 n

def printHex (n : Nat) : List Byte := Numeral.spell 16 hexChar 1 n

/-- `%s` of an array. There is no result if no NUL ends it. -/
def printArray {size : Nat} (array : Bytes size) : Option (List Byte) :=
  if 0 ∈ List.ofFn array then some (cString (List.ofFn array)) else none

/-! ### `inet_ntop` -/

def inetNtop (ip : Bytes 4) : List Byte :=
  [46#8].intercalate ((List.ofFn ip).map fun octet => printUnsigned octet.toNat)

structure ZeroWords where
  base : Nat
  len : Nat
  deriving DecidableEq, Repr

def addressWord (address : In6Addr) (i : Nat) : Nat :=
  let octet (j : Nat) : Nat := ((List.ofFn address).getD j 0).toNat
  256 * octet (2 * i) + octet (2 * i + 1)

/-- The earlier row stays unless the later one is longer. -/
def ZeroWords.better (best cur : Option ZeroWords) : Option ZeroWords :=
  match best, cur with
  | best, none => best
  | none, cur => cur
  | some best, some cur => if best.len < cur.len then some cur else some best

/-- The row that is abbreviated: the first of the longest, if it has more than one word. -/
def ZeroWords.best (word : Nat → Nat) : Option ZeroWords :=
  let (best, cur) := (List.range 8).foldl
    (fun (best, cur) i =>
      if word i = 0 then
        (best, some ((cur.map fun row => { row with len := row.len + 1 }).getD ⟨i, 1⟩))
      else (ZeroWords.better best cur, none))
    ((none, none) : Option ZeroWords × Option ZeroWords)
  (ZeroWords.better best cur).filter fun row => 2 ≤ row.len

def ZeroWords.embeds (word : Nat → Nat) (row : ZeroWords) : Bool :=
  row.base = 0 && (row.len = 6 || (row.len = 5 && word 5 = 0xffff))

def wordText (address : In6Addr) (best : Option ZeroWords) (i : Nat) : List Byte :=
  let word := addressWord address
  let embedded := best.any (ZeroWords.embeds word)
  if best.any fun row => row.base ≤ i && i < row.base + row.len then
    if best.any (·.base = i) then ascii ":" else []
  else if embedded && i = 7 then []
  else
    (if i = 0 then [] else ascii ":") ++
      if embedded && i = 6 then inetNtop fun j => (List.ofFn address).getD (12 + j) 0
      else printHex (word i)

def inetNtop6 (address : In6Addr) : List Byte :=
  let best := ZeroWords.best (addressWord address)
  (List.range 8).flatMap (wordText address best) ++
    if best.any fun row => row.base + row.len = 8 then ascii ":" else []

def inetAddrstrlen : Nat := 16

def inet6Addrstrlen : Nat := 46

/-- The cleared buffer behind `inet_ntop`, which leaves it alone when text and NUL do not fit. -/
def straddr (size : Nat) (text : List Byte) : List Byte := if text.length < size then text else []

/-! ### The environment -/

def maxEnvVars : Nat := 16

def maxEnvVarLength : Nat := 64

/-- The names and what is printed behind them, in the order of the source. -/
def envVariables (runtime : Runtime) : List (List Byte × Option (List Byte)) :=
  [(ascii "lte_interface_name", printArray runtime.lte.interfaceName)] ++
    (if runtime.bonding then
      [(ascii "dsl_interface_name", printArray runtime.dsl.interfaceName)] else []) ++
    [(ascii "tunnel_interface_name", printArray runtime.tunnelInterfaceName),
      (ascii "tunnel_interface_mtu", some (printUnsigned runtime.tunnelInterfaceMtu.toNat)),
      (ascii "dhcp_ip", some (straddr inetAddrstrlen (inetNtop runtime.dhcp.ip))),
      (ascii "dhcp_lease_time", some (printUnsigned runtime.dhcp.leaseTime.toNat)),
      (ascii "dhcp6_prefix_address",
        some (straddr inet6Addrstrlen (inetNtop6 runtime.dhcp6.prefixAddress))),
      (ascii "dhcp6_prefix_length", some (printUnsigned runtime.dhcp6.prefixLength.toNat)),
      (ascii "dhcp6_lease_time", some (printUnsigned runtime.dhcp6.leaseTime.toNat))]

def envVar (name : List Byte) (value : List Byte) : Option (List Byte) :=
  let text := name ++ ascii "=" ++ value
  if text.length < maxEnvVarLength then some text else none

/-- The strings in `env`, behind which there must be room for NULL. -/
def environment (runtime : Runtime) : Option (List (List Byte)) := do
  let env ← (envVariables runtime).mapM fun (name, value) => value.bind (envVar name)
  if env.length < maxEnvVars then some env else none

end OpenHybrid
