import OpenHybrid.Send

/-!
# DHCP clients

`dhcp.c`: starting and killing the two clients and reading what their scripts print.
-/

namespace OpenHybrid

open ByteMemory

variable (answers : Answers)

/-! ### Text -/

def maxUdhcpcOutput : Nat := 1024

def newline : Byte := 10#8

/-- The text in a buffer ends at its first NUL. -/
def cString (buffer : List Byte) : List Byte := buffer.takeWhile (· ≠ 0)

/-- What successive calls of `strtok` return: the pieces between delimiters, without empty ones. -/
def strtok (delimiter : Byte) (text : List Byte) : List (List Byte) :=
  (text.splitOn delimiter).filter (· ≠ [])

def isSpace (char : Byte) : Bool := char = 32#8 || (9 ≤ char.toNat && char.toNat ≤ 13)

def isDigit (char : Byte) : Bool := 48 ≤ char.toNat && char.toNat ≤ 57

/-- `atoi`, which is `(int)strtol(text, NULL, 10)`. -/
def atoi (text : List Byte) : Int :=
  let text := text.dropWhile isSpace
  let negative := text.head? = some 45#8
  let text := if negative || text.head? = some 43#8 then text.tail else text
  let magnitude := (text.takeWhile isDigit).foldl
    (fun (value : Nat) (digit : Byte) => 10 * value + (digit.toNat - 48)) 0
  let value : Int := if negative then -magnitude else magnitude
  let clamped := max (-2 ^ 63) (min value (2 ^ 63 - 1))
  (BitVec.ofInt 32 clamped).toInt

/-! ### Start -/

/-- `start_udhcpc` and `start_udhcpc6`: the pid, or 0. -/
def startClient (client : Client) (clientAnswers : ClientAnswers) (process : Process) :
    Int × Process :=
  if !clientAnswers.pipe then (0, process)
  else if clientAnswers.fork = -1 then (0, process)
  else (clientAnswers.fork, process.emit (.clientStarted client clientAnswers.fork))

def startUdhcpc (process : Process) : Int × Process := startClient .udhcpc answers.udhcpc process

def startUdhcpc6 (process : Process) : Int × Process :=
  startClient .udhcpc6 answers.udhcpc6 process

/-! ### Output -/

def udhcpcLine (dhcp : Dhcp) (line : List Byte) : Dhcp :=
  if (ascii "ip=").isPrefixOf line then
    { dhcp with ip := (answers.inetPton (line.drop 3)).getD dhcp.ip }
  else if (ascii "lease=").isPrefixOf line then
    { dhcp with leaseTime := BitVec.ofInt 32 (atoi (line.drop 6)) }
  else dhcp

def udhcpc6Line (dhcp6 : Dhcp6) (line : List Byte) : Dhcp6 :=
  if (ascii "prefix_address=").isPrefixOf line then
    { dhcp6 with prefixAddress := (answers.inetPton6 (line.drop 15)).getD dhcp6.prefixAddress }
  else if (ascii "prefix_length=").isPrefixOf line then
    { dhcp6 with prefixLength := BitVec.ofInt 8 (atoi (line.drop 14)) }
  else if (ascii "lease=").isPrefixOf line then
    { dhcp6 with leaseTime := BitVec.ofInt 32 (atoi (line.drop 6)) }
  else dhcp6

/-- The lines in the buffer after `read`: none when it failed, since the buffer was cleared. -/
def outputLines (read : Option (List Byte)) : List (List Byte) :=
  strtok newline (cString ((read.getD []).take (maxUdhcpcOutput - 1)))

def processUdhcpcOutput (process : Process) : Process :=
  let process := process.emit (.outputRead .udhcpc)
  if answers.udhcpc.read = some [] then process
  else
    let dhcp := (outputLines answers.udhcpc.read).foldl (udhcpcLine answers) process.runtime.dhcp
    if dhcp.leaseTime ≠ 0 then
      triggerEvent .dhcpupIp { process with
        runtime.dhcp := { dhcp with leaseObtained := (answers.uptime .udhcpcOutput).tvSec } }
    else { process with runtime.dhcp := dhcp }

def processUdhcpc6Output (process : Process) : Process :=
  let process := process.emit (.outputRead .udhcpc6)
  if answers.udhcpc6.read = some [] then process
  else
    let dhcp6 :=
      (outputLines answers.udhcpc6.read).foldl (udhcpc6Line answers) process.runtime.dhcp6
    if dhcp6.leaseTime ≠ 0 then
      triggerEvent .dhcpupIp6 { process with
        runtime.dhcp6 := { dhcp6 with leaseObtained := (answers.uptime .udhcpc6Output).tvSec } }
    else { process with runtime.dhcp6 := dhcp6 }

/-! ### Kill -/

def killUdhcpc (process : Process) : Bool × Process :=
  let pid := process.runtime.dhcp.udhcpcPid
  if pid ≠ 0 then (answers.kill pid, process.emit (.killed pid (answers.kill pid)))
  else (true, process)

/-- `kill_udhcpc6` looks at the pid of the other client. -/
def killUdhcpc6 (process : Process) : Bool × Process :=
  let pid := process.runtime.dhcp.udhcpcPid
  if pid ≠ 0 then (answers.kill pid, process.emit (.killed pid (answers.kill pid)))
  else (true, process)

end OpenHybrid
