import OpenHybrid.Grecp

/-!
# The process and its surroundings

What the control plane keeps besides `runtime`, what it does to the outside, in the order it does
it, and what the outside answers while `execute_timers` runs once. `trigger_event` of `event.c` is
the simplest of the functions that have an effect.
-/

namespace OpenHybrid

open ByteMemory

inductive EventName where
  | startup
  | shutdown
  | tunnelup
  | tunneldown
  | dhcpupIp
  | dhcpupIp6
  | dhcpdownIp
  | dhcpdownIp6
  deriving DecidableEq, Repr

inductive Thread where
  | gre2tun
  | tun2gre
  deriving DecidableEq, Repr

inductive Client where
  | udhcpc
  | udhcpc6
  deriving DecidableEq, Repr

/-- The attributes of the kernel device that `create_gre_tunnel_dev` asks for. -/
structure GreDevice where
  name : Bytes 16
  mtu : BitVec 16
  localIp : In6Addr
  remoteIp : In6Addr
  inputKey : BitVec 32
  outputKey : BitVec 32
  deriving DecidableEq

/-- The tun device of `create_tun_tunnel_dev`; the calls that set its MTU and bring it up may
fail. -/
structure TunDevice where
  name : Bytes 16
  mtu : Option (BitVec 16)
  up : Bool
  deriving DecidableEq

inductive Effect where
  /-- A control message handed to `sendmsg`, and whether it went out. -/
  | sendmsg (msgtype : Msgtype) (tuntype : Byte) (message : Message) (sent : Bool)
  | event (name : EventName)
  | greDeviceCreated (device : GreDevice)
  | greDeviceDestroyed
  | tunDeviceCreated (device : TunDevice)
  | tunDeviceClosed (fd : Int)
  /-- Without a filter when it could not be attached. -/
  | greSocketOpened (fd : Int) (filter : Option (BitVec 32))
  | greSocketClosed (fd : Int)
  | threadStarted (thread : Thread) (handle : BitVec 64)
  | threadCancelled (handle : BitVec 64)
  | clientStarted (client : Client) (pid : Int)
  | clientPolled (client : Client) (pid : Int) (status : Option (BitVec 32))
  | outputRead (client : Client)
  | killed (pid : Int) (killed : Bool)
  | exit (success : Bool)
  deriving DecidableEq

structure Process where
  runtime : Runtime
  sockfdGre : Int
  sockfdTun : Int
  exited : Bool
  effects : List Effect
  deriving DecidableEq

def Process.emit (effect : Effect) (process : Process) : Process :=
  { process with effects := process.effects ++ [effect] }

/-- `exit`, also where `logger` calls it for `LOG_FATAL`. -/
def Process.exit (success : Bool) (process : Process) : Process :=
  { process with exited := true, effects := process.effects ++ [.exit success] }

/-- The places of `execute_timers` that read the clock, in the order of the source. -/
inductive Reading where
  | lteHelloDue
  | lteHelloSeconds
  | lteHelloMilliseconds
  | dslHelloDue
  | dslHelloSeconds
  | dslHelloMilliseconds
  | bypassTrafficDue
  | bypassTrafficSent
  | udhcpcOutput
  | udhcpc6Output
  | dhcpExpiry
  | dhcp6Expiry
  deriving DecidableEq, Repr

inductive Netlink where
  | noSocket
  | refused
  | acknowledged
  /-- `mnl_socket_recvfrom` failed: the buffer still holds the request. -/
  | noAnswer (carriedOut : Bool)
  deriving DecidableEq, Repr

structure TunAnswers where
  /-- negative when `/dev/net/tun` cannot be opened -/
  fd : Int
  tunSetIff : Bool
  siocSifMtu : Bool
  siocSifFlags : Bool

structure GreSocketAnswers where
  fd : Int
  soRcvTimeo : Bool
  soAttachFilter : Bool

structure ClientAnswers where
  pipe : Bool
  /-- -1 when it fails -/
  fork : Int
  /-- what the status word holds before `waitpid` -/
  uninitialized : BitVec 32
  /-- the status, when `waitpid` writes one -/
  waitpid : Option (BitVec 32)
  /-- `none` when `read` fails -/
  read : Option (List Byte)

structure PthreadCreate where
  started : Bool
  handle : BitVec 64

structure Answers where
  getPrimaryIp6 : Bytes 16 → In6Addr
  sendmsg : Message → Bool
  uptime : Reading → Timeval
  netlink : Netlink
  tun : TunAnswers
  greSocket : GreSocketAnswers
  gre2tunThread : PthreadCreate
  tun2greThread : PthreadCreate
  kill : Int → Bool
  udhcpc : ClientAnswers
  udhcpc6 : ClientAnswers
  inetPton : List Byte → Option (Bytes 4)
  inetPton6 : List Byte → Option In6Addr
  /-- a signal that came in since the last execution -/
  signal : Option Int

def triggerEvent (name : EventName) (process : Process) : Process :=
  if process.runtime.eventScriptPath 0 = 0 then process else process.emit (.event name)

def Runtime.scripted (runtime : Runtime) : Bool := decide (runtime.eventScriptPath 0 ≠ 0)

end OpenHybrid
