import OpenHybrid.Event
import OpenHybrid.Lib.Bpf

/-!
# Tunnel devices and sockets

`tundev.c`, and the BPF programs that `open_grecp_socket` and `open_gre_socket` attach to their
sockets.
-/

namespace OpenHybrid

open Bpf

def grecpSocketFilter : List Insn :=
  [.ldHalf 2, .jeq (grecpProto.setWidth 32) 0 1, .ret (BitVec.allOnes 32), .ret 0]

/-- The program of `open_gre_socket`: data messages that carry the bonding key. -/
def greSocketFilter (bondingKey : BitVec 32) : List Insn :=
  [.ldWord 4, .jeq bondingKey 0 4, .ldHalf 2, .jeq (ethertypeIp.setWidth 32) 1 0,
    .jeq (ethertypeIpv6.setWidth 32) 0 1, .ret (BitVec.allOnes 32), .ret 0]

theorem setWidth_half_inj {left right : BitVec 16} :
    left.setWidth 32 = right.setWidth 32 ↔ left = right := by
  constructor
  · intro hwide
    have hnat := congrArg BitVec.toNat hwide
    have hleft := left.isLt
    have hright := right.isLt
    apply BitVec.eq_of_toNat_eq
    rw [BitVec.toNat_setWidth, BitVec.toNat_setWidth] at hnat
    omega
  · exact fun heq => congrArg _ heq

/-- The filter passes control messages and nothing else. -/
theorem accepts_grecpSocketFilter_iff {packet : List ByteMemory.Byte} :
    Accepts grecpSocketFilter packet ↔ 4 ≤ packet.length ∧ halfAt packet 2 = grecpProto := by
  by_cases hlength : 4 ≤ packet.length
  · by_cases hproto : halfAt packet 2 = grecpProto <;>
      simp [Accepts, grecpSocketFilter, exec, hlength, hproto, setWidth_half_inj]
  · simp [Accepts, grecpSocketFilter, exec, hlength]

/-- What passes is long enough for its key and carries the right one over IPv4 or IPv6. -/
theorem accepts_greSocketFilter_iff {bondingKey : BitVec 32} {packet : List ByteMemory.Byte} :
    Accepts (greSocketFilter bondingKey) packet ↔
      8 ≤ packet.length ∧ wordAt packet 4 = bondingKey ∧
        (halfAt packet 2 = ethertypeIp ∨ halfAt packet 2 = ethertypeIpv6) := by
  by_cases hlength : 8 ≤ packet.length
  · have hhalf : 4 ≤ packet.length := by omega
    by_cases hkey : wordAt packet 4 = bondingKey
    · by_cases hip : halfAt packet 2 = ethertypeIp
      · simp [Accepts, greSocketFilter, exec, hlength, hhalf, hkey, hip]
      · have hne : ethertypeIpv6 ≠ ethertypeIp := by decide
        by_cases hipv6 : halfAt packet 2 = ethertypeIpv6 <;>
          simp [Accepts, greSocketFilter, exec, hlength, hhalf, hkey, hip, hipv6, hne,
            setWidth_half_inj]
    · simp [Accepts, greSocketFilter, exec, hlength, hkey]
  · simp [Accepts, greSocketFilter, exec, hlength]

/-! ### Tunnel devices -/

variable (answers : Answers)

def createGreTunnelDev (process : Process) : Bool × Process :=
  let device : GreDevice := {
    name := process.runtime.tunnelInterfaceName
    mtu := process.runtime.tunnelInterfaceMtu
    localIp := process.runtime.lte.interfaceIp
    remoteIp := process.runtime.haap.ip
    inputKey := htonl process.runtime.haap.bondingKey
    outputKey := htonl process.runtime.haap.bondingKey }
  match answers.netlink with
  | .noSocket | .refused => (false, process)
  | .acknowledged => (true, triggerEvent .tunnelup (process.emit (.greDeviceCreated device)))
  | .noAnswer carriedOut =>
      (true, triggerEvent .tunnelup
        (if carriedOut then process.emit (.greDeviceCreated device) else process))

/-- `destroy_gre_tunnel_dev`, which returns true when it has no socket. -/
def destroyGreTunnelDev (process : Process) : Bool × Process :=
  match answers.netlink with
  | .noSocket => (true, process)
  | .refused => (false, process)
  | .acknowledged => (true, triggerEvent .tunneldown (process.emit .greDeviceDestroyed))
  | .noAnswer carriedOut =>
      (true, triggerEvent .tunneldown
        (if carriedOut then process.emit .greDeviceDestroyed else process))

def createTunTunnelDev (process : Process) : Bool × Process :=
  let process := { process with sockfdTun := answers.tun.fd }
  if answers.tun.fd < 0 then (false, process)
  else if !answers.tun.tunSetIff then (false, process.emit (.tunDeviceClosed answers.tun.fd))
  else
    let device : TunDevice := {
      name := process.runtime.tunnelInterfaceName
      mtu := if answers.tun.siocSifMtu then some process.runtime.tunnelInterfaceMtu else none
      up := answers.tun.siocSifFlags }
    (true, triggerEvent .tunnelup (process.emit (.tunDeviceCreated device)))

/-- `destroy_tun_tunnel_dev`, which returns false whatever happens. -/
def destroyTunTunnelDev (process : Process) : Bool × Process :=
  (false, triggerEvent .tunneldown (process.emit (.tunDeviceClosed process.sockfdTun)))

def createTunnelDev (process : Process) : Bool × Process :=
  if process.runtime.bonding then createTunTunnelDev answers process
  else createGreTunnelDev answers process

def destroyTunnelDev (process : Process) : Bool × Process :=
  if process.runtime.bonding then destroyTunTunnelDev process
  else destroyGreTunnelDev answers process

/-! ### The data socket -/

/-- `open_gre_socket`. A socket that cannot be opened or configured is fatal. -/
def openGreSocket (process : Process) : Process :=
  let process := { process with sockfdGre := answers.greSocket.fd }
  if answers.greSocket.fd < 0 then process.exit false
  else if !answers.greSocket.soRcvTimeo then process.exit false
  else
    process.emit (.greSocketOpened answers.greSocket.fd
      (if answers.greSocket.soAttachFilter then some process.runtime.haap.bondingKey else none))

def closeGreSocket (process : Process) : Process :=
  process.emit (.greSocketClosed process.sockfdGre)

end OpenHybrid
