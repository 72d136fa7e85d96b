import OpenHybrid.ExecuteTimers

/-!
# The main loop

`main` of `openhybrid.c` from the end of `read_config` on, one iteration of its endless loop at a
time.
-/

namespace OpenHybrid

open ByteMemory

/-- What `read_config` leaves in `runtime`. -/
structure Config where
  anycastIp : In6Addr
  activeHelloInterval : BitVec 32
  helloRetryTimes : BitVec 32
  bonding : Bool
  logLevel : BitVec 8
  tunnelInterfaceMtu : BitVec 16
  tunnelInterfaceName : Bytes 16
  eventScriptPath : Bytes 128
  reorderBufferTimeout : Timeval
  lteInterfaceName : Bytes 16
  dslInterfaceName : Bytes 16

def Config.runtime (config : Config) : Runtime :=
  { Runtime.zero with
    haap.anycastIp := config.anycastIp
    haap.ip := config.anycastIp
    haap.activeHelloInterval := config.activeHelloInterval
    haap.helloRetryTimes := config.helloRetryTimes
    bonding := config.bonding
    logLevel := config.logLevel
    tunnelInterfaceMtu := config.tunnelInterfaceMtu
    tunnelInterfaceName := config.tunnelInterfaceName
    eventScriptPath := config.eventScriptPath
    reorderBufferTimeout := config.reorderBufferTimeout
    lte.interfaceName := config.lteInterfaceName
    dsl.interfaceName := config.dslInterfaceName }

namespace Main

inductive Recvfrom where
  | failed
  | datagram (saddr : In6Addr) (bytes : List Byte)

/-- What one iteration meets: the socket, the clock inside a message handler, and what the timers
are answered. -/
structure Input where
  recvfrom : Recvfrom
  uptime : Nat → Timeval
  answers : Answers

structure State where
  process : Process
  buffer : Memory

def State.initial (config : Config) (buffer : Memory) : State where
  process := ⟨config.runtime, 0, 0, false, []⟩
  buffer := buffer

/-- `recvfrom` and, if the sender is the HAAP, `process_grecpmessage`. -/
def receive (state : State) (input : Input) : State :=
  match input.recvfrom with
  | .failed => state
  | .datagram saddr bytes =>
      let buffer := received state.buffer bytes
      if saddr ≠ state.process.runtime.haap.ip then { state with buffer := buffer }
      else
        { process := { state.process with
            runtime := processGrecpmessage buffer (min bytes.length maxPktSize) input.uptime
              state.process.runtime }
          buffer := buffer }

/-- One iteration. The effects in the new state are its own. -/
def iteration (state : State) (input : Input) : State :=
  let state := receive state input
  { state with process := executeTimers input.answers { state.process with effects := [] } }

def handled (state : State) (input : Input) : Option (Msgtype × Byte) :=
  match input.recvfrom with
  | .failed => none
  | .datagram saddr bytes =>
      if saddr ≠ state.process.runtime.haap.ip then none
      else dispatch state.process.runtime.haap.bondingKey (received state.buffer bytes)

/-- What an iteration shows: the message that was handled, the state in which the handler left
everything to the timers, and what these did. -/
structure Output where
  handled : Option (Msgtype × Byte)
  received : State
  effects : List Effect

/-- The loop goes on until the process exits. -/
def Step (state : State) (input : Input) (output : Output) (next : State) : Prop :=
  state.process.exited = false ∧ next = iteration state input ∧
    output = ⟨handled state input, receive state input, next.process.effects⟩

end Main

end OpenHybrid
