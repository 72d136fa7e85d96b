import OpenHybrid.Dhcp

/-!
# The configuration file

`read_config` of `config.c`. Messages that are only logged leave nothing behind; a fatal one is the
result, since `logger` does not return from it. Lines are shorter than the 2^31 bytes `int read` can
count.
-/

namespace OpenHybrid

open ByteMemory

/-! ### Lines -/

/-- What successive calls of `getline` return, without the newlines. -/
def getlines (file : List Byte) : List (List Byte) :=
  let lines := file.splitOn newline
  if lines.getLast? = some [] then lines.dropLast else lines

/-- The settings, in the order they are asked for. -/
inductive ConfigKey where
  | haapAnycastIp
  | lteInterface
  | dslInterface
  | tunnelInterface
  | bonding
  | logLevel
  | tunnelInterfaceMtu
  | activeHelloInterval
  | helloRetryTimes
  | eventScriptPath
  | reorderBufferTimeout
  deriving DecidableEq, Repr

def ConfigKey.all : List ConfigKey :=
  [.haapAnycastIp, .lteInterface, .dslInterface, .tunnelInterface, .bonding, .logLevel,
    .tunnelInterfaceMtu, .activeHelloInterval, .helloRetryTimes, .eventScriptPath,
    .reorderBufferTimeout]

/-- What `strncmp` compares the start of a line with. -/
def ConfigKey.compared : ConfigKey → List Byte
  | .haapAnycastIp => ascii "haap anycast ip ="
  | .lteInterface => ascii "lte interface ="
  | .dslInterface => ascii "dsl interface ="
  | .tunnelInterface => ascii "tunnel interface ="
  | .bonding => ascii "bonding ="
  | .logLevel => ascii "log level ="
  -- 19 of the 22 characters count
  | .tunnelInterfaceMtu => (ascii "tunnel interface mtu =").take 19
  | .activeHelloInterval => ascii "active hello interval ="
  | .helloRetryTimes => ascii "hello retry times ="
  | .eventScriptPath => ascii "event script path ="
  | .reorderBufferTimeout => ascii "reorder buffer timeout ="

def commentSign : Byte := 35#8

def equalsSign : Byte := 61#8

/-- The value starts two characters behind the start of the first `=`, if the line goes on. -/
def lineValue (text : List Byte) : Option (List Byte) :=
  let value := text.dropWhile (· ≠ equalsSign)
  if 2 < value.length then some (value.drop 2) else none

def lineSetting (line : List Byte) : Option (ConfigKey × List Byte) :=
  let text := cString line
  if text.head? = some commentSign then none
  else
    (lineValue text).bind fun value =>
      (ConfigKey.all.find? fun key => key.compared.isPrefixOf text).map fun key => (key, value)

/-! ### Values -/

def ifNamesize : Nat := 16

def eventScriptPathSize : Nat := 128

def tunnelInterfaceNameOffset : Nat := 63

def eventScriptPathOffset : Nat := 100

def lteInterfaceNameOffset : Nat := 312

def dslInterfaceNameOffset : Nat := 392

def textMemory (text : List Byte) : Memory := fun i => text.getD i 0

def copyText (offset : Nat) (text : List Byte) (runtime : Runtime) : Runtime :=
  runtime.memcpy offset (textMemory text) text.length

def storeName (fatal : String) (offset : Nat) (cleared : Runtime) (value : List Byte) :
    Except String Runtime :=
  if ifNamesize - 1 ≤ value.length then .error fatal
  else .ok (copyText offset value cleared)

def logNone : BitVec 8 := 0

def logFatal : BitVec 8 := 1

def logError : BitVec 8 := 2

def logWarning : BitVec 8 := 3

def logInfo : BitVec 8 := 4

def logDebug : BitVec 8 := 5

def logCrazydebug : BitVec 8 := 6

def storeLogLevel (value : List Byte) (runtime : Runtime) : Runtime :=
  let runtime := if value = ascii "none" then { runtime with logLevel := logNone } else runtime
  let runtime := if value = ascii "error" then { runtime with logLevel := logError } else runtime
  if value = ascii "critical" then { runtime with logLevel := logFatal }
  else if value = ascii "warning" then { runtime with logLevel := logWarning }
  else if value = ascii "info" then { runtime with logLevel := logInfo }
  else if value = ascii "debug" then { runtime with logLevel := logDebug }
  else if value = ascii "crazydebug" then { runtime with logLevel := logCrazydebug }
  else runtime

variable (inetPton6 : List Byte → Option In6Addr)

def ConfigKey.store (value : List Byte) (runtime : Runtime) : ConfigKey → Except String Runtime
  | .haapAnycastIp =>
      .ok { runtime with haap.anycastIp := (inetPton6 value).getD runtime.haap.anycastIp }
  | .lteInterface =>
      storeName "Maximum length for 'lte interface' config is 15.\n" lteInterfaceNameOffset
        { runtime with lte.interfaceName := fun _ => 0 } value
  | .dslInterface =>
      storeName "Maximum length for 'dsl interface' config is 15.\n" dslInterfaceNameOffset
        { runtime with dsl.interfaceName := fun _ => 0 } value
  | .tunnelInterface =>
      storeName "Maximum length for 'tunnel interface' config is 15.\n" tunnelInterfaceNameOffset
        { runtime with tunnelInterfaceName := fun _ => 0 } value
  | .bonding => .ok (if value = ascii "true" then { runtime with bonding := true } else runtime)
  | .logLevel => .ok (storeLogLevel value runtime)
  | .tunnelInterfaceMtu =>
      if atoi value < 1280 then
        .error "Minimum size for 'gre interface mtu' config is 1280.\n"
      else if 1448 < atoi value then
        .error "Maximum size for 'gre interface mtu' config is 1448.\n"
      else .ok { runtime with tunnelInterfaceMtu := BitVec.ofInt 16 (atoi value) }
  | .activeHelloInterval =>
      .ok { runtime with haap.activeHelloInterval := BitVec.ofInt 32 (atoi value) }
  | .helloRetryTimes =>
      .ok { runtime with haap.helloRetryTimes := BitVec.ofInt 32 (atoi value) }
  | .eventScriptPath =>
      .ok (copyText eventScriptPathOffset value { runtime with eventScriptPath := fun _ => 0 })
  | .reorderBufferTimeout =>
      .ok { runtime with
        reorderBufferTimeout := ⟨(atoi value).tdiv 1000, (atoi value).tmod 1000 * 1000⟩ }

def configLine (runtime : Runtime) (line : List Byte) : Except String Runtime :=
  match lineSetting line with
  | none => .ok runtime
  | some (key, value) => key.store inetPton6 value runtime

/-! ### The file -/

def defaultsBefore (runtime : Runtime) : Runtime :=
  let runtime := { runtime with logLevel := logInfo }
  let runtime := copyText lteInterfaceNameOffset (ascii "wwan0") runtime
  let runtime := copyText dslInterfaceNameOffset (ascii "ppp0") runtime
  { runtime with reorderBufferTimeout.tvUsec := 250 * 1000 }

def defaultAnycastIp (runtime : Runtime) : Runtime :=
  if runtime.haap.anycastIp = in6addrAny then
    { runtime with
      haap.anycastIp := (inetPton6 (ascii "2003:6::1")).getD runtime.haap.anycastIp }
  else runtime

def defaultTunnelInterfaceName (runtime : Runtime) : Runtime :=
  if runtime.tunnelInterfaceName 0 = 0 then
    copyText tunnelInterfaceNameOffset (if runtime.bonding then ascii "tun0" else ascii "gre1")
      runtime
  else runtime

/-- 1500 - ipv6 header (40) - gre header (12), and - pppoe header (8) for bonding. -/
def defaultTunnelInterfaceMtu (runtime : Runtime) : Runtime :=
  if runtime.tunnelInterfaceMtu = 0 then
    { runtime with tunnelInterfaceMtu := if runtime.bonding then 1448 - 8 else 1448 }
  else runtime

def defaultsBehind (runtime : Runtime) : Runtime :=
  let runtime := defaultTunnelInterfaceName (defaultAnycastIp inetPton6 runtime)
  defaultTunnelInterfaceMtu { runtime with haap.ip := runtime.haap.anycastIp }

/-- `read_config` of a file with these bytes, or of one that cannot be opened. -/
def readConfig (file : Option (List Byte)) (runtime : Runtime) : Except String Runtime :=
  match file with
  | none => .error "Reading config file failed"
  | some file => do
      let runtime ← (getlines file).foldlM (configLine inetPton6) (defaultsBefore runtime)
      pure (defaultsBehind inetPton6 runtime)

end OpenHybrid
