import OpenHybrid.DhcpScript
import OpenHybrid.Proof.ClientOutput
import OpenHybrid.Proof.Startup

/-!
# The journey of a lease

A DHCP client hands a lease to its script, the script prints it, the program parses what was printed
and prints it anew, and the event script reads it. What arrives is what the client was given.
-/

namespace OpenHybrid

open ByteMemory Frame Transition

variable {answers : Answers} {process : Process} {output : List Byte} {lease : LeaseVariables}
  {keys lines : List (List Byte)}

namespace Main

variable {inetPton6 : List Byte → Option In6Addr} {configured : Runtime} {file : List Byte}
  {buffer : Memory} {history : History Input Output} {state : State} {input : Input}

end Main

end OpenHybrid
